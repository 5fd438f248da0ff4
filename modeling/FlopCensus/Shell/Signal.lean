set_option autoImplicit false
set_option relaxedAutoImplicit false

/-!
# Signals

## Main definitions

* `FlopCensus.Shell.signalNumber?`: the number of a signal that is named or numbered.
* `FlopCensus.Shell.signalText?`: what a shell says of a program that a signal ended.
-/

namespace FlopCensus.Shell

/-- The names of the signals from number one on. -/
def signalNames : List String :=
  ["HUP", "INT", "QUIT", "ILL", "TRAP", "ABRT", "BUS", "FPE", "KILL", "USR1", "SEGV", "USR2",
    "PIPE", "ALRM", "TERM", "STKFLT", "CHLD", "CONT", "STOP", "TSTP", "TTIN", "TTOU", "URG", "XCPU", "XFSZ",
    "VTALRM", "PROF", "WINCH", "IO", "PWR", "SYS"]

/-- The number of a signal that is named or numbered. -/
def signalNumber? (s : List Char) : Option Nat :=
  if !s.isEmpty && s.all (·.isDigit) then
    let n := s.foldl (fun n c => 10 * n + (c.toNat - 48)) 0
    if n ≤ 64 then some n else none
  else (signalNames.idxOf? ((String.ofList s).toUpper)).map (· + 1)

/-- The name of a signal that can have a script; the end of the shell counts as one. -/
def trapName? (s : List Char) : Option String :=
  match s with
  | ['0'] | ['E', 'X', 'I', 'T'] => some "EXIT"
  | s => (signalNumber? s).bind fun n => signalNames[n - 1]?

/-- The signals that end nothing. -/
def isHarmless (n : Nat) : Bool :=
  n == 0 || n == 17 || n == 18 || n == 23 || n == 28

/-- The signals that stop a program for good. -/
def isStopping (n : Nat) : Bool :=
  19 ≤ n && n ≤ 22

/-- What a shell says of a program that a signal ended. -/
def signalText? (n : Nat) : Option String :=
  match n with
  | 1 => some "Hangup"
  | 3 => some "Quit"
  | 4 => some "Illegal instruction"
  | 5 => some "Trace/breakpoint trap"
  | 6 => some "Aborted"
  | 7 => some "Bus error"
  | 8 => some "Floating point exception"
  | 9 => some "Killed"
  | 10 => some "User defined signal 1"
  | 11 => some "Segmentation fault"
  | 12 => some "User defined signal 2"
  | 14 => some "Alarm clock"
  | 15 => some "Terminated"
  | 16 => some "Stack fault"
  | 24 => some "CPU time limit exceeded"
  | 25 => some "File size limit exceeded"
  | 26 => some "Virtual timer expired"
  | 27 => some "Profiling timer expired"
  | 29 => some "I/O possible"
  | 30 => some "Power failure"
  | 31 => some "Bad system call"
  | _ => none

end FlopCensus.Shell
