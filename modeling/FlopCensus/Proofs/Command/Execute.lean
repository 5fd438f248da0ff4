import FlopCensus.Command.Execute
import FlopCensus.Proofs.Command.Lookup

set_option autoImplicit false
set_option relaxedAutoImplicit false

/-!
# What comes of a call

A call tries the paths of its command one after the other, until there is one that can be run. One
that runs nothing leaves the host as it was, and its error is about the command or the directory. One
that runs something has an output if everything has ended before the deadline.

What a command does when it is run is not looked into.

## Main definitions

* `FlopCensus.Command.start` — what comes of running a file.
* `FlopCensus.Command.Refused` — files that cannot be run, one after the other.
* `FlopCensus.Command.verdict` — the cause that counts when no file can be run.
* `FlopCensus.FileSystem.refusal?` — why a file cannot be run, if that can be seen from the files.
* `FlopCensus.Host.Ends` — the ways in which a call can end.

## Main results

* `FlopCensus.Command.tryAll_of_refused`, `FlopCensus.Command.tryAll_of_started`,
  `FlopCensus.Command.refused_or_started` — what comes of trying paths.
* `FlopCensus.Host.ends_iff` — how a call ends.
* `FlopCensus.Host.outcome_eq_ok_iff` — when a call has an output.
* `FlopCensus.Host.host_of_not_late` — calls that leave the host as it was.
* `FlopCensus.Host.outcome_of_refused` — the error of a call without a file that can be run.
* `FlopCensus.Host.outcome_of_which_eq_none`, `FlopCensus.Host.outcome_of_no_file` — a command that
  is not found is not run.
* `FlopCensus.Host.run_eq` — what a call tells.
-/

namespace FlopCensus

namespace Command

variable {words : List (List Char)} {m m' : Shell.Machine} {path : String}
  {paths front back : List String} {cause : Files.Cause} {causes : List Files.Cause}

/-! ### Trying paths -/

/-- What comes of running a file, and the machine afterwards. -/
def start (words : List (List Char)) (path : String) (m : Shell.Machine) :
    Except Shell.Stop Shell.Outcome × Shell.Machine :=
  (Shell.perform nesting (.program path words)).run.run m

/-- Files that cannot be run, one after the other, with the causes. -/
inductive Refused (words : List (List Char)) :
    Shell.Machine → List String → List Files.Cause → Shell.Machine → Prop
  /-- Nothing is tried. -/
  | nil (m : Shell.Machine) : Refused words m [] [] m
  /-- A file cannot be run, and others behind it cannot either. -/
  | cons {m m' m'' : Shell.Machine} {path : String} {paths : List String} {cause : Files.Cause}
      {causes : List Files.Cause} (first : start words path m = (.ok (.failed cause), m'))
      (rest : Refused words m' paths causes m'') :
      Refused words m (path :: paths) (cause :: causes) m''

/-- The cause is that there is no such file. -/
def isMissing (cause : Files.Cause) : Bool :=
  cause == .notFound || cause == .notDirectory

/-- The cause that counts when no file can be run: the first one that is not a missing file, or else
the last one. -/
def verdict (causes : List Files.Cause) : Files.Cause :=
  (causes.find? (!isMissing ·)).getD (causes.getLast?.getD .notFound)

/-- Missing files alone make a missing file of the whole. -/
lemma verdict_of_forall_eq (h : ∀ cause ∈ causes, cause = .notFound) :
    verdict causes = .notFound := by
  have hnone : causes.find? (!isMissing ·) = none :=
    List.find?_eq_none.2 fun cause hcause => by rw [h cause hcause]; decide
  unfold verdict
  rw [hnone, Option.getD_none]
  cases hlast : causes.getLast? with
  | none => rfl
  | some cause => exact h cause (List.mem_of_getLast? hlast)

/-- What comes of two steps of a run. -/
lemma run_bind {α β : Type} (act : Shell.Run α) (f : α → Shell.Run β) (m : Shell.Machine) :
    (act >>= f).run.run m =
      match act.run.run m with
      | (.ok a, m') => (f a).run.run m'
      | (.error stop, m') => (.error stop, m') := by
  change (ExceptT.bindCont f (act.run.run m).1).run (act.run.run m).2 = _
  obtain ⟨r, m'⟩ := act.run.run m
  cases r <;> rfl

/-- A path that cannot be run is passed over. -/
lemma tryAll_cons_of_failed (h : start words path m = (.ok (.failed cause), m'))
    (kept : Option Files.Cause) (last : Files.Cause) (rest : List String) :
    (tryAll words kept last (path :: rest)).run.run m =
      (tryAll words (if isMissing cause then kept else kept <|> some cause) cause rest).run.run
        m' := by
  unfold start at h
  rw [tryAll, run_bind, h]
  rfl

/-- A path that can be run is the last one that is tried. -/
lemma tryAll_cons_of_started {result : Except Shell.Stop Shell.Outcome}
    (h : start words path m = (result, m')) (hresult : ∀ cause, result ≠ .ok (.failed cause))
    (kept : Option Files.Cause) (last : Files.Cause) (rest : List String) :
    (tryAll words kept last (path :: rest)).run.run m = (result, m') := by
  unfold start at h
  rw [tryAll, run_bind, h]
  cases result with
  | error stop => rfl
  | ok outcome =>
    cases outcome with
    | failed cause => exact absurd rfl (hresult cause)
    | status n => rfl
    | signal n => rfl

/-- Files that cannot be run are passed over; the first cause that is not a missing file is kept. -/
lemma Refused.tryAll_append (h : Refused words m front causes m') (kept : Option Files.Cause)
    (last : Files.Cause) (back : List String) :
    (tryAll words kept last (front ++ back)).run.run m =
      (tryAll words (kept.or (causes.find? (!isMissing ·))) (causes.getLast?.getD last)
        back).run.run m' := by
  induction h generalizing kept last with
  | nil m => rw [List.find?_nil, Option.or_none]; rfl
  | @cons m m' m'' path paths cause causes first rest ih =>
    rw [List.cons_append, tryAll_cons_of_failed first, ih, List.find?_cons, List.getLast?_cons]
    cases isMissing cause with
    | true => rfl
    | false => cases kept <;> rfl

/-- **If no path can be run** there is a cause for it: the first that is not a missing file, or else
that of the last path. -/
theorem tryAll_of_refused (h : Refused words m paths causes m') :
    (tryAll words none .notFound paths).run.run m = (.ok (.failed (verdict causes)), m') := by
  have hall := h.tryAll_append none .notFound []
  rw [List.append_nil] at hall
  exact hall

/-- **The first path that can be run** is run, and no other. -/
theorem tryAll_of_started (h : Refused words m front causes m')
    (hstarted : ∀ cause, (start words path m').1 ≠ .ok (.failed cause)) :
    (tryAll words none .notFound (front ++ path :: back)).run.run m = start words path m' := by
  rw [h.tryAll_append]
  exact tryAll_cons_of_started rfl hstarted _ _ _

/-- Either no path can be run, or there is a first one that can. -/
theorem refused_or_started (words : List (List Char)) (paths : List String) (m : Shell.Machine) :
    (∃ causes m', Refused words m paths causes m') ∨
      ∃ front path back causes m', paths = front ++ path :: back ∧
        Refused words m front causes m' ∧
        ∀ cause, (start words path m').1 ≠ .ok (.failed cause) := by
  induction paths generalizing m with
  | nil => exact .inl ⟨[], m, .nil m⟩
  | cons path paths ih =>
    by_cases hfirst : ∃ cause, (start words path m).1 = .ok (.failed cause)
    · obtain ⟨cause, hcause⟩ := hfirst
      have hstart : start words path m = (.ok (.failed cause), (start words path m).2) :=
        Prod.ext hcause rfl
      rcases ih (start words path m).2 with
        ⟨causes, m', hrest⟩ | ⟨front, path', back, causes, m', rfl, hrest, hstarted⟩
      · exact .inl ⟨_, m', .cons hstart hrest⟩
      · exact .inr ⟨path :: front, path', back, _, m', rfl, .cons hstart hrest, hstarted⟩
    · exact .inr ⟨[], path, paths, [], m, rfl, .nil m, fun cause h => hfirst ⟨cause, h⟩⟩

end Command

/-! ### Files that cannot be run -/

/-- Why a file cannot be run, if that can be seen from the files: there is no way to it, or it is no
regular file that may be run. -/
def FileSystem.refusal? (fs : FileSystem) (path : String) : Option Files.Cause :=
  match fs.find path with
  | .error cause => some cause
  | .ok (.regular _ true) => none
  | .ok _ => some .denied

/-- A file that can be run is not refused, and every other one is. -/
lemma FileSystem.refusal?_eq_none_iff {fs : FileSystem} {path : String} :
    fs.refusal? path = none ↔ fs.isExecutable path := by
  unfold refusal? isExecutable
  split
  · rename_i hfind
    simp [hfind]
  · rename_i hfind
    simp [hfind]
  · rename_i f hno hfind
    rw [hfind]
    cases f with
    | regular content executable =>
      cases executable with
      | true => exact absurd rfl (hno content)
      | false => simp
    | link target => simp
    | directory readable entries => simp

namespace Command

variable {words : List (List Char)} {m : Shell.Machine} {path : String} {paths : List String}
  {cause : Files.Cause}

/-- Running a file that is refused changes nothing. -/
lemma start_of_refusal (h : m.files.refusal? path = some cause) :
    start words path m = (.ok (.failed cause), m) := by
  change (Shell.runFile (Shell.perform (nesting - 1)) path words 0).run.run m = _
  have hget : (get : Shell.Run Shell.Machine).run.run m = (.ok m, m) := rfl
  unfold FileSystem.refusal? at h
  rw [Shell.runFile, run_bind, hget]
  dsimp only
  cases hfind : m.files.find path with
  | error c =>
    rw [hfind] at h
    obtain rfl := Option.some.inj h
    rfl
  | ok f =>
    rw [hfind] at h
    cases f with
    | regular content executable =>
      cases executable with
      | true => cases h
      | false =>
        obtain rfl := Option.some.inj h
        rfl
    | link target =>
      obtain rfl := Option.some.inj h
      rfl
    | directory readable entries =>
      obtain rfl := Option.some.inj h
      rfl

/-- Files that are refused are tried in vain. -/
lemma refused_of_refusals (h : ∀ path ∈ paths, (m.files.refusal? path).isSome) :
    Refused words m paths (paths.filterMap m.files.refusal?) m := by
  induction paths with
  | nil => exact .nil m
  | cons path paths ih =>
    obtain ⟨cause, hcause⟩ := Option.isSome_iff_exists.1 (h path List.mem_cons_self)
    rw [List.filterMap_cons, hcause]
    exact .cons (start_of_refusal hcause) (ih fun p hp => h p (List.mem_cons_of_mem _ hp))

/-! ### The parts of a call -/

/-- The texts that a call hands to the system. -/
def Call.texts (c : Call) : List String :=
  c.command :: c.arguments ++ c.directory.toList

/-- No text of the call holds the character that ends a text for the system. -/
def Call.IsSendable (c : Call) : Prop :=
  ∀ text ∈ c.texts, '\x00' ∉ text.toList

/-- A call is sent if no text of it holds the character. -/
lemma Call.isSendable_iff {c : Call} :
    c.IsSendable ↔
      (c.command :: c.arguments ++ c.directory.toList).any (·.toList.contains '\x00') = false := by
  simp only [IsSendable, texts, List.any_eq_false, List.contains_iff_mem]

/-- The error of a call whose command has not ended at the deadline. -/
def Call.lateError (c : Call) (limit : Numeral.Number) : Error :=
  match deadline limit with
  | .error e => .limit e
  | .ok _ => .timedOut (limit.write.toOption.getD "") c.command

/-- The code of a command that has ended; one that was not run has none. -/
def codeOf? : Shell.Outcome → Option Int
  | .status n => some n
  | .signal n => some (-n)
  | .failed _ => none

/-- What a command has written when it ends with a code. -/
def outputOf (m : Shell.Machine) (code : Int) : ToolOutput where
  exitCode := code
  stdout := outputText ((m.sinks[0]?.getD []).reverse)
  stderr := outputText ((m.sinks[1]?.getD []).reverse)

/-- The time at which everything has ended that a command started. -/
def endOf (m : Shell.Machine) : Nat :=
  max m.elapsed m.horizon

/-- What a call has for its outcome when its command has ended with a code. -/
def Call.judged (c : Call) (limit : Numeral.Number) (m : Shell.Machine) (code : Int) :
    Except Error ToolOutput :=
  if ((deadline limit).toOption.getD 0) ≤ endOf m then .error (c.lateError limit)
  else .ok (outputOf m code)

/-- **An output comes before the deadline.** There has to be one, so a limit that cannot be kept
never has an output. -/
lemma Call.judged_eq_ok_iff {c : Call} {limit : Numeral.Number} {code : Int} {o : ToolOutput} :
    c.judged limit m code = .ok o ↔
      (∃ d, deadline limit = .ok d ∧ endOf m < d) ∧ o = outputOf m code := by
  unfold judged
  cases deadline limit with
  | error e => simp [Except.toOption]
  | ok d =>
    by_cases hlate : d ≤ endOf m
    · simp [Except.toOption, hlate]
    · simp [Except.toOption, hlate, Nat.lt_of_not_le hlate, eq_comm]

/-- A command that has ended after the deadline is late. -/
lemma Call.judged_eq_error {c : Call} {limit : Numeral.Number} {code : Int} {e : Error}
    (h : c.judged limit m code = .error e) : e = c.lateError limit := by
  unfold judged at h
  split at h
  · exact (Except.error.inj h).symm
  · cases h

end Command

/-! ### Calls -/

namespace Host

open Command

variable {h inside : Host} {c : Call} {limit : Numeral.Number} {e : Error} {o : ToolOutput}

/-- What comes of trying the paths of a command inside its directory, and the machine
afterwards. -/
def tried (inside : Host) (c : Call) (limit : Numeral.Number) :
    Except Shell.Stop Shell.Outcome × Shell.Machine :=
  (tryAll ((c.command :: c.arguments).map Text.octets) none .notFound
    (inside.pathsOf c.command)).run.run
      (machineFor inside ((deadline limit).toOption.getD leastTime))

/-- The host with the files as a command leaves them. -/
def leftBy (h : Host) (m : Shell.Machine) : Host :=
  { h with files := m.files.backTo h.files }

/-- The ways in which a call can end, with what it has for its outcome and the host afterwards. -/
inductive Ends (h : Host) (c : Call) (limit : Numeral.Number) :
    Except Error ToolOutput × Host → Prop
  /-- The call cannot be sent. -/
  | unsendable (hc : ¬c.IsSendable) : Ends h c limit (.error (.file ⟨.nullByte, c.command⟩), h)
  /-- The directory cannot be entered. -/
  | shut (hc : c.IsSendable) {e : Files.Error} (henter : h.enter c.directory = .error e) :
      Ends h c limit (.error (errorOf c.command e.path e.cause), h)
  /-- No file of the command can be run. -/
  | failed (hc : c.IsSendable) {inside : Host} {cause : Files.Cause} {m : Shell.Machine}
      (henter : h.enter c.directory = .ok inside)
      (htried : inside.tried c limit = (.ok (.failed cause), m)) :
      Ends h c limit (.error (errorOf c.command c.command cause), h)
  /-- The command ends. -/
  | ended (hc : c.IsSendable) {inside : Host} {ending : Shell.Outcome} {m : Shell.Machine}
      {code : Int} (henter : h.enter c.directory = .ok inside)
      (htried : inside.tried c limit = (.ok ending, m)) (hcode : codeOf? ending = some code) :
      Ends h c limit (c.judged limit m code, h.leftBy m)
  /-- The command does not end by itself. -/
  | stopped (hc : c.IsSendable) {inside : Host} {stop : Shell.Stop} {m : Shell.Machine}
      (henter : h.enter c.directory = .ok inside)
      (htried : inside.tried c limit = (.error stop, m)) :
      Ends h c limit (.error (c.lateError limit), h.leftBy m)

/-- A call that cannot be sent. -/
lemma outcome_of_not_isSendable (hc : ¬c.IsSendable) :
    h.outcome c limit = (.error (.file ⟨.nullByte, c.command⟩), h) := by
  rw [Call.isSendable_iff, Bool.not_eq_false] at hc
  exact if_pos hc

/-- A call whose directory cannot be entered. -/
lemma outcome_of_shut (hc : c.IsSendable) {e : Files.Error}
    (henter : h.enter c.directory = .error e) :
    h.outcome c limit = (.error (errorOf c.command e.path e.cause), h) := by
  unfold outcome
  dsimp only
  rw [if_neg (Bool.eq_false_iff.1 (Call.isSendable_iff.1 hc)), henter]

/-- What comes of a call whose directory can be entered. -/
lemma outcome_of_enter (hc : c.IsSendable) (henter : h.enter c.directory = .ok inside) :
    h.outcome c limit =
      match inside.tried c limit with
      | (.ok (.failed cause), _) => (.error (errorOf c.command c.command cause), h)
      | (.ok (.status n), m) => (c.judged limit m n, h.leftBy m)
      | (.ok (.signal n), m) => (c.judged limit m (-n), h.leftBy m)
      | (.error _, m) => (.error (c.lateError limit), h.leftBy m) := by
  unfold outcome
  dsimp only
  rw [if_neg (Bool.eq_false_iff.1 (Call.isSendable_iff.1 hc)), henter]
  unfold tried Call.judged Call.lateError
  dsimp only
  generalize (tryAll ((c.command :: c.arguments).map Text.octets) none .notFound
    (inside.pathsOf c.command)).run.run
      (machineFor inside ((deadline limit).toOption.getD leastTime)) = found
  obtain ⟨result, m⟩ := found
  cases result with
  | error stop => cases deadline limit <;> rfl
  | ok ending => cases ending <;> cases deadline limit <;> rfl

/-- Every call ends in one of the ways. -/
lemma ends_outcome (h : Host) (c : Call) (limit : Numeral.Number) :
    Ends h c limit (h.outcome c limit) := by
  by_cases hc : c.IsSendable
  · cases henter : h.enter c.directory with
    | error e =>
      rw [outcome_of_shut hc henter]
      exact .shut hc henter
    | ok inside =>
      rw [outcome_of_enter hc henter]
      rcases htried : inside.tried c limit with ⟨result, m⟩
      cases result with
      | error stop => exact .stopped hc henter htried
      | ok ending =>
        cases ending with
        | failed cause => exact .failed hc henter htried
        | status n => exact .ended hc henter htried rfl
        | signal n => exact .ended hc henter htried rfl
  · rw [outcome_of_not_isSendable hc]
    exact .unsendable hc

/-- **How a call ends** is settled by the host, the call and the limit. -/
theorem ends_iff {r : Except Error ToolOutput × Host} :
    Ends h c limit r ↔ h.outcome c limit = r := by
  constructor
  · intro hends
    cases hends with
    | unsendable hc => exact outcome_of_not_isSendable hc
    | shut hc henter => exact outcome_of_shut hc henter
    | failed hc henter htried => rw [outcome_of_enter hc henter, htried]
    | stopped hc henter htried => rw [outcome_of_enter hc henter, htried]
    | @ended hc inside ending m code henter htried hcode =>
      rw [outcome_of_enter hc henter, htried]
      cases ending with
      | failed cause => cases hcode
      | status n => cases hcode; rfl
      | signal n => cases hcode; rfl
  · rintro rfl
    exact ends_outcome h c limit

/-- **When a call has an output**: it can be sent, its directory can be entered, a file of its
command is run, and everything has ended before the deadline. -/
theorem outcome_eq_ok_iff :
    (h.outcome c limit).1 = .ok o ↔
      c.IsSendable ∧ ∃ inside, h.enter c.directory = .ok inside ∧
        ∃ ending m code d, inside.tried c limit = (.ok ending, m) ∧ codeOf? ending = some code ∧
          deadline limit = .ok d ∧ endOf m < d ∧ o = outputOf m code := by
  constructor
  · intro hout
    have hends := ends_outcome h c limit
    generalize h.outcome c limit = r at hends hout
    cases hends with
    | unsendable hc => cases hout
    | shut hc henter => cases hout
    | failed hc henter htried => cases hout
    | stopped hc henter htried => cases hout
    | ended hc henter htried hcode =>
      obtain ⟨⟨d, hd, hin⟩, ho⟩ := Call.judged_eq_ok_iff.1 hout
      exact ⟨hc, _, henter, _, _, _, d, htried, hcode, hd, hin, ho⟩
  · rintro ⟨hc, inside, henter, ending, m, code, d, htried, hcode, hd, hin, ho⟩
    rw [ends_iff.1 (.ended hc henter htried hcode)]
    exact Call.judged_eq_ok_iff.2 ⟨⟨d, hd, hin⟩, ho⟩

/-- **Calls that leave the host as it was.** A call fails because its command is late, or else
nothing was run and the host has not changed. -/
theorem host_of_not_late (hout : (h.outcome c limit).1 = .error e) (he : e ≠ c.lateError limit) :
    (h.outcome c limit).2 = h := by
  have hends := ends_outcome h c limit
  generalize h.outcome c limit = r at hends hout
  cases hends with
  | unsendable hc => rfl
  | shut hc henter => rfl
  | failed hc henter htried => rfl
  | stopped hc henter htried => exact absurd (Except.error.inj hout).symm he
  | ended hc henter htried hcode => exact absurd (Call.judged_eq_error hout) he

/-- **What the error of a call is about**: a command that is late, the command itself, or the
directory if that cannot be entered. -/
theorem error_of_outcome (hout : (h.outcome c limit).1 = .error e) :
    e = c.lateError limit ∨
      (e = .file ⟨.nullByte, c.command⟩ ∧ ¬c.IsSendable) ∨
      ∃ path cause, e = errorOf c.command path cause ∧
        (path = c.command ∨ h.enter c.directory = .error ⟨cause, path⟩) := by
  have hends := ends_outcome h c limit
  generalize h.outcome c limit = r at hends hout
  cases hends with
  | unsendable hc => exact .inr (.inl ⟨(Except.error.inj hout).symm, hc⟩)
  | shut hc henter => exact .inr (.inr ⟨_, _, (Except.error.inj hout).symm, .inr henter⟩)
  | failed hc henter htried => exact .inr (.inr ⟨_, _, (Except.error.inj hout).symm, .inl rfl⟩)
  | stopped hc henter htried => exact .inl (Except.error.inj hout).symm
  | ended hc henter htried hcode => exact .inl (Call.judged_eq_error hout)

/-- A call does not change the variables of the host. -/
theorem environment_outcome (h : Host) (c : Call) (limit : Numeral.Number) :
    (h.outcome c limit).2.environment = h.environment := by
  have hends := ends_outcome h c limit
  generalize h.outcome c limit = r at hends
  cases hends <;> rfl

/-! ### Commands that cannot be run -/

/-- **The error of a call without a file that can be run** is about the first cause that is not a
missing file, or else about the last path. The host is as it was. -/
theorem outcome_of_refused (hc : c.IsSendable) (henter : h.enter c.directory = .ok inside)
    (hpaths : ∀ path ∈ inside.pathsOf c.command, (inside.files.refusal? path).isSome) :
    h.outcome c limit =
      (.error (errorOf c.command c.command
        (verdict ((inside.pathsOf c.command).filterMap inside.files.refusal?))), h) := by
  let m := machineFor inside ((deadline limit).toOption.getD leastTime)
  have htried : inside.tried c limit = (.ok (.failed
      (verdict ((inside.pathsOf c.command).filterMap inside.files.refusal?))), m) :=
    tryAll_of_refused (refused_of_refusals (m := m) hpaths)
  exact ends_iff.1 (.failed hc henter htried)

/-- The paths that a command may have are those at which it is looked for on the search path, unless
that is empty. -/
lemma pathsOf_eq_ownCandidates {command : String} (hpath : h.lookup? "PATH" ≠ some "") :
    h.pathsOf command = h.ownCandidates command := by
  unfold pathsOf ownCandidates
  rw [beq_false_of_ne hpath]
  rfl

/-- **A command that is not found is not run.** What the look-up misses is no command for a call
either, unless the search path is empty: the call then tries the working directory. -/
theorem outcome_of_which_eq_none (hc : c.IsSendable) (hdirectory : c.directory = none)
    (hpath : h.lookup? "PATH" ≠ some "") (hwhich : h.which c.command = none) :
    h.outcome c limit =
      (.error (errorOf c.command c.command
        (verdict ((h.pathsOf c.command).filterMap h.files.refusal?))), h) := by
  rw [which_eq_find?, ← pathsOf_eq_ownCandidates hpath, List.find?_eq_none] at hwhich
  have hself : h.enter c.directory = .ok h := by
    rw [hdirectory]
    rfl
  refine outcome_of_refused hc hself fun path hmem => ?_
  rw [Option.isSome_iff_ne_none, Ne, FileSystem.refusal?_eq_none_iff]
  exact hwhich path hmem

/-- A command of which there is no file at all is told to be missing. -/
theorem outcome_of_no_file (hc : c.IsSendable) (henter : h.enter c.directory = .ok inside)
    (hpaths : ∀ path ∈ inside.pathsOf c.command, inside.files.find path = .error .notFound) :
    h.outcome c limit = (.error (.notFound c.command), h) := by
  have hrefusal : ∀ path ∈ inside.pathsOf c.command,
      inside.files.refusal? path = some .notFound := by
    intro path hmem
    unfold FileSystem.refusal?
    rw [hpaths path hmem]
  have hverdict : verdict ((inside.pathsOf c.command).filterMap inside.files.refusal?) =
      .notFound := by
    refine verdict_of_forall_eq fun cause hcause => ?_
    obtain ⟨path, hmem, hpath⟩ := List.mem_filterMap.1 hcause
    exact Option.some.inj (hpath.symm.trans (hrefusal path hmem))
  rw [outcome_of_refused hc henter fun path hmem => by rw [hrefusal path hmem]; rfl, hverdict]
  rfl

/-! ### What is told -/

/-- The record about a call that begins. -/
def executing (c : Call) : Log.Record :=
  ⟨.info, .command, "Executing: " ++ " ".intercalate (c.command :: c.arguments)⟩

/-- The record about a call that has an output. -/
def finished (c : Call) (o : ToolOutput) : Log.Record :=
  ⟨.debug, .command,
    c.command ++ " finished in 0.000s with exit code " ++ Numeral.intText o.exitCode⟩

/-- **What a call tells**: that it begins, and if it has an output, the code with which it ended.
The limit is that of the call, or else the usual one. -/
theorem run_eq (h : Host) (c : Call) (usual : Numeral.Number) :
    h.run c usual =
      ⟨executing c :: match (h.outcome c (c.limit.getD usual)).1 with
        | .ok o => [finished c o]
        | .error _ => [],
      h.outcome c (c.limit.getD usual)⟩ := by
  unfold run
  obtain ⟨result, after⟩ := h.outcome c (c.limit.getD usual)
  cases result <;> rfl

end Host

end FlopCensus
