import FlopCensus.Command.Lookup
import FlopCensus.Proofs.Inventory.Kinds

set_option autoImplicit false
set_option relaxedAutoImplicit false

/-!
# Where a command is found

A command is found at the first of its candidates that is a file which can be run. The candidates
are one list: the path itself, or the directories of the search path in order, and then the further
directories.

## Main definitions

* `FlopCensus.Host.candidates` — the paths at which a command is looked for.

## Main results

* `FlopCensus.Host.value_findCommand` — the command is found at the first candidate that can be run.
* `FlopCensus.Host.findCommand_eq_some_iff` — what it means to be found at a path.
* `FlopCensus.Host.value_findCommand_append` — directories that come later matter only if nothing is
  found before them.
* `FlopCensus.Host.log_findCommand` — what is told.
-/

namespace FlopCensus

namespace Inventory

/-- Leaving repetitions out does not change what is found first. -/
lemma find?_distinct {α : Type} [DecidableEq α] (p : α → Bool) (xs : List α) :
    (distinct xs).find? p = xs.find? p := by
  induction xs with
  | nil => rfl
  | cons x xs ih =>
    rw [distinct, List.find?_cons, List.find?_cons]
    cases hx : p x with
    | true => rfl
    | false =>
      -- what is found is not the repeated element, which fails the test
      rw [List.find?_filter]
      dsimp only
      rw [← ih]
      congr 1
      funext a
      by_cases ha : a = x <;> simp [ha, hx]

end Inventory

namespace Host

variable {h : Host} {command found : String} {directories later : List String}

/-- The paths at which a command is looked for on the search path. An empty search path counts as
none. -/
def ownCandidates (h : Host) (command : String) : List String :=
  if Files.hasDirectory command then [command]
  else if h.lookup? "PATH" == some "" then []
  else h.searchPath.map (Files.join · command)

/-- The paths at which a command is looked for, in order. -/
def candidates (h : Host) (command : String) (directories : List String) : List String :=
  h.ownCandidates command ++ directories.map fun d => Files.join (h.expandHome d) command

/-- On the search path a command is found at the first of its candidates that can be run. -/
theorem which_eq_find? (h : Host) (command : String) :
    h.which command = (h.ownCandidates command).find? h.files.isExecutable := by
  unfold which ownCandidates
  split
  · cases hexec : h.files.isExecutable command <;> simp [hexec]
  · split
    · rfl
    · rw [List.find?_map, Inventory.find?_distinct, ← List.find?_map]

/-- **A command is found** at the first of its candidates that can be run. -/
theorem value_findCommand (h : Host) (command : String) (directories : List String) :
    (h.findCommand command directories).value =
      (h.candidates command directories).find? h.files.isExecutable := by
  unfold findCommand candidates
  rw [List.find?_append, ← which_eq_find?]
  cases h.which command with
  | some found => rfl
  | none =>
    rw [Option.none_or]
    dsimp only
    split
    · rename_i hnone
      rw [hnone]
      rfl
    · rename_i found hfound
      rw [hfound]
      rfl

/-- **Being found at a path** means that the file there can be run, and that no candidate in front
of the path can. -/
theorem findCommand_eq_some_iff :
    (h.findCommand command directories).value = some found ↔
      h.files.isExecutable found ∧ ∃ front back,
        h.candidates command directories = front ++ found :: back ∧
          ∀ path ∈ front, h.files.isExecutable path = false := by
  rw [value_findCommand, List.find?_eq_some_iff_append]
  simp only [Bool.not_eq_true']

/-- A command is not found if and only if no candidate can be run. -/
theorem findCommand_eq_none_iff :
    (h.findCommand command directories).value = none ↔
      ∀ path ∈ h.candidates command directories, h.files.isExecutable path = false := by
  rw [value_findCommand, List.find?_eq_none]
  simp only [Bool.not_eq_true]

/-- **Directories that come later** matter only if nothing is found before them. -/
theorem value_findCommand_append (h : Host) (command : String) (directories later : List String) :
    (h.findCommand command (directories ++ later)).value =
      (h.findCommand command directories).value.or
        ((later.map fun d => Files.join (h.expandHome d) command).find? h.files.isExecutable) := by
  rw [value_findCommand, value_findCommand, candidates, List.map_append, ← List.append_assoc,
    List.find?_append]
  rfl

/-- The record about a command that is found in a further directory. -/
def foundAt (command path : String) : Log.Record :=
  ⟨.info, .command, "Found " ++ command ++ " at: " ++ path⟩

/-- **What is told of a look-up**: where the command is, if the search path does not lead to it. -/
theorem log_findCommand (h : Host) (command : String) (directories : List String) :
    (h.findCommand command directories).log =
      if (h.which command).isSome then []
      else ((h.findCommand command directories).value.map (foundAt command)).toList := by
  unfold findCommand
  cases h.which command with
  | some found => rfl
  | none =>
    dsimp only
    split <;> rfl

end Host

end FlopCensus
