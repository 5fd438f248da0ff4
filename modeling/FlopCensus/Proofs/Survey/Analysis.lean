import FlopCensus.Proofs.Session
import FlopCensus.Proofs.Survey.Key
import Mathlib.Tactic.Common

set_option autoImplicit false
set_option relaxedAutoImplicit false

/-!
# The outcome of a survey of one file

Apart from the records that are told, the result for a file is determined by the content of the file
and by what the source yields for it, and the store is changed by the cache operations alone.

## Main definitions

* `FlopCensus.Survey.analysis` — the analysis of a content and of the output of a tool.
* `FlopCensus.Survey.settled` — an analysis with a problem turned into a failure.

## Main results

* `FlopCensus.Survey.outcome_examine` — the analysis of a file.
* `FlopCensus.Survey.outcome_plain` — the result for a file without a store.
-/

namespace FlopCensus.Survey

variable {σ τ : Type}

/-- The analysis of a content and of the output of a tool. -/
def analysis (tool path : String) (content : List UInt8) (o : ToolOutput) :
    Except Problem Inventory :=
  if o.ok then (Design.analyzeDump o.stdout content path).value.mapError .dump
  else
    match reason o.stderr tool with
    | .ok text => .error (.exited tool o.exitCode text)
    | .error e => .error (.complaint e)

/-- An analysis with a problem turned into a failure. -/
def settled (path : String) : Except Problem Inventory → Inventory
  | .ok inv => inv
  | .error p => failed path p

/-- Telling of warnings changes nothing else. -/
lemma outcome_forIn_tell (path : String) (warnings : List String) (s : Scene σ) :
    Trial.outcome (forIn warnings PUnit.unit fun warning _ => do
      Trial.sure (Session.tell .warning .analysis (path ++ ": " ++ warning))
      pure (ForInStep.yield PUnit.unit) : Trial σ Problem PUnit) s = (.ok PUnit.unit, s) := by
  induction warnings with
  | nil => rfl
  | cons warning warnings ih =>
    rw [List.forIn_cons, Trial.outcome_bind, Trial.outcome_bind]
    exact ih

/-- The inventory for the output of a tool. -/
lemma outcome_ofOutput (tool : String) (o : ToolOutput) (content : List UInt8) (path : String)
    (s : Scene σ) :
    (ofOutput tool o content path : Trial σ Problem Inventory).outcome s =
      (analysis tool path content o, s) := by
  rw [ofOutput, analysis, Trial.outcome_bind, outcome_forIn_tell]
  by_cases hok : o.ok = true
  · simp only [hok, if_true, Trial.outcome_bind, Trial.outcome_sure, Session.outcome_lift]
    cases (Design.analyzeDump o.stdout content path).value <;> rfl
  · simp only [hok]
    cases reason o.stderr tool <;> rfl

/-- **The analysis of a file**: its content is read, and then the source is asked. -/
theorem outcome_examine (source : TreeSource σ) (path : String) (s : Scene σ) :
    (examine source path).outcome s =
      match s.host.files.read path with
      | .error e => (.error (.file e), s)
      | .ok content =>
        match (source.printTree path).outcome s with
        | (.error e, t) => (.error (.source e), t)
        | (.ok o, t) => (analysis source.name path content o, t) := by
  simp only [examine, Trial.outcome_bind, Trial.outcome_sure, Session.outcome_files]
  cases s.host.files.read path with
  | error e => rfl
  | ok content =>
    simp only [Trial.outcome_bind, Trial.outcome_mapError]
    obtain ⟨r, t⟩ := (source.printTree path).outcome s
    cases r with
    | error e => rfl
    | ok o => exact outcome_ofOutput source.name o content path t

/-- Telling of a problem changes nothing else. -/
@[simp] lemma outcome_report (path : String) (p : Problem) (s : Scene σ) :
    (report path p).outcome s = ((), s) := by
  rw [report]
  split <;> rfl

/-- **The result for a file without a store.** -/
theorem outcome_plain (source : TreeSource σ) (path : String) (s : Scene σ) :
    (plain source path).outcome s =
      (settled path ((examine source path).outcome s).1, ((examine source path).outcome s).2) := by
  rw [plain, Session.outcome_bind, Trial.outcome_run]
  obtain ⟨r, t⟩ := (examine source path).outcome s
  cases r with
  | error p => simp only [Session.outcome_bind, outcome_report, Session.outcome_pure, settled]
  | ok inv => rfl

section Store

variable [Add τ] [LT τ] [DecidableLT τ]

omit [Add τ] in
/-- The store before an analysis. -/
@[simp] lemma outcome_lookUp (now : τ) (key path : String) (c : Cache τ Inventory) (s : Scene σ) :
    (lookUp now key path c).outcome s =
      ((c.get now s.host.files key (some path)).value, s) := rfl

/-- The store after an analysis. -/
@[simp] lemma outcome_keep (now : τ) (key path : String) (inv : Inventory) (c : Cache τ Inventory)
    (s : Scene σ) :
    (keep now key path inv c).outcome s =
      ((c.set now s.host.files key inv (some path)).value, s) := rfl

/-- **The result for a file that the store does not have**: an analysis without a problem is put
into the store. -/
theorem outcome_fresh (source : TreeSource σ) (now : τ) (key path : String) (c : Cache τ Inventory)
    (s : Scene σ) :
    (fresh source now key path c).outcome s =
      match (examine source path).outcome s with
      | (.error p, t) => ((.ok (failed path p), c), t)
      | (.ok inv, t) =>
        let (kept, c) := (c.set now t.host.files key inv (some path)).value
        ((kept.map fun _ => inv, c), t) := by
  rw [fresh, Session.outcome_bind, Trial.outcome_run]
  obtain ⟨r, t⟩ := (examine source path).outcome s
  cases r with
  | error p => simp only [Session.outcome_bind, outcome_report, Session.outcome_pure]
  | ok inv => simp only [Session.outcome_bind, outcome_keep, Session.outcome_pure]

/-- **The result for a file, by way of a store.** -/
theorem outcome_stored (source : TreeSource σ) (now : τ) (key path : String)
    (c : Cache τ Inventory) (s : Scene σ) :
    (stored source now key path c).outcome s =
      match (c.get now s.host.files key (some path)).value with
      | (.error e, c) => ((.error e, c), s)
      | (.ok (some inv), c) => ((.ok inv, c), s)
      | (.ok none, c) => (fresh source now key path c).outcome s := by
  rw [stored, Session.outcome_bind, outcome_lookUp]
  obtain ⟨r, c⟩ := (c.get now s.host.files key (some path)).value
  obtain e | _ | inv := r <;> rfl

/-- The result for a file without a store. -/
lemma outcome_file_none (source : TreeSource σ) (now : τ) (path : String) (s : Scene σ) :
    (file source now path none).outcome s =
      ((.ok ((plain source path).outcome s).1, none), ((plain source path).outcome s).2) := rfl

/-- The result for a file by way of a store, under its key. -/
lemma outcome_file_some (source : TreeSource σ) (now : τ) (path : String) (c : Cache τ Inventory)
    (s : Scene σ) :
    (file source now path (some c)).outcome s =
      let key := fileKey c.digest source.name s.host.files path
      let ((r, c), t) := (stored source now key path c).outcome s
      ((r, some c), t) := by
  rw [file, Session.outcome_bind, Session.outcome_files]
  dsimp only
  rw [keyOf_eq, Session.outcome_bind]
  rfl

end Store

end FlopCensus.Survey
