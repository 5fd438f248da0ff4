import FlopCensus.Proofs.Store.Cache
import FlopCensus.Proofs.Survey.Analysis
import Mathlib.Logic.Function.Basic
import Mathlib.Logic.Function.Iterate
import Mathlib.Tactic.Common

set_option autoImplicit false
set_option relaxedAutoImplicit false

/-!
# Surveys while files are edited

The survey of a file by way of a store looks the file up, reads it, asks the source and stores the
result. Files may be edited between any two of these steps, and other surveys may go on at the same
time.

## Main definitions

* `FlopCensus.Survey.Progress`, `FlopCensus.Survey.advance` — a survey in four steps.
* `FlopCensus.Survey.Action`, `FlopCensus.Survey.State`, `FlopCensus.Survey.run` — numbered surveys,
  edits and a clock, in any order.
* `FlopCensus.Survey.runBy` — the same with other steps of a survey.

## Main results

* `FlopCensus.Survey.yields_file` — the four steps without a break are a survey of the file.

## Design

A survey keeps track of the contents that it met, which no step looks at. Surveys are numbered
without a bound; those that never advance have not begun.
-/

namespace FlopCensus.Survey

variable {σ τ : Type}

/-- What a survey of a file has done so far. -/
inductive Progress (σ : Type) where
  /-- Nothing. -/
  | begun
  /-- It has found nothing under the key. -/
  | missed (key : String)
  /-- It has read the file. -/
  | read (key : String) (content : List UInt8)
  /-- It has analysed what it read, the source having found the content `printed`. -/
  | analysed (key : String) (inv : Inventory) (read : List UInt8) (printed : Option (List UInt8))
  /-- It has stored the result, the file having the content `stored`. -/
  | kept (inv : Inventory) (read : List UInt8) (printed stored : Option (List UInt8))
  /-- It has found a result, in a scene. -/
  | found (inv : Inventory) (scene : Scene σ)
  /-- It has ended with a failure in its result. -/
  | failed (inv : Inventory)
  /-- It has ended because the store failed. -/
  | broken (e : Cache.Error)

/-- What a survey that has ended yields. -/
def Progress.answer? : Progress σ → Option (Except Cache.Error Inventory)
  | .kept inv _ _ _ => some (.ok inv)
  | .found inv _ => some (.ok inv)
  | .failed inv => some (.ok inv)
  | .broken e => some (.error e)
  | _ => none

/-- What happens in a run. -/
inductive Action (τ : Type) where
  /-- Files are edited. -/
  | edit (host : Host)
  /-- Time passes. -/
  | clock (now : τ)
  /-- A survey takes its next step. -/
  | advance (i : ℕ)

/-- The state of a run. -/
structure State (σ τ : Type) where
  /-- The host and those who take part. -/
  scene : Scene σ
  /-- The time. -/
  now : τ
  /-- The store. -/
  cache : Cache τ Inventory
  /-- The surveys. -/
  calls : ℕ → Progress σ

/-- The state after a step of survey `i`, which has got to `p`. -/
def State.moveTo (st : State σ τ) (i : ℕ) (p : Progress σ) (scene : Scene σ)
    (cache : Cache τ Inventory) : State σ τ :=
  { st with scene, cache, calls := Function.update st.calls i p }

/-- The survey that takes a step. -/
lemma State.calls_moveTo_self {st : State σ τ} {i : ℕ} {p : Progress σ} {scene : Scene σ}
    {cache : Cache τ Inventory} : (st.moveTo i p scene cache).calls i = p :=
  Function.update_self ..

/-- The other surveys. -/
lemma State.calls_moveTo_of_ne {st : State σ τ} {i j : ℕ} {p : Progress σ} {scene : Scene σ}
    {cache : Cache τ Inventory} (h : j ≠ i) : (st.moveTo i p scene cache).calls j = st.calls j :=
  Function.update_of_ne h ..

/-- A survey that stays where it is leaves the state. -/
lemma State.moveTo_self {st : State σ τ} {i : ℕ} :
    st.moveTo i (st.calls i) st.scene st.cache = st := by
  rw [State.moveTo, Function.update_eq_self]

section Steps

variable [Add τ] [LT τ] [DecidableLT τ]

/-- The next step of a survey. -/
def advance (source : TreeSource σ) (path : String) (now : τ) (s : Scene σ)
    (c : Cache τ Inventory) : Progress σ → Progress σ × Scene σ × Cache τ Inventory
  | .begun =>
    let key := fileKey c.digest source.name s.host.files path
    match (lookUp now key path c).outcome s with
    | ((.error e, c), s) => (.broken e, s, c)
    | ((.ok (some inv), c), s) => (.found inv s, s, c)
    | ((.ok none, c), s) => (.missed key, s, c)
  | .missed key =>
    match s.host.files.read path with
    | .error e => (.failed (failed path (.file e)), s, c)
    | .ok content => (.read key content, s, c)
  | .read key content =>
    match (source.printTree path).outcome s with
    | (.error e, t) => (.failed (failed path (.source e)), t, c)
    | (.ok o, t) =>
      match analysis source.name path content o with
      | .error p => (.failed (failed path p), t, c)
      | .ok inv => (.analysed key inv content (s.host.files.content? path), t, c)
  | .analysed key inv read printed =>
    match (keep now key path inv c).outcome s with
    | ((.error e, c), s) => (.broken e, s, c)
    | ((.ok (), c), s) => (.kept inv read printed (s.host.files.content? path), s, c)
  | p => (p, s, c)

/-- The state after an action. Survey `i` is one of the file `paths i`. -/
def State.step (source : TreeSource σ) (paths : ℕ → String) (st : State σ τ) :
    Action τ → State σ τ
  | .edit host => { st with scene := { st.scene with host } }
  | .clock now => { st with now }
  | .advance i =>
    let (p, scene, cache) := advance source (paths i) st.now st.scene st.cache (st.calls i)
    st.moveTo i p scene cache

/-- The state after several actions. -/
def run (source : TreeSource σ) (paths : ℕ → String) (actions : List (Action τ))
    (st : State σ τ) : State σ τ :=
  actions.foldl (State.step source paths) st

/-- The state after an action, when surveys take the steps `next`. -/
def State.stepBy
    (next : String → τ → Scene σ → Cache τ Inventory → Progress σ →
      Progress σ × Scene σ × Cache τ Inventory)
    (paths : ℕ → String) (st : State σ τ) : Action τ → State σ τ
  | .edit host => { st with scene := { st.scene with host } }
  | .clock now => { st with now }
  | .advance i =>
    let (p, scene, cache) := next (paths i) st.now st.scene st.cache (st.calls i)
    st.moveTo i p scene cache

/-- The state after several actions, when surveys take the steps `next`. -/
def runBy
    (next : String → τ → Scene σ → Cache τ Inventory → Progress σ →
      Progress σ × Scene σ × Cache τ Inventory)
    (paths : ℕ → String) (actions : List (Action τ)) (st : State σ τ) : State σ τ :=
  actions.foldl (State.stepBy next paths) st

/-- The steps of a survey with a store are those of `advance`. -/
lemma run_eq_runBy (source : TreeSource σ) (paths : ℕ → String) (actions : List (Action τ))
    (st : State σ τ) : run source paths actions st = runBy (advance source) paths actions st := by
  have hstep : (State.step source paths : State σ τ → Action τ → State σ τ) =
      State.stepBy (advance source) paths := by
    funext st action
    cases action <;> rfl
  rw [run, runBy, hstep]

/-- The state before a run: no survey has begun. -/
def State.initial (scene : Scene σ) (now : τ) (cache : Cache τ Inventory) : State σ τ where
  scene := scene
  now := now
  cache := cache
  calls := fun _ => .begun

/-- The step of a survey, as a function of all that it changes. -/
def stepAlone (source : TreeSource σ) (path : String) (now : τ)
    (q : Progress σ × Scene σ × Cache τ Inventory) : Progress σ × Scene σ × Cache τ Inventory :=
  advance source path now q.2.1 q.2.2 q.1

/-- A survey that has ended takes no further step. -/
lemma advance_of_answer? {source : TreeSource σ} {path : String} {now : τ} {s : Scene σ}
    {c : Cache τ Inventory} {p : Progress σ} {answer : Except Cache.Error Inventory}
    (h : p.answer? = some answer) : advance source path now s c p = (p, s, c) := by
  cases p with
  | begun => cases h
  | missed key => cases h
  | read key content => cases h
  | analysed key inv read printed => cases h
  | kept inv read printed stored => rfl
  | found inv scene => rfl
  | failed inv => rfl
  | broken e => rfl

/-- A survey that has ended changes nothing. -/
lemma State.step_of_answer? {source : TreeSource σ} {paths : ℕ → String} {st : State σ τ} {i : ℕ}
    {answer : Except Cache.Error Inventory} (h : (st.calls i).answer? = some answer) :
    st.step source paths (.advance i) = st := by
  rw [step, advance_of_answer? h]
  exact moveTo_self

/-- What a survey yields, and the store and the scene it leaves, after some steps without a
break. -/
def Yields (source : TreeSource σ) (path : String) (now : τ) (n : ℕ)
    (q : Progress σ × Scene σ × Cache τ Inventory)
    (o : (Except Cache.Error Inventory × Cache τ Inventory) × Scene σ) : Prop :=
  ∃ p, (stepAlone source path now)^[n] q = (p, o.2, o.1.2) ∧ p.answer? = some o.1.1

section Alone

variable {source : TreeSource σ} {path : String} {now : τ} {n : ℕ}

/-- A survey that has ended yields its answer after any number of steps. -/
lemma yields_of_answer? {p : Progress σ} {s : Scene σ} {c : Cache τ Inventory}
    {answer : Except Cache.Error Inventory} (h : p.answer? = some answer) :
    Yields source path now n (p, s, c) ((answer, c), s) :=
  ⟨p, Function.iterate_fixed (advance_of_answer? h) n, h⟩

/-- A survey yields what it yields after its next step. -/
lemma Yields.of_step {q q' : Progress σ × Scene σ × Cache τ Inventory}
    {o : (Except Cache.Error Inventory × Cache τ Inventory) × Scene σ}
    (hstep : stepAlone source path now q = q') (h : Yields source path now n q' o) :
    Yields source path now (n + 1) q o := by
  obtain ⟨p, hsteps, hanswer⟩ := h
  refine ⟨p, ?_, hanswer⟩
  rw [Function.iterate_succ_apply, hstep, hsteps]

/-- The last step stores the result. -/
lemma yields_analysed (key : String) (inv : Inventory) (read : List UInt8)
    (printed : Option (List UInt8)) (s : Scene σ) (c : Cache τ Inventory) :
    Yields source path now 1 (.analysed key inv read printed, s, c)
      (((c.set now s.host.files key inv (some path)).value.1.map fun _ => inv,
        (c.set now s.host.files key inv (some path)).value.2), s) := by
  rcases hset : (c.set now s.host.files key inv (some path)).value with ⟨e | _, c'⟩
  · refine Yields.of_step ?_ (yields_of_answer? (p := .broken e) rfl)
    simp only [stepAlone, advance, outcome_keep, hset]
  · refine Yields.of_step ?_
      (yields_of_answer? (p := .kept inv read printed (s.host.files.content? path)) rfl)
    simp only [stepAlone, advance, outcome_keep, hset]

/-- The last three steps are the survey of a file that the store does not have. -/
lemma yields_missed (key : String) (s : Scene σ) (c : Cache τ Inventory) :
    Yields source path now 3 (.missed key, s, c)
      ((fresh source now key path c).outcome s) := by
  rw [outcome_fresh, outcome_examine]
  -- a problem ends the survey early, and the steps that are left do nothing
  cases hread : s.host.files.read path with
  | error e =>
    refine Yields.of_step ?_ (yields_of_answer? (p := .failed (failed path (.file e))) rfl)
    simp only [stepAlone, advance, hread]
  | ok content =>
    have hfirst : stepAlone source path now (.missed key, s, c) = (.read key content, s, c) := by
      simp only [stepAlone, advance, hread]
    refine Yields.of_step hfirst ?_
    rcases hprint : (source.printTree path).outcome s with ⟨e | o, t⟩
    · refine Yields.of_step ?_ (yields_of_answer? (p := .failed (failed path (.source e))) rfl)
      simp only [stepAlone, advance, hprint]
    · dsimp only
      cases hanalysis : analysis source.name path content o with
      | error p =>
        refine Yields.of_step ?_ (yields_of_answer? (p := .failed (failed path p)) rfl)
        simp only [stepAlone, advance, hprint, hanalysis]
      | ok inv =>
        refine Yields.of_step ?_
          (yields_analysed key inv content (s.host.files.content? path) t c)
        simp only [stepAlone, advance, hprint, hanalysis]

end Alone

/-- **The four steps without a break are a survey of the file.** -/
theorem yields_file (source : TreeSource σ) (path : String) (now : τ) (s : Scene σ)
    (c : Cache τ Inventory) :
    ∃ o, Yields source path now 4 (.begun, s, c) o ∧
      (file source now path (some c)).outcome s = ((o.1.1, some o.1.2), o.2) := by
  rw [outcome_file_some]
  dsimp only
  generalize hkey : fileKey c.digest source.name s.host.files path = key
  refine ⟨(stored source now key path c).outcome s, ?_, rfl⟩
  rw [outcome_stored]
  rcases hget : (c.get now s.host.files key (some path)).value with ⟨e | _ | inv, c'⟩
  · refine Yields.of_step ?_ (yields_of_answer? (p := .broken e) rfl)
    simp only [stepAlone, advance, hkey, outcome_lookUp, hget]
  · refine Yields.of_step ?_ (yields_missed key s c')
    simp only [stepAlone, advance, hkey, outcome_lookUp, hget]
  · refine Yields.of_step ?_ (yields_of_answer? (p := .found inv s) rfl)
    simp only [stepAlone, advance, hkey, outcome_lookUp, hget]

/-- A survey that takes no step stays where it is. -/
lemma calls_run_of_not_advanced {source : TreeSource σ} {paths : ℕ → String}
    {actions : List (Action τ)} {j : ℕ} (h : .advance j ∉ actions) (st : State σ τ) :
    (run source paths actions st).calls j = st.calls j := by
  induction actions generalizing st with
  | nil => rfl
  | cons action actions ih =>
    rw [List.mem_cons, not_or] at h
    refine (ih h.2 _).trans ?_
    cases action with
    | edit host => rfl
    | clock now => rfl
    | advance i =>
      refine State.calls_moveTo_of_ne ?_
      rintro rfl
      exact h.1 rfl

end Steps

end FlopCensus.Survey
