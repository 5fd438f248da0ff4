import FlopCensus.Proofs.Settings
import FlopCensus.Proofs.Store.Entries
import FlopCensus.Proofs.Survey.Interleaving
import FlopCensus.Proofs.Survey.Transparency
import FlopCensus.Survey.Batch
import Mathlib.Data.List.Basic
import Mathlib.Tactic.Common

set_option autoImplicit false
set_option relaxedAutoImplicit false

/-!
# The survey of a batch of files

Whatever goes wrong with a file of a batch becomes one failure in the result, and the other files
have the results that they have anyway; only analyses without a problem are stored. The one thing
that ends a whole batch is a path with a character that no path can hold, if the store has a result
under the key of this path all the same, for the look-up of a path stands outside of what may fail.

## Main definitions

* `FlopCensus.Survey.IsRecorded` — what the result for a file consists of.
* `FlopCensus.Survey.HoldsAnalyses` — a cache that holds analyses without a problem only.
* `FlopCensus.Survey.IsBatchResult` — what the result for some files consists of.
* `FlopCensus.Survey.Produced` — the stores that surveys can have produced.
* `FlopCensus.Survey.collected` — the result of surveys that have gone on at the same time.

## Main results

* `FlopCensus.Survey.advance_isOrderly`, `FlopCensus.Survey.run_isOrderly` — the steps of surveys
  and whole runs keep their results recorded and the store sound.
* `FlopCensus.Survey.file_eq_error_iff` — when the survey of a file fails.
* `FlopCensus.Survey.batch_recorded` — the result for some files, with any number of workers.

## Design

A survey with a store is four steps, so that whatever holds of the steps in any order holds of files
one after the other (`yields_file`) and of files that several workers survey at the same time.
-/

namespace FlopCensus

namespace Cache

variable {τ α : Type}

variable [LT τ] [DecidableLT τ]

/-- What is found is the value of an entry. -/
lemma exists_of_get_eq_some {c : Cache τ α} {now : τ} {fs : FileSystem} {key : String}
    {path : Option String} {value : α} (h : (c.get now fs key path).value.1 = .ok (some value)) :
    ∃ e ∈ c.entries, e.value = value := by
  obtain ⟨-, hget⟩ | ⟨e, hfound, hget⟩ := c.get_cases now fs key path
  · rw [hget] at h
    cases h
  · refine ⟨e, (find?_eq_some hfound).1, ?_⟩
    rw [hget] at h
    rcases hfresh : ((c.use e).isFresh fs e path).value with failure | _ | _ <;> rw [hfresh] at h
    · cases h
    · cases h
    · cases h
      rfl

/-- **A look-up fails exactly if there is an entry and no file can have the path**, as long as the
entries have fingerprints. -/
theorem get_eq_error_iff {c : Cache τ α} (hmarks : ∀ e ∈ c.entries, e.fingerprint.isSome) {now : τ}
    {fs : FileSystem} {key path : String} {failure : Error} :
    (c.get now fs key (some path)).value.1 = .error failure ↔
      failure = .file ⟨.nullByte, path⟩ ∧ '\x00' ∈ path.toList ∧ (c.find? now key).isSome := by
  rw [value_get_eq_error_iff]
  constructor
  · rintro ⟨file, e, hfile, hmem, hfound, -, rfl⟩
    obtain ⟨hpath, -⟩ := Option.filter_eq_some_iff.1 hfile
    obtain rfl := Option.some.inj hpath
    exact ⟨rfl, hmem, Option.isSome_iff_exists.2 ⟨e, hfound⟩⟩
  · rintro ⟨rfl, hmem, hfound⟩
    obtain ⟨e, hfound⟩ := Option.isSome_iff_exists.1 hfound
    have hne : path ≠ "" := by
      rintro rfl
      simp at hmem
    exact ⟨path, e, Option.filter_eq_some_iff.2 ⟨rfl, bne_iff_ne.2 hne⟩, hmem, hfound,
      hmarks e (find?_eq_some hfound).1, rfl⟩

end Cache

namespace Survey

variable {σ τ : Type}

/-! ### Results and stores -/

/-- The inventory is that of an analysis without a problem. -/
def IsAnalysis (tool : String) (inv : Inventory) : Prop :=
  ∃ path content o, analysis tool path content o = .ok inv

/-- What the result for a file consists of: one failure, which names the file, and nothing else, or
what an analysis without a problem has found, and no failure. -/
inductive IsRecorded (tool path : String) : Inventory → Prop
  | failure (reason : String) : IsRecorded tool path ⟨[], [], [⟨path, reason⟩]⟩
  | analysis {inv : Inventory} (analysed : IsAnalysis tool inv) (clean : inv.failures = []) :
      IsRecorded tool path inv

/-- A cache with room, which holds analyses without a problem only, each of some file. -/
structure HoldsAnalyses (tool : String) (c : Cache τ Inventory) : Prop where
  /-- There is room for results. -/
  room : c.capacity ≠ 0
  /-- What is stored comes from an analysis without a problem. -/
  analyses : ∀ e ∈ c.entries, IsAnalysis tool e.value
  /-- What is stored belongs to a file. -/
  marks : ∀ e ∈ c.entries, e.fingerprint.isSome

/-- A store, if there is one, that holds analyses without a problem only. -/
def IsSound (tool : String) (store : Store τ) : Prop :=
  ∀ c, store = some c → HoldsAnalyses tool c

/-- Where there is no store, nothing is stored. -/
lemma isSound_none {tool : String} : IsSound tool (none : Store τ) := by
  simp [IsSound]

/-- What the result for some files consists of: the results for the files, merged in their order.
There is none only if one of the paths holds a character that no path can hold. -/
def IsBatchResult (tool : String) (paths : List String) : Except Cache.Error Inventory → Prop
  | .ok inv => ∃ parts, inv = .merge parts ∧ List.Forall₂ (IsRecorded tool) paths parts
  | .error e => ∃ path ∈ paths, '\x00' ∈ path.toList ∧ e = .file ⟨.nullByte, path⟩

/-- The same before the results are merged. -/
def IsListResult (tool : String) (paths : List String) : Except Cache.Error (List Inventory) → Prop
  | .ok parts => List.Forall₂ (IsRecorded tool) paths parts
  | .error e => ∃ path ∈ paths, '\x00' ∈ path.toList ∧ e = .file ⟨.nullByte, path⟩

/-- The same for one file. -/
def IsFileResult (tool path : String) : Except Cache.Error Inventory → Prop
  | .ok inv => IsRecorded tool path inv
  | .error e => '\x00' ∈ path.toList ∧ e = .file ⟨.nullByte, path⟩

/-- An analysis without a problem has no failures. -/
lemma IsAnalysis.failures {tool : String} {inv : Inventory} (h : IsAnalysis tool inv) :
    inv.failures = [] := by
  obtain ⟨path, content, o, h⟩ := h
  rw [analysis] at h
  split at h
  · rw [Design.analyzeDump] at h
    cases hparse : Dump.parseStandard o.stdout with
    | error e => rw [hparse] at h; cases h
    | ok root =>
      rw [hparse] at h
      cases h
      rw [Design.value_inventoryOf]
  · split at h <;> cases h

/-- An analysis without a problem is recorded as it is. -/
lemma IsAnalysis.isRecorded {tool path : String} {inv : Inventory} (h : IsAnalysis tool inv) :
    IsRecorded tool path inv :=
  .analysis h h.failures

/-- A problem is recorded as one failure. -/
lemma isRecorded_failed (tool path : String) (p : Problem) :
    IsRecorded tool path (failed path p) :=
  .failure p.message

/-- Results are merged in their order. -/
lemma IsListResult.merge {tool : String} {paths : List String}
    {r : Except Cache.Error (List Inventory)} (h : IsListResult tool paths r) :
    IsBatchResult tool paths (r.map .merge) := by
  cases r with
  | error e => exact h
  | ok parts => exact ⟨parts, rfl, h⟩

/-- The results of all files, in their order, make a list with the first error in it, if any. -/
lemma isListResult_mapM {tool : String} {paths : List String}
    {results : List (Except Cache.Error Inventory)}
    (h : List.Forall₂ (IsFileResult tool) paths results) :
    IsListResult tool paths (results.mapM id) := by
  induction h with
  | nil => exact .nil
  | @cons path r paths results hr _ ih =>
    rw [List.mapM_cons]
    cases r with
    | error e => exact ⟨path, List.mem_cons_self, hr⟩
    | ok inv =>
      cases hmore : results.mapM id with
      | error e =>
        rw [hmore] at ih
        obtain ⟨p, hp, he⟩ := ih
        exact ⟨p, List.mem_cons_of_mem _ hp, he⟩
      | ok parts =>
        rw [hmore] at ih
        exact .cons hr ih

/-- Where entries are dropped or moved, analyses stay. -/
lemma HoldsAnalyses.of_within {tool : String} {c before : Cache τ Inventory}
    (h : HoldsAnalyses tool before) (hwithin : c.Within before) : HoldsAnalyses tool c where
  room := hwithin.capacity ▸ h.room
  analyses e he := h.analyses e (hwithin.mem e he)
  marks e he := h.marks e (hwithin.mem e he)

/-! ### The steps of a survey -/

/-- What holds of a survey of a file while it goes on, and of its result when it has ended. -/
def Progress.IsOrderly (tool path : String) : Progress σ → Prop
  | .begun => True
  | .missed _ => True
  | .read _ _ => Files.IsPossible path
  | .analysed _ inv _ _ => Files.IsPossible path ∧ IsAnalysis tool inv
  | .kept inv _ _ _ => IsRecorded tool path inv
  | .found inv _ => IsRecorded tool path inv
  | .failed inv => IsRecorded tool path inv
  | .broken e => '\x00' ∈ path.toList ∧ e = .file ⟨.nullByte, path⟩

/-- The answer of an orderly survey is a result for its file. -/
lemma Progress.IsOrderly.answer {tool path : String} {p : Progress σ}
    (h : p.IsOrderly tool path) {answer : Except Cache.Error Inventory}
    (hanswer : p.answer? = some answer) : IsFileResult tool path answer := by
  cases p <;> cases hanswer <;> exact h

section Steps

variable [Add τ] [LT τ] [DecidableLT τ]

/-- An analysis that is stored is one more entry. -/
lemma HoldsAnalyses.keep {tool path : String} {c : Cache τ Inventory} (h : HoldsAnalyses tool c)
    (hpath : Files.IsPossible path) {inv : Inventory} (hinv : IsAnalysis tool inv) (now : τ)
    (fs : FileSystem) (key : String) :
    (c.set now fs key inv (some path)).value.1 = .ok () ∧
      HoldsAnalyses tool (c.set now fs key inv (some path)).value.2 := by
  refine ⟨by rw [Cache.value_set_of_room hpath h.room], ?_, ?_, ?_⟩
  · rw [(Cache.capacity_digest_set hpath c now fs key inv).1]
    exact h.room
  · intro e he
    obtain hold | ⟨-, hvalue, -, -⟩ := Cache.mem_entries_set hpath he
    · exact h.analyses e hold
    · exact hvalue ▸ hinv
  · intro e he
    obtain hold | ⟨-, -, hmark, -⟩ := Cache.mem_entries_set hpath he
    · exact h.marks e hold
    · rw [hmark, Option.isSome_some]

section Advance

variable {source : TreeSource σ} {path : String} {c : Cache τ Inventory}
  (hc : HoldsAnalyses source.name c) (now : τ) (s : Scene σ)

include hc

/-- The look-up finds an analysis, or fails for a path that no file can have. -/
lemma advance_begun_isOrderly :
    (advance source path now s c .begun).1.IsOrderly source.name path ∧
      HoldsAnalyses source.name (advance source path now s c .begun).2.2 := by
  have hwithin := c.within_get now s.host.files
    (fileKey c.digest source.name s.host.files path) (some path)
  rcases hget : (c.get now s.host.files (fileKey c.digest source.name s.host.files path)
    (some path)).value with ⟨e | _ | inv, c'⟩
  all_goals
    rw [hget] at hwithin
    simp only [advance, outcome_lookUp, hget]
    refine ⟨?_, hc.of_within hwithin⟩
  · obtain ⟨he, hmem, -⟩ := (Cache.get_eq_error_iff hc.marks).1 (congrArg Prod.fst hget)
    exact ⟨hmem, he⟩
  · trivial
  · obtain ⟨e, he, rfl⟩ := Cache.exists_of_get_eq_some (congrArg Prod.fst hget)
    exact (hc.analyses e he).isRecorded

/-- A file that can be read has a path that a file can have. -/
lemma advance_missed_isOrderly (key : String) :
    (advance source path now s c (.missed key)).1.IsOrderly source.name path ∧
      HoldsAnalyses source.name (advance source path now s c (.missed key)).2.2 := by
  cases hread : s.host.files.read path with
  | error e =>
    simp only [advance, hread]
    exact ⟨isRecorded_failed _ _ _, hc⟩
  | ok content =>
    simp only [advance, hread]
    exact ⟨FileSystem.isPossible_of_read hread, hc⟩

/-- The tool has a tree of the file, or a failure is recorded. -/
lemma advance_read_isOrderly {key : String} {content : List UInt8}
    (hp : (Progress.read key content : Progress σ).IsOrderly source.name path) :
    (advance source path now s c (.read key content)).1.IsOrderly source.name path ∧
      HoldsAnalyses source.name (advance source path now s c (.read key content)).2.2 := by
  rcases hprint : (source.printTree path).outcome s with ⟨e | o, t⟩
  · simp only [advance, hprint]
    exact ⟨isRecorded_failed _ _ _, hc⟩
  · cases hanalysis : analysis source.name path content o with
    | error p =>
      simp only [advance, hprint, hanalysis]
      exact ⟨isRecorded_failed _ _ _, hc⟩
    | ok inv =>
      simp only [advance, hprint, hanalysis]
      exact ⟨⟨hp, path, content, o, hanalysis⟩, hc⟩

/-- What is stored is the analysis that the survey has made. -/
lemma advance_analysed_isOrderly {key : String} {inv : Inventory} {read : List UInt8}
    {printed : Option (List UInt8)}
    (hp : (Progress.analysed key inv read printed : Progress σ).IsOrderly source.name path) :
    (advance source path now s c (.analysed key inv read printed)).1.IsOrderly source.name path ∧
      HoldsAnalyses source.name
        (advance source path now s c (.analysed key inv read printed)).2.2 := by
  obtain ⟨hpath, hinv⟩ := hp
  obtain ⟨hkept, hc'⟩ := hc.keep hpath hinv now s.host.files key
  rcases hset : (c.set now s.host.files key inv (some path)).value with ⟨r, c'⟩
  rw [hset] at hkept hc'
  cases hkept
  simp only [advance, outcome_keep, hset]
  exact ⟨hinv.isRecorded, hc'⟩

/-- **A step keeps a survey orderly and stores analyses only.** -/
theorem advance_isOrderly {p : Progress σ} (hp : p.IsOrderly source.name path) :
    (advance source path now s c p).1.IsOrderly source.name path ∧
      HoldsAnalyses source.name (advance source path now s c p).2.2 := by
  cases p with
  | begun => exact advance_begun_isOrderly hc now s
  | missed key => exact advance_missed_isOrderly hc now s key
  | read key content => exact advance_read_isOrderly hc now s hp
  | analysed key inv read printed => exact advance_analysed_isOrderly hc now s hp
  -- a survey that has ended stays as it is, and so does the store
  | kept inv read printed stored => exact ⟨hp, hc⟩
  | found inv scene => exact ⟨hp, hc⟩
  | failed inv => exact ⟨hp, hc⟩
  | broken e => exact ⟨hp, hc⟩

end Advance

end Steps

/-! ### Surveys in any order -/

/-- All surveys are orderly, and the store holds analyses only. -/
structure State.IsOrderly (tool : String) (paths : ℕ → String) (st : State σ τ) : Prop where
  /-- The surveys are orderly. -/
  calls : ∀ i, (st.calls i).IsOrderly tool (paths i)
  /-- The store holds analyses only. -/
  cache : HoldsAnalyses tool st.cache

/-- Surveys that have not begun are orderly. -/
lemma isOrderly_initial {tool : String} {c : Cache τ Inventory} (hc : HoldsAnalyses tool c)
    (paths : ℕ → String) (s : Scene σ) (now : τ) :
    (State.initial s now c).IsOrderly tool paths :=
  ⟨fun _ => trivial, hc⟩

/-- The number of steps that a survey still takes at most. -/
def Progress.stepsLeft : Progress σ → ℕ
  | .begun => 4
  | .missed _ => 3
  | .read _ _ => 2
  | .analysed _ _ _ _ => 1
  | _ => 0

/-- The action is a step of a survey. -/
def Action.isStepOf (i : ℕ) : Action τ → Bool
  | .advance j => j == i
  | _ => false

/-- A survey without steps left has ended. -/
lemma Progress.exists_answer {p : Progress σ} (h : p.stepsLeft = 0) :
    ∃ answer, p.answer? = some answer := by
  cases p <;> simp_all [stepsLeft, answer?]

/-- The merged result of the first `n` surveys of a run, once all of them have ended. -/
def collected (n : ℕ) (st : State σ τ) : Option (Except Cache.Error Inventory) :=
  ((List.range n).mapM fun i => (st.calls i).answer?).map fun results =>
    (results.mapM id).map .merge

/-- The answers of some surveys that have ended are collected. -/
lemma exists_mapM_answer {tool : String} {paths : ℕ → String} {st : State σ τ} {numbers : List ℕ}
    (h : ∀ i ∈ numbers, ∃ r, (st.calls i).answer? = some r ∧ IsFileResult tool (paths i) r) :
    ∃ results, numbers.mapM (fun i => (st.calls i).answer?) = some results ∧
      List.Forall₂ (IsFileResult tool) (numbers.map paths) results := by
  induction numbers with
  | nil => exact ⟨[], rfl, .nil⟩
  | cons i numbers ih =>
    obtain ⟨r, hanswer, hr⟩ := h i List.mem_cons_self
    obtain ⟨results, hmore, hrest⟩ := ih fun j hj => h j (List.mem_cons_of_mem _ hj)
    refine ⟨r :: results, ?_, .cons hr hrest⟩
    simp [List.mapM_cons, hanswer, hmore]

/-- **Surveys that go on at the same time yield the results of their files** once each of them has
taken its steps, in whatever order. -/
theorem collected_isBatchResult {tool : String} {paths : ℕ → String} {st : State σ τ}
    (h : st.IsOrderly tool paths) {n : ℕ} (hended : ∀ i < n, (st.calls i).stepsLeft = 0) :
    ∃ result, collected n st = some result ∧
      IsBatchResult tool ((List.range n).map paths) result := by
  have hanswers : ∀ i ∈ List.range n, ∃ r, (st.calls i).answer? = some r ∧
      IsFileResult tool (paths i) r := by
    intro i hi
    obtain ⟨answer, hanswer⟩ := Progress.exists_answer (hended i (List.mem_range.1 hi))
    exact ⟨answer, hanswer, (h.calls i).answer hanswer⟩
  obtain ⟨results, hresults, hall⟩ := exists_mapM_answer hanswers
  exact ⟨_, by rw [collected, hresults, Option.map_some], (isListResult_mapM hall).merge⟩

section Runs

variable [Add τ] [LT τ] [DecidableLT τ]

/-- An action keeps all surveys orderly. -/
lemma State.IsOrderly.step {source : TreeSource σ} {paths : ℕ → String} {st : State σ τ}
    (h : st.IsOrderly source.name paths) (action : Action τ) :
    (st.step source paths action).IsOrderly source.name paths := by
  cases action with
  | edit host => exact ⟨h.calls, h.cache⟩
  | clock now => exact ⟨h.calls, h.cache⟩
  | advance i =>
    obtain ⟨hcall, hcache⟩ := advance_isOrderly h.cache st.now st.scene (h.calls i)
    refine ⟨fun j => ?_, hcache⟩
    by_cases hj : j = i
    · subst hj
      rw [State.step, State.calls_moveTo_self]
      exact hcall
    · rw [State.step, State.calls_moveTo_of_ne hj]
      exact h.calls j

/-- **Surveys in any order stay orderly**, while files are edited and time passes. -/
theorem run_isOrderly {source : TreeSource σ} {paths : ℕ → String} {st : State σ τ}
    (h : st.IsOrderly source.name paths) (actions : List (Action τ)) :
    (run source paths actions st).IsOrderly source.name paths := by
  induction actions generalizing st with
  | nil => exact h
  | cons action actions ih => exact ih (h.step action)

/-- Each step is one less. -/
lemma stepsLeft_advance (source : TreeSource σ) (path : String) (now : τ) (s : Scene σ)
    (c : Cache τ Inventory) (p : Progress σ) :
    (advance source path now s c p).1.stepsLeft ≤ p.stepsLeft - 1 := by
  cases p <;> simp only [advance]
  case read => split <;> [skip; split] <;> simp [Progress.stepsLeft]
  all_goals try split
  all_goals simp [Progress.stepsLeft]

section Counting

variable {next : String → τ → Scene σ → Cache τ Inventory → Progress σ →
    Progress σ × Scene σ × Cache τ Inventory}
  (hnext : ∀ path now s c p, (next path now s c p).1.stepsLeft ≤ p.stepsLeft - 1)

include hnext

omit [Add τ] [LT τ] [DecidableLT τ] in
/-- An action that is a step of a survey leaves it one step less. -/
lemma stepsLeft_stepBy (paths : ℕ → String) (action : Action τ) (st : State σ τ) (i : ℕ) :
    ((st.stepBy next paths action).calls i).stepsLeft ≤
      (st.calls i).stepsLeft - if action.isStepOf i then 1 else 0 := by
  cases action with
  | edit host => exact Nat.le_refl _
  | clock now => exact Nat.le_refl _
  | advance j =>
    by_cases hj : i = j
    · subst hj
      rw [State.stepBy, State.calls_moveTo_self]
      simpa [Action.isStepOf] using hnext (paths i) st.now st.scene st.cache (st.calls i)
    · rw [State.stepBy, State.calls_moveTo_of_ne hj]
      exact Nat.le_of_eq (by simp [Action.isStepOf, Ne.symm hj])

omit [Add τ] [LT τ] [DecidableLT τ] in
/-- **A survey gets on with each of its steps**, whatever the steps are. -/
theorem stepsLeft_runBy (paths : ℕ → String) (actions : List (Action τ)) (st : State σ τ) (i : ℕ) :
    ((runBy next paths actions st).calls i).stepsLeft ≤
      (st.calls i).stepsLeft - actions.countP (Action.isStepOf i) := by
  induction actions generalizing st with
  | nil => exact Nat.le_refl _
  | cons action actions ih =>
    have hstep := stepsLeft_stepBy hnext paths action st i
    have hrest := ih (st.stepBy next paths action)
    rw [List.countP_cons]
    change ((runBy next paths actions (st.stepBy next paths action)).calls i).stepsLeft ≤ _
    omega

end Counting

/-- **A survey gets on with each of its steps in a run.** -/
theorem stepsLeft_run (source : TreeSource σ) (paths : ℕ → String) (actions : List (Action τ))
    (st : State σ τ) (i : ℕ) :
    ((run source paths actions st).calls i).stepsLeft ≤
      (st.calls i).stepsLeft - actions.countP (Action.isStepOf i) := by
  rw [run_eq_runBy]
  exact stepsLeft_runBy (stepsLeft_advance source) paths actions st i

end Runs

/-! ### One file -/

section File

variable {source : TreeSource σ} {path : String}

/-- A file that is analysed without a problem has a path that files can have. -/
lemma of_examine_eq_ok {s : Scene σ} {inv : Inventory}
    (h : ((examine source path).outcome s).1 = .ok inv) :
    Files.IsPossible path ∧ IsAnalysis source.name inv := by
  rw [outcome_examine] at h
  cases hread : s.host.files.read path with
  | error e => rw [hread] at h; cases h
  | ok content =>
    rw [hread] at h
    rcases hprint : (source.printTree path).outcome s with ⟨e | o, t⟩
    · rw [hprint] at h
      cases h
    · rw [hprint] at h
      exact ⟨FileSystem.isPossible_of_read hread, path, content, o, h⟩

/-- The result without a store is recorded. -/
lemma isRecorded_plain (source : TreeSource σ) (path : String) (s : Scene σ) :
    IsRecorded source.name path ((plain source path).outcome s).1 := by
  rw [outcome_plain]
  cases hexamine : ((examine source path).outcome s).1 with
  | error p => exact isRecorded_failed _ _ _
  | ok inv => exact (of_examine_eq_ok hexamine).2.isRecorded

variable [Add τ] [LT τ] [DecidableLT τ]

/-- Steps without a break keep a survey orderly. -/
lemma iterate_isOrderly (now : τ) (n : ℕ) (q : Progress σ × Scene σ × Cache τ Inventory)
    (hp : q.1.IsOrderly source.name path) (hc : HoldsAnalyses source.name q.2.2) :
    ((stepAlone source path now)^[n] q).1.IsOrderly source.name path ∧
      HoldsAnalyses source.name ((stepAlone source path now)^[n] q).2.2 := by
  induction n generalizing q with
  | zero => exact ⟨hp, hc⟩
  | succ n ih =>
    rw [Function.iterate_succ_apply]
    obtain ⟨hp', hc'⟩ := advance_isOrderly hc now q.2.1 hp
    exact ih _ hp' hc'

/-- **The survey of a file yields a result for it and keeps the store sound.** -/
theorem file_isFileResult (path : String) {store : Store τ} (hstore : IsSound source.name store)
    (now : τ) (s : Scene σ) :
    IsFileResult source.name path ((file source now path store).outcome s).1.1 ∧
      IsSound source.name ((file source now path store).outcome s).1.2 := by
  cases store with
  | none =>
    rw [outcome_file_none]
    exact ⟨isRecorded_plain source path s, isSound_none⟩
  | some c =>
    obtain ⟨⟨⟨answer, c'⟩, t⟩, ⟨p, hsteps, hanswer⟩, hfile⟩ := yields_file source path now s c
    have hbegun : (Progress.begun : Progress σ).IsOrderly source.name path := trivial
    obtain ⟨hp, hc'⟩ := iterate_isOrderly now 4 (.begun, s, c) hbegun (hstore c rfl)
    rw [hsteps] at hp hc'
    rw [hfile]
    refine ⟨hp.answer hanswer, ?_⟩
    rintro _ ⟨⟩
    exact hc'

/-- What the store does not have is analysed, and the survey does not fail. -/
lemma fresh_ne_error {c : Cache τ Inventory} (hc : HoldsAnalyses source.name c) (now : τ)
    (key : String) (s : Scene σ) (e : Cache.Error) :
    ((fresh source now key path c).outcome s).1.1 ≠ .error e := by
  rw [outcome_fresh]
  rcases hexamine : (examine source path).outcome s with ⟨p | inv, t⟩
  · simp
  · obtain ⟨hpath, hinv⟩ := of_examine_eq_ok (congrArg Prod.fst hexamine)
    obtain ⟨hkept, -⟩ := hc.keep hpath hinv now t.host.files key
    rcases hset : (c.set now t.host.files key inv (some path)).value with ⟨r, c'⟩
    rw [hset] at hkept
    cases hkept
    simp [hset, Except.map]

/-- **When the survey of a file fails**: exactly if no file can have the path, because of a
character in it, and the store has a live result under its key. -/
theorem file_eq_error_iff {c : Cache τ Inventory} (hc : HoldsAnalyses source.name c) (now : τ)
    (s : Scene σ) (e : Cache.Error) :
    ((file source now path (some c)).outcome s).1.1 = .error e ↔
      e = .file ⟨.nullByte, path⟩ ∧ '\x00' ∈ path.toList ∧
        (c.find? now (fileKey c.digest source.name s.host.files path)).isSome := by
  rw [outcome_file_some]
  dsimp only
  generalize fileKey c.digest source.name s.host.files path = key
  rw [← Cache.get_eq_error_iff hc.marks, outcome_stored]
  have hwithin := c.within_get now s.host.files key (some path)
  rcases hget : (c.get now s.host.files key (some path)).value with ⟨failure | _ | inv, c'⟩
  · simp
  · rw [hget] at hwithin
    simpa using fresh_ne_error (hc.of_within hwithin) now key s e
  · simp

end File

/-! ### Several files -/

section Files

variable [Add τ] [LT τ] [DecidableLT τ] {source : TreeSource σ}

/-- Files one after the other, up to the first one without a result. -/
lemma each_isListResult {store : Store τ} (hstore : IsSound source.name store)
    (paths : List String) (now : τ) (s : Scene σ) :
    IsListResult source.name paths ((each source now paths store).outcome s).1.1 ∧
      IsSound source.name ((each source now paths store).outcome s).1.2 := by
  induction paths generalizing store s with
  | nil => exact ⟨.nil, hstore⟩
  | cons path paths ih =>
    obtain ⟨hfirst, hafter⟩ := file_isFileResult path hstore now s
    rw [each, Session.outcome_bind]
    rcases hfile : (file source now path store).outcome s with ⟨⟨e | inv, store'⟩, t⟩
    · rw [hfile] at hfirst hafter
      exact ⟨⟨path, List.mem_cons_self, hfirst⟩, hafter⟩
    · rw [hfile] at hfirst hafter
      obtain ⟨hrest, hend⟩ := ih hafter t
      rcases hmore : (each source now paths store').outcome t with ⟨⟨e | parts, store''⟩, t'⟩
      all_goals
        rw [hmore] at hrest hend
        simp only [Session.outcome_bind, hmore, Session.outcome_pure]
        refine ⟨?_, hend⟩
      · obtain ⟨p, hp, he⟩ := hrest
        exact ⟨p, List.mem_cons_of_mem _ hp, he⟩
      · exact .cons hfirst hrest

/-- Files one after the other, all of them. -/
lemma all_isFileResult {store : Store τ} (hstore : IsSound source.name store)
    (paths : List String) (now : τ) (s : Scene σ) :
    List.Forall₂ (IsFileResult source.name) paths
        ((all source now paths store).outcome s).1.1 ∧
      IsSound source.name ((all source now paths store).outcome s).1.2 := by
  induction paths generalizing store s with
  | nil => exact ⟨.nil, hstore⟩
  | cons path paths ih =>
    obtain ⟨hfirst, hafter⟩ := file_isFileResult path hstore now s
    rw [all, Session.outcome_bind]
    rcases hfile : (file source now path store).outcome s with ⟨⟨r, store'⟩, t⟩
    rw [hfile] at hfirst hafter
    obtain ⟨hrest, hend⟩ := ih hafter t
    exact ⟨.cons hfirst hrest, hend⟩

/-- **The survey of some files** yields their results, with any number of workers. -/
theorem files_isBatchResult {store : Store τ} (hstore : IsSound source.name store)
    (settings : Settings) (now : τ) (jobs : Option Int) (paths : List String) (s : Scene σ) :
    IsBatchResult source.name paths
        ((files source settings now jobs paths store).outcome s).1.1 ∧
      IsSound source.name ((files source settings now jobs paths store).outcome s).1.2 := by
  rw [files]
  split
  · obtain ⟨hresults, hafter⟩ := each_isListResult hstore paths now s
    exact ⟨hresults.merge, hafter⟩
  · obtain ⟨hresults, hafter⟩ := all_isFileResult hstore paths now s
    exact ⟨(isListResult_mapM hresults).merge, hafter⟩

end Files

/-! ### Stores of settings -/

/-- The stores that an analysis with some settings can have produced: the new one, and those that
surveys leave, be it one after the other or at the same time, and that remain when results are
dropped. -/
inductive Produced (source : TreeSource σ) (settings : Settings) : Store Numeral.Number → Prop
  | new {store : Store Numeral.Number} (new : storeFor settings = .ok store) :
      Produced source settings store
  | surveyed {store : Store Numeral.Number} (produced : Produced source settings store)
      (now : Numeral.Number) (jobs : Option Int) (paths : List String) (s : Scene σ) :
      Produced source settings ((files source settings now jobs paths store).outcome s).1.2
  | interleaved {c : Cache Numeral.Number Inventory} (produced : Produced source settings (some c))
      (paths : ℕ → String) (actions : List (Action Numeral.Number)) (s : Scene σ)
      (now : Numeral.Number) :
      Produced source settings (some (run source paths actions (.initial s now c)).cache)
  | dropped {c before : Cache Numeral.Number Inventory}
      (produced : Produced source settings (some before)) (within : c.Within before) :
      Produced source settings (some c)

section Loaded

variable {host : Host} {document : Option String} {settings : Settings}
  (hsettings : (Settings.load host document).outcome.value = .ok settings)

include hsettings

/-- Loaded settings have a store, which is sound. -/
lemma exists_storeFor (tool : String) :
    ∃ store, storeFor settings = .ok store ∧ IsSound tool store := by
  have hsize := Settings.one_le_cacheSize_of_load hsettings
  by_cases henabled : settings.cacheEnabled = true
  · obtain ⟨lifetime, hstore⟩ := exists_storeFor_eq settings henabled (by omega)
    refine ⟨_, hstore, ?_⟩
    rintro _ ⟨⟩
    have hroom : settings.cacheSize.toNat ≠ 0 := by omega
    exact ⟨hroom, by simp, by simp⟩
  · rw [storeFor, if_neg henabled]
    exact ⟨none, rfl, isSound_none⟩

/-- **What is produced is sound**: no failure is ever stored. -/
theorem Produced.isSound {source : TreeSource σ} {store : Store Numeral.Number}
    (h : Produced source settings store) : IsSound source.name store := by
  induction h with
  | new new =>
    obtain ⟨store, hstore, hsound⟩ := exists_storeFor hsettings source.name
    cases new.symm.trans hstore
    exact hsound
  | surveyed _ now jobs paths s ih =>
    exact (files_isBatchResult ih settings now jobs paths s).2
  | @interleaved c _ paths actions s now ih =>
    rintro _ ⟨⟩
    exact (run_isOrderly (isOrderly_initial (ih c rfl) paths s now) actions).cache
  | @dropped c before _ within ih =>
    rintro _ ⟨⟩
    exact (ih before rfl).of_within within

/-- **Every file of a batch is recorded, and no failure is stored.** Whatever the settings, the
source, the files, the number of workers and the earlier surveys, the result for some files is the
merge of what is recorded for each of them, in their order: either one failure, which names the
file, or an analysis without a problem. The same holds of surveys that go on at the same time, after
four steps of each. There is no result only if one of the paths holds a character that no path can
hold.

**Proof sketch.** A step of a survey either records a result, or passes on what it has read and
analysed, so that only an analysis without a problem gets to the step that stores it
(`advance_isOrderly`). Of the operations on the store, storing succeeds, since loaded settings make
room for a result and the file has been read under its path, and a look-up fails only with an entry
for a path that no file can have (`Cache.get_eq_error_iff`). -/
theorem batch_recorded {source : TreeSource σ} {store : Store Numeral.Number}
    (hstore : Produced source settings store) :
    IsSound source.name store ∧
      (∀ now jobs paths s, let o := (files source settings now jobs paths store).outcome s
        IsBatchResult source.name paths o.1.1 ∧ IsSound source.name o.1.2) ∧
      ∀ c, store = some c → ∀ (paths : ℕ → String) n actions s now,
        (∀ i < n, 4 ≤ actions.countP (Action.isStepOf i)) →
          let st := run source paths actions (.initial s now c)
          (∃ result, collected n st = some result ∧
            IsBatchResult source.name ((List.range n).map paths) result) ∧
          HoldsAnalyses source.name st.cache := by
  have hsound := hstore.isSound hsettings
  refine ⟨hsound, fun now jobs paths s => files_isBatchResult hsound settings now jobs paths s, ?_⟩
  intro c hc paths n actions s now hcount
  have horderly := run_isOrderly (isOrderly_initial (hsound c hc) paths s now) actions
  refine ⟨collected_isBatchResult horderly fun i hi => ?_, horderly.cache⟩
  have hleft := stepsLeft_run source paths actions (.initial s now c) i
  have hbegun : ((State.initial s now c).calls i).stepsLeft = 4 := rfl
  have := hcount i hi
  omega

end Loaded

/-- A batch of a file and of one that does not exist is recorded. -/
theorem batch_recorded_missing : ∃ settings store parts,
    (Settings.load twoFiles none).outcome.value = .ok settings ∧
      Produced moduleSource settings store ∧
      ((files moduleSource settings (.int 0) none ["a.sv", "c.sv"] store).outcome
        ⟨twoFiles, ()⟩).1.1 = .ok (.merge parts) ∧
      List.Forall₂ (IsRecorded moduleSource.name) ["a.sv", "c.sv"] parts := by
  have hsettings : (Settings.load twoFiles none).outcome.value =
      .ok (({} : Settings).withVariables twoFiles) := rfl
  obtain ⟨store, hnew, -⟩ := exists_storeFor hsettings moduleSource.name
  have hstore : Produced moduleSource _ store := .new hnew
  obtain ⟨-, hfiles, -⟩ := batch_recorded hsettings hstore
  obtain ⟨hresult, -⟩ := hfiles (.int 0) none ["a.sv", "c.sv"] ⟨twoFiles, ()⟩
  rcases houtcome : ((files moduleSource _ (.int 0) none ["a.sv", "c.sv"] store).outcome
    ⟨twoFiles, ()⟩).1.1 with e | inv
  · rw [houtcome] at hresult
    obtain ⟨path, hpath, hmem, -⟩ := hresult
    have hplain : ∀ path ∈ ["a.sv", "c.sv"], '\x00' ∉ path.toList := by decide
    exact absurd hmem (hplain path hpath)
  · rw [houtcome] at hresult
    obtain ⟨parts, rfl, hparts⟩ := hresult
    exact ⟨_, store, parts, hsettings, hstore, houtcome, hparts⟩

/-- **A batch that is aborted**: the second path has the absolute path of the first one, whose
result is stored by then. -/
theorem files_aborted :
    ((files moduleSource {} 0 none ["a.sv", "a.sv\x00/../a.sv"]
        (some { capacity := 1, lifetime := none } : Store ℕ)).outcome ⟨twoFiles, ()⟩).1.1 =
      .error (.file ⟨.nullByte, "a.sv\x00/../a.sv"⟩) := by
  decide +kernel

end Survey

end FlopCensus
