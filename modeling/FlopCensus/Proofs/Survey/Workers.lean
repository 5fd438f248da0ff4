import FlopCensus.Proofs.Survey.Batch
import FlopCensus.Proofs.Survey.Transparency
import Mathlib.Data.List.Basic
import Mathlib.Tactic.Common

set_option autoImplicit false
set_option relaxedAutoImplicit false

/-!
# Batches with several workers

The workers of a batch look files up in one store, analyse them and store the results, in an order
that nobody knows. It decides what is found, what has expired and what has to make room. But while
no file is edited, every entry of the store has the result that an analysis of its file would have,
so the merged result is that of the files one after the other.

## Main definitions

* `FlopCensus.Survey.Action.IsQuiet` — what happens while some surveys go on and no file is edited.
* `FlopCensus.Survey.advanceBare` — a survey without a store, in steps.
* `FlopCensus.Survey.Progress.IsOf` — a survey that has got what an analysis of its file yields.
* `FlopCensus.Survey.LeftBehind` — the stores that earlier batches leave.

## Main results

* `FlopCensus.Survey.advance_isOf`, `FlopCensus.Survey.State.Satisfies.runBy` — a step, and a run.
* `FlopCensus.Survey.collected_eq_files` — a batch with workers in any order.

## Design

What a batch without a store is like is told by the same states, with a cache that no step touches.
-/

namespace FlopCensus.Survey

variable {σ τ : Type}

/-! ### Runs without edits -/

/-- What happens while the first `n` surveys go on and no file is edited. -/
def Action.IsQuiet (n : ℕ) : Action τ → Prop
  | .edit _ => False
  | .clock _ => True
  | .advance i => i < n

/-- Something holds of each survey, and something of the scene and the store. -/
structure State.Satisfies (call : ℕ → Progress σ → Prop)
    (ground : Scene σ → Cache τ Inventory → Prop) (st : State σ τ) : Prop where
  /-- What holds of each survey. -/
  calls : ∀ i, call i (st.calls i)
  /-- What holds of the scene and the store. -/
  ground : ground st.scene st.cache

/-- **What the steps of the surveys keep is kept by a run.** -/
theorem State.Satisfies.runBy
    {next : String → τ → Scene σ → Cache τ Inventory → Progress σ →
      Progress σ × Scene σ × Cache τ Inventory}
    {paths : ℕ → String} {n : ℕ} {call : ℕ → Progress σ → Prop}
    {ground : Scene σ → Cache τ Inventory → Prop}
    (hnext : ∀ i < n, ∀ now s c p, ground s c → call i p →
      call i (next (paths i) now s c p).1 ∧
        ground (next (paths i) now s c p).2.1 (next (paths i) now s c p).2.2)
    {actions : List (Action τ)} (hquiet : ∀ a ∈ actions, a.IsQuiet n) {st : State σ τ}
    (h : st.Satisfies call ground) : (runBy next paths actions st).Satisfies call ground := by
  induction actions generalizing st with
  | nil => exact h
  | cons action actions ih =>
    rw [List.forall_mem_cons] at hquiet
    obtain ⟨hfirst, hrest⟩ := hquiet
    cases action with
    | edit host => exact hfirst.elim
    | clock now => exact ih hrest ⟨h.calls, h.ground⟩
    | advance i =>
      obtain ⟨hcall, hground⟩ :=
        hnext i hfirst st.now st.scene st.cache (st.calls i) h.ground (h.calls i)
      refine ih hrest ⟨fun j => ?_, hground⟩
      by_cases hj : j = i
      · subst hj
        rw [State.stepBy, State.calls_moveTo_self]
        exact hcall
      · rw [State.stepBy, State.calls_moveTo_of_ne hj]
        exact h.calls j

/-! ### Surveys without a store -/

section Bare

variable [Add τ] [LT τ] [DecidableLT τ]

/-- The next step of a survey without a store: nothing is looked up and nothing is stored. -/
def advanceBare (source : TreeSource σ) (path : String) (now : τ) (s : Scene σ)
    (c : Cache τ Inventory) : Progress σ → Progress σ × Scene σ × Cache τ Inventory
  | .begun => (.missed "", s, c)
  | .analysed _ inv read printed => (.kept inv read printed none, s, c)
  | p => advance source path now s c p

/-- Each step is one less. -/
lemma stepsLeft_advanceBare (source : TreeSource σ) (path : String) (now : τ) (s : Scene σ)
    (c : Cache τ Inventory) (p : Progress σ) :
    (advanceBare source path now s c p).1.stepsLeft ≤ p.stepsLeft - 1 := by
  cases p with
  | begun => exact Nat.le_refl 3
  | analysed key inv read printed => exact Nat.le_refl 0
  | _ => exact stepsLeft_advance source path now s c _

/-- **The four steps without a break are a survey of the file without a store.** -/
theorem iterate_advanceBare (source : TreeSource σ) (path : String) (now : τ) (s : Scene σ)
    (c : Cache τ Inventory) :
    ∃ p, (fun q : Progress σ × Scene σ × Cache τ Inventory =>
          advanceBare source path now q.2.1 q.2.2 q.1)^[4] (.begun, s, c) =
        (p, ((file source now path (none : Store τ)).outcome s).2, c) ∧
      p.answer? = some ((file source now path (none : Store τ)).outcome s).1.1 := by
  simp only [outcome_file_none, outcome_plain, outcome_examine, Function.iterate_succ_apply,
    Function.iterate_zero_apply, advanceBare, advance]
  cases hread : s.host.files.read path with
  | error e => exact ⟨_, rfl, rfl⟩
  | ok content =>
    rcases hprint : (source.printTree path).outcome s with ⟨e | o, t⟩
    · exact ⟨_, rfl, rfl⟩
    · dsimp only
      cases hanalysis : analysis source.name path content o with
      | error p => exact ⟨_, rfl, rfl⟩
      | ok inv => exact ⟨_, rfl, rfl⟩

end Bare

/-! ### What surveys have got -/

/-- A survey has got what an analysis of its file yields, the file being looked up under a key. -/
def Progress.IsOf (key tool : String) (host : Host)
    (dumps : String → Except SourceFailure ToolOutput) (path : String) : Progress σ → Prop
  | .begun => True
  | .missed key' => key' = key
  | .read key' content => key' = key ∧ host.files.read path = .ok content
  | .analysed key' inv _ _ => key' = key ∧ examined tool host dumps path = .ok inv
  | .kept inv _ _ _ => inv = resultOf tool host dumps path
  | .found inv _ => inv = resultOf tool host dumps path
  | .failed inv => inv = resultOf tool host dumps path
  | .broken _ => False

section Steady

variable {source : TreeSource σ} {host : Host} {dumps : String → Except SourceFailure ToolOutput}
  {names : List String} {digest : List UInt8 → String}

/-- A survey that has ended yields the result for its file. -/
lemma Progress.IsOf.answer {key tool path : String} {p : Progress σ}
    (h : p.IsOf key tool host dumps path) (hended : p.stepsLeft = 0) :
    p.answer? = some (.ok (resultOf tool host dumps path)) := by
  cases p with
  | begun => cases hended
  | missed key => cases hended
  | read key content => cases hended
  | analysed key inv read printed => cases hended
  | kept inv read printed stored => exact congrArg (some ∘ Except.ok) h
  | found inv scene => exact congrArg (some ∘ Except.ok) h
  | failed inv => exact congrArg (some ∘ Except.ok) h
  | broken e => exact h.elim

variable [Add τ] [LT τ] [DecidableLT τ] (hsteady : IsSteady source host dumps)

include hsteady

omit hsteady in
/-- A survey that reads its file has got the content of the file, or its result. -/
lemma advance_missed_isOf {path key : String} (now : τ) (own : σ) (c : Cache τ Inventory) :
    ∃ p, advance source path now ⟨host, own⟩ c (.missed key) = (p, ⟨host, own⟩, c) ∧
      p.IsOf key source.name host dumps path := by
  rw [advance]
  cases hread : host.files.read path with
  | error e => exact ⟨_, rfl, by rw [Progress.IsOf, resultOf, examined, hread]; rfl⟩
  | ok content => exact ⟨_, rfl, rfl, hread⟩

/-- A survey that asks the source has got an analysis of its file, or its result. -/
lemma advance_read_isOf {path key : String} {content : List UInt8}
    (hread : host.files.read path = .ok content) (now : τ) (own : σ) (c : Cache τ Inventory) :
    ∃ p own', advance source path now ⟨host, own⟩ c (.read key content) = (p, ⟨host, own'⟩, c) ∧
      p.IsOf key source.name host dumps path := by
  obtain ⟨own', hprint⟩ := hsteady path own
  rw [advance, hprint]
  cases hdump : dumps path with
  | error e =>
    have hexamined : examined source.name host dumps path = .error (.source e) := by
      simp only [examined, hread, hdump]
    refine ⟨_, own', rfl, ?_⟩
    rw [Progress.IsOf, resultOf, hexamined]
    rfl
  | ok o =>
    have hexamined : examined source.name host dumps path =
        analysis source.name path content o := by
      simp only [examined, hread, hdump]
    dsimp only
    cases hanalysis : analysis source.name path content o with
    | error p =>
      refine ⟨_, own', rfl, ?_⟩
      rw [Progress.IsOf, resultOf, hexamined, hanalysis]
      rfl
    | ok inv => exact ⟨_, own', rfl, rfl, hexamined.trans hanalysis⟩

/-- **A step of a survey with a store** keeps what it has got that of its file, and what the store
holds that of the files. -/
theorem advance_isOf (hnames : Interchangeable source.name host dumps names)
    (hdigest : TellsApart digest source.name host.files names) {path : String} (hpath : path ∈ names)
    {c : Cache τ Inventory} (hc : Remembers source host dumps names c) (hsame : c.digest = digest)
    {p : Progress σ}
    (hp : p.IsOf (fileKey digest source.name host.files path) source.name host dumps path) (now : τ)
    (own : σ) :
    ∃ p' own' c', advance source path now ⟨host, own⟩ c p = (p', ⟨host, own'⟩, c') ∧
      p'.IsOf (fileKey digest source.name host.files path) source.name host dumps path ∧
      Remembers source host dumps names c' ∧ c'.digest = digest := by
  subst hsame
  -- only the look-up and the storing go to the store; the other steps leave it as it is
  cases p with
  | begun =>
    obtain ⟨found, c', hget, hfound, hdigest', hc'⟩ := hc.get hdigest hnames hpath now
    simp only [advance, outcome_lookUp, hget]
    cases found with
    | none => exact ⟨_, own, c', rfl, rfl, hc', hdigest'⟩
    | some inv => exact ⟨_, own, c', rfl, hfound inv rfl, hc', hdigest'⟩
  | missed key =>
    cases hp
    obtain ⟨p', hstep, hp'⟩ := advance_missed_isOf now own c
    exact ⟨p', own, c, hstep, hp', hc, rfl⟩
  | read key content =>
    obtain ⟨rfl, hread⟩ := hp
    obtain ⟨p', own', hstep, hp'⟩ := advance_read_isOf hsteady hread now own c
    exact ⟨p', own', c, hstep, hp', hc, rfl⟩
  | analysed key inv read printed =>
    obtain ⟨rfl, hexamined⟩ := hp
    have hpossible := isPossible_of_examined hexamined
    have hkept := congrArg Prod.fst (Cache.value_set_of_room hpossible hc.room now host.files
      (fileKey c.digest source.name host.files path) inv)
    have hdigest' := (Cache.capacity_digest_set hpossible c now host.files
      (fileKey c.digest source.name host.files path) inv).2
    have hc' := hc.set hpath hexamined now
    rcases hset : (c.set now host.files (fileKey c.digest source.name host.files path) inv
      (some path)).value with ⟨r, c'⟩
    rw [hset] at hkept hdigest' hc'
    obtain rfl := hkept
    simp only [advance, outcome_keep, hset]
    refine ⟨_, own, c', rfl, ?_, hc', hdigest'⟩
    rw [Progress.IsOf, resultOf, hexamined]
    rfl
  | kept inv read printed stored => exact ⟨_, own, c, rfl, hp, hc, rfl⟩
  | found inv scene => exact ⟨_, own, c, rfl, hp, hc, rfl⟩
  | failed inv => exact ⟨_, own, c, rfl, hp, hc, rfl⟩
  | broken e => exact hp.elim

/-- **A step of a survey without a store** keeps what it has got that of its file. -/
theorem advanceBare_isOf {path : String} {p : Progress σ}
    (hp : p.IsOf "" source.name host dumps path) (now : τ) (own : σ) (c : Cache τ Inventory) :
    ∃ p' own', advanceBare source path now ⟨host, own⟩ c p = (p', ⟨host, own'⟩, c) ∧
      p'.IsOf "" source.name host dumps path := by
  cases p with
  | begun => exact ⟨_, own, rfl, rfl⟩
  | missed key =>
    cases hp
    obtain ⟨p', hstep, hp'⟩ := advance_missed_isOf now own c
    exact ⟨p', own, hstep, hp'⟩
  | read key content =>
    obtain ⟨rfl, hread⟩ := hp
    exact advance_read_isOf hsteady hread now own c
  | analysed key inv read printed =>
    refine ⟨_, own, rfl, ?_⟩
    rw [Progress.IsOf, resultOf, hp.2]
    rfl
  | kept inv read printed stored => exact ⟨_, own, rfl, hp⟩
  | found inv scene => exact ⟨_, own, rfl, hp⟩
  | failed inv => exact ⟨_, own, rfl, hp⟩
  | broken e => exact hp.elim

/-! ### Batches -/

/-- **A run of surveys with a store** keeps what they have got that of their files, and what the
store holds that of the files. -/
theorem run_isOf (hnames : Interchangeable source.name host dumps names) {c : Cache τ Inventory}
    (hdigest : TellsApart c.digest source.name host.files names)
    (hc : Remembers source host dumps names c) {paths : ℕ → String} {n : ℕ}
    (hpaths : ∀ i < n, paths i ∈ names) {actions : List (Action τ)}
    (hquiet : ∀ a ∈ actions, a.IsQuiet n) (now : τ) (own : σ) :
    (run source paths actions (.initial ⟨host, own⟩ now c)).Satisfies
      (fun i p => p.IsOf (fileKey c.digest source.name host.files (paths i)) source.name host dumps
        (paths i))
      (fun s c' => s.host = host ∧ Remembers source host dumps names c' ∧ c'.digest = c.digest) := by
  rw [run_eq_runBy]
  refine State.Satisfies.runBy ?_ hquiet ⟨fun _ => trivial, rfl, hc, rfl⟩
  rintro i hi now ⟨_, own⟩ c' p ⟨rfl, hc', hsame⟩ hp
  obtain ⟨p', own', c'', hstep, hp', hc'', hsame'⟩ :=
    advance_isOf hsteady hnames hdigest (hpaths i hi) hc' hsame hp now own
  rw [hstep]
  exact ⟨hp', rfl, hc'', hsame'⟩

/-- **A run of surveys without a store** keeps what they have got that of their files. -/
theorem runBare_isOf {paths : ℕ → String} {n : ℕ} {actions : List (Action τ)}
    (hquiet : ∀ a ∈ actions, a.IsQuiet n) (now : τ) (own : σ) (c : Cache τ Inventory) :
    (runBy (advanceBare source) paths actions (.initial ⟨host, own⟩ now c)).Satisfies
      (fun i p => p.IsOf "" source.name host dumps (paths i)) (fun s _ => s.host = host) := by
  refine State.Satisfies.runBy ?_ hquiet ⟨fun _ => trivial, rfl⟩
  rintro i - now ⟨_, own⟩ c' p rfl hp
  obtain ⟨p', own', hstep, hp'⟩ := advanceBare_isOf hsteady hp now own c'
  rw [hstep]
  exact ⟨hp', rfl⟩

end Steady

/-- The state of a batch whose workers take their steps in some order, with a store or without. -/
def stateOf [Add τ] [LT τ] [DecidableLT τ] (source : TreeSource σ) (paths : List String)
    (actions : List (Action τ)) (s : Scene σ) (now : τ) : Store τ → State σ τ
  | some c => run source (paths.getD · "") actions (.initial s now c)
  -- no step looks at this cache
  | none => runBy (advanceBare source) (paths.getD · "") actions
      (.initial s now { capacity := 0, lifetime := none })

/-- The stores that earlier batches of some paths leave while no file is edited: a new one or none,
and what is left by further batches, be it one file after the other or with workers in any order. -/
inductive LeftBehind [Add τ] [LT τ] [DecidableLT τ] (source : TreeSource σ) (host : Host)
    (digest : List UInt8 → String) (paths : List String) : Store τ → Prop
  | none : LeftBehind source host digest paths none
  | new {c : Cache τ Inventory} (empty : c.entries = []) (room : 1 ≤ c.capacity)
      (same : c.digest = digest) : LeftBehind source host digest paths (some c)
  | files {store : Store τ} (left : LeftBehind source host digest paths store)
      {batch : List String} (known : ∀ p ∈ batch, p ∈ paths) (settings : Settings) (now : τ)
      (jobs : Option Int) (own : σ) : LeftBehind source host digest paths
        ((files source settings now jobs batch store).outcome ⟨host, own⟩).1.2
  | workers {c : Cache τ Inventory} (left : LeftBehind source host digest paths (some c))
      {batch : List String} (known : ∀ p ∈ batch, p ∈ paths) {actions : List (Action τ)}
      (quiet : ∀ a ∈ actions, a.IsQuiet batch.length) (now : τ) (own : σ) :
      LeftBehind source host digest paths
        (some (stateOf source batch actions ⟨host, own⟩ now (some c)).cache)

section Batches

variable [Add τ] [LT τ] [DecidableLT τ] {source : TreeSource σ} {host : Host}
  {dumps : String → Except SourceFailure ToolOutput} {digest : List UInt8 → String}
  {paths : List String}

/-- A path with a number is one of the paths. -/
lemma getD_mem {batch : List String} {i : ℕ} (h : i < batch.length) : batch.getD i "" ∈ batch := by
  simp [h]

/-- The files with numbers are the files of the batch in their order. -/
lemma map_range_getD {α : Type} (f : String → α) (batch : List String) :
    ((List.range batch.length).map fun i => f (batch.getD i "")) = batch.map f := by
  refine List.ext_getElem (by simp) fun i _ hi => ?_
  rw [List.length_map] at hi
  simp [hi]

/-- The survey of a batch, file by file, with a store or without. -/
lemma outcome_files_of_ready (hsteady : IsSteady source host dumps)
    (hnames : Interchangeable source.name host dumps paths) {store : Store τ}
    (hstore : Ready source host dumps paths store) {batch : List String}
    (hknown : ∀ p ∈ batch, p ∈ paths) (settings : Settings) (now : τ) (jobs : Option Int)
    (own : σ) :
    ∃ store' own', (files source settings now jobs batch store).outcome ⟨host, own⟩ =
        ((.ok (.merge (batch.map (resultOf source.name host dumps))), store'), ⟨host, own'⟩) ∧
      Ready source host dumps paths store' := by
  have hcall : ∀ p ∈ (Call.many now jobs batch).paths, p ∈ paths := hknown
  exact outcome_answer_of_ready hsteady hnames hstore hcall settings own

/-- The stores that earlier batches leave hold results of the files only. -/
lemma LeftBehind.ready (hsteady : IsSteady source host dumps)
    (hdigest : TellsApart digest source.name host.files paths)
    (hnames : Interchangeable source.name host dumps paths) {store : Store τ}
    (h : LeftBehind source host digest paths store) : Ready source host dumps paths store := by
  induction h with
  | none => trivial
  | new empty room same =>
    refine ⟨same ▸ hdigest, Nat.one_le_iff_ne_zero.1 room, ?_⟩
    rw [empty]
    simp
  | files _ known settings now jobs own ih =>
    obtain ⟨store', own', hfiles, hready⟩ :=
      outcome_files_of_ready hsteady hnames ih known settings now jobs own
    rw [hfiles]
    exact hready
  | @workers c _ batch known actions quiet now own ih =>
    obtain ⟨htells, hremembers⟩ := ih
    obtain ⟨-, -, hcache, hsame⟩ := run_isOf hsteady hnames htells hremembers
      (fun i hi => known _ (getD_mem hi)) quiet now own
    exact ⟨hsame ▸ htells, hcache⟩

omit [Add τ] [LT τ] [DecidableLT τ] in
/-- Answers of surveys that have ended are merged in their order. -/
lemma collected_of_answers {n : ℕ} {st : State σ τ} {result : ℕ → Inventory}
    (h : ∀ i < n, (st.calls i).answer? = some (.ok (result i))) :
    collected n st = some (.ok (.merge ((List.range n).map result))) := by
  have hanswers : ∀ numbers : List ℕ, (∀ i ∈ numbers, i < n) →
      numbers.mapM (fun i => (st.calls i).answer?) =
        some (numbers.map fun i => .ok (result i)) := by
    intro numbers hnumbers
    induction numbers with
    | nil => rfl
    | cons i numbers ih =>
      rw [List.forall_mem_cons] at hnumbers
      rw [List.mapM_cons, h i hnumbers.1, ih hnumbers.2]
      rfl
  rw [collected, hanswers _ fun i hi => List.mem_range.1 hi, Option.map_some, mapM_id_map_ok]
  rfl

/-- A batch whose workers have taken all their steps yields the results of its files, with a store
or without. -/
lemma collected_stateOf (hsteady : IsSteady source host dumps)
    (hnames : Interchangeable source.name host dumps paths) {store : Store τ}
    (hstore : Ready source host dumps paths store) {actions : List (Action τ)}
    (hquiet : ∀ a ∈ actions, a.IsQuiet paths.length)
    (hturns : ∀ i < paths.length, 4 ≤ actions.countP (Action.isStepOf i)) (now : τ) (own : σ) :
    collected paths.length (stateOf source paths actions ⟨host, own⟩ now store) =
      some (.ok (.merge (paths.map (resultOf source.name host dumps)))) := by
  rw [← map_range_getD]
  refine collected_of_answers fun i hi => ?_
  have hcount := hturns i hi
  have hbegun : ∀ c : Cache τ Inventory,
      ((State.initial (⟨host, own⟩ : Scene σ) now c).calls i).stepsLeft = 4 := fun _ => rfl
  -- four turns are enough for a survey, whatever happens between them
  cases store with
  | none =>
    refine ((runBare_isOf hsteady hquiet now own _).calls i).answer ?_
    have hleft := stepsLeft_runBy (stepsLeft_advanceBare source) (paths.getD · "") actions
      (.initial ⟨host, own⟩ now { capacity := 0, lifetime := none }) i
    have := hbegun { capacity := 0, lifetime := none }
    omega
  | some c =>
    refine ((run_isOf hsteady hnames hstore.1 hstore.2 (fun j hj => getD_mem hj) hquiet now
      own).calls i).answer ?_
    have hleft := stepsLeft_run source (paths.getD · "") actions (.initial ⟨host, own⟩ now c) i
    have := hbegun c
    omega

/-- **The order in which workers take their steps is invisible.** Of files that are named in one way
each and are not edited, a batch yields the merge of the results in the order of the files, be it
with one worker or with workers that take their steps in any order, with any store that earlier
batches of the files have left or without a store.

**Proof sketch.** Every entry of the store has the result and the content of a file of the batches
(`Remembers`), and every survey has got what its file yields (`Progress.IsOf`). Each step keeps both
(`advance_isOf`), whatever has expired, has made room or has been found. -/
theorem collected_eq_files (hsteady : IsSteady source host dumps)
    (hdistinct : (paths.map (Files.absolute host.files.workingPath)).Nodup)
    (hdigest : TellsApart digest source.name host.files paths) {store : Store τ}
    (hstore : LeftBehind source host digest paths store) {actions : List (Action τ)}
    (hquiet : ∀ a ∈ actions, a.IsQuiet paths.length)
    (hturns : ∀ i < paths.length, 4 ≤ actions.countP (Action.isStepOf i)) (settings : Settings)
    (now now' : τ) (own own' : σ) :
    let alone := ((files source settings now' (some 1) paths store).outcome ⟨host, own'⟩).1.1
    collected paths.length (stateOf source paths actions ⟨host, own⟩ now store) = some alone ∧
      alone = .ok (.merge (paths.map (resultOf source.name host dumps))) := by
  have hnames : Interchangeable source.name host dumps paths :=
    interchangeable_of_injOn _ _ _ fun p hp q hq heq => List.inj_on_of_nodup_map hdistinct hp hq heq
  have hready := hstore.ready hsteady hdigest hnames
  obtain ⟨store', own₁, hfiles, -⟩ :=
    outcome_files_of_ready hsteady hnames hready (fun _ hp => hp) settings now' (some 1) own'
  rw [collected_stateOf hsteady hnames hready hquiet hturns, hfiles]
  exact ⟨rfl, rfl⟩

end Batches

/-- Two workers with a store for one result, which an earlier batch has filled. The result expires
before the second worker looks it up; this worker overtakes the first one, which drives out the new
result again. -/
theorem collected_twoFiles :
    let paths := ["a.sv", "/b.sv"]
    let new : Cache ℕ Inventory := { capacity := 1, lifetime := some 3 }
    let store := ((files moduleSource {} 0 none paths (some new)).outcome ⟨twoFiles, ()⟩).1.2
    let actions : List (Action ℕ) := [.advance 0, .clock 4, .advance 1, .advance 1, .advance 1,
      .advance 0, .advance 1, .advance 0, .advance 0]
    LeftBehind moduleSource twoFiles Digest.md5Hex paths store ∧
      (paths.map (Files.absolute twoFiles.files.workingPath)).Nodup ∧
      (∀ a ∈ actions, a.IsQuiet 2) ∧ (∀ i < 2, 4 ≤ actions.countP (Action.isStepOf i)) ∧
      collected 2 (stateOf moduleSource paths actions ⟨twoFiles, ()⟩ 0 store) =
        some ((files moduleSource {} 0 (some 1) paths store).outcome ⟨twoFiles, ()⟩).1.1 := by
  intro paths new store actions
  have hdistinct : (paths.map (Files.absolute twoFiles.files.workingPath)).Nodup := by
    decide +kernel
  have hdigest : TellsApart Digest.md5Hex moduleSource.name twoFiles.files paths :=
    ⟨by decide +kernel, by decide +kernel⟩
  have hnew : LeftBehind moduleSource twoFiles Digest.md5Hex paths (some new) :=
    .new rfl le_rfl rfl
  have hstore : LeftBehind moduleSource twoFiles Digest.md5Hex paths store :=
    .files hnew (fun _ hp => hp) {} 0 none ()
  have hquiet : ∀ a ∈ actions, a.IsQuiet 2 := by
    simp [actions, Action.IsQuiet]
  have hturns : ∀ i < 2, 4 ≤ actions.countP (Action.isStepOf i) := by
    decide
  exact ⟨hstore, hdistinct, hquiet, hturns, (collected_eq_files isSteady_moduleSource hdistinct
    hdigest hstore hquiet hturns {} 0 0 () ()).1⟩

end FlopCensus.Survey
