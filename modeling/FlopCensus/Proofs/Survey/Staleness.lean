import FlopCensus.Proofs.Survey.Interleaving
import FlopCensus.Proofs.Survey.Transparency
import Mathlib.Data.Set.Function
import Mathlib.Tactic.Common

set_option autoImplicit false
set_option relaxedAutoImplicit false

/-!
# Results that are out of date

A result is stored with the fingerprint of the content that the file has when it is stored. What is
found later was therefore stored for the content at the look-up, and is right if this is also the
content that was read and printed.

## Main definitions

* `FlopCensus.Survey.FollowsContent` — a source that prints the content that it finds.
* `FlopCensus.Survey.Traced` — the invariant of the runs on one file.
* `FlopCensus.Survey.Calm` — runs without edits between the reading and the storing of a survey.

## Main results

* `FlopCensus.Survey.Traced.step`, `FlopCensus.Survey.Traced.run` — the invariant along a run.
* `FlopCensus.Survey.found_of_kept` — what is found was stored for the content at the look-up.
* `FlopCensus.Survey.found_eq_plain` — it is right if this content was read and printed.
* `FlopCensus.Survey.found_eq_plain_of_calm` — so it is if files are edited between surveys only.
-/

namespace FlopCensus.Survey

variable {σ τ : Type}

/-! ### The invariant -/

/-- A source that prints the content that it finds, and leaves the host as it is. -/
def FollowsContent (source : TreeSource σ) (path : String)
    (dump : Option (List UInt8) → Except SourceFailure ToolOutput) : Prop :=
  ∀ s, ∃ own', (source.printTree path).outcome s =
    (dump (s.host.files.content? path), ⟨s.host, own'⟩)

/-- The analysis of a content with the dump of the content that the source found. -/
def examinedFrom (tool path : String) (dump : Option (List UInt8) → Except SourceFailure ToolOutput)
    (read : List UInt8) (printed : Option (List UInt8)) : Except Problem Inventory :=
  match dump printed with
  | .error e => .error (.source e)
  | .ok o => analysis tool path read o

/-- A result has been stored for a content. -/
def State.Kept (st : State σ τ) (inv : Inventory) (stored : Option (List UInt8)) : Prop :=
  ∃ j read printed, st.calls j = .kept inv read printed stored

/-- What a survey keeps track of is so: its result is the analysis of what it read with the dump of
what was printed, or it was stored before. -/
def Progress.Sound (tool path : String)
    (dump : Option (List UInt8) → Except SourceFailure ToolOutput) (K : Set (Option (List UInt8)))
    (kept : Inventory → Option (List UInt8) → Prop) : Progress σ → Prop
  | .read _ _ => Files.IsPossible path
  | .analysed _ inv content printed =>
    Files.IsPossible path ∧ examinedFrom tool path dump content printed = .ok inv
  | .kept inv content printed stored =>
    Files.IsPossible path ∧ examinedFrom tool path dump content printed = .ok inv ∧ stored ∈ K
  | .found inv scene => kept inv (scene.host.files.content? path)
  | _ => True

/-- The invariant of the runs on one path, in which the file has contents of `K` only: what the
store holds has been stored by one of the surveys, with the fingerprint of the content at that
moment. -/
structure Traced (tool path : String)
    (dump : Option (List UInt8) → Except SourceFailure ToolOutput) (digest : List UInt8 → String)
    (K : Set (Option (List UInt8))) (st : State σ τ) : Prop where
  /-- Fingerprints are made by the digest. -/
  digest_eq : st.cache.digest = digest
  /-- The content is one of `K`. -/
  content_mem : st.scene.host.files.content? path ∈ K
  /-- The surveys are sound. -/
  sound : ∀ i, (st.calls i).Sound tool path dump K st.Kept
  /-- The entries have been stored. -/
  entries : ∀ e ∈ st.cache.entries, ∃ stored, st.Kept e.value stored ∧
    e.fingerprint = some (Store.markOf digest stored)

section Invariant

variable {source : TreeSource σ} {path : String}
  {dump : Option (List UInt8) → Except SourceFailure ToolOutput} {digest : List UInt8 → String}
  {K : Set (Option (List UInt8))} {st : State σ τ}

/-- A survey stays sound when more is stored. -/
lemma Progress.Sound.mono {tool : String} {kept kept' : Inventory → Option (List UInt8) → Prop}
    {p : Progress σ} (h : p.Sound tool path dump K kept)
    (hmono : ∀ inv stored, kept inv stored → kept' inv stored) :
    p.Sound tool path dump K kept' := by
  cases p with
  | found inv scene => exact hmono _ _ h
  | begun => exact h
  | missed key => exact h
  | read key content => exact h
  | analysed key inv read printed => exact h
  | kept inv read printed stored => exact h
  | failed inv => exact h
  | broken e => exact h

/-- What has been stored stays stored if a survey that has not ended takes a step. -/
lemma State.Kept.moveTo {i : ℕ} {p : Progress σ} {scene : Scene σ} {cache : Cache τ Inventory}
    {inv : Inventory} {stored : Option (List UInt8)} (h : st.Kept inv stored)
    (hi : (st.calls i).answer? = none) : (st.moveTo i p scene cache).Kept inv stored := by
  obtain ⟨j, read, printed, hj⟩ := h
  have hne : j ≠ i := by
    rintro rfl
    rw [hj] at hi
    cases hi
  exact ⟨j, read, printed, (State.calls_moveTo_of_ne hne).trans hj⟩

/-- The invariant after a step of a survey: the new progress is sound, and a new entry is the result
that the survey has stored. -/
lemma Traced.moveTo {i : ℕ} {p : Progress σ} {own : σ} {cache : Cache τ Inventory}
    (h : Traced source.name path dump digest K st) (hi : (st.calls i).answer? = none)
    (hdigest : cache.digest = st.cache.digest)
    (hsound : p.Sound source.name path dump K st.Kept)
    (hentries : ∀ e ∈ cache.entries, e ∈ st.cache.entries ∨ ∃ read printed stored,
      p = .kept e.value read printed stored ∧ e.fingerprint = some (Store.markOf digest stored)) :
    Traced source.name path dump digest K (st.moveTo i p ⟨st.scene.host, own⟩ cache) where
  digest_eq := hdigest.trans h.digest_eq
  content_mem := h.content_mem
  sound j := by
    have hmono : ∀ inv stored, st.Kept inv stored →
        (st.moveTo i p ⟨st.scene.host, own⟩ cache).Kept inv stored :=
      fun _ _ hkept => hkept.moveTo hi
    change ((st.moveTo i p ⟨st.scene.host, own⟩ cache).calls j).Sound ..
    by_cases hj : j = i
    · subst hj
      rw [State.calls_moveTo_self]
      exact hsound.mono hmono
    · rw [State.calls_moveTo_of_ne hj]
      exact (h.sound j).mono hmono
  entries e he := by
    obtain hold | ⟨read, printed, stored, rfl, hfingerprint⟩ := hentries e he
    · obtain ⟨stored, hkept, hfingerprint⟩ := h.entries e hold
      exact ⟨stored, hkept.moveTo hi, hfingerprint⟩
    · exact ⟨stored, ⟨i, read, printed, State.calls_moveTo_self⟩, hfingerprint⟩

/-- The invariant after a step of a survey that adds no entry. -/
lemma Traced.moveTo_of_within {i : ℕ} {p : Progress σ} {own : σ} {cache : Cache τ Inventory}
    (h : Traced source.name path dump digest K st) (hi : (st.calls i).answer? = none)
    (hwithin : cache.Within st.cache) (hsound : p.Sound source.name path dump K st.Kept) :
    Traced source.name path dump digest K (st.moveTo i p ⟨st.scene.host, own⟩ cache) :=
  h.moveTo hi hwithin.digest hsound fun e he => .inl (hwithin.mem e he)

/-- A result is stored for one of the contents only, and for a path that a file can have. -/
lemma Traced.isPossible {inv : Inventory} {stored : Option (List UInt8)}
    (h : Traced source.name path dump digest K st) (hkept : st.Kept inv stored) :
    Files.IsPossible path ∧ stored ∈ K := by
  obtain ⟨j, read, printed, hj⟩ := hkept
  have hsound := h.sound j
  rw [hj] at hsound
  exact ⟨hsound.1, hsound.2.2⟩

/-! ### Steps -/

section Run

variable [Add τ] [LT τ] [DecidableLT τ]

omit [Add τ] in
/-- The look-up of a survey. -/
lemma Traced.lookUp (h : Traced source.name path dump digest K st)
    (hK : K.InjOn (Store.markOf digest)) (key : String) {inv : Inventory}
    (hget : (st.cache.get st.now st.scene.host.files key (some path)).value.1 = .ok (some inv)) :
    st.Kept inv (st.scene.host.files.content? path) := by
  have hpath : (∃ e ∈ st.cache.entries, e.key = key) → Files.IsPossible path := by
    rintro ⟨e, he, -⟩
    obtain ⟨stored, hkept, -⟩ := h.entries e he
    exact (h.isPossible hkept).1
  obtain ⟨e, he, -, rfl, hfresh⟩ := Cache.get_eq_some hpath hget
  obtain ⟨stored, hkept, hfingerprint⟩ := h.entries e he
  have hmark : Store.markOf digest stored =
      Store.markOf digest (st.scene.host.files.content? path) := by
    rw [hfresh _ hfingerprint, h.digest_eq]
  rwa [hK (h.isPossible hkept).2 h.content_mem hmark] at hkept

variable {i : ℕ}

/-- The look-up keeps the invariant: what is found was stored for the present content. -/
lemma Traced.advance_begun (h : Traced source.name path dump digest K st)
    (hK : K.InjOn (Store.markOf digest)) (hcall : st.calls i = .begun) :
    Traced source.name path dump digest K (st.step source (fun _ => path) (.advance i)) := by
  have hactive : (st.calls i).answer? = none := by rw [hcall]; rfl
  rw [State.step, hcall, Survey.advance]
  dsimp only
  generalize fileKey st.cache.digest source.name st.scene.host.files path = key
  have hwithin := st.cache.within_get st.now st.scene.host.files key (some path)
  have hfound : ∀ inv, (st.cache.get st.now st.scene.host.files key (some path)).value.1 =
      .ok (some inv) → st.Kept inv (st.scene.host.files.content? path) :=
    fun _ => h.lookUp hK key
  rw [outcome_lookUp]
  rcases hget : (st.cache.get st.now st.scene.host.files key (some path)).value with ⟨r, c⟩
  rw [hget] at hwithin hfound
  obtain e | _ | inv := r
  · exact h.moveTo_of_within hactive hwithin trivial
  · exact h.moveTo_of_within hactive hwithin trivial
  · exact h.moveTo_of_within hactive hwithin (hfound inv rfl)

/-- Reading keeps the invariant. -/
lemma Traced.advance_missed (h : Traced source.name path dump digest K st) {key : String}
    (hcall : st.calls i = .missed key) :
    Traced source.name path dump digest K (st.step source (fun _ => path) (.advance i)) := by
  have hactive : (st.calls i).answer? = none := by rw [hcall]; rfl
  rw [State.step, hcall, Survey.advance]
  cases hread : st.scene.host.files.read path with
  | error e => exact h.moveTo_of_within hactive (.refl _) trivial
  | ok content =>
    exact h.moveTo_of_within hactive (.refl _) (FileSystem.isPossible_of_read hread)

/-- Asking the source keeps the invariant: the source follows the content that it finds. -/
lemma Traced.advance_read (h : Traced source.name path dump digest K st)
    (hfollows : FollowsContent source path dump) {key : String} {content : List UInt8}
    (hcall : st.calls i = .read key content) :
    Traced source.name path dump digest K (st.step source (fun _ => path) (.advance i)) := by
  have hactive : (st.calls i).answer? = none := by rw [hcall]; rfl
  have hpossible := h.sound i
  obtain ⟨own, hprint⟩ := hfollows st.scene
  rw [hcall] at hpossible
  rw [State.step, hcall, Survey.advance, hprint]
  cases hdump : dump (st.scene.host.files.content? path) with
  | error e => exact h.moveTo_of_within hactive (.refl _) trivial
  | ok o =>
    dsimp only
    cases hanalysis : analysis source.name path content o with
    | error p => exact h.moveTo_of_within hactive (.refl _) trivial
    | ok inv =>
      refine h.moveTo_of_within hactive (.refl _) ⟨hpossible, ?_⟩
      rw [examinedFrom, hdump]
      exact hanalysis

/-- Storing keeps the invariant: the survey accounts for the entry that it adds. -/
lemma Traced.advance_analysed (h : Traced source.name path dump digest K st) {key : String}
    {inv : Inventory} {read : List UInt8} {printed : Option (List UInt8)}
    (hcall : st.calls i = .analysed key inv read printed) :
    Traced source.name path dump digest K (st.step source (fun _ => path) (.advance i)) := by
  have hactive : (st.calls i).answer? = none := by rw [hcall]; rfl
  have hsound := h.sound i
  rw [hcall] at hsound
  obtain ⟨hpossible, hexamined⟩ := hsound
  obtain ⟨-, hdigest⟩ := Cache.capacity_digest_set hpossible st.cache st.now
    st.scene.host.files key inv
  have hnew : ∀ e ∈ (st.cache.set st.now st.scene.host.files key inv (some path)).value.2.entries,
      e ∈ st.cache.entries ∨ (e.key = key ∧ e.value = inv ∧
        e.fingerprint = some (Store.markOf st.cache.digest (st.scene.host.files.content? path)) ∧
        (st.cache.set st.now st.scene.host.files key inv (some path)).value.1 = .ok ()) :=
    fun _ he => Cache.mem_entries_set hpossible he
  rw [State.step, hcall, Survey.advance, outcome_keep]
  rcases hset : (st.cache.set st.now st.scene.host.files key inv (some path)).value with ⟨r, c⟩
  rw [hset] at hdigest hnew
  obtain e | _ := r
  · refine h.moveTo hactive hdigest trivial fun e he => .inl ?_
    obtain hmem | ⟨-, -, -, hfails⟩ := hnew e he
    · exact hmem
    · cases hfails
  · refine h.moveTo hactive hdigest ⟨hpossible, hexamined, h.content_mem⟩ fun e he => ?_
    obtain hmem | ⟨-, rfl, hfingerprint, -⟩ := hnew e he
    · exact .inl hmem
    · exact .inr ⟨read, printed, _, rfl, h.digest_eq ▸ hfingerprint⟩

/-- The invariant after a step of a survey. -/
theorem Traced.advance (h : Traced source.name path dump digest K st)
    (hfollows : FollowsContent source path dump) (hK : K.InjOn (Store.markOf digest)) (i : ℕ) :
    Traced source.name path dump digest K (st.step source (fun _ => path) (.advance i)) := by
  have hended : ∀ {answer}, (st.calls i).answer? = some answer →
      Traced source.name path dump digest K (st.step source (fun _ => path) (.advance i)) :=
    fun hanswer => (State.step_of_answer? hanswer).symm ▸ h
  cases hcall : st.calls i with
  | begun => exact h.advance_begun hK hcall
  | missed key => exact h.advance_missed hcall
  | read key content => exact h.advance_read hfollows hcall
  | analysed key inv read printed => exact h.advance_analysed hcall
  | kept inv read printed stored => exact hended (congrArg Progress.answer? hcall)
  | found inv scene => exact hended (congrArg Progress.answer? hcall)
  | failed inv => exact hended (congrArg Progress.answer? hcall)
  | broken e => exact hended (congrArg Progress.answer? hcall)

/-- **The invariant after an action.** -/
theorem Traced.step (h : Traced source.name path dump digest K st)
    (hfollows : FollowsContent source path dump) (hK : K.InjOn (Store.markOf digest))
    {action : Action τ} (hedit : ∀ host, action = .edit host → host.files.content? path ∈ K) :
    Traced source.name path dump digest K (st.step source (fun _ => path) action) := by
  cases action with
  | edit host => exact ⟨h.digest_eq, hedit host rfl, h.sound, h.entries⟩
  | clock now => exact ⟨h.digest_eq, h.content_mem, h.sound, h.entries⟩
  | advance i => exact h.advance hfollows hK i

/-- **The invariant along a run.** -/
theorem Traced.run {actions : List (Action τ)} (h : Traced source.name path dump digest K st)
    (hfollows : FollowsContent source path dump) (hK : K.InjOn (Store.markOf digest))
    (hedits : ∀ host, .edit host ∈ actions → host.files.content? path ∈ K) :
    Traced source.name path dump digest K (run source (fun _ => path) actions st) := by
  induction actions generalizing st with
  | nil => exact h
  | cons action actions ih =>
    have hstep : Traced source.name path dump digest K (st.step source (fun _ => path) action) :=
      h.step hfollows hK fun host haction => hedits host (haction ▸ List.mem_cons_self)
    exact ih hstep fun host hhost => hedits host (List.mem_cons_of_mem _ hhost)

omit [Add τ] [LT τ] [DecidableLT τ] in
/-- Before a run, nothing is stored. -/
lemma traced_initial {scene : Scene σ} {cache : Cache τ Inventory} (now : τ)
    (hempty : cache.entries = []) (hcontent : scene.host.files.content? path ∈ K) :
    Traced source.name path dump cache.digest K (State.initial scene now cache) where
  digest_eq := rfl
  content_mem := hcontent
  sound _ := trivial
  entries e he := by
    have hmem : e ∈ cache.entries := he
    rw [hempty] at hmem
    cases hmem

/-- The result without a store, of a source that follows the content. -/
lemma outcome_plain_of_followsContent (hfollows : FollowsContent source path dump) {s : Scene σ}
    {content : List UInt8} (hcontent : s.host.files.content? path = some content) :
    ((plain source path).outcome s).1 =
      settled path (examinedFrom source.name path dump content (some content)) := by
  have hread : s.host.files.read path = .ok content := by
    rw [FileSystem.content?] at hcontent
    cases h : s.host.files.read path with
    | error e => rw [h] at hcontent; cases hcontent
    | ok content' => rw [h] at hcontent; cases hcontent; rfl
  obtain ⟨own, hprint⟩ := hfollows s
  rw [outcome_plain, outcome_examine, hread, examinedFrom, ← hcontent]
  dsimp only
  rw [hprint]
  cases dump (s.host.files.content? path) <;> rfl

/-! ### What is found -/

section Found

variable {scene₀ : Scene σ} {now : τ} {cache : Cache τ Inventory} {actions : List (Action τ)}
  {i : ℕ} {inv : Inventory} {scene : Scene σ}

/-- **What is found was stored for the content at the look-up**, as the analysis of what had been
read with the dump of what had been printed. -/
theorem found_of_kept (hfollows : FollowsContent source path dump)
    (hK : K.InjOn (Store.markOf cache.digest)) (hempty : cache.entries = [])
    (hcontent : scene₀.host.files.content? path ∈ K)
    (hedits : ∀ host, .edit host ∈ actions → host.files.content? path ∈ K)
    (hst : run source (fun _ => path) actions (State.initial scene₀ now cache) = st)
    (hfound : st.calls i = .found inv scene) :
    ∃ j read printed, st.calls j = .kept inv read printed (scene.host.files.content? path) ∧
      examinedFrom source.name path dump read printed = .ok inv := by
  have htraced : Traced source.name path dump cache.digest K st :=
    hst ▸ (traced_initial now hempty hcontent).run hfollows hK hedits
  have hsound := htraced.sound i
  rw [hfound] at hsound
  obtain ⟨j, read, printed, hj⟩ := hsound
  have hkept := htraced.sound j
  rw [hj] at hkept
  exact ⟨j, read, printed, hj, hkept.2.1⟩

/-- **What is found is right** if the surveys that stored it for the content at the look-up had
read and printed this content. -/
theorem found_eq_plain (hfollows : FollowsContent source path dump)
    (hK : K.InjOn (Store.markOf cache.digest)) (hempty : cache.entries = [])
    (hcontent : scene₀.host.files.content? path ∈ K)
    (hedits : ∀ host, .edit host ∈ actions → host.files.content? path ∈ K)
    (hst : run source (fun _ => path) actions (State.initial scene₀ now cache) = st)
    (hfound : st.calls i = .found inv scene)
    (hsame : ∀ j read printed stored, st.calls j = .kept inv read printed stored →
      stored = scene.host.files.content? path → some read = stored ∧ printed = stored) :
    inv = ((plain source path).outcome scene).1 := by
  obtain ⟨j, read, printed, hj, hexamined⟩ :=
    found_of_kept hfollows hK hempty hcontent hedits hst hfound
  obtain ⟨hread, rfl⟩ := hsame j read printed _ hj rfl
  rw [outcome_plain_of_followsContent hfollows hread.symm, hread, hexamined, settled]

/-! ### Edits between surveys -/

/-- The survey has read the file and is still to store the result. -/
def Progress.IsUnderWay : Progress σ → Prop
  | .read _ _ => True
  | .analysed _ _ _ _ => True
  | _ => False

/-- While surveys are under way, no edit changes the content of the file. -/
def Calm (source : TreeSource σ) (path : String) : List (Action τ) → State σ τ → Prop
  | [], _ => True
  | action :: actions, st =>
    (∀ host i, action = .edit host → (st.calls i).IsUnderWay →
      host.files.content? path = st.scene.host.files.content? path) ∧
    Calm source path actions (st.step source (fun _ => path) action)

/-- What a survey met is one content, and the present one while the survey is under way. -/
def Progress.Agrees (present : Option (List UInt8)) : Progress σ → Prop
  | .read _ content => some content = present
  | .analysed _ _ content printed => some content = present ∧ printed = present
  | .kept _ content printed stored => some content = stored ∧ printed = stored
  | _ => True

omit [Add τ] [LT τ] [DecidableLT τ] in
/-- Only for a survey that is under way it matters what the present content is. -/
lemma Progress.Agrees.of_content {present present' : Option (List UInt8)} {p : Progress σ}
    (h : p.Agrees present) (hsame : p.IsUnderWay → present' = present) : p.Agrees present' := by
  cases p with
  | read key content => exact hsame trivial ▸ h
  | analysed key inv read printed => exact hsame trivial ▸ h
  | begun => trivial
  | missed key => trivial
  | kept inv read printed stored => exact h
  | found inv scene => trivial
  | failed inv => trivial
  | broken e => trivial

/-- A step of a survey leaves the host as it is, and what the survey met is still one content. -/
lemma agrees_advance (hfollows : FollowsContent source path dump) (now : τ) (s : Scene σ)
    (c : Cache τ Inventory) {p : Progress σ} (h : p.Agrees (s.host.files.content? path)) :
    (advance source path now s c p).2.1.host = s.host ∧
      (advance source path now s c p).1.Agrees (s.host.files.content? path) := by
  cases p with
  | begun =>
    rw [advance, outcome_lookUp]
    obtain ⟨e | _ | inv, c⟩ := (c.get now s.host.files
      (fileKey c.digest source.name s.host.files path) (some path)).value
    · exact ⟨rfl, trivial⟩
    · exact ⟨rfl, trivial⟩
    · exact ⟨rfl, trivial⟩
  | missed key =>
    rw [advance]
    cases hread : s.host.files.read path with
    | error e => exact ⟨rfl, trivial⟩
    | ok content => exact ⟨rfl, by rw [FileSystem.content?, hread]; rfl⟩
  | read key content =>
    -- the tool prints what the host has now, which is what was read
    obtain ⟨own, hprint⟩ := hfollows s
    rw [advance, hprint]
    cases dump (s.host.files.content? path) with
    | error e => exact ⟨rfl, trivial⟩
    | ok o =>
      dsimp only
      cases analysis source.name path content o with
      | error p => exact ⟨rfl, trivial⟩
      | ok inv => exact ⟨rfl, h, rfl⟩
  | analysed key inv read printed =>
    rw [advance, outcome_keep]
    obtain ⟨e | _, c⟩ := (c.set now s.host.files key inv (some path)).value
    · exact ⟨rfl, trivial⟩
    · exact ⟨rfl, h⟩
  | kept inv read printed stored => exact ⟨rfl, h⟩
  | found inv scene => exact ⟨rfl, trivial⟩
  | failed inv => exact ⟨rfl, trivial⟩
  | broken e => exact ⟨rfl, trivial⟩

/-- In a calm run, what each survey met is one content. -/
lemma agrees_run {actions : List (Action τ)} (hfollows : FollowsContent source path dump)
    (hcalm : Calm source path actions st)
    (h : ∀ i, (st.calls i).Agrees (st.scene.host.files.content? path)) (i : ℕ) :
    ((run source (fun _ => path) actions st).calls i).Agrees
      ((run source (fun _ => path) actions st).scene.host.files.content? path) := by
  induction actions generalizing st with
  | nil => exact h i
  | cons action actions ih =>
    obtain ⟨hedit, hcalm⟩ := hcalm
    refine ih hcalm fun j => ?_
    cases action with
    | edit host => exact (h j).of_content (hedit host j rfl)
    | clock now => exact h j
    | advance k =>
      obtain ⟨hhost, hagrees⟩ := agrees_advance hfollows st.now st.scene st.cache (h k)
      have hcontent : (st.step source (fun _ => path) (.advance k)).scene.host.files.content? path =
          st.scene.host.files.content? path := congrArg (fun host => host.files.content? path) hhost
      rw [hcontent]
      by_cases hj : j = k
      · subst hj
        have hcall : (st.step source (fun _ => path) (.advance j)).calls j =
            (advance source path st.now st.scene st.cache (st.calls j)).1 :=
          State.calls_moveTo_self
        rwa [hcall]
      · have hcall : (st.step source (fun _ => path) (.advance k)).calls j = st.calls j :=
          State.calls_moveTo_of_ne hj
        rw [hcall]
        exact h j

/-- **Edits between surveys are noticed**: in a run in which no edit changes the file between the
reading and the storing of a survey, what is found is right. -/
theorem found_eq_plain_of_calm (hfollows : FollowsContent source path dump)
    (hK : K.InjOn (Store.markOf cache.digest)) (hempty : cache.entries = [])
    (hcontent : scene₀.host.files.content? path ∈ K)
    (hedits : ∀ host, .edit host ∈ actions → host.files.content? path ∈ K)
    (hcalm : Calm source path actions (State.initial scene₀ now cache))
    (hfound : (run source (fun _ => path) actions (State.initial scene₀ now cache)).calls i =
      .found inv scene) :
    inv = ((plain source path).outcome scene).1 := by
  refine found_eq_plain hfollows hK hempty hcontent hedits rfl hfound ?_
  intro j read printed stored hj _
  have hagrees := agrees_run hfollows hcalm (fun _ => trivial) j
  rw [hj] at hagrees
  exact hagrees

end Found

end Run

end Invariant

/-! ### A file that is edited -/

/-- The source that prints one of two modules, by the content that it finds. -/
def contentSource : TreeSource Unit where
  name := "content"
  printTree path := do
    let content := (← Trial.sure Session.files).content? path
    return ⟨0, moduleDump (if content = some [97] then "a" else "b"), ""⟩

/-- It follows the content. -/
lemma followsContent_contentSource (path : String) : FollowsContent contentSource path
    fun content => .ok ⟨0, moduleDump (if content = some [97] then "a" else "b"), ""⟩ :=
  fun s => ⟨s.own, rfl⟩

/-- A scene in which the one file has a content. -/
def sceneWith (content : List UInt8) : Scene Unit where
  host := { files := { root := .directory true [("m.sv", .regular content false)] } }
  own := ()

/-- The file has this content. -/
lemma content_sceneWith {content : List UInt8} :
    (sceneWith content).host.files.content? "m.sv" = some content := by
  rfl

/-- The modules that a survey has found, and those that there would be without a store. -/
def Progress.modules? (source : TreeSource σ) (path : String) :
    Progress σ → Option (List String × List String)
  | .found inv scene => some (inv.modules.map (·.name),
      ((plain source path).outcome scene).1.modules.map (·.name))
  | _ => none

/-- The contents that a survey met whose result is stored. -/
def Progress.contents? : Progress σ →
    Option (List UInt8 × Option (List UInt8) × Option (List UInt8))
  | .kept _ content printed stored => some (content, printed, stored)
  | _ => none

/-- The states of runs that start with the content `a`. -/
def runFromA (actions : List (Action ℕ)) : State Unit ℕ :=
  run contentSource (fun _ => "m.sv") actions
    (State.initial (sceneWith [97]) 0 { capacity := 1, lifetime := none })

/-- The digest tells the two contents apart. -/
lemma injOn_twoContents : Set.InjOn (Store.markOf Digest.md5Hex) {some [97], some [98]} := by
  have hne : Store.markOf Digest.md5Hex (some [97]) ≠ Store.markOf Digest.md5Hex (some [98]) := by
    decide +kernel
  rintro _ (rfl | rfl) _ (rfl | rfl) h
  · rfl
  · exact absurd h hne
  · exact absurd h.symm hne
  · rfl

/-- Edits there and back between two surveys. -/
theorem found_betweenEdits :
    let edits : List (Action ℕ) := [.edit (sceneWith [98]).host, .edit (sceneWith [97]).host]
    ∃ inv scene, (runFromA ([.advance 0, .advance 0, .advance 0, .advance 0] ++ edits ++
        [.advance 1])).calls 1 = .found inv scene ∧
      inv = ((plain contentSource "m.sv").outcome scene).1 := by
  intro edits
  generalize hactions :
    [.advance 0, .advance 0, .advance 0, .advance 0] ++ edits ++ [.advance 1] = actions
  obtain ⟨hfirst, hsecond⟩ :
      ((runFromA actions).calls 0).contents? = some ([97], some [97], some [97]) ∧
        ((runFromA actions).calls 1).modules? contentSource "m.sv" = some (["a"], ["a"]) := by
    subst hactions
    decide +kernel
  -- the other surveys have not begun, so the first one alone has stored
  have hothers : ∀ j, j ≠ 0 → j ≠ 1 → (runFromA actions).calls j = .begun := by
    intro j h0 h1
    refine calls_run_of_not_advanced ?_ _
    subst hactions
    simp [edits, h0, h1]
  have hrun : run contentSource (fun _ => "m.sv") actions (State.initial (sceneWith [97]) 0
      { capacity := 1, lifetime := none }) = runFromA actions := rfl
  cases hfound : (runFromA actions).calls 1 with
  | found inv scene =>
    refine ⟨inv, scene, rfl, found_eq_plain (followsContent_contentSource "m.sv")
      injOn_twoContents rfl ?_ ?_ hrun hfound ?_⟩
    · exact .inl content_sceneWith
    · intro host hhost
      have hedit : host = (sceneWith [98]).host ∨ host = (sceneWith [97]).host := by
        subst hactions
        simpa [edits] using hhost
      obtain rfl | rfl := hedit
      · exact .inr content_sceneWith
      · exact .inl content_sceneWith
    · intro j read printed stored hj _
      have h1 : j ≠ 1 := by
        rintro rfl
        rw [hfound] at hj
        cases hj
      obtain rfl : j = 0 := by
        by_contra h0
        rw [hothers j h0 h1] at hj
        cases hj
      rw [hj] at hfirst
      cases hfirst
      exact ⟨rfl, rfl⟩
  | _ => rw [hfound] at hsecond; cases hsecond

/-- **An edit before a result is stored** is taken for the content that it was made of. -/
theorem found_editedMeanwhile :
    FollowsContent contentSource "m.sv"
      (fun content => .ok ⟨0, moduleDump (if content = some [97] then "a" else "b"), ""⟩) ∧
    Set.InjOn (Store.markOf Digest.md5Hex) {some [97], some [98]} ∧
    ((runFromA [.advance 0, .advance 0, .advance 0, .edit (sceneWith [98]).host, .advance 0,
      .advance 1]).calls 1).modules? contentSource "m.sv" = some (["a"], ["b"]) :=
  ⟨followsContent_contentSource "m.sv", injOn_twoContents, by decide +kernel⟩

end FlopCensus.Survey
