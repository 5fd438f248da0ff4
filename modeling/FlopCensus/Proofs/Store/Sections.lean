import FlopCensus.Proofs.Store.History
import Mathlib.Logic.Function.Basic

set_option autoImplicit false
set_option relaxedAutoImplicit false

/-!
# A cache with many clients

The clients of a cache share it under a lock, which reading a result gives up in between: the entry
of the key is read under the lock, its file is looked at without it, and under the lock again the
entry is dropped or the reading is counted. By then another client may have dropped the entry or put
a newer one in its place.

## Main definitions

* `FlopCensus.Cache.Stage` — how far a client has got with reading or storing a result.
* `FlopCensus.Cache.Shared`, `FlopCensus.Cache.Turn` — a cache with its clients, and what they do one
  section at a time, in any order.
* `FlopCensus.Cache.Since` — what has become of a cache since an entry of it was read.

## Main results

* `FlopCensus.Cache.Shared.get_sections`, `FlopCensus.Cache.Shared.set_sections` — the sections
  without a break are reading and storing a result.
* `FlopCensus.Cache.Shared.takes_step` — what a turn comes to.
* `FlopCensus.Cache.Since.mem_invalidate` — only the entry that was read is dropped.
* `FlopCensus.Cache.sound_after_turns` — what is dropped, what is counted and how many entries there
  are, in any order of sections.

## Design

Clients are numbered without a bound. A client that reads a result keeps track of the cache as it
was when the entry was read, which no section looks at. The serial of an entry stands for its
identity: two entries may be the same but for when they were stored.
-/

namespace FlopCensus.Cache

variable {τ α : Type}

/-! ### Sections -/

/-- How far a client has got. -/
inductive Stage (τ α : Type) where
  /-- It is doing nothing. -/
  | free
  /-- It has read an entry, in the cache `seen`, for a file. -/
  | read (e : Entry τ α) (path : Option String) (seen : Cache τ α)
  /-- It has compared the entry with the file. -/
  | compared (e : Entry τ α) (fresh : Bool) (seen : Cache τ α)
  /-- It has the fingerprint for a result that is to be stored. -/
  | marked (key : String) (value : α) (fingerprint : Option String)

/-- A cache with the time, the files and the clients, and what the readings have yielded that have
ended. -/
structure Shared (τ α : Type) where
  /-- The cache, the time and the files. -/
  world : World τ α
  /-- The clients. -/
  stages : ℕ → Stage τ α := fun _ => .free
  /-- The outcomes of the readings that have ended. -/
  outcomes : List (Except Error (Option α)) := []

/-- What happens next. -/
inductive Turn (τ α : Type) where
  /-- The files are changed. -/
  | edit (files : FileSystem)
  /-- Time passes. -/
  | wait (later : τ)
  /-- A client drops all results, or those whose key contains a text. -/
  | clear (pattern : Option String)
  /-- A client asks about the use of the cache. -/
  | stats
  /-- Client `i` begins to read a result. -/
  | get (i : ℕ) (key : String) (path : Option String)
  /-- Client `i` begins to store a result. -/
  | set (i : ℕ) (key : String) (value : α) (path : Option String)
  /-- Client `i` goes on. -/
  | resume (i : ℕ)

/-- The client has read the entry when the cache was `seen`, and has not done with it. -/
def Stage.HasRead (e : Entry τ α) (seen : Cache τ α) : Stage τ α → Prop
  | .read e' _ seen' => e' = e ∧ seen' = seen
  | .compared e' _ seen' => e' = e ∧ seen' = seen
  | _ => False

/-- The entry that a client has found out of date, and the cache in which it has read it. -/
def Stage.outdated? : Stage τ α → Option (Entry τ α × Cache τ α)
  | .compared e false seen => some (e, seen)
  | _ => none

/-- A client has found an entry out of date if it has compared it. -/
lemma Stage.outdated?_eq_some_iff {stage : Stage τ α} {e : Entry τ α} {seen : Cache τ α} :
    stage.outdated? = some (e, seen) ↔ stage = .compared e false seen := by
  cases stage with
  | compared e' fresh seen' => cases fresh <;> simp [outdated?]
  | _ => simp [outdated?]

/-- A client that has read an entry after one of them has got to a stage. -/
lemma Stage.hasRead_update {stages : ℕ → Stage τ α} {i j : ℕ} {stage : Stage τ α} {e : Entry τ α}
    {seen : Cache τ α} (h : (Function.update stages i stage j).HasRead e seen) :
    (j = i ∧ stage.HasRead e seen) ∨ (stages j).HasRead e seen := by
  by_cases hj : j = i
  · subst hj
    rw [Function.update_self] at h
    exact .inl ⟨rfl, h⟩
  · rw [Function.update_of_ne hj] at h
    exact .inr h

namespace Shared

/-- The state with another cache. -/
def withCache (st : Shared τ α) (cache : Cache τ α) : Shared τ α :=
  { st with world := { st.world with cache } }

/-- The state in which a client has got to a stage. -/
def moveTo (st : Shared τ α) (i : ℕ) (stage : Stage τ α) : Shared τ α :=
  { st with stages := Function.update st.stages i stage }

/-- The state in which a reading has ended. -/
def tell (st : Shared τ α) (outcome : Except Error (Option α)) : Shared τ α :=
  { st with outcomes := st.outcomes ++ [outcome] }

@[simp] lemma world_withCache (st : Shared τ α) (cache : Cache τ α) :
    (st.withCache cache).world = { st.world with cache } := rfl

@[simp] lemma stages_withCache (st : Shared τ α) (cache : Cache τ α) :
    (st.withCache cache).stages = st.stages := rfl

@[simp] lemma outcomes_withCache (st : Shared τ α) (cache : Cache τ α) :
    (st.withCache cache).outcomes = st.outcomes := rfl

@[simp] lemma world_moveTo (st : Shared τ α) (i : ℕ) (stage : Stage τ α) :
    (st.moveTo i stage).world = st.world := rfl

@[simp] lemma stages_moveTo (st : Shared τ α) (i : ℕ) (stage : Stage τ α) :
    (st.moveTo i stage).stages = Function.update st.stages i stage := rfl

@[simp] lemma outcomes_moveTo (st : Shared τ α) (i : ℕ) (stage : Stage τ α) :
    (st.moveTo i stage).outcomes = st.outcomes := rfl

@[simp] lemma stages_tell (st : Shared τ α) (outcome : Except Error (Option α)) :
    (st.tell outcome).stages = st.stages := rfl

section Steps

variable [Add τ] [LT τ] [DecidableLT τ]

/-- Reading a result begins: the entry is read under the lock. -/
def beginGet (st : Shared τ α) (i : ℕ) (key : String) (path : Option String) : Shared τ α :=
  match st.world.cache.look st.world.now key with
  | (none, c) => (st.withCache c).tell (.ok none)
  | (some e, c) => (st.withCache c).moveTo i (.read e path st.world.cache)

/-- Storing a result begins: the fingerprint is made without the lock. -/
def beginSet (st : Shared τ α) (i : ℕ) (key : String) (value : α) (path : Option String) :
    Shared τ α :=
  match fingerprintFor st.world.cache.digest st.world.files path with
  | .error _ => st
  | .ok fingerprint => st.moveTo i (.marked key value fingerprint)

/-- A client goes on: an entry that was read is compared without the lock; one that was compared is
dropped or counted under the lock; a result with its fingerprint is stored under the lock. -/
def goOn (st : Shared τ α) (i : ℕ) : Stage τ α → Shared τ α
  | .free => st
  | .read e path seen =>
    match (st.world.cache.isFresh st.world.files e path).value with
    | .error failure => (st.moveTo i .free).tell (.error failure)
    | .ok fresh => st.moveTo i (.compared e fresh seen)
  | .compared e false _ =>
    ((st.withCache (st.world.cache.invalidate st.world.now e)).moveTo i .free).tell (.ok none)
  | .compared e true _ =>
    ((st.withCache st.world.cache.hit).moveTo i .free).tell (.ok (some e.value))
  | .marked key value fingerprint =>
    (st.withCache (st.world.cache.store st.world.now key value fingerprint).2).moveTo i .free

/-- The state after a turn. Only a client that is doing nothing begins something. -/
def step (st : Shared τ α) : Turn τ α → Shared τ α
  | .edit files => { st with world := (st.world.step (.edit files)).2 }
  | .wait later => { st with world := (st.world.step (.wait later)).2 }
  | .clear pattern => { st with world := (st.world.step (.clear pattern)).2 }
  | .stats => { st with world := (st.world.step .stats).2 }
  | .get i key path =>
    match st.stages i with
    | .free => st.beginGet i key path
    | _ => st
  | .set i key value path =>
    match st.stages i with
    | .free => st.beginSet i key value path
    | _ => st
  | .resume i => st.goOn i (st.stages i)

/-- The state after several turns. -/
def run (st : Shared τ α) (turns : List (Turn τ α)) : Shared τ α :=
  turns.foldl step st

end Steps

section Alone

variable [Add τ] [LT τ] [DecidableLT τ]

/-- **The sections of a reading without a break** are a reading. -/
theorem get_sections {st : Shared τ α} {i : ℕ} (hfree : st.stages i = .free) (key : String)
    (path : Option String) :
    st.run [.get i key path, .resume i, .resume i] =
      { (st.tell (st.world.cache.get st.world.now st.world.files key path).value.1) with
        world := (st.world.step (.get key path)).2 } := by
  have hstages : Function.update st.stages i .free = st.stages := by
    rw [← hfree, Function.update_eq_self]
  have hworld : (st.world.step (.get key path)).2 = { st.world with
      cache := (st.world.cache.get st.world.now st.world.files key path).value.2 } := rfl
  rw [hworld]
  simp only [run, List.foldl_cons, List.foldl_nil, step, hfree, beginGet, get]
  rcases hlook : st.world.cache.look st.world.now key with ⟨_ | e, c⟩
  · simp only [stages_tell, stages_withCache, hfree, goOn]
    rfl
  · simp only [stages_moveTo, Function.update_self, goOn, world_moveTo, world_withCache]
    rw [Logged.value_bind]
    cases hfresh : (c.isFresh st.world.files e path).value with
    | error failure =>
      simp only [stages_tell, stages_moveTo, stages_withCache, Function.update_self]
      simp only [tell, moveTo, withCache, Function.update_idem, hstages]
      rfl
    | ok fresh =>
      simp only [stages_moveTo, stages_withCache, Function.update_self]
      cases fresh <;>
        simp only [tell, moveTo, withCache, Function.update_idem, hstages] <;> rfl

/-- **The sections of a storing without a break** are a storing. -/
theorem set_sections {st : Shared τ α} {i : ℕ} (hfree : st.stages i = .free) (key : String)
    (value : α) (path : Option String) :
    st.run [.set i key value path, .resume i] =
      { st with world := (st.world.step (.set key value path)).2 } := by
  have hstages : Function.update st.stages i .free = st.stages := by
    rw [← hfree, Function.update_eq_self]
  have hworld : (st.world.step (.set key value path)).2 = { st.world with
      cache := (st.world.cache.set st.world.now st.world.files key value path).value.2 } := rfl
  rw [hworld, value_set_eq]
  simp only [run, List.foldl_cons, List.foldl_nil, step, hfree, beginSet]
  cases hmark : fingerprintFor st.world.cache.digest st.world.files path with
  | error failure =>
    simp only [hfree, goOn]
  | ok fingerprint =>
    simp only [stages_moveTo, Function.update_self, goOn]
    simp only [moveTo, withCache, Function.update_idem, hstages]

end Alone

end Shared

/-! ### What a section does to the cache -/

section Effects

variable [LT τ] [DecidableLT τ] {c : Cache τ α}

/-- Dropping an entry that has become out of date thins the entries. -/
lemma IsOrderly.thinned_invalidate (h : c.IsOrderly) (now : τ) (e : Entry τ α) :
    (c.invalidate now e).Thinned c := by
  rw [invalidate]
  cases hfound : c.find? now e.key with
  | none => exact ⟨rfl, rfl, rfl, rfl, .refl _⟩
  | some found =>
    have huse := h.thinned_use (find?_eq_some hfound).1
    dsimp only
    split
    · exact ⟨rfl, rfl, rfl, rfl, (thinned_erase c e.key).entries⟩
    · exact ⟨rfl, rfl, rfl, rfl, huse.entries⟩

/-- Dropping an entry that has become out of date counts as one result that was not found. -/
lemma counts_invalidate (c : Cache τ α) (now : τ) (e : Entry τ α) :
    (c.invalidate now e).hits = c.hits ∧ (c.invalidate now e).misses = c.misses + 1 := by
  rw [invalidate]
  cases c.find? now e.key with
  | none => exact ⟨rfl, rfl⟩
  | some found =>
    dsimp only
    split <;> exact ⟨rfl, rfl⟩

/-- What has become of a cache since an entry of it was read: results have been stored, and entries
have been dropped, but none has come back. -/
structure Since (e : Entry τ α) (seen c : Cache τ α) : Prop where
  /-- The entry was there. -/
  mem : e ∈ seen.entries
  /-- The cache was orderly. -/
  orderly : seen.IsOrderly
  /-- As many results have been stored, or more. -/
  stored : seen.stored ≤ c.stored
  /-- An entry that was stored before the reading was there. -/
  old : ∀ e' ∈ c.entries, e'.serial < seen.stored → e' ∈ seen.entries

/-- **Only the entry that was read is dropped** when it has become out of date. -/
theorem Since.mem_invalidate {e : Entry τ α} {seen : Cache τ α} (h : Since e seen c)
    (hc : c.IsOrderly) (now : τ) {e' : Entry τ α} (he' : e' ∈ c.entries) (hne : e' ≠ e) :
    e' ∈ (c.invalidate now e).entries := by
  rw [invalidate]
  cases hfound : c.find? now e.key with
  | none => exact he'
  | some found =>
    obtain ⟨hmem, hkey⟩ := find?_eq_some hfound
    dsimp only
    split
    case isTrue hserial =>
      -- the entry with the key that is there now is the one that was read
      have hserial := beq_iff_eq.1 hserial
      have hold : found ∈ seen.entries :=
        h.old found hmem (hserial ▸ h.orderly.earlier e h.mem)
      have hsame : found = e := h.orderly.eq_of_serial_eq hold h.mem hserial
      refine mem_erase.2 ⟨he', fun hkey' => hne ?_⟩
      exact (hc.eq_of_key_eq he' hmem (hkey'.trans hkey.symm)).trans hsame
    case isFalse => exact hc.mem_use hmem he'

/-- The entry that was read is dropped if it is still alive. -/
lemma not_mem_invalidate (hc : c.IsOrderly) {now : τ} {e : Entry τ α} (hlive : e.isLive now) :
    e ∉ (c.invalidate now e).entries := by
  intro hmem
  have hfound : c.find? now e.key = some e :=
    hc.find?_eq_some_iff.2 ⟨(hc.thinned_invalidate now e).entries.subset hmem, rfl, hlive⟩
  rw [invalidate, hfound] at hmem
  dsimp only at hmem
  rw [if_pos (beq_self_eq_true _)] at hmem
  exact (mem_erase.1 hmem).2 rfl

omit [LT τ] [DecidableLT τ] in
/-- An entry that was read is still what it was when entries are dropped. -/
lemma Since.thinned {e : Entry τ α} {seen c' : Cache τ α} (h : Since e seen c)
    (hthin : c'.Thinned c) : Since e seen c' where
  mem := h.mem
  orderly := h.orderly
  stored := hthin.stored ▸ h.stored
  old e' he' := h.old e' (hthin.entries.subset he')

/-- What a section does to a cache: entries are dropped or moved, or a result is put in where there
is room for results. -/
inductive Changed [Add τ] (now : τ) (c c' : Cache τ α) : Prop
  | thinned (thinned : c'.Thinned c)
  | inserted (key : String) (value : α) (fingerprint : Option String) (room : 0 < c.capacity)
      (eq_insert : c' = (c.expire now).insert now key value fingerprint)

variable [Add τ] {now : τ} {c' : Cache τ α}

/-- Storing a result changes a cache in one of the two ways. -/
lemma changed_store (c : Cache τ α) (now : τ) (key : String) (value : α)
    (fingerprint : Option String) : Changed now c (c.store now key value fingerprint).2 := by
  dsimp only [store]
  split
  case isTrue => exact .thinned (thinned_expire c now)
  case isFalse hroom =>
    have hcapacity : c.capacity ≠ 0 := fun h => hroom (beq_iff_eq.2 h)
    exact .inserted key value fingerprint (Nat.pos_of_ne_zero hcapacity) rfl

/-- A section keeps a cache orderly and its room as it is. -/
lemma Changed.isOrderly (h : Changed now c c') (hc : c.IsOrderly) :
    c'.IsOrderly ∧ c'.capacity = c.capacity := by
  cases h with
  | thinned hthin => exact ⟨hc.thinned hthin, hthin.capacity⟩
  | inserted key value fingerprint hroom heq =>
    subst heq
    exact ⟨(hc.thinned (thinned_expire c now)).insert hroom _ _ _ _,
      (thinned_makeRoom (c.expire now) key).capacity⟩

/-- An entry that was read is still what it was after a section: what is put in is newer. -/
lemma Since.changed {e : Entry τ α} {seen : Cache τ α} (h : Since e seen c)
    (hchange : Changed now c c') : Since e seen c' := by
  cases hchange with
  | thinned hthin => exact h.thinned hthin
  | inserted key value fingerprint hroom heq =>
    have hexpire := h.thinned (thinned_expire c now)
    have hroomy := thinned_makeRoom (c.expire now) key
    have hothers := (hexpire.thinned hroomy).thinned (thinned_erase _ key)
    subst heq
    refine ⟨h.mem, h.orderly, ?_, fun e' he' hold => ?_⟩
    · have hstored : ((c.expire now).insert now key value fingerprint).stored = c.stored + 1 :=
        congrArg (· + 1) hroomy.stored
      rw [hstored]
      exact h.stored.trans (Nat.le_succ _)
    · rw [entries_insert, List.mem_append, List.mem_singleton] at he'
      obtain hmem | rfl := he'
      · exact hothers.old e' hmem hold
      · exact absurd hold (Nat.not_lt.2 hexpire.stored)

end Effects

namespace Shared

section Step

variable [Add τ] [LT τ] [DecidableLT τ] {st st' : Shared τ α} {turn : Turn τ α}

/-- What a turn can come to. -/
inductive Takes (st : Shared τ α) : Turn τ α → Shared τ α → Prop
  | idle {turn : Turn τ α} : Takes st turn st
  | around {turn : Turn τ α} {world : World τ α} (thinned : world.cache.Thinned st.world.cache)
      (hits : world.cache.hits = st.world.cache.hits)
      (misses : world.cache.misses = st.world.cache.misses) : Takes st turn { st with world }
  | missed {i : ℕ} {key : String} {path : Option String} :
      Takes st (.get i key path) ((st.withCache st.world.cache.miss).tell (.ok none))
  | read {i : ℕ} {path : Option String} {e : Entry τ α} (mem : e ∈ st.world.cache.entries) :
      Takes st (.get i e.key path)
        ((st.withCache (st.world.cache.use e)).moveTo i (.read e path st.world.cache))
  | marked {i : ℕ} {key : String} {value : α} {path fingerprint : Option String} :
      Takes st (.set i key value path) (st.moveTo i (.marked key value fingerprint))
  | failed {i : ℕ} {failure : Error} :
      Takes st (.resume i) ((st.moveTo i .free).tell (.error failure))
  | compared {i : ℕ} {e : Entry τ α} {path : Option String} {fresh : Bool} {seen : Cache τ α}
      (stage : st.stages i = .read e path seen) :
      Takes st (.resume i) (st.moveTo i (.compared e fresh seen))
  | dropped {i : ℕ} {e : Entry τ α} : Takes st (.resume i)
      (((st.withCache (st.world.cache.invalidate st.world.now e)).moveTo i .free).tell (.ok none))
  | found {i : ℕ} {value : α} : Takes st (.resume i)
      (((st.withCache st.world.cache.hit).moveTo i .free).tell (.ok (some value)))
  | stored {i : ℕ} {key : String} {value : α} {fingerprint : Option String} : Takes st (.resume i)
      ((st.withCache (st.world.cache.store st.world.now key value fingerprint).2).moveTo i .free)

/-- What the beginning of a lookup comes to. -/
lemma takes_get (st : Shared τ α) (i : ℕ) (key : String) (path : Option String) :
    Takes st (.get i key path) (st.step (.get i key path)) := by
  cases hstage : st.stages i with
  | free =>
    simp only [step, hstage, beginGet, look]
    cases hfound : st.world.cache.find? st.world.now key with
    | none => exact .missed
    | some e =>
      obtain ⟨hmem, rfl⟩ := find?_eq_some hfound
      exact .read hmem
  -- a client in the middle of an operation begins no other
  | _ => simpa only [step, hstage] using Takes.idle

/-- What the beginning of an insertion comes to. -/
lemma takes_set (st : Shared τ α) (i : ℕ) (key : String) (value : α) (path : Option String) :
    Takes st (.set i key value path) (st.step (.set i key value path)) := by
  cases hstage : st.stages i with
  | free =>
    simp only [step, hstage, beginSet]
    cases fingerprintFor st.world.cache.digest st.world.files path with
    | error failure => exact .idle
    | ok fingerprint => exact .marked
  | _ => simpa only [step, hstage] using Takes.idle

/-- What the next section of an operation comes to. -/
lemma takes_resume (st : Shared τ α) (i : ℕ) : Takes st (.resume i) (st.step (.resume i)) := by
  cases hstage : st.stages i with
  | free =>
    simp only [step, hstage, goOn]
    exact .idle
  | read e path seen =>
    simp only [step, hstage, goOn]
    cases (st.world.cache.isFresh st.world.files e path).value with
    | error failure => exact .failed
    | ok fresh => exact .compared hstage
  | compared e fresh seen =>
    simp only [step, hstage]
    cases fresh with
    | false => exact .dropped
    | true => exact .found
  | marked key value fingerprint =>
    simp only [step, hstage]
    exact .stored

/-- **What a turn comes to.** -/
theorem takes_step (st : Shared τ α) (turn : Turn τ α) : Takes st turn (st.step turn) := by
  cases turn with
  | edit files => exact .around (.refl _) rfl rfl
  | wait later => exact .around (.refl _) rfl rfl
  | stats => exact .around (thinned_expire _ _) rfl rfl
  | clear pattern =>
    cases pattern with
    | none => exact .around ⟨rfl, rfl, rfl, rfl, List.nil_subperm⟩ rfl rfl
    | some pattern => exact .around ⟨rfl, rfl, rfl, rfl, List.filter_sublist.subperm⟩ rfl rfl
  | get i key path => exact takes_get st i key path
  | set i key value path => exact takes_set st i key value path
  | resume i => exact takes_resume st i

/-- What a turn does to the cache. -/
lemma Takes.changed (h : Takes st turn st') (hc : st.world.cache.IsOrderly) :
    Changed st.world.now st.world.cache st'.world.cache := by
  cases h with
  | idle => exact .thinned (.refl _)
  | around hthin => exact .thinned hthin
  | missed => exact .thinned ⟨rfl, rfl, rfl, rfl, .refl _⟩
  | read hmem => exact .thinned (hc.thinned_use hmem)
  | marked => exact .thinned (.refl _)
  | failed => exact .thinned (.refl _)
  | compared => exact .thinned (.refl _)
  | dropped => exact .thinned (hc.thinned_invalidate st.world.now _)
  | found => exact .thinned ⟨rfl, rfl, rfl, rfl, .refl _⟩
  | stored => exact changed_store _ _ _ _ _

/-- A client that has read an entry has read it before a turn, or reads it in this turn. -/
lemma Takes.hasRead (h : Takes st turn st') {j : ℕ} {e : Entry τ α} {seen : Cache τ α}
    (hread : (st'.stages j).HasRead e seen) :
    (st.stages j).HasRead e seen ∨
      ∃ path, turn = .get j e.key path ∧ seen = st.world.cache ∧ e ∈ st.world.cache.entries := by
  cases h with
  | idle => exact .inl hread
  | around => exact .inl hread
  | missed => exact .inl hread
  | @read i path e' hmem =>
    obtain ⟨rfl, rfl, rfl⟩ | hbefore := Stage.hasRead_update hread
    · exact .inr ⟨path, rfl, rfl, hmem⟩
    · exact .inl hbefore
  | compared hstage =>
    obtain ⟨rfl, hsame⟩ | hbefore := Stage.hasRead_update hread
    · rw [hstage]
      exact .inl hsame
    · exact .inl hbefore
  | _ => exact .inl ((Stage.hasRead_update hread).resolve_left fun hfree => hfree.2)

/-- **What a turn counts**: each reading that ends in it without a failure counts once, as one that
found something or not, and nothing else counts. -/
theorem Takes.counts (h : Takes st turn st') :
    ∃ ended, st'.outcomes = st.outcomes ++ ended ∧ ended.length ≤ 1 ∧
      st'.world.cache.hits = st.world.cache.hits + ended.countP wasFound ∧
      st'.world.cache.hits + st'.world.cache.misses =
        st.world.cache.hits + st.world.cache.misses + ended.countP (·.isOk) := by
  cases h with
  | idle => exact ⟨[], by simp⟩
  | around _ hhits hmisses => exact ⟨[], by simp [hhits, hmisses]⟩
  | missed => exact ⟨[.ok none], rfl, le_rfl, rfl, rfl⟩
  | read => exact ⟨[], (List.append_nil _).symm, Nat.zero_le 1, rfl, rfl⟩
  | marked => exact ⟨[], by simp⟩
  | @failed i failure => exact ⟨[.error failure], rfl, le_rfl, rfl, rfl⟩
  | compared => exact ⟨[], by simp⟩
  | @dropped i e =>
    obtain ⟨hhits, hmisses⟩ := counts_invalidate st.world.cache st.world.now e
    refine ⟨[.ok none], rfl, le_rfl, hhits, ?_⟩
    change (st.world.cache.invalidate st.world.now e).hits +
      (st.world.cache.invalidate st.world.now e).misses = _
    rw [hhits, hmisses]
    rfl
  | @found i value =>
    refine ⟨[.ok (some value)], rfl, le_rfl, rfl, ?_⟩
    change st.world.cache.hits + 1 + st.world.cache.misses = _ + 1
    omega
  | @stored i key value fingerprint =>
    obtain ⟨hhits, hmisses⟩ := st.world.cache.counts_store st.world.now key value fingerprint
    exact ⟨[], by simp [hhits, hmisses]⟩

/-- The entry was read by client `i` in one of some turns, when the cache was `seen`. -/
def ReadIn (start : Shared τ α) (turns : List (Turn τ α)) (i : ℕ) (e : Entry τ α)
    (seen : Cache τ α) : Prop :=
  ∃ before path between, turns = before ++ .get i e.key path :: between ∧
    seen = (start.run before).world.cache ∧ e ∈ seen.entries

/-- What holds after some turns. -/
structure Sound (start : Shared τ α) (turns : List (Turn τ α)) : Prop where
  /-- The cache is orderly. -/
  orderly : (start.run turns).world.cache.IsOrderly
  /-- It has the room that it had. -/
  capacity : (start.run turns).world.cache.capacity = start.world.cache.capacity
  /-- An entry that a client has read and has not done with was read in one of the turns, and it is
  known what has become of the cache since. -/
  since : ∀ i e seen, ((start.run turns).stages i).HasRead e seen →
    ReadIn start turns i e seen ∧ Since e seen (start.run turns).world.cache
  /-- Every reading that found something is counted. -/
  hits : (start.run turns).world.cache.hits = (start.run turns).outcomes.countP wasFound
  /-- Every reading that has not failed is counted. -/
  counted : (start.run turns).world.cache.hits + (start.run turns).world.cache.misses =
    (start.run turns).outcomes.countP (·.isOk)

/-- The state after one more turn. -/
lemma run_concat (start : Shared τ α) (turns : List (Turn τ α)) (turn : Turn τ α) :
    start.run (turns ++ [turn]) = (start.run turns).step turn := by
  rw [run, List.foldl_append]
  rfl

/-- **A turn keeps all this.** -/
theorem Sound.concat {start : Shared τ α} {turns : List (Turn τ α)} (h : Sound start turns)
    (turn : Turn τ α) : Sound start (turns ++ [turn]) := by
  have htakes := takes_step (start.run turns) turn
  have hchange := htakes.changed h.orderly
  obtain ⟨horderly, hcapacity⟩ := hchange.isOrderly h.orderly
  obtain ⟨ended, houtcomes, -, hhits, hcounted⟩ := htakes.counts
  rw [← run_concat] at hchange horderly hcapacity houtcomes hhits hcounted
  refine ⟨horderly, hcapacity.trans h.capacity, fun i e seen hread => ?_, ?_, ?_⟩
  · rw [run_concat] at hread
    -- the entry was read before this turn, or is read in it
    obtain hbefore | ⟨path, rfl, rfl, hmem⟩ := htakes.hasRead hread
    · obtain ⟨⟨before, path, between, rfl, hseen, hmem⟩, hsince⟩ := h.since i e seen hbefore
      exact ⟨⟨before, path, between ++ [turn], by simp, hseen, hmem⟩, hsince.changed hchange⟩
    · have hnow : Since e (start.run turns).world.cache (start.run turns).world.cache :=
        ⟨hmem, h.orderly, le_rfl, fun _ he' _ => he'⟩
      exact ⟨⟨turns, path, [], rfl, rfl, hmem⟩, hnow.changed hchange⟩
  · rw [hhits, houtcomes, List.countP_append, h.hits]
  · rw [hcounted, houtcomes, List.countP_append, h.counted]

/-- **All this holds after any turns** of a cache without entries and counts, and of clients that are
doing nothing at first. -/
theorem sound_run {world : World τ α} (hempty : world.cache.entries = [])
    (hhits : world.cache.hits = 0) (hmisses : world.cache.misses = 0) (turns : List (Turn τ α)) :
    Sound { world } turns := by
  induction turns using List.reverseRecOn with
  | nil => exact ⟨isOrderly_of_entries_eq_nil hempty, rfl, fun _ _ _ hread => hread.elim, hhits,
      by rw [run, List.foldl_nil, hhits, hmisses]; rfl⟩
  | append_singleton turns turn ih => exact ih.concat turn

end Step

end Shared

section Turns

variable [Add τ] [LT τ] [DecidableLT τ]

/-- **A reading drops at most the entry that it has compared, and counts once.** Take any turns of
any clients of a new cache, while files are edited and time passes. A reading that has found its
entry out of date drops this one if it is still alive, and no other entry, so none that was stored
after the reading began. Each turn counts the reading that ends in it, unless that fails. There are
never more entries than there is room for.

**Proof sketch.** Entries come by storing only, each with a serial of its own (`Since.changed`). So
an entry that is found under the key when the reading goes on, and has the serial of the one that
was read, is the one that was read (`Since.mem_invalidate`). -/
theorem sound_after_turns {size : ℤ} {lifetime : Option τ} {first : Cache τ α}
    (hnew : new size lifetime = .ok first) (now : τ) (fs : FileSystem) (turns : List (Turn τ α)) :
    let start : Shared τ α := { world := ⟨first, now, fs⟩ }
    let st := start.run turns
    (∀ i e seen, st.stages i = .compared e false seen →
      Shared.ReadIn start turns i e seen ∧
      (e.isLive st.world.now → e ∉ (st.step (.resume i)).world.cache.entries) ∧
      ∀ e' ∈ st.world.cache.entries, e' ≠ e ∨ seen.stored ≤ e'.serial →
        e' ∈ (st.step (.resume i)).world.cache.entries) ∧
    st.world.cache.hits = st.outcomes.countP wasFound ∧
    st.world.cache.hits + st.world.cache.misses = st.outcomes.countP (·.isOk) ∧
    (∀ turn, ∃ ended, (st.step turn).outcomes = st.outcomes ++ ended ∧ ended.length ≤ 1 ∧
      (st.step turn).world.cache.hits + (st.step turn).world.cache.misses =
        st.world.cache.hits + st.world.cache.misses + ended.countP (·.isOk)) ∧
    st.world.cache.entries.length ≤ size := by
  intro start st
  obtain ⟨hsize, hfirst⟩ := new_eq_ok_iff.1 hnew
  have hsound : start.Sound turns := by
    subst hfirst
    exact Shared.sound_run rfl rfl rfl turns
  refine ⟨fun i e seen hstage => ?_, hsound.hits, hsound.counted, fun turn => ?_, ?_⟩
  · have hread : (st.stages i).HasRead e seen := hstage ▸ ⟨rfl, rfl⟩
    obtain ⟨hreadIn, hsince⟩ := hsound.since i e seen hread
    have hdropped : (st.step (.resume i)).world.cache =
        st.world.cache.invalidate st.world.now e := by
      simp only [Shared.step, hstage]
      rfl
    rw [hdropped]
    refine ⟨hreadIn, not_mem_invalidate hsound.orderly, fun e' he' hother => ?_⟩
    refine hsince.mem_invalidate hsound.orderly st.world.now he' ?_
    -- an entry that was stored later has a serial number that the one read cannot have
    rcases hother with hne | hlater
    · exact hne
    · rintro rfl
      exact absurd (hsince.orderly.earlier e' hsince.mem) (Nat.not_lt.2 hlater)
  · obtain ⟨ended, houtcomes, hone, -, hcounted⟩ := (Shared.takes_step st turn).counts
    exact ⟨ended, houtcomes, hone, hcounted⟩
  · have hroom : st.world.cache.entries.length ≤ st.world.cache.capacity := hsound.orderly.room
    have hcapacity : st.world.cache.capacity = size.toNat :=
      hsound.capacity.trans (congrArg Cache.capacity hfirst)
    omega

end Turns

/-- Files with one file. -/
def oneFile (content : List UInt8) : FileSystem where
  root := .directory true [("a.sv", .regular content false)]

/-- Client 0 reads what it has stored for a file, the file is edited, and before client 0 goes on,
client 1 stores what belongs to the new content. -/
def overtaken : List (Turn ℕ ℕ) :=
  [.set 0 "k" 1 (some "a.sv"), .resume 0, .get 0 "k" (some "a.sv"), .edit (oneFile [98]),
    .set 1 "k" 2 (some "a.sv"), .resume 1, .resume 0]

/-- The state after this. -/
def overtakenState : Shared ℕ ℕ :=
  Shared.run { world := ⟨{ capacity := 1, lifetime := none }, 0, oneFile [97]⟩ } overtaken

/-- What was stored in between stays when the reading finds its own entry out of date. -/
theorem sound_after_turns_overtaken :
    new 1 none = .ok ({ capacity := 1, lifetime := none } : Cache ℕ ℕ) ∧
      (∃ e seen, overtakenState.stages 0 = .compared e false seen ∧ e.value = 1) ∧
      ∃ e ∈ (overtakenState.step (.resume 0)).world.cache.entries, e.value = 2 := by
  have hnew : new 1 none = .ok ({ capacity := 1, lifetime := none } : Cache ℕ ℕ) := rfl
  have hstage : (overtakenState.stages 0).outdated?.map (fun read => read.1.value) = some 1 := by
    decide +kernel
  have hvalues : overtakenState.world.cache.entries.map (·.value) = [2] := by decide +kernel
  obtain ⟨⟨e, seen⟩, houtdated, hone⟩ := Option.map_eq_some_iff.1 hstage
  obtain ⟨e', hentries, htwo⟩ := List.map_eq_singleton_iff.1 hvalues
  have hcompared := Stage.outdated?_eq_some_iff.1 houtdated
  have hmem : e' ∈ overtakenState.world.cache.entries := by
    rw [hentries]
    exact List.mem_singleton_self e'
  have hother : e' ≠ e := by
    rintro rfl
    exact absurd (hone.symm.trans htwo) (by decide)
  obtain ⟨-, -, hstay⟩ := (sound_after_turns hnew 0 (oneFile [97]) overtaken).1 0 e seen hcompared
  exact ⟨hnew, ⟨e, seen, hcompared, hone⟩, e', hstay e' hmem (.inl hother), htwo⟩

end FlopCensus.Cache
