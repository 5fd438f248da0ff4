import FlopCensus.Proofs.Store.Entries

set_option autoImplicit false
set_option relaxedAutoImplicit false

/-!
# Histories of a cache

A cache is used over and over, while files are edited and time passes. A history tells what was done
and what came of it, and so which result was stored last under a key and not dropped since. On the
side of the cache, every event of a history changes the entries in one of three ways.

## Main definitions

* `FlopCensus.Cache.Run` — the runs of a cache, with the history of what was done and answered.
* `FlopCensus.Cache.LastStored` — the last storing under a key, which nothing has undone since.
* `FlopCensus.Cache.Stands` — the result of the last storing is alive and its file is unchanged.
* `FlopCensus.Cache.Effect` — the three ways in which an event changes the entries.

## Main results

* `FlopCensus.Cache.World.effect` — every step changes the entries in one of the three ways.
* `FlopCensus.Cache.lastStored_concat_iff` — the last storing before and after one more event.

## Design

Points in time are compared with deadlines only, so that time does not run back is said by the
deadlines that are still to come (`FlopCensus.Cache.NotBefore`).
-/

namespace FlopCensus.Cache

variable {τ α : Type}

/-! ### Runs -/

/-- What is done with a cache, and what happens around it. -/
inductive Operation (τ α : Type) where
  /-- A result is stored; it may belong to a file. -/
  | set (key : String) (value : α) (path : Option String)
  /-- A result is read; it may belong to a file. -/
  | get (key : String) (path : Option String)
  /-- All results are dropped, or those whose key contains a text. -/
  | clear (pattern : Option String)
  /-- The cache is asked about its use. -/
  | stats
  /-- The files are changed. -/
  | edit (files : FileSystem)
  /-- Time passes. -/
  | wait (later : τ)

/-- What comes of an operation. -/
inductive Answer (α : Type) where
  | stored (outcome : Except Error Unit)
  | read (outcome : Except Error (Option α))
  | dropped (count : ℕ)
  | told (stats : Stats)
  | nothing

/-- A cache with the present time and the present files. -/
structure World (τ α : Type) where
  /-- The cache. -/
  cache : Cache τ α
  /-- The time. -/
  now : τ
  /-- The files. -/
  files : FileSystem

/-- An operation with its answer, and the time and the files at that moment. -/
structure Event (τ α : Type) where
  /-- The operation. -/
  operation : Operation τ α
  /-- What came of it. -/
  answer : Answer α
  /-- The time. -/
  now : τ
  /-- The files. -/
  files : FileSystem

/-- Every deadline that is to come later is to come now: time does not run back. -/
def NotBefore [LT τ] (now later : τ) : Prop :=
  ∀ deadline, later < deadline → now < deadline

/-- The operation does not turn the time back. -/
def Operation.IsTimely [LT τ] (now : τ) : Operation τ α → Prop
  | .wait later => NotBefore now later
  | _ => True

/-- Where times are in a linear order, this is the order. -/
lemma notBefore_iff_le [LinearOrder τ] {now later : τ} : NotBefore now later ↔ now ≤ later :=
  ⟨fun h => le_of_not_gt fun hlt => lt_irrefl now (h now hlt), fun h _ => h.trans_lt⟩

section Run

variable [Add τ] [LT τ] [DecidableLT τ]

/-- The answer to an operation, and the world after it. -/
def World.step (w : World τ α) : Operation τ α → Answer α × World τ α
  | .set key value path =>
    let (outcome, cache) := (w.cache.set w.now w.files key value path).value
    (.stored outcome, { w with cache })
  | .get key path =>
    let (outcome, cache) := (w.cache.get w.now w.files key path).value
    (.read outcome, { w with cache })
  | .clear none =>
    let (count, cache) := (w.cache.clear w.now).value
    (.dropped count, { w with cache })
  | .clear (some pattern) =>
    let (count, cache) := (w.cache.clearMatching w.now pattern).value
    (.dropped count, { w with cache })
  | .stats =>
    let (stats, cache) := w.cache.stats w.now
    (.told stats, { w with cache })
  | .edit files => (.nothing, { w with files })
  | .wait later => (.nothing, { w with now := later })

/-- The event of an operation. -/
def World.event (w : World τ α) (op : Operation τ α) : Event τ α :=
  ⟨op, (w.step op).1, w.now, w.files⟩

/-- The time after a step is not before the time it is taken at. -/
lemma World.notBefore_step {w : World τ α} {op : Operation τ α}
    (h : op.IsTimely w.now) : NotBefore w.now (w.step op).2.now := by
  cases op with
  | wait later => exact h
  | clear pattern => cases pattern <;> exact fun _ hdeadline => hdeadline
  | _ => exact fun _ hdeadline => hdeadline

/-- No file can have the path, and the key has a live entry that belongs to a file. -/
def World.Refuses (w : World τ α) (key : String) (path : Option String) (file : String) : Prop :=
  fileOf path = some file ∧ '\x00' ∈ file.toList ∧
    ∃ e, w.cache.find? w.now key = some e ∧ e.fingerprint.isSome

/-- The histories of a world, oldest event first, and the worlds they lead to. -/
inductive Run (first : World τ α) : List (Event τ α) → World τ α → Prop
  | nil : Run first [] first
  | step {h : List (Event τ α)} {w : World τ α} {op : Operation τ α} (hrun : Run first h w)
      (htimely : op.IsTimely w.now) : Run first (h ++ [w.event op]) (w.step op).2

end Run

/-! ### What a history tells -/

/-- The event stored a result under a key, for a file. -/
structure Event.Stores (event : Event τ α) (key : String) (value : α) (file : Option String) :
    Prop where
  /-- A result was to be stored. -/
  operation : event.operation = .set key value file
  /-- It was. -/
  answer : event.answer = .stored (.ok ())

/-- After the event nothing is left of what was stored under a key before: another result was
stored under it, a reading found nothing, or the key was cleared. -/
def Event.Drops (event : Event τ α) (key : String) : Prop :=
  match event.operation, event.answer with
  | .set other _ _, .stored (.ok ()) => other = key
  | .get other _, .read (.ok none) => other = key
  | .clear none, _ => True
  | .clear (some pattern), _ => Text.contains key pattern = true
  | _, _ => False

/-- The key whose entry the event used, by storing or by reading it. -/
def Event.used? (event : Event τ α) : Option String :=
  match event.operation, event.answer with
  | .set key _ _, .stored (.ok ()) => some key
  | .get key _, .read (.ok (some _)) => some key
  | .get key _, .read (.error _) => some key
  | _, _ => none

/-- The keys other than a given one whose entries have been used. -/
def othersUsed (key : String) (since : List (Event τ α)) : Finset String :=
  (since.filterMap Event.used?).toFinset.erase key

/-- A reading found a result. -/
def wasFound : Except Error (Option α) → Bool
  | .ok (some _) => true
  | _ => false

/-- The outcomes of all readings. -/
def readings (h : List (Event τ α)) : List (Except Error (Option α)) :=
  h.filterMap fun event => match event.answer with
    | .read outcome => some outcome
    | _ => none

/-- The last storing under a key, with what has happened since; nothing of it has undone the
storing. -/
structure LastStored (h : List (Event τ α)) (key : String) (value : α) (file : Option String)
    (setting : Event τ α) (since : List (Event τ α)) : Prop where
  /-- The storing is part of the history. -/
  history : ∃ before, h = before ++ setting :: since
  /-- It has stored the result under the key. -/
  stores : setting.Stores key value file
  /-- Nothing has undone it. -/
  kept : ∀ event ∈ since, ¬event.Drops key

/-- The result of a storing is alive. -/
def IsAlive [Add τ] [LT τ] (lifetime : Option τ) (now : τ) (setting : Event τ α) : Prop :=
  ∀ t, lifetime = some t → now < setting.now + t

/-- The result that was last stored under a key is alive, and its file, where it belongs to one and
one is given, has the fingerprint that it had then. -/
def Stands [Add τ] [LT τ] (lifetime : Option τ) (h : List (Event τ α)) (w : World τ α)
    (key : String) (path : Option String) (value : α) (since : List (Event τ α)) : Prop :=
  ∃ setting file, LastStored h key value file setting since ∧
    IsAlive lifetime w.now setting ∧
    ∀ given own, fileOf path = some given → fileOf file = some own →
      (Store.fingerprint w.files given).value = (Store.fingerprint setting.files own).value

/-- A key that was used since is another one, used by one of the events. -/
lemma mem_othersUsed {key other : String} {since : List (Event τ α)} :
    other ∈ othersUsed key since ↔ other ≠ key ∧ ∃ event ∈ since, event.used? = some other := by
  simp [othersUsed]

/-- More keys are used in a longer time. -/
lemma othersUsed_subset_concat (key : String) (since : List (Event τ α)) (event : Event τ α) :
    othersUsed key since ⊆ othersUsed key (since ++ [event]) := by
  intro other hother
  obtain ⟨hne, used, hused, hkey⟩ := mem_othersUsed.1 hother
  exact mem_othersUsed.2 ⟨hne, used, List.mem_append_left _ hused, hkey⟩

/-- The key that the last event used is among them. -/
lemma mem_othersUsed_concat {key other : String} {event : Event τ α}
    (hused : event.used? = some other) (hne : other ≠ key) (since : List (Event τ α)) :
    other ∈ othersUsed key (since ++ [event]) :=
  mem_othersUsed.2 ⟨hne, event, by simp, hused⟩

/-- A storing drops what was stored under its key before. -/
lemma Event.Stores.drops_iff {event : Event τ α} {key : String} {value : α} {file : Option String}
    (h : event.Stores key value file) {other : String} : event.Drops other ↔ key = other := by
  simp [Event.Drops, h.operation, h.answer]

/-- A storing uses its key. -/
lemma Event.Stores.used?_eq {event : Event τ α} {key : String} {value : α} {file : Option String}
    (h : event.Stores key value file) : event.used? = some key := by
  simp [Event.used?, h.operation, h.answer]

/-- Before an event, a storing was the last one if it still is, unless it is the event. -/
lemma lastStored_concat_iff {h : List (Event τ α)} {event : Event τ α} {key : String} {value : α}
    {file : Option String} {setting : Event τ α} {since : List (Event τ α)} :
    LastStored (h ++ [event]) key value file setting since ↔
      (setting = event ∧ since = [] ∧ event.Stores key value file) ∨
      ∃ earlier, since = earlier ++ [event] ∧ LastStored h key value file setting earlier ∧
        ¬event.Drops key := by
  constructor
  · rintro ⟨⟨before, hsplit⟩, hstores, hkept⟩
    -- the last event is the storing itself, or one of those since
    obtain rfl | ⟨earlier, last, rfl⟩ := List.eq_nil_or_concat' since
    · obtain ⟨rfl, hevent⟩ := List.append_inj' hsplit rfl
      obtain rfl := List.singleton_inj.1 hevent
      exact .inl ⟨rfl, rfl, hstores⟩
    · rw [← List.cons_append, ← List.append_assoc] at hsplit
      obtain ⟨rfl, hevent⟩ := List.append_inj' hsplit rfl
      obtain rfl := List.singleton_inj.1 hevent
      rw [List.forall_mem_append, List.forall_mem_singleton] at hkept
      exact .inr ⟨earlier, rfl, ⟨⟨before, rfl⟩, hstores, hkept.1⟩, hkept.2⟩
  · rintro (⟨rfl, rfl, hstores⟩ | ⟨earlier, rfl, ⟨⟨before, rfl⟩, hstores, hkept⟩, hevent⟩)
    · exact ⟨⟨h, rfl⟩, hstores, by simp⟩
    · refine ⟨⟨before, by simp⟩, hstores, ?_⟩
      rw [List.forall_mem_append, List.forall_mem_singleton]
      exact ⟨hkept, hevent⟩

/-! ### The effect of an event -/

/-- The fingerprint that a result is stored with, if it belongs to a file. -/
def fingerprintFor (digest : List UInt8 → String) (fs : FileSystem) (path : Option String) :
    Except Files.Error (Option String) :=
  match fileOf path with
  | none => .ok none
  | some file => (Store.fingerprintWith digest fs file).value.map some

section Effect

variable [Add τ] [LT τ] [DecidableLT τ]

/-- How an event changes the entries of a cache: some are dropped, among the live ones those whose
keys the event drops; or the entry of one key is used; or a result is stored. -/
inductive Effect (c : Cache τ α) (event : Event τ α) (c' : Cache τ α) : Prop
  | sift (keep : Entry τ α → Bool) (thinned : c'.Thinned c)
      (entries : c'.entries = c.entries.filter keep)
      (kept : ∀ e ∈ c.entries, e.isLive event.now → (keep e = true ↔ ¬event.Drops e.key))
      (idle : event.used? = none)
  | use (e : Entry τ α) (mem : e ∈ c.entries) (thinned : c'.Thinned c)
      (entries : c'.entries = (c.use e).entries) (used : event.used? = some e.key)
      (kept : ∀ key, ¬event.Drops key)
  | insert (key : String) (value : α) (file fingerprint : Option String)
      (eq_insert : c' = (c.expire event.now).insert event.now key value fingerprint)
      (stores : event.Stores key value file)
      (marked : fingerprintFor c.digest event.files file = .ok fingerprint)

/-- What storing a result yields, and the cache after it. -/
lemma value_set_eq (c : Cache τ α) (now : τ) (fs : FileSystem) (key : String) (value : α)
    (path : Option String) :
    (c.set now fs key value path).value =
      match fingerprintFor c.digest fs path with
      | .error failure => (.error (.file failure), c)
      | .ok fingerprint => c.store now key value fingerprint := by
  rw [set, fingerprintFor]
  cases fileOf path with
  | none => rfl
  | some file =>
    dsimp only
    rw [Logged.value_bind]
    cases (Store.fingerprintWith c.digest fs file).value <;> rfl

/-- Storing a result counts nothing. -/
lemma counts_store (c : Cache τ α) (now : τ) (key : String) (value : α)
    (fingerprint : Option String) :
    (c.store now key value fingerprint).2.hits = c.hits ∧
      (c.store now key value fingerprint).2.misses = c.misses := by
  have hroom : ∀ c : Cache τ α, (c.makeRoom key).hits = c.hits ∧
      (c.makeRoom key).misses = c.misses := by
    intro c
    rw [makeRoom]
    split <;> exact ⟨rfl, rfl⟩
  dsimp only [store]
  split
  · exact ⟨rfl, rfl⟩
  · exact hroom (c.expire now)

/-- The effect of an event that leaves the entries as they are. -/
lemma Effect.of_eq {c c' : Cache τ α} {event : Event τ α} (hthinned : c'.Thinned c)
    (hentries : c'.entries = c.entries)
    (hkept : ∀ e ∈ c.entries, e.isLive event.now → ¬event.Drops e.key)
    (hidle : event.used? = none) : Effect c event c' :=
  .sift (fun _ => true) hthinned (by simp [hentries])
    (fun e he hlive => iff_of_true rfl (hkept e he hlive)) hidle

/-- The effect of expiry. -/
lemma Effect.of_expire {c : Cache τ α} (h : c.IsOrderly) {event : Event τ α}
    (hkept : ∀ key, ¬event.Drops key) (hidle : event.used? = none) :
    Effect c event (c.expire event.now) :=
  .sift (fun e => !(c.expired event.now).contains e.serial) (thinned_expire c event.now) rfl
    (fun e he hlive => iff_of_true (by simpa using h.not_mem_expired he hlive) (hkept e.key)) hidle

/-- The effect of storing. -/
lemma World.effect_set {w : World τ α} (h : w.cache.IsOrderly) (key : String) (value : α)
    (path : Option String) :
    Effect w.cache (w.event (.set key value path)) (w.step (.set key value path)).2.cache := by
  have hset := w.cache.value_set_eq w.now w.files key value path
  have hcache : (w.step (.set key value path)).2.cache =
    (w.cache.set w.now w.files key value path).value.2 := rfl
  have hanswer : (w.event (.set key value path)).answer =
    .stored (w.cache.set w.now w.files key value path).value.1 := rfl
  have hoperation : (w.event (.set key value path)).operation = .set key value path := rfl
  cases hmark : fingerprintFor w.cache.digest w.files path with
  | error failure =>
    rw [hset, hmark] at hcache hanswer
    rw [hcache]
    exact .of_eq (.refl _) rfl (fun e _ _ => by simp [Event.Drops, hoperation, hanswer])
      (by simp [Event.used?, hoperation, hanswer])
  | ok fingerprint =>
    rw [hset, hmark] at hcache hanswer
    dsimp only [store] at hcache hanswer
    split at hcache
    case isTrue hfull =>
      rw [if_pos hfull] at hanswer
      rw [hcache]
      exact .of_expire h (fun key => by simp [Event.Drops, hoperation, hanswer])
        (by simp [Event.used?, hoperation, hanswer])
    case isFalse hroom =>
      rw [if_neg hroom] at hanswer
      exact .insert key value path fingerprint hcache ⟨hoperation, hanswer⟩ hmark

/-- The effect of reading. -/
lemma World.effect_get {w : World τ α} (h : w.cache.IsOrderly) (key : String)
    (path : Option String) :
    Effect w.cache (w.event (.get key path)) (w.step (.get key path)).2.cache := by
  have hcache : (w.step (.get key path)).2.cache =
    (w.cache.get w.now w.files key path).value.2 := rfl
  have hanswer : (w.event (.get key path)).answer =
    .read (w.cache.get w.now w.files key path).value.1 := rfl
  have hoperation : (w.event (.get key path)).operation = .get key path := rfl
  obtain ⟨hnone, hget⟩ | ⟨e, hfound, hcases⟩ :=
    w.cache.value_get_cases w.now w.files key path
  · -- nothing is found, so no live entry has the key
    rw [hget] at hcache hanswer
    rw [hcache]
    refine .of_eq ⟨rfl, rfl, rfl, rfl, .refl _⟩ rfl (fun e he hlive => ?_)
      (by simp [Event.used?, hoperation, hanswer])
    simp only [Event.Drops, hoperation, hanswer]
    rintro rfl
    exact find?_eq_none_iff.1 hnone e he rfl hlive
  · obtain ⟨he, rfl, -⟩ := h.find?_eq_some_iff.1 hfound
    have huse := h.thinned_use he
    obtain ⟨failure, -, hget⟩ | ⟨-, hget⟩ | ⟨-, hget⟩ := hcases <;>
      rw [hget] at hcache hanswer <;> rw [hcache]
    · exact .use e he huse rfl (by simp [Event.used?, hoperation, hanswer]) fun key => by
        simp [Event.Drops, hoperation, hanswer]
    · refine .sift (·.key != e.key) ⟨rfl, rfl, rfl, rfl, (thinned_erase _ _).entries⟩ rfl
        (fun e' _ _ => ?_) (by simp [Event.used?, hoperation, hanswer])
      simp only [Event.Drops, hoperation, hanswer]
      rw [bne_iff_ne, ne_comm]
    · exact .use e he ⟨rfl, rfl, rfl, rfl, huse.entries⟩ rfl
        (by simp [Event.used?, hoperation, hanswer]) fun key => by
          simp [Event.Drops, hoperation, hanswer]

/-- The effect of dropping results. -/
lemma World.effect_clear (w : World τ α) (pattern : Option String) :
    Effect w.cache (w.event (.clear pattern)) (w.step (.clear pattern)).2.cache := by
  cases pattern with
  | none =>
    refine .sift (fun _ => false) ⟨rfl, rfl, rfl, rfl, List.nil_subperm⟩ ?_ (fun e _ _ => ?_) rfl
    · rw [List.filter_false]
      rfl
    · simp [Event.Drops, World.event]
  | some pattern =>
    refine .sift _ ⟨rfl, rfl, rfl, rfl, List.filter_sublist.subperm⟩ rfl (fun e _ hlive => ?_) rfl
    have hlive' : e.isLive w.now = true := hlive
    simp [Event.Drops, World.event, hlive']

/-- **Every step changes the entries in one of the three ways.** -/
theorem World.effect {w : World τ α} (h : w.cache.IsOrderly) (op : Operation τ α) :
    Effect w.cache (w.event op) (w.step op).2.cache := by
  cases op with
  | set key value path => exact effect_set h key value path
  | get key path => exact effect_get h key path
  | clear pattern => exact w.effect_clear pattern
  | stats => exact .of_expire h (fun key => by simp [Event.Drops, event]) rfl
  | edit files => exact .of_eq (.refl _) rfl (fun e _ _ => by simp [Event.Drops, event]) rfl
  | wait later => exact .of_eq (.refl _) rfl (fun e _ _ => by simp [Event.Drops, event]) rfl

/-- No event changes the room, the lifetime or the digest. -/
lemma Effect.settings {c c' : Cache τ α} {event : Event τ α} (h : Effect c event c') :
    c'.capacity = c.capacity ∧ c'.lifetime = c.lifetime ∧ c'.digest = c.digest := by
  cases h with
  | sift keep hthinned => exact ⟨hthinned.capacity, hthinned.lifetime, hthinned.digest⟩
  | use e hmem hthinned => exact ⟨hthinned.capacity, hthinned.lifetime, hthinned.digest⟩
  | insert key value file fingerprint heq =>
    have hroomy := thinned_makeRoom (c.expire event.now) key
    rw [heq]
    exact ⟨hroomy.capacity, hroomy.lifetime, hroomy.digest⟩

/-- Every event keeps a cache with room orderly. -/
lemma Effect.isOrderly {c c' : Cache τ α} {event : Event τ α} (h : Effect c event c')
    (horderly : c.IsOrderly) (hroom : 0 < c.capacity) : c'.IsOrderly := by
  cases h with
  | sift keep hthinned => exact horderly.thinned hthinned
  | use e hmem hthinned => exact horderly.thinned hthinned
  | insert key value file fingerprint heq =>
    rw [heq]
    exact (horderly.thinned (thinned_expire c event.now)).insert hroom _ _ _ _

end Effect

end FlopCensus.Cache
