import FlopCensus.Proofs.Store.Soundness
import Mathlib.Data.List.Dedup
import Mathlib.Data.List.DropRight

set_option autoImplicit false
set_option relaxedAutoImplicit false

/-!
# The least recently used results go

As long as results have no lifetime and nothing is dropped on purpose, a cache is told by the uses
of its keys alone: it holds the keys that were used last, as many as there is room for, in the order
of their last uses. Storings and readings that find something count as uses.

## Main definitions

* `FlopCensus.Cache.World.Retains`, `FlopCensus.Cache.Retaining` — the steps and runs in which
  nothing is dropped on purpose.
* `FlopCensus.Cache.byLastUse` — the distinct keys that a history uses, in the order of their last
  uses.
* `FlopCensus.Cache.Recent` — the invariant of such runs.

## Main results

* `FlopCensus.Cache.Recent.step`, `FlopCensus.Cache.Retaining.recent` — the invariant along a run.
* `FlopCensus.Cache.keys_after_uses` — which keys are stored after a run, and with which values.

## Design

The order of the last uses is `List.dedup` of the uses, which keeps the last occurrence of each key.
The entries are always an end of it, so that one list of all keys stands for every size of a cache.
-/

namespace FlopCensus.Cache

variable {τ α : Type}

/-! ### The order of the last uses -/

section Order

variable {β : Type} {l : List β} {b : β} {n : ℕ}

/-- A list falls into its end, which is full unless it is the whole list, and what is before it. -/
lemma exists_eq_append_rtake (l : List β) (n : ℕ) :
    ∃ front, l = front ++ l.rtake n ∧ (l.rtake n).length ≤ n ∧
      (front = [] ∨ (l.rtake n).length = n) := by
  refine ⟨l.rdrop n, by simp [List.rdrop, List.rtake], ?_, ?_⟩
  · simp only [List.rtake, List.length_drop]
    omega
  · by_cases hn : n ≤ l.length
    · right
      simp only [List.rtake, List.length_drop]
      omega
    · left
      have hzero : l.length - n = 0 := by omega
      simp [List.rdrop, hzero]

/-- The end of a list is found in its back part, if that is long enough or the whole list. -/
lemma rtake_append_of_le {front back : List β} (h : front = [] ∨ n ≤ back.length) :
    (front ++ back).rtake n = back.rtake n := by
  unfold List.rtake
  rcases h with rfl | h
  · simp
  · have hdrop : (front ++ back).length - n = front.length + (back.length - n) := by
      rw [List.length_append]
      omega
    rw [hdrop, List.drop_append]
    simp

/-- A short list is its own end. -/
lemma rtake_of_length_le (h : l.length ≤ n) : l.rtake n = l := by
  have hzero : l.length - n = 0 := by omega
  simp [List.rtake, hzero]

variable [DecidableEq β]

/-- An element that occurs once more, at the end, moves behind the others. -/
lemma dedup_concat (l : List β) (b : β) :
    (l ++ [b]).dedup = l.dedup.filter (· != b) ++ [b] := by
  induction l with
  | nil => simp
  | cons a l ih =>
    rw [List.cons_append, List.dedup_cons', List.dedup_cons', ih]
    by_cases hab : a = b
    · subst hab
      by_cases hmem : a ∈ l.dedup <;> simp [hmem]
    · by_cases hmem : a ∈ l.dedup <;> simp [hmem, hab]

/-- If an element of the end moves behind the others, it does so in the end. -/
lemma rtake_move_of_mem (hl : l.Nodup) (hmem : b ∈ l.rtake n) :
    (l.filter (· != b) ++ [b]).rtake n = (l.rtake n).filter (· != b) ++ [b] := by
  obtain ⟨front, hsplit, hle, hfront⟩ := exists_eq_append_rtake l n
  generalize l.rtake n = back at *
  subst hsplit
  -- the element is in the part that is kept, so the part in front of it does not change
  have hkept : front.filter (· != b) = front := by
    refine List.filter_eq_self.2 fun a ha => bne_iff_ne.2 ?_
    rintro rfl
    exact (List.nodup_append.1 hl).2.2 a ha a hmem rfl
  have hlength : (back.filter (· != b) ++ [b]).length = back.length := by
    have hback : back.Nodup := (List.nodup_append.1 hl).2.1
    have hpos := List.length_pos_of_mem hmem
    rw [← hback.erase_eq_filter, List.length_append, List.length_erase_of_mem hmem,
      List.length_singleton]
    omega
  have hend : front = [] ∨ n ≤ (back.filter (· != b) ++ [b]).length :=
    hfront.imp id fun hfull => by omega
  rw [List.filter_append, hkept, List.append_assoc, rtake_append_of_le hend]
  exact rtake_of_length_le (by omega)

/-- If another element moves behind the others, the first one of a full end makes room. -/
lemma rtake_move_of_not_mem (hn : 0 < n) (hmem : b ∉ l.rtake n) :
    (l.filter (· != b) ++ [b]).rtake n =
      (l.rtake n).drop ((l.rtake n).length + 1 - n) ++ [b] := by
  obtain ⟨front, hsplit, -, hfront⟩ := exists_eq_append_rtake l n
  generalize l.rtake n = back at *
  subst hsplit
  obtain ⟨m, rfl⟩ : ∃ m, n = m + 1 := ⟨n - 1, by omega⟩
  have hkept : back.filter (· != b) = back := by
    refine List.filter_eq_self.2 fun a ha => bne_iff_ne.2 ?_
    rintro rfl
    exact hmem ha
  have hend : front.filter (· != b) = [] ∨ m ≤ back.length := by
    rcases hfront with rfl | hfull
    · exact .inl rfl
    · exact .inr (by omega)
  rw [List.rtake_concat_succ, List.filter_append, hkept, rtake_append_of_le hend, List.rtake,
    Nat.add_sub_add_right]

end Order

/-! ### Runs that drop nothing on purpose -/

section Run

variable [Add τ] [LT τ] [DecidableLT τ] {first w : World τ α} {h : List (Event τ α)}

/-- The operation drops nothing on purpose: it does not clear the cache, and it is no reading that
finds a file changed. -/
def World.Retains (w : World τ α) : Operation τ α → Prop
  | .clear _ => False
  | .get key path => ∀ e, w.cache.find? w.now key = some e →
      (w.cache.isFresh w.files e path).value ≠ .ok false
  | _ => True

/-- The histories in which nothing is dropped on purpose, and the worlds they lead to. -/
inductive Retaining (first : World τ α) : List (Event τ α) → World τ α → Prop
  | nil : Retaining first [] first
  | step {h : List (Event τ α)} {w : World τ α} {op : Operation τ α} (hrun : Retaining first h w)
      (hretains : w.Retains op) : Retaining first (h ++ [w.event op]) (w.step op).2

/-- An operation that drops nothing on purpose and uses no entry leaves what was stored under the
keys of live entries. -/
lemma World.Retains.not_drops {op : Operation τ α} (hretains : w.Retains op)
    (hidle : (w.event op).used? = none) {e : Entry τ α} (he : e ∈ w.cache.entries)
    (hlive : e.isLive w.now) : ¬(w.event op).Drops e.key := by
  intro hdrops
  cases op with
  | set key value path =>
    have hanswer : (w.event (.set key value path)).answer =
      .stored (w.cache.set w.now w.files key value path).value.1 := rfl
    have hoperation : (w.event (.set key value path)).operation = .set key value path := rfl
    -- a storing that drops anything has used its key
    rcases hset : (w.cache.set w.now w.files key value path).value.1 with failure | ⟨⟩ <;>
      rw [hset] at hanswer
    · simp [Event.Drops, hoperation, hanswer] at hdrops
    · simp [Event.used?, hoperation, hanswer] at hidle
  | get key path =>
    have hanswer : (w.event (.get key path)).answer =
      .read (w.cache.get w.now w.files key path).value.1 := rfl
    have hoperation : (w.event (.get key path)).operation = .get key path := rfl
    obtain ⟨hnone, hget⟩ | ⟨found, hfound, ⟨failure, -, hget⟩ | ⟨hstale, -⟩ | ⟨-, hget⟩⟩ :=
      w.cache.value_get_cases w.now w.files key path
    · -- nothing was found, and so the entry has another key
      rw [hget] at hanswer
      simp only [Event.Drops, hoperation, hanswer] at hdrops
      exact find?_eq_none_iff.1 hnone e he hdrops.symm hlive
    · simp [Event.used?, hoperation, hanswer, hget] at hidle
    · exact hretains found hfound hstale
    · simp [Event.used?, hoperation, hanswer, hget] at hidle
  | clear pattern => exact hretains
  | stats => exact hdrops
  | edit files => exact hdrops
  | wait later => exact hdrops

end Run

/-! ### The keys that were used last -/

/-- The distinct keys that a history uses, in the order of their last uses. A storing uses its key,
and so does a reading that finds a result, even where the file given with it is an impossible
one. -/
def byLastUse (h : List (Event τ α)) : List String :=
  (h.filterMap Event.used?).dedup

/-- Each of the keys is there once. -/
lemma nodup_byLastUse (h : List (Event τ α)) : (byLastUse h).Nodup :=
  List.nodup_dedup _

/-- A key was used by one of the events. -/
lemma mem_byLastUse {h : List (Event τ α)} {key : String} :
    key ∈ byLastUse h ↔ ∃ event ∈ h, event.used? = some key := by
  simp [byLastUse]

/-- An event that uses nothing leaves the order. -/
lemma byLastUse_concat_of_idle {event : Event τ α} (h : List (Event τ α))
    (hidle : event.used? = none) : byLastUse (h ++ [event]) = byLastUse h := by
  simp [byLastUse, List.filterMap_append, hidle]

/-- The key that was used last moves behind the others. -/
lemma byLastUse_concat_of_used {event : Event τ α} {key : String} (h : List (Event τ α))
    (hused : event.used? = some key) :
    byLastUse (h ++ [event]) = (byLastUse h).filter (· != key) ++ [key] := by
  have huses : (h ++ [event]).filterMap Event.used? = h.filterMap Event.used? ++ [key] := by
    simp [List.filterMap_append, hused]
  rw [byLastUse, huses, dedup_concat, byLastUse]

/-- The keys of the other entries are the other keys. -/
lemma map_key_erase (c : Cache τ α) (key : String) :
    (c.erase key).entries.map (·.key) = (c.entries.map (·.key)).filter (· != key) := by
  rw [erase, List.filter_map]
  rfl

/-- A cache holds the keys that a history used last, in this order and as many as it has room for,
and under each of them what was stored last; its entries do not expire. -/
structure Recent (capacity : ℕ) (h : List (Event τ α)) (c : Cache τ α) : Prop where
  /-- The cache has the room it had. -/
  capacity_eq : c.capacity = capacity
  /-- Results have no lifetime. -/
  lifetime : c.lifetime = none
  /-- The entries are in order. -/
  orderly : c.IsOrderly
  /-- They have no deadline. -/
  lasting : ∀ e ∈ c.entries, e.deadline = none
  /-- The keys are those that were used last. -/
  keys : c.entries.map (·.key) = (byLastUse h).rtake capacity
  /-- Only keys that something was stored under have been used. -/
  stored : ∀ key ∈ byLastUse h, ∃ event ∈ h, ∃ value file, event.Stores key value file
  /-- Every entry is what was stored last under its key. -/
  values : ∀ e ∈ c.entries, ∃ file setting since, LastStored h e.key e.value file setting since

section Invariant

variable [Add τ] [LT τ] [DecidableLT τ] {capacity : ℕ} {h : List (Event τ α)}
  {c c' : Cache τ α} {event : Event τ α}

omit [Add τ] in
/-- An entry without a deadline is alive. -/
lemma Recent.isLive (hr : Recent capacity h c) {e : Entry τ α} (he : e ∈ c.entries) (now : τ) :
    e.isLive now := by
  rw [Entry.isLive, hr.lasting e he]

omit [Add τ] in
/-- Expiry drops no entry. -/
lemma Recent.entries_expire (hr : Recent capacity h c) (now : τ) :
    (c.expire now).entries = c.entries :=
  List.filter_eq_self.2 fun _ he => by simpa using hr.orderly.not_mem_expired he (hr.isLive he now)

omit [Add τ] [LT τ] [DecidableLT τ] in
/-- What was stored under a key stays stored, as the history grows. -/
lemma Recent.stored_concat (hr : Recent capacity h c) {key : String} (hkey : key ∈ byLastUse h)
    (event : Event τ α) :
    ∃ event' ∈ h ++ [event], ∃ value file, event'.Stores key value file := by
  obtain ⟨setting, hmem, hstores⟩ := hr.stored key hkey
  exact ⟨setting, List.mem_append_left _ hmem, hstores⟩

omit [Add τ] [LT τ] [DecidableLT τ] in
/-- What was stored last under the key of an entry still is, after an event that does not drop
it. -/
lemma Recent.values_concat (hr : Recent capacity h c) {e : Entry τ α} (he : e ∈ c.entries)
    (hkept : ¬event.Drops e.key) :
    ∃ file setting since, LastStored (h ++ [event]) e.key e.value file setting since := by
  obtain ⟨file, setting, since, hlast⟩ := hr.values e he
  exact ⟨file, setting, since ++ [event], lastStored_concat_iff.2 (.inr ⟨since, rfl, hlast, hkept⟩)⟩

omit [Add τ] [LT τ] [DecidableLT τ] in
/-- An event that drops no entry and uses none keeps the invariant. -/
lemma Recent.idle (hr : Recent capacity h c) (hthinned : c'.Thinned c)
    (hentries : c'.entries = c.entries) (hidle : event.used? = none)
    (hkept : ∀ e ∈ c.entries, ¬event.Drops e.key) : Recent capacity (h ++ [event]) c' where
  capacity_eq := hthinned.capacity.trans hr.capacity_eq
  lifetime := hthinned.lifetime.trans hr.lifetime
  orderly := hr.orderly.thinned hthinned
  lasting := by
    rw [hentries]
    exact hr.lasting
  keys := by rw [hentries, byLastUse_concat_of_idle h hidle, hr.keys]
  stored := by
    rw [byLastUse_concat_of_idle h hidle]
    exact fun key hkey => hr.stored_concat hkey event
  values := by
    rw [hentries]
    exact fun e he => hr.values_concat he (hkept e he)

omit [Add τ] [LT τ] [DecidableLT τ] in
/-- A use of an entry keeps the invariant: its key moves behind the others, in the cache and in the
order of the last uses. -/
lemma Recent.use (hr : Recent capacity h c) {e : Entry τ α} (he : e ∈ c.entries)
    (hthinned : c'.Thinned c) (hentries : c'.entries = (c.use e).entries)
    (hused : event.used? = some e.key) (hkept : ∀ key, ¬event.Drops key) :
    Recent capacity (h ++ [event]) c' := by
  have hheld : ∀ e' ∈ c'.entries, e' ∈ c.entries := fun e' he' => hthinned.entries.subset he'
  have hmem : e.key ∈ (byLastUse h).rtake capacity := by
    rw [← hr.keys]
    exact List.mem_map_of_mem he
  refine ⟨hthinned.capacity.trans hr.capacity_eq, hthinned.lifetime.trans hr.lifetime,
    hr.orderly.thinned hthinned, fun e' he' => hr.lasting e' (hheld e' he'), ?_,
    fun key hkey => ?_, fun e' he' => hr.values_concat (hheld e' he') (hkept _)⟩
  · rw [hentries, Cache.use, List.map_append, map_key_erase, hr.keys,
      byLastUse_concat_of_used h hused, rtake_move_of_mem (nodup_byLastUse h) hmem]
    rfl
  · rw [byLastUse_concat_of_used h hused, List.mem_append, List.mem_singleton] at hkey
    rcases hkey with hkey | rfl
    · exact hr.stored_concat (List.mem_filter.1 hkey).1 event
    · exact hr.stored_concat (List.mem_of_mem_drop hmem) event

omit [LT τ] [DecidableLT τ] in
/-- The keys after a result was put in: if it is a new one, the first key of a full cache has made
room, and otherwise the key has moved behind the others. -/
lemma Recent.keys_insert (hr : Recent capacity h c) (hroom : 0 < capacity) (now : τ) (key : String)
    (value : α) (fingerprint : Option String) :
    (c.insert now key value fingerprint).entries.map (·.key) =
      ((byLastUse h).filter (· != key) ++ [key]).rtake capacity := by
  rw [entries_insert, List.map_append, map_key_erase]
  by_cases hmem : key ∈ (byLastUse h).rtake capacity
  · have hheld : c.entries.any (·.key == key) = true := by
      rw [← hr.keys] at hmem
      simpa using hmem
    rw [makeRoom, if_pos hheld, hr.keys, rtake_move_of_mem (nodup_byLastUse h) hmem]
    rfl
  · have hnew : ¬c.entries.any (·.key == key) = true := by
      rw [← hr.keys] at hmem
      simpa using hmem
    rw [rtake_move_of_not_mem hroom hmem, makeRoom, if_neg hnew, List.map_drop, hr.keys,
      hr.capacity_eq]
    have hlength : c.entries.length = ((byLastUse h).rtake capacity).length := by
      rw [← hr.keys, List.length_map]
    rw [hlength]
    congr 1
    -- nothing is left to be dropped under the new key
    refine List.filter_eq_self.2 fun other hother => bne_iff_ne.2 ?_
    rintro rfl
    exact hmem (List.mem_of_mem_drop hother)

omit [LT τ] [DecidableLT τ] in
/-- A storing keeps the invariant. -/
lemma Recent.insert (hr : Recent capacity h c) (hroom : 0 < capacity) {now : τ} {key : String}
    {value : α} {file fingerprint : Option String} (hstores : event.Stores key value file)
    (horderly : (c.insert now key value fingerprint).IsOrderly) :
    Recent capacity (h ++ [event]) (c.insert now key value fingerprint) := by
  have hroomy := thinned_makeRoom c key
  have hkey := byLastUse_concat_of_used h hstores.used?_eq
  -- an entry is an earlier one of another key, or the new one
  have hentry : ∀ e ∈ (c.insert now key value fingerprint).entries,
      (e ∈ c.entries ∧ e.key ≠ key) ∨
        e = ⟨key, value, fingerprint, c.lifetime.map (now + ·), c.stored⟩ := by
    intro e he
    rw [entries_insert, List.mem_append, List.mem_singleton] at he
    refine he.imp_left fun hold => ?_
    obtain ⟨hmem, hne⟩ := mem_erase.1 hold
    exact ⟨hroomy.entries.subset hmem, hne⟩
  refine ⟨hroomy.capacity.trans hr.capacity_eq, hroomy.lifetime.trans hr.lifetime, horderly,
    fun e he => ?_, ?_, fun other hother => ?_, fun e he => ?_⟩
  · rcases hentry e he with ⟨hold, -⟩ | rfl
    · exact hr.lasting e hold
    · rw [hr.lifetime]
      rfl
  · rw [hkey, hr.keys_insert hroom]
  · rw [hkey, List.mem_append, List.mem_singleton] at hother
    rcases hother with hother | rfl
    · exact hr.stored_concat (List.mem_filter.1 hother).1 event
    · exact ⟨event, by simp, value, file, hstores⟩
  · rcases hentry e he with ⟨hold, hne⟩ | rfl
    · exact hr.values_concat hold fun hdrops => hne (hstores.drops_iff.1 hdrops).symm
    · exact ⟨file, event, [], lastStored_concat_iff.2 (.inl ⟨rfl, rfl, hstores⟩)⟩

/-- **Every operation that drops nothing on purpose keeps the invariant.** -/
theorem Recent.step {w : World τ α} (hr : Recent capacity h w.cache) (hroom : 0 < capacity)
    {op : Operation τ α} (hretains : w.Retains op) :
    Recent capacity (h ++ [w.event op]) (w.step op).2.cache := by
  have heffect := w.effect hr.orderly op
  have horderly := heffect.isOrderly hr.orderly (by rw [hr.capacity_eq]; exact hroom)
  cases heffect with
  | sift keep hthinned hentries hkept hidle =>
    have hnone : ∀ e ∈ w.cache.entries, ¬(w.event op).Drops e.key := fun e he =>
      hretains.not_drops hidle he (hr.isLive he w.now)
    have hall : w.cache.entries.filter keep = w.cache.entries :=
      List.filter_eq_self.2 fun e he => (hkept e he (hr.isLive he w.now)).2 (hnone e he)
    exact hr.idle hthinned (hentries.trans hall) hidle hnone
  | use e hmem hthinned hentries hused hkept => exact hr.use hmem hthinned hentries hused hkept
  | insert key value file fingerprint heq hstores hmark =>
    -- no entry expires, so room is made in the same cache
    have hexpired : Recent capacity h (w.cache.expire w.now) :=
      { hr with
        orderly := hr.orderly.thinned (thinned_expire w.cache w.now)
        lasting := by
          rw [hr.entries_expire]
          exact hr.lasting
        keys := by rw [hr.entries_expire, hr.keys]
        values := by
          rw [hr.entries_expire]
          exact hr.values }
    rw [heq] at horderly ⊢
    exact hexpired.insert hroom hstores horderly

/-- **The invariant holds along every run that drops nothing on purpose**, from a cache without
entries. -/
theorem Retaining.recent {first w : World τ α} (hrun : Retaining first h w)
    (hempty : first.cache.entries = []) (hlifetime : first.cache.lifetime = none)
    (hroom : 0 < first.cache.capacity) : Recent first.cache.capacity h w.cache := by
  induction hrun with
  | nil =>
    refine ⟨rfl, hlifetime, isOrderly_of_entries_eq_nil hempty, ?_, ?_, ?_, ?_⟩ <;>
      simp [hempty, byLastUse, List.rtake]
  | step hrun hretains ih => exact ih.step hroom hretains

end Invariant

/-! ### What is stored after a run -/

/-- **The least recently used results go.** Take any run of a new cache with room whose results
have no lifetime, in which nothing is dropped on purpose. The keys that something was ever stored
under are those that were used, and of these the cache holds the ones that were used last, as many
as there is room for, in the order of their last uses. Under every key it holds the result that was
stored last.

**Proof sketch.** Every operation sifts the entries, uses one or puts one in (`World.effect`). An
operation that drops nothing on purpose sifts nothing out (`World.Retains.not_drops`); a use and a
storing move a key behind the others, in the cache as well as in the order of the last uses, and
where a new key needs room it is the first key of the end that goes (`rtake_move_of_mem`,
`rtake_move_of_not_mem`). -/
theorem keys_after_uses [Add τ] [LT τ] [DecidableLT τ] {size : ℤ} {first : Cache τ α} {now : τ}
    {fs : FileSystem} {h : List (Event τ α)} {w : World τ α} (hnew : new size none = .ok first)
    (hsize : 1 ≤ size) (hrun : Retaining ⟨first, now, fs⟩ h w) :
    w.cache.entries.map (·.key) = (byLastUse h).rtake size.toNat ∧
    (byLastUse h).Nodup ∧
    (∀ key, key ∈ byLastUse h ↔ ∃ event ∈ h, ∃ value file, event.Stores key value file) ∧
    ∀ e ∈ w.cache.entries, ∃ file setting since, LastStored h e.key e.value file setting since := by
  obtain ⟨-, rfl⟩ := new_eq_ok_iff.1 hnew
  have hr := hrun.recent rfl rfl (by dsimp only; omega)
  refine ⟨hr.keys, nodup_byLastUse h, fun key => ⟨hr.stored key, ?_⟩, hr.values⟩
  rintro ⟨event, hmem, value, file, hstores⟩
  exact mem_byLastUse.2 ⟨event, hmem, hstores.used?_eq⟩

/-- In a cache with room for two results a third one replaces the one that was not read. -/
theorem keys_after_uses_third : ∃ h w, Retaining (newWorld 2 none) h w ∧
    byLastUse h = ["b", "a", "c"] ∧ w.cache.entries.map (·.key) = ["a", "c"] := by
  let first := newWorld 2 none
  let second := (first.step (.set "a" 1 none)).2
  let third := (second.step (.set "b" 2 none)).2
  let fourth := (third.step (.get "a" none)).2
  have hfirst : first.Retains (.set "a" 1 none) := trivial
  have hsecond : second.Retains (.set "b" 2 none) := trivial
  have hthird : third.Retains (.get "a" none) := fun e _ hstale => by cases hstale
  have hfourth : fourth.Retains (.set "c" 3 none) := trivial
  have hrun := (((Retaining.nil.step hfirst).step hsecond).step hthird).step hfourth
  have hnew : new 2 none = .ok first.cache := rfl
  have horder : byLastUse ([] ++ [first.event (.set "a" 1 none)] ++ [second.event (.set "b" 2 none)]
      ++ [third.event (.get "a" none)] ++ [fourth.event (.set "c" 3 none)]) = ["b", "a", "c"] := by
    decide +kernel
  have hkeys := (keys_after_uses hnew (by decide) hrun).1
  rw [horder] at hkeys
  exact ⟨_, _, hrun, horder, hkeys⟩

end FlopCensus.Cache
