import FlopCensus.Proofs.Store.History

set_option autoImplicit false
set_option relaxedAutoImplicit false

/-!
# What is read from a cache

The entries of a cache are what its history tells of them: a live entry is the one that the last
storing under its key has left, and only other keys used since are behind it. So a result that is
read is the one that was stored last, and it is read as long as not too many other keys are used.

## Main definitions

* `FlopCensus.Cache.Entry.IsLeftBy` — an entry is the one that a storing leaves.
* `FlopCensus.Cache.Tracks` — the invariant of the runs of a cache.

## Main results

* `FlopCensus.Cache.Tracks.step`, `FlopCensus.Cache.Run.tracks` — the invariant along a run.
* `FlopCensus.Cache.Tracks.stands_of_get` — what is read stands.
* `FlopCensus.Cache.Tracks.get_of_stands` — what stands is read.
* `FlopCensus.Cache.read_after_run` — what is read after a run, and what is counted.
-/

namespace FlopCensus.Cache

variable {τ α : Type}

/-! ### The invariant -/

/-- The entry that a storing leaves in a cache. -/
structure Entry.IsLeftBy [Add τ] (e : Entry τ α) (first : Cache τ α) (key : String) (value : α)
    (file : Option String) (setting : Event τ α) : Prop where
  /-- It has the key. -/
  key_eq : e.key = key
  /-- It has the value. -/
  value_eq : e.value = value
  /-- It lives as long as the result. -/
  deadline_eq : e.deadline = first.lifetime.map (setting.now + ·)
  /-- It has the fingerprint that the file had. -/
  marked : fingerprintFor first.digest setting.files file = .ok e.fingerprint

/-- The entries are those that the history of a cache tells of: a live entry is left by the last
storing under its key, and what was stored last and is alive is there, unless too many other keys
have been used since. -/
structure Tracks [Add τ] [LT τ] [DecidableLT τ] (first : Cache τ α) (h : List (Event τ α))
    (w : World τ α) : Prop where
  /-- The room, the lifetime and the digest are those of the first cache. -/
  settings : w.cache.capacity = first.capacity ∧ w.cache.lifetime = first.lifetime ∧
    w.cache.digest = first.digest
  /-- The entries are in order. -/
  orderly : w.cache.IsOrderly
  /-- A live entry is left by the last storing under its key. -/
  backed : ∀ e ∈ w.cache.entries, e.isLive w.now → ∃ file setting since,
    LastStored h e.key e.value file setting since ∧ e.IsLeftBy first e.key e.value file setting
  /-- What was stored last and is alive is there. -/
  kept : ∀ key value file setting since, LastStored h key value file setting since →
    IsAlive first.lifetime w.now setting → (othersUsed key since).card < first.capacity →
      ∃ e : Entry τ α, e.IsLeftBy first key value file setting ∧
        w.cache.Holds e (othersUsed key since)

section Clock

variable [LT τ]

/-- An entry that is alive later is alive now. -/
lemma Entry.isLive_of_notBefore [DecidableLT τ] {now later : τ} (h : NotBefore now later)
    {e : Entry τ α} (hlive : e.isLive later) : e.isLive now := by
  rw [isLive] at hlive ⊢
  cases hdeadline : e.deadline with
  | none => rfl
  | some deadline =>
    rw [hdeadline] at hlive
    exact decide_eq_true (h deadline (of_decide_eq_true hlive))

/-- So is the result of a storing. -/
lemma IsAlive.of_notBefore [Add τ] {now later : τ} (h : NotBefore now later) {lifetime : Option τ}
    {setting : Event τ α} (halive : IsAlive lifetime later setting) :
    IsAlive lifetime now setting :=
  fun t ht => h _ (halive t ht)

/-- An entry is alive as long as the result of the storing that left it. -/
lemma Entry.IsLeftBy.isLive_iff [Add τ] [DecidableLT τ] {e : Entry τ α} {first : Cache τ α}
    {key : String} {value : α} {file : Option String} {setting : Event τ α}
    (h : e.IsLeftBy first key value file setting) {now : τ} :
    e.isLive now ↔ IsAlive first.lifetime now setting := by
  rw [isLive, IsAlive, h.deadline_eq]
  cases first.lifetime <;> simp

end Clock

section Step

variable [Add τ] [LT τ] [DecidableLT τ] {first c' : Cache τ α} {h : List (Event τ α)}
  {w : World τ α} {event : Event τ α}

omit [LT τ] [DecidableLT τ] in
/-- The entry that an event puts in is left by it. -/
lemma isLeftBy_insert {key : String} {value : α} {file fingerprint : Option String}
    (hsettings : w.cache.lifetime = first.lifetime ∧ w.cache.digest = first.digest)
    (hmark : fingerprintFor w.cache.digest event.files file = .ok fingerprint) (serial : ℕ) :
    Entry.IsLeftBy ⟨key, value, fingerprint, w.cache.lifetime.map (event.now + ·), serial⟩ first key
      value file event := by
  refine ⟨rfl, rfl, ?_, ?_⟩
  · rw [hsettings.1]
  · rw [← hsettings.2]
    exact hmark

/-- After an event, a live entry is left by the last storing under its key. -/
lemma Tracks.backed_step (ht : Tracks first h w) (heffect : Effect w.cache event c')
    (hnow : event.now = w.now) {e : Entry τ α} (he : e ∈ c'.entries) (hlive : e.isLive w.now) :
    ∃ file setting since, LastStored (h ++ [event]) e.key e.value file setting since ∧
      e.IsLeftBy first e.key e.value file setting := by
  -- an entry that was there before, and whose key the event does not drop
  have hold : e ∈ w.cache.entries → ¬event.Drops e.key → ∃ file setting since,
      LastStored (h ++ [event]) e.key e.value file setting since ∧
        e.IsLeftBy first e.key e.value file setting := by
    intro hmem hkept
    obtain ⟨file, setting, since, hlast, hleft⟩ := ht.backed e hmem hlive
    exact ⟨file, setting, _, lastStored_concat_iff.2 (.inr ⟨since, rfl, hlast, hkept⟩), hleft⟩
  cases heffect with
  | sift keep hthinned hentries hkept =>
    rw [hentries, List.mem_filter] at he
    exact hold he.1 ((hkept e he.1 (hnow ▸ hlive)).1 he.2)
  | use used hused hthinned hentries hkey hkept =>
    exact hold (hthinned.entries.subset he) (hkept e.key)
  | insert key value file fingerprint heq hstores hmark =>
    rw [heq, entries_insert, List.mem_append, List.mem_singleton] at he
    obtain he | rfl := he
    · obtain ⟨hmem, hne⟩ := mem_erase.1 he
      have hmem' := (thinned_expire w.cache event.now).entries.subset
        ((thinned_makeRoom _ key).entries.subset hmem)
      exact hold hmem' fun hdrops => hne (hstores.drops_iff.1 hdrops).symm
    · exact ⟨file, event, [], lastStored_concat_iff.2 (.inl ⟨rfl, rfl, hstores⟩),
        isLeftBy_insert ht.settings.2 hmark _⟩

/-- After an event, what was stored last and is alive is there. -/
lemma Tracks.kept_step (ht : Tracks first h w) (heffect : Effect w.cache event c')
    (hnow : event.now = w.now) {key : String} {value : α} {file : Option String}
    {setting : Event τ α} {since : List (Event τ α)}
    (hlast : LastStored (h ++ [event]) key value file setting since)
    (halive : IsAlive first.lifetime w.now setting)
    (hcard : (othersUsed key since).card < first.capacity) :
    ∃ e : Entry τ α, e.IsLeftBy first key value file setting ∧
      c'.Holds e (othersUsed key since) := by
  obtain ⟨rfl, rfl, hstores⟩ | ⟨earlier, rfl, hlast, hkept⟩ := lastStored_concat_iff.1 hlast
  · -- the event is the storing
    cases heffect with
    | sift keep hthinned hentries hkept hidle =>
      rw [hstores.used?_eq] at hidle
      cases hidle
    | use used hused hthinned hentries hkey hkept =>
      exact absurd (hstores.drops_iff.2 rfl) (hkept key)
    | insert key' value' file' fingerprint heq hstores' hmark =>
      have hsame := hstores.operation.symm.trans hstores'.operation
      cases hsame
      exact ⟨_, isLeftBy_insert ht.settings.2 hmark _, _, [],
        heq ▸ entries_insert _ _ _ _ _, by simp⟩
  · -- the storing was earlier, and the event leaves its entry where it is
    have hsub := othersUsed_subset_concat key earlier event
    obtain ⟨e, hleft, hholds⟩ := ht.kept key value file setting earlier hlast halive
      ((Finset.card_le_card hsub).trans_lt hcard)
    obtain rfl := hleft.key_eq
    have hlive := hleft.isLive_iff.2 halive
    refine ⟨e, hleft, ?_⟩
    have hholds' := hholds.mono hsub
    cases heffect with
    | sift keep hthinned hentries hkeep =>
      exact hholds'.filter hentries ((hkeep e hholds.mem (hnow ▸ hlive)).2 hkept)
    | use used hused hthinned hentries hkey =>
      have huse := hholds'.use ht.orderly hused fun hne => mem_othersUsed_concat hkey hne earlier
      exact huse.of_entries_eq hentries
    | insert key' value' file' fingerprint heq hstores hmark =>
      have hne : e.key ≠ key' := fun hsame => hkept (hstores.drops_iff.2 hsame.symm)
      rw [heq]
      exact hholds'.insert ht.orderly (hnow ▸ hlive) (ht.settings.1 ▸ hcard)
        (mem_othersUsed_concat hstores.used?_eq hne.symm earlier) hne value' fingerprint

/-- **The invariant along a step.** -/
theorem Tracks.step (ht : Tracks first h w) (hroom : 0 < first.capacity) {op : Operation τ α}
    (htimely : op.IsTimely w.now) : Tracks first (h ++ [w.event op]) (w.step op).2 := by
  have heffect := World.effect ht.orderly op
  have hlater := World.notBefore_step htimely
  obtain ⟨hcapacity, hlifetime, hdigest⟩ := heffect.settings
  refine ⟨⟨hcapacity.trans ht.settings.1, hlifetime.trans ht.settings.2.1,
    hdigest.trans ht.settings.2.2⟩, heffect.isOrderly ht.orderly (ht.settings.1 ▸ hroom),
    fun e he hlive => ?_, fun key value file setting since hlast halive hcard => ?_⟩
  · exact ht.backed_step heffect rfl he (e.isLive_of_notBefore hlater hlive)
  · exact ht.kept_step heffect rfl hlast (halive.of_notBefore hlater) hcard

/-- **The invariant along a run.** -/
theorem Run.tracks {now : τ} {fs : FileSystem} (hrun : Run ⟨first, now, fs⟩ h w)
    (hempty : first.entries = []) (hroom : 0 < first.capacity) : Tracks first h w := by
  induction hrun with
  | nil =>
    refine ⟨⟨rfl, rfl, rfl⟩, isOrderly_of_entries_eq_nil hempty, fun e he => ?_,
      fun key value file setting since hlast => ?_⟩
    · simp [hempty] at he
    · obtain ⟨before, hsplit⟩ := hlast.history
      simp at hsplit
  | step hrun htimely ih => exact ih.step hroom htimely

/-! ### Reading after a run -/

omit [LT τ] [DecidableLT τ] in
/-- An entry is fresh if the file given has the fingerprint that its own file had. -/
lemma Entry.IsLeftBy.isFresh_iff {e : Entry τ α} {key : String} {value : α} {file : Option String}
    {setting : Event τ α} (hleft : e.IsLeftBy first key value file setting)
    (hdigest : w.cache.digest = first.digest) {path : Option String} :
    (w.cache.isFresh w.files e path).value = .ok true ↔
      ∀ given own, fileOf path = some given → fileOf file = some own →
        (Store.fingerprintWith first.digest w.files given).value =
          (Store.fingerprintWith first.digest setting.files own).value := by
  have hmark := hleft.marked
  rw [fingerprintFor] at hmark
  rw [value_isFresh_eq_true_iff, hdigest]
  cases hown : fileOf file with
  | none =>
    rw [hown] at hmark
    have hnone : e.fingerprint = none := (Except.ok.inj hmark).symm
    simp [hnone]
  | some own =>
    rw [hown] at hmark
    cases hthen : (Store.fingerprintWith first.digest setting.files own).value with
    | error failure =>
      simp only [hthen] at hmark
      cases hmark
    | ok mark =>
      simp only [hthen] at hmark
      have hsome : e.fingerprint = some mark := (Except.ok.inj hmark).symm
      simp [hsome, hthen]

/-- **What is read stands**: it was the last result to be stored under the key, is alive, and its
file has the fingerprint that it had then. -/
theorem Tracks.stands_of_get (ht : Tracks first h w) (hdigest : first.digest = Digest.md5Hex)
    {key : String} {path : Option String} {value : α}
    (hread : (w.cache.get w.now w.files key path).value.1 = .ok (some value)) :
    ∃ since, Stands first.lifetime h w key path value since := by
  obtain ⟨-, hget⟩ | ⟨e, hfound, ⟨failure, -, hget⟩ | ⟨-, hget⟩ | ⟨hfresh, hget⟩⟩ :=
    w.cache.value_get_cases w.now w.files key path <;> rw [hget] at hread
  · cases hread
  · cases hread
  · cases hread
  · obtain ⟨he, rfl, hlive⟩ := ht.orderly.find?_eq_some_iff.1 hfound
    obtain ⟨file, setting, since, hlast, hleft⟩ := ht.backed e he hlive
    have hmarks := (hleft.isFresh_iff ht.settings.2.2).1 hfresh
    rw [hdigest] at hmarks
    cases hread
    exact ⟨since, setting, file, hlast, hleft.isLive_iff.1 hlive, hmarks⟩

/-- **What stands is read**, as long as fewer other keys have been used since than there is room
for. -/
theorem Tracks.get_of_stands (ht : Tracks first h w) (hdigest : first.digest = Digest.md5Hex)
    {key : String} {path : Option String} {value : α} {since : List (Event τ α)}
    (hstands : Stands first.lifetime h w key path value since)
    (hcard : (othersUsed key since).card < first.capacity) :
    (w.cache.get w.now w.files key path).value.1 = .ok (some value) := by
  obtain ⟨setting, file, hlast, halive, hmarks⟩ := hstands
  obtain ⟨e, hleft, hholds⟩ := ht.kept key value file setting since hlast halive hcard
  have hfound := ht.orderly.find?_eq_some_iff.2
    ⟨hholds.mem, hleft.key_eq, hleft.isLive_iff.2 halive⟩
  have hfresh : (w.cache.isFresh w.files e path).value = .ok true :=
    (hleft.isFresh_iff ht.settings.2.2).2 (by rwa [hdigest])
  obtain ⟨hnone, -⟩ | ⟨e', hfound', hcases⟩ := w.cache.value_get_cases w.now w.files key path
  · rw [hfound] at hnone
    cases hnone
  obtain rfl : e = e' := Option.some.inj (hfound.symm.trans hfound')
  obtain ⟨failure, hfresh', -⟩ | ⟨hfresh', -⟩ | ⟨-, hget⟩ := hcases
  · rw [hfresh] at hfresh'
    cases hfresh'
  · rw [hfresh] at hfresh'
    cases hfresh'
  · rw [hget, hleft.value_eq]

/-! ### Counts -/

/-- Storing counts nothing. -/
lemma counts_set (c : Cache τ α) (now : τ) (fs : FileSystem) (key : String) (value : α)
    (path : Option String) : (c.set now fs key value path).value.2.hits = c.hits ∧
      (c.set now fs key value path).value.2.misses = c.misses := by
  rw [value_set_eq]
  cases fingerprintFor c.digest fs path with
  | error failure => exact ⟨rfl, rfl⟩
  | ok fingerprint => exact c.counts_store now key value fingerprint

/-- A step counts what was found and what was not. -/
lemma World.counts_step (w : World τ α) (op : Operation τ α) :
    (w.step op).2.cache.hits = w.cache.hits + (readings [w.event op]).countP wasFound ∧
      (w.step op).2.cache.hits + (w.step op).2.cache.misses =
        w.cache.hits + w.cache.misses + (readings [w.event op]).countP (·.isOk) := by
  cases op with
  | set key value path =>
    obtain ⟨hhits, hmisses⟩ := counts_set w.cache w.now w.files key value path
    refine ⟨hhits, ?_⟩
    change (w.cache.set w.now w.files key value path).value.2.hits +
      (w.cache.set w.now w.files key value path).value.2.misses = _
    rw [hhits, hmisses]
    rfl
  | get key path =>
    have hreadings : readings [w.event (.get key path)] =
      [(w.cache.get w.now w.files key path).value.1] := rfl
    have hcache : (w.step (.get key path)).2.cache =
      (w.cache.get w.now w.files key path).value.2 := rfl
    rw [hreadings, hcache]
    obtain ⟨-, hget⟩ | ⟨e, -, ⟨failure, -, hget⟩ | ⟨-, hget⟩ | ⟨-, hget⟩⟩ :=
      w.cache.value_get_cases w.now w.files key path <;> rw [hget]
    · exact ⟨rfl, rfl⟩
    · exact ⟨rfl, rfl⟩
    · exact ⟨rfl, rfl⟩
    · refine ⟨rfl, ?_⟩
      change w.cache.hits + 1 + w.cache.misses = w.cache.hits + w.cache.misses + 1
      omega
  | clear pattern => cases pattern <;> exact ⟨rfl, rfl⟩
  | _ => exact ⟨rfl, rfl⟩

/-- Every reading that does not fail is counted once, as one that found something or not. -/
lemma Run.counts {now : τ} {fs : FileSystem} (hrun : Run ⟨first, now, fs⟩ h w)
    (hhits : first.hits = 0) (hmisses : first.misses = 0) :
    w.cache.hits = (readings h).countP wasFound ∧
      w.cache.hits + w.cache.misses = (readings h).countP (·.isOk) := by
  induction hrun with
  | nil => simp [hhits, hmisses, readings]
  | @step earlier v op hrun htimely ih =>
    have hreadings : readings (earlier ++ [v.event op]) = readings earlier ++ readings [v.event op] :=
      List.filterMap_append
    obtain ⟨hfound, hcounted⟩ := v.counts_step op
    rw [hreadings, List.countP_append, List.countP_append]
    exact ⟨by rw [hfound, ih.1], by rw [hcounted, ih.2]⟩

/-- **What is read after a run, and what is counted.** Take any run of a new cache with room, in
which time does not run back. A reading then yields the result that stands, or nothing; it fails
exactly for a path that no file can have where the key has a live entry that belongs to a file. What
stands is read, as long as fewer other keys have been used since it was stored than there is room
for. There are never more entries than this, and every reading that has not failed is counted.

**Proof sketch.** Every operation sifts the entries, uses one or puts one in (`World.effect`), so
that each live entry stays the one that the last storing under its key has left, and the entries
behind it are those of other keys used since (`Run.tracks`). What a reading does depends on the live
entry of its key and the fingerprint of its file (`value_get_cases`). -/
theorem read_after_run {size : ℤ} {lifetime : Option τ} {now : τ} {fs : FileSystem}
    (hnew : new size lifetime = .ok first) (hsize : 1 ≤ size) (hrun : Run ⟨first, now, fs⟩ h w) :
    (∀ key path,
      (∃ value since, (w.step (.get key path)).1 = .read (.ok (some value)) ∧
        Stands lifetime h w key path value since) ∨
      (w.step (.get key path)).1 = .read (.ok none) ∨
      ∃ file, w.Refuses key path file) ∧
    (∀ key path failure, (w.step (.get key path)).1 = .read (.error failure) ↔
      ∃ file, w.Refuses key path file ∧ failure = .file ⟨.nullByte, file⟩) ∧
    (∀ key path value since, Stands lifetime h w key path value since →
      (othersUsed key since).card < size →
        (w.step (.get key path)).1 = .read (.ok (some value))) ∧
    (w.cache.entries.length ≤ size ∧ (w.cache.size w.now).1 ≤ size) ∧
    w.cache.hits = (readings h).countP wasFound ∧
    w.cache.hits + w.cache.misses = (readings h).countP (·.isOk) := by
  obtain ⟨-, rfl⟩ := new_eq_ok_iff.1 hnew
  have ht := hrun.tracks rfl (by dsimp only; omega)
  -- a reading fails where a live entry has a mark and the path belongs to no file
  have hfails : ∀ key path failure, (w.step (.get key path)).1 = .read (.error failure) ↔
      ∃ file, w.Refuses key path file ∧ failure = .file ⟨.nullByte, file⟩ := by
    intro key path failure
    change Answer.read (w.cache.get w.now w.files key path).value.1 = _ ↔ _
    rw [Answer.read.injEq, value_get_eq_error_iff]
    constructor
    · rintro ⟨file, e, hfile, hmem, hfound, hmark, rfl⟩
      exact ⟨file, ⟨hfile, hmem, e, hfound, hmark⟩, rfl⟩
    · rintro ⟨file, ⟨hfile, hmem, e, hfound, hmark⟩, rfl⟩
      exact ⟨file, e, hfile, hmem, hfound, hmark, rfl⟩
  refine ⟨fun key path => ?_, hfails, fun key path value since hstands hcard => ?_, ⟨?_, ?_⟩,
    hrun.counts rfl rfl⟩
  · rcases hread : (w.cache.get w.now w.files key path).value.1 with failure | _ | value
    · obtain ⟨file, hrefuses, -⟩ := (hfails key path failure).1 (congrArg Answer.read hread)
      exact .inr (.inr ⟨file, hrefuses⟩)
    · exact .inr (.inl (congrArg Answer.read hread))
    · obtain ⟨since, hstands⟩ := ht.stands_of_get rfl hread
      exact .inl ⟨value, since, congrArg Answer.read hread, hstands⟩
  · have hread := ht.get_of_stands rfl hstands (by dsimp only; omega)
    exact congrArg Answer.read hread
  · have hlength := ht.orderly.room
    have hcapacity := ht.settings.1
    dsimp only at hcapacity
    omega
  · have hlength := (ht.orderly.thinned (thinned_expire w.cache w.now)).room
    have hcapacity := (thinned_expire w.cache w.now).capacity.trans ht.settings.1
    dsimp only at hcapacity
    dsimp only [Cache.size]
    omega

end Step

/-- A new cache beside a file. -/
def newWorld (capacity : ℕ) (lifetime : Option ℕ) : World ℕ ℕ where
  cache := { capacity, lifetime }
  now := 0
  files.root := .directory true [("a.sv", .regular [97] false)]

/-- A storing for the file. -/
def storeForFile : Operation ℕ ℕ := .set "k" 1 (some "a.sv")

/-- A storing for no file. -/
def storeForNone : Operation ℕ ℕ := .set "m" 2 none

/-- What was stored for a file is read under another name of the file, after something else was
stored and while it lives. -/
theorem read_after_run_otherName : ∃ h w, Run (newWorld 2 (some 5)) h w ∧
    (w.step (.get "k" (some "./a.sv"))).1 = .read (.ok (some 1)) := by
  let first := newWorld 2 (some 5)
  let second := (first.step storeForFile).2
  let third := (second.step storeForNone).2
  have hfirst : storeForFile.IsTimely first.now := trivial
  have hsecond : storeForNone.IsTimely second.now := trivial
  have hthird : Operation.IsTimely third.now (.wait 3 : Operation ℕ ℕ) :=
    notBefore_iff_le.2 (Nat.zero_le 3)
  have hrun := ((Run.nil.step hfirst).step hsecond).step hthird
  have hnew : new 2 (some 5) = .ok first.cache := rfl
  have hread := (read_after_run hnew (by decide) hrun).2.2.1 "k" (some "./a.sv") 1
    [second.event storeForNone, third.event (.wait 3)]
  refine ⟨_, _, hrun, hread ⟨first.event storeForFile, some "a.sv", ⟨⟨[], rfl⟩, ⟨rfl, rfl⟩, ?_⟩,
    ?_, ?_⟩ ?_⟩
  · -- neither of the events after the storing drops its key
    rintro event (_ | ⟨_, _ | ⟨_, ⟨⟩⟩⟩)
    · exact (by decide : ¬("m" = "k"))
    · exact id
  · rintro _ ⟨⟩
    exact (by decide : 3 < 0 + 5)
  · rintro _ _ ⟨⟩ ⟨⟩
    rfl
  · exact (by decide : (1 : ℤ) < 2)

/-- **A reading that fails**: no file can have the path, and the key has a result that belongs to
a file. -/
theorem get_fails_nullByte : ∃ h w, Run (newWorld 1 none) h w ∧
    (w.step (.get "k" (some "a.sv\x00"))).1 =
      .read (.error (.file ⟨.nullByte, "a.sv\x00"⟩)) := by
  have htimely : storeForFile.IsTimely (newWorld 1 none).now := trivial
  exact ⟨_, _, Run.nil.step htimely, rfl⟩

end FlopCensus.Cache
