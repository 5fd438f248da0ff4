import FlopCensus.Proofs.Store.Cache
import Mathlib.Data.Finset.Card
import Mathlib.Data.List.Nodup
import Mathlib.Data.List.Perm.Subperm
import Mathlib.Data.List.TakeWhile

set_option autoImplicit false
set_option relaxedAutoImplicit false

/-!
# The entries of a cache

The entries of a cache have different keys and come from different storings, and there are no more
of them than the cache has room for. Reading a result moves its entry behind the others or drops it;
expiry and making room drop entries; storing puts one entry behind the others.

## Main definitions

* `FlopCensus.Cache.IsOrderly` — keys and serials differ, and there is room for the entries.
* `FlopCensus.Cache.Thinned` — a cache with some of the entries of another one, in any order.
* `FlopCensus.Cache.Holds` — an entry is there, and only entries of some keys have been used since.

## Main results

* `FlopCensus.Cache.IsOrderly.find?_eq_some_iff` — what is found under a key is its live entry.
* `FlopCensus.Cache.value_get_cases` — the four things that reading can do.
* `FlopCensus.Cache.value_get_eq_error_iff` — reading fails exactly for a path that no file can have
  and a live entry that belongs to a file.
* `FlopCensus.Cache.IsOrderly.mem_expire_of_isLive` — expiry drops no live entry.
* `FlopCensus.Cache.IsOrderly.insert` — storing keeps the entries in order and within the room.
* `FlopCensus.Cache.Holds.insert` — storing drops no live entry as long as fewer other keys have been
  used than there is room for.
-/

namespace FlopCensus.Cache

variable {τ α : Type}

/-! ### Orderly caches -/

/-- The entries have different keys and serials, the serials are those of storings so far, and
there is room for all entries. -/
structure IsOrderly (c : Cache τ α) : Prop where
  /-- The keys are different. -/
  keys : (c.entries.map (·.key)).Nodup
  /-- The serials are different. -/
  serials : (c.entries.map (·.serial)).Nodup
  /-- The serials are those of earlier storings. -/
  earlier : ∀ e ∈ c.entries, e.serial < c.stored
  /-- There is room for the entries. -/
  room : c.entries.length ≤ c.capacity

/-- A cache with the settings of another one and some of its entries, in any order. -/
structure Thinned (c before : Cache τ α) : Prop where
  /-- It makes room for as many entries. -/
  capacity : c.capacity = before.capacity
  /-- Its results have the same lifetime. -/
  lifetime : c.lifetime = before.lifetime
  /-- Its fingerprints are made in the same way. -/
  digest : c.digest = before.digest
  /-- As many results have been stored. -/
  stored : c.stored = before.stored
  /-- Its entries were there before, each once. -/
  entries : c.entries.Subperm before.entries

/-- A cache has its own entries. -/
lemma Thinned.refl (c : Cache τ α) : c.Thinned c := ⟨rfl, rfl, rfl, rfl, List.Subperm.refl _⟩

/-- A cache without entries is orderly. -/
lemma isOrderly_of_entries_eq_nil {c : Cache τ α} (h : c.entries = []) : c.IsOrderly := by
  constructor <;> simp [h]

/-- Dropping entries and changing their order keeps a cache orderly. -/
lemma IsOrderly.thinned {c before : Cache τ α} (h : before.IsOrderly) (hthin : c.Thinned before) :
    c.IsOrderly := by
  obtain ⟨l, hperm, hsub⟩ := hthin.entries
  refine ⟨?_, ?_, fun e he => ?_, ?_⟩
  · exact (hperm.map _).nodup_iff.1 ((hsub.map _).nodup h.keys)
  · exact (hperm.map _).nodup_iff.1 ((hsub.map _).nodup h.serials)
  · rw [hthin.stored]
    exact h.earlier e (hthin.entries.subset he)
  · rw [hthin.capacity]
    exact hthin.entries.length_le.trans h.room

/-- The entry with a key is the only one. -/
lemma IsOrderly.eq_of_key_eq {c : Cache τ α} (h : c.IsOrderly) {e e' : Entry τ α}
    (he : e ∈ c.entries) (he' : e' ∈ c.entries) (hkey : e.key = e'.key) : e = e' :=
  List.inj_on_of_nodup_map h.keys he he' hkey

/-- So is the entry with a serial. -/
lemma IsOrderly.eq_of_serial_eq {c : Cache τ α} (h : c.IsOrderly) {e e' : Entry τ α}
    (he : e ∈ c.entries) (he' : e' ∈ c.entries) (hserial : e.serial = e'.serial) : e = e' :=
  List.inj_on_of_nodup_map h.serials he he' hserial

/-! ### Dropping and using entries -/

/-- An entry is left when another key is dropped. -/
lemma mem_erase {c : Cache τ α} {key : String} {e : Entry τ α} :
    e ∈ (c.erase key).entries ↔ e ∈ c.entries ∧ e.key ≠ key := by
  simp [erase]

/-- Dropping a key leaves the entries before and behind its entry. -/
lemma IsOrderly.entries_erase {c : Cache τ α} (h : c.IsOrderly) {e : Entry τ α}
    {l r : List (Entry τ α)} (hsplit : c.entries = l ++ e :: r) :
    (c.erase e.key).entries = l ++ r := by
  have hkeys := h.keys
  rw [hsplit, List.map_append, List.map_cons, List.nodup_middle, List.nodup_cons,
    ← List.map_append] at hkeys
  have hothers : ∀ e' ∈ l ++ r, (e'.key != e.key) = true := fun e' he' =>
    bne_iff_ne.2 fun hkey => hkeys.1 (List.mem_map.2 ⟨e', he', hkey⟩)
  rw [List.forall_mem_append] at hothers
  rw [erase, hsplit, List.filter_append, List.filter_cons_of_neg (by simp),
    List.filter_eq_self.2 hothers.1, List.filter_eq_self.2 hothers.2]

/-- An entry that is used moves behind the others. -/
lemma IsOrderly.entries_use {c : Cache τ α} (h : c.IsOrderly) {e : Entry τ α}
    {l r : List (Entry τ α)} (hsplit : c.entries = l ++ e :: r) :
    (c.use e).entries = l ++ r ++ [e] := by
  rw [use, h.entries_erase hsplit]

/-- Dropping the key of an entry that was just used is dropping the key. -/
lemma erase_use (c : Cache τ α) (e : Entry τ α) : (c.use e).erase e.key = c.erase e.key := by
  simp [erase, use, List.filter_filter]

/-- Dropping a key thins the entries. -/
lemma thinned_erase (c : Cache τ α) (key : String) : (c.erase key).Thinned c :=
  ⟨rfl, rfl, rfl, rfl, List.filter_sublist.subperm⟩

/-- A use of an entry changes the order only. -/
lemma IsOrderly.thinned_use {c : Cache τ α} (h : c.IsOrderly) {e : Entry τ α}
    (he : e ∈ c.entries) : (c.use e).Thinned c := by
  obtain ⟨l, r, hsplit⟩ := List.append_of_mem he
  refine ⟨rfl, rfl, rfl, rfl, List.Perm.subperm ?_⟩
  rw [h.entries_use hsplit, hsplit, List.append_assoc]
  exact (List.perm_append_singleton e r).append_left l

/-- A use of an entry drops none. -/
lemma IsOrderly.mem_use {c : Cache τ α} (h : c.IsOrderly) {e e' : Entry τ α}
    (he : e ∈ c.entries) (he' : e' ∈ c.entries) : e' ∈ (c.use e).entries := by
  rw [use, List.mem_append, List.mem_singleton, mem_erase]
  by_cases hkey : e'.key = e.key
  · exact .inr (h.eq_of_key_eq he' he hkey)
  · exact .inl ⟨he', hkey⟩

/-- Making room thins the entries. -/
lemma thinned_makeRoom (c : Cache τ α) (key : String) : (c.makeRoom key).Thinned c := by
  rw [makeRoom]
  split
  · exact .refl c
  · exact ⟨rfl, rfl, rfl, rfl, (List.drop_sublist _ _).subperm⟩

/-- Once there is room for a key, the other entries leave a place. -/
lemma IsOrderly.length_erase_makeRoom {c : Cache τ α} (h : c.IsOrderly) (hroom : 0 < c.capacity)
    (key : String) : ((c.makeRoom key).erase key).entries.length < c.capacity := by
  rw [makeRoom]
  split
  case isTrue hany =>
    obtain ⟨e, he, hkey⟩ := List.any_eq_true.1 hany
    have hless : (c.entries.filter (·.key != key)).length < c.entries.length :=
      List.length_filter_lt_length_iff_exists.2 ⟨e, he, by simpa using hkey⟩
    exact lt_of_lt_of_le hless h.room
  case isFalse hnone =>
    have hle := List.length_filter_le (fun e => e.key != key)
      (c.entries.drop (c.entries.length + 1 - c.capacity))
    rw [List.length_drop] at hle
    have hcapacity := h.room
    simp only [erase]
    omega

/-! ### Freshness -/

/-- What the comparison of an entry with its file yields. -/
lemma value_isFresh_eq (c : Cache τ α) (fs : FileSystem) (e : Entry τ α) (path : Option String) :
    (c.isFresh fs e path).value =
      match fileOf path, e.fingerprint with
      | some file, some fingerprint =>
        ((Store.fingerprintWith c.digest fs file).value.map (· == fingerprint)).mapError .file
      | _, _ => .ok true := by
  rw [isFresh]
  cases fileOf path <;> cases e.fingerprint <;> rfl

/-- An entry is fresh if it belongs to no file, no file is given, or the file has the fingerprint
that is stored. -/
lemma value_isFresh_eq_true_iff {c : Cache τ α} {fs : FileSystem} {e : Entry τ α}
    {path : Option String} :
    (c.isFresh fs e path).value = .ok true ↔
      ∀ file fingerprint, fileOf path = some file → e.fingerprint = some fingerprint →
        (Store.fingerprintWith c.digest fs file).value = .ok fingerprint := by
  rw [value_isFresh_eq]
  cases fileOf path with
  | none => simp
  | some file =>
    cases e.fingerprint with
    | none => simp
    | some fingerprint =>
      dsimp only
      cases hmark : (Store.fingerprintWith c.digest fs file).value <;>
        simp [hmark, Except.map, Except.mapError]

/-- The fingerprint of a path fails exactly for a path that no file can have. -/
lemma value_fingerprintWith_eq_error_iff {digest : List UInt8 → String} {fs : FileSystem}
    {path : Option String} {file : String} (hfile : fileOf path = some file)
    {failure : Files.Error} :
    (Store.fingerprintWith digest fs file).value = .error failure ↔
      '\x00' ∈ file.toList ∧ failure = ⟨.nullByte, file⟩ := by
  by_cases hmem : '\x00' ∈ file.toList
  · simp [Store.value_fingerprintWith_of_mem hmem, hmem, eq_comm]
  · have hne : file ≠ "" := bne_iff_ne.1 (Option.filter_eq_some_iff.1 hfile).2
    simp [Store.value_fingerprintWith ⟨hne, hmem⟩, hmem]

/-- The comparison fails exactly for a path that no file can have and an entry that belongs to a
file. -/
lemma value_isFresh_eq_error_iff {c : Cache τ α} {fs : FileSystem} {e : Entry τ α}
    {path : Option String} {failure : Error} :
    (c.isFresh fs e path).value = .error failure ↔
      ∃ file, fileOf path = some file ∧ '\x00' ∈ file.toList ∧ e.fingerprint.isSome ∧
        failure = .file ⟨.nullByte, file⟩ := by
  rw [value_isFresh_eq]
  cases hfile : fileOf path with
  | none => simp
  | some file =>
    cases e.fingerprint with
    | none => simp
    | some fingerprint =>
      dsimp only
      cases hmark : (Store.fingerprintWith c.digest fs file).value with
      | ok mark =>
        have hpossible : '\x00' ∉ file.toList := by
          intro hmem
          rw [Store.value_fingerprintWith_of_mem hmem] at hmark
          cases hmark
        simp [Except.map, Except.mapError, hpossible]
      | error e =>
        obtain ⟨hmem, rfl⟩ := (value_fingerprintWith_eq_error_iff hfile).1 hmark
        simp [Except.map, Except.mapError, hmem, eq_comm]

section Clock

variable [LT τ] [DecidableLT τ]

/-! ### Reading -/

/-- What is found under a key is its live entry. -/
lemma IsOrderly.find?_eq_some_iff {c : Cache τ α} (h : c.IsOrderly) {now : τ} {key : String}
    {e : Entry τ α} :
    c.find? now key = some e ↔ e ∈ c.entries ∧ e.key = key ∧ e.isLive now := by
  constructor
  · intro hfound
    have hcondition := List.find?_some hfound
    rw [Bool.and_eq_true, beq_iff_eq] at hcondition
    exact ⟨List.mem_of_find?_eq_some hfound, hcondition⟩
  · rintro ⟨he, rfl, hlive⟩
    cases hfound : c.find? now e.key with
    | none =>
      rw [find?, List.find?_eq_none] at hfound
      exact absurd (hfound e he) (by simp [hlive])
    | some e' =>
      obtain ⟨he', hkey⟩ := find?_eq_some hfound
      rw [h.eq_of_key_eq he' he hkey]

/-- Nothing is found if no entry with the key is live. -/
lemma find?_eq_none_iff {c : Cache τ α} {now : τ} {key : String} :
    c.find? now key = none ↔ ∀ e ∈ c.entries, e.key = key → ¬e.isLive now := by
  simp [find?, List.find?_eq_none]

/-- An entry that was found and used is dropped again when it is out of date. -/
lemma invalidate_use {c : Cache τ α} {now : τ} {key : String} {e : Entry τ α}
    (h : c.find? now key = some e) : (c.use e).invalidate now e = (c.erase e.key).miss := by
  have hcondition := List.find?_some h
  rw [Bool.and_eq_true] at hcondition
  have herased : (c.erase e.key).entries.find? (fun e' => e'.key == e.key && e'.isLive now) = none :=
    List.find?_eq_none.2 fun e' he' => by simp [(mem_erase.1 he').2]
  have hfound : (c.use e).find? now e.key = some e := by
    rw [find?, use, List.find?_append, herased]
    simp [hcondition.2]
  rw [invalidate, hfound]
  simp [erase_use]

/-- **The four things that reading can do**: nothing is found; the entry that is found cannot be
compared with the file; it is out of date and dropped; or it is read. -/
lemma value_get_cases (c : Cache τ α) (now : τ) (fs : FileSystem) (key : String)
    (path : Option String) :
    (c.find? now key = none ∧ (c.get now fs key path).value = (.ok none, c.miss)) ∨
    ∃ e, c.find? now key = some e ∧
      ((∃ failure, (c.isFresh fs e path).value = .error failure ∧
          (c.get now fs key path).value = (.error failure, c.use e)) ∨
        ((c.isFresh fs e path).value = .ok false ∧
          (c.get now fs key path).value = (.ok none, (c.erase e.key).miss)) ∨
        ((c.isFresh fs e path).value = .ok true ∧
          (c.get now fs key path).value = (.ok (some e.value), (c.use e).hit))) := by
  obtain hnone | ⟨e, hfound, hget⟩ := c.get_cases now fs key path
  · exact .inl hnone
  · refine .inr ⟨e, hfound, ?_⟩
    have hfresh : ((c.use e).isFresh fs e path).value = (c.isFresh fs e path).value := rfl
    rw [hfresh, invalidate_use hfound] at hget
    cases hcase : (c.isFresh fs e path).value with
    | error failure =>
      rw [hcase] at hget
      exact .inl ⟨failure, rfl, hget⟩
    | ok fresh =>
      rw [hcase] at hget
      cases fresh with
      | false => exact .inr (.inl ⟨rfl, hget⟩)
      | true => exact .inr (.inr ⟨rfl, hget⟩)

/-- **Reading fails exactly for a path that no file can have**, where a live entry is found that
belongs to a file. -/
theorem value_get_eq_error_iff {c : Cache τ α} {now : τ} {fs : FileSystem} {key : String}
    {path : Option String} {failure : Error} :
    (c.get now fs key path).value.1 = .error failure ↔
      ∃ file e, fileOf path = some file ∧ '\x00' ∈ file.toList ∧ c.find? now key = some e ∧
        e.fingerprint.isSome ∧ failure = .file ⟨.nullByte, file⟩ := by
  obtain ⟨hnone, hget⟩ | ⟨e, hfound, ⟨failure', hfresh, hget⟩ | ⟨hfresh, hget⟩ | ⟨hfresh, hget⟩⟩ :=
    c.value_get_cases now fs key path
  · simp [hget, hnone]
  all_goals
    have hfails : (c.isFresh fs e path).value = .error failure ↔ _ := value_isFresh_eq_error_iff
    rw [hfresh] at hfails
    simp only [hget, hfound, reduceCtorEq, false_iff, Except.error.injEq] at hfails ⊢
    simpa [and_assoc] using hfails

/-! ### Expiry -/

/-- Expiry thins the entries. -/
lemma thinned_expire (c : Cache τ α) (now : τ) : (c.expire now).Thinned c :=
  ⟨rfl, rfl, rfl, rfl, List.filter_sublist.subperm⟩

/-- Expiry passes over the live entries. -/
lemma IsOrderly.not_mem_expired {c : Cache τ α} (h : c.IsOrderly) {now : τ} {e : Entry τ α}
    (he : e ∈ c.entries) (hlive : e.isLive now) : e.serial ∉ c.expired now := by
  intro hmem
  obtain ⟨e', he', hserial⟩ := List.mem_map.1 hmem
  have hdead := List.mem_takeWhile_imp he'
  have hin : e' ∈ c.entries := List.mem_mergeSort.1 ((List.takeWhile_sublist _).subset he')
  rw [h.eq_of_serial_eq hin he hserial, hlive] at hdead
  cases hdead

/-- **Expiry drops no live entry.** -/
theorem IsOrderly.mem_expire_of_isLive {c : Cache τ α} (h : c.IsOrderly) {now : τ}
    {e : Entry τ α} (he : e ∈ c.entries) (hlive : e.isLive now) : e ∈ (c.expire now).entries :=
  List.mem_filter.2 ⟨he, by simpa using h.not_mem_expired he hlive⟩

/-! ### Storing -/

variable [Add τ]

omit [LT τ] [DecidableLT τ] in
/-- The entries after a result was put in: those of the other keys that had room, and the new one. -/
lemma entries_insert (c : Cache τ α) (now : τ) (key : String) (value : α)
    (fingerprint : Option String) :
    (c.insert now key value fingerprint).entries = ((c.makeRoom key).erase key).entries ++
      [⟨key, value, fingerprint, c.lifetime.map (now + ·), c.stored⟩] := by
  have hthin := thinned_makeRoom c key
  rw [insert, use, hthin.lifetime, hthin.stored]

omit [LT τ] [DecidableLT τ] in
/-- **Storing keeps the entries in order and within the room.** -/
theorem IsOrderly.insert {c : Cache τ α} (h : c.IsOrderly) (hroom : 0 < c.capacity) (now : τ)
    (key : String) (value : α) (fingerprint : Option String) :
    (c.insert now key value fingerprint).IsOrderly := by
  have hroomy := thinned_makeRoom c key
  have hothers := (h.thinned hroomy).thinned (thinned_erase _ key)
  have hentries := c.entries_insert now key value fingerprint
  have hstored : (c.insert now key value fingerprint).stored = c.stored + 1 :=
    congrArg (· + 1) hroomy.stored
  have hearlier : ∀ e ∈ ((c.makeRoom key).erase key).entries, e.serial < c.stored := fun e he =>
    lt_of_lt_of_eq (hothers.earlier e he) hroomy.stored
  -- keys, serial numbers, their bound, and the room
  refine ⟨?_, ?_, fun e he => ?_, ?_⟩
  · rw [hentries, List.map_append, List.map_singleton, ← List.concat_eq_append, List.nodup_concat]
    refine ⟨fun hmem => ?_, hothers.keys⟩
    obtain ⟨e, he, hkey⟩ := List.mem_map.1 hmem
    exact (mem_erase.1 he).2 hkey
  · rw [hentries, List.map_append, List.map_singleton, ← List.concat_eq_append, List.nodup_concat]
    refine ⟨fun hmem => ?_, hothers.serials⟩
    obtain ⟨e, he, hserial⟩ := List.mem_map.1 hmem
    exact (hearlier e he).ne hserial
  · rw [hstored]
    rw [hentries, List.mem_append, List.mem_singleton] at he
    obtain hold | rfl := he
    · exact (hearlier e hold).trans (Nat.lt_succ_self _)
    · exact Nat.lt_succ_self _
  · have hcapacity : (c.insert now key value fingerprint).capacity = c.capacity := hroomy.capacity
    rw [hentries, hcapacity, List.length_append, List.length_singleton]
    exact h.length_erase_makeRoom hroom key

end Clock

/-! ### Entries that stay -/

/-- An entry is there, and the entries behind it, those used after it, have keys of a set. -/
def Holds (c : Cache τ α) (e : Entry τ α) (others : Finset String) : Prop :=
  ∃ l r, c.entries = l ++ e :: r ∧ ∀ x ∈ r, x.key ∈ others

/-- An entry that a cache holds is one of its entries. -/
lemma Holds.mem {c : Cache τ α} {e : Entry τ α} {others : Finset String} (h : c.Holds e others) :
    e ∈ c.entries := by
  obtain ⟨l, r, hsplit, -⟩ := h
  simp [hsplit]

/-- More keys may have been used. -/
lemma Holds.mono {c : Cache τ α} {e : Entry τ α} {others others' : Finset String}
    (h : c.Holds e others) (hsub : others ⊆ others') : c.Holds e others' := by
  obtain ⟨l, r, hsplit, hbehind⟩ := h
  exact ⟨l, r, hsplit, fun x hx => hsub (hbehind x hx)⟩

/-- The counts of a cache do not matter. -/
lemma Holds.of_entries_eq {c c' : Cache τ α} {e : Entry τ α} {others : Finset String}
    (h : c.Holds e others) (hentries : c'.entries = c.entries) : c'.Holds e others := by
  rwa [Holds, hentries]

/-- An entry that is not dropped stays before the entries that were behind it. -/
lemma Holds.filter {c c' : Cache τ α} {e : Entry τ α} {others : Finset String}
    (h : c.Holds e others) {keep : Entry τ α → Bool} (hentries : c'.entries = c.entries.filter keep)
    (hkeep : keep e = true) : c'.Holds e others := by
  obtain ⟨l, r, hsplit, hbehind⟩ := h
  refine ⟨l.filter keep, r.filter keep, ?_, fun x hx => hbehind x (List.mem_filter.1 hx).1⟩
  rw [hentries, hsplit, List.filter_append, List.filter_cons_of_pos hkeep]

/-- An entry stays where it is when one is put behind all others. -/
lemma Holds.concat {c c' : Cache τ α} {e last : Entry τ α} {others : Finset String}
    (h : c.Holds e others) (hentries : c'.entries = c.entries ++ [last])
    (hlast : last.key ∈ others) : c'.Holds e others := by
  obtain ⟨l, r, hsplit, hbehind⟩ := h
  refine ⟨l, r ++ [last], by simp [hentries, hsplit], ?_⟩
  rw [List.forall_mem_append, List.forall_mem_singleton]
  exact ⟨hbehind, hlast⟩

/-- A use of the entry puts it behind all others, and a use of another one puts that behind it. -/
lemma Holds.use {c : Cache τ α} (h : c.IsOrderly) {e used : Entry τ α} {others : Finset String}
    (hholds : c.Holds e others) (hused : used ∈ c.entries)
    (hkey : used.key ≠ e.key → used.key ∈ others) : (c.use used).Holds e others := by
  by_cases hsame : used.key = e.key
  · obtain rfl := h.eq_of_key_eq hused hholds.mem hsame
    exact ⟨(c.erase used.key).entries, [], rfl, by simp⟩
  · have herased : (c.erase used.key).Holds e others :=
      hholds.filter rfl (bne_iff_ne.2 (Ne.symm hsame))
    exact herased.concat rfl (hkey hsame)

/-- Making room for a key drops no entry behind which fewer keys than there is room for have been
used, this one among them. -/
lemma Holds.makeRoom {c : Cache τ α} (h : c.IsOrderly) {e : Entry τ α} {others : Finset String}
    (hholds : c.Holds e others) (hcard : others.card < c.capacity) {key : String}
    (hkey : key ∈ others) : (c.makeRoom key).Holds e others := by
  obtain ⟨l, r, hsplit, hbehind⟩ := hholds
  rw [Cache.makeRoom]
  split
  case isTrue => exact ⟨l, r, hsplit, hbehind⟩
  case isFalse hnone =>
    -- the keys behind the entry are different, and the new one is not among them
    have hnodup : (r.map (·.key)).Nodup := by
      have hkeys := h.keys
      rw [hsplit, List.map_append, List.map_cons] at hkeys
      exact hkeys.of_append_right.of_cons
    have hothers : (r.map (·.key)).toFinset ⊆ others.erase key := by
      intro k hk
      obtain ⟨x, hx, rfl⟩ := List.mem_map.1 (List.mem_toFinset.1 hk)
      refine Finset.mem_erase.2 ⟨?_, hbehind x hx⟩
      rintro rfl
      exact hnone (List.any_eq_true.2 ⟨x, by simp [hsplit, hx], by simp⟩)
    have hlength := Finset.card_le_card hothers
    rw [List.toFinset_card_of_nodup hnodup, List.length_map, Finset.card_erase_of_mem hkey]
      at hlength
    have hpos : 0 < others.card := Finset.card_pos.2 ⟨key, hkey⟩
    refine ⟨l.drop (c.entries.length + 1 - c.capacity), r, ?_, hbehind⟩
    have hdrop : c.entries.length + 1 - c.capacity ≤ l.length := by
      rw [hsplit, List.length_append, List.length_cons]
      omega
    generalize c.entries.length + 1 - c.capacity = n at hdrop ⊢
    rw [hsplit, List.drop_append_of_le_length hdrop]

/-- **Storing drops no live entry** behind which fewer keys than there is room for have been used,
the new one among them. -/
theorem Holds.insert [LT τ] [DecidableLT τ] [Add τ] {c : Cache τ α} (h : c.IsOrderly) {now : τ}
    {e : Entry τ α} {others : Finset String} (hholds : c.Holds e others) (hlive : e.isLive now)
    (hcard : others.card < c.capacity) {key : String} (hkey : key ∈ others) (hne : e.key ≠ key)
    (value : α) (fingerprint : Option String) :
    ((c.expire now).insert now key value fingerprint).Holds e others := by
  have hexpire : (c.expire now).Holds e others :=
    hholds.filter rfl (by simpa using h.not_mem_expired hholds.mem hlive)
  have hroom := hexpire.makeRoom (h.thinned (thinned_expire c now)) hcard hkey
  have herased : (((c.expire now).makeRoom key).erase key).Holds e others :=
    hroom.filter rfl (bne_iff_ne.2 hne)
  exact herased.concat ((c.expire now).entries_insert now key value fingerprint) hkey

end FlopCensus.Cache
