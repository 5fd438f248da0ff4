import FlopCensus.Store.Cache
import Mathlib.Tactic.Common

set_option autoImplicit false
set_option relaxedAutoImplicit false

/-!
# What a cache holds

Reading from a cache and storing in it move its entries, drop some of them and add at most the one
that is stored. What is found belongs to an entry with the fingerprint that the file has when it is
looked up.

## Main definitions

* `FlopCensus.Store.markOf` — the fingerprint of a content, or of no content.
* `FlopCensus.Cache.Within` — a cache with no other entries than another one.

## Main results

* `FlopCensus.Cache.within_get` — reading adds no entry.
* `FlopCensus.Cache.get_eq_some` — what is found was stored for the content that the file has.
* `FlopCensus.Cache.mem_entries_set` — storing adds the one entry with the present fingerprint.
-/

namespace FlopCensus

namespace Files

/-- A file may have the path. -/
def IsPossible (path : String) : Prop :=
  path ≠ "" ∧ '\x00' ∉ path.toList

end Files

namespace File

/-- Following the components of a path meets no character that a path cannot hold. -/
lemma locateBy_ne_nullByte {root : File}
    {follow : Files.Place → List String → Except Files.Cause Files.Place}
    (h : ∀ place names, follow place names ≠ .error .nullByte) (place : Files.Place)
    (names : List String) : root.locateBy follow place names ≠ .error .nullByte := by
  fun_induction locateBy root follow place names <;> simp_all

/-- Nor do links lead to one. -/
lemma locateFrom_ne_nullByte (root : File) (links : Nat) (place : Files.Place)
    (names : List String) : root.locateFrom links place names ≠ .error .nullByte := by
  induction links generalizing place names with
  | zero => exact locateBy_ne_nullByte (by simp) place names
  | succ links ih => exact locateBy_ne_nullByte ih place names

end File

namespace FileSystem

open Files

/-- The content of the file at a path, if it can be read. -/
def content? (fs : FileSystem) (path : String) : Option (List UInt8) :=
  (fs.read path).toOption

/-- The file at a path is the one at its place. -/
lemma find_eq (fs : FileSystem) (path : String) :
    fs.find path =
      match fs.locate path with
      | .error cause => .error cause
      | .ok place =>
        match fs.root.at? place with
        | some f => .ok f
        | none => .error .notFound := by
  rw [find]
  cases fs.locate path with
  | error cause => rfl
  | ok place => cases fs.root.at? place <;> rfl

/-- A path with a character that no path can hold cannot be read. -/
lemma read_of_mem {path : String} (h : '\x00' ∈ path.toList) (fs : FileSystem) :
    fs.read path = .error ⟨.nullByte, path⟩ := by
  have hlocate : fs.locate path = .error .nullByte := by
    rw [locate, if_pos (List.contains_iff_mem.2 h)]
  rw [read, find_eq, hlocate]

/-- A path that no file can have cannot be read. -/
lemma read_of_not_isPossible {path : String} (h : ¬IsPossible path) (fs : FileSystem) :
    ∃ e, fs.read path = .error e := by
  by_cases hmem : '\x00' ∈ path.toList
  · exact ⟨_, read_of_mem hmem fs⟩
  · obtain rfl : path = "" := by
      by_contra hne
      exact h ⟨hne, hmem⟩
    exact ⟨⟨.notFound, ""⟩, rfl⟩

/-- A file that is read has a path that files can have. -/
lemma isPossible_of_read {fs : FileSystem} {path : String} {content : List UInt8}
    (h : fs.read path = .ok content) : IsPossible path := by
  by_contra himpossible
  obtain ⟨e, hfails⟩ := read_of_not_isPossible himpossible fs
  rw [h] at hfails
  cases hfails

/-- A path that files can have is located, or is not for another reason. -/
lemma locate_ne_nullByte {path : String} (h : IsPossible path) (fs : FileSystem) :
    fs.locate path ≠ .error .nullByte := by
  rw [locate, if_neg (mt List.contains_iff_mem.1 h.2)]
  split
  · simp
  · split
    · simp
    · exact File.locateFrom_ne_nullByte _ _ _ _

/-- A path that files can have can be read, or cannot for another reason. -/
lemma cause_ne_nullByte {path : String} {e : Files.Error} (h : IsPossible path) (fs : FileSystem)
    (he : fs.read path = .error e) : e.cause ≠ .nullByte := by
  have hfind : fs.find path ≠ .error .nullByte := by
    have hlocate := locate_ne_nullByte h fs
    rw [find_eq]
    cases hplace : fs.locate path with
    | error cause => simpa [hplace] using hlocate
    | ok place =>
      dsimp only
      cases fs.root.at? place <;> simp
  rw [read] at he
  cases hfile : fs.find path with
  | error cause =>
    rw [hfile] at he hfind
    cases he
    intro hcause
    exact hfind (congrArg _ hcause)
  | ok f =>
    rw [hfile] at he
    cases f with
    | regular content executable => cases he
    | link target => cases he; simp
    | directory readable entries => cases he; simp

end FileSystem

namespace Store

open Files

/-- The fingerprint of a content, or of no content. -/
def markOf (digest : List UInt8 → String) (content : Option (List UInt8)) : String :=
  content.elim "" digest

/-- The fingerprint of a file is that of the content that it has. -/
lemma value_fingerprintWith {path : String} (h : IsPossible path) (digest : List UInt8 → String)
    (fs : FileSystem) :
    (fingerprintWith digest fs path).value = .ok (markOf digest (fs.content? path)) := by
  rw [fingerprintWith, FileSystem.content?]
  cases hread : fs.read path with
  | ok content => rfl
  | error e =>
    have hcause := FileSystem.cause_ne_nullByte h fs hread
    obtain ⟨cause, other⟩ := e
    cases cause <;> first | rfl | exact absurd rfl hcause

/-- A path with a character that no path can hold has no fingerprint. -/
lemma value_fingerprintWith_of_mem {path : String} (h : '\x00' ∈ path.toList)
    (digest : List UInt8 → String) (fs : FileSystem) :
    (fingerprintWith digest fs path).value = .error ⟨.nullByte, path⟩ := by
  rw [fingerprintWith, FileSystem.read_of_mem h]
  rfl

end Store

namespace Cache

variable {τ α : Type}

/-- A new cache is one without entries that has the room asked for, which is not negative. -/
lemma new_eq_ok_iff {size : Int} {lifetime : Option τ} {c : Cache τ α} :
    new size lifetime = .ok c ↔ 0 ≤ size ∧ c = { capacity := size.toNat, lifetime } := by
  rw [new]
  split_ifs with hsize
  · exact iff_of_false nofun fun h => absurd h.1 (Int.not_le.2 hsize)
  · constructor
    · intro h
      exact ⟨Int.not_lt.1 hsize, (Except.ok.inj h).symm⟩
    · rintro ⟨-, rfl⟩
      rfl

/-- A cache with no other entries than another one. -/
structure Within (c before : Cache τ α) : Prop where
  /-- It makes room for as many entries. -/
  capacity : c.capacity = before.capacity
  /-- Its fingerprints are made in the same way. -/
  digest : c.digest = before.digest
  /-- All its entries were there before. -/
  mem : ∀ e ∈ c.entries, e ∈ before.entries

/-- A cache has its own entries. -/
lemma Within.refl (c : Cache τ α) : c.Within c := ⟨rfl, rfl, fun _ he => he⟩

/-- Entries that stay twice stay. -/
lemma Within.trans {a b c : Cache τ α} (hab : a.Within b) (hbc : b.Within c) : a.Within c :=
  ⟨hab.capacity.trans hbc.capacity, hab.digest.trans hbc.digest,
    fun e he => hbc.mem e (hab.mem e he)⟩

/-- Dropping the entry of a key leaves the others. -/
lemma within_erase (c : Cache τ α) (key : String) : (c.erase key).Within c :=
  ⟨rfl, rfl, fun _ he => (List.mem_filter.1 he).1⟩

/-- A use of an entry moves it. -/
lemma within_use {c : Cache τ α} {e : Entry τ α} (h : e ∈ c.entries) : (c.use e).Within c := by
  refine ⟨rfl, rfl, fun e' he' => ?_⟩
  obtain hold | hnew := List.mem_append.1 he'
  · exact (within_erase c e.key).mem e' hold
  · obtain rfl := List.mem_singleton.1 hnew
    exact h

/-- Making room drops entries. -/
lemma within_makeRoom (c : Cache τ α) (key : String) : (c.makeRoom key).Within c := by
  rw [makeRoom]
  split
  · exact .refl c
  · exact ⟨rfl, rfl, fun _ he => List.mem_of_mem_drop he⟩

/-- A path that a file may have is the path of its file. -/
lemma fileOf_of_isPossible {path : String} (h : Files.IsPossible path) :
    fileOf (some path) = some path := by
  simp [fileOf, h.1]

/-- The fingerprint of an entry is compared with that of the content that the file has. -/
lemma value_isFresh {path : String} (h : Files.IsPossible path) (c : Cache τ α) (fs : FileSystem)
    (e : Entry τ α) : (c.isFresh fs e (some path)).value =
      .ok (e.fingerprint.elim true (Store.markOf c.digest (fs.content? path) == ·)) := by
  rw [isFresh, fileOf_of_isPossible h]
  cases e.fingerprint with
  | none => rfl
  | some fingerprint =>
    dsimp only
    rw [Logged.value_bind, Store.value_fingerprintWith h]
    rfl

section Clock

variable [LT τ] [DecidableLT τ]

/-- Expiry drops entries. -/
lemma within_expire (c : Cache τ α) (now : τ) : (c.expire now).Within c :=
  ⟨rfl, rfl, fun _ he => (List.mem_filter.1 he).1⟩

/-- The entry that is found for a key is one of the entries with this key. -/
lemma find?_eq_some {c : Cache τ α} {now : τ} {key : String} {e : Entry τ α}
    (h : c.find? now key = some e) : e ∈ c.entries ∧ e.key = key := by
  rw [find?] at h
  have hkey := List.find?_some h
  rw [Bool.and_eq_true, beq_iff_eq] at hkey
  exact ⟨List.mem_of_find?_eq_some h, hkey.1⟩

/-- Dropping an entry that has become out of date adds no entry. -/
lemma within_invalidate (c : Cache τ α) (now : τ) (e : Entry τ α) :
    (c.invalidate now e).Within c := by
  rw [invalidate]
  cases hfound : c.find? now e.key with
  | none => exact ⟨rfl, rfl, fun _ he => he⟩
  | some found =>
    dsimp only
    split
    · exact ⟨rfl, rfl, (within_erase c e.key).mem⟩
    · exact ⟨rfl, rfl, (within_use (find?_eq_some hfound).1).mem⟩

/-- What reading the entry of a key yields, and the cache after it. -/
lemma get_cases (c : Cache τ α) (now : τ) (fs : FileSystem) (key : String) (path : Option String) :
    (c.find? now key = none ∧ (c.get now fs key path).value = (.ok none, c.miss)) ∨
    ∃ e, c.find? now key = some e ∧
      (c.get now fs key path).value =
        match ((c.use e).isFresh fs e path).value with
        | .error failure => (.error failure, c.use e)
        | .ok false => (.ok none, (c.use e).invalidate now e)
        | .ok true => (.ok (some e.value), (c.use e).hit) := by
  rw [get, look]
  cases hfound : c.find? now key with
  | none => exact .inl ⟨rfl, rfl⟩
  | some e =>
    refine .inr ⟨e, rfl, ?_⟩
    rw [Logged.value_bind]
    obtain failure | _ | _ := ((c.use e).isFresh fs e path).value <;> rfl

/-- **Reading adds no entry.** -/
theorem within_get (c : Cache τ α) (now : τ) (fs : FileSystem) (key : String)
    (path : Option String) : (c.get now fs key path).value.2.Within c := by
  obtain ⟨-, hget⟩ | ⟨e, hfound, hget⟩ := c.get_cases now fs key path
  · rw [hget]
    exact ⟨rfl, rfl, fun _ he => he⟩
  · have huse := within_use (find?_eq_some hfound).1
    rw [hget]
    obtain failure | _ | _ := ((c.use e).isFresh fs e path).value
    · exact huse
    · exact (within_invalidate _ now e).trans huse
    · exact ⟨rfl, rfl, huse.mem⟩

/-- **What is found was stored for the content that the file has.** -/
theorem get_eq_some {c : Cache τ α} {now : τ} {fs : FileSystem} {key path : String} {value : α}
    (hpath : (∃ e ∈ c.entries, e.key = key) → Files.IsPossible path)
    (h : (c.get now fs key (some path)).value.1 = .ok (some value)) :
    ∃ e ∈ c.entries, e.key = key ∧ e.value = value ∧
      ∀ fingerprint, e.fingerprint = some fingerprint →
        fingerprint = Store.markOf c.digest (fs.content? path) := by
  obtain ⟨-, hget⟩ | ⟨e, hfound, hget⟩ := c.get_cases now fs key (some path)
  · rw [hget] at h
    cases h
  · obtain ⟨hmem, hkey⟩ := find?_eq_some hfound
    rw [hget, value_isFresh (hpath ⟨e, hmem, hkey⟩)] at h
    refine ⟨e, hmem, hkey, ?_⟩
    cases hfingerprint : e.fingerprint with
    | none =>
      rw [hfingerprint] at h
      cases h
      exact ⟨rfl, fun _ hsome => by cases hsome⟩
    | some fingerprint =>
      rw [hfingerprint, Option.elim_some] at h
      cases hsame : Store.markOf (c.use e).digest (fs.content? path) == fingerprint with
      | false =>
        rw [hsame] at h
        cases h
      | true =>
        rw [hsame] at h
        cases h
        refine ⟨rfl, fun _ hsome => ?_⟩
        cases hsome
        exact (beq_iff_eq.1 hsame).symm

/-- Reading fails only if no file can have the path and there is an entry for it. -/
lemma get_ne_error {c : Cache τ α} {key path : String}
    (h : (∃ e ∈ c.entries, e.key = key) → Files.IsPossible path) (now : τ) (fs : FileSystem)
    (failure : Error) : (c.get now fs key (some path)).value.1 ≠ .error failure := by
  obtain ⟨-, hget⟩ | ⟨e, hfound, hget⟩ := c.get_cases now fs key (some path)
  · rw [hget]
    simp
  · rw [hget, value_isFresh (h ⟨e, find?_eq_some hfound⟩)]
    cases e.fingerprint.elim true (Store.markOf (c.use e).digest (fs.content? path) == ·) <;> simp

/-- An entry that is found is read if the file has the content that the entry was stored for, and
nothing is read where no file can have the path. -/
lemma get_of_find? {c : Cache τ α} {now : τ} {fs : FileSystem} {key path : String} {e : Entry τ α}
    (h : c.find? now key = some e)
    (hfresh : Files.IsPossible path →
      e.fingerprint = some (Store.markOf c.digest (fs.content? path))) :
    (c.get now fs key (some path)).value.1 = .ok (some e.value) ∨
      (c.get now fs key (some path)).value.1 = .error (.file ⟨.nullByte, path⟩) := by
  obtain ⟨hnone, -⟩ | ⟨found, hfound, hget⟩ := c.get_cases now fs key (some path)
  · rw [hnone] at h
    contradiction
  obtain rfl : found = e := Option.some.inj (hfound.symm.trans h)
  rw [hget]
  by_cases hpath : Files.IsPossible path
  · have hsame : found.fingerprint.elim true
        (Store.markOf (c.use found).digest (fs.content? path) == ·) = true := by
      rw [hfresh hpath]
      exact beq_self_eq_true (Store.markOf c.digest (fs.content? path))
    rw [value_isFresh hpath, hsame]
    exact .inl rfl
  · -- a path that no file can have is an error only if there is a fingerprint to compare
    rw [isFresh]
    cases hfile : fileOf (some path) with
    | none => exact .inl rfl
    | some file =>
      obtain ⟨hsome, hne⟩ := Option.filter_eq_some_iff.1 hfile
      cases hsome
      have hmem : '\x00' ∈ path.toList := by
        by_contra hmem
        exact hpath ⟨bne_iff_ne.1 hne, hmem⟩
      cases found.fingerprint with
      | none => exact .inl rfl
      | some fingerprint =>
        dsimp only
        rw [Logged.value_bind, Store.value_fingerprintWith_of_mem hmem]
        exact .inr rfl

variable [Add τ]

omit [LT τ] [DecidableLT τ] in
/-- A result that is put in is the one new entry. -/
lemma mem_entries_insert {c : Cache τ α} {now : τ} {key : String} {value : α}
    {fingerprint : Option String} {e : Entry τ α}
    (h : e ∈ (c.insert now key value fingerprint).entries) :
    e ∈ c.entries ∨ (e.key = key ∧ e.value = value ∧ e.fingerprint = fingerprint) := by
  obtain hold | hnew := List.mem_append.1 h
  · exact .inl ((within_makeRoom c key).mem e ((within_erase _ key).mem e hold))
  · obtain rfl := List.mem_singleton.1 hnew
    exact .inr ⟨rfl, rfl, rfl⟩

/-- What was put in without a deadline is found. -/
lemma find?_insert {c : Cache τ α} (h : c.lifetime = none) (now now' : τ) (key : String) (value : α)
    (fingerprint : Option String) :
    ∃ serial, (c.insert now key value fingerprint).find? now' key =
      some ⟨key, value, fingerprint, none, serial⟩ := by
  have hlifetime : (c.makeRoom key).lifetime = none := by
    rw [makeRoom]
    split <;> exact h
  refine ⟨(c.makeRoom key).stored, ?_⟩
  rw [find?, insert, use]
  simp only [List.find?_append, hlifetime]
  have herased : ((c.makeRoom key).erase key).entries.find?
      (fun e => e.key == key && e.isLive now') = none := by
    refine List.find?_eq_none.2 fun e he => ?_
    have hne : e.key ≠ key := by simpa using (List.mem_filter.1 he).2
    simp [hne]
  rw [herased]
  simp [Entry.isLive]

/-- What storing a result yields, and the cache after it. -/
lemma value_set {path : String} (hpath : Files.IsPossible path) (c : Cache τ α) (now : τ)
    (fs : FileSystem) (key : String) (value : α) :
    (c.set now fs key value (some path)).value =
      c.store now key value (some (Store.markOf c.digest (fs.content? path))) := by
  rw [set, fileOf_of_isPossible hpath]
  dsimp only
  rw [Logged.value_bind, Store.value_fingerprintWith hpath]
  rfl

/-- **Storing adds the one entry with the present fingerprint.** -/
theorem mem_entries_set {path : String} (hpath : Files.IsPossible path) {c : Cache τ α} {now : τ}
    {fs : FileSystem} {key : String} {value : α} {e : Entry τ α}
    (h : e ∈ (c.set now fs key value (some path)).value.2.entries) :
    e ∈ c.entries ∨ (e.key = key ∧ e.value = value ∧
      e.fingerprint = some (Store.markOf c.digest (fs.content? path)) ∧
      (c.set now fs key value (some path)).value.1 = .ok ()) := by
  rw [value_set hpath, store] at h ⊢
  split at h
  · exact .inl ((within_expire c now).mem e h)
  · obtain hold | ⟨hkey, hvalue, hfingerprint⟩ := mem_entries_insert h
    · exact .inl ((within_expire c now).mem e hold)
    · exact .inr ⟨hkey, hvalue, hfingerprint, by simp [*]⟩

/-- Storing changes neither the room nor the digest. -/
lemma capacity_digest_set {path : String} (hpath : Files.IsPossible path) (c : Cache τ α) (now : τ)
    (fs : FileSystem) (key : String) (value : α) :
    (c.set now fs key value (some path)).value.2.capacity = c.capacity ∧
      (c.set now fs key value (some path)).value.2.digest = c.digest := by
  rw [value_set hpath, store]
  split
  · exact ⟨rfl, rfl⟩
  · have hroom := within_makeRoom (c.expire now) key
    exact ⟨hroom.capacity, hroom.digest⟩

/-- A cache with room keeps every result. -/
lemma value_set_of_room {path : String} (hpath : Files.IsPossible path) {c : Cache τ α}
    (hroom : c.capacity ≠ 0) (now : τ) (fs : FileSystem) (key : String) (value : α) :
    (c.set now fs key value (some path)).value = (.ok (),
      (c.expire now).insert now key value (some (Store.markOf c.digest (fs.content? path)))) := by
  have hne : ((c.expire now).capacity == 0) = false := beq_eq_false_iff_ne.2 hroom
  rw [value_set hpath, store, hne]
  rfl

end Clock

end Cache

end FlopCensus
