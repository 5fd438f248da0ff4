import FlopCensus.Files.Discovery
import FlopCensus.Proofs.Files.Path
import FlopCensus.Proofs.Log
import Mathlib.Data.List.Basic
import Mathlib.Data.String.Basic
import Mathlib.Tactic.Common

set_option autoImplicit false
set_option relaxedAutoImplicit false

/-!
# The search for source files

The search goes through the entries of a directory in the order of their names and into those that
are directories themselves. A directory that cannot be listed is passed over, and so is a link that
leads nowhere; but any other link that cannot be followed ends the whole search.

## Main definitions

* `FlopCensus.File.IsProper` — directories whose entries have different names.
* `FlopCensus.Files.Reaches` — what is reached through directories that can be listed.
* `FlopCensus.Files.IsSource`, `FlopCensus.Files.Halts` — the files that count, and the links that
  end the search.
* `FlopCensus.Files.Lists` — what the search at an entry yields.

## Main results

* `FlopCensus.Files.inOrder_cases` — the results of the entries of a directory, taken together.
* `FlopCensus.Files.lists_ofEntry` — what the search at an entry yields.

## Design

The names that lead down are kept apart from the path that they make, since it is the names that the
search goes by: their order is that of the results, and different names make different results.
-/

namespace FlopCensus

namespace File

/-- What holds of a directory once it holds of all its entries holds of every file. -/
@[elab_as_elim]
lemma induction {P : File → Prop} (regular : ∀ content executable, P (.regular content executable))
    (link : ∀ target, P (.link target))
    (directory : ∀ readable es, (∀ e ∈ es, P e.2) → P (.directory readable es)) (f : File) : P f :=
  File.rec (motive_1 := P) (motive_2 := fun es => ∀ e ∈ es, P e.2) (motive_3 := fun e => P e.2)
    regular link (fun readable es ih => directory readable es ih) (by simp)
    (fun _ _ hhead htail => List.forall_mem_cons.2 ⟨hhead, htail⟩) (fun _ _ h => h) f

/-- In every directory the entries have different names, which can be names of files. -/
inductive IsProper : File → Prop
  | regular (content : List UInt8) (executable : Bool) : IsProper (.regular content executable)
  | link (target : String) : IsProper (.link target)
  | directory {readable : Bool} {es : List (String × File)} (names : ∀ e ∈ es, Files.IsName e.1)
      (differ : (es.map (·.1)).Nodup) (entries : ∀ e ∈ es, e.2.IsProper) :
      IsProper (.directory readable es)

attribute [simp] IsProper.regular IsProper.link

/-- A directory is proper if the names of its entries are and the entries are. -/
@[simp] lemma isProper_directory_iff {readable : Bool} {es : List (String × File)} :
    (File.directory readable es).IsProper ↔
      (∀ e ∈ es, Files.IsName e.1) ∧ (es.map (·.1)).Nodup ∧ ∀ e ∈ es, e.2.IsProper := by
  constructor
  · rintro (_ | _ | ⟨names, differ, entries⟩)
    exact ⟨names, differ, entries⟩
  · rintro ⟨names, differ, entries⟩
    exact .directory names differ entries

end File

namespace Files

variable {fs : FileSystem} {s : Selection} {path name : String} {f g : File}

/-! ### What is reached -/

/-- From a file with a path another one is reached by names: the directories on the way can be
listed, and none of them is a link. -/
inductive Reaches : String → File → List String → File → Prop
  | here (path : String) (f : File) : Reaches path f [] f
  | entry {path name : String} {es : List (String × File)} {f g : File} {down : List String}
      (short : path.utf8ByteSize < pathLimit) (mem : (name, f) ∈ es)
      (rest : Reaches (join path name) f down g) :
      Reaches path (.directory true es) (name :: down) g

/-- A file counts as a source file: it is a regular one, or a link to a regular one, and its name is
wanted. -/
def IsSource (fs : FileSystem) (s : Selection) (name path : String) : File → Prop
  | .regular .. => s.admits name = true
  | .link _ => fs.isFile path = true ∧ s.admits name = true
  | .directory .. => False

/-- A file is a link that cannot be followed, for another reason than that it leads nowhere. -/
def Halts (fs : FileSystem) (path : String) (e : Error) : File → Prop
  | .link _ => fs.find path = .error e.cause ∧ e.cause ≠ .notFound ∧ e.path = path
  | _ => False

/-- What the search at an entry yields: the source files that are reached, in the order of the names
that lead to them, unless a link is reached that cannot be followed. -/
inductive Lists (fs : FileSystem) (s : Selection) (name path : String) (f : File) :
    Except Error (List String) → Prop
  | found {downs : List (List String)} (sorted : downs.Pairwise (· < ·))
      (mem : ∀ down, down ∈ downs ↔
        ∃ g, Reaches path f down g ∧ IsSource fs s (down.getLastD name) (below path down) g)
      (free : ∀ down g e, Reaches path f down g → ¬Halts fs (below path down) e g) :
      Lists fs s name path f (.ok (downs.map (below path)))
  | halted {down : List String} {g : File} {e : Error} (reached : Reaches path f down g)
      (halts : Halts fs (below path down) e g) : Lists fs s name path f (.error e)

/-- From a file that is no directory only the file itself is reached. -/
lemma reaches_iff_of_not_directory (h : ∀ readable es, f ≠ .directory readable es)
    {down : List String} : Reaches path f down g ↔ down = [] ∧ g = f := by
  constructor
  · rintro (_ | _)
    · exact ⟨rfl, rfl⟩
    · exact absurd rfl (h _ _)
  · rintro ⟨rfl, rfl⟩
    exact .here _ _

/-- From a directory its entries are reached if it can be listed. -/
lemma reaches_cons_iff {readable : Bool} {es : List (String × File)} {down : List String} :
    Reaches path (.directory readable es) (name :: down) g ↔
      readable = true ∧ path.utf8ByteSize < pathLimit ∧
        ∃ f, (name, f) ∈ es ∧ Reaches (join path name) f down g := by
  constructor
  · rintro (_ | ⟨short, mem, rest⟩)
    exact ⟨rfl, short, _, mem, rest⟩
  · rintro ⟨rfl, short, f, mem, rest⟩
    exact .entry short mem rest

/-- Without a step, the file itself is reached. -/
lemma reaches_nil_iff : Reaches path f [] g ↔ g = f := by
  constructor
  · rintro ⟨⟩
    rfl
  · rintro rfl
    exact .here _ _

/-! ### Results in order -/

/-- What an attempt yields, if anything. -/
def yielded (act : Attempt Error (List String)) : List String :=
  act.outcome.value.toOption.getD []

/-- Results one after the other, behind those that are found already. -/
def gathered (found : List String) (results : List (String × Attempt Error (List String))) :
    Attempt Error (List String) :=
  results.foldlM (fun found r => return found ++ (← r.2)) found

/-- The first result comes behind those that are found already. -/
lemma value_gathered_cons (found : List String) (r : String × Attempt Error (List String))
    (results : List (String × Attempt Error (List String))) :
    (gathered found (r :: results)).outcome.value =
      match r.2.outcome.value with
      | .ok more => (gathered (found ++ more) results).outcome.value
      | .error e => .error e := by
  simp only [gathered, List.foldlM_cons, Attempt.value_bind]
  cases r.2.outcome.value <;> rfl

/-- Results one after the other: one of them fails, and so do all, or each yields something. -/
lemma gathered_cases (found : List String) (results : List (String × Attempt Error (List String))) :
    (∃ r ∈ results, ∃ e, r.2.outcome.value = .error e ∧
        (gathered found results).outcome.value = .error e) ∨
      ((∀ r ∈ results, r.2.outcome.value = .ok (yielded r.2)) ∧
        (gathered found results).outcome.value =
          .ok (found ++ results.flatMap fun r => yielded r.2)) := by
  induction results generalizing found with
  | nil => exact .inr ⟨by simp, by simp [gathered, Attempt.outcome]⟩
  | cons r results ih =>
    rw [value_gathered_cons]
    cases hr : r.2.outcome.value with
    | error e => exact .inl ⟨r, List.mem_cons_self, e, hr, rfl⟩
    | ok more =>
      have hyielded : yielded r.2 = more := by rw [yielded, hr]; rfl
      obtain ⟨r', hr', e, he, hfails⟩ | ⟨hoks, hrest⟩ := ih (found ++ more)
      · exact .inl ⟨r', List.mem_cons_of_mem _ hr', e, he, hfails⟩
      · refine .inr ⟨List.forall_mem_cons.2 ⟨hyielded ▸ hr, hoks⟩, ?_⟩
        rw [List.flatMap_cons, hyielded, ← List.append_assoc]
        exact hrest

/-- Entries in the order of their names. -/
def byName {β : Type} (es : List (String × β)) : List (String × β) :=
  es.mergeSort fun a b => !(b.1 < a.1)

/-- The entries stay the same. -/
lemma mem_byName {β : Type} {es : List (String × β)} {e : String × β} : e ∈ byName es ↔ e ∈ es :=
  List.mem_mergeSort

/-- Entries with different names are in strictly increasing order. -/
lemma pairwise_byName {β : Type} {es : List (String × β)} (h : (es.map (·.1)).Nodup) :
    (byName es).Pairwise (fun a b => a.1 < b.1) := by
  have hdiffer : (byName es).Pairwise (fun a b => a.1 ≠ b.1) :=
    List.pairwise_map.1 (((List.mergeSort_perm es _).map _).nodup_iff.2 h)
  have hsorted : (byName es).Pairwise (fun a b => (!(b.1 < a.1)) = true) := by
    apply List.pairwise_mergeSort
    · intro a b c hab hbc
      simp only [Bool.not_eq_true', decide_eq_false_iff_not, not_lt] at hab hbc ⊢
      exact hab.trans hbc
    · intro a b
      simp only [Bool.or_eq_true, Bool.not_eq_true', decide_eq_false_iff_not, not_lt]
      exact le_total a.1 b.1
  refine List.Pairwise.imp₂ ?_ hsorted hdiffer
  intro a b hle hne
  simp only [Bool.not_eq_true', decide_eq_false_iff_not, not_lt] at hle
  exact lt_of_le_of_ne hle hne

/-- The results of entries, which come in the order of the names. -/
lemma inOrder_map {β : Type} (es : List (String × β))
    (act : String × β → Attempt Error (List String)) :
    inOrder (es.map fun e => (e.1, act e)) =
      gathered [] ((byName es).map fun e => (e.1, act e)) := by
  have hmap : (byName es).map (fun e => (e.1, act e)) = byName (es.map fun e => (e.1, act e)) :=
    List.map_mergeSort fun _ _ _ _ => rfl
  rw [hmap]
  rfl

/-- The results of the entries of a directory: one of them fails, and so do all, or each yields
something, which comes in the order of the names. -/
lemma inOrder_cases {β : Type} (es : List (String × β))
    (act : String × β → Attempt Error (List String)) :
    (∃ e ∈ es, ∃ failure, (act e).outcome.value = .error failure ∧
        (inOrder (es.map fun e => (e.1, act e))).outcome.value = .error failure) ∨
      ((∀ e ∈ es, (act e).outcome.value = .ok (yielded (act e))) ∧
        (inOrder (es.map fun e => (e.1, act e))).outcome.value =
          .ok ((byName es).flatMap fun e => yielded (act e))) := by
  rw [inOrder_map]
  have hcases := gathered_cases [] ((byName es).map fun e => (e.1, act e))
  simpa only [List.mem_map, exists_exists_and_eq_and, forall_exists_index, and_imp,
    forall_apply_eq_imp_iff₂, mem_byName, List.flatMap_map, List.nil_append] using hcases

/-- The results of the entries are those of each entry. -/
lemma ofEntries_eq_map (es : List (String × File)) :
    ofEntries fs s path es = es.map fun e => (e.1, ofEntry fs s e.1 (join path e.1) e.2) := by
  induction es with
  | nil => rfl
  | cons e es ih => rw [ofEntries, ih, List.map_cons]

/-! ### What the search yields -/

/-- A directory that cannot be listed is passed over. -/
lemma lists_of_unreadable {readable : Bool} {es : List (String × File)}
    (h : ¬(path.utf8ByteSize < pathLimit ∧ readable = true)) :
    Lists fs s name path (.directory readable es) (.ok []) := by
  have hempty : ([] : List String) = ([] : List (List String)).map (below path) := rfl
  -- nothing but the directory itself is reached
  have hself : ∀ down g, Reaches path (.directory readable es) down g →
      g = .directory readable es := by
    intro down g hreach
    cases down with
    | nil => exact reaches_nil_iff.1 hreach
    | cons n down =>
      obtain ⟨hreadable, hshort, -⟩ := reaches_cons_iff.1 hreach
      exact absurd ⟨hshort, hreadable⟩ h
  rw [hempty]
  refine .found .nil (fun down => iff_of_false (List.not_mem_nil) ?_) ?_
  · rintro ⟨g, hreach, hsource⟩
    rw [hself down g hreach] at hsource
    exact hsource
  · intro down g e hreach
    rw [hself down g hreach]
    exact id

/-- What a link yields. -/
lemma value_ofLink (fs : FileSystem) (s : Selection) (name path : String) :
    (ofLink fs s name path).outcome.value =
      (leadsToFile fs path).map fun leads => if leads && s.admits name then [path] else [] := by
  rw [ofLink, Attempt.value_bind]
  cases leadsToFile fs path with
  | error e => rfl
  | ok leads => cases leads <;> cases s.admits name <;> rfl

/-- What a file that is no directory yields. -/
lemma lists_of_not_directory (h : ∀ readable es, f ≠ .directory readable es) (source : Prop)
    [Decidable source] (hsource : IsSource fs s name path f ↔ source)
    (hfree : ∀ e, ¬Halts fs path e f) :
    Lists fs s name path f (.ok (if source then [path] else [])) := by
  have hfound : (if source then [path] else []) =
      (if source then [[]] else []).map (below path) := by
    split <;> rfl
  rw [hfound]
  refine .found (by split <;> simp) (fun down => ?_) ?_
  · have hmem : down ∈ (if source then [[]] else [] : List (List String)) ↔
        down = [] ∧ source := by
      split <;> simp [*]
    rw [hmem]
    constructor
    · rintro ⟨rfl, hs⟩
      exact ⟨f, .here _ _, hsource.2 hs⟩
    · rintro ⟨g, hreach, hg⟩
      obtain ⟨rfl, rfl⟩ := (reaches_iff_of_not_directory h).1 hreach
      exact ⟨rfl, hsource.1 hg⟩
  · intro down g e hreach
    obtain ⟨rfl, rfl⟩ := (reaches_iff_of_not_directory h).1 hreach
    exact hfree e

/-- A link leads to a regular file or does not, unless it cannot be followed. -/
lemma leadsToFile_cases (fs : FileSystem) (path target : String) :
    (leadsToFile fs path = .ok (fs.isFile path) ∧ ∀ e, ¬Halts fs path e (.link target)) ∨
      ∃ e, leadsToFile fs path = .error e ∧ Halts fs path e (.link target) := by
  rw [leadsToFile, FileSystem.isFile]
  cases hfind : fs.find path with
  | ok f =>
    refine .inl ⟨by cases f <;> rfl, fun e hhalts => ?_⟩
    rw [Halts, hfind] at hhalts
    exact absurd hhalts.1 (by simp)
  | error cause =>
    by_cases hcause : cause = .notFound
    · subst hcause
      refine .inl ⟨rfl, fun e hhalts => ?_⟩
      rw [Halts, hfind] at hhalts
      exact hhalts.2.1 (Except.error.inj hhalts.1).symm
    · refine .inr ⟨⟨cause, path⟩, ?_, hfind, hcause, rfl⟩
      cases cause <;> first | rfl | exact absurd rfl hcause

/-- What the search at a link yields. -/
lemma lists_ofLink (target : String) :
    Lists fs s name path (.link target) (ofLink fs s name path).outcome.value := by
  have hlink : ∀ readable es, File.link target ≠ .directory readable es := by simp
  rw [value_ofLink]
  obtain ⟨hleads, hfree⟩ | ⟨e, hleads, hhalts⟩ := leadsToFile_cases fs path target
  · rw [hleads]
    refine lists_of_not_directory hlink ((fs.isFile path && s.admits name) = true) ?_ hfree
    rw [IsSource, Bool.and_eq_true]
  · rw [hleads]
    exact .halted (.here _ _) hhalts

/-- What an entry yields that has a result. -/
lemma Lists.exists_downs {found : List String} (h : Lists fs s name path f (.ok found)) :
    ∃ downs : List (List String), found = downs.map (below path) ∧ downs.Pairwise (· < ·) ∧
      (∀ down, down ∈ downs ↔
        ∃ g, Reaches path f down g ∧ IsSource fs s (down.getLastD name) (below path down) g) ∧
      ∀ down g e, Reaches path f down g → ¬Halts fs (below path down) e g := by
  obtain ⟨sorted, mem, free⟩ | - := h
  exact ⟨_, rfl, sorted, mem, free⟩

/-- Names that lead down from the entries of a directory, entry by entry in the order of their names,
are in order. -/
lemma pairwise_flatMap_byName {es : List (String × File)} (hdiffer : (es.map (·.1)).Nodup)
    {downs : String × File → List (List String)}
    (hsorted : ∀ e ∈ es, (downs e).Pairwise (· < ·)) :
    ((byName es).flatMap fun e => (downs e).map (e.1 :: ·)).Pairwise (· < ·) := by
  refine List.pairwise_flatMap.2 ⟨fun e he => ?_, ?_⟩
  · rw [List.pairwise_map]
    exact (hsorted e (mem_byName.1 he)).imp fun hlt => List.cons_lt_cons_iff.2 (.inr ⟨rfl, hlt⟩)
  · refine (pairwise_byName hdiffer).imp fun {e e'} hlt => ?_
    simp only [List.forall_mem_map]
    exact fun _ _ _ _ => List.cons_lt_cons_iff.2 (.inl hlt)

/-- No link below a directory ends the search if none below its entries does. -/
lemma not_halts_directory {readable : Bool} {es : List (String × File)} {down : List String}
    {e : Error} (hfree : ∀ entry ∈ es, ∀ down g e, Reaches (join path entry.1) entry.2 down g →
      ¬Halts fs (below (join path entry.1) down) e g)
    (hreach : Reaches path (.directory readable es) down g) : ¬Halts fs (below path down) e g := by
  cases down with
  | nil =>
    rw [reaches_nil_iff] at hreach
    exact hreach ▸ id
  | cons n down =>
    obtain ⟨-, -, f, hf, hreach⟩ := reaches_cons_iff.1 hreach
    exact hfree (n, f) hf down g e hreach

/-- What the search at the entries of a directory yields. -/
lemma lists_inOrder {es : List (String × File)} (hdiffer : (es.map (·.1)).Nodup)
    (hshort : path.utf8ByteSize < pathLimit)
    (h : ∀ e ∈ es, Lists fs s e.1 (join path e.1) e.2
      (ofEntry fs s e.1 (join path e.1) e.2).outcome.value) :
    Lists fs s name path (.directory true es)
      (inOrder (ofEntries fs s path es)).outcome.value := by
  rw [ofEntries_eq_map]
  obtain ⟨entry, hentry, e, he, hfails⟩ | ⟨hoks, hall⟩ := inOrder_cases es
    fun e => ofEntry fs s e.1 (join path e.1) e.2
  · have hlists := h entry hentry
    rw [he] at hlists
    obtain - | ⟨hreach, hhalts⟩ := hlists
    rw [hfails]
    exact .halted (.entry hshort hentry hreach) hhalts
  · -- no entry fails, so each one has the ways to its own source files
    have hparts : ∀ e ∈ es, _ := fun e he => Lists.exists_downs (hoks e he ▸ h e he)
    choose! downs hfound hsorted hmem hfree using hparts
    have hlist : (byName es).flatMap (fun e => yielded (ofEntry fs s e.1 (join path e.1) e.2)) =
        ((byName es).flatMap fun e => (downs e).map (e.1 :: ·)).map (below path) := by
      rw [List.map_flatMap]
      refine List.flatMap_congr fun e he => ?_
      rw [hfound e (mem_byName.1 he), List.map_map]
      rfl
    rw [hall, hlist]
    refine .found (pairwise_flatMap_byName hdiffer hsorted) (fun down => ?_)
      fun down g e hreach => not_halts_directory hfree hreach
    simp only [List.mem_flatMap, List.mem_map, mem_byName]
    cases down with
    | nil => simp [reaches_nil_iff, IsSource]
    | cons n down =>
      simp only [reaches_cons_iff, List.cons.injEq, hshort, true_and, below_cons,
        List.getLastD_cons]
      constructor
      · rintro ⟨e, he, d, hd, rfl, rfl⟩
        obtain ⟨g, hreach, hsource⟩ := (hmem e he d).1 hd
        exact ⟨g, ⟨e.2, he, hreach⟩, hsource⟩
      · rintro ⟨g, ⟨f, hf, hreach⟩, hsource⟩
        exact ⟨(n, f), hf, down, (hmem (n, f) hf down).2 ⟨g, hreach, hsource⟩, rfl, rfl⟩

/-- **What the search at an entry yields.** -/
theorem lists_ofEntry (h : f.IsProper) (name path : String) :
    Lists fs s name path f (ofEntry fs s name path f).outcome.value := by
  induction f using File.induction generalizing name path with
  | regular content executable =>
    have hregular : ∀ readable es, File.regular content executable ≠ .directory readable es := by
      simp
    refine lists_of_not_directory hregular (s.admits name = true) ?_ ?_
    · rfl
    · exact fun _ => id
  | link target => exact lists_ofLink target
  | directory readable es ih =>
    obtain - | - | ⟨hnames, hdiffer, hentries⟩ := h
    rw [ofEntry, ofDirectory]
    by_cases hshort : path.utf8ByteSize ≥ pathLimit
    · rw [if_pos hshort]
      exact lists_of_unreadable fun hlist => absurd hlist.1 (Nat.not_lt.2 hshort)
    · rw [if_neg hshort]
      cases readable with
      | false => exact lists_of_unreadable (by simp)
      | true =>
        exact lists_inOrder hdiffer (Nat.not_le.1 hshort)
          fun e he => ih e he (hentries e he) e.1 (join path e.1)

end Files

end FlopCensus
