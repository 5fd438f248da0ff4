import FlopCensus.Files.Path
import Mathlib.Data.List.Basic
import Mathlib.Tactic.Common

set_option autoImplicit false
set_option relaxedAutoImplicit false

/-!
# Paths of what lies below a directory

The path of a file is that of its directory with the name of the file behind it. So the components
of the path tell the names on the way, as long as each of them can be the name of a file.

## Main definitions

* `FlopCensus.Files.IsName` — what can be the name of a file.
* `FlopCensus.Files.names` — the components of a path, not counting a slash at the end.
* `FlopCensus.Files.below` — the path of what lies below another path.

## Main results

* `FlopCensus.Files.components_below` — the components of such a path.
-/

namespace FlopCensus

namespace Text

/-- There is always a piece. -/
lemma splitOnChar_ne_nil (c : Char) (s : List Char) : splitOnChar c s ≠ [] := by
  cases s with
  | nil => simp [splitOnChar]
  | cons d s =>
    rw [splitOnChar, List.foldr_cons]
    split
    · simp
    · split <;> simp

/-- A separator ends the pieces in front of it. -/
lemma splitOnChar_append_cons (c : Char) (s t : List Char) :
    splitOnChar c (s ++ c :: t) = splitOnChar c s ++ splitOnChar c t := by
  induction s with
  | nil => simp [splitOnChar]
  | cons d s ih =>
    simp only [splitOnChar] at ih
    simp only [splitOnChar, List.cons_append, List.foldr_cons, ih]
    split
    · rfl
    · have hne := splitOnChar_ne_nil c s
      rw [splitOnChar] at hne
      obtain ⟨piece, pieces, hsplit⟩ := List.exists_cons_of_ne_nil hne
      rw [hsplit]
      rfl

/-- A text without separators is one piece. -/
lemma splitOnChar_of_not_mem {c : Char} {s : List Char} (h : c ∉ s) : splitOnChar c s = [s] := by
  induction s with
  | nil => rfl
  | cons d s ih =>
    obtain ⟨hne, hs⟩ := not_or.1 (mt List.mem_cons.2 h)
    have hrest := ih hs
    rw [splitOnChar] at hrest
    rw [splitOnChar, List.foldr_cons, hrest, if_neg (by simpa using Ne.symm hne)]

end Text

namespace Files

/-- The text can be the name of a file. -/
structure IsName (name : String) : Prop where
  /-- It is not empty. -/
  ne_empty : name ≠ ""
  /-- It has no slash. -/
  no_slash : '/' ∉ name.toList

instance (name : String) : Decidable (IsName name) :=
  decidable_of_iff (name ≠ "" ∧ '/' ∉ name.toList)
    ⟨fun h => ⟨h.1, h.2⟩, fun h => ⟨h.ne_empty, h.no_slash⟩⟩

/-- The components of a path, not counting a slash at the end. -/
def names (path : String) : List String :=
  ((Text.splitOnChar '/' path.toList).filter (!·.isEmpty)).map String.ofList

/-- The path of what lies below another path, by the names that lead to it. -/
def below (path : String) (names : List String) : String :=
  names.foldl join path

@[simp] lemma below_nil (path : String) : below path [] = path := rfl

@[simp] lemma below_cons (path name : String) (names : List String) :
    below path (name :: names) = below (join path name) names := rfl

/-- The last name comes behind the others. -/
lemma below_concat (path name : String) (names : List String) :
    below path (names ++ [name]) = join (below path names) name := by
  rw [below, List.foldl_append]
  rfl

/-- A path ends with a slash exactly if its last character is one. -/
lemma endsWith_slash_iff {path : String} :
    Text.endsWith path "/" = true ↔ ∃ front, path.toList = front ++ ['/'] := by
  rw [Text.endsWith, List.isSuffixOf_iff_suffix]
  constructor
  · rintro ⟨front, hfront⟩
    exact ⟨front, hfront.symm⟩
  · rintro ⟨front, hfront⟩
    exact ⟨front, hfront.symm⟩

/-- A slash at the end adds no name. -/
lemma names_of_toList {path : String} {front : List Char} (h : path.toList = front ++ ['/']) :
    names path = ((Text.splitOnChar '/' front).filter (!·.isEmpty)).map String.ofList := by
  rw [names, h, Text.splitOnChar_append_cons, List.filter_append, List.map_append]
  simp [Text.splitOnChar]

section Join

variable {path name : String} (hpath : path ≠ "") (hname : IsName name)

include hpath hname

/-- A path with a name behind it has a slash between the two. -/
lemma toList_join : ∃ front, (join path name).toList = front ++ '/' :: name.toList ∧
    names path = ((Text.splitOnChar '/' front).filter (!·.isEmpty)).map String.ofList := by
  have hrelative : isAbsolute name = false := by
    rw [isAbsolute, Text.opensWith, Bool.eq_false_iff]
    intro hprefix
    obtain ⟨rest, hrest⟩ := List.isPrefixOf_iff_prefix.1 hprefix
    exact hname.no_slash (hrest ▸ by simp)
  rw [join, hrelative]
  by_cases hslash : Text.endsWith path "/" = true
  · obtain ⟨front, hfront⟩ := endsWith_slash_iff.1 hslash
    refine ⟨front, ?_, names_of_toList hfront⟩
    simp [hslash, hfront]
  · refine ⟨path.toList, ?_, rfl⟩
    simp [hslash, hpath]

/-- The names of a path with a name behind it. -/
lemma names_join : names (join path name) = names path ++ [name] := by
  obtain ⟨front, hjoin, hnames⟩ := toList_join hpath hname
  have hsome : name.toList ≠ [] := by simpa using hname.ne_empty
  rw [names, hjoin, hnames, Text.splitOnChar_append_cons, List.filter_append, List.map_append,
    Text.splitOnChar_of_not_mem hname.no_slash]
  simp [hsome]

/-- The components of a path with a name behind it. -/
lemma components_join : components (join path name) = names path ++ [name] := by
  have hend : Text.endsWith (join path name) "/" = false := by
    rw [Bool.eq_false_iff]
    intro hslash
    obtain ⟨front, hfront⟩ := endsWith_slash_iff.1 hslash
    obtain ⟨start, hjoin, -⟩ := toList_join hpath hname
    obtain ⟨init, last, hlast⟩ := List.eq_nil_or_concat' name.toList |>.resolve_left
      (by simpa using hname.ne_empty)
    rw [hjoin, hlast, ← List.cons_append, ← List.append_assoc] at hfront
    obtain ⟨-, hchar⟩ := List.append_inj' hfront rfl
    exact hname.no_slash (hlast ▸ by simp_all)
  rw [components, hend]
  exact names_join hpath hname

/-- A path with a name behind it is not empty. -/
lemma join_ne_empty : join path name ≠ "" := by
  intro hempty
  obtain ⟨front, hjoin, -⟩ := toList_join hpath hname
  rw [hempty] at hjoin
  simp at hjoin

end Join

section Below

variable {path : String} (hpath : path ≠ "")

include hpath

/-- A path below another one is not empty, and its names are those of the other one with the names
that lead down. -/
lemma names_below {down : List String} (hnames : ∀ name ∈ down, IsName name) :
    below path down ≠ "" ∧ names (below path down) = names path ++ down := by
  induction down generalizing path with
  | nil => simpa using hpath
  | cons name down ih =>
    rw [List.forall_mem_cons] at hnames
    obtain ⟨hne, hdown⟩ := ih (join_ne_empty hpath hnames.1) hnames.2
    rw [below_cons]
    exact ⟨hne, by rw [hdown, names_join hpath hnames.1, List.append_assoc, List.singleton_append]⟩

/-- **The components of a path below another one** are those of the other one with the names that
lead down. -/
theorem components_below {above : List String} {name : String}
    (hnames : ∀ n ∈ above ++ [name], IsName n) :
    components (below path (above ++ [name])) = names path ++ (above ++ [name]) := by
  rw [List.forall_mem_append, List.forall_mem_singleton] at hnames
  obtain ⟨hne, hn⟩ := names_below hpath hnames.1
  rw [below_concat, components_join hne hnames.2, hn, List.append_assoc]

end Below

end Files

end FlopCensus
