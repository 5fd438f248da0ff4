import FlopCensus.Proofs.Files.Search

set_option autoImplicit false
set_option relaxedAutoImplicit false

/-!
# Which source files are found

Below a directory the source files are found once each, in the order of the components of their
paths. Whether a file is among them depends only on the directories on the way to it and on what its
path leads to. But a link that cannot be followed, for another reason than that it leads nowhere,
keeps the search from having a result at all.

## Main definitions

* `FlopCensus.Files.Finds` — the source files below a directory, in their order.
* `FlopCensus.Files.IsOpen` — directories that can all be listed, with links that resolve or lead
  nowhere.

## Main results

* `FlopCensus.Files.discover_ok_iff` — when the search has a result, and which.
* `FlopCensus.Files.discover_of_isOpen` — the source files of a tree in which nothing is in the way.
-/

namespace FlopCensus.Files

variable {fs : FileSystem} {s : Selection} {root path : String} {dir f g : File}
  {down : List String}

/-! ### Paths of what is reached -/

/-- The names that lead down are names of files. -/
lemma Reaches.isName (h : Reaches path f down g) (hf : f.IsProper) : ∀ n ∈ down, IsName n := by
  induction h with
  | here path f => simp
  | entry short mem rest ih =>
    obtain - | - | ⟨hnames, -, hentries⟩ := hf
    exact List.forall_mem_cons.2 ⟨hnames _ mem, ih (hentries _ mem)⟩

/-- Where entries have different names, the one with a name is the one that is looked up. -/
lemma lookup_eq_some_iff_mem {es : List (String × File)} (h : (es.map (·.1)).Nodup) {name : String}
    {f : File} : es.lookup name = some f ↔ (name, f) ∈ es := by
  rw [List.lookup_eq_some_iff]
  constructor
  · rintro ⟨front, rest, rfl, -⟩
    simp
  · intro hmem
    obtain ⟨front, rest, rfl⟩ := List.append_of_mem hmem
    refine ⟨front, rest, rfl, fun e he => ?_⟩
    rw [List.map_append, List.nodup_append] at h
    have hne := h.2.2 e.1 (List.mem_map_of_mem he) name (by simp)
    simpa using hne.symm

/-- Below a file that is no directory there is nothing. -/
lemma descend_of_not_directory (h : ∀ readable es, f ≠ .directory readable es) :
    f.descend down = some g ↔ down = [] ∧ g = f := by
  cases down with
  | nil => simp [File.descend, eq_comm]
  | cons name down =>
    cases f with
    | regular content executable => simp [File.descend, File.entry?, File.entries]
    | link target => simp [File.descend, File.entry?, File.entries]
    | directory readable es => exact absurd rfl (h readable es)

/-- What lies below a directory lies below one of its entries. -/
lemma descend_cons_iff {readable : Bool} {es : List (String × File)} {name : String}
    (h : (es.map (·.1)).Nodup) : (File.directory readable es).descend (name :: down) = some g ↔
      ∃ f, (name, f) ∈ es ∧ f.descend down = some g := by
  rw [File.descend, File.entry?, File.entries, Option.bind_eq_some_iff]
  simp only [lookup_eq_some_iff_mem h]

/-- In a tree in which all directories can be listed, everything is reached. -/
lemma reaches_iff_descend (hf : f.IsProper)
    (hopen : ∀ down readable es, f.descend down = some (.directory readable es) →
      readable = true ∧ (below path down).utf8ByteSize < pathLimit) :
    Reaches path f down g ↔ f.descend down = some g := by
  induction down generalizing path f with
  | nil => simp [reaches_nil_iff, File.descend, eq_comm]
  | cons name down ih =>
    obtain - | - | ⟨-, hdiffer, hentries⟩ := hf
    · simp [reaches_iff_of_not_directory, descend_of_not_directory]
    · simp [reaches_iff_of_not_directory, descend_of_not_directory]
    · obtain ⟨rfl, hshort⟩ := hopen [] _ _ rfl
      rw [below_nil] at hshort
      simp only [reaches_cons_iff, true_and, hshort, descend_cons_iff hdiffer]
      refine exists_congr fun f => and_congr_right fun hmem =>
        ih (hentries (name, f) hmem) fun down readable es hdown => ?_
      exact hopen (name :: down) readable es ((descend_cons_iff hdiffer).2 ⟨f, hmem, hdown⟩)

/-! ### What is found -/

/-- The source files below a directory, in the order of the components of their paths. -/
structure Finds (fs : FileSystem) (s : Selection) (root : String) (dir : File)
    (paths : List String) : Prop where
  /-- The components of the paths are in strictly increasing order. -/
  sorted : paths.Pairwise fun p q => components p < components q
  /-- The paths are those of the source files that are reached. -/
  mem : ∀ p, p ∈ paths ↔ ∃ above name g, Reaches root dir (above ++ [name]) g ∧
    p = below root (above ++ [name]) ∧ IsSource fs s name p g

/-- A path that leads to a file is not empty. -/
lemma ne_empty_of_find (h : fs.find root = .ok f) : root ≠ "" := by
  rintro rfl
  cases h

/-- The source files below a directory are those that the search at it yields. -/
lemma Lists.finds {readable : Bool} {es : List (String × File)} {name : String}
    {paths : List String} (hne : root ≠ "") (hproper : (File.directory readable es).IsProper)
    (h : Lists fs s name root (.directory readable es) (.ok paths)) :
    Finds fs s root (.directory readable es) paths := by
  obtain ⟨downs, rfl, hsorted, hmem, -⟩ := h.exists_downs
  -- the root is a directory, so the way to a source file has a last name
  have hconcat : ∀ down ∈ downs, ∃ above last, down = above ++ [last] := by
    intro down hdown
    refine (List.eq_nil_or_concat' down).resolve_left ?_
    rintro rfl
    obtain ⟨g, hreach, hsource⟩ := (hmem []).1 hdown
    rw [reaches_nil_iff.1 hreach] at hsource
    exact hsource
  have hnames : ∀ down ∈ downs, ∀ n ∈ down, IsName n := by
    intro down hdown
    obtain ⟨g, hreach, -⟩ := (hmem down).1 hdown
    exact hreach.isName hproper
  constructor
  · rw [List.pairwise_map]
    refine hsorted.imp_of_mem fun {down down'} hdown hdown' hlt => ?_
    obtain ⟨above, last, rfl⟩ := hconcat down hdown
    obtain ⟨above', last', rfl⟩ := hconcat down' hdown'
    rw [components_below hne (hnames _ hdown), components_below hne (hnames _ hdown')]
    exact List.append_left_lt hlt
  · intro p
    rw [List.mem_map]
    constructor
    · rintro ⟨down, hdown, rfl⟩
      obtain ⟨above, last, rfl⟩ := hconcat down hdown
      obtain ⟨g, hreach, hsource⟩ := (hmem _).1 hdown
      rw [List.getLastD_concat] at hsource
      exact ⟨above, last, g, hreach, rfl, hsource⟩
    · rintro ⟨above, last, g, hreach, rfl, hsource⟩
      refine ⟨above ++ [last], (hmem _).2 ⟨g, hreach, ?_⟩, rfl⟩
      rwa [List.getLastD_concat]

/-- A directory is searched as one that is an entry. -/
lemma walk_directory (name : String) {path : String} {readable : Bool}
    {es : List (String × File)} :
    walk fs s path (.directory readable es) = ofEntry fs s name path (.directory readable es) := by
  rw [walk, ofEntry]

/-- The search for source files finds them, or a link ends it. -/
lemma finds_or_halts (s : Selection) (hroot : fs.find root = .ok dir) (hproper : dir.IsProper) :
    (∃ paths, (discover fs s root).outcome.value = .ok paths ∧ Finds fs s root dir paths ∧
        ∀ down g e, Reaches root dir down g → ¬Halts fs (below root down) e g) ∨
      ∃ e down g, (discover fs s root).outcome.value = .error e ∧ Reaches root dir down g ∧
        Halts fs (below root down) e g := by
  rw [discover, hroot]
  by_cases hdir : ∀ readable es, dir ≠ .directory readable es
  · -- at a root that is no directory nothing is searched
    have hnone : (walk fs s root dir).outcome.value = .ok [] := by
      cases dir with
      | regular content executable => rfl
      | link target => rfl
      | directory readable es => exact absurd rfl (hdir readable es)
    refine .inl ⟨[], hnone, ⟨.nil, fun p => ?_⟩, fun down g e hreach hhalts => ?_⟩
    · simp [reaches_iff_of_not_directory hdir]
    · obtain ⟨rfl, rfl⟩ := (reaches_iff_of_not_directory hdir).1 hreach
      cases g with
      | link target => exact absurd (hroot.symm.trans hhalts.1) (by simp)
      | regular content executable => exact hhalts
      | directory readable es => exact hhalts
  · push Not at hdir
    obtain ⟨readable, es, rfl⟩ := hdir
    have hlists : Lists fs s "" root (.directory readable es)
        (walk fs s root (.directory readable es)).outcome.value := by
      rw [walk_directory ""]
      exact lists_ofEntry hproper "" root
    cases hvalue : (walk fs s root (.directory readable es)).outcome.value with
    | ok paths =>
      rw [hvalue] at hlists
      obtain ⟨-, -, -, -, hfree⟩ := hlists.exists_downs
      exact .inl ⟨paths, rfl, hlists.finds (ne_empty_of_find hroot) hproper, hfree⟩
    | error e =>
      rw [hvalue] at hlists
      obtain - | ⟨hreach, hhalts⟩ := hlists
      exact .inr ⟨e, _, _, rfl, hreach, hhalts⟩

section Comparison

variable {fs' : FileSystem} {dir' : File} {paths paths' above : List String} {name : String}

/-- Different names lead to different paths. -/
lemma below_injective (hne : root ≠ "") {down down' : List String}
    (hdown : ∀ n ∈ down, IsName n) (hdown' : ∀ n ∈ down', IsName n)
    (heq : below root down = below root down') : down = down' := by
  have hnames := (names_below hne hdown).2
  rw [heq, (names_below hne hdown').2] at hnames
  exact (List.append_cancel_left hnames).symm

/-- By the same names the same file is reached. -/
lemma Reaches.eq (hf : f.IsProper) (h : Reaches root f down g) {g' : File}
    (h' : Reaches root f down g') : g = g' := by
  induction h with
  | here path f => exact (reaches_nil_iff.1 h').symm
  | @entry path name es f g down short mem rest ih =>
    obtain - | - | ⟨-, hdiffer, hentries⟩ := hf
    obtain ⟨-, -, f', mem', rest'⟩ := reaches_cons_iff.1 h'
    have hsame : f' = f := by
      have hlook := (lookup_eq_some_iff_mem hdiffer).2 mem
      rw [(lookup_eq_some_iff_mem hdiffer).2 mem'] at hlook
      exact Option.some.inj hlook
    exact ih (hentries _ mem) (hsame ▸ rest')

/-- A file that is reached is listed if it counts as a source file. -/
lemma Finds.mem_below_iff (h : Finds fs s root dir paths) (hne : root ≠ "") (hdir : dir.IsProper)
    (hreach : Reaches root dir (above ++ [name]) g) :
    below root (above ++ [name]) ∈ paths ↔
      IsSource fs s name (below root (above ++ [name])) g := by
  rw [h.mem]
  constructor
  · rintro ⟨above', name', g', hreach', heq, hsource⟩
    have hdown := below_injective hne (hreach.isName hdir) (hreach'.isName hdir) heq
    obtain ⟨rfl, hname⟩ := List.append_inj' hdown rfl
    obtain rfl := List.singleton_inj.1 hname
    rwa [hreach.eq hdir hreach']
  · intro hsource
    exact ⟨above, name, g, hreach, rfl, hsource⟩

/-- Whether a file counts as a source file depends only on where its path leads. -/
lemma isSource_congr {path : String} (h : fs.isFile path = fs'.isFile path) :
    IsSource fs s name path g ↔ IsSource fs' s name path g := by
  cases g with
  | regular content executable => rfl
  | link target => rw [IsSource, IsSource, h]
  | directory readable es => rfl

end Comparison

/-- **When the search has a result, and which.** The search has a result unless a link is reached
that cannot be followed for another reason than that it leads nowhere, and such a link is what it
fails with. A result has all source files that are reached, and a file that is reached in two trees
and leads to a regular file in both or in neither is listed for both or for neither: what else the
two have that cannot be listed or followed makes no difference. -/
theorem discover_ok_iff (s : Selection) (hroot : fs.find root = .ok dir) (hproper : dir.IsProper) :
    ((∃ paths, (discover fs s root).outcome.value = .ok paths) ↔
        ∀ down g e, Reaches root dir down g → ¬Halts fs (below root down) e g) ∧
      (∀ e, (discover fs s root).outcome.value = .error e →
        ∃ down g, Reaches root dir down g ∧ Halts fs (below root down) e g) ∧
      (∀ paths, (discover fs s root).outcome.value = .ok paths → Finds fs s root dir paths) ∧
      ∀ (fs' : FileSystem) (dir' : File) (paths paths' : List String),
        fs'.find root = .ok dir' → dir'.IsProper →
        (discover fs s root).outcome.value = .ok paths →
        (discover fs' s root).outcome.value = .ok paths' →
        ∀ above name g, Reaches root dir (above ++ [name]) g →
          Reaches root dir' (above ++ [name]) g →
          fs.isFile (below root (above ++ [name])) = fs'.isFile (below root (above ++ [name])) →
          (below root (above ++ [name]) ∈ paths ↔ below root (above ++ [name]) ∈ paths') := by
  -- what is found at another time is described in the same way
  have hfinds : ∀ {fs' : FileSystem} {dir' : File} {paths : List String},
      fs'.find root = .ok dir' → dir'.IsProper →
      (discover fs' s root).outcome.value = .ok paths → Finds fs' s root dir' paths := by
    intro fs' dir' paths hroot' hproper' hvalue
    obtain ⟨paths', hvalue', hfound, -⟩ | ⟨e, -, -, hvalue', -⟩ :=
      finds_or_halts s hroot' hproper'
    · obtain rfl := Except.ok.inj (hvalue.symm.trans hvalue')
      exact hfound
    · cases hvalue.symm.trans hvalue'
  refine ⟨?_, ?_, fun paths hvalue => hfinds hroot hproper hvalue, ?_⟩
  · obtain ⟨paths, hvalue, -, hfree⟩ | ⟨e, down, g, hvalue, hreach, hhalts⟩ :=
      finds_or_halts s hroot hproper
    · exact iff_of_true ⟨paths, hvalue⟩ hfree
    · refine iff_of_false ?_ fun hfree => hfree down g e hreach hhalts
      rintro ⟨paths, hvalue'⟩
      cases hvalue.symm.trans hvalue'
  · intro e hvalue
    obtain ⟨paths, hvalue', -⟩ | ⟨e', down, g, hvalue', hreach, hhalts⟩ :=
      finds_or_halts s hroot hproper
    · cases hvalue.symm.trans hvalue'
    · obtain rfl := Except.error.inj (hvalue.symm.trans hvalue')
      exact ⟨down, g, hreach, hhalts⟩
  · intro fs' dir' paths paths' hroot' hproper' hvalue hvalue' above name g hreach hreach' hfile
    have hne := ne_empty_of_find hroot
    rw [(hfinds hroot hproper hvalue).mem_below_iff hne hproper hreach,
      (hfinds hroot' hproper' hvalue').mem_below_iff hne hproper' hreach', isSource_congr hfile]

/-- The sources of a hardware description by the ending of their names. -/
def verilog : Selection where
  extensions := [".v", ".sv"]

/-- A file between a link that leads nowhere and a directory that cannot be listed. -/
def hinderedTree : FileSystem where
  root := .directory true [("gone.sv", .link "none.sv"), ("m.sv", .regular [] false),
    ("shut", .directory false [("q.sv", .regular [] false)])]

/-- The names in the tree differ. -/
lemma isProper_hinderedTree : hinderedTree.root.IsProper := by
  have hname : IsName "q.sv" := by decide
  refine .directory (by decide) (by decide) ?_
  simp [hname]

/-- No link in the tree ends the search. -/
lemma not_halts_hinderedTree {e : Error} (h : Reaches "." hinderedTree.root down g) :
    ¬Halts hinderedTree (below "." down) e g := by
  cases down with
  | nil => exact reaches_nil_iff.1 h ▸ id
  | cons name down =>
    obtain ⟨-, -, f, hmem, hrest⟩ := reaches_cons_iff.1 h
    simp only [List.mem_cons, List.not_mem_nil, or_false, Prod.mk.injEq] at hmem
    rcases hmem with ⟨rfl, rfl⟩ | ⟨rfl, rfl⟩ | ⟨rfl, rfl⟩
    · obtain ⟨rfl, rfl⟩ := (reaches_iff_of_not_directory (by simp)).1 hrest
      have hgone : hinderedTree.find "./gone.sv" = .error .notFound := rfl
      intro hhalts
      exact hhalts.2.1 (Except.error.inj (hhalts.1.symm.trans hgone))
    · obtain ⟨rfl, rfl⟩ := (reaches_iff_of_not_directory (by simp)).1 hrest
      exact id
    · cases down with
      | nil => exact reaches_nil_iff.1 hrest ▸ id
      | cons name down => exact absurd (reaches_cons_iff.1 hrest).1 (by decide)

/-- The link that leads nowhere and the directory that cannot be listed do not keep the search from
finding the file between them. -/
theorem discover_hinderedTree :
    hinderedTree.find "." = .ok hinderedTree.root ∧ hinderedTree.root.IsProper ∧
      ∃ paths, (discover hinderedTree verilog ".").outcome.value = .ok paths ∧ "./m.sv" ∈ paths := by
  have hroot : hinderedTree.find "." = .ok hinderedTree.root := rfl
  obtain ⟨hresult, -, hfinds, -⟩ := discover_ok_iff verilog hroot isProper_hinderedTree
  obtain ⟨paths, hvalue⟩ := hresult.2 fun _ _ _ => not_halts_hinderedTree
  refine ⟨hroot, isProper_hinderedTree, paths, hvalue, ((hfinds paths hvalue).mem _).2 ?_⟩
  refine ⟨[], "m.sv", .regular [] false, ?_, rfl, ?_⟩
  · exact reaches_cons_iff.2 ⟨rfl, by decide, _, by simp, .here _ _⟩
  · exact (by decide : verilog.admits "m.sv" = true)

/-- A file beside a link that leads to itself. -/
def loopedTree : FileSystem where
  root := .directory true [("a.sv", .regular [] false), ("loop.sv", .link "loop.sv")]

/-- A link that leads to itself takes the whole search with it, though the file beside the link could
be listed. -/
theorem discover_loopedTree : (discover loopedTree verilog ".").outcome.value =
    .error ⟨.tooManyLinks, "./loop.sv"⟩ := by
  have hroot : loopedTree.find "." = .ok loopedTree.root := rfl
  have hproper : loopedTree.root.IsProper := by
    refine .directory (by decide) (by decide) ?_
    simp
  have hloop : loopedTree.find "./loop.sv" = .error .tooManyLinks := rfl
  have hreached : Reaches "." loopedTree.root ["loop.sv"] (.link "loop.sv") :=
    reaches_cons_iff.2 ⟨rfl, by decide, _, by simp, .here _ _⟩
  obtain ⟨paths, -, -, hfree⟩ | ⟨⟨cause, path⟩, down, g, hvalue, hreach, hhalts⟩ :=
    finds_or_halts verilog hroot hproper
  · exact absurd ⟨hloop, by simp, rfl⟩ (hfree _ _ ⟨.tooManyLinks, "./loop.sv"⟩ hreached)
  · cases down with
    | nil => exact absurd hhalts (reaches_nil_iff.1 hreach ▸ id)
    | cons name down =>
      obtain ⟨-, -, f, hmem, hrest⟩ := reaches_cons_iff.1 hreach
      simp only [List.mem_cons, List.not_mem_nil, or_false, Prod.mk.injEq] at hmem
      rcases hmem with ⟨rfl, rfl⟩ | ⟨rfl, rfl⟩
      · obtain ⟨rfl, rfl⟩ := (reaches_iff_of_not_directory (by simp)).1 hrest
        exact absurd hhalts id
      · obtain ⟨rfl, rfl⟩ := (reaches_iff_of_not_directory (by simp)).1 hrest
        obtain ⟨hcause, -, hpath⟩ := hhalts
        obtain rfl := Except.error.inj (hcause.symm.trans hloop)
        rw [hvalue]
        exact congrArg (fun path => Except.error (Error.mk _ path)) hpath

/-! ### Trees in which nothing is in the way -/

/-- A name is wanted if it has one of the endings and fits the pattern, where there is one. -/
lemma admits_iff {name : String} : s.admits name = true ↔
    (∃ e ∈ s.extensions, Text.endsWith name e = true) ∧
      ∀ pattern, s.pattern = some pattern → pattern ≠ "" →
        Text.globMatches pattern name = true := by
  rw [Selection.admits, Bool.and_eq_true, List.any_eq_true]
  refine and_congr_right fun _ => ?_
  cases s.pattern with
  | none => simp
  | some pattern => simp [or_iff_not_imp_left]

/-- All directories of a tree can be listed, and each link leads to something or nowhere. -/
structure IsOpen (fs : FileSystem) (root : String) (dir : File) : Prop where
  /-- The directories can be listed, and by paths that are not too long. -/
  directories : ∀ down readable es, dir.descend down = some (.directory readable es) →
    readable = true ∧ (below root down).utf8ByteSize < pathLimit
  /-- The links lead to something or nowhere. -/
  links : ∀ down target, dir.descend down = some (.link target) →
    (∃ g, fs.find (below root down) = .ok g) ∨ fs.find (below root down) = .error .notFound

/-- No link of such a tree ends the search. -/
lemma IsOpen.not_halts (h : IsOpen fs root dir) {e : Error} (hdown : dir.descend down = some g) :
    ¬Halts fs (below root down) e g := by
  intro hhalts
  cases g with
  | regular content executable => exact hhalts
  | directory readable es => exact hhalts
  | link target =>
    obtain ⟨hfind, hcause, -⟩ := hhalts
    obtain ⟨f, hleads⟩ | hnowhere := h.links down target hdown
    · cases hfind.symm.trans hleads
    · exact hcause (Except.error.inj (hfind.symm.trans hnowhere))

/-- **The source files of a tree.** Where all directories can be listed and each link leads to
something or nowhere, the search has a result. It has the regular files and the links to regular
files whose names are wanted, each once, in the order of the components of their paths; only
directories are on the way to them, and no links. -/
theorem discover_of_isOpen (s : Selection) (hroot : fs.find root = .ok dir)
    (hproper : dir.IsProper) (hopen : IsOpen fs root dir) :
    ∃ paths, (discover fs s root).outcome.value = .ok paths ∧
      (paths.Pairwise fun p q => components p < components q) ∧ paths.Nodup ∧
      ∀ p, p ∈ paths ↔ ∃ above name f, dir.descend (above ++ [name]) = some f ∧
        p = below root (above ++ [name]) ∧
        ((∃ content executable, f = .regular content executable) ∨
          (∃ target, f = .link target) ∧ fs.isFile p = true) ∧
        (∃ e ∈ s.extensions, Text.endsWith name e = true) ∧
        ∀ pattern, s.pattern = some pattern → pattern ≠ "" →
          Text.globMatches pattern name = true := by
  obtain ⟨paths, hvalue, hfinds, -⟩ | ⟨e, down, g, -, hreach, hhalts⟩ :=
    finds_or_halts s hroot hproper
  · refine ⟨paths, hvalue, hfinds.sorted, hfinds.sorted.imp ?_, fun p => ?_⟩
    · rintro p q hlt rfl
      exact lt_irrefl _ hlt
    · rw [hfinds.mem]
      refine exists_congr fun above => exists_congr fun name => exists_congr fun f => ?_
      rw [reaches_iff_descend hproper hopen.directories]
      refine and_congr_right fun _ => and_congr_right fun _ => ?_
      rw [← admits_iff]
      cases f with
      | regular content executable => simp [IsSource]
      | link target => simp [IsSource]
      | directory readable es => simp [IsSource]
  · rw [reaches_iff_descend hproper hopen.directories] at hreach
    exact absurd hhalts (hopen.not_halts hreach)

/-- A directory in another one, with a link to the other one, a link to a file of the other one, and
a link that leads nowhere. -/
def crossedTree : FileSystem where
  root := .directory true [("a.sv", .regular [] false),
    ("b", .directory true [("c.sv", .link "../a.sv"), ("up", .link "..")]),
    ("gone.sv", .link "none.sv")]

/-- The names in the tree differ. -/
lemma isProper_crossedTree : crossedTree.root.IsProper := by
  have hfile : IsName "c.sv" := by decide
  have hlink : IsName "up" := by decide
  refine .directory (by decide) (by decide) ?_
  simp [hfile, hlink]

/-- The places in the tree. -/
lemma descend_crossedTree (h : crossedTree.root.descend down = some f) :
    (down = [] ∧ f = crossedTree.root) ∨ (down = ["a.sv"] ∧ f = .regular [] false) ∨
      (down = ["b"] ∧ f = .directory true [("c.sv", .link "../a.sv"), ("up", .link "..")]) ∨
      (down = ["b", "c.sv"] ∧ f = .link "../a.sv") ∨ (down = ["b", "up"] ∧ f = .link "..") ∨
      (down = ["gone.sv"] ∧ f = .link "none.sv") := by
  cases down with
  | nil => exact .inl ⟨rfl, (Option.some.inj h).symm⟩
  | cons name down =>
    obtain ⟨g, hmem, hrest⟩ := (descend_cons_iff (by decide)).1 h
    simp only [List.mem_cons, List.not_mem_nil, or_false, Prod.mk.injEq] at hmem
    rcases hmem with ⟨rfl, rfl⟩ | ⟨rfl, rfl⟩ | ⟨rfl, rfl⟩
    · obtain ⟨rfl, rfl⟩ := (descend_of_not_directory (by simp)).1 hrest
      simp
    · cases down with
      | nil => exact .inr (.inr (.inl ⟨rfl, (Option.some.inj hrest).symm⟩))
      | cons name down =>
        obtain ⟨g, hmem, hrest⟩ := (descend_cons_iff (by decide)).1 hrest
        simp only [List.mem_cons, List.not_mem_nil, or_false, Prod.mk.injEq] at hmem
        rcases hmem with ⟨rfl, rfl⟩ | ⟨rfl, rfl⟩
        · obtain ⟨rfl, rfl⟩ := (descend_of_not_directory (by simp)).1 hrest
          simp
        · obtain ⟨rfl, rfl⟩ := (descend_of_not_directory (by simp)).1 hrest
          simp
    · obtain ⟨rfl, rfl⟩ := (descend_of_not_directory (by simp)).1 hrest
      simp

/-- All directories of the tree can be listed, and no link is worse than leading nowhere. -/
lemma isOpen_crossedTree : IsOpen crossedTree "." crossedTree.root := by
  constructor
  · intro down readable es hdown
    rcases descend_crossedTree hdown with
      ⟨rfl, hf⟩ | ⟨rfl, hf⟩ | ⟨rfl, hf⟩ | ⟨rfl, hf⟩ | ⟨rfl, hf⟩ | ⟨rfl, hf⟩ <;> cases hf
    · exact ⟨rfl, by decide⟩
    · exact ⟨rfl, by decide⟩
  · intro down target hdown
    rcases descend_crossedTree hdown with
      ⟨rfl, hf⟩ | ⟨rfl, hf⟩ | ⟨rfl, hf⟩ | ⟨rfl, hf⟩ | ⟨rfl, hf⟩ | ⟨rfl, hf⟩ <;> cases hf
    · exact .inl ⟨.regular [] false, rfl⟩
    · exact .inl ⟨crossedTree.root, rfl⟩
    · exact .inr rfl

/-- The file and the link to it are found, and the search does not go through the link that leads
back up. -/
theorem discover_crossedTree :
    crossedTree.find "." = .ok crossedTree.root ∧ crossedTree.root.IsProper ∧
      IsOpen crossedTree "." crossedTree.root ∧
      ∃ paths, (discover crossedTree verilog ".").outcome.value = .ok paths ∧
        (paths.Pairwise fun p q => components p < components q) ∧
        ∀ p, p ∈ paths ↔ p = "./a.sv" ∨ p = "./b/c.sv" := by
  have hroot : crossedTree.find "." = .ok crossedTree.root := rfl
  obtain ⟨paths, hvalue, hsorted, -, hmem⟩ :=
    discover_of_isOpen verilog hroot isProper_crossedTree isOpen_crossedTree
  refine ⟨hroot, isProper_crossedTree, isOpen_crossedTree, paths, hvalue, hsorted, fun p => ?_⟩
  rw [hmem]
  constructor
  · rintro ⟨above, name, f, hdown, rfl, hfile, -⟩
    have hup : crossedTree.isFile (below "." ["b", "up"]) = false := rfl
    have hgone : crossedTree.isFile (below "." ["gone.sv"]) = false := rfl
    rcases descend_crossedTree hdown with
      ⟨hnames, rfl⟩ | ⟨hnames, rfl⟩ | ⟨hnames, rfl⟩ | ⟨hnames, rfl⟩ | ⟨hnames, rfl⟩ |
        ⟨hnames, rfl⟩ <;> rw [hnames] at hfile ⊢
    · simp [crossedTree] at hfile
    · exact .inl rfl
    · simp at hfile
    · exact .inr rfl
    · simp [-below_cons, hup] at hfile
    · simp [-below_cons, hgone] at hfile
  · rintro (rfl | rfl)
    · exact ⟨[], "a.sv", _, rfl, rfl, .inl ⟨_, _, rfl⟩, by decide, by simp [verilog]⟩
    · exact ⟨["b"], "c.sv", _, rfl, rfl, .inr ⟨⟨_, rfl⟩, rfl⟩, by decide, by simp [verilog]⟩

end FlopCensus.Files
