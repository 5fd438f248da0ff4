import FlopCensus.Proofs.Design.Extraction
import FlopCensus.Proofs.Tree.Numbering
import Mathlib.Data.List.Nodup
import Mathlib.Data.Set.Card
import Mathlib.Tactic.Common

set_option autoImplicit false
set_option relaxedAutoImplicit false

/-!
# The owners of a register

Modules, declarations and variables are found by three searches, each of which goes through the
whole subtree of what the one before it has found. A variable is hence found once for each module
and each declaration around it. The elements of a tree are told apart by their numbers, so that the
registers that come from one element can be counted.

## Main definitions

* `FlopCensus.Design.Site` — where a register comes from.
* `FlopCensus.Design.Declares` — a module declares an element in one of its declarations.
* `FlopCensus.Design.sites` — the sites of the registers of a tree, in order.
* `FlopCensus.Design.contributions` — how many registers come from an element.

## Main results

* `FlopCensus.Design.map_some_registers_extract` — each extracted register is the one at its site.
* `FlopCensus.Design.contributions_eq_ncard` — an element gives one register for each declaration
  of each module that declares it.
* `FlopCensus.Design.registers_from_owners` — both, and that no element gives two registers where
  neither modules nor declarations are nested.

## Design

A `Site` names a register by numbers alone, for two modules or variables of a tree may well be equal
as trees. `sites` follows the searches of the extraction; `Declares` says the same without them.
-/

namespace FlopCensus.Design

/-- Where a register comes from, by the numbers of the elements of a tree. -/
structure Site where
  /-- The module that the register belongs to. -/
  module : ℕ
  /-- The declaration, in the body or in the header of the module. -/
  declaration : ℕ
  /-- The variable, or the identifier of a port. -/
  element : ℕ
deriving Repr, DecidableEq

/-- A module that is extracted. -/
def isNamedModule (n : Node) : Bool :=
  n.tag == moduleDeclaration && (moduleName? n).isSome

/-- The header of a module. -/
def isHeader (n : Node) : Bool :=
  n.tag == moduleHeader

/-- A data declaration whose variables store a value. -/
def isStorage (n : Node) : Bool :=
  n.tag == dataDeclaration && registerKinds.contains (declaredKind n)

/-- A variable with an identifier. -/
def isVariable (n : Node) : Bool :=
  n.tag == registerVariable && n.leaves.any isIdentifier

/-- A port whose identifiers store a value. -/
def isRegisterPort (n : Node) : Bool :=
  n.tag == portDeclaration && (isOutput n && registerKinds.contains (portKind n))

/-- An identifier that a port declares. -/
def isPortName (l : Leaf) : Bool :=
  isIdentifier l && !(portDirections ++ storageKinds).contains l.text

/-- The header of a module, by number. -/
def headerAt? (t : Tree) (m : ℕ) : Option ℕ :=
  (t.nodesBelow isHeader m).head?

/-- The sites in the body of a module. -/
def bodySites (t : Tree) (m : ℕ) : List Site :=
  (t.nodesBelow isStorage m).flatMap fun d => (t.nodesBelow isVariable d).map (Site.mk m d)

/-- The sites in the header of a module. -/
def portSites (t : Tree) (m : ℕ) : List Site :=
  (headerAt? t m).toList.flatMap fun h =>
    (t.nodesBelow isRegisterPort h).flatMap fun p => (t.tokensBelow isPortName p).map (Site.mk m p)

/-- The sites of the registers of a tree, in the order of the registers. -/
def sites (t : Tree) : List Site :=
  (t.nodesBelow isNamedModule 0).flatMap fun m => bodySites t m ++ portSites t m

/-- The number of registers that come from an element. -/
def contributions (t : Tree) (k : ℕ) : ℕ :=
  (sites t).countP (·.element == k)

/-- A module with a name declares an element, either as a variable of a data declaration in it or as
the identifier of a port in its header. -/
inductive Declares (t : Tree) : Site → Prop
  | body {m d v : ℕ} (module : m ∈ t.nodesBelow isNamedModule 0)
      (declaration : d ∈ t.nodesBelow isStorage m) (element : v ∈ t.nodesBelow isVariable d) :
      Declares t ⟨m, d, v⟩
  | port {m h p l : ℕ} (module : m ∈ t.nodesBelow isNamedModule 0) (header : headerAt? t m = some h)
      (declaration : p ∈ t.nodesBelow isRegisterPort h) (element : l ∈ t.tokensBelow isPortName p) :
      Declares t ⟨m, p, l⟩

/-- The identifier at a site. -/
def Site.identifier? (t : Tree) (s : Site) : Option Leaf :=
  match t.nodeAt? s.element with
  | some v => v.leaves.find? isIdentifier
  | none => t.tokenAt? s.element

/-- The register at a site. -/
def Site.register? (t : Tree) (source : List UInt8) (file : String) (s : Site) :
    Option Register := do
  let module ← moduleName? (← t.nodeAt? s.module)
  let declaration ← t.nodeAt? s.declaration
  let name ← s.identifier? t
  return Place.register { source, file, module } (declaredWidth declaration).value name

/-- Nodes that satisfy a condition are not nested. -/
def Apart (t : Tree) (p : Node → Bool) : Prop :=
  ∀ i ∈ t.nodesBelow p 0, ∀ j ∈ t.nodesBelow p i, j = i

instance (t : Tree) (p : Node → Bool) : Decidable (Apart t p) :=
  inferInstanceAs (Decidable (∀ i ∈ t.nodesBelow p 0, ∀ j ∈ t.nodesBelow p i, j = i))

/-! ### The registers at their sites -/

/-- What is made of the things that some numbers stand for is made of the numbers. -/
lemma flatMap_filterMap {α β γ : Type} {g : α → Option β} {F : β → List γ} {G : α → List γ}
    {l : List α} (h : ∀ a ∈ l, ∃ b, g a = some b ∧ F b = G a) :
    (l.filterMap g).flatMap F = l.flatMap G := by
  induction l with
  | nil => rfl
  | cons a l ih =>
    obtain ⟨b, hb, hG⟩ := h a List.mem_cons_self
    rw [List.filterMap_cons_some hb, List.flatMap_cons, List.flatMap_cons, hG,
      ih fun a ha => h a (List.mem_cons_of_mem _ ha)]

/-- Declarations that are passed over may be left out beforehand. -/
lemma flatMap_ite_nil {α β : Type} (p : α → Bool) (F : α → List β) (l : List α) :
    (l.flatMap fun a => if p a then F a else []) = (l.filter p).flatMap F := by
  induction l with
  | nil => rfl
  | cons a l ih => by_cases ha : p a = true <;> simp [ha, ih]

/-- A variable declares its first identifier. -/
lemma declaredNames_eq (d : Node) : declaredNames d =
    ((d.nodesTagged registerVariable).filter fun v => v.leaves.any isIdentifier).flatMap
      fun v => (v.leaves.find? isIdentifier).toList := by
  rw [declaredNames, List.filterMap_eq_flatMap_toList, ← flatMap_ite_nil]
  refine List.flatMap_congr fun v _ => ?_
  cases hv : v.leaves.find? isIdentifier with
  | some l =>
    have hany : v.leaves.any isIdentifier = true :=
      List.any_eq_true.2 ⟨l, List.mem_of_find?_eq_some hv, List.find?_some hv⟩
    rw [if_pos hany]
  | none => simp

section Registers

variable {t : Tree} {source : List UInt8} {file : String}

/-- The registers of a data declaration, at their sites. -/
lemma map_some_data {m d : ℕ} {module declaration : Node} {name : String}
    (hm : t.nodeAt? m = some module) (hname : moduleName? module = some name)
    (hd : t.nodeAt? d = some declaration) :
    (declaredNames declaration).map (fun l => some
        (Place.register ⟨source, file, name⟩ (declaredWidth declaration).value l)) =
      ((t.nodesBelow isVariable d).map (Site.mk m d)).map (Site.register? t source file) := by
  rw [declaredNames_eq, ← Tree.filterMap_nodeAt?_tagged hd, List.map_flatMap, List.map_map,
    List.map_eq_flatMap]
  refine flatMap_filterMap fun k hk => ?_
  obtain ⟨-, v, hv, hvariable⟩ := Tree.mem_nodesBelow.1 hk
  obtain ⟨l, hl⟩ : ∃ l, v.leaves.find? isIdentifier = some l :=
    Option.isSome_iff_exists.1 (List.find?_isSome.2
      (List.any_eq_true.1 (Bool.and_eq_true_iff.1 hvariable).2))
  refine ⟨v, hv, ?_⟩
  simp [Site.register?, Site.identifier?, hm, hname, hd, hv, hl]

/-- The registers of a port, at their sites. -/
lemma map_some_port {m p : ℕ} {module port : Node} {name : String}
    (hm : t.nodeAt? m = some module) (hname : moduleName? module = some name)
    (hp : t.nodeAt? p = some port) :
    (portNames port).map (fun l => some
        (Place.register ⟨source, file, name⟩ (declaredWidth port).value l)) =
      ((t.tokensBelow isPortName p).map (Site.mk m p)).map (Site.register? t source file) := by
  have hnames : portNames port = (t.tokensBelow isPortName p).filterMap t.tokenAt? :=
    (Tree.filterMap_tokenAt?_tokensBelow (Tree.part?_of_nodeAt? hp) isPortName).symm
  rw [hnames, List.map_map, List.map_eq_flatMap, List.map_eq_flatMap]
  refine flatMap_filterMap fun k hk => ?_
  obtain ⟨-, l, hl, -⟩ := Tree.mem_tokensBelow.1 hk
  refine ⟨l, hl, ?_⟩
  simp [Site.register?, Site.identifier?, hm, hname, hp, Tree.nodeAt?_of_tokenAt? hl, hl]

/-- The registers in the body of a module, at their sites. -/
lemma map_some_body {m : ℕ} {module : Node} {name : String}
    (hm : t.nodeAt? m = some module) (hname : moduleName? module = some name) :
    ((module.nodesTagged dataDeclaration).flatMap
        fun d => (ofData ⟨source, file, name⟩ d).value).map some =
      (bodySites t m).map (Site.register? t source file) := by
  simp only [value_ofData]
  rw [flatMap_ite_nil, ← Tree.filterMap_nodeAt?_tagged hm, List.map_flatMap, bodySites,
    List.map_flatMap]
  refine flatMap_filterMap fun k hk => ?_
  obtain ⟨-, d, hd, -⟩ := Tree.mem_nodesBelow.1 hk
  refine ⟨d, hd, ?_⟩
  rw [List.map_map]
  exact map_some_data hm hname hd

/-- The ports of a module are those below its header. -/
lemma headerPorts_eq {m : ℕ} {module : Node} (hm : t.nodeAt? m = some module) :
    (headerAt? t m = none ∧ headerPorts module = []) ∨
      ∃ h header, headerAt? t m = some h ∧ t.nodeAt? h = some header ∧
        headerPorts module = header.nodesTagged portDeclaration := by
  have hheaders : (t.nodesBelow isHeader m).filterMap t.nodeAt? =
      module.nodesTagged moduleHeader :=
    Tree.filterMap_nodeAt?_nodesBelow (Tree.part?_of_nodeAt? hm) isHeader
  have hfirst : headerPorts module = (module.nodesTagged moduleHeader).head?.elim []
      (·.nodesTagged portDeclaration) := by
    rw [headerPorts, Node.firstTagged?, Tree.firstTagged?, ← Node.nodesTagged]
    cases (module.nodesTagged moduleHeader).head? <;> rfl
  rw [hfirst, ← hheaders, headerAt?]
  cases hnumbers : t.nodesBelow isHeader m with
  | nil => exact .inl ⟨rfl, rfl⟩
  | cons h rest =>
    obtain ⟨-, header, hh, -⟩ := Tree.mem_nodesBelow.1 (hnumbers ▸ List.mem_cons_self)
    refine .inr ⟨h, header, rfl, hh, ?_⟩
    rw [List.filterMap_cons_some hh]
    rfl

/-- The registers in the header of a module, at their sites. -/
lemma map_some_header {m : ℕ} {module : Node} {name : String}
    (hm : t.nodeAt? m = some module) (hname : moduleName? module = some name) :
    ((headerPorts module).flatMap fun p => (ofPort ⟨source, file, name⟩ p).value).map some =
      (portSites t m).map (Site.register? t source file) := by
  simp only [value_ofPort]
  obtain ⟨hnone, hports⟩ | ⟨h, header, hsome, hh, hports⟩ := headerPorts_eq hm
  · rw [hports, portSites, hnone]
    rfl
  · rw [hports, flatMap_ite_nil, ← Tree.filterMap_nodeAt?_tagged hh, List.map_flatMap, portSites,
      hsome, Option.toList_some, List.flatMap_cons, List.flatMap_nil, List.append_nil,
      List.map_flatMap]
    refine flatMap_filterMap fun k hk => ?_
    obtain ⟨-, p, hp, -⟩ := Tree.mem_nodesBelow.1 hk
    refine ⟨p, hp, ?_⟩
    rw [List.map_map]
    exact map_some_port hm hname hp

end Registers

/-- The registers of the extractions of several modules. -/
lemma flatMap_registers (modules : List Node) (source : List UInt8) (file : String) :
    (modules.filterMap fun m => (extractModule m source file).value.toOption).flatMap
        (·.registers) =
      (modules.filter fun m => (moduleName? m).isSome).flatMap fun m =>
        registersOf ⟨source, file, (moduleName? m).getD ""⟩ m := by
  rw [List.filterMap_eq_flatMap_toList, List.flatMap_assoc, ← flatMap_ite_nil]
  refine List.flatMap_congr fun m _ => ?_
  rw [value_extractModule]
  cases moduleName? m with
  | none => rfl
  | some name => exact List.append_nil _

/-- **Each extracted register is the one at its site.** -/
theorem map_some_registers_extract (root : Node) (source : List UInt8) (file : String) :
    ((extract root source file).value.flatMap (·.registers)).map some =
      (sites root.toTree).map (Site.register? root.toTree source file) := by
  have hroot : root.toTree.nodeAt? 0 = some root := by
    rw [Tree.nodeAt?, Tree.part?_zero]
    rfl
  rw [value_extract, flatMap_registers, ← Tree.filterMap_nodeAt?_tagged hroot, List.map_flatMap,
    sites, List.map_flatMap]
  refine flatMap_filterMap fun m hm => ?_
  obtain ⟨-, module, hmodule, hnamed⟩ := Tree.mem_nodesBelow.1 hm
  obtain ⟨name, hname⟩ := Option.isSome_iff_exists.1 (Bool.and_eq_true_iff.1 hnamed).2
  refine ⟨module, hmodule, ?_⟩
  rw [hname, Option.getD_some, registersOf, List.map_append, map_some_body hmodule hname,
    map_some_header hmodule hname, ← List.map_append]

/-! ### Counting the sites -/

section Counting

variable {t : Tree}

/-- The sites are those where a module declares an element. -/
lemma mem_sites {s : Site} : s ∈ sites t ↔ Declares t s := by
  simp only [sites, bodySites, portSites, List.mem_flatMap, List.mem_append, List.mem_map,
    Option.mem_toList]
  constructor
  · rintro ⟨m, hm, ⟨d, hd, v, hv, rfl⟩ | ⟨h, hh, p, hp, l, hl, rfl⟩⟩
    · exact .body hm hd hv
    · exact .port hm hh hp hl
  · rintro (⟨hm, hd, hv⟩ | ⟨hm, hh, hp, hl⟩)
    · exact ⟨_, hm, .inl ⟨_, hd, _, hv, rfl⟩⟩
    · exact ⟨_, hm, .inr ⟨_, hh, _, hp, _, hl, rfl⟩⟩

/-- Lists are joined without repetition if each of their entries tells from which one it is. -/
lemma nodup_flatMap_of_key {α β : Type} {l : List α} {f : α → List β} (key : β → α) (hl : l.Nodup)
    (hf : ∀ a ∈ l, (f a).Nodup) (hkey : ∀ a, ∀ b ∈ f a, key b = a) : (l.flatMap f).Nodup := by
  refine List.nodup_flatMap.2 ⟨hf, hl.imp fun hne b hb hb' => hne ?_⟩
  exact (hkey _ b hb).symm.trans (hkey _ b hb')

/-- The sites in the body of a module are distinct. -/
lemma nodup_bodySites (t : Tree) (m : ℕ) : (bodySites t m).Nodup := by
  refine nodup_flatMap_of_key Site.declaration (t.nodup_nodesBelow _ _) (fun d _ => ?_) ?_
  · exact (t.nodup_nodesBelow _ _).map fun v v' h => congrArg Site.element h
  · rintro d s hs
    obtain ⟨v, -, rfl⟩ := List.mem_map.1 hs
    rfl

/-- The sites in the header of a module are distinct. -/
lemma nodup_portSites (t : Tree) (m : ℕ) : (portSites t m).Nodup := by
  rw [portSites]
  cases headerAt? t m with
  | none => exact List.nodup_nil
  | some h =>
    rw [Option.toList_some, List.flatMap_cons, List.flatMap_nil, List.append_nil]
    refine nodup_flatMap_of_key Site.declaration (t.nodup_nodesBelow _ _) (fun p _ => ?_) ?_
    · exact (t.nodup_tokensBelow _ _).map fun l l' h => congrArg Site.element h
    · rintro p s hs
      obtain ⟨l, -, rfl⟩ := List.mem_map.1 hs
      rfl

/-- A variable is a node, and what a port declares is a token. -/
lemma disjoint_body_port (t : Tree) (m : ℕ) : (bodySites t m).Disjoint (portSites t m) := by
  intro s hbody hport
  simp only [bodySites, portSites, List.mem_flatMap, List.mem_map] at hbody hport
  obtain ⟨d, -, v, hv, rfl⟩ := hbody
  obtain ⟨h, -, p, -, l, hl, heq⟩ := hport
  obtain rfl : l = v := congrArg Site.element heq
  obtain ⟨-, n, hn, -⟩ := Tree.mem_nodesBelow.1 hv
  obtain ⟨-, token, htoken, -⟩ := Tree.mem_tokensBelow.1 hl
  rw [Tree.nodeAt?_of_tokenAt? htoken] at hn
  contradiction

/-- **No site is listed twice.** -/
theorem nodup_sites (t : Tree) : (sites t).Nodup := by
  refine nodup_flatMap_of_key Site.module (t.nodup_nodesBelow _ _) (fun m _ => ?_) ?_
  · exact (nodup_bodySites t m).append (nodup_portSites t m) (disjoint_body_port t m)
  · rintro m s hs
    simp only [bodySites, portSites, List.mem_append, List.mem_flatMap, List.mem_map] at hs
    obtain ⟨d, -, v, -, rfl⟩ | ⟨h, -, p, -, l, -, rfl⟩ := hs
    · rfl
    · rfl

/-- **An element gives one register for each declaration of each module that declares it.** -/
theorem contributions_eq_ncard (t : Tree) (k : ℕ) :
    contributions t k = {s | Declares t s ∧ s.element = k}.ncard := by
  have hset : {s | Declares t s ∧ s.element = k} =
      ↑((sites t).filter (·.element == k)).toFinset := by
    ext s
    simp [mem_sites]
  rw [hset, Set.ncard_coe_finset, List.toFinset_card_of_nodup ((nodup_sites t).filter _),
    contributions, List.countP_eq_length_filter]

/-- A node that is found below an element is found below the root. -/
lemma mem_nodesBelow_root {p : Node → Bool} {i k : ℕ} (h : k ∈ t.nodesBelow p i) :
    k ∈ t.nodesBelow p 0 := by
  obtain ⟨-, n, hn, hp⟩ := Tree.mem_nodesBelow.1 h
  exact Tree.mem_nodesBelow.2 ⟨Tree.mem_numbers_zero (Tree.part?_of_nodeAt? hn), n, hn, hp⟩

/-- Of two nodes that are not nested, only one encloses an element. -/
lemma Apart.eq {p : Node → Bool} (h : Apart t p) {i j k : ℕ} (hi : i ∈ t.nodesBelow p 0)
    (hj : j ∈ t.nodesBelow p 0) (hik : k ∈ t.numbers i) (hjk : k ∈ t.numbers j) : i = j := by
  obtain hij | hji := Nat.le_total i j
  · exact (h i hi j (Tree.mem_nodesBelow.2
      ⟨Tree.mem_numbers_of_le hik hjk hij, (Tree.mem_nodesBelow.1 hj).2⟩)).symm
  · exact h j hj i (Tree.mem_nodesBelow.2
      ⟨Tree.mem_numbers_of_le hjk hik hji, (Tree.mem_nodesBelow.1 hi).2⟩)

/-- What declares and what is declared are at or below the module. -/
lemma Declares.enclosed {s : Site} (h : Declares t s) :
    s.module ∈ t.nodesBelow isNamedModule 0 ∧ s.declaration ∈ t.numbers s.module ∧
      s.element ∈ t.numbers s.declaration := by
  cases h with
  | body hm hd hv => exact ⟨hm, (Tree.mem_nodesBelow.1 hd).1, (Tree.mem_nodesBelow.1 hv).1⟩
  | port hm hh hp hl =>
    have hheader := (Tree.mem_nodesBelow.1 (List.mem_of_mem_head? hh)).1
    exact ⟨hm, Tree.mem_numbers_trans hheader (Tree.mem_nodesBelow.1 hp).1,
      (Tree.mem_tokensBelow.1 hl).1⟩

/-- A variable is declared by a data declaration, and a token by a port. -/
lemma Declares.kind {s : Site} (h : Declares t s) :
    ((t.tokenAt? s.element).isSome = false ∧ s.declaration ∈ t.nodesBelow isStorage 0) ∨
      ((t.tokenAt? s.element).isSome = true ∧ s.declaration ∈ t.nodesBelow isRegisterPort 0) := by
  cases h with
  | body hm hd hv =>
    obtain ⟨-, n, hn, -⟩ := Tree.mem_nodesBelow.1 hv
    refine .inl ⟨?_, mem_nodesBelow_root hd⟩
    by_contra htoken
    obtain ⟨l, hl⟩ := Option.isSome_iff_exists.1 (Bool.eq_true_of_not_eq_false htoken)
    rw [Tree.nodeAt?_of_tokenAt? hl] at hn
    contradiction
  | port hm hh hp hl =>
    obtain ⟨-, l, hl, -⟩ := Tree.mem_tokensBelow.1 hl
    exact .inr ⟨Option.isSome_iff_exists.2 ⟨l, hl⟩, mem_nodesBelow_root hp⟩

/-- A variable has one owner where neither modules nor data declarations are nested, and what a port
declares has one where neither modules nor ports are nested. -/
lemma Declares.eq {s s' : Site} (hmodules : Apart t isNamedModule) (hdata : Apart t isStorage)
    (hports : (t.tokenAt? s.element).isSome → Apart t isRegisterPort) (h : Declares t s)
    (h' : Declares t s') (heq : s.element = s'.element) : s = s' := by
  obtain ⟨hmodule, hdeclaration, helement⟩ := h.enclosed
  obtain ⟨hmodule', hdeclaration', helement'⟩ := h'.enclosed
  rw [← heq] at helement'
  -- the element is a token or it is not, so both declarations are of one kind
  have hsame : s.declaration = s'.declaration := by
    obtain ⟨htoken, hd⟩ | ⟨htoken, hp⟩ := h.kind
    · obtain ⟨-, hd'⟩ | ⟨htoken', -⟩ := h'.kind
      · exact hdata.eq hd hd' helement helement'
      · rw [← heq, htoken] at htoken'
        contradiction
    · obtain ⟨htoken', -⟩ | ⟨-, hp'⟩ := h'.kind
      · rw [← heq, htoken] at htoken'
        contradiction
      · exact (hports htoken).eq hp hp' helement helement'
  rw [← hsame] at hdeclaration'
  have howner : s.module = s'.module := hmodules.eq hmodule hmodule' hdeclaration hdeclaration'
  cases s
  cases s'
  simp_all

/-- **No element gives two registers** where neither modules nor declarations are nested. -/
theorem contributions_le_one {k : ℕ} (hmodules : Apart t isNamedModule) (hdata : Apart t isStorage)
    (hports : (t.tokenAt? k).isSome → Apart t isRegisterPort) : contributions t k ≤ 1 := by
  rw [contributions_eq_ncard]
  have hsub : {s | Declares t s ∧ s.element = k}.Subsingleton := by
    rintro s ⟨hs, rfl⟩ s' ⟨hs', heq⟩
    exact hs.eq hmodules hdata hports hs' heq.symm
  exact (Set.ncard_le_one hsub.finite).2 fun s hs s' hs' => hsub hs hs'

end Counting

/-! ### The registers of a tree -/

/-- Roles leave the widths as they are. -/
@[simp] lemma width_roleIn (blocks : List Node) (r : Register) :
    (roleIn blocks r).width = r.width := by
  rw [roleIn]
  split
  · rfl
  · split
    · rfl
    · split <;> rfl

/-- **The registers of a tree and their owners.** Each register comes from a site, no two of them
from the same one, and an element has a site for each declaration of each module that declares it.
Hence no variable is counted twice where neither modules nor data declarations are nested, and
nothing that a port declares is where ports are not nested either. -/
theorem registers_from_owners (root : Node) (source : List UInt8) (file : String) :
    ((extract root source file).value.flatMap (·.registers)).map some =
        (sites root.toTree).map (Site.register? root.toTree source file) ∧
      (inventoryOf root source file).value.totalRegisters = (sites root.toTree).length ∧
      (inventoryOf root source file).value.totalBits = ((sites root.toTree).map fun s =>
        (s.register? root.toTree source file).elim 0 (·.width)).sum ∧
      (∀ k, contributions root.toTree k =
        {s | Declares root.toTree s ∧ s.element = k}.ncard) ∧
      (Apart root.toTree isNamedModule → Apart root.toTree isStorage → ∀ k,
        ((root.toTree.tokenAt? k).isSome → Apart root.toTree isRegisterPort) →
          contributions root.toTree k ≤ 1) := by
  have hregisters := map_some_registers_extract root source file
  -- a register keeps its width when it gets its role
  have hwidths : (inventoryOf root source file).value.registers.map (·.width) =
      ((extract root source file).value.flatMap (·.registers)).map (·.width) := by
    rw [value_inventoryOf, List.map_flatMap, List.map_flatMap]
    refine List.flatMap_congr fun e _ => ?_
    rw [List.map_map]
    exact List.map_congr_left fun r _ => width_roleIn _ r
  refine ⟨hregisters, ?_, ?_, contributions_eq_ncard _, fun hmodules hdata k hports =>
    contributions_le_one hmodules hdata hports⟩
  · have hlength := congrArg List.length hregisters
    have hsame := congrArg List.length hwidths
    rw [List.length_map, List.length_map] at hlength hsame
    rw [Inventory.totalRegisters, hsame, hlength]
  · have hbits : ((extract root source file).value.flatMap (·.registers)).map (·.width) =
        (sites root.toTree).map fun s =>
          (s.register? root.toTree source file).elim 0 (·.width) := by
      have helim := congrArg (List.map (Option.elim · 0 Register.width)) hregisters
      rw [List.map_map, List.map_map] at helim
      exact helim
    rw [Inventory.totalBits, hwidths, hbits]
    rfl

/-- The header of a module with a name. -/
def sampleHeader (name : String) (start : ℕ) : Tree :=
  .node moduleHeader
    [.leaf ⟨"module", "module", start, start + 6⟩, .leaf ⟨identifier, name, start + 7, start + 8⟩]

/-- The declaration of the register `q`. -/
def sampleData (start : ℕ) : Tree :=
  .node dataDeclaration
    [.leaf ⟨"reg", "reg", start, start + 3⟩,
      .node registerVariable [.leaf ⟨identifier, "q", start + 4, start + 5⟩]]

/-- Two modules side by side, each with a register `q`. -/
def sideBySide : Node where
  tag := "kDescriptionList"
  children :=
    [.node moduleDeclaration [sampleHeader "m" 0, sampleData 12],
      .node moduleDeclaration [sampleHeader "n" 30, sampleData 42]]

/-- A module around another one, which has a register `q`. -/
def nestedModules : Node where
  tag := "kDescriptionList"
  children :=
    [.node moduleDeclaration [sampleHeader "m" 0,
      .node moduleDeclaration [sampleHeader "n" 12, sampleData 26]]]

/-- Each of the two registers is counted once in modules side by side. -/
theorem contributions_sideBySide :
    (inventoryOf sideBySide [] "f.sv").value.totalRegisters = 2 ∧
      contributions sideBySide.toTree 7 ≤ 1 ∧ contributions sideBySide.toTree 15 ≤ 1 := by
  have hmodules : Apart sideBySide.toTree isNamedModule := by decide +kernel
  have hdata : Apart sideBySide.toTree isStorage := by decide +kernel
  have hports : Apart sideBySide.toTree isRegisterPort := by decide +kernel
  obtain ⟨-, -, -, -, hcount⟩ := registers_from_owners sideBySide [] "f.sv"
  exact ⟨by decide +kernel, hcount hmodules hdata 7 fun _ => hports,
    hcount hmodules hdata 15 fun _ => hports⟩

/-- **The inner register is counted once more for the outer module.** -/
theorem contributions_nestedModules :
    contributions nestedModules.toTree 11 = 2 ∧
      (inventoryOf nestedModules [] "f.sv").value.totalRegisters = 2 ∧
      (inventoryOf nestedModules [] "f.sv").value.modules.map (·.registerCount) = [1, 1] := by
  decide +kernel

end FlopCensus.Design
