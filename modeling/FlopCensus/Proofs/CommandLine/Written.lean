import FlopCensus.Proofs.CommandLine.Grammar
import FlopCensus.Proofs.Text.Run
import Mathlib.Tactic.Common

set_option autoImplicit false
set_option relaxedAutoImplicit false

/-!
# Options written in full

An option can be written by its name in full, with its argument behind `=`. Such options are read as
they were written, whatever their arguments are, and carried out one after the other. What can be
set at all can therefore be set by options written in full.

## Main definitions

* `FlopCensus.CommandLine.Setting` — an option written in full, with its argument.
* `FlopCensus.CommandLine.Grammar.IsPlain` — a grammar whose names can be told from arguments.
* `FlopCensus.CommandLine.Grammar.IsApartFrom` — grammars whose names do not get in each other's
  way.
* `FlopCensus.CommandLine.Grammar.Reaches` — what options written in full can do.

## Main results

* `FlopCensus.CommandLine.Grammar.roleOf_text` — an option written in full is taken for that option.
* `FlopCensus.CommandLine.Grammar.read_settings` — options written in full are read back.
* `FlopCensus.CommandLine.Grammar.exists_roleOf_text` — they can be told apart by another grammar as
  well.
* `FlopCensus.CommandLine.Grammar.exists_reaches` — an option that can be carried out can be
  written.
-/

namespace FlopCensus.CommandLine

/-- An option written by its name in full, with its argument if it has one. -/
structure Setting (α : Type) where
  option : Opt α
  name : String
  argument : Option String

variable {α : Type} {g : Grammar α} {x : Setting α}

namespace Setting

/-- The argument of the command line. -/
def text (x : Setting α) : String :=
  match x.argument with
  | none => x.name
  | some s => x.name ++ "=" ++ s

/-- What the argument is taken for. -/
def role (x : Setting α) : Role α :=
  .option { option := x.option, name := x.name, text := x.argument }

/-- The option is one of a grammar and has an argument if it needs one. -/
structure IsOf (x : Setting α) (g : Grammar α) : Prop where
  /-- The grammar has the name. -/
  found : g.find? x.name = some x.option
  /-- Two hyphens and more make the name. -/
  long : Text.opensWith x.name "--" ∧ x.name ≠ "--"
  /-- The argument is there if it has to be. -/
  argument : x.argument.isSome = Grammar.hasArgument x.option

/-- Two hyphens and more make the argument of the command line. -/
lemma IsOf.toList_text (hx : x.IsOf g) : ∃ c rest, x.text.toList = '-' :: '-' :: c :: rest := by
  obtain ⟨c, rest, hname⟩ : ∃ c rest, x.name.toList = '-' :: '-' :: c :: rest := by
    obtain ⟨hopens, hne⟩ := hx.long
    obtain ⟨rest, hrest⟩ := List.isPrefixOf_iff_prefix.1 hopens
    cases rest with
    | nil => exact absurd (String.toList_inj.1 hrest.symm) hne
    | cons c rest => exact ⟨c, rest, hrest.symm⟩
  rw [text]
  cases x.argument with
  | none => exact ⟨c, rest, hname⟩
  | some s => exact ⟨c, rest ++ '=' :: s.toList, by simp [hname]⟩

end Setting

namespace Grammar

variable {p q r : Progress α} {items : List (String × Role α)}

/-- No name holds an equals sign. -/
def IsPlain (g : Grammar α) : Prop :=
  ∀ o ∈ g.options, ∀ n ∈ o.names, '=' ∉ n.toList

/-- What is found under a name has no equals sign in the name. -/
lemma IsPlain.not_mem_of_find? (hg : g.IsPlain) {n : String} {o : Opt α} (h : g.find? n = some o) :
    '=' ∉ n.toList :=
  hg o (mem_of_find? h).1 n (mem_of_find? h).2

/-- An option written in full is cut into its name and its argument. -/
lemma cutAtEquals_text (h : '=' ∉ x.name.toList) : cutAtEquals x.text = (x.name, x.argument) := by
  unfold cutAtEquals
  cases hargument : x.argument with
  | none =>
    have htext : x.text = x.name := by rw [Setting.text, hargument]
    have hall : x.name.toList.takeWhile (· != '=') = x.name.toList :=
      List.takeWhile_eq_self_iff.2 (Text.forall_bne_of_not_mem h)
    simp only [htext, hall, List.drop_length]
  | some s =>
    have htext : x.text.toList = x.name.toList ++ '=' :: s.toList := by
      simp [Setting.text, hargument]
    simp only [htext, Text.takeWhile_bne_append h, List.drop_left, String.ofList_toList]

/-- **An option written in full is taken for that option**, with its argument. -/
lemma roleOf_text (hg : g.IsPlain) (hx : x.IsOf g) : g.roleOf x.text = .ok x.role := by
  obtain ⟨c, rest, hlong⟩ := hx.toList_text
  have hplain : '=' ∉ x.name.toList := hg.not_mem_of_find? hx.found
  have hcut : cutAtEquals x.text = (x.name, x.argument) := cutAtEquals_text hplain
  unfold roleOf
  cases hargument : x.argument with
  | none =>
    have htext : x.text = x.name := by rw [Setting.text, hargument]
    have hfound : g.find? x.text = some x.option := htext ▸ hx.found
    simp only [hlong, hfound, Setting.role, hargument]
    rw [htext]
  | some s =>
    have hnone : g.find? x.text = none := by
      rw [← Option.not_isSome_iff_eq_none, Option.isSome_iff_exists]
      rintro ⟨o, ho⟩
      exact hg.not_mem_of_find? ho (by simp [Setting.text, hargument])
    simp only [hlong, hnone, hcut, hx.found, Setting.role, hargument]

/-- Options written in full are taken for those options. -/
lemma roles_settings (hg : g.IsPlain) {settings : List (Setting α)}
    (hsettings : ∀ x ∈ settings, x.IsOf g) (arguments : List String) :
    g.roles (settings.map (·.text) ++ arguments) =
      (g.roles arguments).map (settings.map (fun x => (x.text, x.role)) ++ ·) := by
  induction settings with
  | nil => cases h : g.roles arguments <;> simp [h, Except.map]
  | cons x settings ih =>
    obtain ⟨hx, hrest⟩ := List.forall_mem_cons.1 hsettings
    have hne : ¬(x.text == "--") := by
      obtain ⟨c, rest, hlong⟩ := hx.toList_text
      intro heq
      rw [eq_of_beq heq] at hlong
      cases hlong
    rw [List.map_cons, List.cons_append, roles, if_neg hne, roleOf_text hg hx, ih hrest]
    cases g.roles arguments <;> rfl

/-- An option written in full is carried out with its argument. -/
lemma readItems_setting (n : ℕ) (p : Progress α) (hx : x.IsOf g)
    (items : List (String × Role α)) :
    g.readItems (n + 1) p ((x.text, x.role) :: items) =
      apply p x.option x.argument >>= fun p => g.readItems n p items := by
  have hargument := hx.argument
  have hread : g.readWritten (nextValue? items) (x.text.length + 1)
      { option := x.option, name := x.name, text := x.argument } [] =
        .ok { options := [(x.option, x.argument)] } := by
    unfold readWritten
    cases hx' : x.argument with
    | none =>
      rw [hx'] at hargument
      simp [← hargument]
    | some s =>
      rw [hx'] at hargument
      simp [← hargument]
  rw [Setting.role, readItems_option, hread]
  change ((apply p x.option x.argument >>= pure) >>= fun p => g.readItems n p items) = _
  rw [bind_pure]

/-- Options written in full are carried out one after the other. -/
lemma readItems_settings (n : ℕ) (p : Progress α) {settings : List (Setting α)}
    (hsettings : ∀ x ∈ settings, x.IsOf g) (items : List (String × Role α)) :
    g.readItems (n + settings.length) p (settings.map (fun x => (x.text, x.role)) ++ items) =
      applyAll p (settings.map fun x => (x.option, x.argument)) >>= fun p =>
        g.readItems n p items := by
  induction settings generalizing p with
  | nil => rfl
  | cons x settings ih =>
    obtain ⟨hx, hrest⟩ := List.forall_mem_cons.1 hsettings
    rw [List.map_cons, List.cons_append, List.length_cons, ← Nat.add_assoc,
      readItems_setting _ _ hx]
    simp only [ih _ hrest]
    rw [applyAll, List.map_cons, List.foldlM_cons, bind_assoc]
    rfl

/-- **Options written in full are read back**, and what stands behind them is read with what they
have set. -/
theorem read_settings (hg : g.IsPlain) {settings : List (Setting α)}
    (hsettings : ∀ x ∈ settings, x.IsOf g) {values : α} {arguments : List String}
    (hq : applyAll { values } (settings.map fun x => (x.option, x.argument)) = .ok q)
    (hitems : g.roles arguments = .ok items)
    (hr : g.readItems (items.length + 1) q items = .ok r)
    (hoperand : r.operand = none → ∀ name, g.operand ≠ .one name) :
    g.read values (settings.map (·.text) ++ arguments) = .ok r := by
  have hroles : g.roles (settings.map (·.text) ++ arguments) =
      .ok (settings.map (fun x => (x.text, x.role)) ++ items) := by
    rw [roles_settings hg hsettings, hitems]
    rfl
  have hread : ∀ n, (settings.map (fun x => (x.text, x.role)) ++ items).length < n →
      g.readItems n { values } (settings.map (fun x => (x.text, x.role)) ++ items) = .ok r := by
    intro n hn
    rw [readItems_eq_of_lt hn (m := items.length + 1 + settings.length) (by simp; omega),
      readItems_settings _ _ hsettings, hq]
    exact hr
  refine bind_eq_ok.2 ⟨_, hroles, bind_eq_ok.2 ⟨r, hread _ (by omega), ?_⟩⟩
  split
  · rename_i name hone hnone
    exact absurd hone (hoperand hnone name)
  · rfl

/-! ### What stands behind the options -/

/-- Nothing has to stand behind the options. -/
lemma readItems_nil (n : ℕ) (p : Progress α) : g.readItems (n + 1) p [] = .ok p := by
  have htake : g.takeOperand p [] = (p, []) := by
    unfold takeOperand
    split <;> rfl
  rw [readItems_plain n p (by simp), htake]
  simp [plainFront]

/-- One argument stands behind `--`. -/
lemma readItems_one {name : String} (hg : g.operand = .one name) (hp : p.operand = none) (n : ℕ)
    (s : String) :
    g.readItems (n + 1) p [("--", .dashes), (s, .plain)] = .ok { p with operand := some [s] } := by
  have htake : g.takeOperand p [("--", .dashes), (s, .plain)] =
      ({ p with operand := some [s] }, []) := by
    unfold takeOperand
    rw [hg, hp]
  rw [readItems_plain n p (by simp [Role.isOption]), htake]
  simp [plainFront, Role.isOption]

/-- A command takes everything behind it. -/
lemma readItems_command {name : String} (hg : g.operand = .command name) (hp : p.operand = none)
    (n : ℕ) (s : String) (items : List (String × Role α)) :
    g.readItems (n + 2) p ((s, .plain) :: items) =
      .ok { p with operand := some (s :: items.map (·.1)) } := by
  have htake : g.takeOperand p ((s, .plain) :: items) =
      ({ p with operand := some (s :: items.map (·.1)) }, []) := by
    unfold takeOperand
    rw [hg, hp]
    rfl
  rw [readItems_plain (n + 1) p (by simp [Role.isOption]), htake]
  split
  · simp
  · rw [if_pos (by simp), readItems_nil]

/-- Telling arguments apart leaves them as they are. -/
lemma texts_of_roles {arguments : List String} (h : g.roles arguments = .ok items) :
    items.map (·.1) = arguments := by
  induction arguments generalizing items with
  | nil =>
    cases h
    rfl
  | cons s arguments ih =>
    rw [roles] at h
    split at h
    · cases h
      simp [Function.comp_def]
    · obtain ⟨role, -, h⟩ := bind_eq_ok.1 h
      obtain ⟨rest, hrest, h⟩ := bind_eq_ok.1 h
      cases h
      rw [List.map_cons, ih hrest]

/-- Arguments in front can be told apart if each of them can. -/
lemma exists_roles_append {front back : List String}
    (hfront : ∀ s ∈ front, ∃ role, g.roleOf s = .ok role) (hback : g.roles back = .ok items) :
    ∃ items', g.roles (front ++ back) = .ok items' := by
  induction front with
  | nil => exact ⟨items, hback⟩
  | cons s front ih =>
    obtain ⟨⟨role, hrole⟩, hrest⟩ := List.forall_mem_cons.1 hfront
    obtain ⟨items', hitems'⟩ := ih hrest
    rw [List.cons_append, roles]
    split
    · exact ⟨_, rfl⟩
    · exact ⟨(s, role) :: items', by rw [hrole, hitems']; rfl⟩

/-- A name that both grammars have or that begins no name of the first one. -/
def IsApartFrom {β : Type} (g : Grammar α) (g' : Grammar β) : Prop :=
  ∀ n ∈ g'.named.map (·.1), (g.find? n).isSome ∨ ∀ n' ∈ g.named.map (·.1), ¬Text.opensWith n' n

/-- Options of another grammar can be told apart if they are written in full. -/
lemma exists_roleOf_text {β : Type} {g' : Grammar β} (hg' : g'.IsPlain) (hapart : g.IsApartFrom g')
    {x : Setting β} (hx : x.IsOf g') : ∃ role, g.roleOf x.text = .ok role := by
  obtain ⟨c, rest, hlong⟩ := hx.toList_text
  have hcut : cutAtEquals x.text = (x.name, x.argument) :=
    cutAtEquals_text (hg'.not_mem_of_find? hx.found)
  have hname : x.name ∈ g'.named.map (·.1) :=
    List.mem_map.2 ⟨_, mem_named_of_find? hx.found, rfl⟩
  unfold roleOf
  simp only [hlong, hcut]
  cases hwhole : g.find? x.text with
  | some o => exact ⟨_, rfl⟩
  | none =>
    rcases hapart x.name hname with hshared | hother
    · obtain ⟨o, ho⟩ := Option.isSome_iff_exists.1 hshared
      cases hargument : x.argument with
      | some s =>
        rw [ho]
        exact ⟨_, rfl⟩
      | none =>
        -- Without an argument the name is the whole of what is written.
        have htext : x.text = x.name := by rw [Setting.text, hargument]
        rw [htext, ho] at hwhole
        cases hwhole
    · have hnone : g.abbreviated x.text = [] := by
        unfold abbreviated
        simp only [hlong, hcut, List.map_eq_nil_iff, List.filter_eq_nil_iff]
        exact fun named hnamed => hother named.1 (List.mem_map_of_mem hnamed)
      rw [hnone]
      cases x.argument <;> cases g.find? x.name <;> exact ⟨_, rfl⟩

/-! ### What options written in full can do -/

/-- Options of a grammar, written in full, take one state of a reading to another. -/
def Reaches (g : Grammar α) (p q : Progress α) : Prop :=
  ∃ settings : List (Setting α), (∀ x ∈ settings, x.IsOf g) ∧
    applyAll p (settings.map fun x => (x.option, x.argument)) = .ok q

/-- No options change nothing. -/
lemma Reaches.refl (g : Grammar α) (p : Progress α) : g.Reaches p p :=
  ⟨[], List.forall_mem_nil _, rfl⟩

/-- Options can be written behind others. -/
lemma Reaches.trans (hpq : g.Reaches p q) (hqr : g.Reaches q r) : g.Reaches p r := by
  obtain ⟨front, hfront, hq⟩ := hpq
  obtain ⟨back, hback, hr⟩ := hqr
  refine ⟨front ++ back, List.forall_mem_append.2 ⟨hfront, hback⟩, ?_⟩
  rw [List.map_append, applyAll, List.foldlM_append]
  exact bind_eq_ok.2 ⟨q, hq, hr⟩

/-- Options change neither the operand nor what fits nowhere. -/
lemma operand_extras_of_applyAll {options : List (Opt α × Option String)}
    (h : applyAll p options = .ok q) : q.operand = p.operand ∧ q.extras = p.extras := by
  induction options generalizing p with
  | nil =>
    cases h
    exact ⟨rfl, rfl⟩
  | cons x options ih =>
    obtain ⟨p', hfirst, hrest⟩ := bind_eq_ok.1 h
    obtain ⟨f, -, -, rfl⟩ := apply_eq_ok_iff.1 hfirst
    exact ih (p := { p with values := f p.values, seen := x.1.names :: p.seen }) hrest

/-- An option that can be carried out can be written. -/
lemma exists_reaches (hx : x.IsOf g) {f : α → α} (hdoes : x.option.effect.Does x.argument f)
    (hexcludes : ∀ other ∈ x.option.excludes, other ∉ p.seen) :
    ∃ q, g.Reaches p q ∧ q.values = f p.values := by
  have happly : apply p x.option x.argument =
      .ok { p with values := f p.values, seen := x.option.names :: p.seen } :=
    apply_eq_ok_iff.2 ⟨f, hdoes, hexcludes, rfl⟩
  exact ⟨_, ⟨[x], List.forall_mem_singleton.2 hx, bind_eq_ok.2 ⟨_, happly, rfl⟩⟩, rfl⟩

end Grammar

end FlopCensus.CommandLine
