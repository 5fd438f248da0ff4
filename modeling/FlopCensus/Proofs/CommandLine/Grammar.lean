import FlopCensus.CommandLine.Grammar
import FlopCensus.Proofs.Log

set_option autoImplicit false
set_option relaxedAutoImplicit false

/-!
# Reading arguments

A reading goes through the arguments from left to right. Each of its steps leaves fewer of them, so
the bounds on the number of steps are no limits to what can be read. Whatever the arguments are,
what is read comes of the options of the grammar alone: a condition that each option keeps holds in
the end.

## Main definitions

* `FlopCensus.CommandLine.Effect.Does` — what an option does to the values.
* `FlopCensus.CommandLine.Grammar.applyAll` — options carried out one after the other.
* `FlopCensus.CommandLine.Grammar.Keeps` — a condition that the options of a grammar keep.

## Main results

* `FlopCensus.CommandLine.Grammar.apply_eq_ok_iff` — when an option is carried out.
* `FlopCensus.CommandLine.Grammar.readItems_eq_of_lt`,
  `FlopCensus.CommandLine.Grammar.readWritten_eq_of_roleOf` — the bounds are large enough.
* `FlopCensus.CommandLine.Grammar.Keeps.read` — what every reading keeps.
-/

namespace FlopCensus.CommandLine

/-- The number of characters behind an option in the same argument. -/
def Written.room {α : Type} (w : Written α) : ℕ :=
  (w.text.map (·.toList.length)).getD 0

/-- What an option does to the values. An argument that is `--` is not read. -/
inductive Effect.Does {α : Type} : Effect α → Option String → (α → α) → Prop
  /-- It has no argument. -/
  | toggle (set : α → α) (argument : Option String) : Does (.toggle set) argument set
  /-- Only the place of its argument is kept. -/
  | blank (set : String → Except String (α → α)) (blank : α → α) :
    Does (.value set blank) (some "--") blank
  /-- It has an argument. -/
  | value {set : String → Except String (α → α)} {f blank : α → α} {s : String} (place : s ≠ "--")
    (reads : set s = .ok f) : Does (.value set blank) (some s) f

namespace Grammar

variable {α : Type} {g : Grammar α} {p q : Progress α} {s : String}
  {items rest : List (String × Role α)}

/-! ### Carrying an option out -/

/-- An option is done unless one is written that it cannot stand beside. -/
lemma done_eq_ok_iff {o : Opt α} {f : α → α} :
    (match o.excludes.find? p.seen.contains with
      | some other =>
        Except.error (Fault.argument (label o.names) ("not allowed with argument " ++ label other))
      | none => Except.ok { p with values := f p.values, seen := o.names :: p.seen }) = .ok q ↔
      (∀ other ∈ o.excludes, other ∉ p.seen) ∧
        q = { p with values := f p.values, seen := o.names :: p.seen } := by
  have hnone : o.excludes.find? p.seen.contains = none ↔ ∀ other ∈ o.excludes, other ∉ p.seen := by
    simp
  rw [← hnone]
  cases o.excludes.find? p.seen.contains with
  | none => exact ⟨fun h => (by cases h; exact ⟨rfl, rfl⟩), fun h => h.2 ▸ rfl⟩
  | some other => exact ⟨fun h => (by cases h), fun h => (by cases h.1)⟩

/-- **An option is carried out** if it does something with its argument and none is written that it
cannot stand beside. -/
theorem apply_eq_ok_iff {o : Opt α} {argument : Option String} :
    apply p o argument = .ok q ↔
      ∃ f, o.effect.Does argument f ∧ (∀ other ∈ o.excludes, other ∉ p.seen) ∧
        q = { p with values := f p.values, seen := o.names :: p.seen } := by
  simp only [← done_eq_ok_iff]
  obtain ⟨names, effect, excludes⟩ := o
  constructor
  · intro h
    cases effect with
    | help => cases h
    | toggle set => exact ⟨set, .toggle _ _, h⟩
    | value set blank =>
      cases argument with
      | none => cases h
      | some s =>
        by_cases hplace : s = "--"
        · subst hplace
          exact ⟨blank, .blank _ _, h⟩
        · cases hreads : set s with
          | error text =>
            simp only [apply, beq_iff_eq, hplace, if_false, hreads] at h
            cases h
          | ok f =>
            simp only [apply, beq_iff_eq, hplace, if_false, hreads] at h
            exact ⟨f, .value hplace hreads, h⟩
  · rintro ⟨f, hdoes, h⟩
    cases hdoes with
    | toggle => exact h
    | blank => exact h
    | value place reads =>
      simp only [apply, beq_iff_eq, place, if_false, reads]
      exact h

/-! ### Steps of a reading -/

/-- An argument that is not known is handed back. -/
lemma readItems_unknown (n : ℕ) (p : Progress α) (s : String) (rest : List (String × Role α)) :
    g.readItems (n + 1) p ((s, .unknown) :: rest) =
      g.readItems n { p with extras := p.extras ++ [s] } rest := rfl

/-- The argument that follows an option, if that can be a value. -/
def nextValue? : List (String × Role α) → Option String
  | (t, .plain) :: _ => some t
  | _ => none

/-- Carries options out, one after the other. -/
def applyAll (p : Progress α) (options : List (Opt α × Option String)) :
    Except Fault (Progress α) :=
  options.foldlM (fun p (o, argument) => apply p o argument) p

/-- An argument with options. -/
lemma readItems_option (n : ℕ) (p : Progress α) (s : String) (w : Written α)
    (rest : List (String × Role α)) :
    g.readItems (n + 1) p ((s, .option w) :: rest) =
      (do
        let r ← g.readWritten (nextValue? rest) (s.length + 1) w []
        let p ← applyAll p r.options
        g.readItems n p (if r.takesNext then rest.drop 1 else rest)) := by
  cases rest with
  | nil => rfl
  | cons item rest =>
    obtain ⟨t, role⟩ := item
    cases role <;> rfl

/-- The arguments at the front that are no options. -/
def plainFront (items : List (String × Role α)) : List (String × Role α) :=
  items.takeWhile fun item => !item.2.isOption

/-- Arguments that do not begin with an option. -/
lemma readItems_plain (n : ℕ) (p : Progress α) (h : ∀ item ∈ items.head?, item.2.isOption = false) :
    g.readItems (n + 1) p items =
      if (plainFront items).length = items.length then
        .ok { (g.takeOperand p items).1 with
          extras := (g.takeOperand p items).1.extras ++ (g.takeOperand p items).2.map (·.1) }
      else if (g.takeOperand p items).2.length < items.length then
        g.readItems n (g.takeOperand p items).1 (g.takeOperand p items).2
      else
        g.readItems n { p with extras := p.extras ++ (plainFront items).map (·.1) }
          (items.drop (plainFront items).length) := by
  cases items with
  | nil => rfl
  | cons item rest =>
    obtain ⟨t, role⟩ := item
    cases role with
    | plain => simp only [readItems, beq_iff_eq]; rfl
    | dashes => simp only [readItems, beq_iff_eq]; rfl
    | option w => exact absurd (h _ rfl) (by simp [Role.isOption])
    | unknown => exact absurd (h _ rfl) (by simp [Role.isOption])

/-- The step for a list of arguments is known from the first of them. -/
lemma cases_items (items : List (String × Role α)) :
    (∃ s rest, items = (s, .unknown) :: rest) ∨ (∃ s w rest, items = (s, .option w) :: rest) ∨
      ∀ item ∈ items.head?, item.2.isOption = false := by
  cases items with
  | nil => exact .inr (.inr (by simp))
  | cons item rest =>
    obtain ⟨t, role⟩ := item
    cases role with
    | unknown => exact .inl ⟨t, rest, rfl⟩
    | option w => exact .inr (.inl ⟨t, w, rest, rfl⟩)
    | plain => exact .inr (.inr (by simp [Role.isOption]))
    | dashes => exact .inr (.inr (by simp [Role.isOption]))

/-! ### The bounds are large enough -/

/-- Arguments that are not all plain have fewer behind the plain front. -/
lemma length_drop_plainFront_lt (hhead : ∀ item ∈ items.head?, item.2.isOption = false)
    (hne : (plainFront items).length ≠ items.length) :
    (items.drop (plainFront items).length).length < items.length := by
  cases items with
  | nil => exact absurd rfl hne
  | cons item rest =>
    have hfirst : item.2.isOption = false := hhead item rfl
    simp only [plainFront, List.takeWhile_cons, hfirst, Bool.not_false, if_true,
      List.length_cons, List.length_drop]
    omega

/-- **The reading needs no more steps than there are arguments**: any two bounds above their number
give the same. -/
theorem readItems_eq_of_lt {n m : ℕ} (hn : items.length < n) (hm : items.length < m) :
    g.readItems n p items = g.readItems m p items := by
  induction n generalizing m p items with
  | zero => exact absurd hn (Nat.not_lt_zero _)
  | succ n ih =>
    obtain ⟨m, rfl⟩ := Nat.exists_eq_succ_of_ne_zero (Nat.ne_of_gt (Nat.zero_lt_of_lt hm))
    rcases cases_items items with ⟨s, rest, rfl⟩ | ⟨s, w, rest, rfl⟩ | hhead
    · rw [List.length_cons] at hn hm
      rw [readItems_unknown, readItems_unknown]
      exact ih (by omega) (by omega)
    · rw [List.length_cons] at hn hm
      rw [readItems_option, readItems_option]
      congr 1
      funext r
      congr 1
      funext q
      have hless : (if r.takesNext then rest.drop 1 else rest).length ≤ rest.length := by
        split
        · rw [List.length_drop]
          exact Nat.sub_le _ _
        · exact Nat.le_refl _
      exact ih (by omega) (by omega)
    · rw [readItems_plain n p hhead, readItems_plain m p hhead]
      split
      · rfl
      · rename_i hne
        split
        · exact ih (by omega) (by omega)
        · have hless := length_drop_plainFront_lt hhead hne
          exact ih (by omega) (by omega)

/-- Fewer characters stand behind the next letter. -/
lemma room_rest_lt {text : String} {c : Char} {rest : List Char} (h : text.toList = c :: rest)
    (o : Opt α) (name : String) :
    Written.room { option := o, name, text := if rest.isEmpty then none else some (.ofList rest) } <
      text.toList.length := by
  rw [h, List.length_cons]
  cases rest with
  | nil => exact Nat.zero_lt_one
  | cons d rest => simp [Written.room]

/-- **Reading the options in one argument needs no more steps than there are characters** behind the
first of them: any two bounds above their number give the same. -/
theorem readWritten_eq_of_lt {next : Option String} {w : Written α}
    {done : List (Opt α × Option String)} {n m : ℕ} (hn : w.room < n) (hm : w.room < m) :
    g.readWritten next n w done = g.readWritten next m w done := by
  induction n generalizing m w done with
  | zero => exact absurd hn (Nat.not_lt_zero _)
  | succ n ih =>
    obtain ⟨m, rfl⟩ := Nat.exists_eq_succ_of_ne_zero (Nat.ne_of_gt (Nat.zero_lt_of_lt hm))
    obtain ⟨option, name, text⟩ := w
    cases text with
    | none => rfl
    | some text =>
      unfold readWritten
      dsimp only
      split
      · rfl
      · split
        · rfl
        · rename_i c rest htext
          split
          · rfl
          · exact ih (Nat.lt_of_lt_of_le (room_rest_lt htext _ _) (Nat.le_of_lt_succ hn))
              (Nat.lt_of_lt_of_le (room_rest_lt htext _ _) (Nat.le_of_lt_succ hm))

/-- What follows the first `=` is shorter than the text. -/
lemma length_cutAtEquals {front t : String} (h : cutAtEquals s = (front, some t)) :
    t.toList.length ≤ s.toList.length := by
  unfold cutAtEquals at h
  dsimp only at h
  split at h
  · cases h
  · rename_i c rest hrest
    cases h
    have hlength := congrArg List.length hrest
    rw [List.length_drop, List.length_cons] at hlength
    rw [String.toList_ofList]
    omega

/-- What is found under a name has that name. -/
lemma mem_named_of_find? {n : String} {o : Opt α} (h : g.find? n = some o) : (n, o) ∈ g.named := by
  obtain ⟨⟨n', o'⟩, hfound, rfl⟩ := Option.map_eq_some_iff.1 h
  have hname := List.find?_some hfound
  obtain rfl : n' = n := eq_of_beq hname
  exact List.mem_of_find?_eq_some hfound

/-- A shorter way to write an option stands for a name of the grammar, and leaves no more characters
than there are. -/
lemma of_mem_abbreviated {w : Written α} (h : w ∈ g.abbreviated s) :
    (w.name, w.option) ∈ g.named ∧ w.room ≤ s.toList.length := by
  unfold abbreviated at h
  split at h
  · rcases hcut : cutAtEquals s with ⟨front, text⟩
    rw [hcut] at h
    obtain ⟨⟨n, o⟩, hmem, rfl⟩ := List.mem_map.1 h
    refine ⟨(List.mem_filter.1 hmem).1, ?_⟩
    cases text with
    | none => exact Nat.zero_le _
    | some t => exact length_cutAtEquals hcut
  · rename_i c rest hs
    obtain ⟨⟨n, o⟩, hmem, hw⟩ := List.mem_filterMap.1 h
    dsimp only at hw
    split at hw
    · cases hw
      refine ⟨hmem, ?_⟩
      rw [hs]
      simp only [Written.room, Option.map_some, Option.getD_some, String.toList_ofList,
        List.length_cons]
      omega
    · split at hw
      · cases hw
        exact ⟨hmem, Nat.zero_le _⟩
      · cases hw
  · cases h

/-- An argument is taken for an option by a name of the grammar, and no more characters stand behind
the option than the argument has. -/
lemma of_roleOf {w : Written α} (h : g.roleOf s = .ok (.option w)) :
    (w.name, w.option) ∈ g.named ∧ w.room ≤ s.length := by
  rw [← String.length_toList]
  unfold roleOf at h
  split at h
  · split at h
    · rename_i o hfind
      cases h
      exact ⟨mem_named_of_find? hfind, Nat.zero_le _⟩
    · split at h
      rename_i front text hcut
      split at h
      · rename_i t o hfind
        cases h
        exact ⟨mem_named_of_find? hfind, length_cutAtEquals hcut⟩
      · split at h
        · rename_i w' hone
          cases h
          exact of_mem_abbreviated (hone ▸ List.mem_singleton_self w)
        · split at h <;> cases h
        · cases h
  · cases h

/-- **The bound for one argument is large enough**: any other one above the number of its characters
gives the same. -/
theorem readWritten_eq_of_roleOf {next : Option String} {w : Written α}
    {done : List (Opt α × Option String)} {n : ℕ} (h : g.roleOf s = .ok (.option w))
    (hn : s.length < n) :
    g.readWritten next n w done = g.readWritten next (s.length + 1) w done :=
  readWritten_eq_of_lt (Nat.lt_of_le_of_lt (of_roleOf h).2 hn)
    (Nat.lt_succ_of_le (of_roleOf h).2)

/-! ### What every reading keeps -/

/-- A named option is one of the grammar, and the name is one of its own. -/
lemma mem_of_mem_named {n : String} {o : Opt α} (h : (n, o) ∈ g.named) :
    o ∈ g.options ∧ n ∈ o.names := by
  obtain ⟨o', ho', hn⟩ := List.mem_flatMap.1 h
  obtain ⟨n', hn', heq⟩ := List.mem_map.1 hn
  cases heq
  exact ⟨ho', hn'⟩

/-- What is found under a name is an option of the grammar with that name. -/
lemma mem_of_find? {n : String} {o : Opt α} (h : g.find? n = some o) :
    o ∈ g.options ∧ n ∈ o.names :=
  mem_of_mem_named (mem_named_of_find? h)

/-- If an argument is taken for an option, the grammar has it. -/
def Fits (g : Grammar α) (item : String × Role α) : Prop :=
  ∀ w, item.2 = .option w → w.option ∈ g.options

/-- Arguments are taken for options of the grammar only. -/
lemma fits_of_roles {arguments : List String} (h : g.roles arguments = .ok items) :
    ∀ item ∈ items, g.Fits item := by
  induction arguments generalizing items with
  | nil =>
    cases h
    exact fun item hitem => absurd hitem List.not_mem_nil
  | cons s rest ih =>
    rw [roles] at h
    split at h
    · cases h
      refine List.forall_mem_cons.2 ⟨fun w hw => (by cases hw), fun item hitem w hw => ?_⟩
      obtain ⟨t, -, rfl⟩ := List.mem_map.1 hitem
      cases hw
    · obtain ⟨role, hrole, h⟩ := bind_eq_ok.1 h
      obtain ⟨more, hrest, h⟩ := bind_eq_ok.1 h
      cases h
      refine List.forall_mem_cons.2 ⟨fun w hw => ?_, ih hrest⟩
      obtain rfl : role = .option w := hw
      exact (mem_of_mem_named (of_roleOf hrole).1).1

/-- The options in one argument are those of the grammar. -/
lemma mem_options_of_readWritten {next : Option String} {n : ℕ} {w : Written α}
    {done : List (Opt α × Option String)} {r : Reading α} (hw : w.option ∈ g.options)
    (hdone : ∀ x ∈ done, x.1 ∈ g.options) (h : g.readWritten next n w done = .ok r) :
    ∀ x ∈ r.options, x.1 ∈ g.options := by
  induction n generalizing w done with
  | zero =>
    cases h
    exact hdone
  | succ n ih =>
    have hall : ∀ argument, ∀ x ∈ done ++ [(w.option, argument)], x.1 ∈ g.options :=
      fun argument => List.forall_mem_append.2 ⟨hdone, by simpa using hw⟩
    unfold readWritten at h
    dsimp only at h
    split at h
    · split at h
      · split at h
        · cases h
          exact hall _
        · cases h
      · cases h
        exact hall _
    · split at h
      · cases h
        exact hall _
      · split at h
        · cases h
        · split at h
          · cases h
          · rename_i o hfind
            split at hfind
            · cases hfind
            · exact ih (mem_of_find? hfind).1 (hall _) h

/-- Taking the operand changes nothing else. -/
lemma exists_takeOperand_eq (g : Grammar α) (p : Progress α) (items : List (String × Role α)) :
    ∃ operand, (g.takeOperand p items).1 = { p with operand } := by
  unfold takeOperand
  split
  · exact ⟨p.operand, rfl⟩
  · exact ⟨p.operand, rfl⟩
  · split
    · exact ⟨_, rfl⟩
    · exact ⟨_, rfl⟩
    · exact ⟨_, rfl⟩
    · exact ⟨p.operand, rfl⟩
  · split
    · exact ⟨_, rfl⟩
    · exact ⟨_, rfl⟩
    · exact ⟨p.operand, rfl⟩

/-- What is left behind the operand was there before. -/
lemma mem_of_mem_takeOperand {item : String × Role α}
    (h : item ∈ (g.takeOperand p items).2) : item ∈ items := by
  unfold takeOperand at h
  split at h
  · exact h
  · exact h
  · split at h
    · exact List.mem_cons_of_mem _ (List.mem_cons_of_mem _ h)
    · exact List.mem_cons_of_mem _ (List.mem_cons_of_mem _ h)
    · exact List.mem_cons_of_mem _ h
    · exact h
  · split at h
    · exact absurd h List.not_mem_nil
    · exact absurd h List.not_mem_nil
    · exact h

/-- A condition on what has been read is kept by the options of a grammar, and does not look at the
operand or at what is handed back. -/
structure Keeps (g : Grammar α) (P : Progress α → Prop) : Prop where
  /-- Carrying an option out keeps it. -/
  apply : ∀ o ∈ g.options, ∀ (p q : Progress α) (argument : Option String), P p →
    Grammar.apply p o argument = .ok q → P q
  /-- The operand and what is handed back do not matter. -/
  other : ∀ (p : Progress α) (operand : Option (List String)) (extras : List String), P p →
    P { p with operand, extras }

namespace Keeps

variable {P : Progress α → Prop}

/-- Carrying several options out keeps the condition. -/
lemma applyAll (h : g.Keeps P) {options : List (Opt α × Option String)}
    (hoptions : ∀ x ∈ options, x.1 ∈ g.options) (hp : P p)
    (hq : Grammar.applyAll p options = .ok q) : P q := by
  induction options generalizing p with
  | nil =>
    cases hq
    exact hp
  | cons x options ih =>
    obtain ⟨p', hfirst, hq⟩ := bind_eq_ok.1 hq
    have hmem := List.forall_mem_cons.1 hoptions
    exact ih hmem.2 (h.apply x.1 hmem.1 p p' x.2 hp hfirst) hq

/-- Taking the operand keeps the condition. -/
lemma takeOperand (h : g.Keeps P) (hp : P p) : P (g.takeOperand p items).1 := by
  obtain ⟨operand, heq⟩ := exists_takeOperand_eq g p items
  rw [heq]
  exact h.other p operand p.extras hp

/-- A reading keeps the condition. -/
lemma readItems (h : g.Keeps P) {n : ℕ} (hitems : ∀ item ∈ items, g.Fits item) (hp : P p)
    (hq : g.readItems n p items = .ok q) : P q := by
  induction n generalizing p items with
  | zero =>
    cases hq
    exact hp
  | succ n ih =>
    rcases cases_items items with ⟨s, rest, rfl⟩ | ⟨s, w, rest, rfl⟩ | hhead
    · exact ih (List.forall_mem_cons.1 hitems).2 (h.other p p.operand _ hp) hq
    · rw [readItems_option] at hq
      obtain ⟨r, hr, hq⟩ := bind_eq_ok.1 hq
      obtain ⟨p', hp', hq⟩ := bind_eq_ok.1 hq
      obtain ⟨hw, hrest⟩ := List.forall_mem_cons.1 hitems
      have hoptions := mem_options_of_readWritten (hw w rfl) (List.forall_mem_nil _) hr
      refine ih (fun item hitem => hrest item ?_) (h.applyAll hoptions hp hp') hq
      split at hitem
      · exact List.mem_of_mem_drop hitem
      · exact hitem
    · have htaken : P (g.takeOperand p items).1 := h.takeOperand hp
      rw [readItems_plain n p hhead] at hq
      split at hq
      · cases hq
        exact h.other _ _ _ htaken
      · split at hq
        · exact ih (fun item hitem => hitems item (mem_of_mem_takeOperand hitem)) htaken hq
        · exact ih (fun item hitem => hitems item (List.mem_of_mem_drop hitem))
            (h.other p p.operand _ hp) hq

/-- **What every reading keeps**: a condition that holds of the values at the start, and that the
options of the grammar keep, holds of what is read from any arguments. -/
theorem read (h : g.Keeps P) {values : α} {arguments : List String} (hstart : P { values })
    (hq : g.read values arguments = .ok q) : P q := by
  obtain ⟨items, hroles, hq⟩ := bind_eq_ok.1 hq
  obtain ⟨p, hp, hq⟩ := bind_eq_ok.1 hq
  have hkept : P p := h.readItems (fits_of_roles hroles) hstart hp
  split at hq
  · cases hq
  · cases hq
    exact hkept

end Keeps

end Grammar

end FlopCensus.CommandLine
