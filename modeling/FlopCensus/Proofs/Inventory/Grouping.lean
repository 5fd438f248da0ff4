import FlopCensus.Proofs.Inventory.Kinds
import Mathlib.Data.List.Basic
import Mathlib.Data.List.Perm.Basic
import Mathlib.Tactic.Common

set_option autoImplicit false
set_option relaxedAutoImplicit false

/-!
# The grouped views of an inventory

The registers of an inventory are counted by classification and grouped by module. Each view has
one entry for each key that occurs, its entries are in a fixed order, and no register is lost or
counted twice. Both views can be had in one pass over the registers, by a ledger that keeps its keys
in the order in which they came up; for the counts, the entries of the known classifications are
then taken out of the ledger and put in front.

## Main definitions

* `FlopCensus.Ledger` — values under keys, in the order in which the keys were added.
* `FlopCensus.Ledger.adjust`, `FlopCensus.Ledger.take`, `FlopCensus.Ledger.update` — its operations.
* `FlopCensus.Ledger.collect` — a pass over a list that adjusts the entry of each element.

## Main results

* `FlopCensus.Inventory.pairwise_distinct` — the keys of a list are in order of first occurrence.
* `FlopCensus.Inventory.perm_flatMap_filter` — the groups of a list make up the list.
* `FlopCensus.Ledger.collect_eq` — what a pass over a list collects.
* `FlopCensus.Inventory.byType_eq_update`, `FlopCensus.Inventory.byModule_eq_collect` — the views
  are the outcome of such a pass.
* `FlopCensus.Inventory.views_partition` — the views partition the registers.
-/

namespace FlopCensus

namespace Inventory

section Keys

variable {α β : Type} [DecidableEq α]

/-- **The keys of a list are in order of first occurrence.** -/
theorem pairwise_distinct (xs : List α) :
    (distinct xs).Pairwise fun a b => xs.idxOf a < xs.idxOf b := by
  induction xs with
  | nil => exact List.Pairwise.nil
  | cons x xs ih =>
    have hlater : ∀ a, a ≠ x → (x :: xs).idxOf a = xs.idxOf a + 1 := fun a ha =>
      List.idxOf_cons_ne xs (Ne.symm ha)
    have hother : ∀ a ∈ (distinct xs).filter (· ≠ x), a ≠ x := fun a ha => by
      simpa using (List.mem_filter.1 ha).2
    rw [distinct, List.pairwise_cons]
    constructor
    · intro a ha
      rw [List.idxOf_cons_self, hlater a (hother a ha)]
      exact Nat.succ_pos _
    · refine (ih.filter _).imp_of_mem fun {a b} ha hb hab => ?_
      rw [hlater a (hother a ha), hlater b (hother b hb)]
      exact Nat.succ_lt_succ hab

/-- The keys of two lists: those of the second one that are new come last. -/
lemma distinct_append (xs ys : List α) :
    distinct (xs ++ ys) = distinct xs ++ (distinct ys).filter fun y => !xs.contains y := by
  induction xs with
  | nil => simp [distinct]
  | cons x xs ih =>
    rw [List.cons_append, distinct, ih, distinct, List.filter_append, List.filter_filter,
      List.cons_append]
    refine congrArg _ (congrArg _ (List.filter_congr fun y _ => ?_))
    simp

/-- The keys among some elements are the keys that are such elements. -/
lemma distinct_filter (p : α → Bool) (xs : List α) :
    distinct (xs.filter p) = (distinct xs).filter p := by
  induction xs with
  | nil => rfl
  | cons x xs ih =>
    by_cases hx : p x = true
    · rw [List.filter_cons_of_pos hx, distinct, distinct, ih, List.filter_cons_of_pos hx,
        List.filter_filter, List.filter_filter]
      refine congrArg _ (List.filter_congr fun y _ => Bool.and_comm _ _)
    · rw [List.filter_cons_of_neg hx, distinct, ih, List.filter_cons_of_neg hx, List.filter_filter]
      -- an element that is none of these has not been a key
      refine List.filter_congr fun y _ => ?_
      by_cases hy : y = x <;> simp [hy, hx]

/-- Keys are their own keys. -/
lemma distinct_of_nodup {xs : List α} (h : xs.Nodup) : distinct xs = xs := by
  induction xs with
  | nil => rfl
  | cons x xs ih =>
    obtain ⟨hx, hrest⟩ := List.nodup_cons.1 h
    rw [distinct, ih hrest, List.filter_eq_self.2]
    intro y hy
    have hne : y ≠ x := fun heq => hx (heq ▸ hy)
    simpa using hne

/-- The keys of some lists side by side are those of their keys. -/
lemma distinct_flatMap_distinct (f : β → List α) (xs : List β) :
    distinct (xs.flatMap fun x => distinct (f x)) = distinct (xs.flatMap f) := by
  induction xs with
  | nil => rfl
  | cons x xs ih =>
    rw [List.flatMap_cons, List.flatMap_cons, distinct_append, distinct_append, ih,
      distinct_of_nodup (nodup_distinct _)]
    simp

/-- The keys of a list with one more element behind it. -/
lemma distinct_concat (xs : List α) (a : α) :
    distinct (xs ++ [a]) = if a ∈ xs then distinct xs else distinct xs ++ [a] := by
  rw [distinct_append]
  by_cases h : a ∈ xs <;> simp [distinct, h]

/-- **The groups of a list make up the list**, if each key is there once. -/
theorem perm_flatMap_filter {key : β → α} {keys : List α} {xs : List β} (hkeys : keys.Nodup)
    (h : ∀ x ∈ xs, key x ∈ keys) :
    (keys.flatMap fun k => xs.filter fun x => key x = k).Perm xs := by
  induction keys generalizing xs with
  | nil =>
    have hnil : xs = [] := List.eq_nil_iff_forall_not_mem.2 fun x hx => by simpa using h x hx
    rw [hnil, List.flatMap_nil]
  | cons k keys ih =>
    obtain ⟨hk, hrest⟩ := List.nodup_cons.1 hkeys
    -- the other groups are groups of what the first one leaves
    have hothers : (keys.flatMap fun j => xs.filter fun x => key x = j) =
        keys.flatMap fun j =>
          (xs.filter fun x => !decide (key x = k)).filter fun x => key x = j := by
      refine List.flatMap_congr fun j hj => ?_
      rw [List.filter_filter]
      refine List.filter_congr fun x _ => ?_
      by_cases hx : key x = j
      · have hjk : j ≠ k := fun hjk => hk (hjk ▸ hj)
        simp [hx, hjk]
      · simp [hx]
    have hcover : ∀ x ∈ xs.filter fun x => !decide (key x = k), key x ∈ keys := by
      intro x hx
      obtain ⟨hmem, hne⟩ := List.mem_filter.1 hx
      exact List.mem_of_ne_of_mem (by simpa using hne) (h x hmem)
    rw [List.flatMap_cons, hothers]
    exact ((ih hrest hcover).append_left _).trans (List.filter_append_perm _ xs)

end Keys

end Inventory

/-! ### Ledgers -/

/-- Values under keys, in the order in which the keys were added. -/
abbrev Ledger (κ β : Type) := List (κ × β)

namespace Ledger

variable {κ α β : Type} [DecidableEq κ]

/-- Changes the value under a key; a new key comes last and starts from a given value. -/
def adjust (fresh : β) (k : κ) (f : β → β) : Ledger κ β → Ledger κ β
  | [] => [(k, f fresh)]
  | (j, b) :: rest => if j = k then (j, f b) :: rest else (j, b) :: adjust fresh k f rest

/-- Takes the entry of a key out of the second ledger and puts it behind the first one. -/
def take (ledgers : Ledger κ β × Ledger κ β) (k : κ) : Ledger κ β × Ledger κ β :=
  match ledgers.2.lookup k with
  | some b => (ledgers.1 ++ [(k, b)], ledgers.2.filter (·.1 ≠ k))
  | none => ledgers

/-- Enters the values of a ledger into another one. -/
def update (ledger entries : Ledger κ β) : Ledger κ β :=
  entries.foldl (fun l e => l.adjust e.2 e.1 fun _ => e.2) ledger

/-- Adjusts the entry of each element of a list in turn. -/
def collect (key : α → κ) (fresh : β) (f : β → α → β) (xs : List α) : Ledger κ β :=
  xs.foldl (fun l x => l.adjust fresh (key x) (f · x)) []

/-- A key that is not there is added. -/
lemma adjust_of_not_mem {fresh : β} {k : κ} {f : β → β} {l : Ledger κ β}
    (h : k ∉ l.map Prod.fst) : l.adjust fresh k f = l ++ [(k, f fresh)] := by
  induction l with
  | nil => rfl
  | cons e l ih =>
    rw [List.map_cons, List.mem_cons, not_or] at h
    rw [adjust, if_neg (Ne.symm h.1), ih h.2, List.cons_append]

/-- Adjusting the value under a key that is there, in a ledger given by its keys. -/
lemma adjust_map_of_mem {fresh : β} {k : κ} {f : β → β} {keys : List κ} (hkeys : keys.Nodup)
    (h : k ∈ keys) (value : κ → β) :
    adjust fresh k f (keys.map fun j => (j, value j)) =
      keys.map fun j => (j, if j = k then f (value j) else value j) := by
  induction keys with
  | nil => cases h
  | cons j keys ih =>
    obtain ⟨hj, hrest⟩ := List.nodup_cons.1 hkeys
    rw [List.map_cons, List.map_cons, adjust]
    by_cases hjk : j = k
    · subst hjk
      rw [if_pos rfl, if_pos rfl]
      refine congrArg _ (List.map_congr_left fun i hi => ?_)
      have hij : i ≠ j := fun heq => hj (heq ▸ hi)
      rw [if_neg hij]
    · rw [if_neg hjk, if_neg hjk, ih hrest (List.mem_of_ne_of_mem (Ne.symm hjk) h)]

/-- **What a pass over a list collects**: the keys in order of first occurrence, each with what the
elements with this key come to. -/
theorem collect_eq (key : α → κ) (fresh : β) (f : β → α → β) (xs : List α) :
    collect key fresh f xs = (Inventory.distinct (xs.map key)).map fun k =>
      (k, (xs.filter fun x => key x = k).foldl f fresh) := by
  induction xs using List.reverseRecOn with
  | nil => rfl
  | append_singleton xs x ih =>
    have hstep : collect key fresh f (xs ++ [x]) =
        adjust fresh (key x) (f · x) (collect key fresh f xs) := by
      rw [collect, List.foldl_append]
      rfl
    -- the group of a key changes only if it is the key of the new element
    have hgroup : ∀ k, ((xs ++ [x]).filter fun y => key y = k).foldl f fresh =
        if k = key x then f ((xs.filter fun y => key y = k).foldl f fresh) x
        else (xs.filter fun y => key y = k).foldl f fresh := by
      intro k
      by_cases hk : k = key x
      · simp [List.filter_append, hk]
      · simp [List.filter_append, hk, Ne.symm hk]
    rw [hstep, ih, List.map_append, List.map_singleton, Inventory.distinct_concat]
    by_cases hmem : key x ∈ xs.map key
    · rw [if_pos hmem, adjust_map_of_mem (Inventory.nodup_distinct _) (by simpa using hmem)]
      simp only [hgroup]
    · have hempty : (xs.filter fun y => key y = key x) = [] :=
        List.filter_eq_nil_iff.2 fun y hy => by
          have hne : key y ≠ key x := fun heq => hmem (heq ▸ List.mem_map_of_mem hy)
          simpa using hne
      rw [if_neg hmem, adjust_of_not_mem (by simpa using hmem), List.map_append,
        List.map_singleton, hgroup, if_pos rfl, hempty]
      refine congrArg₂ _ (List.map_congr_left fun k hk => ?_) rfl
      have hne : k ≠ key x := fun heq => hmem (Inventory.mem_distinct.1 (heq ▸ hk))
      rw [hgroup, if_neg hne]

/-- The entry of a key, in a ledger given by its keys. -/
lemma lookup_map (keys : List κ) (value : κ → β) (k : κ) :
    List.lookup k (keys.map fun j => (j, value j)) = if k ∈ keys then some (value k) else none := by
  induction keys with
  | nil => rfl
  | cons j keys ih =>
    by_cases hjk : k = j
    · simp [hjk]
    · have hne : (k == j) = false := beq_false_of_ne hjk
      simp [List.lookup_cons, hjk, hne, ih]

/-- **Taking out the entries of some keys**, in a ledger given by its keys. -/
theorem foldl_take {wanted : List κ} (hwanted : wanted.Nodup) (keys : List κ) (value : κ → β)
    (done : Ledger κ β) :
    wanted.foldl take (done, keys.map fun k => (k, value k)) =
      (done ++ (wanted.filter (keys.contains ·)).map fun k => (k, value k),
        (keys.filter fun k => !wanted.contains k).map fun k => (k, value k)) := by
  induction wanted generalizing keys done with
  | nil => simp
  | cons w wanted ih =>
    obtain ⟨hw, hrest⟩ := List.nodup_cons.1 hwanted
    rw [List.foldl_cons, take, lookup_map]
    -- an entry that is there moves to the other side; without one nothing changes
    by_cases hmem : w ∈ keys
    · have hothers : ((keys.map fun k => (k, value k)).filter (·.1 ≠ w)) =
          (keys.filter (· ≠ w)).map fun k => (k, value k) := by
        rw [List.filter_map]
        rfl
      rw [if_pos hmem]
      simp only [hothers]
      rw [ih hrest, List.filter_filter, List.append_assoc]
      have hwant : wanted.filter ((keys.filter (· ≠ w)).contains ·) =
          wanted.filter (keys.contains ·) :=
        List.filter_congr fun k hk => by
          have hne : k ≠ w := fun heq => hw (heq ▸ hk)
          simp [hne]
      rw [hwant]
      refine congrArg₂ _ ?_ ?_
      · simp [hmem]
      · refine congrArg _ (List.filter_congr fun k _ => ?_)
        by_cases hk : k = w <;> simp [hk]
    · rw [if_neg hmem]
      simp only
      rw [ih hrest]
      refine congrArg₂ _ ?_ ?_
      · simp [hmem]
      · refine congrArg _ (List.filter_congr fun k hk => ?_)
        have hne : k ≠ w := fun heq => hmem (heq ▸ hk)
        simp [hne]

/-- Entries under new keys are put behind the others. -/
lemma update_of_disjoint {l entries : Ledger κ β} (hkeys : (entries.map Prod.fst).Nodup)
    (h : ∀ e ∈ entries, e.1 ∉ l.map Prod.fst) : update l entries = l ++ entries := by
  induction entries generalizing l with
  | nil => simp [update]
  | cons e entries ih =>
    obtain ⟨he, hrest⟩ := List.nodup_cons.1 hkeys
    have hstep : update l (e :: entries) = update (l ++ [e]) entries := by
      rw [update, List.foldl_cons, adjust_of_not_mem (h e List.mem_cons_self)]
      rfl
    rw [hstep, ih hrest, List.append_assoc, List.singleton_append]
    intro x hx
    have hne : x.1 ≠ e.1 := fun heq => he (heq ▸ List.mem_map_of_mem hx)
    simpa [hne] using h x (List.mem_cons_of_mem _ hx)

end Ledger

namespace Inventory

/-! ### The views in one pass -/

/-- The registers counted by classification, in order of first occurrence. -/
def tally (inv : Inventory) : Ledger Classification Nat :=
  Ledger.collect (·.classification) 0 (fun n _ => n + 1) inv.registers

/-- Counting is what a pass over the registers comes to. -/
lemma tally_eq (inv : Inventory) :
    inv.tally = (distinct (inv.registers.map (·.classification))).map fun c =>
      (c, inv.registers.countP fun r => r.classification = c) := by
  have hcount : ∀ (rs : List Register) (n : Nat),
      rs.foldl (fun n _ => n + 1) n = n + rs.length := by
    intro rs
    induction rs with
    | nil => exact fun n => rfl
    | cons r rs ih =>
      intro n
      rw [List.foldl_cons, ih, List.length_cons]
      omega
  rw [tally, Ledger.collect_eq]
  refine List.map_congr_left fun c _ => ?_
  rw [hcount, Nat.zero_add, List.countP_eq_length_filter]

/-- **The counts by classification in one pass**: the registers are counted, the known
classifications are taken out of the counts in their order, and the counts that are left are entered
behind them. -/
theorem byType_eq_update (inv : Inventory) :
    let counts := Classification.known.foldl Ledger.take ([], inv.tally)
    inv.byType = Ledger.update counts.1 counts.2 := by
  have hknown : Classification.known.Nodup := by decide
  intro counts
  have hcounts : counts = Classification.known.foldl Ledger.take ([], inv.tally) := rfl
  rw [tally_eq, Ledger.foldl_take hknown, List.nil_append] at hcounts
  rw [hcounts, Ledger.update_of_disjoint, ← List.map_append, byType, kinds]
  · rw [List.map_map]
    exact ((nodup_distinct _).filter _).map fun _ _ h => h
  · intro e he
    obtain ⟨c, hc, rfl⟩ := List.mem_map.1 he
    obtain ⟨-, hother⟩ := List.mem_filter.1 hc
    intro hmem
    simp only [List.map_map, List.mem_map, List.mem_filter] at hmem
    obtain ⟨d, ⟨hd, -⟩, rfl⟩ := hmem
    simp [hd] at hother

/-- **The groups by module in one pass**: each register is put behind those of its module. -/
theorem byModule_eq_collect (inv : Inventory) :
    inv.byModule = Ledger.collect (·.module) [] (fun rs r => rs ++ [r]) inv.registers := by
  have hgroup : ∀ rs done : List Register, rs.foldl (fun rs r => rs ++ [r]) done = done ++ rs := by
    intro rs
    induction rs with
    | nil => exact fun done => (List.append_nil done).symm
    | cons r rs ih =>
      intro done
      rw [List.foldl_cons, ih, List.append_assoc, List.singleton_append]
  rw [Ledger.collect_eq, byModule]
  refine List.map_congr_left fun m _ => ?_
  rw [hgroup, List.nil_append]

/-! ### The views as partitions -/

/-- A classification is counted if it occurs. -/
lemma mem_byType_iff {inv : Inventory} {c : Classification} {n : Nat} :
    (c, n) ∈ inv.byType ↔ 0 < n ∧ n = inv.registers.countP fun r => r.classification = c := by
  rw [byType, List.mem_map]
  constructor
  · rintro ⟨d, hd, heq⟩
    obtain ⟨rfl, rfl⟩ := Prod.mk.inj heq
    refine ⟨List.countP_pos_iff.2 ?_, rfl⟩
    simpa using mem_kinds.1 hd
  · rintro ⟨hpos, rfl⟩
    exact ⟨c, mem_kinds.2 (by simpa using List.countP_pos_iff.1 hpos), rfl⟩

/-- A module has a group if it owns a register. -/
lemma mem_byModule_iff {inv : Inventory} {m : String} {rs : List Register} :
    (m, rs) ∈ inv.byModule ↔ rs ≠ [] ∧ rs = inv.registers.filter fun r => r.module = m := by
  have howns : m ∈ distinct (inv.registers.map (·.module)) ↔
      (inv.registers.filter fun r => r.module = m) ≠ [] := by
    simp [List.filter_eq_nil_iff]
  rw [byModule, List.mem_map]
  constructor
  · rintro ⟨n, hn, heq⟩
    obtain ⟨rfl, rfl⟩ := Prod.mk.inj heq
    exact ⟨howns.1 hn, rfl⟩
  · rintro ⟨hne, rfl⟩
    exact ⟨m, howns.2 hne, rfl⟩

/-- The classifications in the counts. -/
lemma map_fst_byType (inv : Inventory) : inv.byType.map Prod.fst = inv.kinds := by
  rw [byType, List.map_map]
  exact List.map_id _

/-- The modules that have a group. -/
lemma map_fst_byModule (inv : Inventory) :
    inv.byModule.map Prod.fst = distinct (inv.registers.map (·.module)) := by
  rw [byModule, List.map_map]
  exact List.map_id _

/-- The counts add up to the number of registers. -/
lemma sum_byType (inv : Inventory) :
    (inv.byType.map Prod.snd).foldr (· + ·) 0 = inv.totalRegisters := by
  have hgroups : (inv.kinds.flatMap fun c =>
      inv.registers.filter fun r => r.classification = c).Perm inv.registers :=
    perm_flatMap_filter inv.nodup_kinds fun r hr => mem_kinds.2 ⟨r, hr, rfl⟩
  have hlength := hgroups.length_eq
  rw [List.length_flatMap] at hlength
  rw [totalRegisters, ← hlength, byType, List.map_map, List.sum]
  simp [Function.comp_def, List.countP_eq_length_filter]

/-- **The grouped views partition the registers.** Each classification that occurs is counted once,
with all its registers, the known ones in their order and the others behind them in order of first
occurrence, and the counts add up to all registers. Each module that owns registers has one group,
in order of first occurrence, with exactly its registers in their order, and the groups together are
a permutation of the registers. -/
theorem views_partition (inv : Inventory) :
    let classes := inv.registers.map (·.classification)
    let owners := inv.registers.map (·.module)
    ((inv.byType.map Prod.fst).Nodup ∧
      (∀ c n, (c, n) ∈ inv.byType ↔ 0 < n ∧ n = classes.count c) ∧
      (∃ others, inv.byType.map Prod.fst =
          Classification.known.filter (classes.contains ·) ++ others ∧
        (∀ c ∈ others, c ∉ Classification.known) ∧
        others.Pairwise fun c d => classes.idxOf c < classes.idxOf d) ∧
      (inv.byType.map Prod.snd).foldr (· + ·) 0 = inv.totalRegisters) ∧
    (inv.byModule.map Prod.fst).Nodup ∧
      (∀ m rs, (m, rs) ∈ inv.byModule ↔
        rs ≠ [] ∧ rs = inv.registers.filter fun r => r.module = m) ∧
      (inv.byModule.map Prod.fst).Pairwise (fun m n => owners.idxOf m < owners.idxOf n) ∧
      (inv.byModule.flatMap Prod.snd).Perm inv.registers := by
  intro classes owners
  have hcount : ∀ c, classes.count c = inv.registers.countP fun r => r.classification = c := by
    intro c
    rw [List.count, List.countP_map]
    exact List.countP_congr fun r _ => by simp
  have hothers : inv.byType.map Prod.fst = Classification.known.filter (classes.contains ·) ++
      (distinct classes).filter fun c => !Classification.known.contains c := by
    rw [map_fst_byType, kinds]
    simp [classes]
  have hgroups : (inv.byModule.flatMap Prod.snd).Perm inv.registers := by
    rw [byModule, List.flatMap_map]
    exact perm_flatMap_filter (nodup_distinct _) fun r hr => by
      simpa using ⟨r, hr, rfl⟩
  refine ⟨⟨?_, ?_, ⟨_, hothers, ?_, ?_⟩, inv.sum_byType⟩, ?_, fun _ _ => mem_byModule_iff, ?_,
    hgroups⟩
  · rw [map_fst_byType]
    exact inv.nodup_kinds
  · intro c n
    rw [hcount, mem_byType_iff]
  · intro c hc
    simpa using (List.mem_filter.1 hc).2
  · exact (pairwise_distinct classes).filter _
  · rw [map_fst_byModule]
    exact nodup_distinct _
  · rw [map_fst_byModule]
    exact pairwise_distinct owners

/-- A classification that is not known comes last, although its register comes first. -/
example :
    let r : Register := { name := "r", width := 1, line := 1, module := "m", file := "f" }
    let rs := [{ r with classification := ⟨"odd"⟩ }, { r with classification := .latch }]
    byType { registers := rs } = [(.latch, 1), (⟨"odd"⟩, 1)] := by
  decide

end Inventory

end FlopCensus
