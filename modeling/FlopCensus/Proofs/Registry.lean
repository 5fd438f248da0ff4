import FlopCensus.Proofs.Inventory.Kinds
import FlopCensus.Report.Format
import Mathlib.Tactic.Common

set_option autoImplicit false
set_option relaxedAutoImplicit false

/-!
# What a registry holds

Implementations ask for keys one after the other. Each key stays with the first one that asked for
it, and the keys are listed in the order in which they were first asked for.

## Main definitions

* `FlopCensus.Registry.after` — a registry after some attempts to register.

## Main results

* `FlopCensus.Registry.register_eq_ok_iff` — when an attempt succeeds, and what it does.
* `FlopCensus.Registry.find?_after`, `FlopCensus.Registry.keys_after` — the entries and the keys
  after any attempts.
* `FlopCensus.Registry.first_registration_stands` — what a registry answers.
* `FlopCensus.Registry.create_eq_ok_iff` — what can be built.
-/

namespace FlopCensus.Registry

open Inventory (distinct)

variable {α : Type} {r r' : Registry α} {key name : String} {item : α} {e : Entry α}

/-! ### One attempt -/

/-- A key is listed if and only if something holds it. -/
lemma mem_keys_iff : key ∈ r.keys ↔ ∃ e, r.find? key = some e := by
  unfold keys find?
  rw [List.mem_map, ← Option.isSome_iff_exists, List.find?_isSome]
  simp only [beq_iff_eq]

/-- A key is not listed if and only if nothing holds it. -/
lemma find?_eq_none_iff : r.find? key = none ↔ key ∉ r.keys := by
  rw [mem_keys_iff, ← Option.isSome_iff_exists, Option.not_isSome_iff_eq_none]

/-- What holds a key is registered under it. -/
lemma key_of_find? (h : r.find? key = some e) : e.key = key := by
  have hkey := List.find?_some h
  exact eq_of_beq hkey

/-- **An attempt to register succeeds** if and only if the key is free. The implementation comes
last, and the others stay as they are. -/
theorem register_eq_ok_iff :
    r.register key name item = .ok r' ↔
      key ∉ r.keys ∧ r' = { r with entries := r.entries ++ [⟨key, name, item⟩] } := by
  unfold register
  cases h : r.find? key with
  | some holder => simp [mem_keys_iff, h]
  | none =>
    rw [find?_eq_none_iff] at h
    simp [h, eq_comm]

/-- An attempt that fails tells which implementation holds the key. -/
theorem register_eq_error_iff {error : Error} :
    r.register key name item = .error error ↔
      ∃ holder, r.find? key = some holder ∧ error = .taken r.kind key name holder.name := by
  unfold register
  cases h : r.find? key with
  | some holder => simp [eq_comm]
  | none => simp

/-! ### Many attempts -/

/-- The registry after an implementation has asked for a key. If another one holds the key, nothing
changes. -/
def attempt (r : Registry α) (e : Entry α) : Registry α :=
  match r.register e.key e.name e.item with
  | .ok r' => r'
  | .error _ => r

/-- The registry after some implementations have asked for keys, one after the other. -/
def after (r : Registry α) (attempts : List (Entry α)) : Registry α :=
  attempts.foldl attempt r

/-- An attempt for a key that is free. -/
lemma attempt_of_notMem (h : e.key ∉ r.keys) :
    r.attempt e = { r with entries := r.entries ++ [e] } := by
  unfold attempt
  rw [register_eq_ok_iff.2 ⟨h, rfl⟩]

/-- An attempt for a key that something holds. -/
lemma attempt_of_mem (h : e.key ∈ r.keys) : r.attempt e = r := by
  obtain ⟨holder, hholder⟩ := mem_keys_iff.1 h
  unfold attempt
  rw [register_eq_error_iff.2 ⟨holder, hholder, rfl⟩]

/-- What holds a key after an attempt. -/
lemma find?_attempt (r : Registry α) (e : Entry α) (key : String) :
    (r.attempt e).find? key = (r.find? key).or (if e.key == key then some e else none) := by
  by_cases h : e.key ∈ r.keys
  · rw [attempt_of_mem h]
    by_cases hkey : e.key = key
    · obtain ⟨holder, hholder⟩ := mem_keys_iff.1 (hkey ▸ h)
      rw [hholder, Option.some_or]
    · rw [if_neg (by simpa using hkey), Option.or_none]
  · rw [attempt_of_notMem h]
    unfold find?
    rw [List.find?_append, List.find?_singleton]

/-- The keys after an attempt. -/
lemma keys_attempt (r : Registry α) (e : Entry α) :
    (r.attempt e).keys = if e.key ∈ r.keys then r.keys else r.keys ++ [e.key] := by
  split
  · rename_i h
    rw [attempt_of_mem h]
  · rename_i h
    rw [attempt_of_notMem h]
    exact List.map_append

/-- An attempt does not change what the registry is for. -/
lemma kind_attempt (r : Registry α) (e : Entry α) : (r.attempt e).kind = r.kind := by
  by_cases h : e.key ∈ r.keys
  · rw [attempt_of_mem h]
  · rw [attempt_of_notMem h]

/-- Attempts do not change what the registry is for. -/
@[simp]
lemma kind_after (r : Registry α) (attempts : List (Entry α)) :
    (r.after attempts).kind = r.kind := by
  induction attempts generalizing r with
  | nil => rfl
  | cons e rest ih => exact (ih (r.attempt e)).trans (kind_attempt r e)

/-- **What holds a key after some attempts**: what held it before, or else the first that asked for
it. -/
theorem find?_after (r : Registry α) (attempts : List (Entry α)) (key : String) :
    (r.after attempts).find? key = (r.find? key).or (attempts.find? (·.key == key)) := by
  induction attempts generalizing r with
  | nil => rw [List.find?_nil, Option.or_none]; rfl
  | cons e rest ih =>
    change ((r.attempt e).after rest).find? key = _
    rw [ih, find?_attempt, Option.or_assoc, List.find?_cons]
    cases e.key == key <;> rfl

/-- **The keys after some attempts**: those from before, and behind them the others in the order in
which they were first asked for. -/
theorem keys_after (r : Registry α) (attempts : List (Entry α)) :
    (r.after attempts).keys =
      r.keys ++ (distinct (attempts.map (·.key))).filter (· ∉ r.keys) := by
  induction attempts generalizing r with
  | nil => exact (List.append_nil _).symm
  | cons e rest ih =>
    change ((r.attempt e).after rest).keys = _
    rw [ih, keys_attempt, List.map_cons, distinct, List.filter_cons, List.filter_filter]
    by_cases h : e.key ∈ r.keys
    · -- a key that is held already is one of those that are passed over
      rw [if_pos h, if_neg (by simpa using h)]
      congr 1
      refine List.filter_congr fun k _ => ?_
      by_cases hk : k = e.key
      · simp [hk, h]
      · simp [hk]
    · rw [if_neg h, if_pos (by simpa using h), List.append_assoc, List.singleton_append]
      congr 2
      refine List.filter_congr fun k _ => ?_
      rw [Bool.eq_iff_iff]
      simp

/-! ### What a registry answers -/

/-- **The first registration stands.** Take a registry that was empty before some attempts, made in
any order and with any keys.

* A look-up yields the first implementation that asked for the key, and otherwise an error that
  lists all keys that were asked for, without repetitions and in the order of first attempts.
* A further attempt is refused if and only if the key was asked for before, and the error names the
  first implementation that asked for it. -/
theorem first_registration_stands (kind : String) (attempts : List (Entry α)) (key : String) :
    (({ kind } : Registry α).after attempts).get key =
      (match attempts.find? (·.key == key) with
      | some e => .ok e
      | none => .error (.unknown kind key (distinct (attempts.map (·.key))))) ∧
    ∀ (name : String) (item : α) (error : Error),
      (({ kind } : Registry α).after attempts).register key name item = .error error ↔
        ∃ first, attempts.find? (·.key == key) = some first ∧
          error = .taken kind key name first.name := by
  have hfind : (({ kind } : Registry α).after attempts).find? key =
      attempts.find? (·.key == key) := by
    rw [find?_after]
    rfl
  have hkeys : (({ kind } : Registry α).after attempts).keys =
      distinct (attempts.map (·.key)) := by
    rw [keys_after]
    exact List.filter_eq_self.2 fun k _ => decide_eq_true List.not_mem_nil
  constructor
  · cases hfirst : attempts.find? (·.key == key) with
    | none => simp only [get, hfind, hfirst, hkeys, kind_after]
    | some e => simp only [get, hfind, hfirst]
  · intro name item error
    rw [register_eq_error_iff, hfind, kind_after]

/-- The keys of a registry that was empty at first are distinct. -/
theorem nodup_keys_after (kind : String) (attempts : List (Entry α)) :
    (({ kind } : Registry α).after attempts).keys.Nodup := by
  rw [keys_after]
  exact (Inventory.nodup_distinct _).filter _

/-- The formats of reports are all registered, none of them being refused its key. -/
example : (({ kind := "renderer" } : Registry Report.Format).after Report.formats.entries).keys =
    Report.formats.keys := by
  decide

/-- **What can be built**: something under a key that is held, with parameters that the registry
does not need itself. -/
theorem create_eq_ok_iff {parameters : List String} :
    r.create key parameters = .ok e ↔
      (∀ p ∈ parameters, p ∉ reserved) ∧ r.find? key = some e := by
  unfold create get
  cases hp : parameters.find? reserved.contains with
  | some p =>
    have hmem : p ∈ parameters := List.mem_of_find?_eq_some hp
    have hreserved : p ∈ reserved := by simpa using List.find?_some hp
    simp only [reduceCtorEq, false_iff, not_and]
    exact fun hall => absurd hreserved (hall p hmem)
  | none =>
    have hall : ∀ p ∈ parameters, p ∉ reserved := by simpa using hp
    cases hkey : r.find? key with
    | some holder => simp only [Except.ok.injEq, Option.some.injEq, and_iff_right hall]
    | none => simp

end FlopCensus.Registry
