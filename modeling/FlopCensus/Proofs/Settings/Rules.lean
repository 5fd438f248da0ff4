import FlopCensus.Proofs.Settings

set_option autoImplicit false
set_option relaxedAutoImplicit false

/-!
# Which settings are refused

A document is checked key by key, and the first value that is not as its key demands is the error.
So the checks amount to a table of the known keys, in the order in which they are looked at, with
what each of them demands: the settings are had if the table finds no fault, and otherwise the
first of its faults is the error.

## Main definitions

* `FlopCensus.Settings.Demand`, `FlopCensus.Settings.rules` — what the known keys demand.
* `FlopCensus.Settings.Part.faults` — the faults of a document in the order in which they are found.
* `FlopCensus.Settings.Reports` — a computation fails with the first of some faults.
* `FlopCensus.Settings.Demand.HasType`, `FlopCensus.Settings.Demand.InRange` — what is demanded, in
  terms of the value.

## Main results

* `FlopCensus.Settings.reports_ofPart` — reading the settings reports the faults of the document.
* `FlopCensus.Settings.Part.faults_eq_nil_iff_meets` — the documents without faults.

## Design

A check may stop a computation in its middle, so that faults are counted along the computation: if
one reports `fs` and what follows it reports `gs`, then together they report `fs ++ gs`
(`FlopCensus.Settings.Reports.bind`). A check has the faults that it can find as a list of at most
one, and a value that several checks look at has theirs one after the other.
-/

namespace FlopCensus.Settings

open Numeral (Number)
open Yaml (Document Item Scalar)

/-! ### Reports -/

/-- The computation fails with the first of the faults, and does not fail if there is none. -/
def Reports {α : Type} (m : Except Error α) (faults : List Error) : Prop :=
  match m with
  | .ok _ => faults = []
  | .error e => faults.head? = some e

section Reports

variable {α β : Type} {m : Except Error α} {fs gs : List Error}

/-- A computation that yields a value at once finds no fault. -/
lemma Reports.pure (a : α) : Reports (Pure.pure a : Except Error α) [] := rfl

/-- One after the other, two computations report the faults of the first one before those of the
second one. -/
lemma Reports.bind {f : α → Except Error β} (hm : Reports m fs)
    (hf : ∀ a, m = .ok a → Reports (f a) gs) : Reports (m >>= f) (fs ++ gs) := by
  cases m with
  | error e =>
    have hfirst : fs.head? = some e := hm
    change (fs ++ gs).head? = some e
    rw [List.head?_append, hfirst, Option.some_or]
  | ok a =>
    obtain rfl : fs = [] := hm
    exact hf a rfl

/-- A check finds its fault before those that come later. -/
lemma Reports.check {c : Prop} [Decidable c] {e : Error} (hm : ¬c → Reports m gs) :
    Reports (if c then throw e else m) ((if c then [e] else []) ++ gs) := by
  by_cases hc : c
  · rw [if_pos hc, if_pos hc]
    rfl
  · rw [if_neg hc, if_neg hc]
    exact hm hc

/-- So does a check with nothing to come after it. -/
lemma Reports.check_pure {c : Prop} [Decidable c] {e : Error} (a : α) :
    Reports (if c then throw e else Pure.pure a) (if c then [e] else []) := by
  by_cases hc : c
  · rw [if_pos hc, if_pos hc]
    rfl
  · rw [if_neg hc, if_neg hc]
    rfl

/-- A computation that reports no fault yields a value. -/
lemma Reports.isOk_iff (hm : Reports m fs) : (∃ a, m = .ok a) ↔ fs = [] := by
  cases m with
  | error e =>
    have hfirst : fs.head? = some e := hm
    refine iff_of_false (by simp) ?_
    rintro rfl
    cases hfirst
  | ok a => exact iff_of_true ⟨a, rfl⟩ hm

/-- A computation fails with the first fault that it reports. -/
lemma Reports.eq_error_iff (hm : Reports m fs) {e : Error} :
    m = .error e ↔ fs.head? = some e := by
  cases m with
  | error e' =>
    have hfirst : fs.head? = some e' := hm
    simp [hfirst]
  | ok a =>
    obtain rfl : fs = [] := hm
    simp

end Reports

/-! ### The rules -/

/-- What a known key demands of its value: a type, and for some of them a range. -/
inductive Demand where
  /-- A text. -/
  | text
  /-- A list of texts. -/
  | texts
  /-- A number of seconds. -/
  | seconds
  /-- An integer. -/
  | integer
  /-- A truth value. -/
  | truth
  /-- A mapping. -/
  | mapping
  /-- An integer that is at least one. -/
  | count
  /-- A number of seconds that is not negative. -/
  | lifetime
deriving DecidableEq

/-- A known key with what it demands. -/
structure Rule where
  /-- The section that the key belongs to, if it is one. -/
  inside : Option String
  /-- The key. -/
  key : String
  /-- What the value must be. -/
  demand : Demand
deriving DecidableEq

/-- The rules in the order in which the keys are looked at. -/
def rules : List Rule :=
  [⟨none, "syntax_binary", .text⟩, ⟨none, "search_paths", .texts⟩, ⟨none, "timeout", .seconds⟩,
    ⟨none, "extensions", .texts⟩, ⟨none, "jobs", .integer⟩, ⟨none, "cache", .mapping⟩,
    ⟨some "cache", "enabled", .truth⟩, ⟨some "cache", "size", .count⟩,
    ⟨some "cache", "ttl", .lifetime⟩, ⟨none, "logging", .mapping⟩,
    ⟨some "logging", "level", .text⟩]

/-- The top of a document has no other known keys. -/
example : (rules.filter (·.inside.isNone)).map (·.key) = knownKeys := by decide

/-- The error about a value of the wrong type; one that cannot be shown is an error of its own. -/
def misfit (d : Document) (key : String) (v : Item) : Error :=
  match d.quote v with
  | .ok shown => .invalid key shown
  | .error e => .numeral e

/-- The fault of a value that is no scalar of a type. -/
def misfits {α : Type} (d : Document) (key : String) (type : Scalar → Option α) (v : Item) :
    List Error :=
  if ((Document.scalar? v).bind type).isSome then [] else [misfit d key v]

/-- The fault of a number that is too large for a number of seconds. -/
def overflows (v : Item) : List Error :=
  match (Document.scalar? v).bind number? with
  | some n => if n.toReal?.isSome then [] else [.tooLarge]
  | none => []

/-- The fault of an integer that is less than one. -/
def tooFew (v : Item) : List Error :=
  if ((Document.scalar? v).bind integer?).any (· < 1) then [.cacheSize] else []

/-- The fault of a negative number of seconds. -/
def negative (v : Item) : List Error :=
  if (((Document.scalar? v).bind number?).bind (·.toReal?)).any (· < 0) then [.cacheLifetime]
  else []

/-- The faults of a value. -/
def Demand.faults (s : Part) (key : String) : Demand → Item → List Error
  | .text, v => misfits s.document key text? v
  | .texts, v => if (s.texts? v).isSome then [] else [.notTexts key]
  | .seconds, v => misfits s.document key number? v ++ overflows v
  | .integer, v => misfits s.document key integer? v
  | .truth, v => misfits s.document key truth? v
  | .mapping, v =>
    if s.document.isVoid v || (s.document.mapping? v).isSome then [] else [.sectionNotMapping key]
  | .count, v => misfits s.document key integer? v ++ tooFew v
  | .lifetime, v => misfits s.document key number? v ++ (overflows v ++ negative v)

namespace Part

/-- The section below a key; it is empty where there is no mapping. -/
def inner (s : Part) (key : String) : Part :=
  { s with entries := ((s.value? key).bind s.document.mapping?).getD [] }

/-- The section that a rule is about. -/
def about (s : Part) (rule : Rule) : Part :=
  (rule.inside.map s.inner).getD s

/-- The value of a rule's key, if there is one. -/
def given? (s : Part) (rule : Rule) : Option Item :=
  (s.about rule).value? rule.key

/-- What a check finds at the value of a key, if there is one. -/
def faultsAt (s : Part) (key : String) (check : Item → List Error) : List Error :=
  ((s.value? key).map check).getD []

/-- What a rule finds in a document. -/
def faultsOf (s : Part) (rule : Rule) : List Error :=
  (s.about rule).faultsAt rule.key (rule.demand.faults (s.about rule) rule.key)

/-- The faults of a document, in the order in which they are found. -/
def faults (s : Part) : List Error :=
  rules.flatMap s.faultsOf

/-- Two checks find their faults one after the other. -/
lemma faultsAt_append (s : Part) (key : String) (check check' : Item → List Error) :
    s.faultsAt key (fun v => check v ++ check' v) =
      s.faultsAt key check ++ s.faultsAt key check' := by
  unfold faultsAt
  cases s.value? key <;> rfl

/-! ### Checks -/

/-- A value of the wrong type is refused. -/
lemma invalid_eq {α : Type} (s : Part) (key : String) (v : Item) :
    (s.invalid key v : Except Error α) = .error (misfit s.document key v) := by
  unfold invalid misfit
  cases s.document.quote v <;> rfl

/-- The value of a key, as a scalar of a type. -/
def typed? {α : Type} (s : Part) (key : String) (type : Scalar → Option α) : Option α :=
  (s.value? key).bind fun v => (Document.scalar? v).bind type

/-- What is expected at a key is a scalar of its type. -/
lemma eq_typed?_of_expect {α : Type} {s : Part} {key : String} {type : Scalar → Option α}
    {o : Option α} (h : s.expect key type = .ok o) : o = s.typed? key type := by
  unfold expect at h
  unfold typed?
  cases hv : s.value? key with
  | none =>
    rw [hv] at h
    exact (Except.ok.inj h).symm
  | some v =>
    simp only [hv, invalid_eq] at h
    rw [Option.bind_some]
    cases htype : (Document.scalar? v).bind type with
    | none =>
      rw [htype] at h
      cases h
    | some a =>
      rw [htype] at h
      exact (Except.ok.inj h).symm

/-- What is expected at a key is refused if it has the wrong type. -/
lemma reports_expect {α : Type} (s : Part) (key : String) (type : Scalar → Option α) :
    Reports (s.expect key type) (s.faultsAt key (misfits s.document key type)) := by
  unfold expect faultsAt
  cases s.value? key with
  | none => rfl
  | some v =>
    dsimp only [Option.map_some, Option.getD_some, misfits]
    rw [invalid_eq]
    cases (Document.scalar? v).bind type <;> rfl

/-- A list of texts is refused if it is none. -/
lemma reports_expectTexts (s : Part) (key : String) :
    Reports (s.expectTexts key) (s.faultsAt key (Demand.texts.faults s key)) := by
  unfold expectTexts faultsAt
  cases s.value? key with
  | none => rfl
  | some v =>
    dsimp only [Option.map_some, Option.getD_some, Demand.faults]
    cases s.texts? v <;> rfl

/-- A number of seconds is refused if it is too large. -/
lemma reports_seconds (s : Part) (key : String) :
    Reports ((s.typed? key number?).mapM seconds) (s.faultsAt key overflows) := by
  unfold typed? faultsAt
  cases s.value? key with
  | none => rfl
  | some v =>
    dsimp only [Option.map_some, Option.getD_some, Option.bind_some, overflows]
    cases (Document.scalar? v).bind number? with
    | none => rfl
    | some n =>
      dsimp only [Option.mapM_some, seconds]
      cases n.toReal? <;> rfl

/-- The number of seconds at a key. -/
lemma eq_of_mapM_seconds {s : Part} {key : String} {t : Option Float}
    (h : (s.typed? key number?).mapM seconds = .ok t) :
    t = (s.typed? key number?).bind (·.toReal?) := by
  cases hn : s.typed? key number? with
  | none =>
    rw [hn] at h
    exact (Except.ok.inj h).symm
  | some n =>
    rw [hn] at h
    obtain ⟨x, hx, h⟩ := bind_eq_ok.1 h
    obtain rfl := Except.ok.inj h
    unfold seconds at hx
    rw [Option.bind_some]
    cases hreal : n.toReal? with
    | none =>
      rw [hreal] at hx
      cases hx
    | some y =>
      rw [hreal] at hx
      rw [Except.ok.inj hx]

/-- The section below a key is refused if it is neither nothing nor a mapping. -/
lemma reports_below (s : Part) (key : String) :
    Reports (s.below key) (s.faultsAt key (Demand.mapping.faults s key)) := by
  unfold below faultsAt
  cases s.value? key with
  | none => rfl
  | some v =>
    dsimp only [Option.map_some, Option.getD_some, Demand.faults]
    cases hvoid : s.document.isVoid v <;> cases s.document.mapping? v <;> rfl

/-- A mapping that counts as nothing has no entries. -/
lemma eq_nil_of_isVoid {d : Document} {v : Item} {es : List (Scalar × Item)}
    (hvoid : d.isVoid v = true) (hmapping : d.mapping? v = some es) : es = [] := by
  unfold Document.mapping? Document.collection? at hmapping
  unfold Document.isVoid at hvoid
  cases v with
  | scalar c => cases hmapping
  | shared i =>
    dsimp only at hmapping hvoid
    split at hmapping
    · rename_i entries hentries
      rw [hentries] at hvoid
      obtain rfl := Option.some.inj hmapping
      exact List.isEmpty_iff.1 hvoid
    · cases hmapping

/-- The section below a key. -/
lemma eq_inner_of_below {s p : Part} {key : String} (h : s.below key = .ok p) :
    p = s.inner key := by
  unfold below at h
  unfold inner
  cases hv : s.value? key with
  | none =>
    rw [hv] at h
    exact (Except.ok.inj h).symm
  | some v =>
    simp only [hv] at h
    rw [Option.bind_some]
    split at h
    · rename_i hvoid
      obtain rfl := Except.ok.inj h
      cases hmapping : s.document.mapping? v with
      | none => rfl
      | some es => rw [eq_nil_of_isVoid hvoid hmapping, Option.getD_some]
    · cases hmapping : s.document.mapping? v with
      | none =>
        rw [hmapping] at h
        cases h
      | some es =>
        rw [hmapping] at h
        exact (Except.ok.inj h).symm

end Part

/-! ### Reading the settings -/

/-- The check of a number of results finds what is expected to be found at its key. -/
lemma faultsAt_tooFew (s : Part) (key : String) :
    s.faultsAt key tooFew = if (s.typed? key integer?).any (· < 1) then [.cacheSize] else [] := by
  unfold Part.faultsAt Part.typed?
  cases s.value? key <;> rfl

/-- So does the check of a lifetime. -/
lemma faultsAt_negative (s : Part) (key : String) :
    s.faultsAt key negative =
      if ((s.typed? key number?).bind (·.toReal?)).any (· < 0) then [.cacheLifetime] else [] := by
  unfold Part.faultsAt Part.typed?
  cases s.value? key <;> rfl

/-- The section about the cache is checked key by key. -/
lemma reports_withCache (settings : Settings) (s : Part) :
    Reports (settings.withCache s)
      (s.faultsAt "enabled" (Demand.truth.faults s "enabled") ++
        (s.faultsAt "size" (Demand.count.faults s "size") ++
          s.faultsAt "ttl" (Demand.lifetime.faults s "ttl"))) := by
  have hsize : s.faultsAt "size" (Demand.count.faults s "size") =
      s.faultsAt "size" (misfits s.document "size" integer?) ++ s.faultsAt "size" tooFew :=
    s.faultsAt_append "size" _ _
  have hlifetime : s.faultsAt "ttl" (Demand.lifetime.faults s "ttl") =
      s.faultsAt "ttl" (misfits s.document "ttl" number?) ++
        (s.faultsAt "ttl" overflows ++ s.faultsAt "ttl" negative) := by
    rw [← s.faultsAt_append]
    exact s.faultsAt_append "ttl" _ _
  rw [hsize, hlifetime, faultsAt_tooFew, faultsAt_negative, List.append_assoc]
  -- each value is checked as soon as it is read, before the next key is looked at
  unfold withCache
  refine (s.reports_expect "enabled" truth?).bind fun enabled _ => ?_
  refine (s.reports_expect "size" integer?).bind fun size hsize => ?_
  rw [Part.eq_typed?_of_expect hsize]
  refine Reports.check fun _ => ?_
  refine (s.reports_expect "ttl" number?).bind fun given hgiven => ?_
  rw [Part.eq_typed?_of_expect hgiven]
  refine (s.reports_seconds "ttl").bind fun lifetime hlifetime => ?_
  rw [Part.eq_of_mapM_seconds hlifetime]
  exact Reports.check_pure _

/-- The faults of a document, key by key. -/
lemma faults_eq (s : Part) :
    s.faults =
      s.faultsAt "syntax_binary" (Demand.text.faults s "syntax_binary") ++
      (s.faultsAt "search_paths" (Demand.texts.faults s "search_paths") ++
      ((s.faultsAt "timeout" (misfits s.document "timeout" number?) ++
        s.faultsAt "timeout" overflows) ++
      (s.faultsAt "extensions" (Demand.texts.faults s "extensions") ++
      (s.faultsAt "jobs" (Demand.integer.faults s "jobs") ++
      (s.faultsAt "cache" (Demand.mapping.faults s "cache") ++
      (((s.inner "cache").faultsAt "enabled" (Demand.truth.faults (s.inner "cache") "enabled") ++
        ((s.inner "cache").faultsAt "size" (Demand.count.faults (s.inner "cache") "size") ++
          (s.inner "cache").faultsAt "ttl" (Demand.lifetime.faults (s.inner "cache") "ttl"))) ++
      (s.faultsAt "logging" (Demand.mapping.faults s "logging") ++
      ((s.inner "logging").faultsAt "level" (Demand.text.faults (s.inner "logging") "level") ++
        [])))))))) := by
  rw [← s.faultsAt_append "timeout"]
  simp only [Part.faults, rules, List.flatMap_cons, List.flatMap_nil, List.append_assoc]
  rfl

/-- **Reading the settings reports the faults of the document.** -/
theorem reports_ofPart (s : Part) : Reports (ofPart s) s.faults := by
  rw [faults_eq]
  unfold ofPart
  refine (s.reports_expect "syntax_binary" text?).bind fun tool _ => ?_
  refine (s.reports_expectTexts "search_paths").bind fun paths _ => ?_
  rw [List.append_assoc]
  refine (s.reports_expect "timeout" number?).bind fun timeout htimeout => ?_
  rw [Part.eq_typed?_of_expect htimeout]
  refine (s.reports_seconds "timeout").bind fun duration _ => ?_
  refine (s.reports_expectTexts "extensions").bind fun extensions _ => ?_
  refine (s.reports_expect "jobs" integer?).bind fun jobs _ => ?_
  refine (s.reports_below "cache").bind fun cache hcache => ?_
  rw [Part.eq_inner_of_below hcache]
  refine (reports_withCache _ (s.inner "cache")).bind fun settings _ => ?_
  refine (s.reports_below "logging").bind fun logging hlogging => ?_
  rw [Part.eq_inner_of_below hlogging]
  exact ((s.inner "logging").reports_expect "level" text?).bind fun level _ => Reports.pure _

/-! ### What is accepted -/

/-- The value has the type that is demanded. -/
def Demand.HasType (d : Document) (v : Item) : Demand → Prop
  | .text => ∃ t, v = .scalar (.text t)
  | .texts =>
    (∃ items, d.collection? v = some (.list items) ∧
        ∀ item ∈ items, ∃ t, item = .scalar (.text t)) ∨
      d.collection? v = some (.pairs [])
  | .seconds | .lifetime => ∃ n, v = .scalar (.number n)
  | .integer | .count => ∃ i, v = .scalar (.number (.int i))
  | .truth => ∃ b, v = .scalar (.bool b)
  | .mapping => ∃ es, d.collection? v = some (.mapping es)

/-- A value of the type that is demanded is in range. -/
def Demand.InRange (v : Item) : Demand → Prop
  | .seconds => ∀ n, v = .scalar (.number n) → n.toReal?.isSome
  | .lifetime => ∀ n, v = .scalar (.number n) → ∃ x, n.toReal? = some x ∧ ¬x < 0
  | .count => ∀ i, v = .scalar (.number (.int i)) → 1 ≤ i
  | _ => True

/-- A section is demanded and the value counts as nothing. -/
def Demand.IsVoid (d : Document) (v : Item) : Demand → Prop
  | .mapping => d.isVoid v = true
  | _ => False

/-- The error about a value that has not the type that is demanded. -/
def Demand.refusal (d : Document) (key : String) (v : Item) : Demand → Error
  | .texts => .notTexts key
  | .mapping => .sectionNotMapping key
  | _ => misfit d key v

/-- The error is foreseen, as long as the value can be shown. -/
lemma Demand.isForeseen_refusal {d : Document} {v : Item} {shown : String}
    (hshown : d.quote v = .ok shown) {key : String} (demand : Demand) :
    (demand.refusal d key v).isForeseen := by
  have hmisfit : (misfit d key v).isForeseen := by
    unfold misfit
    rw [hshown]
    rfl
  cases demand with
  | texts => rfl
  | mapping => rfl
  | _ => exact hmisfit

section Accepted

variable {s : Part} {key : String} {v : Item} {demand : Demand}

/-- The value is a text. -/
lemma bind_text?_eq_some_iff {t : String} :
    (Document.scalar? v).bind text? = some t ↔ v = .scalar (.text t) := by
  rcases v with (_ | _ | _ | _ | _ | _ | _) | _ <;> simp [Document.scalar?, text?]

/-- The value is a truth value. -/
lemma bind_truth?_eq_some_iff {b : Bool} :
    (Document.scalar? v).bind truth? = some b ↔ v = .scalar (.bool b) := by
  rcases v with (_ | _ | _ | _ | _ | _ | _) | _ <;> simp [Document.scalar?, truth?]

/-- The value is a number. -/
lemma bind_number?_eq_some_iff {n : Number} :
    (Document.scalar? v).bind number? = some n ↔ v = .scalar (.number n) := by
  rcases v with (_ | _ | _ | _ | _ | _ | _) | _ <;> simp [Document.scalar?, number?]

/-- The value is an integer. -/
lemma bind_integer?_eq_some_iff {i : Int} :
    (Document.scalar? v).bind integer? = some i ↔ v = .scalar (.number (.int i)) := by
  rcases v with (_ | _ | (_ | _) | _ | _ | _ | _) | _ <;> simp [Document.scalar?, integer?]

/-- A scalar of a type is no misfit. -/
lemma misfits_eq_nil_iff {α : Type} {type : Scalar → Option α} {d : Document} :
    misfits d key type v = [] ↔ ∃ a, (Document.scalar? v).bind type = some a := by
  unfold misfits
  rw [← Option.isSome_iff_exists]
  split <;> simp_all

/-- A number of seconds that is not too large. -/
lemma overflows_eq_nil_iff :
    overflows v = [] ↔ ∀ n, v = .scalar (.number n) → n.toReal?.isSome := by
  unfold overflows
  simp only [← bind_number?_eq_some_iff]
  cases (Document.scalar? v).bind number? <;> simp [Option.isSome_iff_ne_none]

/-- At least one result. -/
lemma tooFew_eq_nil_iff : tooFew v = [] ↔ ∀ i, v = .scalar (.number (.int i)) → 1 ≤ i := by
  unfold tooFew
  simp only [← bind_integer?_eq_some_iff]
  cases (Document.scalar? v).bind integer? <;> simp

/-- A number of seconds that is neither too large nor negative. -/
lemma lifetime_eq_nil_iff :
    overflows v ++ negative v = [] ↔
      ∀ n, v = .scalar (.number n) → ∃ x, n.toReal? = some x ∧ ¬x < 0 := by
  unfold overflows negative
  simp only [← bind_number?_eq_some_iff]
  cases (Document.scalar? v).bind number? with
  | none => simp
  | some n => cases hreal : n.toReal? <;> simp [hreal]

omit s key v demand in
/-- All elements have an image if the list of the images can be had. -/
lemma isSome_mapM_iff {α β : Type} {f : α → Option β} {l : List α} :
    (l.mapM f).isSome ↔ ∀ a ∈ l, (f a).isSome := by
  induction l with
  | nil => simp
  | cons a l ih =>
    rw [List.mapM_cons, List.forall_mem_cons, ← ih]
    cases f a <;> cases l.mapM f <;> simp

/-- A list of texts. -/
lemma isSome_texts?_iff : (s.texts? v).isSome ↔ Demand.texts.HasType s.document v := by
  unfold Part.texts? Demand.HasType
  cases s.document.collection? v with
  | none => simp
  | some c =>
    cases c with
    | list items =>
      dsimp only
      rw [isSome_mapM_iff]
      trans ∀ item ∈ items, ∃ t, item = .scalar (.text t)
      · refine forall₂_congr fun item _ => ?_
        rcases item with (_ | _ | _ | _ | _ | _ | _) | _ <;> simp
      · simp
    | pairs items => cases items <;> simp
    | mapping entries => simp
    | set members => simp

/-- A mapping. -/
lemma isSome_mapping?_iff {d : Document} :
    (d.mapping? v).isSome ↔ Demand.mapping.HasType d v := by
  unfold Document.mapping? Demand.HasType
  cases d.collection? v with
  | none => simp
  | some c => cases c <;> simp

/-- **A value is accepted** if it has the type that is demanded and is in range. A section may also
be a value that counts as nothing. -/
lemma faults_eq_nil_iff :
    demand.faults s key v = [] ↔
      (demand.HasType s.document v ∧ demand.InRange v) ∨ demand.IsVoid s.document v := by
  cases demand with
  | text =>
    simp only [Demand.faults, Demand.HasType, Demand.InRange, Demand.IsVoid, misfits_eq_nil_iff,
      bind_text?_eq_some_iff, and_true, or_false]
  | texts =>
    simp only [Demand.faults, Demand.InRange, Demand.IsVoid, ← isSome_texts?_iff]
    split <;> simp_all
  | seconds =>
    simp only [Demand.faults, Demand.HasType, Demand.InRange, Demand.IsVoid, misfits_eq_nil_iff,
      bind_number?_eq_some_iff, List.append_eq_nil_iff, overflows_eq_nil_iff, or_false]
  | integer =>
    simp only [Demand.faults, Demand.HasType, Demand.InRange, Demand.IsVoid, misfits_eq_nil_iff,
      bind_integer?_eq_some_iff, and_true, or_false]
  | truth =>
    simp only [Demand.faults, Demand.HasType, Demand.InRange, Demand.IsVoid, misfits_eq_nil_iff,
      bind_truth?_eq_some_iff, and_true, or_false]
  | mapping =>
    simp only [Demand.faults, Demand.InRange, Demand.IsVoid, and_true, ← isSome_mapping?_iff]
    split <;> simp_all [or_comm]
  | count =>
    simp only [Demand.faults, Demand.HasType, Demand.InRange, Demand.IsVoid, misfits_eq_nil_iff,
      bind_integer?_eq_some_iff, List.append_eq_nil_iff, tooFew_eq_nil_iff, or_false]
  | lifetime =>
    rw [Demand.faults, List.append_eq_nil_iff, lifetime_eq_nil_iff, misfits_eq_nil_iff]
    simp only [Demand.HasType, Demand.InRange, Demand.IsVoid, bind_number?_eq_some_iff, or_false]

/-- The first fault of a misfit is that it is one. -/
lemma head?_misfits {α : Type} {type : Scalar → Option α} {d : Document}
    (h : ¬∃ a, (Document.scalar? v).bind type = some a) (rest : List Error) :
    (misfits d key type v ++ rest).head? = some (misfit d key v) := by
  rw [← Option.isSome_iff_exists] at h
  unfold misfits
  rw [if_neg h]
  rfl

variable (s key) in
/-- **A value of the wrong type is refused** with an error about its key, unless it counts as
nothing and a section is demanded. -/
lemma head?_faults_of_not_hasType (htype : ¬demand.HasType s.document v)
    (hvoid : ¬demand.IsVoid s.document v) :
    (demand.faults s key v).head? = some (demand.refusal s.document key v) := by
  cases demand with
  | text =>
    rw [Demand.faults, ← List.append_nil (misfits _ _ _ _)]
    exact head?_misfits (fun ⟨t, ht⟩ => htype ⟨t, bind_text?_eq_some_iff.1 ht⟩) []
  | texts =>
    rw [Demand.faults, if_neg (mt isSome_texts?_iff.1 htype)]
    rfl
  | seconds => exact head?_misfits (fun ⟨n, hn⟩ => htype ⟨n, bind_number?_eq_some_iff.1 hn⟩) _
  | integer =>
    rw [Demand.faults, ← List.append_nil (misfits _ _ _ _)]
    exact head?_misfits (fun ⟨i, hi⟩ => htype ⟨i, bind_integer?_eq_some_iff.1 hi⟩) []
  | truth =>
    rw [Demand.faults, ← List.append_nil (misfits _ _ _ _)]
    exact head?_misfits (fun ⟨b, hb⟩ => htype ⟨b, bind_truth?_eq_some_iff.1 hb⟩) []
  | mapping =>
    have hneither : ¬(s.document.isVoid v || (s.document.mapping? v).isSome) = true := by
      rw [Bool.or_eq_true, isSome_mapping?_iff]
      exact fun h => h.elim hvoid htype
    rw [Demand.faults, if_neg hneither]
    rfl
  | count => exact head?_misfits (fun ⟨i, hi⟩ => htype ⟨i, bind_integer?_eq_some_iff.1 hi⟩) _
  | lifetime => exact head?_misfits (fun ⟨n, hn⟩ => htype ⟨n, bind_number?_eq_some_iff.1 hn⟩) _

/-- A misfit is an error that nobody foresaw only if it cannot be shown. -/
lemma unforeseen_of_mem_misfits {α : Type} {type : Scalar → Option α} {d : Document} {e : Error}
    (he : e ∈ misfits d key type v) (hforeseen : e.isForeseen = false) :
    ∃ failure, e = .numeral failure ∧ d.quote v = .error failure := by
  unfold misfits misfit at he
  split at he
  · cases he
  · obtain rfl := List.mem_singleton.1 he
    cases hquote : d.quote v with
    | ok shown =>
      rw [hquote] at hforeseen
      cases hforeseen
    | error failure => exact ⟨failure, rfl, rfl⟩

/-- Only integers are too large for a number of seconds. -/
lemma of_mem_overflows {e : Error} (he : e ∈ overflows v) :
    e = .tooLarge ∧ ∃ i, v = .scalar (.number (.int i)) ∧ Numeral.ofInt? i = none := by
  unfold overflows at he
  cases hn : (Document.scalar? v).bind number? with
  | none => simp [hn] at he
  | some n =>
    rw [hn] at he
    obtain rfl := bind_number?_eq_some_iff.1 hn
    cases n with
    | real x => simp [Number.toReal?] at he
    | int i => cases hreal : Numeral.ofInt? i <;> simp_all [Number.toReal?]

omit s key v demand in
/-- A check with an error that is foreseen finds no other. -/
lemma not_mem_check {c : Prop} [Decidable c] {e e' : Error} (hforeseen : e.isForeseen = false)
    (he' : e'.isForeseen = true) : e ∉ if c then [e'] else [] := by
  intro hmem
  split at hmem
  · rw [List.mem_singleton.1 hmem, he'] at hforeseen
    cases hforeseen
  · cases hmem

/-- **Faults that nobody foresaw**: an integer that is too large for a number of seconds, and a
value of the wrong type that cannot be shown. -/
lemma unforeseen_of_mem_faults {e : Error} (he : e ∈ demand.faults s key v)
    (hforeseen : e.isForeseen = false) :
    (e = .tooLarge ∧ ∃ i, v = .scalar (.number (.int i)) ∧ Numeral.ofInt? i = none) ∨
      ∃ failure, e = .numeral failure ∧ s.document.quote v = .error failure := by
  cases demand with
  | text => exact .inr (unforeseen_of_mem_misfits he hforeseen)
  | integer => exact .inr (unforeseen_of_mem_misfits he hforeseen)
  | truth => exact .inr (unforeseen_of_mem_misfits he hforeseen)
  | texts =>
    rw [Demand.faults, ← ite_not] at he
    exact absurd he (not_mem_check hforeseen rfl)
  | mapping =>
    rw [Demand.faults, ← ite_not] at he
    exact absurd he (not_mem_check hforeseen rfl)
  | seconds =>
    rcases List.mem_append.1 he with hmem | hmem
    · exact .inr (unforeseen_of_mem_misfits hmem hforeseen)
    · exact .inl (of_mem_overflows hmem)
  | count =>
    rcases List.mem_append.1 he with hmem | hmem
    · exact .inr (unforeseen_of_mem_misfits hmem hforeseen)
    · exact absurd hmem (not_mem_check hforeseen rfl)
  | lifetime =>
    rcases List.mem_append.1 he with hmem | hmem
    · exact .inr (unforeseen_of_mem_misfits hmem hforeseen)
    · rcases List.mem_append.1 hmem with hmem | hmem
      · exact .inl (of_mem_overflows hmem)
      · exact absurd hmem (not_mem_check hforeseen rfl)

end Accepted

/-! ### The faults of a document -/

namespace Part

/-- The value of a rule's key is accepted, if there is one. -/
def Meets (s : Part) (rule : Rule) : Prop :=
  ∀ v, s.given? rule = some v →
    (rule.demand.HasType s.document v ∧ rule.demand.InRange v) ∨ rule.demand.IsVoid s.document v

/-- All sections are of one document. -/
lemma document_about (s : Part) (rule : Rule) : (s.about rule).document = s.document := by
  unfold about
  cases rule.inside <;> rfl

/-- The faults of a rule are those of the value of its key. -/
lemma faultsOf_eq {s : Part} {rule : Rule} {v : Item} (hv : s.given? rule = some v) :
    s.faultsOf rule = rule.demand.faults (s.about rule) rule.key v := by
  unfold faultsOf faultsAt
  unfold given? at hv
  rw [hv]
  rfl

/-- Without a value a rule finds nothing. -/
lemma faultsOf_of_given?_eq_none {s : Part} {rule : Rule} (hnone : s.given? rule = none) :
    s.faultsOf rule = [] := by
  unfold faultsOf faultsAt
  unfold given? at hnone
  rw [hnone]
  rfl

/-- A rule that is met finds nothing. -/
lemma faultsOf_eq_nil_iff {s : Part} {rule : Rule} : s.faultsOf rule = [] ↔ s.Meets rule := by
  unfold Meets
  cases hv : s.given? rule with
  | none => exact iff_of_true (faultsOf_of_given?_eq_none hv) nofun
  | some v =>
    rw [faultsOf_eq hv, faults_eq_nil_iff, document_about]
    exact ⟨fun h v' hv' => Option.some.inj hv' ▸ h, fun h => h v rfl⟩

/-- **A document has no faults if it meets all rules.** -/
theorem faults_eq_nil_iff_meets {s : Part} : s.faults = [] ↔ ∀ rule ∈ rules, s.Meets rule := by
  simp only [← faultsOf_eq_nil_iff]
  exact List.flatMap_eq_nil_iff

/-- The first fault of a document is that of a rule, if it meets all others. -/
lemma head?_faults {s : Part} {rule : Rule} {e : Error} (hrule : rule ∈ rules)
    (hothers : ∀ other ∈ rules, other ≠ rule → s.Meets other)
    (he : (s.faultsOf rule).head? = some e) : s.faults.head? = some e := by
  have hlist : ∀ l : List Rule, rule ∈ l → (∀ other ∈ l, other ≠ rule → s.faultsOf other = []) →
      (l.flatMap s.faultsOf).head? = some e := by
    intro l hmem hnone
    induction l with
    | nil => cases hmem
    | cons first l ih =>
      rw [List.flatMap_cons]
      by_cases hfirst : first = rule
      · rw [hfirst, List.head?_append, he, Option.some_or]
      · rw [hnone first List.mem_cons_self hfirst, List.nil_append]
        exact ih ((List.mem_cons.1 hmem).resolve_left (Ne.symm hfirst)) fun other hother =>
          hnone other (List.mem_cons_of_mem _ hother)
  exact hlist rules hrule fun other hother hne => faultsOf_eq_nil_iff.2 (hothers other hother hne)

/-- A fault that nobody foresaw is that of a rule's value. -/
lemma unforeseen_of_mem {s : Part} {e : Error} (he : e ∈ s.faults)
    (hforeseen : e.isForeseen = false) :
    ∃ rule ∈ rules, ∃ v, s.given? rule = some v ∧
      ((e = .tooLarge ∧ ∃ i, v = .scalar (.number (.int i)) ∧ Numeral.ofInt? i = none) ∨
        ∃ failure, e = .numeral failure ∧ s.document.quote v = .error failure) := by
  obtain ⟨rule, hrule, hmem⟩ := List.mem_flatMap.1 he
  cases hv : s.given? rule with
  | none =>
    rw [faultsOf_of_given?_eq_none hv] at hmem
    cases hmem
  | some v =>
    rw [faultsOf_eq hv] at hmem
    have hcases := unforeseen_of_mem_faults hmem hforeseen
    rw [document_about] at hcases
    exact ⟨rule, hrule, v, hv, hcases⟩

end Part

end FlopCensus.Settings
