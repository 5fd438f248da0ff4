import FlopCensus.Proofs.Settings.Rules
import Mathlib.Data.List.Forall2

set_option autoImplicit false
set_option relaxedAutoImplicit false

/-!
# What comes of a file with settings

A file that holds a mapping yields settings or an error that is told in their terms, apart from a
few values that nobody foresaw. First the keys that are not known are put in order, which works for
keys that can be compared with each other, and a warning tells each of them. Then the known keys are
checked.

## Main definitions

* `FlopCensus.Settings.Configures` — the settings come from a file that holds a mapping.
* `FlopCensus.Settings.Comparable`, `FlopCensus.Settings.Announces` — the keys that are not known
  can be put in order, and the names under which they are told.

## Main results

* `FlopCensus.Settings.load_of_mapping` — the outcome for a file that holds a mapping.
* `FlopCensus.Settings.load_accepts_iff` — which values are accepted.

## Design

What the known keys find wrong is taken from the table of rules (`FlopCensus.Settings.rules`), so
that nothing here depends on how many keys there are.
-/

namespace FlopCensus

namespace Settings

open Yaml (Document Item Scalar)

/-! ### The keys that are not known -/

/-- The key is known. -/
def isKnown (k : Scalar) : Bool :=
  knownKeys.any fun n => k.same (.text n)

namespace Part

/-- The keys that are not known. -/
def unknownKeys (s : Part) : List Scalar :=
  (s.entries.map (·.1)).filter fun k => !isKnown k

/-- The entries of known keys. -/
def known (s : Part) : Part :=
  { s with entries := s.entries.filter fun entry => isKnown entry.1 }

/-- A known key has its value among the entries of known keys. -/
lemma value?_known (s : Part) {key : String} (hkey : key ∈ knownKeys) :
    s.known.value? key = s.value? key := by
  unfold value? known
  rw [List.find?_filter]
  congr 2
  funext ⟨k, v⟩
  have himplies : k.same (.text key) = true → isKnown k = true := fun hsame =>
    List.any_eq_true.2 ⟨key, hkey, hsame⟩
  cases hsame : k.same (.text key) <;> simp_all

end Part

/-- Each of the keys but the first one can be compared with all of them. -/
def Comparable (keys : List Scalar) : Prop :=
  ∀ k ∈ keys.tail, ∀ l ∈ keys, (k.less? l).isSome

/-- Keys can be put in order if they can be compared. -/
lemma inOrder_eq_none_iff {keys : List Scalar} : inOrder keys = none ↔ ¬Comparable keys := by
  unfold inOrder Comparable
  dsimp only
  split
  · rename_i h
    simpa [Option.isSome_iff_ne_none] using h
  · rename_i h
    simpa [Option.isSome_iff_ne_none] using h

/-- Putting keys in order leaves none out. -/
lemma perm_of_inOrder {keys sorted : List Scalar} (h : inOrder keys = some sorted) :
    sorted.Perm keys := by
  unfold inOrder at h
  dsimp only at h
  split at h
  · rw [← Option.some.inj h]
    exact List.mergeSort_perm keys _
  · cases h

/-- A key that is read as a text is one. -/
lemma exists_text_of_isSome {k : Scalar} (h : (text? k).isSome) : ∃ t, k = .text t := by
  cases k with
  | text t => exact ⟨t, rfl⟩
  | _ => cases h

/-- Texts can be compared. -/
lemma comparable_of_forall_text {keys : List Scalar} (h : ∀ k ∈ keys, ∃ t, k = .text t) :
    Comparable keys := by
  intro k hk l hl
  obtain ⟨t, rfl⟩ := h k (List.mem_of_mem_tail hk)
  obtain ⟨t', rfl⟩ := h l hl
  rfl

/-- No keys can be compared. -/
lemma Part.comparable_of_nil (s : Part) (h : s.unknownKeys = []) : Comparable s.unknownKeys := by
  rw [h]
  exact fun _ hk => absurd hk List.not_mem_nil

/-- The warning about a key that is not known. -/
def ignored (name : String) : Log.Record :=
  ⟨.warning, .settings, "Ignoring unknown configuration key: " ++ name⟩

/-- The record about the file that settings come from. -/
def loaded (file : String) : Log.Record :=
  ⟨.info, .settings, "Loaded configuration from " ++ file⟩

/-- Warns of a key, if it can be written out. -/
def warnOf (k : Scalar) : Attempt Error Unit :=
  match k.words with
  | .ok name =>
    Attempt.tell .warning .settings ("Ignoring unknown configuration key: " ++ name)
  | .error _ => pure ()

/-- The keys can be put in order, and those of them that can be written out have these names, in
this order. -/
def Announces (s : Part) (names : List String) : Prop :=
  ∃ keys, inOrder s.unknownKeys = some keys ∧ names = keys.filterMap fun k => k.words.toOption

/-- Warnings are given if and only if the keys can be compared. -/
lemma exists_announces_iff {s : Part} :
    (∃ names, Announces s names) ↔ Comparable s.unknownKeys := by
  constructor
  · rintro ⟨names, keys, hkeys, -⟩
    by_contra hnot
    rw [inOrder_eq_none_iff.2 hnot] at hkeys
    cases hkeys
  · intro h
    cases hkeys : inOrder s.unknownKeys with
    | none => exact absurd h (inOrder_eq_none_iff.1 hkeys)
    | some keys => exact ⟨_, keys, hkeys, rfl⟩

/-- The keys that are not known cannot be put in order. -/
lemma outcome_warn_of_not_comparable {s : Part} (h : ¬Comparable s.unknownKeys) :
    (warn s).outcome = ⟨[], .error .unorderedKeys⟩ := by
  have hnone : inOrder ((s.entries.map (·.1)).filter fun k => !isKnown k) = none :=
    inOrder_eq_none_iff.2 h
  unfold isKnown at hnone
  unfold warn
  dsimp only
  rw [hnone]
  rfl

/-- What the warning about a key tells. -/
lemma outcome_warnOf (k : Scalar) :
    (warnOf k).outcome = ⟨(k.words.toOption.map ignored).toList, .ok ()⟩ := by
  unfold warnOf
  cases k.words <;> rfl

/-- Each of the keys that are not known is told in a warning, if it can be written out. -/
lemma outcome_warn {s : Part} {names : List String} (h : Announces s names) :
    (warn s).outcome = ⟨names.map ignored, .ok ()⟩ := by
  obtain ⟨keys, hkeys, rfl⟩ := h
  have hwarn : warn s = keys.forM warnOf := by
    unfold Part.unknownKeys isKnown at hkeys
    unfold warn
    dsimp only
    rw [hkeys]
    rfl
  rw [hwarn]
  clear hwarn hkeys
  induction keys with
  | nil => rfl
  | cons k keys ih =>
    change (warnOf k >>= fun _ => keys.forM warnOf).outcome = _
    rw [Attempt.outcome_bind_of_ok (outcome_warnOf k), ih, List.filterMap_cons]
    cases k.words <;> rfl

/-- The keys that are not known do not matter for the settings. -/
lemma ofPart_known (s : Part) : ofPart s.known = ofPart s := by
  have hexpect : ∀ {α : Type} (key : String) (type : Scalar → Option α), key ∈ knownKeys →
      s.known.expect key type = s.expect key type := by
    intro α key type hkey
    unfold Part.expect
    rw [s.value?_known hkey]
    rfl
  have htexts : ∀ key ∈ knownKeys, s.known.expectTexts key = s.expectTexts key := by
    intro key hkey
    unfold Part.expectTexts
    rw [s.value?_known hkey]
    rfl
  have hbelow : ∀ key ∈ knownKeys, s.known.below key = s.below key := by
    intro key hkey
    unfold Part.below
    rw [s.value?_known hkey]
    rfl
  unfold ofPart
  rw [hexpect "syntax_binary" text? (by decide), htexts "search_paths" (by decide),
    hexpect "timeout" number? (by decide), htexts "extensions" (by decide),
    hexpect "jobs" integer? (by decide), hbelow "cache" (by decide), hbelow "logging" (by decide)]

/-! ### The file that the settings come from -/

/-- The settings come from a file that holds a mapping. -/
structure Configures (h : Host) (path : Option String) (file : String) (s : Part) : Prop where
  /-- A path that is given is that of a file. -/
  isFile : ∀ p, path = some p → h.files.isFile p = true
  /-- The file is this one, or else the first of the usual ones. -/
  chosen : (path.filter (· != "")).or (usualFile? h) = some file
  /-- It holds a document. -/
  document : readDocument h.files file = .ok s.document
  /-- The document is a mapping. -/
  mapping : s.document.mapping? s.document.root = some s.entries

section Load

variable {h : Host} {path : Option String} {file : String} {s : Part}

/-- The settings of a document that is a mapping. -/
lemma Configures.ofDocument_eq (hc : Configures h path file s) :
    ofDocument file s.document = (do
      warn s
      (ofPart s : Except Error Settings)) := by
  have hmapping := hc.mapping
  unfold ofDocument
  cases hroot : s.document.root with
  | scalar c =>
    rw [hroot] at hmapping
    cases hmapping
  | shared place =>
    rw [hroot] at hmapping
    rw [hmapping]

/-- Loading from a file that holds a mapping. -/
lemma Configures.load_eq (hc : Configures h path file s) :
    load h path = (do
      let settings ← ofDocument file s.document
      Attempt.tell .info .settings ("Loaded configuration from " ++ file)
      return { settings with sourceFile := some file }.withVariables h) := by
  have hplace := hc.chosen
  unfold load
  cases path with
  | none =>
    rw [hplace]
    dsimp only
    rw [hc.document]
    rfl
  | some p =>
    rw [hplace]
    dsimp only
    rw [hc.document, hc.isFile p rfl]
    rfl

/-- Without a fault the settings are had, after the warnings. -/
lemma Configures.outcome_of_ok (hc : Configures h path file s) {names : List String}
    (hnames : Announces s names) {settings : Settings} (hok : ofPart s = .ok settings) :
    (load h path).outcome =
      ⟨names.map ignored ++ [loaded file],
        .ok ({ settings with sourceFile := some file }.withVariables h)⟩ := by
  have hdocument : (ofDocument file s.document).outcome = ⟨names.map ignored, .ok settings⟩ := by
    rw [hc.ofDocument_eq, hok, Attempt.outcome_bind_of_ok (outcome_warn hnames)]
    change (⟨names.map ignored ++ [], .ok settings⟩ : Logged (Except Error Settings)) = _
    rw [List.append_nil]
  rw [hc.load_eq, Attempt.outcome_bind_of_ok hdocument]
  rfl

/-- With a fault there is an error, after the warnings. -/
lemma Configures.outcome_of_error (hc : Configures h path file s) {names : List String}
    (hnames : Announces s names) {e : Error} (herror : ofPart s = .error e) :
    (load h path).outcome = ⟨names.map ignored, .error e⟩ := by
  have hdocument : (ofDocument file s.document).outcome = ⟨names.map ignored, .error e⟩ := by
    rw [hc.ofDocument_eq, herror, Attempt.outcome_bind_of_ok (outcome_warn hnames)]
    change (⟨names.map ignored ++ [], .error e⟩ : Logged (Except Error Settings)) = _
    rw [List.append_nil]
  rw [hc.load_eq, Attempt.outcome_bind_of_error hdocument]

/-- If the keys that are not known cannot be put in order, nothing else is looked at. -/
lemma Configures.outcome_of_not_comparable (hc : Configures h path file s)
    (hkeys : ¬Comparable s.unknownKeys) :
    (load h path).outcome = ⟨[], .error .unorderedKeys⟩ := by
  have hdocument : (ofDocument file s.document).outcome = ⟨[], .error .unorderedKeys⟩ := by
    rw [hc.ofDocument_eq, Attempt.outcome_bind_of_error (outcome_warn_of_not_comparable hkeys)]
  rw [hc.load_eq, Attempt.outcome_bind_of_error hdocument]

/-- Settings that are had from a file without a fault. -/
lemma Configures.ofPart_of_load (hc : Configures h path file s) {settings : Settings}
    (hload : (load h path).outcome.value = .ok settings) :
    ∃ settings', ofPart s = .ok settings' := by
  rw [hc.load_eq] at hload
  obtain ⟨settings', hdocument, -⟩ := Attempt.value_bind_eq_ok.1 hload
  rw [hc.ofDocument_eq] at hdocument
  obtain ⟨-, -, hpart⟩ := Attempt.value_bind_eq_ok.1 hdocument
  exact ⟨settings', hpart⟩

end Load

/-- A host with a file of ASCII characters. -/
def hostWith (text : List Char) : Host where
  files.root := .directory true
    [("c.yaml", .regular (text.map fun c => UInt8.ofNat c.toNat) false)]

/-- The mapping in the file, if it holds one. -/
def mappingWith? (text : List Char) : Option Part := do
  let d ← (readDocument (hostWith text).files "c.yaml").toOption
  return ⟨d, ← d.mapping? d.root⟩

/-- The settings of the host come from its file. -/
lemma configures_of_mappingWith? {text : List Char} {s : Part} (hs : mappingWith? text = some s) :
    Configures (hostWith text) (some "c.yaml") "c.yaml" s := by
  unfold mappingWith? at hs
  cases hd : readDocument (hostWith text).files "c.yaml" with
  | error e =>
    rw [hd] at hs
    cases hs
  | ok d =>
    rw [hd] at hs
    change ((d.mapping? d.root).bind fun entries => some (⟨d, entries⟩ : Part)) = some s at hs
    obtain ⟨entries, hentries, hs⟩ := Option.bind_eq_some_iff.1 hs
    obtain rfl := Option.some.inj hs
    refine ⟨?_, rfl, hd, hentries⟩
    rintro p ⟨⟩
    rfl

/-! ### What comes of a file -/

section Outcome

variable {h : Host} {path : Option String} {file : String} {s : Part}

/-- **What comes of a file with settings.** Take a file that holds a mapping.

* If the keys that are not known cannot be compared with each other, loading fails on that, and
  nothing else is looked at.
* Otherwise each of them is told in a warning, as far as it can be written out, and has no effect
  but that: the settings are those of the known keys. They are had if the document has no faults,
  and else the error is the first of its faults.
* A fault tells what is wrong with the settings, apart from two that nobody foresaw: an integer that
  is too large for a number of seconds, and a value of the wrong type that is or holds an integer
  too long to be shown.

**Proof sketch.** The warnings are given one by one (`outcome_warn`). Reading the settings goes
through the rules, each of which finds its faults before the later ones (`reports_ofPart`), and a
rule looks at the value of its key only (`Part.value?_known`). -/
theorem load_of_mapping (hc : Configures h path file s) :
    (¬Comparable s.unknownKeys → (load h path).outcome = ⟨[], .error .unorderedKeys⟩) ∧
    (∀ names, Announces s names →
      (load h path).outcome.log =
        names.map ignored ++ (if s.faults = [] then [loaded file] else []) ∧
      (s.faults = [] → ∃ settings, ofPart s.known = .ok settings ∧ (load h path).outcome.value =
        .ok ({ settings with sourceFile := some file }.withVariables h)) ∧
      ∀ e, (load h path).outcome.value = .error e ↔ s.faults.head? = some e) ∧
    ∀ e ∈ s.faults, e.isForeseen ∨ ∃ rule ∈ rules, ∃ v, s.given? rule = some v ∧
      ((e = .tooLarge ∧ ∃ i, v = .scalar (.number (.int i)) ∧ Numeral.ofInt? i = none) ∨
        ∃ failure, e = .numeral failure ∧ s.document.quote v = .error failure) := by
  have hreports := reports_ofPart s
  refine ⟨hc.outcome_of_not_comparable, fun names hnames => ?_, fun e he => ?_⟩
  · cases hpart : ofPart s with
    | ok settings =>
      have hnone : s.faults = [] := hreports.isOk_iff.1 ⟨settings, hpart⟩
      rw [hc.outcome_of_ok hnames hpart, if_pos hnone, hnone]
      exact ⟨rfl, fun _ => ⟨settings, (ofPart_known s).trans hpart, rfl⟩, by simp⟩
    | error first =>
      have hfirst : s.faults.head? = some first := hreports.eq_error_iff.1 hpart
      have hsome : s.faults ≠ [] := by
        intro hnil
        rw [hnil] at hfirst
        cases hfirst
      rw [hc.outcome_of_error hnames hpart, if_neg hsome, hfirst, List.append_nil]
      exact ⟨rfl, fun hnil => absurd hnil hsome, by simp⟩
  · by_cases hforeseen : e.isForeseen = true
    · exact .inl hforeseen
    · exact .inr (Part.unforeseen_of_mem he (Bool.eq_false_iff.2 hforeseen))

/-- A key that is not known is told, and the settings are had. -/
theorem load_of_mapping_colour : ∃ (names : List String) (settings : Settings),
    (load (hostWith "colour: red\njobs: 2\n".toList) (some "c.yaml")).outcome =
      ⟨names.map ignored ++ [loaded "c.yaml"], .ok settings⟩ := by
  have hmapping : (mappingWith? "colour: red\njobs: 2\n".toList).map (fun s =>
      (s.unknownKeys.all fun k => (text? k).isSome) && s.faults.isEmpty) = some true := by
    decide +kernel
  obtain ⟨s, hs, hchecks⟩ := Option.map_eq_some_iff.1 hmapping
  rw [Bool.and_eq_true, List.all_eq_true, List.isEmpty_iff] at hchecks
  obtain ⟨htexts, hnone⟩ := hchecks
  obtain ⟨names, hnames⟩ := exists_announces_iff.2 (comparable_of_forall_text fun k hk =>
    exists_text_of_isSome (htexts k hk))
  obtain ⟨hlog, hok, -⟩ := (load_of_mapping (configures_of_mappingWith? hs)).2.1 names hnames
  obtain ⟨settings, -, hvalue⟩ := hok hnone
  rw [if_pos hnone] at hlog
  exact ⟨names, _, congrArg₂ Logged.mk hlog hvalue⟩

/-- **Keys of two types fail the loading**: an integer and a text cannot be compared. -/
theorem load_fails_mixedKeys : ∃ s, Configures (hostWith "1: a\nb: c\n".toList) (some "c.yaml")
    "c.yaml" s ∧ (load (hostWith "1: a\nb: c\n".toList) (some "c.yaml")).outcome.value =
      .error .unorderedKeys := by
  have hunordered : (mappingWith? "1: a\nb: c\n".toList).map (inOrder ·.unknownKeys |>.isNone) =
    some true := by decide +kernel
  obtain ⟨s, hs, hnone⟩ := Option.map_eq_some_iff.1 hunordered
  have hc := configures_of_mappingWith? hs
  have hkeys := inOrder_eq_none_iff.1 (Option.isNone_iff_eq_none.1 hnone)
  exact ⟨s, hc, congrArg Logged.value (hc.outcome_of_not_comparable hkeys)⟩

/-- **Which values are accepted.** Take a file that holds a mapping.

* If its settings are had, then the value of every known key has the type and the range that are
  demanded, or is a value that counts as nothing where a section is demanded.
* If the warnings can be given, this is enough.
* If they can be given and one value has not its type, and is no such section, while the other
  values are accepted, then the error is about its key, unless the value cannot be shown.

**Proof sketch.** The settings are had if the document has no faults (`reports_ofPart`), which is
the case if it meets all rules (`Part.faults_eq_nil_iff_meets`). -/
theorem load_accepts_iff (hc : Configures h path file s) :
    ((∃ settings, (load h path).outcome.value = .ok settings) → ∀ rule ∈ rules, s.Meets rule) ∧
    (∀ names, Announces s names →
      ((∀ rule ∈ rules, s.Meets rule) → ∃ settings, (load h path).outcome.value = .ok settings) ∧
      ∀ rule ∈ rules, ∀ v, s.given? rule = some v → ¬rule.demand.HasType s.document v →
        ¬rule.demand.IsVoid s.document v → (∀ other ∈ rules, other ≠ rule → s.Meets other) →
        (load h path).outcome.value = .error (rule.demand.refusal s.document rule.key v) ∧
        ((∃ shown, s.document.quote v = .ok shown) →
          (rule.demand.refusal s.document rule.key v).isForeseen)) := by
  have hreports := reports_ofPart s
  refine ⟨fun ⟨settings, hload⟩ => ?_, fun names hnames => ⟨fun hmeets => ?_, ?_⟩⟩
  · rw [← Part.faults_eq_nil_iff_meets, ← hreports.isOk_iff]
    exact hc.ofPart_of_load hload
  · obtain ⟨settings, hok⟩ := hreports.isOk_iff.2 (Part.faults_eq_nil_iff_meets.2 hmeets)
    exact ⟨_, congrArg Logged.value (hc.outcome_of_ok hnames hok)⟩
  · intro rule hrule v hv htype hvoid hothers
    have hfirst := head?_faults_of_not_hasType (s.about rule) rule.key
      (by rwa [Part.document_about]) (by rwa [Part.document_about])
    rw [← Part.faultsOf_eq hv, Part.document_about] at hfirst
    have herror := hreports.eq_error_iff.2 (Part.head?_faults hrule hothers hfirst)
    exact ⟨congrArg Logged.value (hc.outcome_of_error hnames herror),
      fun ⟨_, hshown⟩ => rule.demand.isForeseen_refusal hshown⟩

/-- A truth value is no number of results. -/
theorem load_accepts_iff_size :
    (load (hostWith "cache:\n  size: true\n".toList) (some "c.yaml")).outcome.value =
      .error (.invalid "size" "True") := by
  let rule : Rule := ⟨some "cache", "size", .count⟩
  have hmapping : (mappingWith? "cache:\n  size: true\n".toList).map (fun s =>
      s.unknownKeys.isEmpty &&
        (rules.filter (· ≠ rule)).all (fun other => (s.faultsOf other).isEmpty) &&
        ((s.given? rule).bind Document.scalar?).bind truth? == some true) = some true := by
    decide +kernel
  obtain ⟨s, hs, hchecks⟩ := Option.map_eq_some_iff.1 hmapping
  simp only [Bool.and_eq_true, List.isEmpty_iff, List.all_eq_true, List.mem_filter,
    decide_eq_true_eq, beq_iff_eq, Part.faultsOf_eq_nil_iff] at hchecks
  obtain ⟨⟨hunknown, hothers⟩, hgiven⟩ := hchecks
  obtain ⟨names, hnames⟩ := exists_announces_iff.2 (s.comparable_of_nil hunknown)
  rw [Option.bind_assoc] at hgiven
  obtain ⟨v, hv, htruth⟩ := Option.bind_eq_some_iff.1 hgiven
  obtain rfl := bind_truth?_eq_some_iff.1 htruth
  have hrefused := ((load_accepts_iff (configures_of_mappingWith? hs)).2 names hnames).2 rule
    (by decide) _ hv (by rintro ⟨i, ⟨⟩⟩) id fun other hother hne => hothers other ⟨hother, hne⟩
  exact hrefused.1

/-- **An empty list passes for a section.** -/
theorem load_accepts_emptyList : ∃ s v settings,
    Configures (hostWith "cache: []\n".toList) (some "c.yaml") "c.yaml" s ∧
      s.given? ⟨none, "cache", .mapping⟩ = some v ∧ v ≠ .scalar .null ∧
      ¬Demand.mapping.HasType s.document v ∧
      (load (hostWith "cache: []\n".toList) (some "c.yaml")).outcome.value = .ok settings := by
  have hmapping : (mappingWith? "cache: []\n".toList).map (fun s =>
      s.unknownKeys.isEmpty && s.faults.isEmpty && (s.given? ⟨none, "cache", .mapping⟩).any fun v =>
        (Document.scalar? v).isNone && (s.document.mapping? v).isNone) = some true := by
    decide +kernel
  obtain ⟨s, hs, hchecks⟩ := Option.map_eq_some_iff.1 hmapping
  rw [Bool.and_eq_true, Bool.and_eq_true, List.isEmpty_iff, List.isEmpty_iff] at hchecks
  obtain ⟨⟨hunknown, hnone⟩, hgiven⟩ := hchecks
  obtain ⟨names, hnames⟩ := exists_announces_iff.2 (s.comparable_of_nil hunknown)
  obtain ⟨settings, hok⟩ := (reports_ofPart s).isOk_iff.2 hnone
  have hc := configures_of_mappingWith? hs
  have hload := congrArg Logged.value (hc.outcome_of_ok hnames hok)
  cases hv : s.given? ⟨none, "cache", .mapping⟩ with
  | none => simp [hv] at hgiven
  | some v =>
    rw [hv, Option.any_some, Bool.and_eq_true, Option.isNone_iff_eq_none] at hgiven
    obtain ⟨hscalar, hlist⟩ := hgiven
    refine ⟨s, v, _, hc, hv, ?_, ?_, hload⟩
    · rintro rfl
      cases hscalar
    · rw [← isSome_mapping?_iff]
      exact Option.not_isSome_iff_eq_none.2 (Option.isNone_iff_eq_none.1 hlist)

end Outcome

end Settings

end FlopCensus
