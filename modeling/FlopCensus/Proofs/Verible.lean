import FlopCensus.Proofs.Command.Execute
import FlopCensus.Proofs.Session
import FlopCensus.Proofs.Text.Run
import FlopCensus.Verible

set_option autoImplicit false
set_option relaxedAutoImplicit false

/-!
# Locating and asking the Verible tool

The tool is located when it is first used. As long as it cannot be located nothing is run, and it is
sought again at the next use; once it is located, every later use runs the same file without seeking
it. The version of the tool is the first text of the right form in what it writes, read as far as it
goes.

## Main definitions

* `FlopCensus.Verible.Use`, `FlopCensus.Verible.answers` — uses of the tool, and what it answers.
* `FlopCensus.Verible.toolPaths` — the paths at which the tool is sought on a host.
* `FlopCensus.Verible.IsVersion` — the form of a version.

## Main results

* `FlopCensus.Verible.outcome_run`, `FlopCensus.Verible.outcome_run_of_missing` — what comes of a
  use.
* `FlopCensus.Verible.answers_of_located`, `FlopCensus.Verible.answers_congr_run`,
  `FlopCensus.Verible.answers_eq_append` — the uses of a tool that is located.
* `FlopCensus.Verible.own_answers` — what is remembered stays, and is there after the first use that
  runs something.
* `FlopCensus.Verible.search_ofHost_eq_ok_iff` — where the tool is located on a host.
* `FlopCensus.Verible.behindVersion?_eq_some_iff`, `FlopCensus.Verible.firstVersion?_eq_some_iff`,
  `FlopCensus.Verible.firstVersion?_eq_none_iff` — the version in a text.
-/

namespace FlopCensus.Verible

section Uses

variable {σ ε : Type} {e e' : Executor σ ε} {settings settings' : Settings}
  {s : Scene (Located × σ)} {path : String} {arguments : List String}
  {limit : Option Numeral.Number}

/-! ### One use -/

/-- What comes of seeking the tool: a path is taken as it is, and a name is looked up. -/
lemma outcome_search (e : Executor σ ε) (settings : Settings) (s : Scene (Located × σ)) :
    (search e settings).outcome s =
      let configured := s.host.expandHome settings.syntaxTool
      if Files.hasDirectory configured then
        (if s.host.files.isExecutable configured then .ok configured
          else .error (.notExecutable configured), s)
      else
        let found := (e.find configured settings.searchPaths).outcome ⟨s.host, s.own.2⟩
        (match found.1 with
          | some path => .ok path
          | none => .error (.notInstalled configured),
        ⟨found.2.host, (s.own.1, found.2.own)⟩) := by
  simp only [search, Trial.outcome_bind, Trial.outcome_sure, Session.outcome_host]
  by_cases hpath : Files.hasDirectory (s.host.expandHome settings.syntaxTool)
  · rw [if_pos hpath, if_pos hpath]
    split <;> rfl
  · rw [if_neg hpath, if_neg hpath, Trial.outcome_bind, Trial.outcome_sure, Session.outcome_inner]
    dsimp only
    cases ((e.find (s.host.expandHome settings.syntaxTool) settings.searchPaths).outcome
      ⟨s.host, s.own.2⟩).1 <;> rfl

/-- Seeking remembers nothing. -/
lemma own_search (e : Executor σ ε) (settings : Settings) (s : Scene (Located × σ)) :
    ((search e settings).outcome s).2.own.1 = s.own.1 := by
  rw [outcome_search]
  dsimp only
  split <;> rfl

/-- What comes of locating the tool: the path that is remembered, or else one that is sought. -/
lemma outcome_locate (e : Executor σ ε) (settings : Settings) (s : Scene (Located × σ)) :
    (locate e settings).outcome s =
      match s.own.1 with
      | some path => (.ok path, s)
      | none =>
        match (search e settings).outcome s with
        | (.ok path, t) => (.ok path, { t with own := (some path, t.own.2) })
        | (.error failure, t) => (.error failure, t) := by
  simp only [locate, Trial.outcome_bind, Trial.outcome_get]
  cases s.own.1 with
  | some path => rfl
  | none =>
    dsimp only
    rw [Trial.outcome_bind]
    rcases (search e settings).outcome s with ⟨_ | _, t⟩ <;> rfl

/-- The answer of a file to a use of the tool, and the scene afterwards. -/
def answerOf (e : Executor σ ε) (path : String) (arguments : List String)
    (limit : Option Numeral.Number) (s : Scene (Located × σ)) :
    Except (Error ε) ToolOutput × Scene (Located × σ) :=
  let answer := (e.run { command := path, arguments, limit }).outcome ⟨s.host, s.own.2⟩
  (answer.1.mapError .command, ⟨answer.2.host, (s.own.1, answer.2.own)⟩)

/-- **What comes of a use**: the tool is located, and the file that is found answers. -/
theorem outcome_run (e : Executor σ ε) (settings : Settings) (arguments : List String)
    (limit : Option Numeral.Number) (s : Scene (Located × σ)) :
    (run e settings arguments limit).outcome s =
      match (locate e settings).outcome s with
      | (.ok path, t) => answerOf e path arguments limit t
      | (.error failure, t) => (.error failure, t) := by
  simp only [run, Trial.outcome_bind, Trial.outcome_mapError, Trial.outcome_inner]
  rcases (locate e settings).outcome s with ⟨_ | _, t⟩ <;> rfl

/-- A use of a tool that is located. -/
lemma outcome_run_of_located (hs : s.own.1 = some path) :
    (run e settings arguments limit).outcome s = answerOf e path arguments limit s := by
  rw [outcome_run, outcome_locate, hs]

/-- The answer is that there is no tool. -/
def IsMissing (answer : Except (Error ε) ToolOutput) : Prop :=
  (∃ path, answer = .error (.notExecutable path)) ∨
    ∃ command, answer = .error (.notInstalled command)

/-- A file that is run does not answer that there is no tool. -/
lemma not_isMissing_answerOf :
    ¬IsMissing (answerOf e path arguments limit s).1 := by
  unfold IsMissing answerOf
  dsimp only
  cases ((e.run { command := path, arguments, limit }).outcome ⟨s.host, s.own.2⟩).1 <;>
    simp [Except.mapError]

/-- Seeking fails only if there is no tool. -/
lemma isMissing_of_search {failure : Error ε} {t : Scene (Located × σ)}
    (h : (search e settings).outcome s = (.error failure, t)) : IsMissing (.error failure) := by
  rw [outcome_search] at h
  dsimp only at h
  split at h
  · split at h
    · cases h
    · cases h
      exact .inl ⟨_, rfl⟩
  · split at h
    · cases h
    · cases h
      exact .inr ⟨_, rfl⟩

/-- **Whether the tool is remembered after a use** can be seen from the answer: it is not if and
only if the answer is that there is no tool. -/
theorem own_run_eq_none_iff (e : Executor σ ε) (settings : Settings) (arguments : List String)
    (limit : Option Numeral.Number) (s : Scene (Located × σ)) :
    ((run e settings arguments limit).outcome s).2.own.1 = none ↔
      IsMissing ((run e settings arguments limit).outcome s).1 := by
  cases hs : s.own.1 with
  | some path =>
    rw [outcome_run_of_located hs]
    exact iff_of_false (by simp [answerOf, hs]) not_isMissing_answerOf
  | none =>
    have hown := own_search e settings s
    rw [outcome_run, outcome_locate, hs]
    dsimp only
    rcases hsearch : (search e settings).outcome s with ⟨failure | path, t⟩
    · rw [hsearch, hs] at hown
      exact iff_of_true hown (isMissing_of_search hsearch)
    · exact iff_of_false (by simp [answerOf]) not_isMissing_answerOf

/-! ### Many uses -/

/-- A use of the tool. -/
structure Use where
  /-- The arguments. -/
  arguments : List String
  /-- The greatest number of seconds it may take. -/
  limit : Option Numeral.Number := none

/-- What the tool answers to some uses, one after the other, and the scene afterwards. -/
def answers (e : Executor σ ε) (settings : Settings) :
    List Use → Scene (Located × σ) →
      List (Except (Error ε) ToolOutput) × Scene (Located × σ)
  | [], s => ([], s)
  | u :: us, s =>
    let (answer, s) := (run e settings u.arguments u.limit).outcome s
    let (more, s) := answers e settings us s
    (answer :: more, s)

/-- What a file answers to some uses, one after the other, and the scene afterwards. -/
def answersOf (e : Executor σ ε) (path : String) :
    List Use → Scene (Located × σ) →
      List (Except (Error ε) ToolOutput) × Scene (Located × σ)
  | [], s => ([], s)
  | u :: us, s =>
    let (answer, s) := answerOf e path u.arguments u.limit s
    let (more, s) := answersOf e path us s
    (answer :: more, s)

/-- **The uses of a tool that is located** are all answered by the file that is remembered. The
settings play no part any more, and neither do files that have come or gone. -/
theorem answers_of_located (us : List Use) (hs : s.own.1 = some path) :
    answers e settings us s = answersOf e path us s := by
  induction us generalizing s with
  | nil => rfl
  | cons u us ih =>
    have hnext : (answerOf e path u.arguments u.limit s).2.own.1 = some path := hs
    rw [answers, answersOf, outcome_run_of_located hs]
    dsimp only
    rw [ih hnext]

/-- What is remembered stays. -/
theorem own_answers (us : List Use) (hs : s.own.1 = some path) :
    (answers e settings us s).2.own.1 = some path := by
  rw [answers_of_located us hs]
  induction us generalizing s with
  | nil => exact hs
  | cons u us ih => exact ih (s := (answerOf e path u.arguments u.limit s).2) hs

/-- **Nothing is sought once the tool is located**: executors that run commands alike give the same
answers, however they find commands. -/
theorem answers_congr_run (us : List Use) (hrun : e.run = e'.run) (hs : s.own.1 = some path) :
    answers e settings us s = answers e' settings' us s := by
  have hanswer : answerOf e = answerOf e' := by
    funext path arguments limit s
    unfold answerOf
    rw [hrun]
  rw [answers_of_located us hs, answers_of_located us hs]
  induction us generalizing s with
  | nil => rfl
  | cons u us ih =>
    have hnext : (answerOf e path u.arguments u.limit s).2.own.1 = some path := hs
    rw [answersOf, answersOf, ← hanswer]
    dsimp only
    rw [ih hnext]

/-- A file that is run does not answer that there is no tool, whatever it is used for. -/
lemma not_isMissing_answersOf (us : List Use) (s : Scene (Located × σ)) :
    ∀ answer ∈ (answersOf e path us s).1, ¬IsMissing answer := by
  induction us generalizing s with
  | nil => exact fun answer hmem => absurd hmem List.not_mem_nil
  | cons u us ih =>
    rw [answersOf]
    exact List.forall_mem_cons.2 ⟨not_isMissing_answerOf, ih _⟩

/-- **Answers that there is no tool come first.** Once a use has another answer, so have all that
follow. -/
theorem answers_eq_append (e : Executor σ ε) (settings : Settings) (us : List Use)
    (s : Scene (Located × σ)) :
    ∃ front back, (answers e settings us s).1 = front ++ back ∧
      (∀ answer ∈ front, IsMissing answer) ∧ ∀ answer ∈ back, ¬IsMissing answer := by
  induction us generalizing s with
  | nil => exact ⟨[], [], rfl, by simp, by simp⟩
  | cons u us ih =>
    have hiff := own_run_eq_none_iff e settings u.arguments u.limit s
    rw [answers]
    generalize (run e settings u.arguments u.limit).outcome s = r at hiff ⊢
    obtain ⟨answer, t⟩ := r
    dsimp only at hiff ⊢
    cases ht : t.own.1 with
    | none =>
      obtain ⟨front, back, heq, hfront, hback⟩ := ih t
      refine ⟨answer :: front, back, by rw [heq]; rfl, ?_, hback⟩
      exact List.forall_mem_cons.2 ⟨hiff.1 ht, hfront⟩
    | some path =>
      have hfirst : ¬IsMissing answer := by
        rw [← hiff, ht]
        simp
      rw [answers_of_located us ht]
      exact ⟨[], _, rfl, by simp, List.forall_mem_cons.2 ⟨hfirst, not_isMissing_answersOf us t⟩⟩

end Uses

/-! ### The tool on a host -/

section OnHost

variable {σ : Type} {settings : Settings} {s : Scene (Located × σ)} {path : String}
  {usual : Numeral.Number}

/-- The paths at which the tool is sought on a host, in order. -/
def toolPaths (h : Host) (settings : Settings) : List String :=
  if Files.hasDirectory (h.expandHome settings.syntaxTool) then
    [h.expandHome settings.syntaxTool]
  else h.candidates (h.expandHome settings.syntaxTool) settings.searchPaths

/-- The answer that there is no tool on a host. -/
def missing (h : Host) (settings : Settings) : Error Command.Error :=
  if Files.hasDirectory (h.expandHome settings.syntaxTool) then
    .notExecutable (h.expandHome settings.syntaxTool)
  else .notInstalled (h.expandHome settings.syntaxTool)

/-- What comes of seeking the tool on a host, which changes nothing. -/
lemma outcome_search_ofHost (usual : Numeral.Number) (settings : Settings)
    (s : Scene (Located × σ)) :
    (search (.ofHost σ usual) settings).outcome s =
      (match (toolPaths s.host settings).find? s.host.files.isExecutable with
        | some path => .ok path
        | none => .error (missing s.host settings), s) := by
  have hfind : ∀ (command : String) (directories : List String) (t : Scene σ),
      ((Executor.ofHost σ usual).find command directories).outcome t =
        ((t.host.findCommand command directories).value, t) := fun _ _ _ => rfl
  rw [outcome_search, toolPaths, missing]
  dsimp only
  split
  · cases hexec : s.host.files.isExecutable (s.host.expandHome settings.syntaxTool) <;>
      simp [hexec]
  · rw [hfind, Host.value_findCommand]

/-- **Where the tool is located on a host**: at the first of its paths where there is a file that
can be run. -/
theorem search_ofHost_eq_ok_iff :
    ((search (.ofHost σ usual) settings).outcome s).1 = .ok path ↔
      s.host.files.isExecutable path ∧ ∃ front back,
        toolPaths s.host settings = front ++ path :: back ∧
          ∀ other ∈ front, s.host.files.isExecutable other = false := by
  have hfirst : (toolPaths s.host settings).find? s.host.files.isExecutable = some path ↔ _ :=
    List.find?_eq_some_iff_append
  simp only [Bool.not_eq_true'] at hfirst
  rw [outcome_search_ofHost, ← hfirst]
  cases (toolPaths s.host settings).find? s.host.files.isExecutable <;> simp

/-- **Without the tool nothing happens**: if no file at its paths can be run, a use is answered that
it is missing, and the host is as it was. -/
theorem outcome_run_of_missing (arguments : List String) (limit : Option Numeral.Number)
    (hs : s.own.1 = none)
    (hpaths : ∀ path ∈ toolPaths s.host settings, s.host.files.isExecutable path = false) :
    (run (.ofHost σ usual) settings arguments limit).outcome s =
      (.error (missing s.host settings), s) := by
  have hnone : (toolPaths s.host settings).find? s.host.files.isExecutable = none := by
    simpa using hpaths
  rw [outcome_run, outcome_locate, hs]
  dsimp only
  rw [outcome_search_ofHost, hnone]

end OnHost

/-! ### The version -/

section Version

variable {p : Char → Bool} {c : Char} {s v rest : List Char}

/-- What is behind a character at the front. -/
lemma behindChar?_eq_some_iff : behindChar? c s = some rest ↔ s = c :: rest := by
  cases s with
  | nil => simp [behindChar?]
  | cons d s => simp [behindChar?]

/-- What is behind a run at the front, which is read as far as it goes. -/
lemma behindRun?_eq_some_iff :
    behindRun? p s = some rest ↔
      ∃ run, run ≠ [] ∧ (∀ c ∈ run, p c = true) ∧ s = run ++ rest ∧
        ∀ c ∈ rest.head?, p c = false := by
  unfold behindRun?
  rw [List.span_eq_takeWhile_dropWhile]
  constructor
  · intro h
    split at h
    · cases h
    · rename_i run rest' hne heq
      obtain ⟨rfl, rfl⟩ := Prod.mk.inj heq
      obtain rfl := Option.some.inj h
      exact ⟨s.takeWhile p, hne, fun c hc => List.mem_takeWhile_imp hc,
        List.takeWhile_append_dropWhile.symm, Text.head?_dropWhile p s⟩
  · rintro ⟨run, hne, hrun, rfl, hrest⟩
    rw [Text.takeWhile_run_append hrun hrest, Text.dropWhile_run_append hrun hrest]
    obtain ⟨c, cs, rfl⟩ := List.exists_cons_of_ne_nil hne
    rfl

/-- A character of the numbers in a version. -/
def isDottedDigit (c : Char) : Bool :=
  Text.isDigit c || c == '.'

/-- The form of a version: `v` with digits and points, a count, and the number of a commit behind
`g`. -/
def IsVersion (v : List Char) : Prop :=
  ∃ number count commit, v = 'v' :: (number ++ '-' :: (count ++ '-' :: 'g' :: commit)) ∧
    (number ≠ [] ∧ ∀ c ∈ number, isDottedDigit c = true) ∧
    (count ≠ [] ∧ ∀ c ∈ count, Text.isDigit c = true) ∧
    (commit ≠ [] ∧ ∀ c ∈ commit, isHexDigit c = true)

/-- **A version at the front** of a text is read as far as it goes. -/
theorem behindVersion?_eq_some_iff :
    behindVersion? s = some rest ↔
      ∃ v, IsVersion v ∧ s = v ++ rest ∧ ∀ c ∈ rest.head?, isHexDigit c = false := by
  -- a hyphen stops both runs in front of it, so nothing has to be said about what follows them
  have hhyphen : ∀ (q : Char → Bool) (t : List Char), q '-' = false →
      ∀ c ∈ ('-' :: t).head?, q c = false := fun q t hq => Text.head?_cons_of_neg hq t
  unfold behindVersion?
  simp only [Option.bind_eq_bind, Option.bind_eq_some_iff, behindChar?_eq_some_iff,
    behindRun?_eq_some_iff]
  constructor
  · rintro
      ⟨_, rfl, _, ⟨number, hnumber, hdots, rfl, -⟩, _, rfl, _, ⟨count, hcount, hdigits, rfl, -⟩,
      _, rfl, _, rfl, commit, hcommit, hhex, rfl, hrest⟩
    exact ⟨_, ⟨number, count, commit, rfl, ⟨hnumber, hdots⟩, ⟨hcount, hdigits⟩, hcommit, hhex⟩,
      by simp, hrest⟩
  · rintro ⟨_, ⟨number, count, commit, rfl, ⟨hnumber, hdots⟩, ⟨hcount, hdigits⟩, hcommit, hhex⟩,
      rfl, hrest⟩
    refine ⟨number ++ '-' :: (count ++ '-' :: 'g' :: (commit ++ rest)), by simp, _,
      ⟨number, hnumber, hdots, rfl, hhyphen _ _ (by decide)⟩, _, rfl, _,
      ⟨count, hcount, hdigits, rfl, hhyphen _ _ (by decide)⟩, _, rfl, _, rfl, commit, hcommit, hhex,
      rfl, hrest⟩

/-- A version goes on as far as the number of its commit does. -/
lemma behindVersion?_append (hv : IsVersion v) (rest : List Char) :
    behindVersion? (v ++ rest) = some (rest.dropWhile isHexDigit) := by
  obtain ⟨number, count, commit, rfl, hnumber, hcount, hcommit, hhex⟩ := hv
  refine behindVersion?_eq_some_iff.2 ⟨'v' :: (number ++ '-' :: (count ++ '-' :: 'g' ::
    (commit ++ rest.takeWhile isHexDigit))), ⟨number, count, _, rfl, hnumber, hcount, ?_, ?_⟩,
    by simp, Text.head?_dropWhile isHexDigit rest⟩
  · simp [hcommit]
  · intro c hc
    rcases List.mem_append.1 hc with hc | hc
    · exact hhex c hc
    · exact List.mem_takeWhile_imp hc

/-- A text in which nothing is read does not begin with a version. -/
lemma ne_append_of_behindVersion?_eq_none (h : behindVersion? s = none) (hv : IsVersion v)
    (rest : List Char) : s ≠ v ++ rest := by
  rintro rfl
  rw [behindVersion?_append hv rest] at h
  cases h

/-- A version at the front is the first one, read as far as it goes. -/
lemma firstVersion?_cons (c : Char) (s : List Char) :
    firstVersion? (c :: s) =
      match behindVersion? (c :: s) with
      | some rest => some ((c :: s).take ((c :: s).length - rest.length))
      | none => firstVersion? s := rfl

/-- **The version in a text** is the one that begins first, read as far as it goes. -/
theorem firstVersion?_eq_some_iff :
    firstVersion? s = some v ↔
      ∃ front back, s = front ++ (v ++ back) ∧ IsVersion v ∧
        (∀ c ∈ back.head?, isHexDigit c = false) ∧
        ∀ front' w back', s = front' ++ (w ++ back') → IsVersion w →
          front.length ≤ front'.length := by
  induction s with
  | nil =>
    refine iff_of_false (by simp [firstVersion?]) ?_
    rintro ⟨front, back, heq, ⟨number, count, commit, rfl, -⟩, -⟩
    simp at heq
  | cons c s ih =>
    rw [firstVersion?_cons]
    cases hbehind : behindVersion? (c :: s) with
    | some rest =>
      obtain ⟨w, hw, heq, hrest⟩ := behindVersion?_eq_some_iff.1 hbehind
      have htaken : (c :: s).take ((c :: s).length - rest.length) = w := by
        rw [heq, List.length_append, Nat.add_sub_cancel, List.take_left]
      dsimp only
      rw [htaken]
      constructor
      · rintro ⟨⟩
        exact ⟨[], rest, heq, hw, hrest, fun _ _ _ _ _ => Nat.zero_le _⟩
      · rintro ⟨front, back, heq', hv, hback, hfirst⟩
        -- nothing begins in front of the text
        obtain rfl : front = [] := List.length_eq_zero_iff.1
          (Nat.le_zero.1 (hfirst [] w rest heq hw))
        have hsame := behindVersion?_eq_some_iff.2 ⟨v, hv, heq', hback⟩
        obtain rfl : rest = back := Option.some.inj (hbehind.symm.trans hsame)
        exact congrArg some (List.append_cancel_right (heq.symm.trans heq'))
    | none =>
      have hlater : ∀ {front w back}, c :: s = front ++ (w ++ back) → IsVersion w →
          ∃ front', front = c :: front' ∧ s = front' ++ (w ++ back) := by
        intro front w back heq hw
        cases front with
        | nil => exact absurd heq (ne_append_of_behindVersion?_eq_none hbehind hw back)
        | cons d front =>
          obtain ⟨rfl, hrest⟩ := List.cons.inj heq
          exact ⟨front, rfl, hrest⟩
      dsimp only
      rw [ih]
      constructor
      · rintro ⟨front, back, rfl, hv, hback, hfirst⟩
        refine ⟨c :: front, back, rfl, hv, hback, fun front' w back' heq' hw => ?_⟩
        obtain ⟨later, rfl, hrest⟩ := hlater heq' hw
        exact Nat.succ_le_succ (hfirst later w back' hrest hw)
      · rintro ⟨front, back, heq, hv, hback, hfirst⟩
        obtain ⟨later, rfl, hrest⟩ := hlater heq hv
        refine ⟨later, back, hrest, hv, hback, fun front' w back' heq' hw => ?_⟩
        exact Nat.le_of_succ_le_succ
          (hfirst (c :: front') w back' (congrArg (c :: ·) heq') hw)

/-- **A text without a version** is one of which no part has the form. -/
theorem firstVersion?_eq_none_iff :
    firstVersion? s = none ↔ ∀ front w back, s = front ++ (w ++ back) → ¬IsVersion w := by
  induction s with
  | nil =>
    refine iff_of_true rfl ?_
    rintro front w back heq ⟨number, count, commit, rfl, -⟩
    simp at heq
  | cons c s ih =>
    rw [firstVersion?_cons]
    cases hbehind : behindVersion? (c :: s) with
    | some rest =>
      obtain ⟨w, hw, heq, -⟩ := behindVersion?_eq_some_iff.1 hbehind
      exact iff_of_false (by simp) fun h => h [] w rest heq hw
    | none =>
      dsimp only
      rw [ih]
      constructor
      · intro h front w back heq hw
        cases front with
        | nil => exact ne_append_of_behindVersion?_eq_none hbehind hw back heq
        | cons d front => exact h front w back (List.cons.inj heq).2 hw
      · exact fun h front w back heq => h (c :: front) w back (congrArg (c :: ·) heq)

/-- The version is told without what follows it. -/
example : versionIn "v0.0-3410-g398a8505\nCommit\t2023-09-01\n" = "v0.0-3410-g398a8505" := by
  decide +kernel

end Version

end FlopCensus.Verible
