import FlopCensus.CommandLine.Options
import FlopCensus.Proofs.CommandLine.Written

set_option autoImplicit false
set_option relaxedAutoImplicit false

/-!
# What can be asked for

Whatever the arguments are, a request that comes of them has been checked: a value stands among
those that its option allows, and no two options that exclude each other have been written. The
other way round, every checked request can be made.

## Main definitions

* `FlopCensus.CommandLine.Given.CanBe` — the values that an option can be given.
* `FlopCensus.CommandLine.Request.IsSound` — the requests that have been checked.

## Main results

* `FlopCensus.CommandLine.request_eq_ok_iff` — how a request comes of arguments.
* `FlopCensus.CommandLine.isSound_of_request` — arguments make checked requests only.
* `FlopCensus.CommandLine.exists_request_eq_ok_iff` — the requests that can be made.

## Design

To make a request each option is written in full, with `--` where only the place of its argument is
kept, and a path stands behind `--`. Written like this nothing depends on what the texts are.
-/

namespace FlopCensus.CommandLine

variable {α β : Type}

/-! ### The values of one option -/

/-- What an option is given where it is written: none but with its place kept, or what its argument
is read as. -/
inductive Given.IsRead (read : String → Except String β) : Given β → Prop
  /-- Only the place is kept. -/
  | blank : IsRead read .blank
  /-- An argument is read. -/
  | value {s : String} {b : β} (place : s ≠ "--") (reads : read s = .ok b) : IsRead read (.value b)

/-- What an option can be given, `start` being what it is given where it is not written. -/
def Given.CanBe (given : Given β) (read : String → Except String β) (start : Given β) : Prop :=
  given = start ∨ given.IsRead read

/-- An option with a value sets what it is given. -/
lemma Effect.of_does_ofValue {read : String → Except String β} {set : Given β → α → α}
    {argument : Option String} {f : α → α} (h : (Effect.ofValue read set).Does argument f) :
    ∃ given : Given β, given.IsRead read ∧ f = set given := by
  cases h with
  | blank => exact ⟨.blank, .blank, rfl⟩
  | @value _ _ _ s place reads =>
    dsimp only at reads
    cases hread : read s with
    | error text =>
      rw [hread] at reads
      cases reads
    | ok b =>
      rw [hread] at reads
      cases reads
      exact ⟨.value b, .value place hread, rfl⟩

/-- A value is chosen from those that can be chosen. -/
lemma chooseFrom_eq_ok_iff {choices : List String} {s t : String} :
    chooseFrom choices s = .ok t ↔ s ∈ choices ∧ t = s := by
  unfold chooseFrom
  split
  · rename_i h
    rw [List.contains_iff_mem] at h
    simp [h, eq_comm]
  · rename_i h
    rw [List.contains_iff_mem] at h
    simp [h]

/-- What an option with choices is given is one of them. -/
lemma Given.IsRead.mem_choices {choices : List String} {s : String}
    (h : (Given.value s).IsRead (chooseFrom choices)) : s ∈ choices := by
  cases h with
  | value place reads =>
    obtain ⟨hmem, rfl⟩ := chooseFrom_eq_ok_iff.1 reads
    exact hmem

/-! ### Checked requests -/

/-- What is asked of every command has been checked. -/
structure Common.IsSound (c : Common) : Prop where
  /-- The format is one of the known ones. -/
  format : c.format.CanBe (chooseFrom Report.formats.keys) (.value "markdown")
  /-- A file with settings may be named. -/
  config : c.config.CanBe pure .absent
  /-- The program is not asked to tell both more and less. -/
  level : ¬(c.verbose ∧ c.quiet)

/-- What is asked of an analysis has been checked. Any path will do. -/
structure Analysis.IsSound (a : Analysis) : Prop where
  /-- A pattern may be given. -/
  pattern : a.pattern.CanBe pure .absent
  /-- A module may be named. -/
  module : a.module.CanBe pure .absent
  /-- The sections are known. -/
  sections : a.sections.CanBe (chooseFrom sectionNames) (.value "all")
  /-- The source is known. -/
  source : a.source.CanBe (chooseFrom sourceNames) (.value "verible")
  /-- The number of workers is a whole number. -/
  jobs : a.jobs.CanBe wholeNumber .absent

/-- What is asked of a command has been checked. -/
def Action.IsSound : Action → Prop
  | .analyze a => a.IsSound
  | .version source => source.CanBe (chooseFrom sourceNames) (.value "verible")

/-- A request has been checked. -/
structure Request.IsSound (r : Request) : Prop where
  /-- The part that every command has. -/
  common : r.common.IsSound
  /-- The command. -/
  action : ∀ a ∈ r.action, a.IsSound

/-- What has been read in front of the command has been checked, and an option that has been done
has been written. -/
structure Common.IsChecked (p : Grammar.Progress Common) : Prop where
  /-- The values. -/
  sound : p.values.IsSound
  /-- The program is asked to tell more. -/
  verbose : p.values.verbose → ["-v", "--verbose"] ∈ p.seen
  /-- The program is asked to tell less. -/
  quiet : p.values.quiet → ["-q", "--quiet"] ∈ p.seen

/-- The options in front of the command keep to what is checked. -/
lemma keeps_commonGrammar : commonGrammar.Keeps Common.IsChecked where
  apply o ho p q argument hp h := by
    obtain ⟨f, hdoes, hexcludes, rfl⟩ := Grammar.apply_eq_ok_iff.1 h
    have hverbose := fun hv => List.mem_cons_of_mem o.names (hp.verbose hv)
    have hquiet := fun hq => List.mem_cons_of_mem o.names (hp.quiet hq)
    simp only [commonGrammar, List.mem_cons, List.not_mem_nil, or_false] at ho
    rcases ho with rfl | rfl | rfl | rfl | rfl
    · cases hdoes
    · obtain ⟨given, hgiven, rfl⟩ := Effect.of_does_ofValue hdoes
      exact ⟨{ hp.sound with format := .inr hgiven }, hverbose, hquiet⟩
    · obtain ⟨given, hgiven, rfl⟩ := Effect.of_does_ofValue hdoes
      exact ⟨{ hp.sound with config := .inr hgiven }, hverbose, hquiet⟩
    · cases hdoes
      have hnot := hexcludes _ (List.mem_singleton_self _)
      exact ⟨{ hp.sound with level := fun h => hnot (hp.quiet h.2) },
        fun _ => List.mem_cons_self, hquiet⟩
    · cases hdoes
      have hnot := hexcludes _ (List.mem_singleton_self _)
      exact ⟨{ hp.sound with level := fun h => hnot (hp.verbose h.1) },
        hverbose, fun _ => List.mem_cons_self⟩
  other _ _ _ hp := ⟨hp.sound, hp.verbose, hp.quiet⟩

/-- The options of an analysis keep to what is checked. -/
lemma keeps_analysisGrammar : analysisGrammar.Keeps fun p => p.values.IsSound where
  apply o ho p q argument hp h := by
    obtain ⟨f, hdoes, -, rfl⟩ := Grammar.apply_eq_ok_iff.1 h
    simp only [analysisGrammar, List.mem_cons, List.not_mem_nil, or_false] at ho
    rcases ho with rfl | rfl | rfl | rfl | rfl | rfl | rfl | rfl
    · cases hdoes
    · cases hdoes
      exact ⟨hp.pattern, hp.module, hp.sections, hp.source, hp.jobs⟩
    · obtain ⟨given, hgiven, rfl⟩ := Effect.of_does_ofValue hdoes
      exact { hp with pattern := .inr hgiven }
    · obtain ⟨given, hgiven, rfl⟩ := Effect.of_does_ofValue hdoes
      exact { hp with module := .inr hgiven }
    · obtain ⟨given, hgiven, rfl⟩ := Effect.of_does_ofValue hdoes
      exact { hp with sections := .inr hgiven }
    · obtain ⟨given, hgiven, rfl⟩ := Effect.of_does_ofValue hdoes
      exact { hp with source := .inr hgiven }
    · obtain ⟨given, hgiven, rfl⟩ := Effect.of_does_ofValue hdoes
      exact { hp with jobs := .inr hgiven }
    · cases hdoes
      exact ⟨hp.pattern, hp.module, hp.sections, hp.source, hp.jobs⟩
  other _ _ _ hp := hp

/-- The options of the question for a version keep to what is checked. -/
lemma keeps_versionGrammar : versionGrammar.Keeps fun p =>
    p.values.CanBe (chooseFrom sourceNames) (.value "verible") where
  apply o ho p q argument hp h := by
    obtain ⟨f, hdoes, -, rfl⟩ := Grammar.apply_eq_ok_iff.1 h
    simp only [versionGrammar, List.mem_cons, List.not_mem_nil, or_false] at ho
    rcases ho with rfl | rfl
    · cases hdoes
    · obtain ⟨given, hgiven, rfl⟩ := Effect.of_does_ofValue hdoes
      exact .inr hgiven
  other _ _ _ hp := hp

/-- Arguments behind a command make checked commands only. -/
lemma isSound_of_action {name : String} {arguments extras : List String} {a : Action}
    (h : action name arguments = .ok (a, extras)) : a.IsSound := by
  unfold action at h
  split at h
  · cases hread : analysisGrammar.read {} arguments with
    | error fault =>
      rw [hread] at h
      cases h
    | ok p =>
      rw [hread] at h
      cases h
      have hp : p.values.IsSound :=
        keeps_analysisGrammar.read ⟨.inl rfl, .inl rfl, .inl rfl, .inl rfl, .inl rfl⟩ hread
      exact ⟨hp.pattern, hp.module, hp.sections, hp.source, hp.jobs⟩
  · cases hread : versionGrammar.read (.value "verible") arguments with
    | error fault =>
      rw [hread] at h
      cases h
    | ok p =>
      rw [hread] at h
      cases h
      exact keeps_versionGrammar.read (.inl rfl) hread

/-- The command that an operand names, with the arguments that fit nowhere behind it. -/
def commandOf : List String → Except Refusal (Option Action × List String)
  | [] => .ok (none, [])
  | name :: rest =>
    match chooseFrom commandNames name with
    | .error text => .error ⟨.program, .argument "command" text⟩
    | .ok _ => (action name rest).map fun (a, extras) => (some a, extras)

/-- A command that is named has been checked. -/
lemma isSound_of_commandOf {operand extras : List String} {found : Option Action}
    (h : commandOf operand = .ok (found, extras)) : ∀ a ∈ found, a.IsSound := by
  cases operand with
  | nil =>
    cases h
    exact fun a ha => nomatch ha
  | cons name rest =>
    rw [commandOf] at h
    split at h
    · cases h
    · cases haction : action name rest with
      | error refusal =>
        rw [haction] at h
        cases h
      | ok result =>
        rw [haction] at h
        cases h
        rintro a ⟨⟩
        exact isSound_of_action haction

/-- A request is read in two parts, and nothing may be left over. -/
lemma request_eq (arguments : List String) :
    request arguments =
      match commonGrammar.read {} arguments with
      | .error fault => .error ⟨.program, fault⟩
      | .ok p => (do
        let (found, extras) ← commandOf (p.operand.getD [])
        match p.extras ++ extras with
        | [] => Except.ok { common := p.values, action := found }
        | texts => Except.error ⟨.program, .unrecognized texts⟩) := by
  unfold request
  cases commonGrammar.read {} arguments with
  | error fault => rfl
  | ok p =>
    dsimp only
    rcases p.operand with _ | _ | ⟨name, rest⟩
    · rfl
    · rfl
    · simp only [Option.getD_some, commandOf]
      cases chooseFrom commandNames name with
      | error text => rfl
      | ok _ => cases action name rest <;> rfl

/-- **A request comes of arguments** if all of them can be read and nothing is left over, in front
of the command or behind it. -/
theorem request_eq_ok_iff {arguments : List String} {r : Request} :
    request arguments = .ok r ↔
      ∃ p, commonGrammar.read {} arguments = .ok p ∧ p.values = r.common ∧ p.extras = [] ∧
        commandOf (p.operand.getD []) = .ok (r.action, []) := by
  rw [request_eq]
  cases commonGrammar.read {} arguments with
  | error fault => simp
  | ok p =>
    simp only [bind_eq_ok, Except.ok.injEq, exists_eq_left']
    constructor
    · rintro ⟨⟨found, extras⟩, hcommand, h⟩
      split at h
      · rename_i hnone
        obtain ⟨hfront, rfl⟩ := List.append_eq_nil_iff.1 hnone
        cases h
        exact ⟨rfl, hfront, hcommand⟩
      · cases h
    · rintro ⟨hvalues, hextras, hcommand⟩
      refine ⟨_, hcommand, ?_⟩
      simp only [hextras, List.append_nil, hvalues]

/-- **Arguments make checked requests only.** -/
theorem isSound_of_request {arguments : List String} {r : Request}
    (h : request arguments = .ok r) : r.IsSound := by
  obtain ⟨p, hread, hcommon, -, hcommand⟩ := request_eq_ok_iff.1 h
  have hp : Common.IsChecked p := by
    refine keeps_commonGrammar.read ⟨⟨.inl rfl, .inl rfl, ?_⟩, ?_, ?_⟩ hread <;> simp
  exact ⟨hcommon ▸ hp.sound, isSound_of_commandOf hcommand⟩

/-! ### Requests that can be made -/

section Writing

variable {g : Grammar α} {p : Grammar.Progress α} {names : List String}
  {values values' : α}

/-- An option without an argument can be written or left out. -/
lemma exists_reaches_flag (name : String) {set : α → α} {excludes : List (List String)}
    (hfound : g.find? name = some { names, effect := .toggle set, excludes })
    (hlong : Text.opensWith name "--" ∧ name ≠ "--") (flag : Bool)
    (hp : p.values = values) (hexcludes : flag → ∀ other ∈ excludes, other ∉ p.seen) :
    ∃ q, g.Reaches p q ∧ q.values = if flag then set values else values := by
  subst hp
  cases flag with
  | false => exact ⟨p, .refl g p, rfl⟩
  | true =>
    rw [if_pos rfl]
    exact Grammar.exists_reaches (x := ⟨_, name, none⟩) ⟨hfound, hlong, rfl⟩ (.toggle _ _)
      (hexcludes rfl)

/-- An option can be given whatever it can be given. -/
lemma exists_reaches_given (name : String) {read : String → Except String β}
    {set : Given β → α → α} {start given : Given β}
    (hfound : g.find? name = some { names, effect := .ofValue read set })
    (hlong : Text.opensWith name "--" ∧ name ≠ "--") (h : given.CanBe read start)
    (hp : p.values = values) (hstart : set start values = values)
    (hset : set given values = values') : ∃ q, g.Reaches p q ∧ q.values = values' := by
  subst hp hset
  rcases h with rfl | hread
  · exact ⟨p, .refl g p, hstart.symm⟩
  · obtain ⟨s, hdoes⟩ : ∃ s, (Effect.ofValue read set).Does (some s) (set given) := by
      cases hread with
      | blank => exact ⟨"--", .blank _ _⟩
      | @value s b place reads => exact ⟨s, .value place (congrArg (Except.map _) reads)⟩
    exact Grammar.exists_reaches (x := ⟨_, name, some s⟩) ⟨hfound, hlong, rfl⟩ hdoes
      (List.forall_mem_nil _)

end Writing

/-- The program can be asked to tell more or to tell less. -/
lemma exists_reaches_level {verbose quiet : Bool} (h : ¬(verbose ∧ quiet)) :
    ∃ q, commonGrammar.Reaches { values := {} } q ∧ q.values = { verbose, quiet } := by
  cases verbose with
  | false =>
    obtain ⟨q, hq, hvalues⟩ := exists_reaches_flag (g := commonGrammar) (p := { values := {} })
      "--quiet" rfl (by decide) quiet rfl fun _ other _ => List.not_mem_nil
    exact ⟨q, hq, by rw [hvalues]; cases quiet <;> rfl⟩
  | true =>
    obtain rfl : quiet = false := by simpa using h
    exact exists_reaches_flag (g := commonGrammar) (p := { values := {} }) "--verbose" rfl
      (by decide) true rfl fun _ other _ => List.not_mem_nil

/-- What is checked can be asked of every command. -/
lemma exists_reaches_common {c : Common} (h : c.IsSound) :
    ∃ q, commonGrammar.Reaches { values := {} } q ∧ q.values = c := by
  obtain ⟨p₁, h₁, hp₁⟩ := exists_reaches_level h.level
  obtain ⟨p₂, h₂, hp₂⟩ : ∃ q, commonGrammar.Reaches p₁ q ∧
      q.values = { format := c.format, verbose := c.verbose, quiet := c.quiet } :=
    exists_reaches_given "--format" rfl (by decide) h.format hp₁ rfl rfl
  obtain ⟨p₃, h₃, hp₃⟩ : ∃ q, commonGrammar.Reaches p₂ q ∧ q.values = c :=
    exists_reaches_given "--config" rfl (by decide) h.config hp₂ rfl rfl
  exact ⟨p₃, (h₁.trans h₂).trans h₃, hp₃⟩

/-- What is checked can be asked of an analysis. -/
lemma exists_reaches_analysis {a : Analysis} (h : a.IsSound) :
    ∃ q, analysisGrammar.Reaches { values := {} } q ∧ q.values = { a with path := "" } := by
  obtain ⟨path, recursive, pattern, module, sections, source, jobs, noCache⟩ := a
  obtain ⟨p₁, h₁, hp₁⟩ : ∃ q, analysisGrammar.Reaches { values := {} } q ∧
      q.values = { pattern } :=
    exists_reaches_given "--pattern" rfl (by decide) h.pattern rfl rfl rfl
  obtain ⟨p₂, h₂, hp₂⟩ : ∃ q, analysisGrammar.Reaches p₁ q ∧ q.values = { pattern, module } :=
    exists_reaches_given "--module" rfl (by decide) h.module hp₁ rfl rfl
  obtain ⟨p₃, h₃, hp₃⟩ : ∃ q, analysisGrammar.Reaches p₂ q ∧
      q.values = { pattern, module, sections } :=
    exists_reaches_given "--type" rfl (by decide) h.sections hp₂ rfl rfl
  obtain ⟨p₄, h₄, hp₄⟩ : ∃ q, analysisGrammar.Reaches p₃ q ∧
      q.values = { pattern, module, sections, source } :=
    exists_reaches_given "--source" rfl (by decide) h.source hp₃ rfl rfl
  obtain ⟨p₅, h₅, hp₅⟩ : ∃ q, analysisGrammar.Reaches p₄ q ∧
      q.values = { pattern, module, sections, source, jobs } :=
    exists_reaches_given "--jobs" rfl (by decide) h.jobs hp₄ rfl rfl
  obtain ⟨p₆, h₆, hp₆⟩ := exists_reaches_flag (g := analysisGrammar) "--recursive" rfl
    (by decide) recursive hp₅ fun _ => List.forall_mem_nil _
  obtain ⟨p₇, h₇, hp₇⟩ := exists_reaches_flag (g := analysisGrammar) "--no-cache" rfl
    (by decide) noCache hp₆ fun _ => List.forall_mem_nil _
  refine ⟨p₇, (((((h₁.trans h₂).trans h₃).trans h₄).trans h₅).trans h₆).trans h₇, ?_⟩
  rw [hp₇]
  cases recursive <;> cases noCache <;> rfl

/-- The names of the options hold no equals sign. -/
lemma isPlain_commonGrammar : commonGrammar.IsPlain := by
  unfold Grammar.IsPlain
  decide

/-- The names of the options hold no equals sign. -/
lemma isPlain_analysisGrammar : analysisGrammar.IsPlain := by
  unfold Grammar.IsPlain
  decide

/-- The names of the options hold no equals sign. -/
lemma isPlain_versionGrammar : versionGrammar.IsPlain := by
  unfold Grammar.IsPlain
  decide

/-- No name of an option of an analysis begins one in front of the command. -/
lemma isApartFrom_analysisGrammar : commonGrammar.IsApartFrom analysisGrammar := by
  unfold Grammar.IsApartFrom
  decide

/-- No name of an option of the question for a version begins one in front of the command. -/
lemma isApartFrom_versionGrammar : commonGrammar.IsApartFrom versionGrammar := by
  unfold Grammar.IsApartFrom
  decide

/-- A command with its options written in full can be told apart in front of the options. -/
lemma exists_roles_command {g : Grammar α} (hg : g.IsPlain) (hapart : commonGrammar.IsApartFrom g)
    {settings : List (Setting α)} (hsettings : ∀ x ∈ settings, x.IsOf g) (name : String)
    (hname : name ∈ commandNames) {back : List String} {items : List (String × Role Common)}
    (hback : commonGrammar.roles back = .ok items) :
    ∃ items', commonGrammar.roles (name :: (settings.map (·.text) ++ back)) =
      .ok ((name, .plain) :: items') := by
  obtain ⟨items', hitems'⟩ : ∃ items', commonGrammar.roles (settings.map (·.text) ++ back) =
      .ok items' := by
    refine Grammar.exists_roles_append (fun s hs => ?_) hback
    obtain ⟨x, hx, rfl⟩ := List.mem_map.1 hs
    exact Grammar.exists_roleOf_text hg hapart (hsettings x hx)
  have hplain : name ≠ "--" ∧ commonGrammar.roleOf name = .ok .plain := by
    simp only [commandNames, List.mem_cons, List.not_mem_nil, or_false] at hname
    rcases hname with rfl | rfl <;> exact ⟨by decide, rfl⟩
  refine ⟨items', ?_⟩
  rw [Grammar.roles, if_neg (by simpa using hplain.1), hplain.2, hitems']
  rfl

/-- The command for an analysis. -/
lemma commandOf_analyze {rest : List String} {p : Grammar.Progress Analysis}
    (h : analysisGrammar.read {} rest = .ok p) :
    commandOf ("analyze" :: rest) =
      .ok (some (.analyze { p.values with path := (p.operand.bind (·.head?)).getD "" }),
        p.extras) := by
  change (action "analyze" rest).map _ = _
  rw [action, h]
  rfl

/-- The command that asks for a version. -/
lemma commandOf_version {rest : List String} {p : Grammar.Progress (Given String)}
    (h : versionGrammar.read (.value "verible") rest = .ok p) :
    commandOf ("version" :: rest) = .ok (some (.version p.values), p.extras) := by
  change (action "version" rest).map _ = _
  rw [action, h]
  rfl

/-- A checked command can be asked for. -/
lemma exists_commandOf {a : Action} (h : a.IsSound) :
    ∃ name rest items, commandOf (name :: rest) = .ok (some a, []) ∧
      commonGrammar.roles (name :: rest) = .ok ((name, .plain) :: items) := by
  cases a with
  | analyze a =>
    obtain ⟨q, ⟨settings, hsettings, hq⟩, hvalues⟩ := exists_reaches_analysis h
    obtain ⟨hoperand, hextras⟩ := Grammar.operand_extras_of_applyAll hq
    have hread : analysisGrammar.read {} (settings.map (·.text) ++ ["--", a.path]) =
        .ok { q with operand := some [a.path] } :=
      Grammar.read_settings isPlain_analysisGrammar hsettings hq rfl
        (Grammar.readItems_one rfl hoperand _ _) (by simp)
    have hback : commonGrammar.roles ["--", a.path] = .ok [("--", .dashes), (a.path, .plain)] := rfl
    obtain ⟨items, hitems⟩ := exists_roles_command isPlain_analysisGrammar
      isApartFrom_analysisGrammar hsettings "analyze" (by decide) hback
    refine ⟨"analyze", _, items, ?_, hitems⟩
    rw [commandOf_analyze hread, hvalues, hextras]
    rfl
  | version source =>
    obtain ⟨q, ⟨settings, hsettings, hq⟩, hvalues⟩ : ∃ q,
        versionGrammar.Reaches { values := .value "verible" } q ∧ q.values = source :=
      exists_reaches_given "--source" rfl (by decide) h rfl rfl rfl
    obtain ⟨-, hextras⟩ := Grammar.operand_extras_of_applyAll hq
    have hread : versionGrammar.read (.value "verible") (settings.map (·.text) ++ []) = .ok q :=
      Grammar.read_settings isPlain_versionGrammar hsettings hq rfl (Grammar.readItems_nil _ _)
        fun _ _ => nofun
    have hback : commonGrammar.roles [] = .ok [] := rfl
    obtain ⟨items, hitems⟩ := exists_roles_command isPlain_versionGrammar
      isApartFrom_versionGrammar hsettings "version" (by decide) hback
    refine ⟨"version", _, items, ?_, hitems⟩
    rw [commandOf_version hread, hvalues, hextras]

/-- **The requests that can be made** are those that have been checked: each of them comes of some
arguments. -/
theorem exists_request_eq_ok_iff {r : Request} :
    (∃ arguments, request arguments = .ok r) ↔ r.IsSound := by
  refine ⟨fun ⟨arguments, h⟩ => isSound_of_request h, fun h => ?_⟩
  obtain ⟨q, ⟨settings, hsettings, hq⟩, hvalues⟩ := exists_reaches_common h.common
  obtain ⟨hoperand, hextras⟩ := Grammar.operand_extras_of_applyAll hq
  cases haction : r.action with
  | none =>
    have hread : commonGrammar.read {} (settings.map (·.text) ++ []) = .ok q :=
      Grammar.read_settings isPlain_commonGrammar hsettings hq rfl (Grammar.readItems_nil _ _)
        fun _ _ => nofun
    exact ⟨_, request_eq_ok_iff.2 ⟨q, hread, hvalues, hextras, by rw [hoperand, haction]; rfl⟩⟩
  | some a =>
    obtain ⟨name, rest, items, hcommand, hitems⟩ := exists_commandOf (h.action a haction)
    have htexts : name :: items.map (·.1) = name :: rest := Grammar.texts_of_roles hitems
    have hread : commonGrammar.read {} (settings.map (·.text) ++ name :: rest) =
        .ok { q with operand := some (name :: rest) } :=
      Grammar.read_settings isPlain_commonGrammar hsettings hq hitems
        (htexts ▸ Grammar.readItems_command rfl hoperand _ _ _) fun _ _ => nofun
    exact ⟨_, request_eq_ok_iff.2 ⟨_, hread, hvalues, hextras, by rw [haction]; exact hcommand⟩⟩

end FlopCensus.CommandLine
