import FlopCensus.CommandLine.Run
import FlopCensus.Proofs.CommandLine.Options
import FlopCensus.Proofs.Registry
import FlopCensus.Proofs.Session

set_option autoImplicit false
set_option relaxedAutoImplicit false

/-!
# How a run ends

A run ends with a status, or with a message where something that can be foreseen is wrong. The ways
in which it can end are listed here along its steps: the arguments, the path, the settings, and the
survey or the answer of the source. What the statuses mean is read off the list.

## Main definitions

* `FlopCensus.CommandLine.Configured`, `FlopCensus.CommandLine.Misconfigured` — the settings of a
  run, and what is wrong with them.
* `FlopCensus.CommandLine.Surveyed`, `FlopCensus.CommandLine.Reports` — the inventory of an analysis
  and its report.
* `FlopCensus.CommandLine.AnalysisEnds`, `FlopCensus.CommandLine.VersionEnds`,
  `FlopCensus.CommandLine.Ends` — the ways in which a run ends.

## Main results

* `FlopCensus.CommandLine.analyze_eq_ok_iff`, `FlopCensus.CommandLine.version_eq_ok_iff`,
  `FlopCensus.CommandLine.run_eq_ok_iff` — how a run ends.
* `FlopCensus.CommandLine.exit_eq_two_iff`, `FlopCensus.CommandLine.exit_eq_one_iff` — what the
  statuses mean.
* `FlopCensus.CommandLine.silent_of_message`,
  `FlopCensus.CommandLine.Analyzed.stderr_eq_empty_iff` — what is written beside a report, and beside
  a message.
* `FlopCensus.CommandLine.find?_format` — the format of a report is the one that is asked for.
* `FlopCensus.CommandLine.Configured.log_withSettings`, `FlopCensus.CommandLine.level_of_mem_log`,
  `FlopCensus.CommandLine.level_of_quiet` — the records of a run.
-/

namespace FlopCensus.CommandLine

variable {h : Host} {arguments : List String} {c : Common} {a : Analysis} {e : Ending}

/-! ### Values of options -/

/-- The value that an option is given, if it has one. -/
def Given.toOption {β : Type} : Given β → Option β
  | .value b => some b
  | _ => none

/-- Only the place of a value is kept. -/
lemma outcome_given?_blank {β : Type} (name : String) :
    (given? name (.blank : Given β)).outcome = ⟨[], .error (.blank name)⟩ := rfl

/-- A value that is not missing is had. -/
lemma outcome_given?_of_ne {β : Type} {given : Given β} (hgiven : given ≠ .blank) (name : String) :
    (given? name given).outcome = ⟨[], .ok given.toOption⟩ := by
  cases given with
  | blank => exact absurd rfl hgiven
  | absent => rfl
  | value b => rfl

/-- A value is had unless only its place is kept. -/
lemma value_given?_eq_ok_iff {β : Type} {name : String} {given : Given β} {x : Option β} :
    (given? name given).outcome.value = .ok x ↔ given ≠ .blank ∧ given.toOption = x := by
  by_cases hgiven : given = .blank
  · rw [hgiven, outcome_given?_blank]
    simp
  · rw [outcome_given?_of_ne hgiven]
    simp [hgiven]

/-- The value of a session is a value of the run. -/
lemma inSession_eq {α : Type} (h : Host) (act : Session SourceState α) :
    (inSession h act).outcome.value = .ok (act.outcome ⟨h, (none, ())⟩).1 := rfl

/-- Hiding records changes no value. -/
lemma value_shown {α : Type} (n : ℕ) (m : Logged α) : (shown n m).value = m.value := rfl

/-! ### Settings -/

/-- The settings of a run, and the level of the log that is asked for. -/
structure Configured (h : Host) (c : Common) (settings : Settings) (n : ℕ) : Prop where
  /-- The file with settings is named, or left out. -/
  named : c.config ≠ .blank
  /-- The settings can be had. -/
  loads : (Settings.load h c.config.toOption).outcome.value = .ok settings
  /-- The level can be had. -/
  level : level c settings.logLevel = .ok n

/-- The settings of a run cannot be had, which is told in their terms. -/
def Misconfigured (h : Host) (c : Common) (error : Settings.Error) : Prop :=
  c.config ≠ .blank ∧ (Settings.load h c.config.toOption).outcome.value = .error error ∧
    error.isForeseen

/-- Only the place of the file with settings is kept. -/
lemma outcome_withSettings_of_blank (hc : c.config = .blank) (f : Settings → ℕ → Course Ending) :
    (withSettings h c f).outcome = ⟨[], .error (.blank "--config")⟩ := by
  rw [withSettings, hc]
  rfl

/-- What is told and what comes of a run with settings. -/
lemma outcome_withSettings (hc : c.config ≠ .blank) (f : Settings → ℕ → Course Ending) :
    (withSettings h c f).outcome =
      (shown firstLevel (Settings.load h c.config.toOption).outcome >>= fun loaded =>
        match loaded with
        | .error error =>
          return if error.isForeseen then .ok (failed firstLevel error.message)
            else .error (.settings error)
        | .ok settings =>
          match level c settings.logLevel with
          | .error error => return .error (.level error)
          | .ok n => shown n (f settings n).outcome) := by
  rw [withSettings, Attempt.outcome_bind_of_silent (outcome_given?_of_ne hc _)]
  refine congrArg (shown firstLevel (Settings.load h c.config.toOption).outcome >>= ·)
    (funext fun loaded => ?_)
  cases loaded with
  | error error => rfl
  | ok settings => rfl

/-- A run without settings ends with what is wrong with them. -/
lemma withSettings_of_misconfigured {error : Settings.Error} (herror : Misconfigured h c error)
    (f : Settings → ℕ → Course Ending) :
    (withSettings h c f).outcome.value = .ok (failed firstLevel error.message) := by
  obtain ⟨hc, hload, hforeseen⟩ := herror
  rw [outcome_withSettings hc, Logged.value_bind, value_shown, hload]
  change (if error.isForeseen then _ else _) = _
  rw [if_pos hforeseen]

/-- A run with settings goes on with them. -/
lemma Configured.value_withSettings {settings : Settings} {n : ℕ}
    (hconfigured : Configured h c settings n) (f : Settings → ℕ → Course Ending) :
    (withSettings h c f).outcome.value = (f settings n).outcome.value := by
  rw [outcome_withSettings hconfigured.named, Logged.value_bind, value_shown, hconfigured.loads]
  dsimp only
  rw [hconfigured.level]
  rfl

/-- A run with settings ends with what is wrong with them or as it goes on. -/
lemma withSettings_eq_ok_iff {f : Settings → ℕ → Course Ending} :
    (withSettings h c f).outcome.value = .ok e ↔
      (∃ error, Misconfigured h c error ∧ e = failed firstLevel error.message) ∨
        ∃ settings n, Configured h c settings n ∧ (f settings n).outcome.value = .ok e := by
  constructor
  · intro hvalue
    have hc : c.config ≠ .blank := by
      intro hc
      rw [outcome_withSettings_of_blank hc] at hvalue
      cases hvalue
    have hvalue' := hvalue
    rw [outcome_withSettings hc, Logged.value_bind, value_shown] at hvalue'
    cases hload : (Settings.load h c.config.toOption).outcome.value with
    | error error =>
      rw [hload] at hvalue'
      change (if error.isForeseen then _ else _) = _ at hvalue'
      split at hvalue'
      · rename_i hforeseen
        cases hvalue'
        exact .inl ⟨error, ⟨hc, hload, hforeseen⟩, rfl⟩
      · cases hvalue'
    | ok settings =>
      rw [hload] at hvalue'
      cases hlevel : level c settings.logLevel with
      | error error =>
        dsimp only at hvalue'
        rw [hlevel] at hvalue'
        cases hvalue'
      | ok n =>
        have hconfigured : Configured h c settings n := ⟨hc, hload, hlevel⟩
        rw [hconfigured.value_withSettings] at hvalue
        exact .inr ⟨settings, n, hconfigured, hvalue⟩
  · rintro (⟨error, herror, rfl⟩ | ⟨settings, n, hconfigured, hvalue⟩)
    · exact withSettings_of_misconfigured herror f
    · rw [hconfigured.value_withSettings, hvalue]

/-! ### An analysis -/

/-- The report of an inventory in the format and with the sections that are asked for. -/
structure Reports (c : Common) (a : Analysis) (n : ℕ) (inv : Inventory) (e : Ending) : Prop where
  /-- The format is named. -/
  named : c.format ≠ .blank
  /-- The status tells whether there is something to report. -/
  exit : e.exit = .status (statusFor inv)
  /-- The report is written. -/
  stdout : ∃ text, (formatOf (c.format.toOption.getD "")).report inv (sectionsOf a) = .ok text ∧
    e.stdout = text ++ "\n"
  /-- Each failure is told. -/
  stderr : e.stderr = warnings inv
  /-- The level of the log stays. -/
  level : e.level = n

/-- Reporting an inventory. -/
lemma report_eq_ok_iff {n : ℕ} {inv : Inventory} :
    (report c a n inv).outcome.value = .ok e ↔ Reports c a n inv e := by
  rw [report, Attempt.value_bind_eq_ok]
  simp only [value_given?_eq_ok_iff, and_assoc, exists_and_left, exists_eq_left']
  cases htext : (formatOf (c.format.toOption.getD "")).report inv (sectionsOf a) with
  | error error =>
    refine ⟨fun hvalue => ?_, fun hreport => ?_⟩
    · cases hvalue.2
    · obtain ⟨text, htext', -⟩ := hreport.stdout
      rw [htext] at htext'
      cases htext'
  | ok text =>
    constructor
    · rintro ⟨hnamed, hvalue⟩
      cases hvalue
      exact ⟨hnamed, rfl, ⟨text, htext, rfl⟩, rfl, rfl⟩
    · rintro ⟨hnamed, hexit, ⟨text', htext', hstdout⟩, hstderr, hlevel⟩
      rw [htext] at htext'
      cases htext'
      obtain ⟨exit, stdout, stderr, level⟩ := e
      dsimp only at hexit hstdout hstderr hlevel
      subst hexit hstdout hstderr hlevel
      exact ⟨hnamed, rfl⟩

/-- The part of a result that is asked for; if a module is asked for whose name is missing, nothing
is left but the failures. -/
def Analysis.part (a : Analysis) (inv : Inventory) : Inventory :=
  if a.module == .blank then { inv with registers := [], modules := [] } else inv

/-- The survey for an analysis. -/
lemma survey_eq_ok_iff {settings : Settings} {source : TreeSource SourceState}
    {store : Survey.Store Numeral.Number} {inv : Inventory} :
    (survey h a settings source store).outcome.value = .ok inv ↔
      a.jobs ≠ .blank ∧ ∃ found,
        ((Survey.path source settings (.int 0) (targetOf a) store).outcome ⟨h, (none, ())⟩).1.1 =
          .ok found ∧ inv = a.part found := by
  rw [survey]
  dsimp only
  by_cases hjobs : a.jobs = .blank
  · rw [if_pos (beq_iff_eq.2 hjobs), Attempt.value_bind_eq_ok]
    refine ⟨?_, fun hfound => absurd hjobs hfound.1⟩
    rintro ⟨listed, -, hvalue⟩
    cases listed <;> cases hvalue
  · rw [if_neg (by simpa using hjobs), Attempt.value_bind_eq_ok]
    simp only [inSession_eq, Except.ok.injEq, exists_eq_left', hjobs, ne_eq, not_false_eq_true,
      true_and]
    generalize ((Survey.path source settings (.int 0) (targetOf a) store).outcome
      ⟨h, (none, ())⟩).1 = result
    obtain ⟨found, store'⟩ := result
    cases found with
    | error error => exact ⟨nofun, nofun⟩
    | ok found =>
      constructor
      · intro hvalue
        cases hvalue
        exact ⟨found, rfl, rfl⟩
      · rintro ⟨found', hfound, rfl⟩
        cases hfound
        rfl

/-- The settings of an analysis. -/
def Analysis.settings (a : Analysis) (settings : Settings) : Settings :=
  if a.noCache then { settings with cacheEnabled := false } else settings

/-- The inventory that an analysis yields. -/
structure Surveyed (h : Host) (a : Analysis) (settings : Settings) (inv : Inventory) : Prop where
  /-- The source is named. -/
  source : a.source ≠ .blank
  /-- The number of workers is told. -/
  jobs : a.jobs ≠ .blank
  /-- The survey has a result. -/
  result : ∃ store found, Survey.storeFor settings = .ok store ∧
    ((Survey.path (sourceOf (a.source.toOption.getD "") settings) settings (.int 0) (targetOf a)
      store).outcome ⟨h, (none, ())⟩).1.1 = .ok found ∧
    inv = a.part found

/-- What an analysis does with its settings. -/
def reporting (h : Host) (c : Common) (a : Analysis) (settings : Settings) (n : ℕ) :
    Course Ending := do
  let name ← given? "--source" a.source
  match Survey.storeFor settings with
  | .error e => throw (.survey (.store e))
  | .ok store =>
    let inv ← survey h a settings (sourceOf (name.getD "") settings) store
    report c a n inv

/-- An analysis reports what the survey yields. -/
lemma reporting_eq_ok_iff {settings : Settings} {n : ℕ} :
    (reporting h c a settings n).outcome.value = .ok e ↔
      ∃ inv, Surveyed h a settings inv ∧ Reports c a n inv e := by
  rw [reporting, Attempt.value_bind_eq_ok]
  constructor
  · rintro ⟨name, hname, hvalue⟩
    obtain ⟨hsource, rfl⟩ := value_given?_eq_ok_iff.1 hname
    cases hstore : Survey.storeFor settings with
    | error error =>
      rw [hstore] at hvalue
      cases hvalue
    | ok store =>
      rw [hstore] at hvalue
      obtain ⟨inv, hinv, hreport⟩ := Attempt.value_bind_eq_ok.1 hvalue
      obtain ⟨hjobs, found, hfound, rfl⟩ := survey_eq_ok_iff.1 hinv
      exact ⟨_, ⟨hsource, hjobs, store, found, hstore, hfound, rfl⟩, report_eq_ok_iff.1 hreport⟩
  · rintro ⟨inv, ⟨hsource, hjobs, store, found, hstore, hfound, hinv⟩, hreport⟩
    refine ⟨_, value_given?_eq_ok_iff.2 ⟨hsource, rfl⟩, ?_⟩
    rw [hstore]
    exact Attempt.value_bind_eq_ok.2
      ⟨inv, survey_eq_ok_iff.2 ⟨hjobs, found, hfound, hinv⟩, report_eq_ok_iff.2 hreport⟩

/-- The ways in which an analysis ends. -/
inductive AnalysisEnds (h : Host) (c : Common) (a : Analysis) : Ending → Prop
  /-- There is nothing at the path. -/
  | missing (hpath : h.files.holds a.path = false) :
    AnalysisEnds h c a (failed firstLevel ("Path not found: " ++ a.path))
  /-- A directory stands at the path, and it is not asked for what is below. -/
  | directory (hpath : h.files.holds a.path) (hdirectory : h.files.isDirectory a.path)
      (hrecursive : a.recursive = false) :
    AnalysisEnds h c a
      (failed firstLevel (a.path ++ " is a directory. Use --recursive to analyse it."))
  /-- The settings are wrong. -/
  | misconfigured (hpath : h.files.holds a.path)
      (hrecursive : h.files.isDirectory a.path → a.recursive) {error : Settings.Error}
      (herror : Misconfigured h c error) :
    AnalysisEnds h c a (failed firstLevel error.message)
  /-- There is a report. -/
  | reported (hpath : h.files.holds a.path)
      (hrecursive : h.files.isDirectory a.path → a.recursive) {settings : Settings} {n : ℕ}
      {inv : Inventory} {e : Ending} (hconfigured : Configured h c settings n)
      (hsurvey : Surveyed h a (a.settings settings) inv) (hreport : Reports c a n inv e) :
    AnalysisEnds h c a e

/-- An analysis of a path that can be analysed goes on with its settings. -/
lemma analyze_of_path (hpath : h.files.holds a.path)
    (hrecursive : h.files.isDirectory a.path → a.recursive) :
    analyze h c a = withSettings h c fun settings n => reporting h c a (a.settings settings) n := by
  have hdirectory : ¬(h.files.isDirectory a.path && !a.recursive) := by
    cases hd : h.files.isDirectory a.path with
    | false => simp
    | true => simp [hrecursive hd]
  rw [analyze, if_neg (by simp [hpath]), if_neg hdirectory]
  rfl

/-- **How an analysis ends.** -/
theorem analyze_eq_ok_iff : (analyze h c a).outcome.value = .ok e ↔ AnalysisEnds h c a e := by
  constructor
  · intro hvalue
    by_cases hpath : h.files.holds a.path
    · by_cases hrecursive : h.files.isDirectory a.path → a.recursive
      · rw [analyze_of_path hpath hrecursive, withSettings_eq_ok_iff] at hvalue
        rcases hvalue with ⟨error, herror, rfl⟩ | ⟨settings, n, hconfigured, hvalue⟩
        · exact .misconfigured hpath hrecursive herror
        · obtain ⟨inv, hsurvey, hreport⟩ := reporting_eq_ok_iff.1 hvalue
          exact .reported hpath hrecursive hconfigured hsurvey hreport
      · obtain ⟨hdirectory, hnot⟩ := Classical.not_imp.1 hrecursive
        rw [Bool.not_eq_true] at hnot
        rw [analyze, if_neg (by simp [hpath]), if_pos (by simp [hdirectory, hnot])] at hvalue
        cases hvalue
        exact .directory hpath hdirectory hnot
    · rw [Bool.not_eq_true] at hpath
      rw [analyze, if_pos (by simp [hpath])] at hvalue
      cases hvalue
      exact .missing hpath
  · intro hends
    cases hends with
    | missing hpath =>
      rw [analyze, if_pos (by simp [hpath])]
      rfl
    | directory hpath hdirectory hrecursive =>
      rw [analyze, if_neg (by simp [hpath]), if_pos (by simp [hdirectory, hrecursive])]
      rfl
    | misconfigured hpath hrecursive herror =>
      rw [analyze_of_path hpath hrecursive]
      exact withSettings_of_misconfigured herror _
    | reported hpath hrecursive hconfigured hsurvey hreport =>
      rw [analyze_of_path hpath hrecursive, hconfigured.value_withSettings]
      exact reporting_eq_ok_iff.2 ⟨_, hsurvey, hreport⟩

/-! ### A question for a version -/

/-- What a source answers to the question for its version. -/
def answer (h : Host) (name : Given String) (settings : Settings) : Except SourceFailure String :=
  ((sourceOf (name.toOption.getD "") settings).version.run.outcome ⟨h, (none, ())⟩).1

/-- The ways in which a question for a version ends. -/
inductive VersionEnds (h : Host) (c : Common) (name : Given String) : Ending → Prop
  /-- The settings are wrong. -/
  | misconfigured {error : Settings.Error} (herror : Misconfigured h c error) :
    VersionEnds h c name (failed firstLevel error.message)
  /-- The source tells its version. -/
  | told {settings : Settings} {n : ℕ} {text : String} (hconfigured : Configured h c settings n)
      (hnamed : name ≠ .blank) (hanswer : answer h name settings = .ok text) :
    VersionEnds h c name {
      exit := .status 0
      stdout := (sourceOf (name.toOption.getD "") settings).name ++ " " ++ text ++ "\n"
      level := n }
  /-- The source fails, and says why. -/
  | failed {settings : Settings} {n : ℕ} {failure : SourceFailure}
      (hconfigured : Configured h c settings n) (hnamed : name ≠ .blank)
      (hanswer : answer h name settings = .error failure) (hown : failure.isOwn) :
    VersionEnds h c name (failed n failure.message)

/-- **How a question for a version ends.** -/
theorem version_eq_ok_iff {name : Given String} :
    (version h c name).outcome.value = .ok e ↔ VersionEnds h c name e := by
  rw [version, withSettings_eq_ok_iff]
  constructor
  · rintro (⟨error, herror, rfl⟩ | ⟨settings, n, hconfigured, hvalue⟩)
    · exact .misconfigured herror
    · obtain ⟨source, hsource, hvalue⟩ := Attempt.value_bind_eq_ok.1 hvalue
      obtain ⟨hnamed, rfl⟩ := value_given?_eq_ok_iff.1 hsource
      obtain ⟨result, hresult, hvalue⟩ := Attempt.value_bind_eq_ok.1 hvalue
      have hanswer : answer h name settings = result := Except.ok.inj hresult
      cases result with
      | ok text =>
        cases hvalue
        exact .told hconfigured hnamed hanswer
      | error failure =>
        dsimp only at hvalue
        split at hvalue
        · rename_i hown
          cases hvalue
          exact .failed hconfigured hnamed hanswer hown
        · cases hvalue
  · intro hends
    cases hends with
    | misconfigured herror => exact .inl ⟨_, herror, rfl⟩
    | @told settings n text hconfigured hnamed hanswer =>
      refine .inr ⟨settings, n, hconfigured, Attempt.value_bind_eq_ok.2
        ⟨_, value_given?_eq_ok_iff.2 ⟨hnamed, rfl⟩, Attempt.value_bind_eq_ok.2
          ⟨.ok text, congrArg Except.ok hanswer, rfl⟩⟩⟩
    | @failed settings n failure hconfigured hnamed hanswer hown =>
      refine .inr ⟨settings, n, hconfigured, Attempt.value_bind_eq_ok.2
        ⟨_, value_given?_eq_ok_iff.2 ⟨hnamed, rfl⟩, Attempt.value_bind_eq_ok.2
          ⟨.error failure, congrArg Except.ok hanswer, ?_⟩⟩⟩
      dsimp only
      rw [if_pos hown]
      rfl

/-! ### The program -/

/-- The ways in which a run ends. -/
inductive Ends (h : Host) (arguments : List String) : Ending → Prop
  /-- Help is asked for. -/
  | help {page : Page} (hrequest : request arguments = .error ⟨page, .help⟩) :
    Ends h arguments { exit := .status 0, stdout := page.help }
  /-- The arguments are wrong. -/
  | refused {r : Refusal} (hrequest : request arguments = .error r) (hfault : r.fault ≠ .help) :
    Ends h arguments { exit := .status 2, stderr := r.message }
  /-- There is no command. -/
  | idle {c : Common} (hrequest : request arguments = .ok ⟨c, none⟩) :
    Ends h arguments { exit := .status 1, stdout := Page.program.help }
  /-- Files are analysed. -/
  | analyzed {c : Common} {a : Analysis} {e : Ending}
      (hrequest : request arguments = .ok ⟨c, some (.analyze a)⟩) (hends : AnalysisEnds h c a e) :
    Ends h arguments e
  /-- A version is asked for. -/
  | asked {c : Common} {name : Given String} {e : Ending}
      (hrequest : request arguments = .ok ⟨c, some (.version name)⟩)
      (hends : VersionEnds h c name e) :
    Ends h arguments e

/-- **How a run ends.** -/
theorem run_eq_ok_iff : (run h arguments).outcome.value = .ok e ↔ Ends h arguments e := by
  constructor
  · intro hvalue
    rw [run] at hvalue
    split at hvalue
    · rename_i page hrequest
      cases hvalue
      exact .help hrequest
    · rename_i r hfault hrequest
      cases hvalue
      refine .refused hrequest fun hhelp => hfault r.page ?_
      rw [← hhelp]
    · rename_i c action hrequest
      split at hvalue
      · cases hvalue
        exact .idle hrequest
      · exact .analyzed hrequest (analyze_eq_ok_iff.1 hvalue)
      · exact .asked hrequest (version_eq_ok_iff.1 hvalue)
  · intro hends
    rw [run]
    cases hends with
    | help hrequest =>
      rw [hrequest]
      rfl
    | @refused r hrequest hfault =>
      rw [hrequest]
      obtain ⟨page, fault⟩ := r
      cases fault with
      | help => exact absurd rfl hfault
      | _ => rfl
    | idle hrequest =>
      rw [hrequest]
      rfl
    | analyzed hrequest hends =>
      rw [hrequest]
      exact analyze_eq_ok_iff.2 hends
    | asked hrequest hends =>
      rw [hrequest]
      exact version_eq_ok_iff.2 hends

/-! ### Statuses -/

/-- An analysis has a report, and what it reports. -/
def Analyzed (h : Host) (c : Common) (a : Analysis) (inv : Inventory) (e : Ending) : Prop :=
  ∃ settings n, Configured h c settings n ∧ Surveyed h a (a.settings settings) inv ∧
    Reports c a n inv e

/-- The status of an analysis is that of what it reports. -/
lemma Analyzed.exit_eq {inv : Inventory} (hanalyzed : Analyzed h c a inv e) :
    e.exit = .status (statusFor inv) := by
  obtain ⟨settings, n, -, -, hreport⟩ := hanalyzed
  exact hreport.exit

/-- There is nothing to report because of failures. -/
lemma statusFor_eq_one_iff {inv : Inventory} :
    statusFor inv = 1 ↔ inv.failures ≠ [] ∧ inv.modules = [] := by
  unfold statusFor
  split <;> simp_all

/-- There is something to report, or nothing has failed. -/
lemma statusFor_le_one (inv : Inventory) : statusFor inv ≤ 1 := by
  unfold statusFor
  split <;> decide

/-- Nothing is told about failures if and only if there are none. -/
lemma warnings_eq_empty_iff {inv : Inventory} : warnings inv = "" ↔ inv.failures = [] := by
  unfold warnings
  cases inv.failures with
  | nil => simp
  | cons failure failures =>
    rw [List.map_cons, String.join_cons]
    simp

/-- An analysis ends with a message or with a report. -/
lemma AnalysisEnds.failed_or_analyzed (hends : AnalysisEnds h c a e) :
    (∃ reason, e = failed firstLevel reason) ∨ ∃ inv, Analyzed h c a inv e := by
  cases hends with
  | missing => exact .inl ⟨_, rfl⟩
  | directory => exact .inl ⟨_, rfl⟩
  | misconfigured => exact .inl ⟨_, rfl⟩
  | reported hpath hrecursive hconfigured hsurvey hreport =>
    exact .inr ⟨_, _, _, hconfigured, hsurvey, hreport⟩

/-- A question for a version ends with a message or with an answer. -/
lemma VersionEnds.failed_or_answered {name : Given String} (hends : VersionEnds h c name e) :
    (∃ n reason, e = CommandLine.failed n reason) ∨ e.exit = .status 0 := by
  cases hends with
  | misconfigured => exact .inl ⟨_, _, rfl⟩
  | told => exact .inr rfl
  | failed => exact .inl ⟨_, _, rfl⟩

/-- **The status 2 means that the arguments are wrong.** -/
theorem exit_eq_two_iff (hrun : (run h arguments).outcome.value = .ok e) :
    e.exit = .status 2 ↔ ∃ r, request arguments = .error r ∧ r.fault ≠ .help := by
  cases run_eq_ok_iff.1 hrun with
  | help hrequest => simp [hrequest]
  | @refused r hrequest hfault => simp [hrequest, hfault]
  | idle hrequest => simp [hrequest]
  | analyzed hrequest hends =>
    rcases hends.failed_or_analyzed with ⟨reason, rfl⟩ | ⟨inv, hanalyzed⟩
    · simp [hrequest, failed]
    · have hle : statusFor inv ≠ 2 := Nat.ne_of_lt (Nat.lt_succ_of_le (statusFor_le_one inv))
      simp [hrequest, hanalyzed.exit_eq, hle]
  | asked hrequest hends =>
    rcases hends.failed_or_answered with ⟨n, reason, rfl⟩ | hexit
    · simp [hrequest, failed]
    · simp [hrequest, hexit]

/-- **The status 1 means that there is nothing to report**: there is no command, or files are
analysed of which some fail while none has a module. -/
theorem exit_eq_one_iff (hrun : (run h arguments).outcome.value = .ok e) :
    e.exit = .status 1 ↔
      (∃ c, request arguments = .ok ⟨c, none⟩) ∨
        ∃ c a inv, request arguments = .ok ⟨c, some (.analyze a)⟩ ∧ Analyzed h c a inv e ∧
          inv.failures ≠ [] ∧ inv.modules = [] := by
  constructor
  · intro hexit
    cases run_eq_ok_iff.1 hrun with
    | help => cases hexit
    | refused => cases hexit
    | idle hrequest => exact .inl ⟨_, hrequest⟩
    | analyzed hrequest hends =>
      rcases hends.failed_or_analyzed with ⟨reason, rfl⟩ | ⟨inv, hanalyzed⟩
      · cases hexit
      · have hstatus : statusFor inv = 1 := Exit.status.inj (hanalyzed.exit_eq.symm.trans hexit)
        exact .inr ⟨_, _, inv, hrequest, hanalyzed, statusFor_eq_one_iff.1 hstatus⟩
    | asked hrequest hends =>
      rcases hends.failed_or_answered with ⟨n, reason, rfl⟩ | hzero
      · cases hexit
      · rw [hzero] at hexit
        cases hexit
  · rintro (⟨c, hrequest⟩ | ⟨c, a, inv, -, hanalyzed, hnone⟩)
    · rw [run, hrequest] at hrun
      cases hrun
      rfl
    · rw [hanalyzed.exit_eq, statusFor_eq_one_iff.2 hnone]

/-- **No failure is passed over**: an analysis writes a report alone if and only if nothing has
failed. -/
theorem Analyzed.stderr_eq_empty_iff {inv : Inventory} (hanalyzed : Analyzed h c a inv e) :
    e.stderr = "" ↔ inv.failures = [] := by
  obtain ⟨settings, n, -, -, hreport⟩ := hanalyzed
  rw [hreport.stderr, warnings_eq_empty_iff]

/-- **A run that fails with a message writes nothing else.** -/
theorem silent_of_message {text : String} (hrun : (run h arguments).outcome.value = .ok e)
    (hexit : e.exit = .message text) :
    e.stdout = "" ∧ e.stderr = "" ∧ ∃ reason, text = "Error: " ++ reason := by
  have hfailed : ∀ n reason, e = failed n reason →
      e.stdout = "" ∧ e.stderr = "" ∧ ∃ reason, text = "Error: " ++ reason := by
    rintro n reason rfl
    exact ⟨rfl, rfl, reason, (Exit.message.inj hexit).symm⟩
  cases run_eq_ok_iff.1 hrun with
  | help => cases hexit
  | refused => cases hexit
  | idle => cases hexit
  | analyzed hrequest hends =>
    rcases hends.failed_or_analyzed with ⟨reason, heq⟩ | ⟨inv, hanalyzed⟩
    · exact hfailed _ reason heq
    · rw [hanalyzed.exit_eq] at hexit
      cases hexit
  | asked hrequest hends =>
    rcases hends.failed_or_answered with ⟨n, reason, heq⟩ | hzero
    · exact hfailed n reason heq
    · rw [hzero] at hexit
      cases hexit

/-- **The format that is asked for is known**, so the report is in that format. -/
theorem find?_format {r : Request} {s : String} (hrequest : request arguments = .ok r)
    (hformat : r.common.format = .value s) :
    ∃ name, Report.formats.find? s = some ⟨s, name, formatOf s⟩ := by
  have hmem : s ∈ Report.formats.keys := by
    rcases (isSound_of_request hrequest).common.format with hstart | hread
    · rw [hformat] at hstart
      cases hstart
      decide
    · exact (hformat ▸ hread).mem_choices
  obtain ⟨entry, hentry⟩ := Registry.mem_keys_iff.1 hmem
  have hkey : entry.key = s := Registry.key_of_find? hentry
  refine ⟨entry.name, ?_⟩
  rw [formatOf, hentry, ← hkey]
  rfl

/-! ### Records -/

/-- What is shown has the level at least. -/
lemma level_of_mem_shown {α : Type} {n : ℕ} {m : Logged α} {r : Log.Record}
    (hr : r ∈ (shown n m).log) : n ≤ r.level.number :=
  of_decide_eq_true (List.mem_filter.1 hr).2

/-- **Exactly the records of the level in force are told**, the usual one while the settings are
loaded, and then the one that options and settings ask for. -/
theorem Configured.log_withSettings {settings : Settings} {n : ℕ}
    (hconfigured : Configured h c settings n) (f : Settings → ℕ → Course Ending) :
    (withSettings h c f).outcome.log =
      (Settings.load h c.config.toOption).outcome.log.filter (firstLevel ≤ ·.level.number) ++
        (f settings n).outcome.log.filter (n ≤ ·.level.number) := by
  rw [outcome_withSettings hconfigured.named, Logged.log_bind, value_shown, hconfigured.loads]
  dsimp only
  rw [hconfigured.level]
  rfl

/-- What a run with settings tells has the level that is in force. -/
lemma level_of_mem_log_withSettings {f : Settings → ℕ → Course Ending} {r : Log.Record}
    (hr : r ∈ (withSettings h c f).outcome.log) :
    firstLevel ≤ r.level.number ∨
      ∃ settings n, Configured h c settings n ∧ n ≤ r.level.number := by
  by_cases hc : c.config = .blank
  · rw [outcome_withSettings_of_blank hc] at hr
    exact absurd hr List.not_mem_nil
  rw [outcome_withSettings hc, Logged.log_bind, value_shown] at hr
  rcases List.mem_append.1 hr with hloading | hrest
  · exact .inl (level_of_mem_shown hloading)
  · cases hload : (Settings.load h c.config.toOption).outcome.value with
    | error error =>
      rw [hload] at hrest
      exact absurd hrest List.not_mem_nil
    | ok settings =>
      rw [hload] at hrest
      dsimp only at hrest
      cases hlevel : level c settings.logLevel with
      | error error =>
        rw [hlevel] at hrest
        exact absurd hrest List.not_mem_nil
      | ok n =>
        rw [hlevel] at hrest
        exact .inr ⟨settings, n, ⟨hc, hload, hlevel⟩, level_of_mem_shown hrest⟩

/-- **What a run tells has the level that is in force**: the usual one until the settings are had,
and from then on the one that options and settings ask for. -/
theorem level_of_mem_log {r : Log.Record} (hr : r ∈ (run h arguments).outcome.log) :
    firstLevel ≤ r.level.number ∨
      ∃ request' settings n, request arguments = .ok request' ∧
        Configured h request'.common settings n ∧ n ≤ r.level.number := by
  rw [run] at hr
  split at hr
  · exact absurd hr List.not_mem_nil
  · exact absurd hr List.not_mem_nil
  · rename_i c action hrequest
    have hsettings : ∀ f, r ∈ (withSettings h c f).outcome.log →
        firstLevel ≤ r.level.number ∨ ∃ request' settings n, request arguments = .ok request' ∧
          Configured h request'.common settings n ∧ n ≤ r.level.number := by
      intro f hf
      refine (level_of_mem_log_withSettings hf).imp_right ?_
      rintro ⟨settings, n, hconfigured, hn⟩
      exact ⟨_, settings, n, hrequest, hconfigured, hn⟩
    split at hr
    · exact absurd hr List.not_mem_nil
    · rw [analyze] at hr
      split at hr
      · exact absurd hr List.not_mem_nil
      · split at hr
        · exact absurd hr List.not_mem_nil
        · exact hsettings _ hr
    · exact hsettings _ hr

/-- **A quiet run tells nothing below a warning**, whatever the settings ask for. -/
theorem level_of_quiet {q : Request} {r : Log.Record} (hrequest : request arguments = .ok q)
    (hquiet : q.common.quiet) (hr : r ∈ (run h arguments).outcome.log) :
    firstLevel ≤ r.level.number := by
  rcases level_of_mem_log hr with hfirst | ⟨q', settings, n, hrequest', hconfigured, hn⟩
  · exact hfirst
  · rw [hrequest] at hrequest'
    cases hrequest'
    have hverbose : q.common.verbose = false := by
      have hnot := (isSound_of_request hrequest).common.level
      simpa [hquiet] using hnot
    have hlevel := hconfigured.level
    rw [level, hverbose, if_neg (by simp), if_pos hquiet] at hlevel
    cases hlevel
    exact Nat.le_trans (by decide) hn

end FlopCensus.CommandLine
