import FlopCensus.Proofs.Design.Extraction
import FlopCensus.Proofs.Store.Cache
import FlopCensus.Proofs.Survey.Analysis
import FlopCensus.Proofs.Survey.Key
import FlopCensus.Survey.Batch
import Mathlib.Data.List.Basic
import Mathlib.Tactic.Common

set_option autoImplicit false
set_option relaxedAutoImplicit false

/-!
# Surveys with a store and without

A store spares the analysis of a file that has not changed since. Results are kept under absolute
paths, but a result tells the path by which its file was named. So a survey with a store yields what
it yields without one as long as paths that lead to the same absolute path have the same result.

## Main definitions

* `FlopCensus.Survey.IsSteady` — a source that prints the same dump of a file each time.
* `FlopCensus.Survey.Call`, `FlopCensus.Survey.answers` — surveys one after the other.
* `FlopCensus.Survey.Interchangeable` — names of one file give the same result.
* `FlopCensus.Survey.Remembers` — what a store holds after such surveys.
* `FlopCensus.Survey.Transparent` — a store changes no answer.

## Main results

* `FlopCensus.Survey.Remembers.get`, `FlopCensus.Survey.outcome_file_of_remembers` — one look-up,
  and one survey by way of a store.
* `FlopCensus.Survey.transparent_iff_interchangeable` — whole runs with a store and without.
* `FlopCensus.Survey.answers_of_settings` — the same of the setting that asks for a store.

## Design

The invariant `Remembers` ranges over a fixed list of names, those of the whole run, so that it does
not have to follow which of them have been surveyed already.
-/

namespace FlopCensus.Survey

variable {σ τ : Type}

/-- A source that prints the same dump of a file each time, and leaves the host as it is. -/
def IsSteady (source : TreeSource σ) (host : Host)
    (dumps : String → Except SourceFailure ToolOutput) : Prop :=
  ∀ path own, ∃ own', (source.printTree path).outcome ⟨host, own⟩ = (dumps path, ⟨host, own'⟩)

/-- The analysis of a file, given the dumps of a source. -/
def examined (tool : String) (host : Host) (dumps : String → Except SourceFailure ToolOutput)
    (path : String) : Except Problem Inventory :=
  match host.files.read path with
  | .error e => .error (.file e)
  | .ok content =>
    match dumps path with
    | .error e => .error (.source e)
    | .ok o => analysis tool path content o

/-- The result for a file, given the dumps of a source. -/
def resultOf (tool : String) (host : Host) (dumps : String → Except SourceFailure ToolOutput)
    (path : String) : Inventory :=
  settled path (examined tool host dumps path)

/-- A digest without collisions among the keys and the contents of some files. -/
structure TellsApart (digest : List UInt8 → String) (tool : String) (fs : FileSystem)
    (names : List String) : Prop where
  /-- It tells the keys apart. -/
  keys : ∀ p ∈ names, ∀ q ∈ names, digest (keyBytes tool fs p) = digest (keyBytes tool fs q) →
    keyBytes tool fs p = keyBytes tool fs q
  /-- It tells the contents apart, and a file with a content from one without. -/
  contents : ∀ p ∈ names, ∀ q ∈ names,
    Store.markOf digest (fs.content? p) = Store.markOf digest (fs.content? q) →
      fs.content? p = fs.content? q

/-- Names of one file give the same result if there is one to keep: names with the same absolute
path, by which the same content is found. -/
def Interchangeable (tool : String) (host : Host)
    (dumps : String → Except SourceFailure ToolOutput) (names : List String) : Prop :=
  ∀ p ∈ names, ∀ q ∈ names, ∀ inv, examined tool host dumps q = .ok inv →
    Files.absolute host.files.workingPath p = Files.absolute host.files.workingPath q →
    (Files.IsPossible p → host.files.content? p = host.files.content? q) →
    resultOf tool host dumps p = inv

/-- A survey of one file or of several. -/
inductive Call (τ : Type) where
  /-- The survey of a file. -/
  | one (now : τ) (path : String)
  /-- The survey of some files with a number of workers. -/
  | many (now : τ) (jobs : Option Int) (paths : List String)

/-- The files of a survey. -/
def Call.paths : Call τ → List String
  | .one _ path => [path]
  | .many _ _ paths => paths

section Runs

variable [Add τ] [LT τ] [DecidableLT τ]

/-- What a survey yields. -/
def Call.answer (source : TreeSource σ) (settings : Settings) (store : Store τ) :
    Call τ → Session σ (Except Cache.Error Inventory × Store τ)
  | .one now path => file source now path store
  | .many now jobs paths => files source settings now jobs paths store

/-- What surveys yield, one after the other. -/
def answers (source : TreeSource σ) (settings : Settings) :
    List (Call τ) → Store τ → Session σ (List (Except Cache.Error Inventory) × Store τ)
  | [], store => return ([], store)
  | call :: rest, store => do
    let (r, store) ← call.answer source settings store
    let (more, store) ← answers source settings rest store
    return (r :: more, store)

end Runs

section Steady

variable {source : TreeSource σ} {host : Host} {dumps : String → Except SourceFailure ToolOutput}

/-- The analysis of a file with a steady source. -/
lemma outcome_examine_of_isSteady (h : IsSteady source host dumps) (path : String) (own : σ) :
    ∃ own', (examine source path).outcome ⟨host, own⟩ =
      (examined source.name host dumps path, ⟨host, own'⟩) := by
  obtain ⟨own', hprint⟩ := h path own
  rw [outcome_examine, examined]
  cases host.files.read path with
  | error e => exact ⟨own, rfl⟩
  | ok content =>
    rw [hprint]
    refine ⟨own', ?_⟩
    cases dumps path <;> rfl

/-- The result without a store. -/
lemma outcome_plain_of_isSteady (h : IsSteady source host dumps) (path : String) (own : σ) :
    ∃ own', (plain source path).outcome ⟨host, own⟩ =
      (resultOf source.name host dumps path, ⟨host, own'⟩) := by
  obtain ⟨own', hexamine⟩ := outcome_examine_of_isSteady h path own
  exact ⟨own', by rw [outcome_plain, hexamine, resultOf]⟩

/-- A file that no path leads to has a failure as its result. -/
lemma failures_resultOf_of_not_isPossible {path : String} (h : ¬Files.IsPossible path)
    (tool : String) (host : Host) (dumps : String → Except SourceFailure ToolOutput) :
    (resultOf tool host dumps path).failures ≠ [] := by
  obtain ⟨e, hread⟩ := FileSystem.read_of_not_isPossible h host.files
  rw [resultOf, examined, hread]
  exact List.cons_ne_nil _ _

/-- An analysis without a problem has no failures. -/
lemma failures_of_examined {tool path : String} {inv : Inventory}
    (h : examined tool host dumps path = .ok inv) : inv.failures = [] := by
  have hanalysis : ∀ content o, analysis tool path content o = .ok inv → inv.failures = [] := by
    intro content o ho
    rw [analysis] at ho
    split at ho
    · rw [Design.analyzeDump] at ho
      cases hparse : Dump.parseStandard o.stdout with
      | error e => rw [hparse] at ho; cases ho
      | ok root =>
        rw [hparse] at ho
        cases ho
        rw [Design.value_inventoryOf]
    · split at ho <;> cases ho
  rw [examined] at h
  split at h
  · cases h
  · split at h
    · cases h
    · exact hanalysis _ _ h

/-- A file that can be analysed has a path that files can have. -/
lemma isPossible_of_examined {tool path : String} {inv : Inventory}
    (h : examined tool host dumps path = .ok inv) : Files.IsPossible path := by
  rw [examined] at h
  cases hread : host.files.read path with
  | error e => rw [hread] at h; cases h
  | ok content => exact FileSystem.isPossible_of_read hread

/-- What a store holds after surveys of some files: results of theirs, each under the key of its
file and with the fingerprint of the content that the file has. -/
structure Remembers (source : TreeSource σ) (host : Host)
    (dumps : String → Except SourceFailure ToolOutput) (names : List String)
    (c : Cache τ Inventory) : Prop where
  /-- There is room for results. -/
  room : c.capacity ≠ 0
  /-- Every entry belongs to one of the files. -/
  entries : ∀ e ∈ c.entries, ∃ q ∈ names,
    e.key = fileKey c.digest source.name host.files q ∧
      examined source.name host dumps q = .ok e.value ∧
      e.fingerprint = some (Store.markOf c.digest (host.files.content? q))

/-- A store that has lost entries at most remembers no others. -/
lemma Remembers.of_within {names : List String} {c c' : Cache τ Inventory}
    (h : Remembers source host dumps names c) (hwithin : c'.Within c) :
    Remembers source host dumps names c' where
  room := hwithin.capacity ▸ h.room
  entries e he := hwithin.digest ▸ h.entries e (hwithin.mem e he)

/-- A result may be asked for under another name of its file. -/
lemma resultOf_of_fileKey_eq {names : List String} {digest : List UInt8 → String} {p q : String}
    {inv : Inventory} (hdigest : TellsApart digest source.name host.files names)
    (hnames : Interchangeable source.name host dumps names) (hp : p ∈ names) (hq : q ∈ names)
    (hkey : fileKey digest source.name host.files p = fileKey digest source.name host.files q)
    (hinv : examined source.name host dumps q = .ok inv)
    (hcontent : Files.IsPossible p → host.files.content? p = host.files.content? q) :
    resultOf source.name host dumps p = inv :=
  hnames p hp q hq inv hinv (absolute_eq_of_fileKey_eq hkey (hdigest.keys p hp q hq)) hcontent

/-- Only for a path that a file can have is there an entry. -/
lemma Remembers.isPossible {names : List String} {c : Cache τ Inventory} {path : String}
    (hc : Remembers source host dumps names c)
    (hdigest : TellsApart c.digest source.name host.files names)
    (hnames : Interchangeable source.name host dumps names) (hpath : path ∈ names)
    (h : ∃ e ∈ c.entries, e.key = fileKey c.digest source.name host.files path) :
    Files.IsPossible path := by
  obtain ⟨e, he, hkey⟩ := h
  obtain ⟨q, hq, hqkey, hexamined, -⟩ := hc.entries e he
  by_contra himpossible
  have hsame := resultOf_of_fileKey_eq hdigest hnames hpath hq (hkey.symm.trans hqkey) hexamined
    fun h => absurd h himpossible
  apply failures_resultOf_of_not_isPossible himpossible source.name host dumps
  rw [hsame]
  exact failures_of_examined hexamined

variable [Add τ] [LT τ] [DecidableLT τ]

/-- A store in which the result for one more file is kept. -/
lemma Remembers.set {names : List String} {c : Cache τ Inventory} {path : String} {inv : Inventory}
    (hc : Remembers source host dumps names c) (hpath : path ∈ names)
    (hexamined : examined source.name host dumps path = .ok inv) (now : τ) :
    Remembers source host dumps names (c.set now host.files
      (fileKey c.digest source.name host.files path) inv (some path)).value.2 := by
  have hpossible := isPossible_of_examined hexamined
  obtain ⟨hcapacity, hdigest⟩ := Cache.capacity_digest_set hpossible c now host.files
    (fileKey c.digest source.name host.files path) inv
  refine ⟨hcapacity ▸ hc.room, fun e he => ?_⟩
  rw [hdigest]
  obtain hold | ⟨hkey, hvalue, hfingerprint, -⟩ := Cache.mem_entries_set hpossible he
  · exact hc.entries e hold
  · exact ⟨path, hpath, hkey, hvalue ▸ hexamined, hfingerprint⟩

omit [Add τ] in
/-- **A look-up in such a store** finds nothing or the result for the file.

**Proof sketch.** An entry that is found belongs to a name with the same key, so with the same
absolute path, and its fingerprint is that of the content now found; such names are
interchangeable. -/
theorem Remembers.get {names : List String} {c : Cache τ Inventory} {path : String}
    (hc : Remembers source host dumps names c)
    (hdigest : TellsApart c.digest source.name host.files names)
    (hnames : Interchangeable source.name host dumps names) (hpath : path ∈ names) (now : τ) :
    ∃ found c', (c.get now host.files (fileKey c.digest source.name host.files path)
        (some path)).value = (.ok found, c') ∧
      (∀ inv, found = some inv → inv = resultOf source.name host dumps path) ∧
      c'.digest = c.digest ∧ Remembers source host dumps names c' := by
  have hpossible := hc.isPossible hdigest hnames hpath
  have hwithin := c.within_get now host.files (fileKey c.digest source.name host.files path)
    (some path)
  have hfails := Cache.get_ne_error hpossible now host.files
  rcases hget : (c.get now host.files (fileKey c.digest source.name host.files path)
    (some path)).value with ⟨failure | found, c'⟩
  · exact absurd (congrArg Prod.fst hget) (hfails failure)
  · rw [hget] at hwithin
    refine ⟨found, c', rfl, ?_, hwithin.digest, hc.of_within hwithin⟩
    rintro inv rfl
    obtain ⟨e, he, hekey, rfl, hfingerprint⟩ :=
      Cache.get_eq_some hpossible (congrArg Prod.fst hget)
    obtain ⟨q, hq, hqkey, hexamined, hmark⟩ := hc.entries e he
    have hcontent := hdigest.contents path hpath q hq (hfingerprint _ hmark).symm
    exact (resultOf_of_fileKey_eq hdigest hnames hpath hq (hekey.symm.trans hqkey) hexamined
      fun _ => hcontent).symm

/-- **One survey by way of a store** yields the result without one, and the store still holds
results of the files only.

**Proof sketch.** What is found is the result for the file. Otherwise the file is analysed, and a
result without a problem is kept under its own name. -/
theorem outcome_file_of_remembers {names : List String} {c : Cache τ Inventory} {path : String}
    (hsteady : IsSteady source host dumps)
    (hdigest : TellsApart c.digest source.name host.files names)
    (hnames : Interchangeable source.name host dumps names)
    (hc : Remembers source host dumps names c) (hpath : path ∈ names) (now : τ) (own : σ) :
    ∃ c' own', (file source now path (some c)).outcome ⟨host, own⟩ =
        ((.ok (resultOf source.name host dumps path), some c'), ⟨host, own'⟩) ∧
      c'.digest = c.digest ∧ Remembers source host dumps names c' := by
  obtain ⟨found, c₁, hget, hfound, hdigest₁, hc₁⟩ := hc.get hdigest hnames hpath now
  rw [outcome_file_some]
  dsimp only
  rw [outcome_stored, hget]
  cases found with
  | some inv => exact ⟨c₁, own, by rw [hfound inv rfl], hdigest₁, hc₁⟩
  | none =>
    obtain ⟨own', hexamine⟩ := outcome_examine_of_isSteady hsteady path own
    dsimp only
    rw [outcome_fresh, hexamine, resultOf]
    cases hexamined : examined source.name host dumps path with
    | error p => exact ⟨c₁, own', rfl, hdigest₁, hc₁⟩
    | ok inv =>
      have hpossible := isPossible_of_examined hexamined
      rw [← hdigest₁]
      have hkept := congrArg Prod.fst (Cache.value_set_of_room hpossible hc₁.room now host.files
        (fileKey c₁.digest source.name host.files path) inv)
      have hdigest₂ := (Cache.capacity_digest_set hpossible c₁ now host.files
        (fileKey c₁.digest source.name host.files path) inv).2
      refine ⟨_, own', ?_, hdigest₂, hc₁.set hpath hexamined now⟩
      dsimp only
      rw [hkept]
      rfl

/-! ### Runs -/

/-- Results without an error are collected. -/
lemma mapM_id_map_ok {α β ε : Type} (f : α → β) (l : List α) :
    (l.map fun a => (.ok (f a) : Except ε β)).mapM id = .ok (l.map f) := by
  induction l with
  | nil => rfl
  | cons a l ih =>
    rw [List.map_cons, List.mapM_cons, ih]
    rfl

/-- Where several workers have a result of every file, one after the other has the same. -/
lemma outcome_each_of_all {store store' : Store τ} {paths : List String} {invs : List Inventory}
    {now : τ} {s s' : Scene σ}
    (h : (all source now paths store).outcome s = ((invs.map .ok, store'), s')) :
    (each source now paths store).outcome s = ((.ok invs, store'), s') := by
  induction paths generalizing store s invs with
  | nil =>
    simp only [all, Session.outcome_pure, Prod.mk.injEq, List.nil_eq, List.map_eq_nil_iff] at h
    obtain ⟨⟨rfl, rfl⟩, rfl⟩ := h
    rfl
  | cons path paths ih =>
    rcases hfile : (file source now path store).outcome s with ⟨⟨r, store₁⟩, s₁⟩
    rcases hmore : (all source now paths store₁).outcome s₁ with ⟨⟨rs, store₂⟩, s₂⟩
    simp only [all, Session.outcome_bind, hfile, hmore, Session.outcome_pure, Prod.mk.injEq] at h
    obtain ⟨⟨hresults, rfl⟩, rfl⟩ := h
    obtain ⟨inv, invs, rfl, rfl, rfl⟩ := List.map_eq_cons_iff.1 hresults.symm
    have hrest := ih hmore
    simp only [each, Session.outcome_bind, hfile, hrest]
    rfl

/-- There is no store, or one that holds results of the files only. -/
def Ready (source : TreeSource σ) (host : Host)
    (dumps : String → Except SourceFailure ToolOutput) (names : List String) : Store τ → Prop
  | none => True
  | some c => TellsApart c.digest source.name host.files names ∧
      Remembers source host dumps names c

/-- The result of a survey. -/
def Call.result (tool : String) (host : Host) (dumps : String → Except SourceFailure ToolOutput) :
    Call τ → Inventory
  | .one _ path => resultOf tool host dumps path
  | .many _ _ paths => .merge (paths.map (resultOf tool host dumps))

section Names

variable {names : List String} (hsteady : IsSteady source host dumps)
  (hnames : Interchangeable source.name host dumps names)

include hsteady hnames

/-- The survey of a file, with a store or without. -/
lemma outcome_file_of_ready {store : Store τ} (hstore : Ready source host dumps names store)
    {path : String} (hpath : path ∈ names) (now : τ) (own : σ) :
    ∃ store' own', (file source now path store).outcome ⟨host, own⟩ =
        ((.ok (resultOf source.name host dumps path), store'), ⟨host, own'⟩) ∧
      Ready source host dumps names store' := by
  cases store with
  | none =>
    obtain ⟨own', hplain⟩ := outcome_plain_of_isSteady hsteady path own
    exact ⟨none, own', by rw [outcome_file_none, hplain], trivial⟩
  | some c =>
    obtain ⟨c', own', hfile, hdigest, hc'⟩ :=
      outcome_file_of_remembers hsteady hstore.1 hnames hstore.2 hpath now own
    refine ⟨some c', own', hfile, ?_, hc'⟩
    rw [hdigest]
    exact hstore.1

/-- The survey of several files by several workers. -/
lemma outcome_all_of_ready {store : Store τ} (hstore : Ready source host dumps names store)
    {paths : List String} (hpaths : ∀ path ∈ paths, path ∈ names) (now : τ) (own : σ) :
    ∃ store' own', (all source now paths store).outcome ⟨host, own⟩ =
        ((paths.map fun path => .ok (resultOf source.name host dumps path), store'),
          ⟨host, own'⟩) ∧
      Ready source host dumps names store' := by
  induction paths generalizing store own with
  | nil => exact ⟨store, own, rfl, hstore⟩
  | cons path paths ih =>
    obtain ⟨store₁, own₁, hfile, hstore₁⟩ :=
      outcome_file_of_ready hsteady hnames hstore (hpaths path List.mem_cons_self) now own
    obtain ⟨store₂, own₂, hrest, hstore₂⟩ :=
      ih hstore₁ (fun p hp => hpaths p (List.mem_cons_of_mem _ hp)) own₁
    refine ⟨store₂, own₂, ?_, hstore₂⟩
    rw [all, Session.outcome_bind, hfile]
    dsimp only
    rw [Session.outcome_bind, hrest]
    rfl

/-- The survey of several files, one after the other. -/
lemma outcome_each_of_ready {store : Store τ} (hstore : Ready source host dumps names store)
    {paths : List String} (hpaths : ∀ path ∈ paths, path ∈ names) (now : τ) (own : σ) :
    ∃ store' own', (each source now paths store).outcome ⟨host, own⟩ =
        ((.ok (paths.map (resultOf source.name host dumps)), store'), ⟨host, own'⟩) ∧
      Ready source host dumps names store' := by
  obtain ⟨store', own', hall, hstore'⟩ :=
    outcome_all_of_ready hsteady hnames hstore hpaths now own
  refine ⟨store', own', outcome_each_of_all ?_, hstore'⟩
  rw [hall, List.map_map]
  rfl

/-- A survey of one file or of several. -/
lemma outcome_answer_of_ready {store : Store τ} (hstore : Ready source host dumps names store)
    {call : Call τ} (hcall : ∀ path ∈ call.paths, path ∈ names) (settings : Settings) (own : σ) :
    ∃ store' own', (call.answer source settings store).outcome ⟨host, own⟩ =
        ((.ok (call.result source.name host dumps), store'), ⟨host, own'⟩) ∧
      Ready source host dumps names store' := by
  cases call with
  | one now path =>
    exact outcome_file_of_ready hsteady hnames hstore (hcall path (List.mem_singleton_self _)) now
      own
  | many now jobs paths =>
    have hpaths : ∀ path ∈ paths, path ∈ names := hcall
    rw [Call.answer, files]
    split
    · obtain ⟨store', own', heach, hstore'⟩ :=
        outcome_each_of_ready hsteady hnames hstore hpaths now own
      refine ⟨store', own', ?_, hstore'⟩
      rw [Session.outcome_bind, heach]
      rfl
    · obtain ⟨store', own', hall, hstore'⟩ :=
        outcome_all_of_ready hsteady hnames hstore hpaths now own
      refine ⟨store', own', ?_, hstore'⟩
      rw [Session.outcome_bind, hall]
      dsimp only
      rw [Session.outcome_pure, mapM_id_map_ok]
      rfl

/-- **Surveys one after the other**, with a store or without, yield the results of the files. -/
theorem outcome_answers_of_ready {store : Store τ} (hstore : Ready source host dumps names store)
    {calls : List (Call τ)} (hcalls : ∀ call ∈ calls, ∀ path ∈ call.paths, path ∈ names)
    (settings : Settings) (own : σ) :
    ∃ store' own', (answers source settings calls store).outcome ⟨host, own⟩ =
        ((calls.map fun call => .ok (call.result source.name host dumps), store'),
          ⟨host, own'⟩) ∧
      Ready source host dumps names store' := by
  induction calls generalizing store own with
  | nil => exact ⟨store, own, rfl, hstore⟩
  | cons call calls ih =>
    obtain ⟨store₁, own₁, hcall, hstore₁⟩ := outcome_answer_of_ready hsteady hnames hstore
      (hcalls call List.mem_cons_self) settings own
    obtain ⟨store₂, own₂, hrest, hstore₂⟩ :=
      ih hstore₁ (fun c hc => hcalls c (List.mem_cons_of_mem _ hc)) own₁
    refine ⟨store₂, own₂, ?_, hstore₂⟩
    rw [answers, Session.outcome_bind, hcall]
    dsimp only
    rw [Session.outcome_bind, hrest]
    rfl

end Names

/-- Surveys of some files with a store of any size and lifetime, empty at first, yield what they
yield without one. -/
def Transparent (τ : Type) [Add τ] [LT τ] [DecidableLT τ] (source : TreeSource σ) (host : Host)
    (digest : List UInt8 → String) (names : List String) : Prop :=
  ∀ (settings : Settings) (c : Cache τ Inventory) (calls : List (Call τ)) (own own' : σ),
    c.entries = [] → 1 ≤ c.capacity → c.digest = digest →
    (∀ call ∈ calls, ∀ path ∈ call.paths, path ∈ names) →
    ((answers source settings calls (some c)).outcome ⟨host, own⟩).1.1 =
      ((answers source settings calls none).outcome ⟨host, own'⟩).1.1

variable {names : List String} {digest : List UInt8 → String}

/-- If names of one file give the same result, a store changes no answer. -/
lemma transparent_of_interchangeable (hsteady : IsSteady source host dumps)
    (hdigest : TellsApart digest source.name host.files names)
    (hnames : Interchangeable source.name host dumps names) :
    Transparent τ source host digest names := by
  rintro settings c calls own own' hempty hroom rfl hcalls
  have hremembers : Remembers source host dumps names c := by
    refine ⟨Nat.one_le_iff_ne_zero.1 hroom, fun e he => ?_⟩
    rw [hempty] at he
    contradiction
  have hstore : Ready source host dumps names (some c) := ⟨hdigest, hremembers⟩
  have hnone : Ready source host dumps names (none : Store τ) := trivial
  obtain ⟨store, own₁, hcached, -⟩ :=
    outcome_answers_of_ready hsteady hnames hstore hcalls settings own
  obtain ⟨store', own₂, huncached, -⟩ :=
    outcome_answers_of_ready hsteady hnames hnone hcalls settings own'
  rw [hcached, huncached]

/-- Two surveys one after the other. -/
lemma answers_pair (settings : Settings) (first second : Call τ) (store : Store τ) (s : Scene σ) :
    ((answers source settings [first, second] store).outcome s).1.1 =
      let o := (first.answer source settings store).outcome s
      [o.1.1, ((second.answer source settings o.1.2).outcome o.2).1.1] := rfl

/-- A survey that puts the result for a file into an empty store without a lifetime. -/
lemma outcome_file_empty (digest : List UInt8 → String) (hsteady : IsSteady source host dumps)
    {path : String} {inv : Inventory} (hinv : examined source.name host dumps path = .ok inv)
    (now : τ) (own : σ) :
    ∃ (c : Cache τ Inventory) (own' : σ), (file source now path
        (some { capacity := 1, lifetime := none, digest })).outcome ⟨host, own⟩ =
          ((.ok inv, some c), ⟨host, own'⟩) ∧
      c.digest = digest ∧
      ∃ serial, c.find? now (fileKey digest source.name host.files path) =
        some ⟨fileKey digest source.name host.files path, inv,
          some (Store.markOf digest (host.files.content? path)), none, serial⟩ := by
  have hpossible := isPossible_of_examined hinv
  generalize hkey : fileKey digest source.name host.files path = key
  let c : Cache τ Inventory := { capacity := 1, lifetime := none, digest }
  have hget : (c.get now host.files key (some path)).value = (.ok none, c.miss) := rfl
  have hset : (c.miss.set now host.files key inv (some path)).value = (.ok (),
      (c.miss.expire now).insert now key inv
        (some (Store.markOf digest (host.files.content? path)))) :=
    Cache.value_set_of_room hpossible one_ne_zero now host.files key inv
  obtain ⟨own', hexamine⟩ := outcome_examine_of_isSteady hsteady path own
  have hlifetime : (c.miss.expire now).lifetime = none := rfl
  refine ⟨_, own', ?_, rfl, Cache.find?_insert hlifetime now now key inv _⟩
  rw [outcome_file_some]
  dsimp only
  rw [hkey, outcome_stored, hget]
  simp only [outcome_fresh, hexamine, hinv, hset]
  rfl

/-- If a store changes no answer, names of one file give the same result. -/
lemma interchangeable_of_transparent [Nonempty σ] [Nonempty τ]
    (hsteady : IsSteady source host dumps) (h : Transparent τ source host digest names) :
    Interchangeable source.name host dumps names := by
  intro p hp q hq inv hinv habsolute hcontent
  obtain ⟨own⟩ := ‹Nonempty σ›
  obtain ⟨now⟩ := ‹Nonempty τ›
  have hcalls : ∀ call ∈ [Call.one now q, Call.one now p], ∀ path ∈ call.paths, path ∈ names := by
    simp [Call.paths, hp, hq]
  -- the survey of `q` leaves its result behind, and that of `p` finds it
  obtain ⟨c, own₁, hfirst, hdigest, serial, hfound⟩ :=
    outcome_file_empty digest hsteady hinv now own
  have hkey : fileKey digest source.name host.files q =
      fileKey digest source.name host.files p := by
    rw [fileKey, fileKey, keyBytes, keyBytes, habsolute]
  rw [hkey] at hfound
  have hfresh : Files.IsPossible p → (some (Store.markOf digest (host.files.content? q))) =
      some (Store.markOf c.digest (host.files.content? p)) := fun hpossible => by
    rw [hdigest, hcontent hpossible]
  have hget := Cache.get_of_find? hfound hfresh
  obtain ⟨own₂, hplain⟩ := outcome_plain_of_isSteady hsteady q own
  obtain ⟨own₃, hplain'⟩ := outcome_plain_of_isSteady hsteady p own₂
  have hsame := h {} { capacity := 1, lifetime := none, digest } [.one now q, .one now p] own own
    rfl le_rfl rfl hcalls
  rw [answers_pair, answers_pair] at hsame
  simp only [Call.answer, hfirst, outcome_file_none, hplain, hplain', List.cons.injEq, and_true,
    outcome_file_some, hdigest, outcome_stored] at hsame
  rcases hvalue : (c.get now host.files (fileKey digest source.name host.files p) (some p)).value
    with ⟨r, c'⟩
  rw [hvalue] at hget
  rw [hvalue] at hsame
  obtain rfl | rfl : r = .ok (some inv) ∨ r = .error (.file ⟨.nullByte, p⟩) := hget
  · exact (Except.ok.inj hsame.2).symm
  · cases hsame.2

/-- **A store changes no answer exactly if names of one file give the same result.** -/
theorem transparent_iff_interchangeable [Nonempty σ] [Nonempty τ]
    (hsteady : IsSteady source host dumps)
    (hdigest : TellsApart digest source.name host.files names) :
    Transparent τ source host digest names ↔ Interchangeable source.name host dumps names :=
  ⟨interchangeable_of_transparent hsteady, transparent_of_interchangeable hsteady hdigest⟩

/-- Files that are named in one way each are interchangeable with themselves only. -/
lemma interchangeable_of_injOn (tool : String) (host : Host)
    (dumps : String → Except SourceFailure ToolOutput)
    (h : ∀ p ∈ names, ∀ q ∈ names,
      Files.absolute host.files.workingPath p = Files.absolute host.files.workingPath q → p = q) :
    Interchangeable tool host dumps names := by
  intro p hp q hq inv hinv habsolute _
  obtain rfl := h p hp q hq habsolute
  rw [resultOf, hinv]
  rfl

/-- Settings with the store turned on have an empty one of the size asked for. -/
lemma exists_storeFor_eq (settings : Settings) (henabled : settings.cacheEnabled = true)
    (hsize : 0 ≤ settings.cacheSize) : ∃ lifetime,
      storeFor settings = .ok (some { capacity := settings.cacheSize.toNat, lifetime }) := by
  rw [storeFor, if_pos henabled]
  dsimp only
  rw [Cache.new_eq_ok_iff.2 ⟨hsize, rfl⟩]
  exact ⟨_, rfl⟩

/-- **The setting that asks for a store changes no answer** where each file has one name. -/
theorem answers_of_settings {settings : Settings} {calls : List (Call Numeral.Number)}
    (hsteady : IsSteady source host dumps)
    (hdigest : TellsApart Digest.md5Hex source.name host.files names)
    (hnames : Interchangeable source.name host dumps names) (hsize : 1 ≤ settings.cacheSize)
    (hcalls : ∀ call ∈ calls, ∀ path ∈ call.paths, path ∈ names) (own own' : σ) :
    ∃ c, storeFor { settings with cacheEnabled := true } = .ok (some c) ∧
      storeFor { settings with cacheEnabled := false } = .ok none ∧
      ((answers source settings calls (some c)).outcome ⟨host, own⟩).1.1 =
        ((answers source settings calls none).outcome ⟨host, own'⟩).1.1 := by
  obtain ⟨lifetime, hstore⟩ :=
    exists_storeFor_eq { settings with cacheEnabled := true } rfl (Int.le_of_lt hsize)
  have hroom : 1 ≤ settings.cacheSize.toNat := by omega
  exact ⟨_, hstore, rfl, transparent_of_interchangeable hsteady hdigest hnames settings _ calls own
    own' rfl hroom rfl hcalls⟩

end Steady

/-! ### A file with two names -/

/-- A dump of a module. -/
def moduleDump (name : String) : String :=
  "Node @0 (tag: kModuleDeclaration) \x7b\n  Node @0 (tag: kModuleHeader) \x7b\n" ++
    "    Leaf @0 (#SymbolIdentifier @7-8: \"" ++ name ++ "\")\n"

/-- The source that prints the same dump for every file. -/
def moduleSource : TreeSource Unit where
  name := "fixed"
  printTree _ := return ⟨0, moduleDump "m", ""⟩

/-- A host with two files. -/
def twoFiles : Host where
  files.root :=
    .directory true [("a.sv", .regular [97] false), ("b.sv", .regular [98] false)]

/-- The source is steady. -/
lemma isSteady_moduleSource :
    IsSteady moduleSource twoFiles fun _ => .ok ⟨0, moduleDump "m", ""⟩ :=
  fun _ own => ⟨own, rfl⟩

/-- Surveys of two files by one name each. -/
theorem transparent_twoFiles :
    Transparent ℕ moduleSource twoFiles Digest.md5Hex ["a.sv", "/b.sv"] := by
  have hdigest : TellsApart Digest.md5Hex moduleSource.name twoFiles.files ["a.sv", "/b.sv"] :=
    ⟨by decide +kernel, by decide +kernel⟩
  exact (transparent_iff_interchangeable isSteady_moduleSource hdigest).2
    (interchangeable_of_injOn _ _ _ (by decide +kernel))

/-- **The second name of a file is answered with the first one.** -/
theorem answers_secondName :
    let calls : List (Call ℕ) := [.one 0 "a.sv", .one 0 "./a.sv"]
    let c : Cache ℕ Inventory := { capacity := 1, lifetime := none }
    let files := fun r : Except Cache.Error Inventory =>
      r.toOption.map fun inv => inv.modules.map (·.file)
    ((answers moduleSource {} calls (some c)).outcome ⟨twoFiles, ()⟩).1.1.map files =
        [some ["a.sv"], some ["a.sv"]] ∧
      ((answers moduleSource {} calls none).outcome ⟨twoFiles, ()⟩).1.1.map files =
        [some ["a.sv"], some ["./a.sv"]] := by
  decide +kernel

end FlopCensus.Survey
