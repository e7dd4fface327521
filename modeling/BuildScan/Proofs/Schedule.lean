import BuildScan.Proofs.Lookups
import BuildScan.Proofs.PkgConfig
import BuildScan.Proofs.Report
import BuildScan.Proofs.Resolution
import Mathlib.Logic.Relation

/-!
# Files that are extracted side by side

The extraction of a file reads and scans it, puts the questions of its directives to the command one
after the other, and comes to an outcome (`FileStep`).  When several files are extracted side by
side, each step of one may fall between any two steps of the others, and all work on the same
machine (`Advances`); the outcomes are collected in the places of their files (`Extracts`).

What a file has come to never speaks of another file (`Knows`), and no step shows anything.  Both
are preserved by every step and so hold under every schedule.  Extracting the files one after the
other is one schedule (`extractFiles_extracts`), so `scan_reports_each_file` is about what the
program does as well as about what it might do with its work in another order.
-/

namespace BuildScan

open BuildScan.Text CommandLine Relation

variable {σ : Type}

/-! ### One file -/

/-- How far the extraction of a file has come. -/
inductive Progress where
  | waiting
  /-- The file is scanned, and some of its questions are answered. -/
  | asking (scanned : Scanned) (lookups : List Lookup)
  | done (outcome : Except BuildError SourceUnit)

section

variable (host : Host σ) (s : Session) (testMode : Bool)

/-- The file is read in this state of the machine, and scanned with this result. -/
def Scans [Go.Parser] (path : String) (machine : σ) (result : Except BuildError Scanned × Log) :
    Prop :=
  ∃ text, readText host machine path = .ok text ∧
    scan s.tags text (testMode && isTestFile path) = result

/-- One step of the extraction of a file. -/
inductive FileStep [Go.Parser] (path : String) : Trace σ → Progress → Trace σ → Progress → Prop
  | unread {t : Trace σ} {e : BuildError} : readText host t.machine path = .error e →
      FileStep path t .waiting t (.done (.error e))
  | refused {t : Trace σ} {e : BuildError} {events : Log} :
      Scans host s testMode path t.machine (.error e, events) →
      FileStep path t .waiting
        (t.report (scanningEvent path (testMode && isTestFile path) :: events)) (.done (.error e))
  | read {t : Trace σ} {scanned : Scanned} {events : Log} :
      Scans host s testMode path t.machine (.ok scanned, events) →
      FileStep path t .waiting
        (t.report (scanningEvent path (testMode && isTestFile path) :: events)) (.asking scanned [])
  | ask {t : Trace σ} {scanned : Scanned} {lookups : List Lookup} {l : Lookup} :
      (lookups ++ [l]).map Lookup.question <+: questionsOf scanned.directives →
      (s.pkgConfig.query host l.question.1 l.question.2).result t = l.answer →
      FileStep path t (.asking scanned lookups)
        (((s.pkgConfig.query host l.question.1 l.question.2).after t).report l.warnings)
        (.asking scanned (lookups ++ [l]))
  | resolve {t : Trace σ} {scanned : Scanned} {told : List ToldDirective} :
      told.map ToldDirective.directive = scanned.directives →
      FileStep path t (.asking scanned (lookupsOf told)) t (.done (.ok (scanned.unitOf told)))

/-- The command gives this answer to the question, in some state of the machine. -/
def MayAnswer (l : Lookup) : Prop :=
  ∃ t, (s.pkgConfig.query host l.question.1 l.question.2).result t = l.answer

/-- The file alone may give this outcome, whatever else happens to the machine between its steps. -/
inductive MayGive [Go.Parser] (path : String) : Except BuildError SourceUnit → Prop
  | unread {machine : σ} {e : BuildError} : readText host machine path = .error e →
      MayGive path (.error e)
  | refused {machine : σ} {e : BuildError} {events : Log} :
      Scans host s testMode path machine (.error e, events) → MayGive path (.error e)
  | resolved {machine : σ} {scanned : Scanned} {events : Log} {told : List ToldDirective} :
      Scans host s testMode path machine (.ok scanned, events) →
      told.map ToldDirective.directive = scanned.directives →
      (∀ l ∈ lookupsOf told, MayAnswer host s l) → MayGive path (.ok (scanned.unitOf told))

/-- What is known of a file by its progress, and of no other. -/
def Knows [Go.Parser] (path : String) : Progress → Prop
  | .waiting => True
  | .asking scanned lookups =>
    (∃ machine events, Scans host s testMode path machine (.ok scanned, events)) ∧
      lookups.map Lookup.question <+: questionsOf scanned.directives ∧
      ∀ l ∈ lookups, MayAnswer host s l
  | .done outcome => MayGive host s testMode path outcome

/-! ### Several files -/

/-- Some files, each with its progress. -/
abbrev Crew := List (String × Progress)

/-- One of the files takes a step. -/
inductive Advances [Go.Parser] : Trace σ × Crew → Trace σ × Crew → Prop
  | step {path : String} {t u : Trace σ} {p q : Progress} (before behind : Crew) :
      FileStep host s testMode path t p u q →
      Advances (t, before ++ (path, p) :: behind) (u, before ++ (path, q) :: behind)

/-- Under some schedule the files come to these outcomes, each in the place of its file. -/
def Extracts [Go.Parser] (files : List String) (t : Trace σ) (entries : List Entry) (u : Trace σ) :
    Prop :=
  ReflTransGen (Advances host s testMode) (t, files.map fun path => (path, .waiting))
    (u, entries.map fun e => (e.1, .done e.2))

end

/-- What the command writes is kept. -/
theorem query_sameStreams (host : Host σ) (pc : PkgConfig) (mode : FlagMode) (library : String)
    (t : Trace σ) : t.SameStreams ((pc.query host mode library).after t) := by
  have hOutput (inv : Invocation) : t.SameStreams ((inv.output host).after t) := by
    rw [(inv.output_runs host t).2]
    exact ⟨rfl, rfl⟩
  rw [PkgConfig.query, Action.after_bind]
  split
  · exact hOutput _
  · split
    · exact hOutput _
    · exact hOutput _

variable {host : Host σ} {s : Session} {testMode : Bool}

/-! ### What a step preserves -/

theorem FileStep.sameStreams [Go.Parser] {path : String} {t u : Trace σ} {p q : Progress}
    (h : FileStep host s testMode path t p u q) : t.SameStreams u := by
  cases h with
  | unread => exact .refl t
  | refused => exact ⟨rfl, rfl⟩
  | read => exact ⟨rfl, rfl⟩
  | ask => exact (query_sameStreams host s.pkgConfig _ _ t).trans ⟨rfl, rfl⟩
  | resolve => exact .refl t

theorem FileStep.knows [Go.Parser] {path : String} {t u : Trace σ} {p q : Progress}
    (h : FileStep host s testMode path t p u q) (hp : Knows host s testMode path p) :
    Knows host s testMode path q := by
  cases h with
  | unread hUnread => exact .unread hUnread
  | refused hScans => exact .refused hScans
  | read hScans => exact ⟨⟨_, _, hScans⟩, List.nil_prefix, List.forall_mem_nil _⟩
  | ask hQuestions hAnswer =>
    obtain ⟨hScans, -, hAnswers⟩ := hp
    refine ⟨hScans, hQuestions, fun l hl => ?_⟩
    rcases List.mem_append.mp hl with hl | hl
    · exact hAnswers l hl
    · rw [List.mem_singleton.mp hl]
      exact ⟨t, hAnswer⟩
  | resolve hTold =>
    obtain ⟨⟨machine, events, hScans⟩, -, hAnswers⟩ := hp
    exact .resolved hScans hTold hAnswers

/-- What files that are all done have come to. -/
theorem exists_entries {crew : Crew} (h : ∀ m ∈ crew, ∃ outcome, m.2 = Progress.done outcome) :
    ∃ entries : List Entry, crew = entries.map fun e => (e.1, .done e.2) := by
  induction crew with
  | nil => exact ⟨[], rfl⟩
  | cons m crew ih =>
    obtain ⟨⟨outcome, hOutcome⟩, hRest⟩ := List.forall_mem_cons.mp h
    obtain ⟨entries, rfl⟩ := ih hRest
    refine ⟨(m.1, outcome) :: entries, ?_⟩
    rw [List.map_cons, ← hOutcome]

/-- What every schedule keeps, from the traces and files at its beginning on. -/
structure Keeps [Go.Parser] (host : Host σ) (s : Session) (testMode : Bool) (files : List String)
    (t : Trace σ) (state : Trace σ × Crew) : Prop where
  files_eq : state.2.map Prod.fst = files
  knows : ∀ m ∈ state.2, Knows host s testMode m.1 m.2
  streams : t.SameStreams state.1

theorem Advances.keeps [Go.Parser] {files : List String} {t : Trace σ} {a b : Trace σ × Crew}
    (h : Advances host s testMode a b) (ha : Keeps host s testMode files t a) :
    Keeps host s testMode files t b := by
  cases h with
  | @step path t₁ t₂ p q before behind hStep =>
    obtain ⟨hFiles, hKnows, hStreams⟩ := ha
    rw [List.forall_mem_append, List.forall_mem_cons] at hKnows
    obtain ⟨hBefore, hSelf, hBehind⟩ := hKnows
    refine ⟨?_, ?_, hStreams.trans hStep.sameStreams⟩
    · rw [← hFiles]
      simp only [List.map_append, List.map_cons]
    · rw [List.forall_mem_append, List.forall_mem_cons]
      exact ⟨hBefore, hStep.knows hSelf, hBehind⟩

theorem keeps_of_run [Go.Parser] {files : List String} {t : Trace σ} {state : Trace σ × Crew}
    (h : ReflTransGen (Advances host s testMode)
      (t, files.map fun path => (path, .waiting)) state) :
    Keeps host s testMode files t state := by
  induction h with
  | refl =>
    refine ⟨?_, fun m hm => ?_, .refl t⟩
    · rw [List.map_map]
      exact List.map_id files
    · obtain ⟨path, -, rfl⟩ := List.mem_map.mp hm
      trivial
  | tail _ hStep ih => exact hStep.keeps ih

/-- Whatever the schedule, every file has one outcome, in its place, which it may give alone, and
nothing is shown. -/
theorem extracts_entries [Go.Parser] {files : List String} {t u : Trace σ} {entries : List Entry}
    (h : Extracts host s testMode files t entries u) :
    entries.map Prod.fst = files ∧ (∀ e ∈ entries, MayGive host s testMode e.1 e.2) ∧
      t.SameStreams u := by
  obtain ⟨hFiles, hKnows, hStreams⟩ := keeps_of_run h
  refine ⟨?_, fun e he => ?_, hStreams⟩
  · rw [← hFiles, List.map_map]
    rfl
  · exact hKnows (e.1, .done e.2) (List.mem_map_of_mem he)

/-! ### No schedule gets stuck -/

theorem exists_told {ds : List Directive} {lookups : List Lookup}
    (h : lookups.map Lookup.question = questionsOf ds) :
    ∃ told : List ToldDirective, told.map ToldDirective.directive = ds ∧
      lookupsOf told = lookups := by
  induction ds generalizing lookups with
  | nil => exact ⟨[], rfl, (List.map_eq_nil_iff.mp h).symm⟩
  | cons d ds ih =>
    rw [questionsOf, List.flatMap_cons, List.map_eq_append_iff] at h
    obtain ⟨own, others, rfl, hOwn, hOthers⟩ := h
    obtain ⟨told, hTold, rfl⟩ := ih hOthers
    exact ⟨⟨d, own, hOwn⟩ :: told, by rw [List.map_cons, hTold], rfl⟩

/-- A file that has come to no outcome can take a step. -/
theorem Knows.done_or_step [Go.Parser] {path : String} {p : Progress}
    (h : Knows host s testMode path p) (t : Trace σ) :
    (∃ outcome, p = .done outcome) ∨ ∃ u q, FileStep host s testMode path t p u q := by
  cases p with
  | waiting =>
    right
    cases hText : readText host t.machine path with
    | error e => exact ⟨_, _, .unread hText⟩
    | ok text =>
      cases hScan : scan s.tags text (testMode && isTestFile path) with
      | mk outcome events =>
        cases outcome with
        | error e => exact ⟨_, _, .refused ⟨text, hText, hScan⟩⟩
        | ok scanned => exact ⟨_, _, .read ⟨text, hText, hScan⟩⟩
  | asking scanned lookups =>
    right
    obtain ⟨-, ⟨left, hLeft⟩, -⟩ := h
    cases left with
    | nil =>
      rw [List.append_nil] at hLeft
      obtain ⟨told, hTold, rfl⟩ := exists_told hLeft
      exact ⟨_, _, .resolve hTold⟩
    | cons q left =>
      let l : Lookup := ⟨q, (s.pkgConfig.query host q.1 q.2).result t⟩
      refine ⟨_, _, .ask (l := l) ⟨left, ?_⟩ rfl⟩
      rw [List.map_append, List.append_assoc]
      exact hLeft
  | done outcome => exact .inl ⟨outcome, rfl⟩

theorem Keeps.done_or_advances [Go.Parser] {files : List String} {t : Trace σ}
    {state : Trace σ × Crew} (h : Keeps host s testMode files t state) :
    (∃ entries : List Entry, state.2 = entries.map fun e => (e.1, .done e.2)) ∨
      ∃ next, Advances host s testMode state next := by
  by_cases hStep : ∃ m ∈ state.2, ∃ u q, FileStep host s testMode m.1 state.1 m.2 u q
  · obtain ⟨m, hm, u, q, hStep⟩ := hStep
    obtain ⟨before, behind, hCrew⟩ := List.append_of_mem hm
    refine .inr ⟨(u, before ++ (m.1, q) :: behind), ?_⟩
    have hAdvances := Advances.step before behind hStep
    rwa [← hCrew] at hAdvances
  · have hDone : ∀ m ∈ state.2, ∃ outcome, m.2 = .done outcome := fun m hm =>
      ((h.knows m hm).done_or_step state.1).resolve_right fun hOwn => hStep ⟨m, hm, hOwn⟩
    exact .inl (exists_entries hDone)

/-! ### One file after the other -/

theorem Advances.among [Go.Parser] {a b : Trace σ × Crew} (h : Advances host s testMode a b)
    (before behind : Crew) :
    Advances host s testMode (a.1, before ++ a.2 ++ behind) (b.1, before ++ b.2 ++ behind) := by
  cases h with
  | step inner outer hStep =>
    have hPlace := Advances.step (before ++ inner) (outer ++ behind) hStep
    simpa only [List.append_assoc, List.cons_append] using hPlace

theorem run_among [Go.Parser] {a b : Trace σ × Crew}
    (h : ReflTransGen (Advances host s testMode) a b)
    (before behind : Crew) : ReflTransGen (Advances host s testMode)
      (a.1, before ++ a.2 ++ behind) (b.1, before ++ b.2 ++ behind) :=
  h.lift (fun state => (state.1, before ++ state.2 ++ behind)) fun _ _ hStep =>
    hStep.among before behind

theorem advances_single [Go.Parser] {path : String} {t u : Trace σ} {p q : Progress}
    (h : FileStep host s testMode path t p u q) :
    Advances host s testMode (t, [(path, p)]) (u, [(path, q)]) := .step [] [] h

/-- The lookups of a file that works alone follow one another. -/
theorem asked_advances [Go.Parser] {path : String} {scanned : Scanned} {lookups more : List Lookup}
    {t u : Trace σ} (h : Asked (s.pkgConfig.flagSource host) t more u)
    (hQuestions : (lookups ++ more).map Lookup.question <+: questionsOf scanned.directives) :
    ReflTransGen (Advances host s testMode) (t, [(path, .asking scanned lookups)])
      (u, [(path, .asking scanned (lookups ++ more))]) := by
  -- every lookup has to be for the next question, so the prefix goes along with the run
  induction h generalizing lookups with
  | nil t =>
    rw [List.append_nil]
  | @cons t u l rest hAnswer hAsked ih =>
    have hSplit : lookups ++ l :: rest = (lookups ++ [l]) ++ rest := by
      rw [List.append_assoc, List.singleton_append]
    have hFirst : (lookups ++ [l]).map Lookup.question <+: questionsOf scanned.directives := by
      rw [hSplit, List.map_append] at hQuestions
      exact (List.prefix_append _ _).trans hQuestions
    rw [hSplit]
    exact .head (advances_single (.ask hFirst hAnswer)) (ih (hSplit ▸ hQuestions))

/-- A file that works alone comes to the outcome of its extraction. -/
theorem extractFile_advances [Go.Parser] (path : String) (t : Trace σ) :
    ReflTransGen (Advances host s testMode) (t, [(path, .waiting)])
      ((s.extractFile host path testMode).after t,
        [(path, .done ((s.extractFile host path testMode).result t))]) := by
  let source := s.pkgConfig.flagSource host
  rw [Session.extractFile]
  cases hText : readText host t.machine path with
  | error e =>
    obtain ⟨hResult, hAfter⟩ := extractFile_of_unread source hText s.tags testMode
    rw [hResult, hAfter]
    exact .single (advances_single (.unread hText))
  | ok text =>
    let isTest := testMode && isTestFile path
    let noted := t.report [scanningEvent path isTest]
    have hNoted (events : Log) :
        noted.report events = t.report (scanningEvent path isTest :: events) :=
      t.report_report [scanningEvent path isTest] events
    obtain ⟨hResult, hAfter⟩ := extractFile_of_read source hText s.tags testMode
    rw [hResult, hAfter]
    cases hScan : scan s.tags text isTest with
    | mk outcome events =>
      have hScans : Scans host s testMode path t.machine (outcome, events) := ⟨text, hText, hScan⟩
      cases outcome with
      | error e =>
        obtain ⟨hResult, hAfter⟩ := extract_of_refused source hScan noted
        rw [hResult, hAfter, hNoted]
        exact .single (advances_single (.refused hScans))
      | ok scanned =>
        obtain ⟨hResult, hAfter⟩ := extract_of_scanned source hScan noted
        rw [hResult, hAfter, hNoted]
        obtain ⟨told, hTold, hAsked, hUnit⟩ := resolve_asks source scanned
          (t.report (scanningEvent path isTest :: events))
        have hQuestions :
            questionsOf scanned.directives = ([] ++ lookupsOf told).map Lookup.question := by
          rw [List.nil_append, questions_lookupsOf, hTold]
        rw [hUnit]
        exact .head (advances_single (.read hScans))
          ((asked_advances hAsked (hQuestions ▸ List.prefix_rfl)).tail
            (advances_single (.resolve hTold)))

/-- **One file after the other is a schedule.** -/
theorem extractFiles_extracts [Go.Parser] (files : List String) (t : Trace σ) :
    Extracts host s testMode files t ((s.extractFiles host files testMode).result t)
      ((s.extractFiles host files testMode).after t) := by
  rw [Session.extractFiles]
  induction files generalizing t with
  | nil => exact .refl
  | cons path files ih =>
    rw [List.mapM_cons]
    have hOwn : ReflTransGen (Advances host s testMode) (t, [(path, .waiting)])
        ((s.extractFile host path testMode).after t,
          [(path, .done ((s.extractFile host path testMode).result t))]) :=
      extractFile_advances path t
    have hFirst := run_among hOwn [] (files.map fun path => (path, .waiting))
    have hRest := run_among (ih ((s.extractFile host path testMode).after t))
      [(path, .done ((s.extractFile host path testMode).result t))] []
    simp only [List.append_nil] at hRest
    exact hFirst.trans hRest

/-! ### Machines that answer alike in all their states -/

/-- Lookups with the same questions are the same, if each question has one answer. -/
theorem lookups_eq {f : Question → Except BuildError String} {lookups others : List Lookup}
    (h : lookups.map Lookup.question = others.map Lookup.question)
    (hAnswers : ∀ l ∈ lookups, l.answer = f l.question)
    (hOthers : ∀ l ∈ others, l.answer = f l.question) :
    lookups = others := by
  have hAll {ls : List Lookup} (hLookups : ∀ l ∈ ls, l.answer = f l.question) :
      ls = (ls.map Lookup.question).map fun q => ⟨q, f q⟩ := by
    rw [List.map_map]
    refine (List.map_id ls).symm.trans (List.map_congr_left fun l hl => ?_)
    rw [Function.comp_apply, ← hLookups l hl]
    rfl
  rw [hAll hAnswers, hAll hOthers, h]

theorem told_eq {f : Question → Except BuildError String} {told others : List ToldDirective}
    (h : told.map ToldDirective.directive = others.map ToldDirective.directive)
    (hAnswers : ∀ l ∈ lookupsOf told, l.answer = f l.question)
    (hOthers : ∀ l ∈ lookupsOf others, l.answer = f l.question) : told = others := by
  induction told generalizing others with
  | nil => exact (List.map_eq_nil_iff.mp h.symm).symm
  | cons d told ih =>
    cases others with
    | nil => cases h
    | cons d' others =>
      rw [lookupsOf, List.flatMap_cons, List.forall_mem_append] at hAnswers hOthers
      obtain ⟨hDirective, hRest⟩ := List.cons.inj h
      have hOwn : d = d' := by
        obtain ⟨directive, lookups, hQuestions⟩ := d
        obtain ⟨directive', lookups', hQuestions'⟩ := d'
        cases hDirective
        cases lookups_eq (hQuestions.trans hQuestions'.symm) hAnswers.1 hOthers.1
        rfl
      rw [hOwn, ih hRest hAnswers.2 hOthers.2]

/-- All lookups of a run are answered so, if the command always answers so. -/
theorem answers_of_asked {source : FlagSource σ} {answers : Answers} (hGives : source.Gives answers)
    {t u : Trace σ} {lookups : List Lookup} (h : Asked source t lookups u) :
    ∀ l ∈ lookups, l.answer = answers l.question.1 l.question.2 := by
  induction h with
  | nil t => exact List.forall_mem_nil _
  | @cons t u l rest hAnswer _ ih =>
    exact List.forall_mem_cons.mpr ⟨hAnswer.symm.trans (hGives _ _ t), ih⟩

/-- Told by such answers, a scan comes to what it resolves to by them. -/
theorem unitOf_eq_resolveBy {source : FlagSource σ} {answers : Answers}
    (hGives : source.Gives answers) (t : Trace σ) {scanned : Scanned} {told : List ToldDirective}
    (hTold : told.map ToldDirective.directive = scanned.directives)
    (hAnswers : ∀ l ∈ lookupsOf told, l.answer = answers l.question.1 l.question.2) :
    scanned.unitOf told = scanned.resolveBy answers := by
  obtain ⟨asked, hAsked, hRun, hUnit⟩ := resolve_asks source scanned t
  have hSame : told = asked :=
    told_eq (f := fun q => answers q.1 q.2) (hTold.trans hAsked.symm) hAnswers
      (answers_of_asked hGives hRun)
  rw [hSame, ← hUnit, resolve_result hGives]

/-- A file that is read the same in all states, by a command that answers the same, has one
outcome. -/
theorem MayGive.eq_outcomeBy [Go.Parser] {answers : Answers}
    (hGives : (s.pkgConfig.flagSource host).Gives answers)
    {path : String} (hRead : ∀ a b, host.readFile a path = host.readFile b path) (t : Trace σ)
    {outcome : Except BuildError SourceUnit} (h : MayGive host s testMode path outcome) :
    outcome = outcomeBy answers host t.machine s.tags testMode path := by
  have hText (a : σ) : readText host a path = readText host t.machine path :=
    readText_congr (hRead a t.machine)
  cases h with
  | unread hUnread =>
    rw [outcomeBy, ← hText, hUnread]
    rfl
  | refused hScans =>
    obtain ⟨text, hReads, hScan⟩ := hScans
    rw [outcomeBy, ← hText, hReads, Except.bind, extractBy, hScan]
    rfl
  | resolved hScans hTold hAnswers =>
    obtain ⟨text, hReads, hScan⟩ := hScans
    rw [outcomeBy, ← hText, hReads, Except.bind, extractBy, hScan]
    refine congrArg Except.ok (unitOf_eq_resolveBy hGives t hTold fun l hl => ?_)
    obtain ⟨u, hAnswer⟩ := hAnswers l hl
    exact hAnswer.symm.trans (hGives _ _ u)

/-- There, every schedule comes to the same. -/
theorem extracts_eq_map [Go.Parser] {answers : Answers}
    (hGives : (s.pkgConfig.flagSource host).Gives answers) {files : List String}
    (hRead : ∀ path ∈ files, ∀ a b, host.readFile a path = host.readFile b path)
    {t u : Trace σ} {entries : List Entry} (h : Extracts host s testMode files t entries u) :
    entries =
      files.map fun path => (path, outcomeBy answers host t.machine s.tags testMode path) := by
  obtain ⟨rfl, hGive, -⟩ := extracts_entries h
  rw [List.map_map]
  refine (List.map_id entries).symm.trans (List.map_congr_left fun e he => ?_)
  have hPath : e.1 ∈ entries.map Prod.fst := List.mem_map_of_mem he
  exact Prod.ext rfl ((hGive e he).eq_outcomeBy hGives (hRead e.1 hPath) t)

/-! ### The report of a scan -/

/-- **A scan reports every file once, in order, and recoverably.** -/
theorem scan_reports_each_file [Go.Parser] (host : Host σ) (files : List String) (testMode : Bool) :
    -- the program extracts the files under a schedule and reports their outcomes
    (∀ args arguments t, Arguments.ofList args = .ok arguments →
      arguments.request = .scan files testMode →
      let config := arguments.platform.config (host.lookup t.machine)
      let session := (scanSession host config).result t
      ∃ begun entries ended, t.Notes begun ∧
        Extracts host session testMode files begun entries ended ∧
        Reports t entries ((run host args).result t) ((run host args).after t)) ∧
    -- whatever the schedule, each file has one outcome, in its place, in which no other file has a
    -- part, and nothing is shown before the report
    (∀ session begun entries ended, Extracts host session testMode files begun entries ended →
      entries.map Prod.fst = files ∧ (∀ e ∈ entries, MayGive host session testMode e.1 e.2) ∧
      Reports begun entries ((conclude entries).result ended) ((conclude entries).after ended)) ∧
    -- if no state of the machine matters to the files and the command, nor does the schedule
    (∀ session answers, (session.pkgConfig.flagSource host).Gives answers →
      (∀ path ∈ files, ∀ a b, host.readFile a path = host.readFile b path) →
      ∀ begun entries ended, Extracts host session testMode files begun entries ended →
      entries =
        files.map fun path =>
          (path, outcomeBy answers host begun.machine session.tags testMode path)) ∧
    -- no schedule gets stuck before every file is done
    (∀ session begun state,
      ReflTransGen (Advances host session testMode) (begun, files.map fun path => (path, .waiting))
        state →
      (∃ entries : List Entry, state.2 = entries.map fun e => (e.1, .done e.2)) ∨
        ∃ next, Advances host session testMode state next) ∧
    -- whatever the outcomes are, they are reported
    (∀ entries (t : Trace σ),
      Reports t entries ((conclude entries).result t) ((conclude entries).after t)) ∧
    -- what is shown is cut into documents, and however it is cut, the pieces describe what was
    -- extracted
    (∀ entries, Cuts (shownText entries) (documents entries) ∧
      ∀ pieces, Cuts (shownText entries) pieces →
        pieces.map (ofJsonText described?) = (extracted entries).map .ok) := by
  refine ⟨fun args arguments t hArgs hRequest => ?_, fun session begun entries ended h => ?_,
    fun _ _ hGives hRead _ _ _ h => extracts_eq_map hGives hRead h,
    fun _ _ _ h => (keeps_of_run h).done_or_advances,
    fun entries t => conclude_reports (.refl t) entries,
    fun entries => ⟨cuts_documents entries, fun _ h => cuts_decode h⟩⟩
  · intro config session
    let begun := (Action.log .info s!"Scanning {files.length} file(s)...").after
      ((scanSession host config).after t)
    have hBegun : t.Notes begun := (scanSession_notes host config t).trans (log_notes _ _ _)
    have hExtracts : Extracts host session testMode files begun _ _ :=
      extractFiles_extracts files begun
    refine ⟨begun, _, _, hBegun, hExtracts, ?_⟩
    rw [run_scan hArgs hRequest]
    exact conclude_reports (hBegun.sameStreams.trans (extracts_entries hExtracts).2.2) _
  · obtain ⟨hFiles, hGive, hStreams⟩ := extracts_entries h
    exact ⟨hFiles, hGive, conclude_reports hStreams entries⟩

end BuildScan
