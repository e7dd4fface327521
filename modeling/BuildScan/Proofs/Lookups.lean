import BuildScan.Proofs.Action
import BuildScan.Proofs.Unique

/-!
# What a file resolves to

The directives of a file put questions to a source of flags (`questionsOf`), and these are all that
the source is asked, whatever it answers.  `resolve_asks` says so for every source: a run is a list
of lookups, each made in the state that the one before left, and what the file resolves to is a
plain function of the directives and their lookups (`Scanned.unitOf`).  `resolve_eq_reference` adds
what can be seen of such a run where the source notes each question.
-/

namespace BuildScan

open BuildScan.Text

variable {σ : Type}

/-! ### Questions and lookups -/

/-- A question for the flags of a library. -/
abbrev Question := FlagMode × String

/-- A question with its answer. -/
structure Lookup where
  question : Question
  answer : Except BuildError String

/-- The warning that a lookup gives rise to, if it fails. -/
def Lookup.warnings (l : Lookup) : Log :=
  match l.answer with
  | .ok _ => []
  | .error e => [⟨.warn, "pkg-config err: " ++ e.message⟩]

/-- The questions of a directive.  One that is about libraries asks for the compiler flags of each
word of its payload, and then for the linker flags of each; the others ask nothing. -/
def Directive.questions (d : Directive) : List Question :=
  if d.kind = .pkgConfig then
    (wordsOf d.payload).map (FlagMode.cflags, ·) ++ (wordsOf d.payload).map (FlagMode.libs, ·)
  else []

/-- The questions of some directives. -/
def questionsOf (ds : List Directive) : List Question := ds.flatMap Directive.questions

/-- The trace with some more events. -/
def Trace.report (t : Trace σ) (events : Log) : Trace σ := { t with log := t.log ++ events }

theorem Trace.report_nil (t : Trace σ) : t.report [] = t := by
  rw [report, List.append_nil]

theorem Trace.report_report (t : Trace σ) (events more : Log) :
    (t.report events).report more = t.report (events ++ more) :=
  congrArg (fun log => { t with log := log }) (List.append_assoc t.log events more)

/-- Nothing but events lies between the traces. -/
def Trace.Notes (t u : Trace σ) : Prop := ∃ events, u = t.report events

theorem Trace.Notes.refl (t : Trace σ) : t.Notes t := ⟨[], t.report_nil.symm⟩

theorem Trace.Notes.trans {t u v : Trace σ} (h : t.Notes u) (hNext : u.Notes v) : t.Notes v := by
  obtain ⟨events, rfl⟩ := h
  obtain ⟨more, rfl⟩ := hNext
  exact ⟨events ++ more, t.report_report events more⟩

theorem Trace.Notes.machine_eq {t u : Trace σ} (h : t.Notes u) : u.machine = t.machine := by
  obtain ⟨events, rfl⟩ := h
  rfl

theorem log_notes (level : LogLevel) (message : String) (t : Trace σ) :
    t.Notes ((Action.log level message).after t) := ⟨_, rfl⟩

/-- From one trace to another a source makes exactly these lookups: each question is asked in the
state that the lookup before left, and a warning follows at once if it fails. -/
inductive Asked (source : FlagSource σ) : Trace σ → List Lookup → Trace σ → Prop
  | nil (t : Trace σ) : Asked source t [] t
  | cons {t last : Trace σ} {l : Lookup} {rest : List Lookup} :
      (source.ask l.question.1 l.question.2).result t = l.answer →
      Asked source (((source.ask l.question.1 l.question.2).after t).report l.warnings) rest last →
      Asked source t (l :: rest) last

/-- A directive with the lookups for its questions. -/
structure ToldDirective where
  directive : Directive
  lookups : List Lookup
  questions_eq : lookups.map Lookup.question = directive.questions

/-- The lookups of some directives, in the order in which they are made. -/
def lookupsOf (told : List ToldDirective) : List Lookup := told.flatMap ToldDirective.lookups

theorem questions_lookupsOf (told : List ToldDirective) :
    (lookupsOf told).map Lookup.question = questionsOf (told.map ToldDirective.directive) := by
  rw [lookupsOf, questionsOf, List.map_flatMap, List.flatMap_map]
  exact congrArg (told.flatMap ·) (funext ToldDirective.questions_eq)

theorem Directive.questions_eq (d : Directive) :
    d.questions = d.libraries.map (FlagMode.cflags, ·) ++ d.libraries.map (FlagMode.libs, ·) := by
  rw [questions, libraries]
  cases hKind : d.kind with
  | pkgConfig => rw [if_pos rfl]
  | _ => rfl

/-! ### The reference -/

/-- What a directive adds to the flags of a mode: its payload, or what its lookups found. -/
def ToldDirective.flags (mode : FlagMode) (told : ToldDirective) : List String :=
  match told.directive.kind with
  | .target => []
  | .compileFlags => if mode = .cflags then [told.directive.payload] else []
  | .linkFlags => if mode = .libs then [told.directive.payload] else []
  | .pkgConfig =>
    (told.lookups.filter fun l => l.question.1 = mode).filterMap fun l => l.answer.toOption

/-- What a scan resolves to when its directives are told this. -/
def Scanned.unitOf (scanned : Scanned) (told : List ToldDirective) : SourceUnit where
  package := scanned.package
  target := (scanned.directives.filter fun d => d.kind = .target).getLast?.map Directive.payload
  deps := scanned.deps
  funcs := scanned.funcs
  cflags := (told.flatMap (ToldDirective.flags .cflags)).eraseDups
  ldflags := (told.flatMap (ToldDirective.flags .libs)).eraseDups

/-! ### Runs of lookups -/

namespace Asked

variable {source : FlagSource σ} {t middle last : Trace σ} {xs ys : List Lookup}

theorem append (h : Asked source t xs middle) (hRest : Asked source middle ys last) :
    Asked source t (xs ++ ys) last := by
  induction h with
  | nil t => exact hRest
  | cons hAnswer _ ih => exact .cons hAnswer (ih hRest)

end Asked

variable (source : FlagSource σ)

/-- The first of some libraries is looked up, and its flags come before those of the others. -/
theorem flags_cons (mode : FlagMode) (library : String) (rest : List String) (t : Trace σ) :
    let l : Lookup := ⟨(mode, library), (source.ask mode library).result t⟩
    let next := ((source.ask mode library).after t).report l.warnings
    (source.flags mode (library :: rest)).after t = (source.flags mode rest).after next ∧
      (source.flags mode (library :: rest)).result t =
        l.answer.toOption.toList ++ (source.flags mode rest).result next := by
  intro l next
  rw [FlagSource.flags, Action.after_bind, Action.result_bind]
  cases hAnswer : (source.ask mode library).result t with
  | ok flags =>
    have hNext : next = (source.ask mode library).after t := by
      simp only [next, l, hAnswer, Lookup.warnings, Trace.report_nil]
    simp only [hNext, l, hAnswer]
    exact ⟨rfl, rfl⟩
  | error e =>
    have hNext : next = ((source.ask mode library).after t).report
        [⟨.warn, "pkg-config err: " ++ e.message⟩] := by
      simp only [next, l, hAnswer, Lookup.warnings]
    simp only [hNext, l, hAnswer]
    exact ⟨rfl, rfl⟩

/-- The flags of some libraries are what was found in one lookup for each. -/
theorem flags_asks (mode : FlagMode) (libraries : List String) (t : Trace σ) :
    ∃ lookups, lookups.map Lookup.question = libraries.map (mode, ·) ∧
      Asked source t lookups ((source.flags mode libraries).after t) ∧
      (source.flags mode libraries).result t = lookups.filterMap fun l => l.answer.toOption := by
  induction libraries generalizing t with
  | nil => exact ⟨[], rfl, .nil t, rfl⟩
  | cons library rest ih =>
    obtain ⟨hAfter, hResult⟩ := flags_cons source mode library rest t
    obtain ⟨lookups, hQuestions, hAsked, hFlags⟩ := ih _
    refine ⟨⟨(mode, library), (source.ask mode library).result t⟩ :: lookups, ?_, ?_, ?_⟩
    · rw [List.map_cons, hQuestions, List.map_cons]
    · rw [hAfter]
      exact .cons rfl hAsked
    · rw [hResult, hFlags, List.filterMap_cons]
      cases ((source.ask mode library).result t).toOption <;> rfl

theorem filter_mode {lookups : List Lookup} {mode other : FlagMode} {libraries : List String}
    (h : lookups.map Lookup.question = libraries.map (mode, ·)) :
    (lookups.filter fun l => l.question.1 = other) = if mode = other then lookups else [] := by
  have hMode : ∀ l ∈ lookups, l.question.1 = mode := by
    intro l hl
    have hMem : l.question ∈ libraries.map (mode, ·) := h ▸ List.mem_map_of_mem hl
    obtain ⟨library, -, hQuestion⟩ := List.mem_map.mp hMem
    rw [← hQuestion]
  by_cases hEq : mode = other
  · rw [if_pos hEq, List.filter_eq_self]
    intro l hl
    exact decide_eq_true ((hMode l hl).trans hEq)
  · rw [if_neg hEq, List.filter_eq_nil_iff]
    intro l hl
    simp [hMode l hl, hEq]

/-- A directive of another kind than those that name libraries asks nothing. -/
def ToldDirective.unasked (d : Directive) (h : d.kind ≠ .pkgConfig) : ToldDirective where
  directive := d
  lookups := []
  questions_eq := (if_neg h).symm

/-- What a directive sets, told by the lookups for its questions. -/
def ToldDirective.settings (told : ToldDirective) : Settings where
  target := if told.directive.kind = .target then some told.directive.payload else none
  cflags := told.flags .cflags
  ldflags := told.flags .libs

theorem settings_unasked (d : Directive) (h : d.kind ≠ .pkgConfig) :
    d.settings source = pure (ToldDirective.unasked d h).settings := by
  rw [Directive.settings, ToldDirective.settings]
  cases hKind : d.kind with
  | pkgConfig => exact absurd hKind h
  | _ => simp [ToldDirective.flags, ToldDirective.unasked, hKind]

theorem settings_asks (d : Directive) (t : Trace σ) :
    ∃ told : ToldDirective, told.directive = d ∧
      Asked source t told.lookups ((d.settings source).after t) ∧
      (d.settings source).result t = told.settings := by
  by_cases hKind : d.kind = .pkgConfig
  · obtain ⟨compile, hCompile, hAskedCompile, hFlagsCompile⟩ :=
      flags_asks source .cflags d.libraries t
    obtain ⟨link, hLink, hAskedLink, hFlagsLink⟩ :=
      flags_asks source .libs d.libraries ((source.flags .cflags d.libraries).after t)
    have hQuestions : (compile ++ link).map Lookup.question = d.questions := by
      rw [List.map_append, hCompile, hLink, d.questions_eq]
    have hResult : (d.settings source).result t =
        ⟨none, compile.filterMap fun l => l.answer.toOption,
          link.filterMap fun l => l.answer.toOption⟩ := by
      rw [Directive.settings, hKind]
      simp only [Action.result_bind, Action.result_pure, hFlagsCompile, hFlagsLink]
    refine ⟨⟨d, compile ++ link, hQuestions⟩, rfl, ?_, ?_⟩
    · rw [Directive.settings, hKind]
      exact hAskedCompile.append hAskedLink
    · rw [hResult]
      simp [ToldDirective.settings, ToldDirective.flags, hKind, filter_mode hCompile,
        filter_mode hLink]
  · rw [settings_unasked source d hKind]
    exact ⟨.unasked d hKind, rfl, .nil t, rfl⟩

/-- The payload of the last directive that names a target. -/
def lastTarget (ds : List Directive) : Option String :=
  (ds.filter fun d => d.kind = .target).getLast?.map Directive.payload

theorem lastTarget_cons (d : Directive) (ds : List Directive) :
    lastTarget (d :: ds) =
      (lastTarget ds).or (if d.kind = .target then some d.payload else none) := by
  rw [lastTarget, lastTarget]
  by_cases hKind : d.kind = .target
  · rw [List.filter_cons_of_pos (by simpa using hKind), List.getLast?_cons, if_pos hKind]
    cases (ds.filter fun d => d.kind = .target).getLast? <;> rfl
  · rw [List.filter_cons_of_neg (by simpa using hKind), if_neg hKind, Option.or_none]

theorem settingsOf_asks (ds : List Directive) (t : Trace σ) :
    ∃ told : List ToldDirective, told.map ToldDirective.directive = ds ∧
      Asked source t (lookupsOf told) ((settingsOf source ds).after t) ∧
      (settingsOf source ds).result t =
        ⟨lastTarget ds, told.flatMap (ToldDirective.flags .cflags),
          told.flatMap (ToldDirective.flags .libs)⟩ := by
  induction ds generalizing t with
  | nil => exact ⟨[], rfl, .nil t, rfl⟩
  | cons d ds ih =>
    obtain ⟨first, hFirst, hAsked, hSettings⟩ := settings_asks source d t
    obtain ⟨told, hTold, hAskedRest, hSettingsRest⟩ := ih ((d.settings source).after t)
    refine ⟨first :: told, by rw [List.map_cons, hFirst, hTold], hAsked.append hAskedRest, ?_⟩
    rw [settingsOf, Action.result_bind, Action.result_bind, Action.result_pure, hSettings,
      hSettingsRest, lastTarget_cons, ToldDirective.settings, hFirst, List.flatMap_cons,
      List.flatMap_cons]
    rfl

/-- Whatever the source of flags, a scan makes one lookup for each question of its directives, and
resolves to what these lookups found. -/
theorem resolve_asks (scanned : Scanned) (t : Trace σ) :
    ∃ told : List ToldDirective, told.map ToldDirective.directive = scanned.directives ∧
      Asked source t (lookupsOf told) ((scanned.resolve source).after t) ∧
      (scanned.resolve source).result t = scanned.unitOf told := by
  obtain ⟨told, hTold, hAsked, hSettings⟩ := settingsOf_asks source scanned.directives t
  refine ⟨told, hTold, hAsked, ?_⟩
  rw [Scanned.resolve, Action.result_bind, Action.result_pure, hSettings, Scanned.unitOf]
  simp only [unique_eq_eraseDups, lastTarget]

theorem extract_of_refused [Go.Parser] {tags : BuildTags} {text : String} {isTest : Bool}
    {e : BuildError} {events : Log} (h : scan tags text isTest = (.error e, events)) (t : Trace σ) :
    (extract tags text isTest source).result t = .error e ∧
      (extract tags text isTest source).after t = t.report events := by
  rw [extract, h]
  exact ⟨rfl, rfl⟩

theorem extract_of_scanned [Go.Parser] {tags : BuildTags} {text : String} {isTest : Bool}
    {scanned : Scanned}
    {events : Log} (h : scan tags text isTest = (.ok scanned, events)) (t : Trace σ) :
    (extract tags text isTest source).result t =
      .ok ((scanned.resolve source).result (t.report events)) ∧
      (extract tags text isTest source).after t =
        (scanned.resolve source).after (t.report events) := by
  rw [extract, h]
  exact ⟨rfl, rfl⟩

/-- What is noted when a file is about to be scanned. -/
def scanningEvent (path : String) (isTest : Bool) : LogEvent :=
  ⟨.debug, s!"Scanning {path} (test: {isTest})"⟩

theorem extractFile_of_unread [Go.Parser] {host : Host σ} {path : String} {t : Trace σ}
    {e : BuildError}
    (h : readText host t.machine path = .error e) (tags : BuildTags) (testMode : Bool) :
    (extractFile host tags path testMode source).result t = .error e ∧
      (extractFile host tags path testMode source).after t = t := by
  rw [extractFile, Action.result_bind, Action.after_bind, Action.result_machine,
    Action.after_machine, h]
  exact ⟨rfl, rfl⟩

/-- A file that can be read is extracted, once that is noted. -/
theorem extractFile_of_read [Go.Parser] {host : Host σ} {path : String} {t : Trace σ}
    {text : String}
    (h : readText host t.machine path = .ok text) (tags : BuildTags) (testMode : Bool) :
    let isTest := testMode && isTestFile path
    let noted := t.report [scanningEvent path isTest]
    (extractFile host tags path testMode source).result t =
        (extract tags text isTest source).result noted ∧
      (extractFile host tags path testMode source).after t =
        (extract tags text isTest source).after noted := by
  rw [extractFile, Action.result_bind, Action.after_bind, Action.result_machine,
    Action.after_machine, h]
  exact ⟨rfl, rfl⟩

/-! ### Sources that keep a record -/

/-- How a source works whose machine is a record: what it notes of a question, what it reports, and
what it answers by its record so far. -/
structure Noting (ρ : Type) where
  note : Question → ρ
  events : Question → Log
  answer : List ρ → Question → Except BuildError String

namespace Noting

variable {ρ : Type} (noting : Noting ρ)

/-- The source works so on a question. -/
def Describes (source : FlagSource (List ρ)) (q : Question) : Prop :=
  ∀ t, (source.ask q.1 q.2).result t = noting.answer t.machine q ∧
    (source.ask q.1 q.2).after t =
      { t with machine := t.machine ++ [noting.note q], log := t.log ++ noting.events q }

/-- What some lookups leave of a trace. -/
def behind (t : Trace (List ρ)) (lookups : List Lookup) : Trace (List ρ) :=
  { t with
    machine := t.machine ++ lookups.map fun l => noting.note l.question
    log := t.log ++ lookups.flatMap fun l => noting.events l.question ++ l.warnings }

/-- Each lookup is answered by the record of those before it. -/
def AnswersAll (past : List ρ) (lookups : List Lookup) : Prop :=
  ∀ before l behind, lookups = before ++ l :: behind →
    l.answer = noting.answer (past ++ before.map fun m => noting.note m.question) l.question

variable {noting} {source : FlagSource (List ρ)} {t last : Trace (List ρ)} {lookups : List Lookup}

theorem AnswersAll.cons {past : List ρ} {l : Lookup}
    (hFirst : l.answer = noting.answer past l.question)
    (hRest : noting.AnswersAll (past ++ [noting.note l.question]) lookups) :
    noting.AnswersAll past (l :: lookups) := by
  intro before m behind hSplit
  cases before with
  | nil =>
    obtain ⟨rfl, rfl⟩ := List.cons.inj hSplit
    rw [List.map_nil, List.append_nil, hFirst]
  | cons first before =>
    obtain ⟨rfl, hTail⟩ := List.cons.inj hSplit
    rw [hRest before m behind hTail, List.map_cons, List.append_assoc, List.singleton_append]

/-- A run of such a source leaves the record and the log, and nothing else changes. -/
theorem run_of_describes (h : Asked source t lookups last)
    (hDescribes : ∀ l ∈ lookups, noting.Describes source l.question) :
    last = noting.behind t lookups ∧ noting.AnswersAll t.machine lookups := by
  induction h with
  | nil t =>
    refine ⟨?_, fun before l behind hSplit => ?_⟩
    · rw [behind, List.map_nil, List.flatMap_nil, List.append_nil, List.append_nil]
    · cases before <;> cases hSplit
  | @cons t last l rest hAnswer _ ih =>
    obtain ⟨hFirst, hRest⟩ := List.forall_mem_cons.mp hDescribes
    obtain ⟨hResult, hAfter⟩ := hFirst t
    obtain ⟨hLast, hAnswers⟩ := ih hRest
    rw [hAfter] at hLast hAnswers
    refine ⟨?_, .cons (hAnswer.symm.trans hResult) hAnswers⟩
    rw [hLast]
    simp only [behind, Trace.report, List.map_cons, List.flatMap_cons, List.append_assoc,
      List.singleton_append]

end Noting

/-- A source that notes each question and answers by all that it was asked. -/
def FlagSource.ofOracle (oracle : List Question → Question → Except BuildError String) :
    FlagSource (List Question) where
  ask mode library := do
    let past ← Action.machine
    modify fun t => { t with machine := t.machine ++ [(mode, library)] }
    return oracle past (mode, library)

/-- How such a source works. -/
def Noting.ofOracle (oracle : List Question → Question → Except BuildError String) :
    Noting Question where
  note q := q
  events _ := []
  answer := oracle

theorem Noting.describes_ofOracle (oracle : List Question → Question → Except BuildError String)
    (q : Question) : (Noting.ofOracle oracle).Describes (.ofOracle oracle) q := by
  intro t
  refine ⟨rfl, ?_⟩
  simp only [Noting.ofOracle, List.append_nil]
  rfl

/-- **Resolving equals its reference.** `told` tells of each directive which lookups were made for
it. -/
theorem resolve_eq_reference (scanned : Scanned) :
    -- whatever the source, it is asked the questions of the directives in order, and nothing else
    -- happens
    (∀ (σ : Type) (source : FlagSource σ) (t : Trace σ), ∃ told : List ToldDirective,
      told.map ToldDirective.directive = scanned.directives ∧
      (lookupsOf told).map Lookup.question = questionsOf scanned.directives ∧
      Asked source t (lookupsOf told) ((scanned.resolve source).after t) ∧
      (scanned.resolve source).result t = scanned.unitOf told) ∧
    -- a source that notes its questions shows this
    (∀ oracle (t : Trace (List Question)), ∃ told : List ToldDirective,
      told.map ToldDirective.directive = scanned.directives ∧
      (scanned.resolve (.ofOracle oracle)).after t =
        { t with
          machine := t.machine ++ questionsOf scanned.directives
          log := t.log ++ (lookupsOf told).flatMap Lookup.warnings } ∧
      (∀ before l behind, lookupsOf told = before ++ l :: behind →
        l.answer = oracle (t.machine ++ before.map Lookup.question) l.question) ∧
      (scanned.resolve (.ofOracle oracle)).result t = scanned.unitOf told) := by
  constructor
  · intro σ source t
    obtain ⟨told, hTold, hAsked, hResult⟩ := resolve_asks source scanned t
    exact ⟨told, hTold, by rw [questions_lookupsOf, hTold], hAsked, hResult⟩
  · intro oracle t
    obtain ⟨told, hTold, hAsked, hResult⟩ := resolve_asks (.ofOracle oracle) scanned t
    obtain ⟨hAfter, hAnswers⟩ :=
      Noting.run_of_describes hAsked fun l _ => Noting.describes_ofOracle oracle l.question
    refine ⟨told, hTold, ?_, hAnswers, hResult⟩
    rw [hAfter, Noting.behind, ← hTold, ← questions_lookupsOf]
    rfl

end BuildScan
