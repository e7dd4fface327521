import BuildScan.Proofs.Lookups
import BuildScan.Proofs.PlainText
import BuildScan.Proofs.Report
import BuildScan.Proofs.Resolution
import BuildScan.Proofs.Walk

/-!
# The toolchain has no part in extraction

A session with a toolchain and one for scanning alone extract alike, but for what the command
answers that looks up libraries: both scan a source under the same tags and look up the same
questions (`extract_agrees`).  A file that asks for no library is resolved without a lookup
(`resolve_of_asksNothing`), so the program shows the same for such files whatever discovery comes
to.
-/

namespace BuildScan

open BuildScan.Text CommandLine

variable {σ τ : Type}

/-- No directive names a library. -/
def Scanned.AsksNothing (scanned : Scanned) : Prop := ∀ d ∈ scanned.directives, d.libraries = []

/-! ### One source -/

section

variable {tags : BuildTags} {text : String} {isTest : Bool}

theorem extract_of_error [Go.Parser] {e : BuildError} (h : (scan tags text isTest).1 = .error e)
    (source : FlagSource σ) (t : Trace σ) : (extract tags text isTest source).result t = .error e :=
  (extract_of_refused source (Prod.ext h rfl) t).1

theorem extract_of_ok [Go.Parser] {scanned : Scanned} (h : (scan tags text isTest).1 = .ok scanned)
    (source : FlagSource σ) (t : Trace σ) :
    ∃ told : List ToldDirective, told.map ToldDirective.directive = scanned.directives ∧
      (extract tags text isTest source).result t = .ok (scanned.unitOf told) := by
  obtain ⟨told, hTold, -, hUnit⟩ := resolve_asks source scanned (t.report (scan tags text isTest).2)
  refine ⟨told, hTold, ?_⟩
  rw [(extract_of_scanned source (Prod.ext h rfl) t).1, hUnit]

end

/-- Two extractions of a source agree, up to the answers to the questions of its directives. -/
structure AgreeUpToLookups [Go.Parser] (tags : BuildTags) (text : String) (isTest : Bool)
    (a b : Except BuildError SourceUnit) : Prop where
  error_iff : ∀ e, a = .error e ↔ b = .error e
  /-- Both units are that of the one scan; only what the lookups found may differ. -/
  unit : ∀ scanned, (scan tags text isTest).1 = .ok scanned → ∃ told other,
    told.map ToldDirective.directive = scanned.directives ∧
    other.map ToldDirective.directive = scanned.directives ∧
    a = .ok (scanned.unitOf told) ∧ b = .ok (scanned.unitOf other)
  quiet : ∀ scanned, (scan tags text isTest).1 = .ok scanned → scanned.AsksNothing → a = b

/-! ### Files that ask for no library -/

section

variable (answers : Answers) (source : FlagSource σ)

theorem settings_of_asksNothing {d : Directive} (h : d.libraries = []) :
    d.settings source = pure (d.settingsBy answers) := by
  rw [Directive.settings, Directive.settingsBy]
  cases hKind : d.kind with
  | pkgConfig =>
    simp only [h]
    rfl
  | _ => rfl

/-- Nothing is looked up, so any answers do. -/
theorem resolve_of_asksNothing {scanned : Scanned} (h : scanned.AsksNothing) :
    scanned.resolve source = pure (scanned.resolveBy answers) := by
  have hSettings : ∀ ds : List Directive, (∀ d ∈ ds, d.libraries = []) →
      settingsOf source ds = pure (settingsBy answers ds) := by
    intro ds
    induction ds with
    | nil => exact fun _ => rfl
    | cons d ds ih =>
      intro hNone
      obtain ⟨hFirst, hRest⟩ := List.forall_mem_cons.mp hNone
      rw [settingsOf, settings_of_asksNothing answers source hFirst, ih hRest]
      rfl
  rw [Scanned.resolve, hSettings _ h]
  rfl

/-- The source asks for no library, if it is scanned at all. -/
def Quiet [Go.Parser] (tags : BuildTags) (text : String) (isTest : Bool) : Prop :=
  ∀ scanned, (scan tags text isTest).1 = .ok scanned → scanned.AsksNothing

/-- Of a quiet source the machine has nothing to say, and all that happens is noted. -/
theorem extract_of_quiet [Go.Parser] {tags : BuildTags} {text : String} {isTest : Bool}
    (h : Quiet tags text isTest) (t : Trace σ) :
    (extract tags text isTest source).result t = extractBy answers tags text isTest ∧
      (extract tags text isTest source).after t = t.report (scan tags text isTest).2 := by
  rw [extractBy]
  cases hScan : scan tags text isTest with
  | mk outcome events =>
    cases outcome with
    | error e => exact extract_of_refused source hScan t
    | ok scanned =>
      obtain ⟨hResult, hAfter⟩ := extract_of_scanned source hScan t
      have hNone : scanned.AsksNothing := h scanned (by rw [hScan])
      rw [hResult, hAfter, resolve_of_asksNothing answers source hNone]
      exact ⟨rfl, rfl⟩

end

/-- Extractions of one source agree, whatever knows the libraries and in whatever state. -/
theorem extract_agrees [Go.Parser] (tags : BuildTags) (text : String) (isTest : Bool)
    (first : FlagSource σ) (second : FlagSource τ) (t : Trace σ) (u : Trace τ) :
    AgreeUpToLookups tags text isTest ((extract tags text isTest first).result t)
      ((extract tags text isTest second).result u) := by
  cases hScan : (scan tags text isTest).1 with
  | error e =>
    rw [extract_of_error hScan first t, extract_of_error hScan second u]
    refine ⟨fun _ => Iff.rfl, fun scanned hScanned => ?_, fun _ _ _ => rfl⟩
    rw [hScan] at hScanned
    cases hScanned
  | ok scanned =>
    obtain ⟨told, hTold, hFirst⟩ := extract_of_ok hScan first t
    obtain ⟨other, hOther, hSecond⟩ := extract_of_ok hScan second u
    refine ⟨fun e => ?_, fun found hFound => ?_, fun found hFound hNone => ?_⟩
    · rw [hFirst, hSecond]
      exact ⟨nofun, nofun⟩
    · rw [hScan] at hFound
      cases hFound
      exact ⟨told, other, hTold, hOther, hFirst, hSecond⟩
    · have hQuiet : Quiet tags text isTest := by
        intro again hAgain
        rw [hFound] at hAgain
        cases hAgain
        exact hNone
      let answers : Answers := fun _ library => .ok library
      rw [(extract_of_quiet answers first hQuiet t).1, (extract_of_quiet answers second hQuiet u).1]

/-! ### Sessions -/

theorem tags_of_withToolchain {host : Host σ} {config : Config} {cell last : ToolchainCell}
    {session : Session} {t : Trace σ}
    (h : (Session.withToolchain host config cell).result t = (.ok session, last)) :
    session.tags = BuildTags.ofConfig config := by
  have hSession : ((cell.obtain host config).result t).1.map
      (fun found =>
        (⟨BuildTags.ofConfig config, some found, PkgConfig.ofToolchain found⟩ : Session)) =
        .ok session := congrArg Prod.fst h
  cases hOutcome : ((cell.obtain host config).result t).1 with
  | error e =>
    rw [hOutcome] at hSession
    cases hSession
  | ok toolchain =>
    rw [hOutcome] at hSession
    cases hSession
    rfl

theorem scanSession_tags (host : Host σ) (config : Config) (t : Trace σ) :
    ((scanSession host config).result t).tags = BuildTags.ofConfig config := by
  rw [scanSession, Action.result_bind]
  dsimp only
  split
  · rename_i session hSession
    exact tags_of_withToolchain (Prod.ext hSession rfl)
  · rfl

/-! ### Runs of the program -/

/-- If the file can be read, it asks for no library. -/
def QuietFile [Go.Parser] (host : Host σ) (machine : σ) (tags : BuildTags) (testMode : Bool)
    (path : String) : Prop :=
  ∀ text, readText host machine path = .ok text → Quiet tags text (testMode && isTestFile path)

section

variable {host : Host σ} {s : Session} {testMode : Bool} (answers : Answers)

theorem extractFile_of_quiet [Go.Parser] {path : String} {t : Trace σ}
    (h : QuietFile host t.machine s.tags testMode path) :
    (s.extractFile host path testMode).result t =
      outcomeBy answers host t.machine s.tags testMode path ∧
      t.Notes ((s.extractFile host path testMode).after t) := by
  let source := s.pkgConfig.flagSource host
  rw [Session.extractFile, outcomeBy]
  cases hText : readText host t.machine path with
  | error e =>
    obtain ⟨hResult, hAfter⟩ := extractFile_of_unread source hText s.tags testMode
    rw [hResult, hAfter]
    exact ⟨rfl, .refl t⟩
  | ok text =>
    let noted := t.report [scanningEvent path (testMode && isTestFile path)]
    obtain ⟨hResult, hAfter⟩ := extractFile_of_read source hText s.tags testMode
    obtain ⟨hUnit, hNotes⟩ := extract_of_quiet answers source (h text hText) noted
    rw [hResult, hAfter]
    exact ⟨hUnit, .trans ⟨_, rfl⟩ ⟨_, hNotes⟩⟩

/-- Files that ask for no library leave the machine as it is, so each is read as at the
beginning. -/
theorem extractFiles_of_quiet [Go.Parser] {files : List String} {t : Trace σ}
    (h : ∀ path ∈ files, QuietFile host t.machine s.tags testMode path) :
    (s.extractFiles host files testMode).result t =
        files.map (fun path => (path, outcomeBy answers host t.machine s.tags testMode path)) ∧
      t.Notes ((s.extractFiles host files testMode).after t) := by
  rw [Session.extractFiles]
  induction files generalizing t with
  | nil => exact ⟨rfl, .refl t⟩
  | cons path files ih =>
    obtain ⟨hFirst, hRest⟩ := List.forall_mem_cons.mp h
    obtain ⟨hResult, events, hAfter⟩ := extractFile_of_quiet answers hFirst
    obtain ⟨hOthers, hNotes⟩ := ih (t := t.report events) hRest
    rw [List.mapM_cons]
    simp only [Action.result_bind, Action.after_bind, Action.result_pure, Action.after_pure,
      hResult, hAfter, hOthers]
    exact ⟨rfl, .trans ⟨events, rfl⟩ hNotes⟩

/-- On this machine the arguments ask for a scan of these files, for this platform. -/
def ScansFor (host : Host σ) (machine : σ) (args files : List String) (testMode : Bool)
    (config : Config) : Prop :=
  ∃ arguments, Arguments.ofList args = .ok arguments ∧ arguments.request = .scan files testMode ∧
    arguments.platform.config (host.lookup machine) = config

/-- Of files that ask for no library the program reports what they give by any answers. -/
theorem run_of_quiet [Go.Parser] {machine : σ} {args files : List String} {config : Config}
    (hArgs : ScansFor host machine args files testMode config)
    (hQuiet : ∀ path ∈ files, QuietFile host machine (.ofConfig config) testMode path) :
    Reports (.start machine)
      (files.map fun path =>
        (path, outcomeBy answers host machine (.ofConfig config) testMode path))
      ((run host args).result (.start machine)) ((run host args).after (.start machine)) := by
  obtain ⟨arguments, hArgs, hRequest, rfl⟩ := hArgs
  let config := arguments.platform.config (host.lookup machine)
  let session := (scanSession host config).result (.start machine)
  let begun := (Action.log .info s!"Scanning {files.length} file(s)...").after
    ((scanSession host config).after (.start machine))
  have hBegun : (Trace.start machine).Notes begun :=
    (scanSession_notes host config _).trans (log_notes _ _ _)
  have hMachine : begun.machine = machine := hBegun.machine_eq
  have hTags : session.tags = .ofConfig config := scanSession_tags host config _
  have hQuietBegun : ∀ path ∈ files, QuietFile host begun.machine session.tags testMode path := by
    rwa [hMachine, hTags]
  obtain ⟨hEntries, hNotes⟩ := extractFiles_of_quiet answers hQuietBegun
  rw [hMachine, hTags] at hEntries
  rw [run_scan hArgs hRequest, ← hEntries]
  exact conclude_reports (hBegun.trans hNotes).sameStreams _

end

/-- Two runs of the program show the same and end alike. -/
structure LookAlike (run : Action σ Nat) (t : Trace σ) (other : Action τ Nat) (u : Trace τ) :
    Prop where
  code : run.result t = other.result u
  stdout : (run.after t).stdout = (other.after u).stdout
  stderr : (run.after t).stderr = (other.after u).stderr

/-- Files that ask for no library are scanned alike on any two machines that have them in common, if
the platforms agree but for the tool directory. -/
theorem runs_lookAlike [Go.Parser] {host : Host σ} {other : Host τ} {machine : σ} {machine' : τ}
    {args args' files : List String} {testMode : Bool} {config config' : Config}
    (hArgs : ScansFor host machine args files testMode config)
    (hArgs' : ScansFor other machine' args' files testMode config')
    (hGoos : config'.goos = config.goos) (hGoarch : config'.goarch = config.goarch)
    (hTags : config'.tags = config.tags)
    (hFiles : ∀ path ∈ files, host.readFile machine path = other.readFile machine' path)
    (hQuiet : ∀ path ∈ files, QuietFile host machine (.ofConfig config) testMode path) :
    LookAlike (run host args) (.start machine) (run other args') (.start machine') := by
  have hSameTags : BuildTags.ofConfig config' = BuildTags.ofConfig config := by
    rw [BuildTags.ofConfig, BuildTags.ofConfig, hGoos, hGoarch, hTags]
  have hText : ∀ path ∈ files, readText host machine path = readText other machine' path :=
    fun path hPath => readText_congr (hFiles path hPath)
  have hQuiet' : ∀ path ∈ files, QuietFile other machine' (.ofConfig config') testMode path := by
    intro path hPath
    rw [QuietFile, ← hText path hPath, hSameTags]
    exact hQuiet path hPath
  let answers : Answers := fun _ library => .ok library
  have hOutcomes :
      ∀ path ∈ files, outcomeBy answers other machine' (.ofConfig config') testMode path =
      outcomeBy answers host machine (.ofConfig config) testMode path := by
    intro path hPath
    rw [outcomeBy, outcomeBy, hText path hPath, hSameTags]
  have hReports := run_of_quiet answers hArgs hQuiet
  have hReports' := run_of_quiet answers hArgs' hQuiet'
  rw [List.map_congr_left fun path hPath =>
    congrArg (Prod.mk path) (hOutcomes path hPath)] at hReports'
  exact ⟨hReports.code_eq.trans hReports'.code_eq.symm, hReports.stdout.trans hReports'.stdout.symm,
    hReports.stderr.trans hReports'.stderr.symm⟩

/-- **The toolchain has no part in extraction, but for looking up libraries.** -/
theorem extraction_ignores_toolchain [Go.Parser] :
    -- a session with a toolchain, from whatever cell, extracts like one for scanning: it fails
    -- alike, and its units differ at most in what lookups found
    (∀ (σ τ υ : Type) (host : Host σ) config cell last session t,
      (Session.withToolchain host config cell).result t = (.ok session, last) →
      ∀ (first : Host τ) (second : Host υ) text isTest u v,
        AgreeUpToLookups (.ofConfig config) text isTest
          ((session.extractSource first text isTest).result u)
          (((Session.forScanning config).extractSource second text isTest).result v)) ∧
    -- for files that ask for no library the program shows the same, whatever the search path, the
    -- tool directory and the tools, and so whatever discovery comes to
    ∀ (σ τ : Type) (host : Host σ) (other : Host τ) machine machine' args args' files
      testMode config
      config', ScansFor host machine args files testMode config →
      ScansFor other machine' args' files testMode config' →
      config'.goos = config.goos → config'.goarch = config.goarch → config'.tags = config.tags →
      (∀ path ∈ files, host.readFile machine path = other.readFile machine' path) →
      (∀ path ∈ files, QuietFile host machine (.ofConfig config) testMode path) →
      LookAlike (run host args) (.start machine) (run other args') (.start machine') := by
  constructor
  · intro σ τ υ host config cell last session t hSession first second text isTest u v
    rw [Session.extractSource, Session.extractSource, tags_of_withToolchain hSession]
    exact extract_agrees (.ofConfig config) text isTest _ _ u v
  · intro σ τ host other machine machine' args args' files testMode config config' hArgs
      hArgs' hGoos
      hGoarch hTags hFiles hQuiet
    exact runs_lookAlike hArgs hArgs' hGoos hGoarch hTags hFiles hQuiet

/-- A machine with one file, and with tools if there is a search path. -/
def shelfHost (path : Option String) : Host Unit where
  lookup _ name := if name = "PATH" then path else none
  isExecutable _ _ := true
  isPresent _ _ := false
  isDirectory _ _ := false
  readFile _ file :=
    if file = "a.go" then .ok [112, 97, 99, 107, 97, 103, 101, 32, 97, 10] else .error .notFound
  run _ t := (.error .notFound, t)

/-- The text of that file. -/
def shelfPieces : List Go.Plain.Piece := [.ofPackage ['a']]

local instance shelfParser : Go.Parser := Go.Plain.parserOf [shelfPieces]

/-- With tools and without, a file with a package clause and one that is not there are scanned
alike. -/
theorem extraction_ignores_toolchain_shelf :
    LookAlike (run (shelfHost (some "/bin")) ["scan", "a.go", "b.go"]) (.start ())
      (run (shelfHost none) ["scan", "a.go", "b.go"]) (.start ()) := by
  have hArgs (path : Option String) :
      ScansFor (shelfHost path) () ["scan", "a.go", "b.go"] ["a.go", "b.go"] false Config.host :=
    ⟨⟨⟨none, none, none, []⟩, false, .scan ["a.go", "b.go"] false⟩, rfl, rfl, rfl⟩
  have hText : "package a\n".toList = Go.Plain.rendered shelfPieces := rfl
  have hParse : Go.parse "package a\n".toList = Go.Plain.tree shelfPieces :=
    hText ▸ Go.Plain.parse_parserOf_self shelfPieces []
  have hScan : (scan (.ofConfig Config.host) "package a\n" false).1 = .ok ⟨"a", [], [], []⟩ := by
    rw [scan_of_accepted (by rw [hParse]; rfl), hParse]
    rfl
  refine extraction_ignores_toolchain.2 Unit Unit _ _ _ _ _ _ _ _ _ _ (hArgs _) (hArgs _) rfl
    rfl rfl
    (fun _ _ => rfl) fun path hPath text hText scanned hScanned => ?_
  rcases List.mem_cons.mp hPath with rfl | hPath
  · have hSame : text = "package a\n" := (Except.ok.inj hText).symm
    rw [hSame] at hScanned
    have hFacts := Except.ok.inj (hScan.symm.trans hScanned)
    rw [Scanned.AsksNothing, ← hFacts]
    exact List.forall_mem_nil _
  · rw [List.mem_singleton.mp hPath] at hText
    cases hText

end BuildScan
