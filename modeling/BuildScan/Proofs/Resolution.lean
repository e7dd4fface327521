import BuildScan.Proofs.Action
import BuildScan.SourceUnit

/-!
# Resolving by answers

A source of flags that answers each question in one way, whatever the state of the machine, is as
good as a table of answers.  What a file resolves to by such a source is then a plain function of
its facts (`Scanned.resolveBy`): `resolve_result` says so for every source that gives these answers.
-/

namespace BuildScan

open BuildScan.Text

variable {σ : Type}

/-- An answer to each question. -/
abbrev Answers := FlagMode → String → Except BuildError String

/-- The source gives these answers in every state of the machine. -/
def FlagSource.Gives (source : FlagSource σ) (answers : Answers) : Prop :=
  ∀ mode library t, (source.ask mode library).result t = answers mode library

/-- The answers do not depend on the state of the machine. -/
def FlagSource.Stateless (source : FlagSource σ) : Prop := ∃ answers, source.Gives answers

/-- The flags of some libraries by some answers; a question that fails gives none. -/
def flagsBy (answers : Answers) (mode : FlagMode) (libraries : List String) : List String :=
  libraries.filterMap fun library => (answers mode library).toOption

/-- What one directive sets by some answers. -/
def Directive.settingsBy (answers : Answers) (d : Directive) : Settings :=
  match d.kind with
  | .target => ⟨some d.payload, [], []⟩
  | .compileFlags => ⟨none, [d.payload], []⟩
  | .linkFlags => ⟨none, [], [d.payload]⟩
  | .pkgConfig => ⟨none, flagsBy answers .cflags d.libraries, flagsBy answers .libs d.libraries⟩

/-- What some directives set by some answers. -/
def settingsBy (answers : Answers) : List Directive → Settings
  | [] => .none
  | d :: ds => d.settingsBy answers ++ settingsBy answers ds

/-- What a scan resolves to by some answers. -/
def Scanned.resolveBy (answers : Answers) (scanned : Scanned) : SourceUnit :=
  let settings := settingsBy answers scanned.directives
  { package := scanned.package
    target := settings.target
    deps := scanned.deps
    funcs := scanned.funcs
    cflags := unique settings.cflags
    ldflags := unique settings.ldflags }

variable {source : FlagSource σ} {answers : Answers}

theorem flags_result (h : source.Gives answers) (mode : FlagMode) (libraries : List String)
    (t : Trace σ) : (source.flags mode libraries).result t = flagsBy answers mode libraries := by
  induction libraries generalizing t with
  | nil => rfl
  | cons library rest ih =>
    rw [FlagSource.flags, Action.result_bind, h, flagsBy, List.filterMap_cons]
    cases answers mode library with
    | ok flags =>
      rw [Action.result_bind, ih]
      rfl
    | error e =>
      rw [Action.result_bind, ih]
      rfl

theorem settings_result (h : source.Gives answers) (d : Directive) (t : Trace σ) :
    (d.settings source).result t = d.settingsBy answers := by
  rw [Directive.settings, Directive.settingsBy]
  cases d.kind with
  | target => rfl
  | compileFlags => rfl
  | linkFlags => rfl
  | pkgConfig =>
    simp only [Action.result_bind, Action.result_pure]
    rw [flags_result h, flags_result h]

theorem settingsOf_result (h : source.Gives answers) (ds : List Directive) (t : Trace σ) :
    (settingsOf source ds).result t = settingsBy answers ds := by
  induction ds generalizing t with
  | nil => rfl
  | cons d ds ih =>
    rw [settingsOf, Action.result_bind, Action.result_bind, Action.result_pure, settings_result h,
      ih, settingsBy]

/-- A source that gives these answers resolves a scan by them. -/
theorem resolve_result (h : source.Gives answers) (scanned : Scanned) (t : Trace σ) :
    (scanned.resolve source).result t = scanned.resolveBy answers := by
  rw [Scanned.resolve, Action.result_bind, Action.result_pure, settingsOf_result h]
  rfl

/-- What a file gives by some answers. -/
def extractBy [Go.Parser] (answers : Answers) (tags : BuildTags) (text : String) (isTest : Bool) :
    Except BuildError SourceUnit :=
  (scan tags text isTest).1.map (Scanned.resolveBy answers)

theorem extract_result [Go.Parser] (h : source.Gives answers) (tags : BuildTags) (text : String)
    (isTest : Bool) (t : Trace σ) :
    (extract tags text isTest source).result t = extractBy answers tags text isTest := by
  rw [extract, extractBy]
  cases hScan : scan tags text isTest with
  | mk outcome log =>
    cases outcome with
    | error e => rfl
    | ok scanned => exact congrArg Except.ok (resolve_result h scanned _)

theorem extractFile_result [Go.Parser] (h : source.Gives answers) (host : Host σ) (tags : BuildTags)
    (path : String) (testMode : Bool) (t : Trace σ) :
    (extractFile host tags path testMode source).result t =
      (readText host t.machine path).bind fun text =>
        extractBy answers tags text (testMode && isTestFile path) := by
  rw [extractFile, Action.result_bind, Action.result_machine]
  cases readText host t.machine path with
  | error e => rfl
  | ok text => exact extract_result h tags text _ _

/-- The outcome for a file by some answers. -/
def outcomeBy [Go.Parser] (answers : Answers) (host : Host σ) (machine : σ) (tags : BuildTags)
    (testMode : Bool) (path : String) : Except BuildError SourceUnit :=
  (readText host machine path).bind fun text =>
    extractBy answers tags text (testMode && isTestFile path)

theorem readText_congr {τ : Type} {host : Host σ} {other : Host τ} {machine : σ} {machine' : τ}
    {path : String} (h : host.readFile machine path = other.readFile machine' path) :
    readText host machine path = readText other machine' path := by
  rw [readText, readText, h]

end BuildScan
