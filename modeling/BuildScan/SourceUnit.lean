import BuildScan.Host
import BuildScan.Scan

/-!
What a build needs to know of one source file.  The directives of a scan give a target and flags;
the flags of a library are asked for, compiler flags of all libraries of a directive first, then
linker flags.  A question that fails is reported and gives nothing.
-/

namespace BuildScan

open BuildScan.Text

structure SourceUnit where
  package : String
  target : Option String
  /-- Import paths as written, quotes included. -/
  deps : List String
  /-- Functions of the top level, for test units. -/
  funcs : List String
  cflags : List String
  ldflags : List String
  deriving Repr, DecidableEq, Inhabited

/-- Which flags of a library are asked for. -/
inductive FlagMode where
  | cflags
  | libs
  deriving Repr, DecidableEq

/-- The option that asks for flags. -/
def FlagMode.option : FlagMode → String
  | cflags => "--cflags"
  | libs => "--libs"

/-- Something that knows the flags of libraries. -/
structure FlagSource (σ : Type) where
  ask : FlagMode → String → Action σ (Except BuildError String)

namespace FlagSource

/-- Knows no library. -/
def none {σ : Type} : FlagSource σ where
  ask _ library :=
    pure (.error (.toolNotFound "pkg-config" s!"no resolver configured for '{library}'"))

/-- Knows what a table says, and notes each question. -/
def ofTable (table : FlagMode → String → Option String) :
    FlagSource (List (FlagMode × String)) where
  ask mode library := do
    modify fun t => { t with machine := t.machine ++ [(mode, library)] }
    match table mode library with
    | some flags => return .ok flags
    | Option.none => return .error (.subprocess "pkg-config" [mode.option, library] "exit status: 1"
        s!"Package {library} was not found")

end FlagSource

/-- A list without repetitions: the first of equal entries stays. -/
def unique : List String → List String
  | [] => []
  | x :: xs => x :: (unique xs).filter (· != x)

/-- What directives set. -/
structure Settings where
  target : Option String
  cflags : List String
  ldflags : List String
  deriving Repr, DecidableEq

namespace Settings

def none : Settings := ⟨.none, [], []⟩

/-- The later target counts, and flags add up. -/
def append (a b : Settings) : Settings :=
  ⟨b.target.or a.target, a.cflags ++ b.cflags, a.ldflags ++ b.ldflags⟩

instance : Append Settings := ⟨append⟩

end Settings

variable {σ : Type}

/-- The flags of some libraries. -/
def FlagSource.flags (source : FlagSource σ) (mode : FlagMode) :
    List String → Action σ (List String)
  | [] => pure []
  | library :: rest => do
    match ← source.ask mode library with
    | .ok flags => return flags :: (← source.flags mode rest)
    | .error e =>
      Action.log .warn ("pkg-config err: " ++ e.message)
      source.flags mode rest

/-- What one directive sets. -/
def Directive.settings (source : FlagSource σ) (d : Directive) : Action σ Settings :=
  match d.kind with
  | .target => pure ⟨some d.payload, [], []⟩
  | .compileFlags => pure ⟨none, [d.payload], []⟩
  | .linkFlags => pure ⟨none, [], [d.payload]⟩
  | .pkgConfig => do
    let cflags ← source.flags .cflags d.libraries
    let ldflags ← source.flags .libs d.libraries
    return ⟨none, cflags, ldflags⟩

/-- What some directives set. -/
def settingsOf (source : FlagSource σ) : List Directive → Action σ Settings
  | [] => pure .none
  | d :: ds => do
    let first ← d.settings source
    let rest ← settingsOf source ds
    return first ++ rest

/-- Applies the directives of a scan. -/
def Scanned.resolve (source : FlagSource σ) (scanned : Scanned) : Action σ SourceUnit := do
  let settings ← settingsOf source scanned.directives
  return {
    package := scanned.package
    target := settings.target
    deps := scanned.deps
    funcs := scanned.funcs
    cflags := unique settings.cflags
    ldflags := unique settings.ldflags }

/-- Scans a source and applies its directives. -/
def extract [Go.Parser] (tags : BuildTags) (source : String) (isTest : Bool)
    (flags : FlagSource σ) :
    Action σ (Except BuildError SourceUnit) := do
  let (scanned, log) := scan tags source isTest
  Action.emit log
  match scanned with
  | .ok s => return .ok (← s.resolve flags)
  | .error e => return .error e

/-- The file is a test unit by its name. -/
def isTestFile (path : String) : Bool :=
  (Path.fileName? path).any fun name => name.endsWith "_test.go"

/-- Reads a file as text. -/
def readText (host : Host σ) (machine : σ) (path : String) : Except BuildError String :=
  match host.readFile machine path with
  | .error e => .error (.io e.message)
  | .ok bytes =>
    match decode bytes with
    | .ok text => .ok text
    | .error _ => .error (.io OsError.notText.message)

/-- Reads and extracts one file; it is a test unit if tests are wanted and its name says so. -/
def extractFile [Go.Parser] (host : Host σ) (tags : BuildTags) (path : String) (testMode : Bool)
    (flags : FlagSource σ) : Action σ (Except BuildError SourceUnit) := do
  match readText host (← Action.machine) path with
  | .error e => return .error e
  | .ok source =>
    let isTest := testMode && isTestFile path
    Action.log .debug s!"Scanning {path} (test: {isTest})"
    extract tags source isTest flags

end BuildScan
