import BuildScan.PkgConfig

/-!
A session extracts files and runs tools for one configuration.  For scanning alone it needs no
toolchain; with one, libraries are looked up by the command that the toolchain found.
-/

namespace BuildScan

structure Session where
  tags : BuildTags
  found : Option Toolchain
  pkgConfig : PkgConfig
  deriving Repr, DecidableEq

namespace Session

/-- A session that extracts only. -/
def forScanning (config : Config) : Session := ⟨BuildTags.ofConfig config, none, .unlocated⟩

variable {σ : Type}

/-- A session with the toolchain of the process, which the first such session discovers. -/
def withToolchain (host : Host σ) (config : Config) (cell : ToolchainCell) :
    Action σ (Except BuildError Session × ToolchainCell) := do
  let (outcome, cell) ← cell.obtain host config
  return (outcome.map fun t => ⟨BuildTags.ofConfig config, some t, PkgConfig.ofToolchain t⟩, cell)

def toolchain (s : Session) : Except BuildError Toolchain :=
  match s.found with
  | some t => .ok t
  | none => .error (.toolNotFound "toolchain" "tool discovery was not run")

def extractSource [Go.Parser] (host : Host σ) (s : Session) (source : String) (isTest : Bool) :
    Action σ (Except BuildError SourceUnit) :=
  extract s.tags source isTest (s.pkgConfig.flagSource host)

def extractFile [Go.Parser] (host : Host σ) (s : Session) (path : String) (testMode : Bool) :
    Action σ (Except BuildError SourceUnit) :=
  BuildScan.extractFile host s.tags path testMode (s.pkgConfig.flagSource host)

/-- Extracts some files, each with its own outcome, in the order given. -/
def extractFiles [Go.Parser] (host : Host σ) (s : Session) (paths : List String) (testMode : Bool) :
    Action σ (List (String × Except BuildError SourceUnit)) :=
  paths.mapM fun path => do return (path, ← s.extractFile host path testMode)

/-- Runs a tool that was found. -/
def runTool (host : Host σ) (s : Session) (tool : Tool) (dir : Option String) (args : List String) :
    Action σ (Except BuildError Unit) :=
  match s.toolchain.bind fun t => t.path tool with
  | .error e => pure (.error e)
  | .ok path => (Invocation.build path dir args).run host

end Session

end BuildScan
