import BuildScan.Arguments
import BuildScan.Exchange
import BuildScan.Session
import BuildScan.Text.Column

/-!
What the program does for each request and what it shows: results on its output, faults on its error
stream, and an exit code.
-/

namespace BuildScan

open BuildScan.Text BuildScan.Json

variable {σ : Type}

namespace CommandLine

/-- The name of the program in its messages. -/
def programName : String := "gbuild"

def version : String := "0.1.0"

/-- How the program is used. -/
def usage : String :=
  "usage: gbuild [--goos GOOS] [--goarch GOARCH] [--gobin DIR] [--tag TAG]... [-v] COMMAND\n" ++
  "  scan [--test] FILES...                     package, imports and build flags of sources\n" ++
  "  tools [--json]                             where the tools of the toolchain are\n" ++
  "  exec [--dir DIR] [--capture] COMMAND ARGS  runs a command\n"

/-- Shows a text. -/
def put (s : String) : Action σ Unit := Action.forward (bytesOf s) []

/-- Reports a text on the error stream. -/
def report (s : String) : Action σ Unit := Action.forward [] (bytesOf s)

/-- The description of one scanned file. -/
def document (file : String) (unit : SourceUnit) : String :=
  (Value.ofMembers (("file", .ofString file) :: unit.members)).render .pretty

/-- Shows the outcome for one file. -/
def showFile (file : String) : Except BuildError SourceUnit → Action σ Unit
  | .ok unit => put (document file unit ++ "\n")
  | .error e => report s!"{file}:{e.message}\n"

/-- The outcome is a failure. -/
def isFailure (outcome : Except BuildError SourceUnit) : Bool :=
  match outcome with
  | .ok _ => false
  | .error _ => true

/-- A session with the toolchain or, without one, for scanning alone. -/
def scanSession (host : Host σ) (config : Config) : Action σ Session := do
  let (session, _) ← Session.withToolchain host config none
  match session with
  | .ok session => return session
  | .error e =>
    Action.log .warn s!"Toolchain unavailable ({e.message}), using pkg-config from PATH"
    return Session.forScanning config

/-- Scans files and shows the outcome for each. -/
def scanFiles [Go.Parser] (host : Host σ) (config : Config) (files : List String)
    (testMode : Bool) :
    Action σ (Except String Unit) := do
  let session ← scanSession host config
  Action.log .info s!"Scanning {files.length} file(s)..."
  let outcomes ← session.extractFiles host files testMode
  outcomes.forM fun o => showFile o.1 o.2
  let failures := (outcomes.filter fun o => isFailure o.2).length
  return if failures = 0 then .ok () else .error s!"{failures} file(s) could not be scanned"

/-- The line of a tool in the list of tools. -/
def toolLine (b : ToolBinding) : String :=
  String.intercalate " " [if b.tool.isRequired then "*" else " ",
    padded .left 12 none b.tool.name, padded .left 12 none b.name, b.path.getD "not found"]

/-- Shows where the tools are. -/
def showTools (host : Host σ) (config : Config) (json : Bool) : Action σ (Except String Unit) := do
  Action.log .info s!"Discovering toolchain for {config.goos}/{config.goarch}..."
  let (toolchain, _) ← ToolchainCell.obtain host config none
  match toolchain with
  | .error e => return .error e.message
  | .ok t =>
    if json then put (t.toJson.render .pretty ++ "\n")
    else t.bindings.forM fun b => put (toolLine b ++ "\n")
    return .ok ()

/-- Runs a command; what it writes is passed on, or kept until it has succeeded. -/
def runCommand (host : Host σ) (inv : Invocation) (capture : Bool) :
    Action σ (Except String Unit) := do
  if capture then
    match ← inv.output host with
    | .error e => return .error e.message
    | .ok stdout =>
      Action.forward stdout []
      return .ok ()
  else
    match ← inv.run host with
    | .error e => return .error e.message
    | .ok _ => return .ok ()

/-- Does what is asked for. -/
def perform [Go.Parser] (host : Host σ) (config : Config) :
    Request → Action σ (Except String Unit)
  | .scan files testMode => scanFiles host config files testMode
  | .tools json => showTools host config json
  | .exec dir capture command args => runCommand host (Invocation.build command dir args) capture

/-- Runs the program with some arguments and gives its exit code. -/
def run [Go.Parser] (host : Host σ) (args : List String) : Action σ Nat := do
  match Arguments.ofList args with
  | .error .version =>
    put s!"{programName} {version}\n"
    return 0
  | .error .help =>
    put usage
    return 0
  | .error .misuse =>
    report usage
    return 2
  | .ok arguments =>
    let machine ← Action.machine
    let config := arguments.platform.config (host.lookup machine)
    match ← perform host config arguments.request with
    | .ok _ => return 0
    | .error message =>
      report s!"{programName}: {message}\n"
      return 1

end CommandLine

end BuildScan
