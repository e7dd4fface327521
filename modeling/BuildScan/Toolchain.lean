import BuildScan.Tool
import BuildScan.Config
import BuildScan.Host

/-!
Where the tools are.  Each is looked for on the search path and then, unless it is a tool of the
host, in the tool directory.  A discovery looks for all of them once: a required tool that is
missing ends it, and an optional one stays without a path.
-/

namespace BuildScan

/-- A tool, the name of its executable, and where that was found. -/
structure ToolBinding where
  tool : Tool
  name : String
  path : Option String
  deriving Repr, DecidableEq

def ToolBinding.isFound (b : ToolBinding) : Bool := b.path.isSome

/-- What has to be known of files to look for tools. -/
structure FileProbe where
  isExecutable : String → Bool
  isPresent : String → Bool

/-- The files of a machine in a state. -/
def Host.probe {σ : Type} (host : Host σ) (machine : σ) : FileProbe :=
  ⟨host.isExecutable machine, host.isPresent machine⟩

/-- Where to look for executables. -/
structure Locator where
  searchPath : List String
  gobin : Option String
  deriving Repr, DecidableEq, Inhabited

namespace Locator

/-- The search path of a machine and the configured tool directory. -/
def ofHost {σ : Type} (host : Host σ) (machine : σ) (config : Config) : Locator :=
  ⟨((host.lookup machine "PATH").map fun path => path.splitOn ":").getD [], config.gobin⟩

/-- The first executable of a name on the search path. -/
def onPath? (locator : Locator) (files : FileProbe) (name : String) : Option String :=
  (locator.searchPath.map fun dir => Path.join dir name).find? files.isExecutable

/-- What is there under a name in the tool directory. -/
def inGobin? (locator : Locator) (files : FileProbe) (name : String) : Option String :=
  (locator.gobin.map fun dir => Path.join dir name).filter files.isPresent

/-- The path of a tool. -/
def find (locator : Locator) (files : FileProbe) (tool : Tool) (name : String) :
    Except BuildError String :=
  let found := (locator.onPath? files name).or
    (if tool.searchesGobin then locator.inGobin? files name else none)
  match found with
  | some path => .ok path
  | none => .error (.toolNotFound name "not found in PATH or tool directory")

end Locator

/-- The tools that a discovery bound. -/
structure Toolchain where
  bindings : List ToolBinding
  deriving Repr, DecidableEq, Inhabited

namespace Toolchain

/-- A toolchain without tools. -/
def empty : Toolchain := ⟨[]⟩

/-- A toolchain of known paths; tools that are not listed are not found. -/
def ofPaths (paths : List (Tool × String)) : Toolchain :=
  ⟨paths.map fun p => ⟨p.1, (Path.fileName? p.2).getD "", some p.2⟩⟩

/-- Looks for the tools of a list that must all be there. -/
def bindRequired (locator : Locator) (files : FileProbe) (arch : Char) :
    List Tool → Except BuildError (List ToolBinding) × Log
  | [] => (.ok [], [])
  | tool :: rest =>
    let name := tool.binaryName arch
    match locator.find files tool name with
    | .ok path =>
      let (others, log) := bindRequired locator files arch rest
      (others.map (⟨tool, name, some path⟩ :: ·), ⟨.debug, s!"Found {tool.name} at {path}"⟩ :: log)
    | .error e => (.error e, [⟨.error, s!"Could not find '{name}' in path"⟩])

/-- Looks for a tool that may be missing. -/
def bindOptional (locator : Locator) (files : FileProbe) (arch : Char) (tool : Tool) :
    ToolBinding × LogEvent :=
  let name := tool.binaryName arch
  match locator.find files tool name with
  | .ok path => (⟨tool, name, some path⟩, ⟨.debug, s!"Found {tool.name} at {path}"⟩)
  | .error _ => (⟨tool, name, none⟩, ⟨.warn, s!"Could not find '{name}' in path"⟩)

/-- Looks for all tools of the configured architecture. -/
def discover (config : Config) (locator : Locator) (files : FileProbe) :
    Except BuildError Toolchain × Log :=
  match config.archLetter with
  | .error e => (.error e, [])
  | .ok arch =>
    match bindRequired locator files arch Tool.required with
    | (.error e, log) => (.error e, log)
    | (.ok required, log) =>
      let optional := Tool.optional.map (bindOptional locator files arch)
      (.ok ⟨required ++ optional.map Prod.fst⟩, log ++ optional.map Prod.snd)

def binding? (t : Toolchain) (tool : Tool) : Option ToolBinding :=
  t.bindings.find? fun b => b.tool = tool

/-- The path of a tool that was found. -/
def path (t : Toolchain) (tool : Tool) : Except BuildError String :=
  match (t.binding? tool).bind ToolBinding.path with
  | some path => .ok path
  | none =>
    .error
      (.toolNotFound (((t.binding? tool).map ToolBinding.name).getD tool.name) "not discovered")

end Toolchain

/-- The outcome of the one discovery of a process, failures included, once there is one. -/
abbrev ToolchainCell := Option (Except BuildError Toolchain)

namespace ToolchainCell

/-- The error that a later caller gets for a failed discovery. -/
def replayed : BuildError → BuildError
  | .toolNotFound tool reason => .toolNotFound tool reason
  | .config message => .config message
  | other => .config ("tool discovery failed: " ++ other.message)

/-- What callers get of an outcome. -/
def answer (outcome : Except BuildError Toolchain) : Except BuildError Toolchain :=
  match outcome with
  | .ok t => .ok t
  | .error e => .error (replayed e)

/-- The stored outcome; an empty cell is filled by a discovery first. -/
def obtain {σ : Type} (host : Host σ) (config : Config) (cell : ToolchainCell) :
    Action σ (Except BuildError Toolchain × ToolchainCell) := do
  match cell with
  | some outcome => return (answer outcome, cell)
  | none =>
    let machine ← Action.machine
    let (outcome, log) :=
      Toolchain.discover config (Locator.ofHost host machine config) (host.probe machine)
    Action.emit log
    return (answer outcome, some outcome)

/-- Stores an outcome in an empty cell; a full one rejects it. -/
def set (outcome : Except BuildError Toolchain) (cell : ToolchainCell) :
    Except (Except BuildError Toolchain) Unit × ToolchainCell :=
  match cell with
  | none => (.ok (), some outcome)
  | some stored => (.error outcome, some stored)

/-- Stores a toolchain in an empty cell; a full one gives it back.  An outcome that is rejected
could be a failure, for which there is no toolchain to give back but one without tools. -/
def install (t : Toolchain) (cell : ToolchainCell) : Except Toolchain Unit × ToolchainCell :=
  let (stored, cell) := cell.set (.ok t)
  (stored.mapError fun rejected => rejected.toOption.getD .empty, cell)

/-- The stored toolchain, if there is one. -/
def installed? : ToolchainCell → Option Toolchain
  | some (.ok t) => some t
  | _ => none

end ToolchainCell

end BuildScan
