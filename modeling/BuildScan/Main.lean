import BuildScan.CommandLine
import BuildScan.Virtual.Machine

/-!
The program.  What a run may look at is read into a machine in memory first; the run itself is pure.
No process of the system is started: commands are carried out on that machine, by its own few
programs and its shell, so a run shows what it would show where these are all that there is.  What
is proved of runs is proved for every host; this one is there to have one that runs.
-/

namespace BuildScan

open BuildScan.Virtual

/-- The variables that the program looks at. -/
def relevantVariables : List String := ["PATH", "GOOS", "GOARCH", "GOBIN", "GOROOT"]

/-- The letters of all architectures. -/
def archLetters : List Char := ['5', '6', '7', '8']

/-- The names under which tools are looked for. -/
def toolNames : List String :=
  archLetters.flatMap fun arch => (Tool.required ++ Tool.optional).map fun t => t.binaryName arch

/-- The directories in which tools are looked for. -/
def toolDirs (args : List String) (lookup : String → Option String) : List String :=
  let onPath := ((lookup "PATH").map fun path => path.splitOn ":").getD []
  match Arguments.ofList args with
  | .ok a => onPath ++ (a.platform.config lookup).gobin.toList
  | .error _ => []

/-- Directories of the program's own arguments. -/
def namedDirs (args : List String) : List String :=
  match Arguments.ofList args with
  | .ok ⟨_, _, .exec (some dir) _ _ _⟩ => [dir]
  | _ => []

/-- The files that a run may look at. -/
def relevantFiles (args : List String) (lookup : String → Option String) : List String :=
  let dirs := toolDirs args lookup
  let tools := dirs.flatMap fun dir => toolNames.map fun name => Path.join dir name
  match Arguments.ofList args with
  | .ok ⟨_, _, .scan files _⟩ => files ++ tools
  | .ok ⟨_, _, .tools _⟩ => tools
  | .ok ⟨_, _, .exec dir _ command words⟩ =>
    let named := command :: splitArgs words
    named ++ (dir.toList.flatMap fun d => named.map fun n => Path.join d n) ++
      dirs.map fun d => Path.join d command
  | .error _ => []

/-- Copies a file into a machine, if it can be read. -/
def copyFile (m : Machine) (path : String) : IO Machine := do
  try
    let content ← IO.FS.readBinFile path
    return m.plant path (.file 0o755 content.toList)
  catch _ => return m

/-- Adds a directory to a machine, if there is one. -/
def copyDir (m : Machine) (path : String) : IO Machine := do
  try
    return if ← (← IO.FS.realPath path).isDir then m.plant path .directory else m
  catch _ => return m

/-- The machine that a run works on. -/
def snapshot (args : List String) : IO Machine := do
  let vars ← relevantVariables.filterMapM fun name => do
    return (← IO.getEnv name).map fun value => (name, value)
  let cwd := (Path.components (← IO.currentDir).toString).filter fun c => c != ""
  let m ← (namedDirs args).foldlM copyDir (Machine.fresh cwd vars)
  let files := relevantFiles args fun name => vars.lookup name
  files.foldlM copyFile m

/-- Events are shown if the arguments ask for them. -/
def showsLog (args : List String) : Bool :=
  match Arguments.ofList args with
  | .ok a => a.verbose
  | .error _ => false

end BuildScan

/-- Runs the program. -/
def main (args : List String) : IO UInt32 := do
  let machine ← BuildScan.snapshot args
  let (code, trace) : Nat × BuildScan.Trace BuildScan.Virtual.Machine :=
    StateT.run (BuildScan.CommandLine.run BuildScan.Virtual.Machine.host args)
      (BuildScan.Trace.start machine)
  if BuildScan.showsLog args then
    for event in trace.log do IO.eprintln event.line
  (← IO.getStdout).write (ByteArray.mk trace.stdout.toArray)
  (← IO.getStderr).write (ByteArray.mk trace.stderr.toArray)
  return UInt32.ofNat code
