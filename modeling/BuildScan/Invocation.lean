import BuildScan.Host
import BuildScan.Error
import BuildScan.Text.Blank

/-!
Running external commands.  Each argument is split at its blanks, so that one argument may carry a
whole text of flags.  However a command is run, its endings are classified alike: it could not be
started, it did not succeed, or it did.
-/

namespace BuildScan

open BuildScan.Text

/-- The words of some arguments. -/
def splitArgs (args : List String) : List String := args.flatMap wordsOf

/-- A command that is being put together. -/
structure Invocation where
  program : String
  workingDir : Option String
  argv : List String
  deriving Repr, DecidableEq

namespace Invocation

def new (program : String) : Invocation := ⟨program, none, []⟩

/-- Runs in a directory; the last one given counts. -/
def inDirectory (inv : Invocation) (dir : String) : Invocation :=
  { inv with workingDir := some dir }

/-- Adds the words of some arguments. -/
def withArgs (inv : Invocation) (args : List String) : Invocation :=
  { inv with argv := inv.argv ++ splitArgs args }

/-- A command with its arguments and perhaps a directory. -/
def build (program : String) (dir : Option String) (args : List String) : Invocation :=
  let inv := (new program).withArgs args
  match dir with
  | some d => inv.inDirectory d
  | none => inv

/-- The command as it is shown. -/
def commandLine (inv : Invocation) : String := String.intercalate " " (inv.program :: inv.argv)

def command (inv : Invocation) : Command := ⟨inv.program, inv.argv, inv.workingDir⟩

variable {σ : Type}

/-- The error for a command that could not be started in the given state of the machine. -/
def startError (host : Host σ) (inv : Invocation) (machine : σ) (e : OsError) : BuildError :=
  let reason := match inv.workingDir with
    | some dir =>
      if host.isDirectory machine dir then s!"failed to start: {e.message}"
      else s!"failed to start in working directory '{dir}': {e.message}"
    | none => s!"failed to start: {e.message}"
  .toolNotFound inv.program reason

/-- The verdict on a process that ended. -/
def verdict (inv : Invocation) (ending : Ending) (stderr : String) : Except BuildError Unit :=
  if ending.isSuccess then .ok ()
  else .error (.subprocess inv.program inv.argv ending.message stderr)

/-- Starts the command and waits for its end. -/
def launch (host : Host σ) (inv : Invocation) : Action σ (Except BuildError Outcome) := do
  Action.log .debug inv.commandLine
  match ← Action.run host inv.command with
  | .ok outcome => return .ok outcome
  | .error e => return .error (inv.startError host (← Action.machine) e)

/-- Runs the command with its errors on the program's own stream; the answer comes with its
output. -/
def runDump (host : Host σ) (inv : Invocation) : Action σ (Except BuildError Unit × Bytes) := do
  match ← inv.launch host with
  | .error e => return (.error e, [])
  | .ok outcome =>
    Action.forward [] outcome.stderr
    return (inv.verdict outcome.ending "", outcome.stdout)

/-- Runs the command with both streams on the program's own. -/
def run (host : Host σ) (inv : Invocation) : Action σ (Except BuildError Unit) := do
  let (result, stdout) ← inv.runDump host
  Action.forward stdout []
  return result

/-- Runs the command and keeps what it writes: its output if it succeeds, its errors if not. -/
def output (host : Host σ) (inv : Invocation) : Action σ (Except BuildError Bytes) := do
  match ← inv.launch host with
  | .error e => return .error e
  | .ok outcome =>
    return (inv.verdict outcome.ending (decodeLossy outcome.stderr)).map fun _ => outcome.stdout

end Invocation

end BuildScan
