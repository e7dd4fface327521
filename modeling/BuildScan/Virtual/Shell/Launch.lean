import BuildScan.Virtual.Shell.Builtin
import BuildScan.Virtual.Shell.Lines
import BuildScan.Virtual.Shell.Redirection

/-!
Starting programs.  A program takes the place of the process that starts it: streams, working
directory and exported variables stay, everything else is as at the beginning.  A file that is
executable and no program is a script of the shell.
-/

namespace BuildScan.Virtual.Shell

open BuildScan.Text

/-! ### The process at its beginning -/

namespace Variables

/-- Puts a value into a variable and leaves it exported if it is. -/
def preset (vars : Variables) (name value : Octets) : Variables :=
  vars.put name ⟨some value, ((vars.find? name).map Variable.isExported).getD false, false⟩

/-- Puts a value into a variable that has none. -/
def suggest (vars : Variables) (name value : Octets) : Variables :=
  if (vars.find? name).isSome then vars else vars.preset name value

/-- The variables of a shell that finds some in its environment. -/
def atStart (environment : List (Octets × Octets)) (parent : Nat) (directory : Octets) :
    Variables :=
  let given := ofEnvironment (environment.filter fun e => isName e.1)
  let own := (given.preset (octetsOf "IFS") defaultSeparators).preset optionIndexName ['1']
  let own := (own.preset (octetsOf "PPID") (decimal parent)).suggest (octetsOf "PATH") usualPath
  let own := (own.suggest (octetsOf "PS1") (octetsOf "# ")).suggest (octetsOf "PS2") (octetsOf "> ")
  (own.suggest (octetsOf "PS4") (octetsOf "+ ")).put (octetsOf "PWD") ⟨some directory, true, false⟩

end Variables

/-- The process as a program that starts in it finds it. -/
def Process.anew (p : Process) (name : Octets) (args : List Octets) : Process :=
  { p with
    shell := p.number
    name := name
    args := args
    vars := .ofEnvironment p.vars.environment
    functions := []
    aliases := []
    way := p.cwd
    options := []
    status := 0
    outputStatus := 0
    line := 0
    nextLine := 1
    isTracing := false
    command := none
    buffered := []
    loops := 0
    traps := p.traps.filter fun t => t.2.isEmpty
    arrived := []
    hidden := []
    optionIndex := 1
    optionOffset := none
    background := none
    jobs := []
    found := []
    documents := []
    nextDocument := 0
    finalStatus := none }

/-- The names on the way to the working directory that a shell begins with: those of the variable
for it, if they lead there. -/
def wayAtStart (s : State) : List String :=
  let p := s.process
  match p.vars.value? (octetsOf "PWD") with
  | some ('/' :: rest) =>
    match s.world.files.find p.cwd (pathOf ('/' :: rest)) with
    | .ok (place, _) => if place = p.cwd then (rest.splitOnP (· == '/')).map string else p.cwd
    | .error _ => p.cwd
  | _ => p.cwd

/-! ### The shell -/

/-- The descriptor that a script is read from. -/
def scriptDescriptor : Nat := 10

/-- The text of a script in a file. -/
def readScript (path : Octets) : Run Octets := do
  lead scriptDescriptor (some (← openFile .read path))
  let content := ((← readAll scriptDescriptor).toOption).getD []
  lead scriptDescriptor none
  return withoutNuls (octets content)

/-- Runs the script that the input is. -/
def runInput (runs : Runner) : Run Unit := do
  let content := ((← readAll 0).toOption).getD []
  runText runs .plain true (withoutNuls (octets content))

/-- Runs what the arguments of a shell ask for: a script that is an argument, one in a file, or the
input. -/
def runArguments (runs : Runner) (args : List Octets) : Run Unit := do
  let given ← Options.read true args
  if given.hasScript then
    match given.rest with
    | [] => fail (octetsOf "-c requires an argument")
    | text :: rest =>
      changeProcess fun p => { p with name := rest.headD p.name, args := rest.tail }
      runText runs .plain false text
      if ← isOn 's' then runInput runs
  else
    if given.rest.isEmpty then Options.switch 's' true
    if ← isOn 's' then
      changeProcess fun p => { p with args := given.rest }
      runInput runs
    else
      let path := given.rest.headD []
      let text ← readScript path
      changeProcess fun p => { p with name := path, args := given.rest.tail }
      runText runs .plain true text

/-- Runs the shell to its end. -/
def runShell (runs : Runner) (args : List Octets) : Run Unit := do
  let way := wayAtStart (← get)
  changeProcess fun p => { p with
    way := way
    args := []
    vars := .atStart p.vars.environment p.parent (Builtin.wayText way) }
  finish runs (← outcomeOf (runArguments runs args))

/-! ### Programs -/

/-- Runs a program in the stead of this process, to its end. -/
def runImage (runs : Runner) (i : Image) : Run Unit := do
  changeProcess fun p => p.anew i.name i.args
  match i.program with
  | .succeed => setStatus 0
  | .fail => setStatus 1
  | .echo => runEcho i.args
  | .cat => runCat i.args
  | .shell => runShell runs i.args

/-- The shell as other programs start it. -/
def shellPath : Octets := octetsOf "/bin/sh"

/-- What the first of some paths starts that starts anything.  An error that says more than that
nothing is there is kept. -/
def imageAmong (s : State) (name : Octets) (args : List Octets) :
    OsError → List Octets → Except OsError Image
  | e, [] => .error e
  | e, path :: rest =>
    match image s.world.files s.process.cwd maxInterpreters path name args with
    | .ok i => .ok i
    | .error other =>
      if other = .badFormat then .ok ⟨.shell, shellPath, path :: args⟩
      else imageAmong s name args (if other.isAbsence then e else other) rest

/-- The status of a shell that cannot start a program. -/
def failureStatus (e : OsError) : Nat :=
  if e.isAbsence || e = .nameTooLong || e = .tooManyLinks then 127 else 126

/-- Ends this process in favour of a program that one of some paths leads to. -/
def launch (runs : Runner) (paths : List Octets) (name : Octets) (args : List Octets) :
    Run Unit := do
  match imageAmong (← get) name args .notFound paths with
  | .ok i => runImage runs i
  | .error e =>
    complain (name ++ octetsOf ": " ++ Builtin.startReason e)
    setStatus (failureStatus e)
  throw .done

end BuildScan.Virtual.Shell
