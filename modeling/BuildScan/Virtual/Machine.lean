import BuildScan.Go.Reader
import BuildScan.Virtual.Shell.Running

/-!
A machine in memory.  It has a tree of files, a working directory and variables, and it runs
commands: small programs of its own and scripts of the shell.  Sources on it are read by the
grammar.

The machine is one instance of `Host`, made so that the program can be run and tried without a
system beneath it.  It takes no part in the theory, which is about all hosts.
-/

namespace BuildScan.Virtual

open BuildScan.Text BuildScan.Virtual.Shell

structure Machine where
  files : Files
  cwd : Place
  vars : List (String × String)

namespace Machine

/-- The directories with programs, in the order in which they are searched by default. -/
def programDirs : List Place := [["bin"], ["usr", "bin"]]

/-- The programs and their names. -/
def programs : List (String × Program) :=
  [("sh", .shell), ("echo", .echo), ("cat", .cat), ("true", .succeed), ("false", .fail)]

/-- The files that stand for no data of their own. -/
def devices : List (String × Entry) :=
  [("null", .void), ("stdin", .stream 0), ("stdout", .stream 1), ("stderr", .stream 2)]

/-- The directories that every machine has. -/
def usualDirs : List Place :=
  [["etc"], ["home"], ["opt"], ["root"], ["sbin"], ["tmp"], ["usr", "include"], ["usr", "lib"],
   ["usr", "local", "bin"], ["usr", "sbin"], ["usr", "share"], ["var", "tmp"]]

/-- A tree with the programs and nothing else. -/
def baseFiles : Files :=
  let devices := devices.map fun d => (["dev", d.1], d.2)
  let programs := programDirs.flatMap fun dir =>
    programs.map fun p => (dir ++ [p.1], Entry.program p.2)
  let directories := usualDirs.map fun dir => (dir, Entry.directory)
  (devices ++ programs ++ directories).foldl (fun files p => files.plant p.1 p.2) Files.empty

/-- A machine with the programs and an empty working directory. -/
def fresh (cwd : Place) (vars : List (String × String)) : Machine :=
  ⟨(baseFiles.withParents cwd).put cwd .directory, cwd, vars⟩

/-- The place of a path, without regard to links. -/
def placeOf (m : Machine) (path : String) : Place :=
  Files.origin m.cwd path ++ (Path.components path).filter fun c => c != "" && c != "."

/-- Puts an entry at a path. -/
def plant (m : Machine) (path : String) (entry : Entry) : Machine :=
  { m with files := m.files.plant (m.placeOf path) entry }

/-- The bytes of a file, if it can be read. -/
def contents? (m : Machine) (path : String) : Option Bytes := (m.files.read m.cwd path).toOption

/-- Where the system looks for commands if no variable says so. -/
def defaultPath : String := "/bin:/usr/bin"

/-- What the command is started as, in the directory where it runs. -/
def imageOf (m : Machine) (cwd : Place) (command : Command) : Except OsError Image := do
  let path ←
    if command.program.isEmpty then .error .notFound
    else if command.program.contains '/' then .ok command.program
    else search m.files cwd ((m.vars.lookup "PATH").getD defaultPath) command.program
  image m.files cwd maxInterpreters (octetsOf path) (octetsOf command.program)
    (command.args.map octetsOf)

/-- The directory where a command runs. -/
def directoryOf (m : Machine) (command : Command) : Except OsError Place :=
  match command.workingDir with
  | none => .ok m.cwd
  | some dir =>
    match m.files.find m.cwd dir with
    | .ok (place, .directory) => .ok place
    | .ok _ => .error .notADirectory
    | .error e => .error e

/-- A command holds a character that cannot be handed to the system. -/
def holdsNul (command : Command) : Bool :=
  (command.program :: command.args ++ command.workingDir.toList).any fun s =>
    s.toList.contains '\x00'

/-- The number of the process that commands are run by. -/
def ownProcess : Nat := 1000

/-- The bits that new files do not get. -/
def defaultMask : Nat := 0o022

/-- The process of an image, whose first three descriptors lead to the streams of the same
numbers. -/
def processOf (m : Machine) (cwd : Place) (i : Image) : Process :=
  { number := ownProcess + 1
    parent := ownProcess
    shell := ownProcess + 1
    name := i.name
    args := i.args
    vars := .ofEnvironment (m.vars.map fun v => (octetsOf v.1, octetsOf v.2))
    functions := []
    aliases := []
    cwd := cwd
    way := cwd
    descriptors := [(0, 0), (1, 1), (2, 2)]
    options := []
    status := 0
    outputStatus := 0
    line := 0
    nextLine := 1
    isTracing := false
    command := none
    buffered := []
    loops := 0
    traps := []
    arrived := []
    hidden := []
    optionIndex := 1
    optionOffset := none
    mask := defaultMask
    background := none
    jobs := []
    found := []
    documents := []
    nextDocument := 0
    finalStatus := none }

/-- What the processes of a command share at its beginning: the input is empty, and the output is
kept. -/
def worldOf (m : Machine) : World :=
  { files := m.files
    streams := #[.source [], .sink [], .sink []]
    nextProcess := ownProcess + 2
    signals := []
    waiting := [] }

/-- Runs a program to its end. -/
def runImage (m : Machine) (cwd : Place) (i : Image) : Outcome × Machine :=
  let runs := Shell.run maxDepth
  let act : Run (Ending × Bytes × Bytes) := do
    let ending ← endingOf runs (Shell.runImage runs i)
    return (ending, ← writtenOn 1, ← writtenOn 2)
  match act.run ⟨m.worldOf, m.processOf cwd i⟩ with
  | (.ok (ending, out, messages), s) => (⟨ending, out, messages⟩, { m with files := s.world.files })
  | (.error _, s) => (⟨.exited s.process.status, [], []⟩, { m with files := s.world.files })

/-- Runs a command, unless it cannot be started. -/
def run (command : Command) (m : Machine) : Except OsError Outcome × Machine :=
  if holdsNul command then (.error .nulInArgument, m)
  else
    match do let cwd ← m.directoryOf command; return (cwd, ← m.imageOf cwd command) with
    | .error e => (.error e, m)
    | .ok (cwd, i) =>
      let (outcome, m) := m.runImage cwd i
      (.ok outcome, m)

/-- Machines in memory as hosts. -/
def host : Host Machine where
  lookup m key := m.vars.lookup key
  isExecutable m path := m.files.isExecutable m.cwd path
  isPresent m path := m.files.isPresent m.cwd path
  isDirectory m path := m.files.isDirectory m.cwd path
  readFile m path := m.files.read m.cwd path
  run := run

end Machine

/-- The parser of a program that runs. -/
instance parser : Go.Parser := Go.reader

end BuildScan.Virtual
