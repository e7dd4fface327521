import BuildScan.Log
import BuildScan.Text.Utf8

/-!
What the program needs of the machine that it runs on: variables, files, and commands to run.  The
machine is a parameter: `σ` is its state, which a command may change, and a `Host σ` says what each
request answers in a state.  An operation that uses a machine is an `Action`, which besides the
machine carries the log and what commands write to the program's own streams.
-/

namespace BuildScan

open BuildScan.Text

/-- Why a request fails: a text and, if the system itself refuses, the number of the error. -/
structure OsError where
  text : String
  code : Option Nat
  deriving Repr, DecidableEq

namespace OsError

def message (e : OsError) : String :=
  match e.code with
  | some code => s!"{e.text} (os error {code})"
  | none => e.text

/-! The errors that this development names.  A host may answer with any other. -/

def notFound : OsError := ⟨"No such file or directory", some 2⟩

def permissionDenied : OsError := ⟨"Permission denied", some 13⟩

def notADirectory : OsError := ⟨"Not a directory", some 20⟩

def isADirectory : OsError := ⟨"Is a directory", some 21⟩

def nameTooLong : OsError := ⟨"File name too long", some 36⟩

def tooManyLinks : OsError := ⟨"Too many levels of symbolic links", some 40⟩

/-- The file is executable and no program. -/
def badFormat : OsError := ⟨"Exec format error", some 8⟩

def badDescriptor : OsError := ⟨"Bad file descriptor", some 9⟩

def exists_ : OsError := ⟨"File exists", some 17⟩

def nulInFileName : OsError := ⟨"file name contained an unexpected NUL byte", none⟩

def nulInArgument : OsError := ⟨"nul byte found in provided data", none⟩

/-- The file is no UTF-8 text. -/
def notText : OsError := ⟨"stream did not contain valid UTF-8", none⟩

/-- The path leads nowhere. -/
def isAbsence (e : OsError) : Bool := e = notFound || e = notADirectory

end OsError

/-- A command as it is handed to the system. -/
structure Command where
  program : String
  args : List String
  /-- Where it runs, if not where the program itself does. -/
  workingDir : Option String
  deriving Repr, DecidableEq

/-- How a process ends. -/
inductive Ending where
  | exited (code : Nat)
  /-- `dumped` tells whether the memory of the process was kept in a file. -/
  | killed (signal : Nat) (dumped : Bool)
  deriving Repr, DecidableEq

namespace Ending

def isSuccess (e : Ending) : Bool := e == exited 0

/-- The names of the signals that have one. -/
def signalName? (signal : Nat) : Option String :=
  [(1, "SIGHUP"), (2, "SIGINT"), (3, "SIGQUIT"), (4, "SIGILL"), (5, "SIGTRAP"), (6, "SIGABRT"),
   (7, "SIGBUS"), (8, "SIGFPE"), (9, "SIGKILL"), (10, "SIGUSR1"), (11, "SIGSEGV"), (12, "SIGUSR2"),
   (13, "SIGPIPE"), (14, "SIGALRM"), (15, "SIGTERM"), (16, "SIGSTKFLT"), (24, "SIGXCPU"),
   (25, "SIGXFSZ"), (26, "SIGVTALRM"), (27, "SIGPROF"), (29, "SIGIO"), (30, "SIGPWR"),
   (31, "SIGSYS")].lookup signal

def message : Ending → String
  | exited code => s!"exit status: {code}"
  | killed signal dumped =>
    let name := ((signalName? signal).map fun name => s!" ({name})").getD ""
    s!"signal: {signal}{name}" ++ if dumped then " (core dumped)" else ""

end Ending

/-- What a process that was started leaves behind. -/
structure Outcome where
  ending : Ending
  stdout : Bytes
  stderr : Bytes
  deriving Repr, DecidableEq

/-- A machine with states of type `σ`. -/
structure Host (σ : Type) where
  lookup : σ → String → Option String
  /-- The path leads to a regular file that someone may execute. -/
  isExecutable : σ → String → Bool
  /-- The path leads to anything at all. -/
  isPresent : σ → String → Bool
  isDirectory : σ → String → Bool
  readFile : σ → String → Except OsError Bytes
  /-- Runs a command to its end, unless it cannot be started. -/
  run : Command → σ → Except OsError Outcome × σ

/-- The machine in one state, as operations see it that keep a state of another kind.  It cannot run
commands. -/
def Host.frozen {σ : Type} (τ : Type) (host : Host σ) (machine : σ) : Host τ where
  lookup _ := host.lookup machine
  isExecutable _ := host.isExecutable machine
  isPresent _ := host.isPresent machine
  isDirectory _ := host.isDirectory machine
  readFile _ := host.readFile machine
  run _ t := (.error .notFound, t)

/-- What an action carries along. -/
structure Trace (σ : Type) where
  machine : σ
  log : Log
  /-- What commands wrote to the program's own streams. -/
  stdout : Bytes
  stderr : Bytes

/-- The beginning of a run on a machine. -/
def Trace.start {σ : Type} (machine : σ) : Trace σ := ⟨machine, [], [], []⟩

abbrev Action (σ α : Type) := StateM (Trace σ) α

namespace Action

variable {σ : Type}

def emit (events : Log) : Action σ Unit :=
  modify fun t => { t with log := t.log ++ events }

def log (level : LogLevel) (message : String) : Action σ Unit := emit [⟨level, message⟩]

def machine : Action σ σ := do return (← get).machine

/-- Passes on what a command wrote. -/
def forward (stdout stderr : Bytes) : Action σ Unit :=
  modify fun t => { t with stdout := t.stdout ++ stdout, stderr := t.stderr ++ stderr }

/-- Runs a command on the machine. -/
def run (host : Host σ) (command : Command) : Action σ (Except OsError Outcome) := do
  let t ← get
  let (result, machine) := host.run command t.machine
  set { t with machine := machine }
  return result

end Action

end BuildScan
