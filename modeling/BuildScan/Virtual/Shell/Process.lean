import BuildScan.Virtual.Files
import BuildScan.Virtual.Shell.Integer
import BuildScan.Virtual.Shell.Variables
import BuildScan.Virtual.Shell.Syntax

/-!
Processes of a machine in memory.  What all of them share is the tree of files, the streams that
have been opened and the signals that are under way; the rest belongs to one process.  A run changes
this state and may break off, as by `exit`, by a fault or by a signal.
-/

namespace BuildScan.Virtual.Shell

open BuildScan.Text

/-- What a descriptor leads to.  Descriptors of several processes may lead to the same stream, and
then share the offset of a file. -/
inductive Stream where
  /-- Keeps what is written; the newest byte comes first. -/
  | sink (written : Bytes)
  /-- Holds what is left to be read. -/
  | source (left : Bytes)
  | file (place : Place) (offset : Nat) (appends reads writes : Bool)
  | directory
  | void
  deriving Repr, DecidableEq

/-- What the processes share. -/
structure World where
  files : Files
  streams : Array Stream
  /-- The number of the next process. -/
  nextProcess : Nat
  /-- Processes and the signals that were sent to them. -/
  signals : List (Nat × Nat)
  /-- The processes that wait for others. -/
  waiting : List Nat

/-- What a local change hides. -/
inductive Hidden where
  | named (name : Octets) (before : Option Variable)
  | options (before : List Char)

structure Process where
  number : Nat
  /-- The number of the process that has started this one. -/
  parent : Nat
  /-- The number of the process that the script was started in. -/
  shell : Nat
  /-- The name that it was started by. -/
  name : Octets
  args : List Octets
  vars : Variables
  functions : List (Octets × Script)
  aliases : List (Octets × Octets)
  cwd : Place
  /-- The names on the way to the working directory as it was gone. -/
  way : List String
  /-- Descriptors and the numbers of their streams. -/
  descriptors : List (Nat × Nat)
  /-- The letters of the options that are on. -/
  options : List Char
  /-- The status of the last command. -/
  status : Nat
  /-- The status of the last script whose output was taken. -/
  outputStatus : Nat
  /-- The line that faults are reported on. -/
  line : Nat
  /-- The line behind what has been read of the script. -/
  nextLine : Nat
  /-- The front of a line about a command is being made. -/
  isTracing : Bool
  /-- The command of the shell that is being carried out. -/
  command : Option Octets
  /-- What that command has written so far. -/
  buffered : Octets
  /-- How many loops are being run. -/
  loops : Nat
  /-- What is done on signals; nothing stands for paying no attention. -/
  traps : List (Nat × Octets)
  /-- Signals that have come and that something has to be done on. -/
  arrived : List Nat
  /-- What is hidden by each call of a function. -/
  hidden : List (List Hidden)
  /-- The argument that options are read from next, and how many of its letters have been read. -/
  optionIndex : Nat
  optionOffset : Option Nat
  mask : Nat
  /-- The last process that nobody waited for. -/
  background : Option Nat
  /-- Processes that nobody has waited for, and their statuses. -/
  jobs : List (Nat × Nat)
  /-- Programs that have been looked for and found. -/
  found : List Octets
  documents : List (Nat × Document)
  nextDocument : Nat
  /-- The status that the shell ends with if it is told to end without another one. -/
  finalStatus : Option Nat

structure State where
  world : World
  process : Process

/-- Why a run breaks off. -/
inductive Break where
  /-- The shell was told to end. -/
  | exit
  /-- The shell ends because nothing is left to be done. -/
  | done
  /-- A command failed in a way that ends the shell unless somebody steps in. -/
  | failed
  | killed (signal : Nat)
  /-- Ends some loops. -/
  | leave (loops : Nat)
  /-- Ends the current round of a loop. -/
  | again (loops : Nat)
  /-- Ends a function or a file. -/
  | back
  deriving Repr, DecidableEq

abbrev Run := ExceptT Break (StateM State)

def process : Run Process := do return (← get).process

def world : Run World := do return (← get).world

def changeProcess (f : Process → Process) : Run Unit :=
  modify fun s => { s with process := f s.process }

def changeWorld (f : World → World) : Run Unit := modify fun s => { s with world := f s.world }

def setStatus (n : Nat) : Run Unit := changeProcess fun p => { p with status := n }

def isOn (letter : Char) : Run Bool := do return (← process).options.contains letter

/-- Runs something and gives why it broke off, if it did. -/
def outcomeOf (act : Run Unit) : Run (Option Break) :=
  tryCatch (do act; return none) fun b => return some b

/-- Runs something and then something else, even if the first one breaks off. -/
def finally_ {α : Type} (act : Run α) (after : Run Unit) : Run α := do
  let a ← tryCatch act fun b => do
    after
    throw b
  after
  return a

/-! ### Streams -/

/-- Opens a stream and gives its number. -/
def newStream (stream : Stream) : Run Nat := do
  let number := (← world).streams.size
  changeWorld fun w => { w with streams := w.streams.push stream }
  return number

def setStream (number : Nat) (stream : Stream) : Run Unit :=
  changeWorld fun w => { w with streams := w.streams.setIfInBounds number stream }

/-- The stream that a descriptor leads to, and its number. -/
def stream? (descriptor : Nat) : Run (Option (Nat × Stream)) := do
  let s ← get
  return (s.process.descriptors.lookup descriptor).bind fun n =>
    (s.world.streams[n]?).map fun stream => (n, stream)

/-- Leads a descriptor to a stream, or nowhere. -/
def lead (descriptor : Nat) (stream : Option Nat) : Run Unit :=
  changeProcess fun p =>
    let others := p.descriptors.filter fun d => d.1 != descriptor
    { p with descriptors := match stream with
        | some n => (descriptor, n) :: others
        | none => others }

/-- Writes on a descriptor; gives whether that is possible. -/
def writeOn (descriptor : Nat) (cs : Octets) : Run Bool := do
  match ← stream? descriptor with
  | some (n, .sink written) =>
    setStream n (.sink ((bytes cs).reverse ++ written))
    return true
  | some (n, .file place offset appends reads true) =>
    let content := (← world).files.contentAt place
    let start := if appends then content.length else offset
    let written := bytes cs
    changeWorld fun w =>
      { w with files := w.files.setContent place (Files.overwritten content start written) }
    setStream n (.file place (start + written.length) appends reads true)
    return true
  | some (_, .void) => return true
  | _ => return false

/-- Reads all that is left, or gives why that is impossible. -/
def readAll (descriptor : Nat) : Run (Except OsError Bytes) := do
  match ← stream? descriptor with
  | some (n, .source left) =>
    setStream n (.source [])
    return .ok left
  | some (n, .file place offset appends true writes) =>
    let content := (← world).files.contentAt place
    setStream n (.file place (max offset content.length) appends true writes)
    return .ok (content.drop offset)
  | some (_, .void) => return .ok []
  | some (_, .directory) => return .error .isADirectory
  | _ => return .error .badDescriptor

/-- Reads one byte, if there is one. -/
def readByte? (descriptor : Nat) : Run (Option Char) := do
  match ← stream? descriptor with
  | some (n, .source (b :: left)) =>
    setStream n (.source left)
    return some (Char.ofNat b.toNat)
  | some (n, .file place offset appends true writes) =>
    match (← world).files.contentAt place |>.drop offset with
    | b :: _ =>
      setStream n (.file place (offset + 1) appends true writes)
      return some (Char.ofNat b.toNat)
    | [] => return none
  | _ => return none

/-- What has been written on a stream that keeps it. -/
def writtenOn (number : Nat) : Run Bytes := do
  match (← world).streams[number]? with
  | some (.sink written) => return written.reverse
  | _ => return []

/-! ### Reports -/

/-- Adds to what the command of the shell writes. -/
def say (cs : Octets) : Run Unit :=
  changeProcess fun p => { p with buffered := p.buffered ++ cs }

/-- Writes a line on the stream for messages. -/
def report (cs : Octets) : Run Unit := do
  let _ ← writeOn 2 (cs ++ ['\n'])

/-- Reports a fault with the place where it was found. -/
def complain (message : Octets) : Run Unit := do
  let p ← process
  let command := match p.command with
    | some name => name ++ octetsOf ": "
    | none => []
  report (p.name ++ octetsOf ": " ++ decimal p.line ++ octetsOf ": " ++ command ++ message)

/-- Reports a fault that ends the shell unless somebody steps in. -/
def fail {α : Type} (message : Octets) : Run α := do
  complain message
  setStatus 2
  throw .failed

/-- Refuses a text that should be a number. -/
def notANumber {α : Type} (cs : Octets) : Run α := fail (octetsOf "Illegal number: " ++ cs)

/-- The number that an argument names, which counts something. -/
def countOf (cs : Octets) : Run Nat := do
  match Integer.count? cs with
  | some n => return n
  | none => notANumber cs

/-! ### Variables and parameters -/

def optionIndexName : Octets := octetsOf "OPTIND"

/-- What follows from a variable having another value. -/
def noticeChange (name value : Octets) : Run Unit := do
  if name = octetsOf "PATH" then changeProcess fun p => { p with found := [] }
  if name = optionIndexName then
    let index ← if value.isEmpty then pure 0 else countOf value
    changeProcess fun p => { p with optionIndex := max 1 index, optionOffset := none }

/-- Refuses a change of a variable that is protected. -/
def checkWritable (name : Octets) : Run Unit := do
  if (← process).vars.isReadOnly name then fail (name ++ octetsOf ": is read only")

/-- Gives a variable a value. -/
def assign (name value : Octets) : Run Unit := do
  checkWritable name
  changeProcess fun p => { p with vars := p.vars.assign name value }
  noticeChange name value

/-- Refuses a text that is no name of a variable. -/
def checkName (text : Octets) : Run Unit := do
  let name := (cutAt '=' text).1
  if !isName name then fail (name ++ octetsOf ": bad variable name")

/-- The blanks at which fields are parted unless something else is said. -/
def defaultSeparators : Octets := [' ', '\t', '\n']

/-- The characters at which fields are parted. -/
def Process.separators (p : Process) : Octets :=
  match p.vars.find? (octetsOf "IFS") with
  | some v => v.value.getD defaultSeparators
  | none => defaultSeparators

/-- The value of a variable. -/
def Process.valueOf? (p : Process) (name : Octets) : Option Octets := p.vars.value? name

/-- The value of a parameter that is one text. -/
def Process.parameter? (p : Process) (name : Octets) : Option Octets :=
  match name with
  | ['#'] => some (decimal p.args.length)
  | ['?'] => some (decimal p.status)
  | ['$'] => some (decimal p.shell)
  | ['!'] => p.background.map decimal
  | ['-'] => some p.options
  | c :: _ =>
    if c.isDigit then
      match (Integer.digitsAt 10 name).1 with
      | 0 => some p.name
      | n => p.args[n - 1]?
    else p.valueOf? name
  | [] => none

/-- Where programs are looked for if nothing else is said. -/
def usualPath : Octets :=
  octetsOf "/usr/local/sbin:/usr/local/bin:/usr/sbin:/usr/bin:/sbin:/bin"

/-- Where a process looks for programs. -/
def Process.searchPath (p : Process) : Octets := (p.valueOf? (octetsOf "PATH")).getD []

/-- The path that a process finds a file by. -/
def pathOf (cs : Octets) : String := string cs

/-- A signal makes the process do something. -/
def Process.hasTraps (p : Process) : Bool := p.traps.any fun t => !t.2.isEmpty

/-- What a system error is called in messages. -/
def reasonOf (e : OsError) : Octets := octetsOf e.text

end BuildScan.Virtual.Shell
