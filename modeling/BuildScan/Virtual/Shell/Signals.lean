import BuildScan.Virtual.Shell.Process

/-!
Signals.  A process that is sent a signal does what it was told to do on it, as soon as the command
that it is carrying out has ended; if it was told nothing, most signals end it at once.
-/

namespace BuildScan.Virtual.Shell

namespace Signal

/-- The names of the signals from zero on; those without a name go by their number. -/
def names : List String :=
  ["EXIT", "HUP", "INT", "QUIT", "ILL", "TRAP", "ABRT", "BUS", "FPE", "KILL", "USR1", "SEGV",
   "USR2", "PIPE", "ALRM", "TERM", "16", "CHLD", "CONT", "STOP", "TSTP", "TTIN", "TTOU", "URG",
   "XCPU", "XFSZ", "VTALRM", "PROF", "WINCH", "IO", "PWR", "SYS", "32", "33", "RTMIN"] ++
  ((List.range 15).map fun n => s!"RTMIN+{n + 1}") ++
  ((List.range 14).map fun n => s!"RTMAX-{14 - n}") ++ ["RTMAX"]

/-- The signal that ends a process without more ado. -/
def kill : Nat := 9

def terminate : Nat := 15

/-- The signal that a process gets when another one ends that it has started. -/
def child : Nat := 17

/-- Signals that a process does not end from unless it was told to. -/
def harmless : List Nat := [0, 17, 18, 23, 28]

/-- The signal that a text names or gives the number of. -/
def ofText? (least : Nat) (cs : Octets) : Option Nat :=
  if !cs.isEmpty && cs.all Char.isDigit then
    let n := (Integer.digitsAt 10 cs).1
    if n < names.length then some n else none
  else
    let name := cs.map Char.toUpper
    (names.findIdx? fun s => s.toList == name).bind fun n => if n < least then none else some n

/-- The name of a signal. -/
def name? (signal : Nat) : Option String := names[signal]?

/-- What is said when a process was ended by a signal. -/
def obituary? (signal : Nat) : Option String :=
  [(1, "Hangup"), (3, "Quit"), (4, "Illegal instruction"), (5, "Trace/breakpoint trap"),
   (6, "Aborted"), (7, "Bus error"), (8, "Floating point exception"), (9, "Killed"),
   (10, "User defined signal 1"), (11, "Segmentation fault"), (12, "User defined signal 2"),
   (14, "Alarm clock"), (15, "Terminated"), (16, "Stack fault"), (24, "CPU time limit exceeded"),
   (25, "File size limit exceeded"), (26, "Virtual timer expired"),
   (27, "Profiling timer expired"), (29, "I/O possible"), (30, "Power failure"),
   (31, "Bad system call")].lookup signal

end Signal

/-- What this process does on a signal. -/
def deliver (signal : Nat) : Run Unit := do
  let traps := (← process).traps
  match if signal = Signal.kill then none else traps.lookup signal with
  | some [] => return
  | some _ => changeProcess fun p => { p with arrived := p.arrived ++ [signal] }
  | none => if Signal.harmless.contains signal then return else throw (Break.killed signal)

/-- Does what has to be done on the signals that were sent to this process. -/
def notice : Run Unit := do
  let number := (← process).number
  let signals := (← world).signals
  changeWorld fun w => { w with signals := w.signals.filter fun s => s.1 != number }
  (signals.filter fun s => s.1 = number).forM fun s => deliver s.2

/-- Sends a signal to a process; gives whether there is such a process. -/
def sendSignal (signal target : Nat) : Run Bool := do
  let s ← get
  if target = s.process.number then
    deliver signal
    return true
  else if s.world.waiting.contains target then
    changeWorld fun w => { w with signals := w.signals ++ [(target, signal)] }
    return true
  else return (s.process.jobs.lookup target).isSome

end BuildScan.Virtual.Shell
