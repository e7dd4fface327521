import BuildScan.Virtual.Shell.Commands
import BuildScan.Virtual.Shell.Signals

/-!
Running texts.  A text is read line by line, and the commands of a line are run before the next line
is read; so a fault in the text shows only after the commands in front of it.  What is done on
signals is such a text, too, and is run between commands.
-/

namespace BuildScan.Virtual.Shell

/-- How a script is run. -/
structure Mode where
  /-- Somebody looks at the status, so that the shell does not end because of it. -/
  isTested : Bool
  /-- The process ends with the script. -/
  isFinal : Bool

namespace Mode

def plain : Mode := ⟨false, false⟩

def tested : Mode := ⟨true, false⟩

def final : Mode := ⟨false, true⟩

/-- The mode of a script that others follow. -/
def amid (m : Mode) : Mode := { m with isFinal := false }

end Mode

/-- How scripts inside something are run. -/
abbrev Runner := Mode → Script → Run Unit

/-- The first lines of a text. -/
def firstLines : Nat → Octets → Octets
  | 0, _ => []
  | _, [] => []
  | count + 1, '\n' :: cs => '\n' :: firstLines count cs
  | count + 1, c :: cs => c :: firstLines (count + 1) cs

/-- Runs what is left of a text.  The lines of a file are shown if that is asked for. -/
def runLines (runs : Runner) (mode : Mode) (isFile : Bool) : Nat → Nat → Intake → Run Unit
  | 0, _, _ => throw (.killed 11)
  | fuel + 1, status, t => do
    let p ← process
    let t := t.resumed p.aliases p.nextDocument
    let show_ (lines : Octets) : Run Unit := do
      if isFile && p.options.contains 'v' then
        let _ ← writeOn 2 lines
    match t.readLine with
    | .error fault =>
      show_ (firstLines (fault.line + 1 - t.line) t.left)
      changeProcess fun p => { p with line := fault.line }
      fail (octetsOf fault.message)
    | .ok (line, rest) =>
      show_ (t.left.take (t.left.length - rest.left.length))
      changeProcess fun p => { p with
        documents := rest.documents ++ p.documents
        nextDocument := rest.nextDocument
        nextLine := rest.line }
      match line with
      | .finished => setStatus status
      | .commands none => runLines runs mode isFile fuel status rest
      | .commands (some script) =>
        runs mode.amid script
        runLines runs mode isFile fuel (← process).status rest

/-- The most lines that are read beyond those that a text has itself. -/
def maxExtraLines : Nat := 100000

/-- Runs a text; the status is that of its last command, or zero without one. -/
def runText (runs : Runner) (mode : Mode) (isFile : Bool) (text : Octets) : Run Unit := do
  let p ← process
  let t := Intake.ofText p.aliases p.nextDocument text
  finally_ (runLines runs mode isFile (text.length + maxExtraLines) 0 t)
    (changeProcess fun q => { q with nextLine := p.nextLine })

/-- Does what the process was told to do on a signal. -/
def runTrap (runs : Runner) (signal : Nat) : Run Unit := do
  let before ← process
  match before.traps.lookup signal with
  | none => return
  | some text =>
    let putBack : Run Unit := changeProcess fun p => { p with finalStatus := before.finalStatus }
    changeProcess fun p => { p with finalStatus := p.finalStatus.or (some p.status) }
    tryCatch (runText runs .plain false text) fun b => do
      match b with
      | .leave _ =>
        putBack
        setStatus before.status
      | .again _ =>
        putBack
        setStatus before.status
      | .back => putBack
      | _ => pure ()
      throw b
    putBack
    setStatus before.status

/-- Does what has to be done on the signals that have come, in the order of their numbers. -/
def runTraps (runs : Runner) : Run Unit := do
  let arrived := (← process).arrived
  if !arrived.isEmpty then
    changeProcess fun p => { p with arrived := [] }
    (arrived.eraseDups.mergeSort (· ≤ ·)).forM (runTrap runs)

/-- Ends the process: what it was told to do at its end is done. -/
def finish (runs : Runner) (outcome : Option Break) : Run Unit := do
  let p ← process
  match outcome with
  | some (.killed signal) => throw (.killed signal)
  | some .exit => setStatus (p.finalStatus.getD p.status)
  | _ => pure ()
  let status := (← process).status
  changeProcess fun p => { p with
    finalStatus := some status
    loops := 0
    isTracing := false
    traps := p.traps.filter fun t => t.1 != 0 }
  match p.traps.lookup 0 with
  | none => return
  | some text =>
    match ← outcomeOf (runText runs .plain false text) with
    | some (.killed signal) => throw (.killed signal)
    | some .done => return
    | some .failed => return
    | some .exit => setStatus ((← process).finalStatus.getD status)
    | _ => setStatus status

/-! ### Processes of their own -/

/-- How the process ends after doing something.  Of its status the last byte counts. -/
def endingOf (runs : Runner) (act : Run Unit) : Run Ending := do
  match ← outcomeOf (do finish runs (← outcomeOf act)) with
  | some (.killed signal) => return .killed signal false
  | _ => return .exited ((← process).status % 256)

/-- Does something in a process of its own and gives the number of the process and its end. -/
def apart (runs : Runner) (act : Run Unit) : Run (Nat × Ending) := do
  let before ← process
  let number := (← world).nextProcess
  changeWorld fun w => { w with
    nextProcess := number + 1
    waiting := before.number :: w.waiting }
  changeProcess fun p => { p with
    number := number
    parent := before.number
    traps := p.traps.filter fun t => t.2.isEmpty
    arrived := []
    jobs := []
    finalStatus := none }
  let ending ← endingOf runs act
  changeWorld fun w => { w with waiting := w.waiting.tail }
  changeProcess fun _ => before
  return (number, ending)

/-- The status that stands for the end of a process. -/
def statusOfEnding : Ending → Nat
  | .exited status => status
  | .killed signal _ => 128 + signal

/-- Takes notice of the end of another process that somebody waited for, and gives its status. -/
def awaited (ending : Ending) : Run Nat := do
  match ending with
  | .exited _ => pure ()
  | .killed signal _ =>
    match Signal.obituary? signal with
    | some text => report (octetsOf text)
    | none => pure ()
  deliver Signal.child
  notice
  return statusOfEnding ending

/-- What a script writes, which is run in a process of its own. -/
def outputOf (runs : Runner) (script : Script) : Run Octets := do
  let number ← newStream (.sink [])
  let (_, ending) ← apart runs do
    lead 1 (some number)
    runs .final script
  let status ← awaited ending
  changeProcess fun p => { p with outputStatus := status }
  return octets (← writtenOn number)

end BuildScan.Virtual.Shell
