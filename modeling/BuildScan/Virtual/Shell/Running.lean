import BuildScan.Virtual.Shell.Launch
import BuildScan.Virtual.Shell.Order

/-!
Running scripts.  Each form of script has its rule, in which the scripts inside it are run by
`runs`; `run` ties the knot.  Signals that have come are attended to before and after each script.
A script may run for ever, so that the depth of a run and the rounds of a loop are bounded, and a
run that comes to a bound ends as if it were killed.
-/

namespace BuildScan.Virtual.Shell

open BuildScan.Text

/-! ### Commands that run other commands -/

/-- Writes what the command of the shell has said; the status says whether that failed. -/
def flush : Run Nat := do
  let p ← process
  changeProcess fun p => { p with buffered := [] }
  if p.buffered.isEmpty || (← writeOn 1 p.buffered) then return 0
  else
    complain (p.command.getD [] ++ octetsOf ": I/O error")
    return 1

/-- Runs its arguments as a script. -/
def eval (runs : Runner) (mode : Mode) (args : List Octets) : Run Nat := do
  if args.isEmpty then return 0
  runText runs mode.amid false (joined [' '] args)
  return (← process).status

/-- The file of a script that is not to run in a process of its own. -/
def fileToInclude (name : Octets) : Run Octets := do
  if name.contains '/' then return name
  else
    let s ← get
    let isFile (path : Octets) : Bool :=
      match s.world.files.find s.process.cwd (pathOf path) with
      | .ok (_, .file _ _) => true
      | .ok (_, .program _) => true
      | _ => false
    match (Builtin.pathsOf s.process.searchPath name).find? isFile with
    | some path => return path
    | none => fail (name ++ octetsOf ": not found")

/-- Runs the script in a file, in this process. -/
def runIncluded (runs : Runner) (args : List Octets) : Run Nat := do
  match ← Builtin.withoutOptions args with
  | [] => return 0
  | name :: _ =>
    let path ← fileToInclude name
    let text ← readScript path
    changeProcess fun p => { p with command := some path }
    tryCatch (runText runs .plain true text) fun b => if b = .back then return else throw b
    return (← process).status

/-- Ends this process in favour of a program; without one, only the redirections stay. -/
def exec (runs : Runner) (args : List Octets) : Run Nat := do
  match args with
  | [] => return 0
  | name :: args =>
    let p ← process
    let paths := if name.contains '/' then [name] else Builtin.pathsOf p.searchPath name
    launch runs paths name args
    return 0

/-- Carries out a command of the shell. -/
def carryOut (runs : Runner) (mode : Mode) (name : String) (words : List Octets) : Run Unit := do
  let act : List Octets → Run Nat := match name with
    | "eval" => eval runs mode
    | "." => runIncluded runs
    | "exec" => exec runs
    | _ => (Builtin.byName? name).getD (Builtin.constant 0)
  let before := (← process).command
  changeProcess fun p => { p with command := words.head? }
  finally_
    (do
      let status ← act words.tail
      setStatus (status ||| (← flush)))
    (do
      let _ ← flush
      changeProcess fun p => { p with command := before })

/-- Calls a function. -/
def call (runs : Runner) (mode : Mode) (body : Script) (args : List Octets) : Run Unit := do
  let before ← process
  changeProcess fun p => { p with args := args, loops := 0, optionIndex := 1, optionOffset := none }
  finally_
    (tryCatch (runs mode.amid body) fun b => if b = .back then return else throw b)
    (changeProcess fun p => { p with
      args := before.args
      loops := before.loops
      optionIndex := before.optionIndex
      optionOffset := before.optionOffset })

/-- Runs a program, in the stead of this process if nothing else is left to be done. -/
def runProgram (runs : Runner) (mode : Mode) (isUsual : Bool) (name : Octets) (args : List Octets) :
    Run Unit := do
  let s ← get
  let path := if isUsual then usualPath else s.process.searchPath
  match if name.contains '/' then .ok [name] else Builtin.filesOf s path name with
  | .error e =>
    complain (name ++ octetsOf ": " ++ Builtin.startReason e)
    setStatus 127
  | .ok paths =>
    if !name.contains '/' && !isUsual then
      changeProcess fun p => { p with found := name :: p.found.filter (· != name) }
    if mode.isFinal && !s.process.hasTraps then launch runs paths name args
    else
      let (_, ending) ← apart runs (launch runs paths name args)
      setStatus (← awaited ending)

/-! ### Commands without structure -/

/-- Does what is ordered.  A fault in a command of the shell is forgiven unless it is a special
one. -/
def obey (runs : Runner) (mode : Mode) (o : Order) : Run Unit := do
  match o.deed with
  | .nothing => setStatus (← process).outputStatus
  | .function body => call runs mode body o.words.tail
  | .builtin name =>
    tryCatch (carryOut runs mode name o.words) fun b =>
      if b = .failed && !o.isSpecial then return else throw b
  | .program => runProgram runs mode o.isUsual (o.words.headD []) o.words.tail

/-- Writes a command before it is obeyed, if that is asked for, on the stream that messages went to
before the command changed that. -/
def trace (outputOf : OutputOf) (messages : Option Nat) (texts : List Octets) : Run Unit := do
  let p ← process
  if p.options.contains 'x' && !p.isTracing then
    let front := (p.valueOf? (octetsOf "PS4")).getD []
    changeProcess fun p => { p with isTracing := true }
    let shown ← match (Intake.ofText p.aliases p.nextDocument front).readDocument with
      | .ok word => expandDocument outputOf word
      | .error fault => do
        changeProcess fun p => { p with line := fault.line }
        complain (octetsOf fault.message)
        pure front
    changeProcess fun p => { p with isTracing := false }
    let now := (← process).descriptors
    lead 2 messages
    report (shown ++ joined [' '] texts)
    changeProcess fun p => { p with descriptors := now }

/-- Makes an assignment in front of an order. -/
def assignFor (o : Order) (name value : Octets) : Run Unit := do
  if o.isLocal then Builtin.hide true (name ++ '=' :: value)
  else
    assign name value
    if o.isLasting && 1 < o.words.length then Builtin.setExported name value

/-- Brings back what the innermost call has hidden. -/
def reveal : Run Unit := do
  let hidden := (← process).hidden
  changeProcess fun p => { p with hidden := hidden.tail }
  (hidden.headD []).forM fun h =>
    match h with
    | .options before =>
      changeProcess fun p =>
        { p with options := before, vars := { p.vars with exportsAll := before.contains 'a' } }
    | .named name before => do
      changeProcess fun p => { p with vars := p.vars.restore name before }
      noticeChange name ((before.bind Variable.value).getD [])

/-- The break goes on with something else in this process. -/
def Break.isJump : Break → Bool
  | leave _ => true
  | again _ => true
  | back => true
  | _ => false

/-- Runs a command without structure. -/
def runSimple (runs : Runner) (mode : Mode) (assignments : List (Octets × Word)) (words : List Word)
    (redirects : List Redirect) : Run Unit := do
  changeProcess fun p => { p with outputStatus := 0 }
  let outputOf := outputOf runs
  let o ← Order.ofWords outputOf words
  if o.isLocal then changeProcess fun p => { p with hidden := [] :: p.hidden }
  let goals ← redirects.mapM (goalOf outputOf)
  let before := (← process).descriptors
  let restore : Run Unit := do if !o.isLasting then leadBack goals before
  let leave : Run Unit := do
    restore
    if o.isLocal then reveal
  if ← attainAll outputOf goals then
    tryCatch
      (do
        let assigned ← assignments.mapM fun a => do
          let value ← expandAssigned outputOf a.2
          assignFor o a.1 value
          return a.1 ++ '=' :: value
        trace outputOf (before.lookup 2) (assigned ++ o.fields)
        obey runs mode o)
      fun b => do
        if b.isJump then leave else leadBack goals before
        throw b
    leave
  else
    setStatus 2
    if o.isSpecial then
      leadBack goals before
      throw .failed
    leave

/-! ### Processes side by side -/

/-- Remembers a process that nobody waits for. -/
def leaveBehind (number : Nat) (ending : Ending) : Run Unit := do
  changeProcess fun p => { p with
    background := some number
    jobs := (number, statusOfEnding ending) :: p.jobs }
  deliver Signal.child
  notice

/-- Runs a script in a process of its own, unless nothing else is left to be done in this one. -/
def runNested (runs : Runner) (mode : Mode) (body : Script) (redirects : List Redirect)
    (inBackground : Bool) : Run Unit := do
  let outputOf := outputOf runs
  let goals ← redirects.mapM (goalOf outputOf)
  let inner : Mode := ⟨mode.isTested && !inBackground, true⟩
  let act : Run Unit := do
    if inBackground then lead 0 (some (← newStream .void))
    goals.forM (attain outputOf)
    runs inner body
  if mode.isFinal && !inBackground && !(← process).hasTraps then act
  else
    let (number, ending) ← apart runs act
    if inBackground then
      leaveBehind number ending
      setStatus 0
    else setStatus (← awaited ending)

/-- Runs some scripts, each reading what the one before it writes; gives the numbers and the ends of
their processes. -/
def runStages (runs : Runner) (mode : Mode) : Option Nat → List Script → Run (List (Nat × Ending))
  | _, [] => return []
  | input, first :: rest => do
    let output ← newStream (.sink [])
    let stage ← apart runs do
      if input.isSome then lead 0 input
      if !rest.isEmpty then lead 1 (some output)
      runs mode first
    let next ← newStream (.source (← writtenOn output))
    return stage :: (← runStages runs mode (some next) rest)

/-- Runs a pipeline; its status is that of its last stage. -/
def runPipeline (runs : Runner) (mode : Mode) (stages : List Script) (inBackground : Bool) :
    Run Unit := do
  let inner : Mode := ⟨mode.isTested, true⟩
  if inBackground then
    match (← runStages runs inner (some (← newStream .void)) stages).getLast? with
    | some (number, ending) => leaveBehind number ending
    | none => pure ()
    setStatus 0
  else
    let statuses ← (← runStages runs inner none stages).mapM fun stage => awaited stage.2
    setStatus (statuses.getLast?.getD 0)

/-! ### Loops and choices -/

/-- How a round of a loop ends. -/
inductive Round where
  | done
  | next
  | last

/-- Runs a round of a loop. -/
def roundOf (act : Run Unit) : Run Round :=
  tryCatch (do act; return .done) fun b =>
    match b with
    | .leave (n + 2) => throw (.leave (n + 1))
    | .leave _ => return .last
    | .again (n + 2) => throw (.again (n + 1))
    | .again _ => return .next
    | other => throw other

/-- Runs something with one more loop around it. -/
def inLoop (act : Run Unit) : Run Unit := do
  let loops := (← process).loops
  changeProcess fun p => { p with loops := loops + 1 }
  finally_ act (changeProcess fun p => { p with loops := loops })

/-- The most rounds that a loop makes. -/
def maxRounds : Nat := 100000

/-- Runs a body as long as a condition has the right outcome; the status is that of the last round,
or zero without one. -/
def runLoop (runs : Runner) (mode : Mode) (isUntil : Bool) (condition body : Script) :
    Nat → Nat → Run Unit
  | 0, _ => throw (.killed Signal.kill)
  | rounds + 1, status => do
    match ← roundOf (runs .tested condition) with
    | .last => setStatus status
    | .next => runLoop runs mode isUntil condition body rounds status
    | .done =>
      if ((← process).status == 0) == isUntil then setStatus status
      else
        match ← roundOf (runs mode.amid body) with
        | .last => return
        | _ => runLoop runs mode isUntil condition body rounds (← process).status

/-- Runs a body once for each of some values; the status is that of the last round, or zero without
one. -/
def runEach (runs : Runner) (mode : Mode) (name : Octets) (body : Script) :
    Nat → List Octets → Run Unit
  | status, [] => setStatus status
  | _, value :: rest => do
    assign name value
    match ← roundOf (runs mode.amid body) with
    | .last => return
    | _ => runEach runs mode name body (← process).status rest

/-- One of some patterns covers a value. -/
def coversAny (outputOf : OutputOf) (value : Octets) : List Word → Run Bool
  | [] => return false
  | pattern :: rest => do
    if fits (← expandPattern outputOf pattern) value then return true
    else coversAny outputOf value rest

/-- The script of the first branch with a pattern that covers a value. -/
def branch? (outputOf : OutputOf) (value : Octets) :
    List (List Word × Option Script) → Run (Option Script)
  | [] => return none
  | (patterns, body) :: rest => do
    if ← coversAny outputOf value patterns then return body else branch? outputOf value rest

/-- Runs a script with its streams led elsewhere; gives whether that was possible. -/
def runRedirected (runs : Runner) (mode : Mode) (body : Script) (redirects : List Redirect) :
    Run Bool := do
  let outputOf := outputOf runs
  let goals ← redirects.mapM (goalOf outputOf)
  let before := (← process).descriptors
  if ← attainAll outputOf goals then
    finally_ (runs mode.amid body) (leadBack goals before)
    return true
  else
    leadBack goals before
    setStatus 2
    return false

/-! ### All forms -/

/-- The rule of each form of script; gives whether a failure is one that may end the shell. -/
def step (runs : Runner) (mode : Mode) (s : Script) : Run Bool := do
  let on (line : Nat) : Run Unit := changeProcess fun p => { p with line := line }
  match s with
  | .simple line assignments words redirects =>
    on line
    runSimple runs mode assignments words redirects
    return true
  | .nested line body redirects inBackground =>
    on line
    runNested runs mode body redirects inBackground
    return true
  | .pipeline stages inBackground =>
    runPipeline runs mode stages inBackground
    return true
  | .redirected line body redirects =>
    on line
    return !(← runRedirected runs mode body redirects)
  | .negated body =>
    runs .tested body
    setStatus (if (← process).status = 0 then 1 else 0)
    return false
  | .both first second =>
    runs .tested first
    if (← process).status = 0 then runs mode second
    return false
  | .either first second =>
    runs .tested first
    if (← process).status ≠ 0 then runs mode second
    return false
  | .inOrder first second =>
    runs mode.amid first
    runs mode second
    return false
  | .choice condition yes no =>
    runs .tested condition
    if (← process).status = 0 then runs mode yes
    else
      match no with
      | some no => runs mode no
      | none => setStatus 0
    return false
  | .loop isUntil condition body =>
    inLoop (runLoop runs mode isUntil condition body maxRounds 0)
    return false
  | .each line name words body =>
    on line
    let values ← words.mapM (expandFields (outputOf runs))
    inLoop (runEach runs mode name body 0 values.flatten)
    return false
  | .select line word branches =>
    on line
    let value ← expandWhole (outputOf runs) word
    match ← branch? (outputOf runs) value branches with
    | some body => runs mode body
    | none => setStatus 0
    return false
  | .define name body =>
    changeProcess fun p =>
      { p with functions := (name, body) :: p.functions.filter fun f => f.1 != name }
    setStatus 0
    return false

/-- Runs a script. -/
def run : Nat → Runner
  | 0, _, _ => throw (.killed 11)
  | depth + 1, mode, s => do
    let runs := run depth
    if !(← isOn 'n') then
      runTraps runs
      let mayEnd ← step runs mode s
      runTraps runs
      let failed := (← process).status != 0
      if mayEnd && failed && !mode.isTested && (← isOn 'e') then throw .done
    if mode.isFinal then throw .done

/-- The bound on the depth of a run. -/
def maxDepth : Nat := 2000

end BuildScan.Virtual.Shell
