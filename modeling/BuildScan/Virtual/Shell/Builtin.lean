import BuildScan.Virtual.Shell.Commands
import BuildScan.Virtual.Shell.Condition
import BuildScan.Virtual.Shell.Fields
import BuildScan.Virtual.Shell.Programs
import BuildScan.Virtual.Shell.Signals

/-!
The commands that the shell carries out itself and that run no other command.  Each takes its
arguments and gives its status; what it writes is kept until it has ended.
-/

namespace BuildScan.Virtual.Shell

namespace Builtin

open BuildScan.Text

/-- The commands whose faults do not end a script. -/
def regularNames : List String :=
  ["[", "alias", "bg", "cd", "chdir", "command", "echo", "false", "fg", "getopts", "hash", "jobs",
   "kill", "printf", "pwd", "read", "test", "true", "type", "ulimit", "umask", "unalias", "wait"]

/-- The name of a command that the shell carries out itself, before any program of that name. -/
def isBuiltin (name : String) : Bool := specialNames.contains name || regularNames.contains name

/-- Takes no options. -/
def withoutOptions (args : List Octets) : Run (List Octets) := do
  return (← optionsOf ⟨[], []⟩ args).2

/-! ### Texts and conditions -/

def echo (args : List Octets) : Run Nat := do
  say (echoText args)
  return 0

def printf (args : List Octets) : Run Nat := do
  match ← withoutOptions args with
  | [] => fail (octetsOf "usage: printf format [arg ...]")
  | format :: args =>
    let p := printed format args
    p.warnings.forM complain
    say p.written.reverse
    match p.fault with
    | some message => fail message
    | none => return if p.warnings.isEmpty then 0 else 1

def test (args : List Octets) : Run Nat := do
  match Condition.ofArguments (← get) args with
  | .ok b => return if b then 0 else 1
  | .error message => fail message

/-- Tests a condition that a bracket closes; what stands behind the bracket does not count. -/
def bracket (args : List Octets) : Run Nat := do
  if (args.getLast?.bind List.head?) = some ']' then test args.dropLast
  else fail (octetsOf "missing ]")

/-! ### Directories -/

/-- A path given by the names on its way. -/
def wayText (way : List String) : Octets := octetsOf ("/" ++ String.intercalate "/" way)

/-- The names on a way after going along a path; `..` takes back the last one. -/
def along (way : List String) (path : String) : List String :=
  let start := if path.startsWith "/" then [] else way
  (Path.components path).foldl (fun way name =>
    if name = "" || name = "." then way
    else if name = ".." then way.dropLast
    else way ++ [name]) start

/-- Exports a variable with a value. -/
def setExported (name value : Octets) : Run Unit := do
  assign name value
  changeProcess fun p => { p with vars := p.vars.put name ⟨some value, true, false⟩ }

/-- Goes to a directory, along the names of its path or to where it leads. -/
def goTo (isPhysical : Bool) (path : Octets) : Run Bool := do
  let s ← get
  let way := along s.process.way (pathOf path)
  let target := if isPhysical then pathOf path else string (wayText way)
  match s.world.files.find s.process.cwd target with
  | .ok (place, .directory) =>
    let way := if isPhysical then place else way
    let before := wayText s.process.way
    changeProcess fun p => { p with cwd := place, way := way }
    setExported (octetsOf "OLDPWD") before
    setExported (octetsOf "PWD") (wayText way)
    return true
  | _ => return false

/-- The path begins with a component that fixes where it starts. -/
def isAnchored (path : Octets) : Bool :=
  match path with
  | '/' :: _ => true
  | ['.'] => true
  | ['.', '.'] => true
  | '.' :: '/' :: _ => true
  | '.' :: '.' :: '/' :: _ => true
  | _ => false

/-- A directory and a path below it. -/
def below (directory path : Octets) : Octets :=
  if directory.isEmpty then path else directory ++ '/' :: path

/-- The first of some directories with a directory of a name in it. -/
def directoryIn? (s : State) (path : Octets) (directories : List Octets) : Option Octets :=
  directories.find? fun d => s.world.files.isDirectory s.process.cwd (pathOf (below d path))

/-- The letters of the options about links. -/
def linkOptions : Letters := ⟨['L', 'P'], []⟩

/-- The last option about links says that they are followed. -/
def followsLinks (options : List (Char × Octets)) : Bool :=
  (options.getLast?.map Prod.fst) = some 'P'

def cd (args : List Octets) : Run Nat := do
  let (options, args) ← optionsOf linkOptions args
  let s ← get
  let known (name : String) : Octets := (s.process.valueOf? (octetsOf name)).getD []
  let (path, isBack) := match args with
    | [] => (known "HOME", false)
    | ['-'] :: _ => (known "OLDPWD", true)
    | path :: _ => (path, false)
  let target := if path.isEmpty then ['.'] else path
  let directories : List Octets := match s.process.valueOf? (octetsOf "CDPATH") with
    | some dirs => dirs.splitOnP (· == ':')
    | none => []
  let directory := if isAnchored path then none else directoryIn? s target directories
  let goal := match directory with
    | some d => below d target
    | none => target
  if ← goTo (followsLinks options) goal then
    if isBack || (directory.map fun d => !d.isEmpty) = some true then
      say (wayText (← process).way ++ ['\n'])
    return 0
  else fail (octetsOf "can't cd to " ++ path)

def pwd (args : List Octets) : Run Nat := do
  let (options, _) ← optionsOf linkOptions args
  let p ← process
  say (wayText (if followsLinks options then p.cwd else p.way) ++ ['\n'])
  return 0

/-! ### The end of something -/

/-- The status that the first argument names. -/
def statusOf (args : List Octets) : Run (Option Nat) := do
  match args with
  | [] => return none
  | arg :: _ => return some (← countOf arg)

def exit (args : List Octets) : Run Nat := do
  match ← statusOf args with
  | some n => changeProcess fun p => { p with finalStatus := some n }
  | none => pure ()
  throw .exit

def return_ (args : List Octets) : Run Nat := do
  match ← statusOf args with
  | some n => setStatus n
  | none => pure ()
  throw .back

/-- Ends rounds of loops, as many as there are at most. -/
def leave (reason : Nat → Break) (args : List Octets) : Run Nat := do
  let count ← match args with
    | [] => pure 1
    | arg :: _ => do
      let n ← countOf arg
      if n = 0 then notANumber arg else pure n
  let loops := min count (← process).loops
  if loops = 0 then return 0
  setStatus 0
  throw (reason loops)

/-! ### Variables -/

/-- Marks a variable, after giving it a value if there is one. -/
def markVariable (mark : Variable → Variable) (text : Octets) : Run Unit := do
  let (name, value) := cutAt '=' text
  if value.isSome || ((← process).vars.find? name).isNone then checkName text
  match value with
  | some value => assign name value
  | none => pure ()
  changeProcess fun p =>
    { p with vars := p.vars.put name (mark ((p.vars.find? name).getD .unknown)) }

/-- Lists variables as commands that bring them about. -/
def listVariables (front : String) (p : Variable → Bool) : Run Unit := do
  ((← process).vars.sorted p).forM fun (name, v) =>
    say (octetsOf front ++ name ++ (match v.value with
      | some value => '=' :: enquote value
      | none => []) ++ ['\n'])

/-- Marks variables, or lists those that are marked. -/
def mark (front : String) (holds : Variable → Bool) (mark : Variable → Variable)
    (args : List Octets) : Run Nat := do
  let (options, args) ← optionsOf ⟨['p'], []⟩ args
  if options.isEmpty && !args.isEmpty then args.forM (markVariable mark)
  else listVariables front holds
  return 0

def unset (args : List Octets) : Run Nat := do
  let (options, names) ← optionsOf ⟨['v', 'f'], []⟩ args
  let ofFunctions := (options.getLast?.map Prod.fst) = some 'f'
  names.forM fun name => do
    if ofFunctions then
      changeProcess fun p => { p with functions := p.functions.filter fun f => f.1 != name }
    else
      checkName name
      let name := (cutAt '=' name).1
      checkWritable name
      let isKnown := ((← process).vars.find? name).isSome
      if isKnown then changeProcess fun p => { p with vars := p.vars.put name .unknown }
  return 0

/-- Hides a variable or the options until the function that is being called has ended. -/
def hide (isExported : Bool) (text : Octets) : Run Unit := do
  let p ← process
  let remember (h : Hidden) : Run Unit := changeProcess fun p =>
    { p with hidden := match p.hidden with
        | top :: rest => (h :: top) :: rest
        | [] => [[h]] }
  if text = ['-'] then remember (.options p.options)
  else
    let (name, value) := cutAt '=' text
    remember (.named name (p.vars.find? name))
    checkName text
    match value with
    | some value => assign name value
    | none => pure ()
    if isExported then
      changeProcess fun p => { p with
        vars := p.vars.put name { (p.vars.find? name).getD .unknown with isExported := true } }

def local_ (args : List Octets) : Run Nat := do
  if (← process).hidden.isEmpty then fail (octetsOf "not in a function")
  args.forM (hide false)
  return 0

def shift (args : List Octets) : Run Nat := do
  let count := (← statusOf args).getD 1
  if (← process).args.length < count then fail (octetsOf "can't shift that many")
  changeProcess fun p =>
    { p with args := p.args.drop count, optionIndex := 1, optionOffset := none }
  return 0

def set (args : List Octets) : Run Nat := do
  if args.isEmpty then listVariables "" fun v => v.value.isSome
  else
    let given ← Options.read false args
    if given.isMarked || !given.rest.isEmpty then
      changeProcess fun p => { p with args := given.rest, optionIndex := 1, optionOffset := none }
  return 0

/-! ### Input -/

/-- A bound on how much can be read from the input. -/
def available : Run Nat := do
  match ← stream? 0 with
  | some (_, .source left) => return left.length
  | some (_, .file place _ _ _ _) => return ((← world).files.contentAt place).length
  | _ => return 0

/-- A line of the input in pieces, and whether it has an end.  A character behind a backslash is not
split at, and a line end behind one is left out. -/
def readLine (isRaw : Bool) : Nat → Run (List Piece × Bool)
  | 0 => return ([], false)
  | fuel + 1 => do
    let plain (c : Char) : Run (List Piece × Bool) := do
      let (rest, ended) ← readLine isRaw fuel
      match rest with
      | ⟨glyphs, .atSeparators⟩ :: rest =>
        return (⟨.char c false :: glyphs, .atSeparators⟩ :: rest, ended)
      | _ => return (⟨[.char c false], .atSeparators⟩ :: rest, ended)
    match ← readByte? 0 with
    | none => return ([], false)
    | some '\x00' => readLine isRaw fuel
    | some '\n' => return ([], true)
    | some '\\' =>
      if isRaw then plain '\\'
      else
        match ← readByte? 0 with
        | none => return ([], false)
        | some c =>
          let (rest, ended) ← readLine isRaw fuel
          if c = '\n' then return (rest, ended)
          else return (⟨[.char c true], .never⟩ :: ⟨[], .atSeparators⟩ :: rest, ended)
    | some c => plain c

def read (args : List Octets) : Run Nat := do
  let (options, names) ← optionsOf ⟨['r'], ['p']⟩ args
  if names.isEmpty then fail (octetsOf "arg count")
  let (pieces, ended) ← readLine ((options.map Prod.fst).contains 'r') ((← available) + 1)
  let fields := (fieldsOf (← process).separators (some names.length) pieces).map textOf
  (names.zipIdx).forM fun (name, n) => do
    checkName name
    assign name ((fields[n]?).getD [])
  return if ended then 0 else 1

/-- What comes of the search for the next option. -/
structure Found where
  letter : Char
  /-- What belongs to the option, if anything is known about that. -/
  text : Option Octets
  complaint : Option Octets
  index : Nat
  offset : Option Nat
  isOver : Bool

/-- The next option among some arguments, beginning at an argument and behind some of its
letters. -/
def nextOption (known : Octets) (args : List Octets) (index : Nat) (offset : Option Nat) : Found :=
  let isSilent := known.head? = some ':'
  let finished (index : Nat) : Found := ⟨'?', none, none, index, none, true⟩
  let inside := match offset with
    | some n => ((args[index - 2]?).getD []).drop n
    | none => []
  let start : Option (Octets × Nat) :=
    if 1 < index && !inside.isEmpty then some (inside, index)
    else
      match args[index - 1]? with
      | some ('-' :: c :: cs) => some (c :: cs, index + 1)
      | _ => none
  match start with
  | none => finished index
  | some ([], _) => finished index
  | some (['-'], next) => if inside.isEmpty then finished next else behind isSilent '-' [] next
  | some (c :: cs, next) => behind isSilent c cs next
where
  behind (isSilent : Bool) (c : Char) (cs : Octets) (next : Nat) : Found :=
    let word := (args[next - 2]?).getD []
    let offset := some (word.length - cs.length)
    match known.dropWhile (· != c) with
    | [] =>
      if isSilent then ⟨'?', some [c], none, next, offset, false⟩
      else ⟨'?', none, some (octetsOf "Illegal option " ++ ['-', c]), next, offset, false⟩
    | _ :: ':' :: _ =>
      if !cs.isEmpty then ⟨c, some cs, none, next, none, false⟩
      else
        match args[next - 1]? with
        | some text => ⟨c, some text, none, next + 1, none, false⟩
        | none =>
          if isSilent then ⟨':', some [c], none, next, offset, false⟩
          else
            ⟨'?', none, some (octetsOf "No arg for " ++ '-' :: c :: octetsOf " option"), next,
              offset, false⟩
    | _ => ⟨c, some [], none, next, offset, false⟩

def getopts (args : List Octets) : Run Nat := do
  match ← withoutOptions args with
  | known :: name :: others =>
    let p ← process
    let args := if others.isEmpty then p.args else others
    let isBeyond := args.length + 1 < p.optionIndex
    let index := if isBeyond then 1 else p.optionIndex
    let offset := if isBeyond then none else p.optionOffset
    let found := nextOption known args index offset
    match found.complaint with
    | some message => report message
    | none => pure ()
    if !found.isOver then
      match found.text with
      | some text => assign (octetsOf "OPTARG") text
      | none => changeProcess fun p => { p with vars := p.vars.put (octetsOf "OPTARG") .unknown }
    assign optionIndexName (decimal found.index)
    checkName name
    assign name [found.letter]
    changeProcess fun p => { p with optionIndex := found.index, optionOffset := found.offset }
    return if found.isOver then 1 else 0
  | _ => fail (octetsOf "Usage: getopts optstring var [arg...]")

/-! ### Aliases, signals and processes -/

/-- The order in which aliases are listed. -/
def aliasRank (name : Octets) : Nat :=
  (((name.headD '\x00').toNat * 16) + (name.map Char.toNat).foldr (· + ·) 0) % 39

def aliasText (a : Octets × Octets) : Octets := a.1 ++ '=' :: enquote a.2 ++ ['\n']

def alias_ (args : List Octets) : Run Nat := do
  if args.isEmpty then
    let ordered := (← process).aliases.mergeSort fun a b => aliasRank a.1 ≤ aliasRank b.1
    ordered.forM fun a => say (aliasText a)
    return 0
  let statuses ← args.mapM fun arg => do
    let (front, value) := cutAt '=' (arg.drop 1)
    let name := arg.take 1 ++ front
    match value with
    | some value =>
      changeProcess fun p =>
        { p with aliases :=
            if (p.aliases.lookup name).isSome then
              p.aliases.map fun a => if a.1 == name then (name, value) else a
            else p.aliases ++ [(name, value)] }
      return 0
    | none =>
      match (← process).aliases.lookup arg with
      | some value =>
        say (aliasText (arg, value))
        return 0
      | none =>
        report (octetsOf "alias: " ++ arg ++ octetsOf " not found")
        return 1
  return statuses.foldl max 0

def unalias (args : List Octets) : Run Nat := do
  let (options, names) ← optionsOf ⟨['a'], []⟩ args
  if !options.isEmpty then
    changeProcess fun p => { p with aliases := [] }
    return 0
  let statuses ← names.mapM fun name => do
    if ((← process).aliases.lookup name).isSome then
      changeProcess fun p => { p with aliases := p.aliases.filter fun a => a.1 != name }
      return 0
    else
      report (octetsOf "unalias: " ++ name ++ octetsOf " not found")
      return 1
  return statuses.foldl max 0

/-- Lists the names of the signals. -/
def listSignals (args : List Octets) : Run Nat := do
  match args with
  | [] =>
    say (octetsOf (String.join (("0" :: Signal.names.tail).map (· ++ "\n"))))
    return 0
  | arg :: _ =>
    let n ← countOf arg
    let n := if 128 < n then n - 128 else n
    match if n = 0 then none else Signal.name? n with
    | some name =>
      say (octetsOf (name ++ "\n"))
      return 0
    | none => fail (octetsOf "invalid signal number or exit status: " ++ arg)

def killUsage : String :=
  "Usage: kill [-s sigspec | -signum | -sigspec] [pid | job]... or\nkill -l [exitstatus]"

/-- Sends a signal to some processes. -/
def sendTo (signal : Nat) (targets : List Octets) : Run Nat := do
  let statuses ← targets.mapM fun target => do
    match target with
    | '%' :: _ => fail (octetsOf "No such job: " ++ target)
    | '-' :: group =>
      let _ ← countOf group
      complain (octetsOf "No such process\n")
      return 1
    | _ =>
      if ← sendSignal signal (← countOf target) then return 0
      else
        complain (octetsOf "No such process\n")
        return 1
  return statuses.foldl max 0

def kill (args : List Octets) : Run Nat := do
  let usage : Run Nat := fail (octetsOf killUsage)
  match args with
  | [] => usage
  | ('-' :: text) :: targets =>
    match Signal.ofText? 1 text with
    | some signal => if targets.isEmpty then usage else sendTo signal targets
    | none =>
      let (options, targets) ← optionsOf ⟨['l'], ['s']⟩ args
      if (options.map Prod.fst).contains 'l' then listSignals targets
      else
        let signals ← options.mapM fun (_, name) =>
          match Signal.ofText? 1 name with
          | some signal => pure signal
          | none => fail (octetsOf "invalid signal number or name: " ++ name)
        if targets.isEmpty then usage else sendTo (signals.getLast?.getD Signal.terminate) targets
  | targets => sendTo Signal.terminate targets

/-- What is done on signals, as commands that bring it about. -/
def listTraps : Run Unit := do
  let traps := (← process).traps
  (Signal.names.zipIdx).forM fun (name, n) =>
    match traps.lookup n with
    | some action =>
      say (octetsOf "trap -- " ++ enquote action ++ octetsOf (" " ++ name ++ "\n"))
    | none => pure ()

/-- Sets what is done on some signals, up to one that there is not. -/
def setTraps (action : Option Octets) : List Octets → Run Nat
  | [] => return 0
  | name :: rest => do
    match Signal.ofText? 0 name with
    | none =>
      report (octetsOf "trap: " ++ name ++ octetsOf ": bad trap")
      return 1
    | some n =>
      changeProcess fun p =>
        let others := p.traps.filter fun t => t.1 != n
        { p with traps := match action with
            | some text => (n, text) :: others
            | none => others }
      setTraps action rest

def trap (args : List Octets) : Run Nat := do
  match ← withoutOptions args with
  | [] =>
    listTraps
    return 0
  | [name] => setTraps none [name]
  | first :: rest =>
    if !first.isEmpty && first.all Char.isDigit && (Signal.ofText? 0 first).isSome then
      setTraps none (first :: rest)
    else setTraps (if first = ['-'] then none else some first) rest

def wait (args : List Octets) : Run Nat := do
  match ← withoutOptions args with
  | [] => return 0
  | targets =>
    targets.foldlM (fun status target => do
      let n ← countOf target
      return ((← process).jobs.lookup n).getD status) 127

/-! ### The mask of new files -/

/-- The lowest bits of those whom a letter is about: the owner, the group, others or all. -/
def holders? : Char → Option Nat
  | 'u' => some 0o100
  | 'g' => some 0o010
  | 'o' => some 0o001
  | 'a' => some 0o111
  | _ => none

/-- The bits that a letter grants where some bits are granted already; other people's bits are
copied. -/
def granted? (allowed : Nat) : Char → Option Nat
  | 'r' => some 4
  | 'w' => some 2
  | 'x' => some 1
  | 'u' => some ((allowed >>> 6) &&& 7)
  | 'g' => some ((allowed >>> 3) &&& 7)
  | 'o' => some (allowed &&& 7)
  | 'X' => some (if allowed &&& 0o111 = 0 then 0 else 1)
  | 's' => some 0
  | _ => none

/-- The bits after an operator. -/
def granting (bits holders chosen : Nat) : Char → Option Nat
  | '+' => some (bits ||| chosen)
  | '-' => some (bits &&& (0o777 ^^^ chosen))
  | '=' => some ((bits &&& (0o777 ^^^ (holders * 7))) ||| chosen)
  | _ => none

/-- The bits that new files may have after clauses such as `g+w,o=`.  The first argument bounds the
number of operators. -/
def clauses? (allowed : Nat) : Nat → Nat → Nat → Octets → Option Nat
  | 0, _, _, _ => none
  | _, _, bits, [] => some bits
  | fuel + 1, holders, bits, cs =>
    let who := cs.takeWhile fun c => (holders? c).isSome
    let named := (who.filterMap holders?).foldl (· ||| ·) holders
    let holders := if named = 0 then 0o111 else named
    match cs.drop who.length with
    | [] => some bits
    | operator :: rest =>
      let letters := rest.takeWhile fun c => (granted? allowed c).isSome
      let chosen := ((letters.filterMap (granted? allowed)).foldl (· ||| ·) 0) * holders
      match granting bits holders chosen operator, rest.drop letters.length with
      | none, _ => none
      | some bits, [] => some bits
      | some bits, ',' :: rest => clauses? allowed fuel 0 bits rest
      | some bits, c :: rest =>
        if ['=', '+', '-'].contains c then clauses? allowed fuel holders bits (c :: rest) else none

/-- The letters of the bits that somebody has. -/
def permissionText (bits : Nat) : String :=
  String.ofList ([('r', 4), ('w', 2), ('x', 1)].filterMap fun (c, bit) =>
    if bits &&& bit != 0 then some c else none)

def umask (args : List Octets) : Run Nat := do
  let (options, args) ← optionsOf ⟨['S'], []⟩ args
  let mask := (← process).mask
  let allowed := mask ^^^ 0o777
  match args with
  | [] =>
    if options.isEmpty then
      let digits := Nat.toDigits 8 mask
      say (List.replicate (4 - digits.length) '0' ++ digits ++ ['\n'])
    else
      let part (shift : Nat) : String := permissionText ((allowed >>> shift) &&& 7)
      say (octetsOf s!"u={part 6},g={part 3},o={part 0}\n")
    return 0
  | arg :: _ =>
    let change (n : Nat) : Run Nat := do
      changeProcess fun p => { p with mask := n &&& 0o777 }
      return 0
    if (arg.head?.map Char.isDigit) = some true then
      if arg.all isOctal then change (Integer.digitsAt 8 arg).1 else notANumber arg
    else
      match clauses? allowed (arg.length + 1) 0 allowed arg with
      | some allowed => change (allowed ^^^ 0o777)
      | none => fail (octetsOf "Illegal mode: " ++ arg)

/-! ### What a name stands for -/

/-- The paths of a name in the directories of a search path. -/
def pathsOf (path name : Octets) : List Octets :=
  (path.splitOnP (· == ':')).map fun d => below d name

/-- The files that a name may start, in the order in which they are tried; the first one is
executable. -/
def filesOf (s : State) (path name : Octets) : Except OsError (List Octets) :=
  go .notFound (pathsOf path name)
where
  go (e : OsError) : List Octets → Except OsError (List Octets)
    | [] => .error e
    | first :: rest =>
      match s.world.files.find s.process.cwd (pathOf first) with
      | .ok (_, entry) =>
        if entry.isExecutable then .ok (first :: rest) else go .permissionDenied rest
      | .error other => go (if other.isAbsence then e else other) rest

/-- What a system error is called when something cannot be started. -/
def startReason (e : OsError) : Octets :=
  if e.isAbsence then octetsOf "not found" else reasonOf e

/-- Says what a name stands for, in a sentence or in short. -/
def describe (path : Octets) (inFull : Bool) (name : Octets) : Run Nat := do
  let s ← get
  let p := s.process
  let answer (long short : Octets) : Run Nat := do
    say ((if inFull then name ++ octetsOf " is " ++ long else short) ++ ['\n'])
    return 0
  let text := string name
  if (Keyword.ofText? name).isSome then answer (octetsOf "a shell keyword") name
  else
    match p.aliases.lookup name with
    | some value =>
      answer (octetsOf "an alias for " ++ value) (octetsOf "alias " ++ name ++ '=' :: enquote value)
    | none =>
      if (p.functions.lookup name).isSome then answer (octetsOf "a shell function") name
      else if isBuiltin text then
        let special := if specialNames.contains text then "special " else ""
        answer (octetsOf ("a " ++ special ++ "shell builtin")) name
      else
        let found : Option Octets :=
          if name.contains '/' then
            if s.world.files.isPresent p.cwd (pathOf name) then some name else none
          else
            match filesOf s path name with
            | .ok (first :: _) => some first
            | _ => none
        match found with
        | some file =>
          let isKnown := p.found.contains name
          answer (octetsOf (if isKnown then "a tracked alias for " else "") ++ file) file
        | none =>
          if inFull then say (name ++ octetsOf ": not found\n")
          return 127

def type (args : List Octets) : Run Nat := do
  let path := (← process).searchPath
  let statuses ← args.mapM (describe path true)
  return statuses.foldl (· ||| ·) 0

/-- Says what the name behind the options stands for. -/
def command (args : List Octets) : Run Nat := do
  let (options, args) ← optionsOf ⟨['p', 'v', 'V'], []⟩ args
  let letters := options.map Prod.fst
  let p ← process
  let path := if letters.contains 'p' then usualPath else p.searchPath
  match args with
  | name :: _ =>
    if letters.contains 'V' then describe path true name
    else if letters.contains 'v' then describe path false name
    else return 0
  | [] => return 0

/-- Looks for programs, or lists those that were found. -/
def hash (args : List Octets) : Run Nat := do
  let (options, names) ← optionsOf ⟨['r', 'v'], []⟩ args
  if (options.map Prod.fst).contains 'r' then
    changeProcess fun p => { p with found := [] }
    return 0
  let s ← get
  let p := s.process
  let fileOf (name : Octets) : Except OsError Octets :=
    (filesOf s p.searchPath name).map fun files => files.headD []
  if names.isEmpty then
    p.found.reverse.forM fun name =>
      match fileOf name with
      | .ok file => say (file ++ ['\n'])
      | .error _ => pure ()
    return 0
  let statuses ← names.mapM fun name => do
    if isBuiltin (string name) || (p.functions.lookup name).isSome then return 0
    else
      match fileOf name with
      | .ok _ =>
        changeProcess fun p => { p with found := name :: p.found.filter (· != name) }
        return 0
      | .error e =>
        complain (name ++ octetsOf ": " ++ startReason e)
        return 1
  return statuses.foldl max 0

/-- Does nothing and has a status. -/
def constant (status : Nat) (_ : List Octets) : Run Nat := return status

/-- The commands by name. -/
def byName? (name : String) : Option (List Octets → Run Nat) :=
  match name with
  | ":" => some (constant 0)
  | "true" => some (constant 0)
  | "false" => some (constant 1)
  | "echo" => some echo
  | "printf" => some printf
  | "test" => some test
  | "[" => some bracket
  | "cd" => some cd
  | "chdir" => some cd
  | "pwd" => some pwd
  | "exit" => some exit
  | "return" => some return_
  | "break" => some (leave .leave)
  | "continue" => some (leave .again)
  | "export" => some (mark "export " (·.isExported) fun v => { v with isExported := true })
  | "readonly" => some (mark "readonly " (·.isReadOnly) fun v => { v with isReadOnly := true })
  | "unset" => some unset
  | "local" => some local_
  | "shift" => some shift
  | "set" => some set
  | "read" => some read
  | "getopts" => some getopts
  | "alias" => some alias_
  | "unalias" => some unalias
  | "kill" => some kill
  | "trap" => some trap
  | "wait" => some wait
  | "umask" => some umask
  | "type" => some type
  | "command" => some command
  | "hash" => some hash
  | "times" => some fun _ => do
      say (octetsOf "0m0.000000s 0m0.000000s\n0m0.000000s 0m0.000000s\n")
      return 0
  | "ulimit" => some fun _ => do
      say (octetsOf "unlimited\n")
      return 0
  | "jobs" => some (constant 0)
  | "fg" => some fun _ => fail (octetsOf "No current job")
  | "bg" => some fun _ => fail (octetsOf "No current job")
  | _ => none

end Builtin

end BuildScan.Virtual.Shell
