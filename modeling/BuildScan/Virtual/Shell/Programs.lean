import BuildScan.Virtual.Shell.Format
import BuildScan.Virtual.Shell.Options
import BuildScan.Virtual.Shell.Quoting

/-!
Programs and what is needed to start one.  An executable file is a program or a script whose first
line names its interpreter behind `#!`; the interpreter gets the path of the script in front of the
arguments.
-/

namespace BuildScan.Virtual.Shell

open BuildScan.Text

/-- A program that is ready to run. -/
structure Image where
  program : Program
  name : Octets
  args : List Octets

/-- How many interpreters may interpret each other. -/
def maxInterpreters : Nat := 4

/-- The longest first line of a script that is looked at. -/
def maxFirstLine : Nat := 255

/-- The interpreter that a script names and its argument, if there is one. -/
def interpreter? (content : Octets) : Option (Octets × List Octets) :=
  match content.take maxFirstLine with
  | '#' :: '!' :: rest =>
    let line := (rest.takeWhile (· != '\n')).dropWhile isLineBlank
    let line := (line.reverse.dropWhile isLineBlank).reverse
    let path := line.takeWhile fun c => !isLineBlank c
    let arg := (line.drop path.length).dropWhile isLineBlank
    if path.isEmpty then none else some (path, if arg.isEmpty then [] else [arg])
  | _ => none

/-- The program that a path starts. -/
def image (files : Files) (cwd : Place) :
    Nat → Octets → Octets → List Octets → Except OsError Image
  | budget, path, name, args =>
    match files.find cwd (pathOf path) with
    | .error e => .error e
    | .ok (_, .program p) => .ok ⟨p, name, args⟩
    | .ok (_, .file mode content) =>
      if !(Entry.file mode content).isExecutable then .error .permissionDenied
      else
        match interpreter? (octets content) with
        | none => .error .badFormat
        | some (next, extra) =>
          match budget with
          | 0 => .error .tooManyLinks
          | budget + 1 => image files cwd budget next next (extra ++ path :: args)
    | .ok _ => .error .permissionDenied

/-- The path of a command on a search path.  A file that must not be executed is passed over, and is
the reason of the failure if nothing else is found. -/
def search (files : Files) (cwd : Place) (path : String) (name : String) : Except OsError String :=
  let candidates := (path.splitOn ":").map fun dir => Path.join dir name
  match candidates.find? (files.isExecutable cwd) with
  | some found => .ok found
  | none =>
    let isFile (c : String) : Bool := match files.find cwd c with
      | .ok (_, .file _ _) => true
      | _ => false
    if candidates.any isFile then .error .permissionDenied else .error .notFound

/-! ### `echo` -/

/-- The letters of options that the program `echo` knows. -/
def isEchoOption : Octets → Bool
  | '-' :: c :: cs => (c :: cs).all fun d => ['n', 'e', 'E'].contains d
  | _ => false

/-- A text with its escapes undone, among them some that the shell does not know, and whether `\c`
ended it.  The first argument bounds the length. -/
def fullyUnescaped : Nat → Octets → Octets × Bool
  | 0, _ => ([], false)
  | _, [] => ([], false)
  | _, '\\' :: 'c' :: _ => ([], true)
  | fuel + 1, '\\' :: rest =>
    let octal (cs : Octets) : Char × Octets :=
      let digits := (cs.take 3).takeWhile isOctal
      (octalChar digits, cs.drop digits.length)
    let (c, rest) := match rest with
      | 'e' :: more => ('\x1b', more)
      | '0' :: more => octal more
      | 'x' :: d :: more =>
        if Integer.isDigitIn 16 d then
          let digits := ((d :: more).take 2).takeWhile (Integer.isDigitIn 16)
          (Char.ofNat (Integer.digitsAt 16 digits).1, (d :: more).drop digits.length)
        else ('\\', rest)
      | _ => escapeAt rest
    let (more, ended) := fullyUnescaped fuel rest
    (c :: more, ended)
  | fuel + 1, c :: rest =>
    let (more, ended) := fullyUnescaped fuel rest
    (c :: more, ended)

/-- What the program `echo` writes: its arguments as they are, unless an option has escapes
undone. -/
def echoProgram (args : List Octets) : Octets :=
  let options := args.takeWhile isEchoOption
  let letters := options.flatMap (·.drop 1)
  let text := joined [' '] (args.drop options.length)
  let escapes := ((letters.filter (· != 'n')).getLast?).getD 'E' == 'e'
  let (shown, ended) := if escapes then fullyUnescaped text.length text else (text, false)
  if letters.contains 'n' || ended then shown else shown ++ ['\n']

/-- Says what keeps a program from its work, and fails. -/
def programFault (message : Octets) : Run Unit := do
  report ((← process).name ++ octetsOf ": " ++ message)
  setStatus 1

def runEcho (args : List Octets) : Run Unit := do
  setStatus 0
  if !(← writeOn 1 (echoProgram args)) then
    programFault (octetsOf "write error: " ++ reasonOf .badDescriptor)

/-! ### `cat` -/

/-- How the lines of a text are shown. -/
structure Showing where
  numbersAll : Bool
  numbersFilled : Bool
  squeezes : Bool
  marksEnds : Bool
  showsTabs : Bool
  showsOthers : Bool
  deriving DecidableEq

namespace Showing

/-- The letters that a letter or the name of an option stands for. -/
def longNames : List (String × Octets) :=
  [("number", ['n']), ("number-nonblank", ['b']), ("squeeze-blank", ['s']), ("show-all", ['A']),
   ("show-ends", ['E']), ("show-tabs", ['T']), ("show-nonprinting", ['v'])]

def ofLetters (cs : Octets) : Showing :=
  let has (options : List Char) : Bool := cs.any options.contains
  { numbersAll := has ['n'] && !has ['b']
    numbersFilled := has ['b']
    squeezes := has ['s']
    marksEnds := has ['E', 'e', 'A']
    showsTabs := has ['T', 't', 'A']
    showsOthers := has ['v', 'e', 't', 'A'] }

/-- A character below U+0080 that is shown by others if it is a control. -/
def ascii (c : Char) : Octets :=
  if c.toNat = 0x7F then ['^', '?']
  else if c.toNat < 0x20 then ['^', Char.ofNat (c.toNat + 0x40)]
  else [c]

/-- A character of a line. -/
def char (s : Showing) (c : Char) : Octets :=
  if c = '\t' then (if s.showsTabs then ['^', 'I'] else [c])
  else if !s.showsOthers then [c]
  else if c.toNat < 0x80 then ascii c
  else ['M', '-'] ++ ascii (Char.ofNat (c.toNat - 0x80))

/-- How far the showing of a text has come. -/
structure Progress where
  atStart : Bool
  /-- How many empty lines came last. -/
  empty : Nat
  line : Nat
  /-- What is shown, the last character first. -/
  shown : Octets

/-- Begins a line. -/
def begin_ (isFilled : Bool) (s : Showing) (p : Progress) : Progress :=
  if p.atStart && (s.numbersAll || (s.numbersFilled && isFilled)) then
    let number := decimal (p.line + 1)
    let text := List.replicate (6 - number.length) ' ' ++ number ++ ['\t']
    { p with atStart := false, line := p.line + 1, shown := text.reverse ++ p.shown }
  else { p with atStart := false }

/-- Goes past a character; `next` is what follows it. -/
def step (s : Showing) (next : Option Char) (p : Progress) (c : Char) : Progress :=
  if c = '\n' then
    if p.atStart && s.squeezes && 1 ≤ p.empty then p
    else
      let wasEmpty := p.atStart
      let p := if p.atStart then begin_ false s p else p
      let mark := if s.marksEnds then ['$'] else []
      { p with
        atStart := true
        empty := if wasEmpty then p.empty + 1 else 0
        shown := '\n' :: mark ++ p.shown }
  else
    let p := begin_ true s p
    let text := if c = '\r' && s.marksEnds && next = some '\n' then ['^', 'M'] else s.char c
    { p with shown := text.reverse ++ p.shown }

/-- Goes past a text. -/
def text (s : Showing) : Progress → Octets → Progress
  | p, [] => p
  | p, c :: cs => text s (step s cs.head? p c) cs

end Showing

/-- The place of a file and the offset where it is written next, if a descriptor leads to one. -/
def outputFile? : Run (Option (Place × Nat)) := do
  match ← stream? 1 with
  | some (_, .file place offset appends _ _) =>
    let size := ((← world).files.contentAt place).length
    return some (place, if appends then size else offset)
  | _ => return none

/-- The bytes of an operand: the input for a hyphen, else a file that is not being written. -/
def operandOf (arg : Octets) : Run (Except Octets Bytes) := do
  let refuse (reason : Octets) : Except Octets Bytes :=
    .error (quotedName arg ++ octetsOf ": " ++ reason)
  let output ← outputFile?
  let isOutput (place : Place) (offset : Nat) : Bool := match output with
    | some (p, n) => p == place && offset < n
    | none => false
  let same := octetsOf "input file is output file"
  if arg = ['-'] then
    match ← stream? 0 with
    | some (_, .file place offset _ true _) =>
      if isOutput place offset then return refuse same
    | _ => pure ()
    match ← readAll 0 with
    | .ok content => return .ok content
    | .error e => return refuse (reasonOf e)
  else
    let s ← get
    match s.world.files.find s.process.cwd (pathOf arg) with
    | .ok (place, .file _ content) =>
      if isOutput place 0 then return refuse same else return .ok content
    | .ok (_, .stream descriptor) =>
      match ← readAll descriptor with
      | .ok content => return .ok content
      | .error e => return refuse (reasonOf (if e = .badDescriptor then .notFound else e))
    | _ =>
      match s.world.files.read s.process.cwd (pathOf arg) with
      | .ok content => return .ok content
      | .error e => return refuse (reasonOf e)

/-- Copies operands to the output. -/
def catFrom (s : Showing) : Showing.Progress → List Octets → Run Unit
  | _, [] => return
  | p, arg :: rest => do
    match ← operandOf arg with
    | .ok content =>
      let p := s.text { p with shown := [] } (octets content)
      if (← writeOn 1 p.shown.reverse) then catFrom s p rest
      else programFault (octetsOf "write error: " ++ reasonOf .badDescriptor)
    | .error reason =>
      programFault reason
      catFrom s p rest

/-- The options and operands of `cat`; options may stand anywhere in front of two hyphens. -/
def catArguments : List Octets → Except Octets (Octets × List Octets)
  | [] => .ok ([], [])
  | arg :: rest =>
    match arg with
    | ['-', '-'] => .ok ([], rest)
    | '-' :: '-' :: name =>
      match Showing.longNames.lookup (string name) with
      | some more => do
        let (letters, operands) ← catArguments rest
        return (more ++ letters, operands)
      | none => .error (octetsOf "unrecognized option '" ++ arg ++ ['\''])
    | '-' :: c :: cs =>
      match (c :: cs).find? fun d => !("AbeEnstTuv".toList.contains d) with
      | some d => .error (octetsOf "invalid option -- '" ++ [d, '\''])
      | none => do
        let (letters, operands) ← catArguments rest
        return (c :: cs ++ letters, operands)
    | _ => do
      let (letters, operands) ← catArguments rest
      return (letters, arg :: operands)

/-- The program `cat`. -/
def runCat (args : List Octets) : Run Unit := do
  setStatus 0
  match catArguments args with
  | .error message =>
    programFault message
    report (octetsOf "Try '" ++ (← process).name ++ octetsOf " --help' for more information.")
  | .ok (letters, operands) =>
    if (← stream? 1).isNone then
      programFault (octetsOf "standard output: " ++ reasonOf .badDescriptor)
    else
      let operands := if operands.isEmpty then [['-']] else operands
      catFrom (.ofLetters letters) ⟨true, 0, 0, []⟩ operands
      if operands.contains ['-'] && (← stream? 0).isNone then
        programFault (octetsOf "closing standard input: " ++ reasonOf .badDescriptor)

end BuildScan.Virtual.Shell
