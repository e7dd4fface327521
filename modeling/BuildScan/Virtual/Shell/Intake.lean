import BuildScan.Virtual.Shell.Token

/-!
The text that a script is read from.  The value of an alias is read in front of the rest of the
text, and the alias is not replaced again before something behind its value has been read.  A text
inside the script that a stream reads is announced on one line and follows from the next line on; it
is kept under a number until somebody needs it.
-/

namespace BuildScan.Virtual.Shell

/-- The value of an alias as far as it has not been read. -/
structure Stretch where
  name : Octets
  left : Octets
  /-- The word behind it may be an alias, too. -/
  endsInBlank : Bool

/-- A text inside the script that has been announced. -/
structure Awaited where
  number : Nat
  /-- The line that ends it. -/
  mark : Octets
  isLiteral : Bool
  /-- Tabs in front of its lines are left out. -/
  stripsTabs : Bool

structure Intake where
  /-- The script as far as it has not been read. -/
  left : Octets
  /-- The value that is read first comes first. -/
  values : List Stretch
  /-- The line of the next character. -/
  line : Nat
  /-- A document is being read, whose end is no fault of the quotes in it. -/
  isDocument : Bool
  /-- The word that has been read last. -/
  lastWord : Word
  /-- A token that has been put back. -/
  token : Option Token
  /-- The next word may be an alias, wherever it stands. -/
  replacesNext : Bool
  awaited : List Awaited
  /-- The documents that have been read, the newest first. -/
  documents : List (Nat × Document)
  nextDocument : Nat
  aliases : List (Octets × Octets)
  /-- A bound on the steps of reading. -/
  bound : Nat

namespace Intake

/-- A bound on the steps of reading a text.  An alias is not replaced inside its own value, so that
a character turns into no more than the lengths of all values multiplied. -/
def boundOf (aliases : List (Octets × Octets)) (text : Octets) : Nat :=
  let total := (aliases.map fun a => a.2.length).foldr (· + ·) 0
  16 * ((text.length + 2) * Nat.pow (total + 2) aliases.length)

/-- The beginning of a text. -/
def ofText (aliases : List (Octets × Octets)) (nextDocument : Nat) (text : Octets) : Intake :=
  { left := text, values := [], line := 1, isDocument := false, lastWord := [], token := none,
    replacesNext := false, awaited := [], documents := [], nextDocument := nextDocument,
    aliases := aliases, bound := boundOf aliases text }

/-- The rest of a text with the aliases that there are by now. -/
def resumed (t : Intake) (aliases : List (Octets × Octets)) (nextDocument : Nat) : Intake :=
  { t with
    aliases := aliases
    bound := boundOf aliases t.left
    documents := []
    nextDocument := nextDocument }

/-- The next character. -/
def next? (t : Intake) : Option Char :=
  (t.values.findSome? fun s => s.left.head?).or t.left.head?

/-- The character behind the next one. -/
def second? (t : Intake) : Option Char :=
  ((t.values.flatMap fun s => s.left.take 2) ++ t.left.take 2).tail.head?

/-- Goes past the next character. -/
def advance (t : Intake) : Intake :=
  let line := if t.next? = some '\n' then t.line + 1 else t.line
  let spent := t.values.takeWhile fun s => s.left.isEmpty
  let replaces := t.replacesNext || spent.any fun s => s.endsInBlank
  match t.values.drop spent.length with
  | s :: rest =>
    { t with
      values := { s with left := s.left.tail } :: rest
      line := line
      replacesNext := replaces }
  | [] => { t with values := [], left := t.left.tail, line := line, replacesNext := replaces }

/-- The value of an alias that is not being read. -/
def alias? (t : Intake) (name : Octets) : Option Octets :=
  if t.values.any fun s => s.name == name then none else t.aliases.lookup name

/-- Reads the value of an alias next. -/
def insert (t : Intake) (name value : Octets) : Intake :=
  let endsInBlank := (value.getLast?.map isLineBlank).getD false
  { t with values := ⟨name, value, endsInBlank⟩ :: t.values }

end Intake

/-- Why a text is no script, and on which line. -/
structure Fault where
  line : Nat
  message : String
  deriving Repr, DecidableEq

abbrev Read := StateT Intake (Except Fault)

namespace Read

/-- Refuses the text. -/
def fail {α : Type} (message : String) : Read α := do
  throw ⟨(← get).line, message⟩

/-- Refuses a token, where another one is expected or none in particular. -/
def unexpected {α : Type} (token : Token) (expected : Option String) : Read α :=
  fail ("Syntax error: " ++ token.title ++ " unexpected" ++
    match expected with
    | some title => " (expecting " ++ title ++ ")"
    | none => "")

/-- The bound on the steps of reading was reached. -/
def tooLong {α : Type} : Read α := fail "script too long"

/-- The next character, which is not taken. -/
def peek : Read (Option Char) := do return (← get).next?

/-- Takes the next character. -/
def drop : Read Unit := modify Intake.advance

/-- Takes the next character, and does not count a line if that ends there. -/
def swallow : Read Unit := modify fun t => { t.advance with line := t.line }

/-- Goes past line ends behind a backslash. -/
def joinLines : Nat → Read Unit
  | 0 => return
  | fuel + 1 => do
    let t ← get
    if t.next? = some '\\' && t.second? = some '\n' then
      drop
      drop
      joinLines fuel

/-- The next character of a text in which lines may be broken. -/
def glance : Read (Option Char) := do
  joinLines (← get).bound
  peek

/-- Takes the next character if it is the given one. -/
def accept (c : Char) : Read Bool := do
  if (← glance) = some c then
    drop
    return true
  else return false

/-- Takes characters as long as a condition holds. -/
def while_ (p : Char → Bool) : Nat → Read Octets
  | 0 => return []
  | fuel + 1 => do
    match ← glance with
    | some c =>
      if p c then
        drop
        return c :: (← while_ p fuel)
      else return []
    | none => return []

/-- Takes the longest text whose characters have a property. -/
def takeWhile (p : Char → Bool) : Read Octets := do while_ p (← get).bound

/-- Puts a token back. -/
def putBack (token : Token) : Read Unit := modify fun t => { t with token := some token }

/-- Reads another text and then goes on with this one. -/
def within {α : Type} (text : Octets) (act : Read α) : Read α := do
  let t ← get
  set { Intake.ofText t.aliases t.nextDocument text with documents := t.documents }
  let a ← act
  modify fun inner => { t with documents := inner.documents, nextDocument := inner.nextDocument }
  return a

end Read

end BuildScan.Virtual.Shell
