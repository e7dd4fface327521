import BuildScan.Go.Lexeme
import BuildScan.Go.Terminal
import BuildScan.Parsing.Reader
import BuildScan.Text.Identifier

/-!
Finding the next terminal.  What is found depends on what is looked for: a line end is a terminal
where one may end something and a blank elsewhere, and an operator is read as the longest one looked
for.

The pieces of a string come right behind each other, so blanks in front of them are not passed over.
-/

namespace BuildScan.Go

open BuildScan.Parsing BuildScan.Text

/-- The numbers of the terminals. -/
structure Numbering where
  finish : Nat
  name : Nat
  lineEnd : Nat
  rawInside : Nat
  inside : Nat
  escape : Nat
  closingQuote : Nat
  integer : Nat
  fraction : Nat
  imaginary : Nat
  rune : Nat
  comment : Nat
  /-- Terminals that are written like an identifier. -/
  words : List (String × Nat)
  /-- Operators and marks, longer ones first. -/
  signs : List (List Char × Nat)
  deriving Inhabited

namespace Numbering

/-- The numbers of some terminals by their places. -/
def ofTerminals (terminals : Array Terminal) : Numbering :=
  let number (t : Terminal) : Nat := (terminals.findIdx? (· == t)).getD terminals.size
  let numbered := terminals.toList.mapIdx fun i t => (t, i)
  let words := numbered.filterMap fun
    | (.fixed text, i) => if (Terminal.fixed text).isWord then some (text, i) else none
    | _ => none
  let signs := numbered.filterMap fun
    | (.fixed text, i) => if (Terminal.fixed text).isWord then none else some (text.toList, i)
    | _ => none
  { finish := terminals.size
    name := number .name
    lineEnd := number .lineEnd
    rawInside := number .rawInside
    inside := number .inside
    escape := number .escape
    closingQuote := number .closingQuote
    integer := number .integer
    fraction := number .fraction
    imaginary := number .imaginary
    rune := number .rune
    comment := number .comment
    words := words
    signs := signs.mergeSort fun a b => b.1.length ≤ a.1.length }

end Numbering

/-- A terminal or none, and how far looking for it went. -/
structure Sighting where
  terminal : Option Nat
  word : Option Nat
  length : Nat

namespace Sighting

def nothing (length : Nat) : Sighting := ⟨none, none, length⟩

def found (t length : Nat) : Sighting := ⟨some t, none, length⟩

def isThere (s : Sighting) : Bool := s.terminal.isSome

/-- The first, or else the second; if neither is there, the one that went farther. -/
def orElse (a : Sighting) (b : Unit → Sighting) : Sighting :=
  if a.isThere then a
  else
    let other := b ()
    if other.isThere || a.length ≤ other.length then other else a

end Sighting

namespace Numbering

variable (n : Numbering)

/-- A terminal of some length, if it is looked for and there. -/
def sight (sought : TokenSet) (t : Nat) (length : Option Nat) : Sighting :=
  match length with
  | some k => if sought.has t then .found t k else .nothing 0
  | none => .nothing 0

def attempted (sought : TokenSet) (t : Nat) (a : Lexeme.Attempt) : Sighting :=
  if !sought.has t then .nothing 0
  else if a.whole then .found t (a.length + 1)
  else .nothing (a.length + 1)

/-- What goes on right behind the terminal before. -/
def adjoining (sought : TokenSet) (cs : List Char) : Sighting :=
  let run := Lexeme.inside cs
  if sought.has n.rawInside then .found n.rawInside (Lexeme.rawInside cs)
  else if sought.has n.inside && 0 < run then .found n.inside run
  else
    match cs with
    | '"' :: _ => sight sought n.closingQuote (some 1)
    | '\\' :: rest => attempted sought n.escape (Lexeme.escape rest)
    | _ => .nothing 0

/-- A name or a word. -/
def wordAt (sought : TokenSet) (cs : List Char) : Sighting :=
  let length := (cs.takeWhile isIdentifierRest).length
  if sought.has n.name then
    let text := String.ofList (cs.take length)
    ⟨some n.name, (n.words.find? fun w => w.1 == text).map Prod.snd, length⟩
  else .nothing 0

/-- The longest number of a form that is looked for. -/
def numberAt (sought : TokenSet) (cs : List Char) : Sighting :=
  let forms :=
    [sight sought n.integer (Lexeme.integer? cs), sight sought n.fraction (Lexeme.fraction? cs),
     sight sought n.imaginary (Lexeme.imaginary? cs)]
  forms.foldl (fun best s => if best.length < s.length then s else best) (.nothing 0)

/-- The longest operator or mark that is looked for. -/
def signAt (sought : TokenSet) (cs : List Char) : Sighting :=
  match n.signs.find? fun s => sought.has s.2 && s.1.isPrefixOf cs with
  | some s => .found s.2 s.1.length
  | none => .nothing 0

/-- What starts with the character `c`, which is no blank. -/
def startingWith (sought : TokenSet) (c : Char) (cs : List Char) : Sighting :=
  let text := c :: cs
  let sign (_ : Unit) : Sighting := n.signAt sought text
  if isIdentifierStart c then n.wordAt sought text
  else if c == '\'' then attempted sought n.rune (Lexeme.rune cs)
  else if c == '/' then (sight sought n.comment (Lexeme.comment? text)).orElse sign
  else if c.isDigit || c == '.' then (n.numberAt sought text).orElse sign
  else sign ()

/-- What comes next, behind blanks.  The first value is where it starts. -/
def behindBlanks (sought : TokenSet) : Nat → Place → Place × Sighting
  | 0, p => (p, .nothing 0)
  | fuel + 1, p =>
    match p.rest with
    | [] => (p, .found n.finish 0)
    | c :: cs =>
      if c == '\n' && sought.has n.lineEnd then
        (p, .found n.lineEnd ((cs.takeWhile (· == '\n')).length + 1))
      else if Lexeme.isBlank c then behindBlanks sought fuel (p.advance 1)
      else (p, n.startingWith sought c cs)

/-- The place where a text begins that has been read up to `p`. -/
def opening (p : Place) : Place :=
  if p.offset = 0 && p.rest.head? == some Lexeme.byteOrderMark then p.advance 1 else p

/-- Looks for one of some terminals. -/
def scan (sought : TokenSet) (p : Place) : Found :=
  let start := opening p
  let next := n.adjoining sought start.rest
  let found : Place × Sighting :=
    if next.isThere then (start, next)
    else
      let other := n.behindBlanks sought (start.rest.length + 1) start
      if other.2.isThere || next.length ≤ other.2.length then other else (start, next)
  let stop := Place.advance found.2.length found.1
  match found.2.terminal with
  | some t => .terminal t found.2.word found.1 stop
  | none => .nothing found.1 stop

end Numbering

end BuildScan.Go
