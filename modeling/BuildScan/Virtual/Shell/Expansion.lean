import BuildScan.Virtual.Shell.Arithmetic
import BuildScan.Virtual.Shell.Fields
import BuildScan.Virtual.Shell.Globbing
import BuildScan.Virtual.Shell.Process

/-!
Expanding words.  Parameters, arithmetic expressions and the output of scripts are put into a word,
which is then split into fields and matched against file names, or taken as one text.  How the
output of a script is found is a parameter.
-/

namespace BuildScan.Virtual.Shell

/-- Gives what a script writes. -/
abbrev OutputOf := Script → Run Octets

/-- How a word is expanded. -/
structure Manner where
  /-- Arguments stay apart. -/
  keepsApart : Bool
  /-- The text of the word itself is split, too. -/
  splitsText : Bool
  /-- A tilde may stand behind a colon. -/
  isAssignment : Bool

namespace Manner

/-- For words that are split into fields. -/
def fields : Manner := ⟨true, false, false⟩

/-- For words that are taken as one text. -/
def whole : Manner := ⟨false, false, false⟩

def assignment : Manner := ⟨false, false, true⟩

end Manner

/-! ### Home directories -/

/-- The home directory of a user; nobody in particular is the user of the shell. -/
def Process.home? (p : Process) (user : Octets) : Option Octets :=
  let home :=
    if user.isEmpty then p.valueOf? (octetsOf "HOME")
    else if user = octetsOf "root" then some (octetsOf "/root")
    else none
  if home = some [] then none else home

/-- A text with the tildes replaced that may stand for a home directory.  What follows the text in
its word is not part of the name of a user. -/
def replaceTildes (p : Process) (colons isLast : Bool) : Bool → Nat → Octets → Word
  | _, 0, _ => []
  | _, _, [] => []
  | true, fuel + 1, '~' :: cs =>
    let isNameEnd (c : Char) : Bool := c == '/' || (colons && c == ':')
    let name := cs.takeWhile fun c => !isNameEnd c
    let behind := cs.drop name.length
    match if behind.isEmpty && !isLast then none else p.home? name with
    | some home => .text home true :: replaceTildes p colons isLast false fuel behind
    | none => Word.push '~' false (replaceTildes p colons isLast false fuel cs)
  | _, fuel + 1, c :: cs =>
    Word.push c false (replaceTildes p colons isLast (colons && c == ':') fuel cs)

/-- A word with the tildes replaced that may stand for a home directory. -/
def withHomes (p : Process) (colons : Bool) : Bool → Word → Word
  | atStart, .text cs false :: rest =>
    replaceTildes p colons rest.isEmpty atStart (cs.length + 1) cs ++ withHomes p colons false rest
  | _, part :: rest => part :: withHomes p colons false rest
  | _, [] => []

/-! ### Parameters -/

/-- What a fault in an arithmetic expression is called. -/
def refuseSum {α : Type} (text : Octets) : Arithmetic.Fault → Run α
  | .expected what => refuse (octetsOf ("expecting " ++ what))
  | .divisionByZero => refuse (octetsOf "division by zero")
  | .overflow => throw (.killed 8)
  | .notANumber value => notANumber value
  | .readOnly name => fail (name ++ octetsOf ": is read only")
where
  refuse {α : Type} (reason : Octets) : Run α :=
    fail (octetsOf "arithmetic expression: " ++ reason ++ octetsOf ": \"" ++ text ++ ['"'])

/-- The value of an arithmetic expression. -/
def sumOf (text : Octets) : Run Octets := do
  let before := (← process).vars
  match Arithmetic.evaluateText before text with
  | .error f => refuseSum text f
  | .ok (n, vars) =>
    changeProcess fun p => { p with vars := vars }
    let index := vars.value? optionIndexName
    if index != before.value? optionIndexName then noticeChange optionIndexName (index.getD [])
    return signedDecimal n

/-- The text without the line ends behind it. -/
def withoutLineEnds (cs : Octets) : Octets := (cs.reverse.dropWhile (· == '\n')).reverse

/-- The text without zero bytes. -/
def withoutNuls (cs : Octets) : Octets := cs.filter (· != '\x00')

/-- Arguments with a glyph between them. -/
def argumentGlyphs (args : List Octets) (isQuoted : Bool) (between : List Glyph) : List Glyph :=
  between.intercalate (args.map fun a => Glyph.ofText a isQuoted)

/-- The piece that a text becomes. -/
def pieceOf (cs : Octets) (isQuoted : Bool) : Piece :=
  ⟨Glyph.ofText cs isQuoted, if isQuoted then .never else .atSeparators⟩

/-- The value of a parameter, if it has one. -/
def valuePiece? (p : Process) (m : Manner) (name : Octets) (isQuoted : Bool) : Option Piece :=
  let joined : Option Piece :=
    let between := (p.separators.take 1).map fun c => Glyph.char c isQuoted
    some ⟨argumentGlyphs p.args isQuoted between, if isQuoted then .never else .atSeparators⟩
  let apart : Option Piece :=
    some ⟨argumentGlyphs p.args isQuoted [.gap],
      if !isQuoted then .atSeparators else if p.args.isEmpty then .never else .atGaps⟩
  match name with
  | ['@'] => if m.keepsApart then apart else joined
  | ['*'] => if m.keepsApart && !isQuoted then apart else joined
  | _ => (p.parameter? name).map fun value => pieceOf value isQuoted

/-- The text of some pieces. -/
def textOfPieces (pieces : List Piece) : Octets := textOf (pieces.flatMap Piece.glyphs)

/-- The pieces as a pattern. -/
def patternOf (pieces : List Piece) : List Marked :=
  (pieces.flatMap Piece.glyphs).filterMap Glyph.marked?

/-- Says that a parameter has no value. -/
def refuseUnset {α : Type} (name reason : Octets) : Run α := fail (name ++ octetsOf ": " ++ reason)

/-- Where parameters without a value are refused, one has none. -/
def checkSet (name : Octets) (value : Option Piece) : Run Unit := do
  if value.isNone && (← isOn 'u') then refuseUnset name (octetsOf "parameter not set")

/-! ### Words -/

/-- The bound on how deeply words are nested in words. -/
def maxNesting : Nat := 1000

/-- The pieces of a part of a word. -/
def expandPart (outputOf : OutputOf) : Nat → Manner → Part → Run (List Piece)
  | 0, _, _ => throw (.killed 9)
  | depth + 1, m, part => do
    let expand (m : Manner) (word : Word) : Run (List Piece) := do
      let p ← process
      return (← (withHomes p m.isAssignment true word).mapM (expandPart outputOf depth m)).flatten
    let wholeText (word : Word) : Run Octets := do return textOfPieces (← expand .whole word)
    match part with
    | .text [] true => return [⟨[.mark], .never⟩]
    | .text cs isQuoted =>
      let splitting := if m.splitsText && !isQuoted then .atSeparators else .never
      return [⟨Glyph.ofText cs isQuoted, splitting⟩]
    | .output script isQuoted =>
      let written ← match script with
        | some script => outputOf script
        | none => pure []
      return [pieceOf (withoutNuls (withoutLineEnds written)) isQuoted]
    | .sum expression isQuoted =>
      let text := textOfPieces (← expression.mapM (expandPart outputOf depth .whole)).flatten
      return [pieceOf (← sumOf text) isQuoted]
    | .value name use isQuoted =>
      let value := valuePiece? (← process) m name isQuoted
      let nothing : List Piece := if isQuoted then [] else [⟨[], .atSeparators⟩]
      let lacks (ifEmpty : Bool) : Bool := match value with
        | none => true
        | some piece => ifEmpty && piece.glyphs.isEmpty
      let instead := expand { m with splitsText := !isQuoted }
      match use with
      | .plain =>
        checkSet name value
        return value.toList
      | .length =>
        checkSet name value
        return [pieceOf (decimal ((value.map fun v => v.glyphs.length).getD 0)) isQuoted]
      | .instead ifEmpty word => if lacks ifEmpty then instead word else return value.toList
      | .replace ifEmpty word => if lacks ifEmpty then return nothing else instead word
      | .assign ifEmpty word =>
        if lacks ifEmpty then
          let text ← wholeText word
          checkName name
          assign name text
          return (valuePiece? (← process) m name isQuoted).toList
        else return value.toList
      | .demand ifEmpty word =>
        if lacks ifEmpty then
          let text ← wholeText word
          let reason := if word.isEmpty then
              octetsOf (if ifEmpty then "parameter not set or null" else "parameter not set")
            else text
          refuseUnset name reason
        else return value.toList
      | .cut side pattern =>
        checkSet name value
        match value with
        | none => return []
        | some piece =>
          let pattern := patternOf (← expand .whole pattern)
          let left := cutOff side pattern (Glyph.toText piece.glyphs)
          return [{ piece with glyphs := Glyph.ofArguments left isQuoted }]
      | .bad => fail (octetsOf "Bad substitution")

/-- The pieces of a word. -/
def expand (outputOf : OutputOf) (m : Manner) (word : Word) : Run (List Piece) := do
  let p ← process
  let word := withHomes p m.isAssignment true word
  return (← word.mapM (expandPart outputOf maxNesting m)).flatten

/-- The text of a word that is not split. -/
def expandWhole (outputOf : OutputOf) (word : Word) : Run Octets := do
  return textOfPieces (← expand outputOf .whole word)

/-- The text that a word assigns. -/
def expandAssigned (outputOf : OutputOf) (word : Word) : Run Octets := do
  return textOfPieces (← expand outputOf .assignment word)

/-- The text of a document. -/
def expandDocument (outputOf : OutputOf) (body : Word) : Run Octets := do
  return textOfPieces (← body.mapM (expandPart outputOf maxNesting .whole)).flatten

/-- The word as a pattern. -/
def expandPattern (outputOf : OutputOf) (word : Word) : Run (List Marked) := do
  return patternOf (← expand outputOf .whole word)

/-- The file names that a field covers, or its text. -/
def namesOf (field : List Glyph) : Run (List Octets) := do
  let marked := field.filterMap Glyph.marked?
  if isPattern marked && !(← isOn 'f') then
    let s ← get
    match pathsCovered s.world.files s.process.cwd marked with
    | [] => return [textOf field]
    | paths => return paths
  else return [textOf field]

/-- The fields of a word. -/
def expandFields (outputOf : OutputOf) (word : Word) : Run (List Octets) := do
  let pieces ← expand outputOf .fields word
  let fields := fieldsOf (← process).separators none pieces
  return (← fields.mapM namesOf).flatten

end BuildScan.Virtual.Shell
