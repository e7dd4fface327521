/-!
The terminals of Go's grammar.  Strings are read in pieces, since a string that breaks off has a
sound beginning: the opening quote, what stands inside, the closing quote.
-/

namespace BuildScan.Go

inductive Terminal where
  /-- An identifier. -/
  | name
  /-- Line ends in a row, where they may end something. -/
  | lineEnd
  /-- A keyword, an operator, a mark of punctuation, or the character NUL. -/
  | fixed (text : String)
  /-- The inside of a raw string, which may be empty. -/
  | rawInside
  /-- A run inside a string, without escapes. -/
  | inside
  | escape
  | closingQuote
  | integer
  | fraction
  | imaginary
  | rune
  | comment
  deriving Repr, DecidableEq, Hashable, Inhabited

namespace Terminal

/-- The words that no identifier may be. -/
def keywords : List String :=
  ["break", "case", "chan", "const", "continue", "default", "defer", "else", "fallthrough", "for",
   "func", "go", "goto", "if", "import", "interface", "map", "package", "range", "return", "select",
   "struct", "switch", "type", "var"]

/-- The names that mean something of their own in some places. -/
def nameWords : List String := ["_", "new", "make", "nil", "true", "false", "iota"]

/-- A terminal that is written like an identifier. -/
def isWord : Terminal → Bool
  | fixed text => keywords.contains text || nameWords.contains text
  | _ => false

def isKeyword : Terminal → Bool
  | fixed text => keywords.contains text
  | _ => false

/-- The name of a terminal's node. -/
def title : Terminal → String
  | name => "identifier"
  | lineEnd => "\n"
  | fixed "_" => "blank_identifier"
  | fixed text => text
  | rawInside => "raw_string_literal_content"
  | inside => "interpreted_string_literal_content"
  | escape => "escape_sequence"
  | closingQuote => "\""
  | integer => "int_literal"
  | fraction => "float_literal"
  | imaginary => "imaginary_literal"
  | rune => "rune_literal"
  | comment => "comment"

/-- The characters that an operand may start with, letters apart, and that occur inside
operators. -/
def operandStarters : List Char := ['+', '-', '!', '^', '*', '&', '<']

/-- What comes behind `shorter` in `longer`, if `longer` goes on with it. -/
def continuation? (shorter longer : String) : Option Char :=
  if shorter.toList.isPrefixOf longer.toList then (longer.toList.drop shorter.length).head?
  else none

/-- Where `old` may be read, reading `new` as well could change what a text means: `new` takes what
ends something, or takes any text, or is written like `old`, or goes on where an operand could start
behind `old`. -/
def clashes (old new : Terminal) : Bool :=
  match new with
  | lineEnd => true
  | inside => true
  | rawInside => true
  | closingQuote => old == fixed "\""
  | fixed longer =>
    match old with
    | fixed shorter => (continuation? shorter longer).any fun c =>
        operandStarters.contains c || c.isAlpha
    | _ => false
  | _ => false

/-- No place admits both terminals, and one of them may begin like the other. -/
def apart : Terminal → Terminal → Bool
  | fixed "!", fixed "!=" => true
  | fixed "!=", fixed "!" => true
  | fixed ".", fraction => true
  | fraction, fixed "." => true
  | fixed ".", imaginary => true
  | imaginary, fixed "." => true
  | _, _ => false

end Terminal

end BuildScan.Go
