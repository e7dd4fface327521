import BuildScan.Text.Bytes

/-!
The shapes of Go's lexemes.  A function that ends in `?` gives the length of what starts at the
front of a text, if it is there.  The character NUL ends every comment, string and rune, since
nothing but the end of a statement may be written with it.
-/

namespace BuildScan.Go.Lexeme

def nul : Char := Char.ofNat 0

def isHexDigit (c : Char) : Bool :=
  c.isDigit || ('a' ≤ c && c ≤ 'f') || ('A' ≤ c && c ≤ 'F')

def isOctalDigit (c : Char) : Bool := '0' ≤ c && c ≤ '7'

def isBinaryDigit (c : Char) : Bool := c == '0' || c == '1'

/-! Numbers -/

/-- Length of the digits at the front, where one underscore may stand before a digit. -/
def digitTail (p : Char → Bool) : List Char → Nat
  | '_' :: d :: cs => if p d then digitTail p cs + 2 else 0
  | d :: cs => if p d then digitTail p cs + 1 else 0
  | [] => 0

/-- Length of a run that starts with a digit. -/
def digits? (p : Char → Bool) : List Char → Option Nat
  | d :: cs => if p d then some (digitTail p cs + 1) else none
  | [] => none

/-- Length of a run of digits that an underscore may open. -/
def openDigits? (p : Char → Bool) : List Char → Option Nat
  | '_' :: cs => (digits? p cs).map (· + 1)
  | cs => digits? p cs

/-- Length of an exponent: one of the letters, a sign perhaps, digits. -/
def exponent? (isMark : Char → Bool) : List Char → Option Nat
  | e :: cs =>
    if isMark e then
      match cs with
      | '+' :: ds => (digits? Char.isDigit ds).map (· + 2)
      | '-' :: ds => (digits? Char.isDigit ds).map (· + 2)
      | ds => (digits? Char.isDigit ds).map (· + 1)
    else none
  | [] => none

def isDecimalMark (c : Char) : Bool := c == 'e' || c == 'E'

def isHexMark (c : Char) : Bool := c == 'p' || c == 'P'

/-- Length of an integer: a prefixed one, an octal one, or a decimal one. -/
def integer? : List Char → Option Nat
  | '0' :: x :: cs =>
    let prefixed :=
      if x == 'x' || x == 'X' then (openDigits? isHexDigit cs).map (· + 2)
      else if x == 'o' || x == 'O' then (openDigits? isOctalDigit cs).map (· + 2)
      else if x == 'b' || x == 'B' then (openDigits? isBinaryDigit cs).map (· + 2)
      else (openDigits? isOctalDigit (x :: cs)).map (· + 1)
    some (prefixed.getD 1)
  | '0' :: [] => some 1
  | cs => digits? Char.isDigit cs

/-- Length of a decimal fraction or of a number with a decimal exponent. -/
def decimalFloat? (cs : List Char) : Option Nat :=
  let withExponent (n : Nat) := n + (exponent? isDecimalMark (cs.drop n)).getD 0
  match cs with
  | '.' :: ds => (digits? Char.isDigit ds).map fun n => withExponent (n + 1)
  | _ =>
    (digits? Char.isDigit cs).bind fun n =>
      match cs.drop n with
      | '.' :: ds => some (withExponent (n + 1 + (digits? Char.isDigit ds).getD 0))
      | ds => (exponent? isDecimalMark ds).map (n + ·)

/-- Length of a hexadecimal number with its binary exponent. -/
def hexFloat? : List Char → Option Nat
  | '0' :: x :: cs =>
    if x == 'x' || x == 'X' then
      let mantissa := match cs with
        | '.' :: ds => (digits? isHexDigit ds).map (· + 1)
        | _ => (openDigits? isHexDigit cs).map fun n =>
          match cs.drop n with
          | '.' :: ds => n + 1 + (digits? isHexDigit ds).getD 0
          | _ => n
      mantissa.bind fun n => (exponent? isHexMark (cs.drop n)).map (n + 2 + ·)
    else none
  | _ => none

def fraction? (cs : List Char) : Option Nat := ([decimalFloat? cs, hexFloat? cs].filterMap id).max?

/-- Length of a number of any form with an `i` behind it. -/
def imaginary? (cs : List Char) : Option Nat :=
  let forms := [integer? cs, decimalFloat? cs, hexFloat? cs, digits? Char.isDigit cs].filterMap id
  (forms.filterMap fun n => if (cs.drop n).head? == some 'i' then some (n + 1) else none).max?

/-! Runes and strings -/

/-- What starts at the front of a text, and whether it is whole; else the length says how far it
could have been. -/
structure Attempt where
  length : Nat
  whole : Bool
  deriving Repr, DecidableEq

/-- Exactly `n` characters of a kind behind `before` others. -/
def exactly (p : Char → Bool) (before n : Nat) (cs : List Char) : Attempt :=
  let k := ((cs.take n).takeWhile p).length
  ⟨before + k, k == n⟩

/-- A closing mark behind what was tried. -/
def Attempt.closedBy (a : Attempt) (mark : Char) (cs : List Char) : Attempt :=
  if a.whole && (cs.drop a.length).head? == some mark then ⟨a.length + 1, true⟩
  else ⟨a.length, false⟩

/-- A rune behind its opening quote. -/
def rune (cs : List Char) : Attempt :=
  let inside : Attempt := match cs with
    | '\\' :: c :: ds =>
      if c == 'x' then exactly isHexDigit 2 2 ds
      else if c == 'u' then exactly isHexDigit 2 4 ds
      else if c == 'U' then exactly isHexDigit 2 8 ds
      else if isOctalDigit c then exactly isOctalDigit 1 3 (c :: ds)
      else if "abfnrtv\\'\"".toList.contains c then ⟨2, true⟩
      else ⟨1, false⟩
    | '\\' :: [] => ⟨1, false⟩
    | c :: _ => if c == '\'' || c == nul then ⟨0, false⟩ else ⟨1, true⟩
    | [] => ⟨0, false⟩
  inside.closedBy '\'' cs

/-- An escape behind its backslash. -/
def escape : List Char → Attempt
  | [] => ⟨0, false⟩
  | c :: cs =>
    if c == 'x' then
      let n := (cs.takeWhile isHexDigit).length
      ⟨n + 1, 2 ≤ n⟩
    else if c == 'u' then exactly isHexDigit 1 4 cs
    else if c == 'U' then exactly isHexDigit 1 8 cs
    else if c == nul then ⟨0, false⟩
    else if c.isDigit then ⟨((cs.take 2).takeWhile Char.isDigit).length + 1, true⟩
    else ⟨1, true⟩

/-- Length of a run inside a string. -/
def inside (cs : List Char) : Nat :=
  (cs.takeWhile fun c => c != '"' && c != '\n' && c != '\\' && c != nul).length

/-- Length of the inside of a raw string. -/
def rawInside (cs : List Char) : Nat := (cs.takeWhile fun c => c != '\x60' && c != nul).length

/-! Comments -/

/-- Length of a block comment behind its opening mark, closing mark included. -/
def blockRest? : List Char → Option Nat
  | [] => none
  | c :: cs =>
    if c == nul then none
    else if c == '*' && cs.head? == some '/' then some 2
    else (blockRest? cs).map (· + 1)

def comment? : List Char → Option Nat
  | '/' :: '/' :: cs => some ((cs.takeWhile fun c => c != '\n' && c != nul).length + 2)
  | '/' :: '*' :: cs => (blockRest? cs).map (· + 2)
  | _ => none

/-! Blanks -/

/-- The mark U+FEFF, which may open a file and is then no part of its text. -/
def byteOrderMark : Char := Char.ofNat 0xFEFF

def isBlank (c : Char) : Bool := c == ' ' || (0x9 ≤ c.toNat && c.toNat ≤ 0xD)

end BuildScan.Go.Lexeme
