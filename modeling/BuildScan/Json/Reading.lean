import BuildScan.Json.Literal
import BuildScan.Json.Value

/-!
Reading values.  Nesting may be arbitrarily deep; the recursion is bounded by the length of the
text, since every step into a value takes a character.
-/

namespace BuildScan.Json

/-- The blanks that may stand between tokens. -/
def isGap (c : Char) : Bool := c == ' ' || c == '\n' || c == '\t' || c == '\r'

def skipGap (cs : List Char) : List Char := cs.dropWhile isGap

/-- The characters of numbers and of the words `null`, `true` and `false`. -/
def isWordChar (c : Char) : Bool := c.isAlphanum || c == '-' || c == '+' || c == '.'

/-- One digit or more. -/
def isDigits (cs : List Char) : Bool := !cs.isEmpty && cs.all Char.isDigit

/-- Digits without a zero in front of others. -/
def isWhole (cs : List Char) : Bool := isDigits cs && (cs.length == 1 || cs.head? != some '0')

/-- The text is empty or an exponent. -/
def isExponent : List Char → Bool
  | [] => true
  | e :: '+' :: cs => (e == 'e' || e == 'E') && isDigits cs
  | e :: '-' :: cs => (e == 'e' || e == 'E') && isDigits cs
  | e :: cs => (e == 'e' || e == 'E') && isDigits cs

/-- The text is what may follow the whole part of a number. -/
def isTail : List Char → Bool
  | '.' :: cs => isDigits (cs.takeWhile Char.isDigit) && isExponent (cs.dropWhile Char.isDigit)
  | cs => isExponent cs

/-- The text is a number without a sign. -/
def isUnsigned (cs : List Char) : Bool :=
  isWhole (cs.takeWhile Char.isDigit) && isTail (cs.dropWhile Char.isDigit)

/-- The number that some digits write. -/
def numberOf (cs : List Char) : Nat := cs.foldl (fun n c => n * 10 + (c.toNat - 48)) 0

/-- The value that a word stands for. -/
def ofWord? (word : List Char) : Option Value :=
  if word = "null".toList then some .null
  else if word = "true".toList then some (.bool true)
  else if word = "false".toList then some (.bool false)
  else if isWhole word then some (.natural (numberOf word))
  else match word with
    | '-' :: digits => if isUnsigned digits then some (.decimal word) else none
    | _ => if isUnsigned word then some (.decimal word) else none

mutual

/-- A value at the front of a text, and the text behind it. -/
def value? : Nat → List Char → Option (Value × List Char)
  | 0, _ => none
  | fuel + 1, cs =>
    match skipGap cs with
    | '"' :: rest => (literal? rest).map fun r => (.text r.1, r.2)
    | '[' :: rest =>
      match skipGap rest with
      | ']' :: rest => some (.array [], rest)
      | rest => (items? fuel rest).map fun r => (.array r.1, r.2)
    | '\x7b' :: rest =>
      match skipGap rest with
      | '\x7d' :: rest => some (.object [], rest)
      | rest => (members? fuel rest).map fun r => (.object r.1, r.2)
    | rest => (ofWord? (rest.takeWhile isWordChar)).map fun v => (v, rest.dropWhile isWordChar)

/-- The items of an array, up to its closing bracket. -/
def items? : Nat → List Char → Option (List Value × List Char)
  | 0, _ => none
  | fuel + 1, cs => do
    let (v, rest) ← value? fuel cs
    match skipGap rest with
    | ']' :: rest => return ([v], rest)
    | ',' :: rest => return (← items? fuel rest).map (v :: ·) id
    | _ => none

/-- The members of an object, up to its closing bracket. -/
def members? : Nat → List Char → Option (List (Option String × Value) × List Char)
  | 0, _ => none
  | fuel + 1, cs =>
    match skipGap cs with
    | '"' :: rest => do
      let (key, rest) ← literal? rest
      match skipGap rest with
      | ':' :: rest => do
        let (v, rest) ← value? fuel rest
        match skipGap rest with
        | '\x7d' :: rest => return ([(key, v)], rest)
        | ',' :: rest => return (← members? fuel rest).map ((key, v) :: ·) id
        | _ => none
      | _ => none
    | _ => none

end

/-- Reads a value from the front of a text. -/
def readPrefix? (cs : List Char) : Option (Value × List Char) := value? (2 * cs.length + 1) cs

/-- Reads a text that is one value, with blanks around it. -/
def read? (s : String) : Option Value := do
  let (v, rest) ← readPrefix? s.toList
  if (skipGap rest).isEmpty then some v else none

end BuildScan.Json
