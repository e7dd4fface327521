import BuildScan.Text.Utf8

/-!
The texts of the shell.  The shell works on bytes: a byte is held as the character with its number,
so that texts can be taken apart as lists of characters, and none of their bytes is lost.
-/

namespace BuildScan.Virtual.Shell

open BuildScan.Text

/-- Bytes as characters below U+0100. -/
abbrev Octets := List Char

/-- The octets of some bytes. -/
def octets (bytes : Bytes) : Octets := bytes.map fun b => Char.ofNat b.toNat

/-- The octets of a string. -/
def octetsOf (s : String) : Octets := octets (bytesOf s)

/-- The bytes of some octets. -/
def bytes (cs : Octets) : Bytes := cs.map fun c => UInt8.ofNat c.toNat

/-- Octets as a string. -/
def string (cs : Octets) : String := decodeLossy (bytes cs)

/-- A number in base 10. -/
def decimal (n : Nat) : Octets := Nat.toDigits 10 n

/-- An integer in base 10. -/
def signedDecimal (n : Int) : Octets :=
  if n < 0 then '-' :: decimal n.natAbs else decimal n.natAbs

/-- Blanks inside a line. -/
def isLineBlank (c : Char) : Bool := c == ' ' || c == '\t'

/-- The characters that may stand around a number. -/
def isSpace (c : Char) : Bool := c == ' ' || ('\t' ≤ c && c ≤ '\r')

def isNameStart (c : Char) : Bool := c.isAlpha || c == '_'

def isNameChar (c : Char) : Bool := c.isAlphanum || c == '_'

/-- The first text stands before the second by their octets, or is the same. -/
def isUpTo : Octets → Octets → Bool
  | [], _ => true
  | _ :: _, [] => false
  | a :: as, b :: bs => a.toNat < b.toNat || (a == b && isUpTo as bs)

/-- A name of a variable or of a function. -/
def isName : Octets → Bool
  | c :: cs => isNameStart c && cs.all isNameChar
  | [] => false

/-- The name at the front of a text and what follows it. -/
def nameAt (cs : Octets) : Octets × Octets :=
  match cs with
  | c :: _ => if isNameStart c then (cs.takeWhile isNameChar, cs.dropWhile isNameChar) else ([], cs)
  | [] => ([], [])

/-- The name in front of an equals sign, and the text behind the sign. -/
def assignmentAt? (cs : Octets) : Option (Octets × Octets) :=
  match nameAt cs with
  | (c :: name, '=' :: value) => some (c :: name, value)
  | _ => none

/-- The text in front of the first mark, and the text behind it, if the mark is there. -/
def cutAt (mark : Char) (cs : Octets) : Octets × Option Octets :=
  match cs.dropWhile (· != mark) with
  | _ :: rest => (cs.takeWhile (· != mark), some rest)
  | [] => (cs, none)

/-- Texts with a mark between them. -/
def joined (mark : Octets) (texts : List Octets) : Octets := mark.intercalate texts

/-- A text in quotes that a shell reads back as it is. -/
def enquote (cs : Octets) : Octets := '\'' :: go cs
where
  /-- What follows an opening quote. -/
  go : Octets → Octets
    | [] => ['\'']
    | '\'' :: cs => '\'' :: '"' :: '\'' :: marks cs
    | c :: cs => c :: go cs
  /-- What follows apostrophes that stand between other quotes. -/
  marks : Octets → Octets
    | [] => ['"']
    | '\'' :: cs => '\'' :: marks cs
    | c :: cs => '"' :: '\'' :: c :: go cs

end BuildScan.Virtual.Shell
