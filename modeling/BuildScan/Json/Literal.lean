/-!
String literals.  A literal stands between quotes; a quote, a backslash and the characters below
U+0020 are written as escapes.  An escape may name any character by its UTF-16 units, one outside
the first plane by a pair of surrogates.
-/

namespace BuildScan.Json

/-- The letters of the short escapes and what they stand for. -/
def shortEscapes : List (Char × Char) :=
  [('"', '"'), ('\\', '\\'), ('/', '/'), ('b', '\x08'), ('f', '\x0c'), ('n', '\n'), ('r', '\r'),
   ('t', '\t')]

/-- The value of a digit in base 16, of either case. -/
def hexDigit? (c : Char) : Option Nat :=
  if '0' ≤ c ∧ c ≤ '9' then some (c.toNat - '0'.toNat)
  else if 'a' ≤ c ∧ c ≤ 'f' then some (c.toNat - 'a'.toNat + 10)
  else if 'A' ≤ c ∧ c ≤ 'F' then some (c.toNat - 'A'.toNat + 10)
  else none

/-- The number that four digits write. -/
def unit? (a b c d : Char) : Option Nat := do
  let a ← hexDigit? a
  let b ← hexDigit? b
  let c ← hexDigit? c
  let d ← hexDigit? d
  return ((a * 16 + b) * 16 + c) * 16 + d

/-- What stands in a literal: a character, or an escape that names a UTF-16 unit. -/
inductive Piece where
  | char (c : Char)
  | unit (n : Nat)
  deriving Repr, DecidableEq

/-- The pieces of a literal whose opening quote was taken, and the text behind its closing quote. -/
def pieces? : List Char → Option (List Piece × List Char)
  | [] => none
  | '"' :: rest => some ([], rest)
  | '\\' :: 'u' :: a :: b :: c :: d :: rest =>
    match unit? a b c d, pieces? rest with
    | some n, some (more, rest) => some (.unit n :: more, rest)
    | _, _ => none
  | '\\' :: letter :: rest =>
    match shortEscapes.lookup letter, pieces? rest with
    | some c, some (more, rest) => some (.char c :: more, rest)
    | _, _ => none
  | c :: rest =>
    if c.toNat < 0x20 || c = '\\' then none
    else (pieces? rest).map fun r => (.char c :: r.1, r.2)

/-- The first half of a surrogate pair. -/
def isHighSurrogate (n : Nat) : Bool := 0xD800 ≤ n && n ≤ 0xDBFF

/-- The second half of a surrogate pair. -/
def isLowSurrogate (n : Nat) : Bool := 0xDC00 ≤ n && n ≤ 0xDFFF

/-- The characters that some pieces stand for, if every surrogate has its partner. -/
def joined? : List Piece → Option (List Char)
  | [] => some []
  | .char c :: rest => (joined? rest).map (c :: ·)
  | .unit n :: .unit m :: rest =>
    if isHighSurrogate n && isLowSurrogate m then
      (joined? rest).map (Char.ofNat ((n - 0xD800) * 0x400 + (m - 0xDC00) + 0x10000) :: ·)
    else if isHighSurrogate n || isLowSurrogate n then none
    else (joined? (.unit m :: rest)).map (Char.ofNat n :: ·)
  | .unit n :: rest =>
    if isHighSurrogate n || isLowSurrogate n then none
    else (joined? rest).map (Char.ofNat n :: ·)

/-- Reads a literal behind its opening quote: the text that it stands for, if any, and what
follows. -/
def literal? (cs : List Char) : Option (Option String × List Char) :=
  (pieces? cs).map fun r => ((joined? r.1).map String.ofList, r.2)

/-- A digit in base 16, in lower case. -/
def hexChar (n : Nat) : Char := if n < 10 then Char.ofNat (n + 48) else Char.ofNat (n + 87)

/-- A character inside a literal. -/
def writeChar (c : Char) : List Char :=
  if c = '"' then ['\\', '"']
  else if c = '\\' then ['\\', '\\']
  else if c = '\x08' then ['\\', 'b']
  else if c = '\x0c' then ['\\', 'f']
  else if c = '\n' then ['\\', 'n']
  else if c = '\r' then ['\\', 'r']
  else if c = '\t' then ['\\', 't']
  else if c.toNat < 0x20 then
    ['\\', 'u', '0', '0', hexChar (c.toNat / 16), hexChar (c.toNat % 16)]
  else [c]

/-- The literal of a text. -/
def writeText (s : String) : List Char := '"' :: s.toList.flatMap writeChar ++ ['"']

end BuildScan.Json
