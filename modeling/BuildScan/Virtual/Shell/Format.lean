import BuildScan.Virtual.Shell.Binary64

/-!
Texts with escapes, and texts made from a format.  An escape is a backslash with a letter or up to
three digits in base 8; in an argument `\c` ends all output.  A format is used again as long as
arguments are left over, and where it asks for more arguments than there are, they count as empty.
-/

namespace BuildScan.Virtual.Shell

/-- The letters of escapes and what they stand for. -/
def escapeLetters : List (Char × Char) :=
  [('a', '\x07'), ('b', '\x08'), ('f', '\x0c'), ('n', '\n'), ('r', '\r'), ('t', '\t'),
   ('v', '\x0b'), ('\\', '\\')]

def isOctal (c : Char) : Bool := '0' ≤ c && c ≤ '7'

/-- The character that some digits in base 8 name; only a byte of the number counts. -/
def octalChar (digits : Octets) : Char :=
  Char.ofNat (digits.foldl (fun n c => n * 8 + (c.toNat - 48)) 0 % 256)

/-- What an escape stands for, and the text behind it; a backslash in front of anything else stands
for itself. -/
def escapeAt (cs : Octets) : Char × Octets :=
  match cs with
  | [] => ('\\', [])
  | c :: rest =>
    if isOctal c then
      let digits := (cs.take 3).takeWhile isOctal
      (octalChar digits, cs.drop digits.length)
    else
      match escapeLetters.lookup c with
      | some d => (d, rest)
      | none => ('\\', cs)

/-- A text with its escapes undone, and whether `\c` ended it.  A `0` may stand in front of the
digits of an escape.  The first argument bounds the length. -/
def unescaped : Nat → Octets → Octets × Bool
  | 0, _ => ([], false)
  | _, [] => ([], false)
  | _, '\\' :: 'c' :: _ => ([], true)
  | fuel + 1, '\\' :: rest =>
    let (c, rest) := match rest with
      | '0' :: d :: more => if isOctal d then escapeAt (d :: more) else escapeAt rest
      | _ => escapeAt rest
    let (more, ended) := unescaped fuel rest
    (c :: more, ended)
  | fuel + 1, c :: rest =>
    let (more, ended) := unescaped fuel rest
    (c :: more, ended)

/-- The arguments on one line, with their escapes undone; `-n` in front leaves out the line end. -/
def echoText (args : List Octets) : Octets :=
  let (ends, args) := match args with
    | ['-', 'n'] :: rest => (false, rest)
    | _ => (true, args)
  let text := joined [' '] args
  let (shown, ended) := unescaped text.length text
  if ends && !ended then shown ++ ['\n'] else shown

/-! ### Formats -/

/-- A width or a number of digits: none, a number, or what an argument says. -/
inductive Size where
  | none
  | given (n : Nat)
  | argument
  deriving Repr, DecidableEq

/-- A conversion in a format. -/
structure Conversion where
  flags : Octets
  width : Size
  precision : Size
  letter : Char
  deriving Repr

/-- A part of a format. -/
inductive FormatPart where
  | char (c : Char)
  | conversion (c : Conversion)
  /-- A conversion that there is none of, as it is written. -/
  | unknown (text : Octets)
  /-- A conversion that breaks off. -/
  | unfinished

/-- A size at the front of a text, and what follows it. -/
def sizeAt (default : Size) (cs : Octets) : Size × Octets :=
  match cs with
  | '*' :: rest => (.argument, rest)
  | _ =>
    match Integer.decimalAt? cs with
    | some (n, rest) => (.given n, rest)
    | none => (default, cs)

/-- The letters of conversions. -/
def conversionLetters : Octets :=
  ['b', 'c', 's', 'd', 'i', 'o', 'u', 'x', 'X', 'a', 'A', 'e', 'E', 'f', 'F', 'g', 'G']

/-- A conversion behind its percent sign, and what follows it. -/
def conversionAt (cs : Octets) : FormatPart × Octets :=
  let flags := cs.takeWhile fun c => ['#', '-', '+', ' ', '0'].contains c
  let (width, rest) := sizeAt .none (cs.drop flags.length)
  let (precision, rest) := match rest with
    | '.' :: rest => sizeAt (.given 0) rest
    | _ => (.none, rest)
  match rest with
  | [] => (.unfinished, [])
  | letter :: behind =>
    if conversionLetters.contains letter then
      (.conversion ⟨flags, width, precision, letter⟩, behind)
    else (.unknown ('%' :: cs.take (cs.length - behind.length)), behind)

/-- The parts of a format.  The first argument bounds their number. -/
def formatParts : Nat → Octets → List FormatPart
  | 0, _ => []
  | _, [] => []
  | fuel + 1, '\\' :: rest =>
    let (c, rest) := escapeAt rest
    .char c :: formatParts fuel rest
  | fuel + 1, '%' :: '%' :: rest => .char '%' :: formatParts fuel rest
  | fuel + 1, '%' :: rest =>
    let (part, rest) := conversionAt rest
    part :: formatParts fuel rest
  | fuel + 1, c :: rest => .char c :: formatParts fuel rest

/-- What has been made of a format. -/
structure Printing where
  args : List Octets
  /-- What was written so far, the last character first. -/
  written : Octets
  warnings : List Octets
  /-- What the format breaks off at. -/
  fault : Option Octets
  /-- Nothing is written any more. -/
  isOver : Bool

namespace Printing

def push (p : Printing) (cs : Octets) : Printing := { p with written := cs.reverse ++ p.written }

def warn (p : Printing) (message : Octets) : Printing :=
  { p with warnings := p.warnings ++ [message] }

/-- The next argument. -/
def next (p : Printing) : Option Octets × Printing := (p.args.head?, { p with args := p.args.tail })

/-- Warns if a text is not a number altogether. -/
def check (p : Printing) (text rest : Octets) (isInRange : Bool) : Printing :=
  if !rest.isEmpty then
    p.warn (text ++ octetsOf (if rest.length = text.length then ": expected numeric value"
      else ": not completely converted"))
  else if !isInRange then p.warn (text ++ octetsOf ": Numerical result out of range")
  else p

/-- The character behind a quotation mark, as a number. -/
def character? : Octets → Option Nat
  | '"' :: cs => some ((cs.head?.map Char.toNat).getD 0)
  | '\'' :: cs => some ((cs.head?.map Char.toNat).getD 0)
  | _ => none

/-- The greatest number without a sign. -/
def greatestUnsigned : Int := 0xFFFFFFFFFFFFFFFF

/-- The next argument as an integer. -/
def nextInteger (isSigned : Bool) (p : Printing) : Int × Printing :=
  match p.next with
  | (none, p) => (0, p)
  | (some text, p) =>
    match character? text with
    | some n => (n, p)
    | none =>
      match Integer.signedAt? Integer.magnitudeAt? text with
      | none => (0, p.check text text true)
      | some (n, rest) =>
        if isSigned then
          let m := Integer.clamp n
          (m, p.check text rest (m == n))
        else if greatestUnsigned < n.natAbs then (greatestUnsigned, p.check text rest false)
        else (n.emod Integer.modulus, p.check text rest true)

/-- The next argument as a number with a point. -/
def nextNumber (p : Printing) : Binary64 × Printing :=
  match p.next with
  | (none, p) => (.zero, p)
  | (some text, p) =>
    match character? text with
    | some n => (⟨false, .finite n 0⟩, p)
    | none =>
      match Binary64.at? text with
      | none => (.zero, p.check text text true)
      | some (n, rest) => (n, p.check text rest (!n.isOutOfRange text))

/-- A size, which may be the next argument. -/
def size (s : Size) (p : Printing) : Option Int × Printing :=
  match s with
  | .none => (none, p)
  | .given n => (some n, p)
  | .argument =>
    let (n, p) := p.nextInteger true
    (some n, p)

end Printing

/-- How a converted argument is set. -/
structure Slot where
  isLeft : Bool
  hasZeros : Bool
  width : Nat

namespace Slot

/-- A text in a field, without zeros. -/
def set (f : Slot) (cs : Octets) : Octets :=
  let blanks := List.replicate (f.width - cs.length) ' '
  if f.isLeft then cs ++ blanks else blanks ++ cs

/-- A number in a field: zeros stand between its sign and its digits. -/
def setNumber (f : Slot) (sign digits : Octets) : Octets :=
  if f.hasZeros && !f.isLeft then
    sign ++ List.replicate (f.width - sign.length - digits.length) '0' ++ digits
  else f.set (sign ++ digits)

end Slot

namespace Conversion

/-- The sign in front of a number. -/
def signOf (flags : Octets) (isNegative : Bool) : Octets :=
  if isNegative then ['-']
  else if flags.contains '+' then ['+']
  else if flags.contains ' ' then [' ']
  else []

/-- The digits of a number, no fewer than the precision; zero has none if none are asked for. -/
def integerDigits (base : Nat) (precision : Option Nat) (n : Nat) : Octets :=
  let digits := if n = 0 && precision = some 0 then [] else Nat.toDigits base n
  List.replicate (precision.getD 1 - digits.length) '0' ++ digits

/-- An integer in a field. -/
def integer (letter : Char) (flags : Octets) (f : Slot) (precision : Option Nat) (n : Int) :
    Octets :=
  let f := { f with hasZeros := f.hasZeros && precision.isNone }
  let isAlternate := flags.contains '#'
  match letter with
  | 'o' =>
    let digits := integerDigits 8 precision n.natAbs
    f.setNumber [] (if isAlternate && digits.head? != some '0' then '0' :: digits else digits)
  | 'u' => f.setNumber [] (integerDigits 10 precision n.natAbs)
  | 'x' =>
    f.setNumber (if isAlternate && n != 0 then ['0', 'x'] else [])
      (integerDigits 16 precision n.natAbs)
  | 'X' =>
    f.setNumber (if isAlternate && n != 0 then ['0', 'X'] else [])
      ((integerDigits 16 precision n.natAbs).map Char.toUpper)
  | _ => f.setNumber (signOf flags (n < 0)) (integerDigits 10 precision n.natAbs)

/-- A number with a point in a field. -/
def number (letter : Char) (flags : Octets) (f : Slot) (precision : Option Nat) (n : Binary64) :
    Octets :=
  let sign := signOf flags n.isNegative
  let isAlternate := flags.contains '#'
  let shown (cs : Octets) : Octets := if letter.isUpper then cs.map Char.toUpper else cs
  match n.magnitude with
  | .infinite => f.set (sign ++ shown (octetsOf "inf"))
  | .undefined => f.set (sign ++ shown (octetsOf "nan"))
  | .finite m e =>
    f.setNumber sign (shown (match letter.toLower with
      | 'f' => Binary64.positional isAlternate (precision.getD 6) m e
      | 'e' => Binary64.scientific isAlternate (precision.getD 6) m e
      | 'g' => Binary64.general isAlternate (precision.getD 6) m e
      | _ => Binary64.hexadecimal isAlternate precision m e))

/-- Carries out a conversion. -/
def apply (c : Conversion) (p : Printing) : Printing :=
  let (width, p) := p.size c.width
  let (precision, p) := p.size c.precision
  let width := width.getD 0
  let precision := precision.bind fun n => if n < 0 then none else some n.toNat
  let f : Slot := ⟨c.flags.contains '-' || width < 0, c.flags.contains '0', width.natAbs⟩
  let cut (cs : Octets) : Octets := match precision with
    | some n => cs.take n
    | none => cs
  match c.letter with
  | 's' =>
    let (text, p) := p.next
    p.push (f.set (cut (text.getD [])))
  | 'b' =>
    let (text, p) := p.next
    let text := text.getD []
    let (shown, ended) := unescaped text.length text
    { p.push (f.set (cut shown)) with isOver := ended }
  | 'c' =>
    let (text, p) := p.next
    p.push (f.set [(text.getD []).headD '\x00'])
  | letter =>
    if ['d', 'i', 'o', 'u', 'x', 'X'].contains letter then
      let (n, p) := p.nextInteger (letter == 'd' || letter == 'i')
      p.push (integer letter c.flags f precision n)
    else
      let (n, p) := p.nextNumber
      p.push (number letter c.flags f precision n)

end Conversion

namespace Printing

/-- Goes past a part of a format. -/
def part (p : Printing) (part : FormatPart) : Printing :=
  if p.isOver || p.fault.isSome then p
  else
    match part with
    | .char c => { p with written := c :: p.written }
    | .conversion c => c.apply p
    | .unknown text => { p with fault := some (text ++ octetsOf ": invalid directive") }
    | .unfinished => { p with fault := some (octetsOf "missing format character") }

/-- Uses a format as long as arguments are left over; the first argument bounds how often. -/
def run (parts : List FormatPart) : Nat → Printing → Printing
  | 0, p => p
  | fuel + 1, p =>
    let q := parts.foldl part p
    if q.isOver || q.fault.isSome || q.args.isEmpty || q.args.length = p.args.length then q
    else run parts fuel q

end Printing

/-- What is made of a format and arguments. -/
def printed (format : Octets) (args : List Octets) : Printing :=
  Printing.run (formatParts format.length format) (args.length + 1) ⟨args, [], [], none, false⟩

end BuildScan.Virtual.Shell
