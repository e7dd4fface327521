import BuildScan.Virtual.Shell.Integer

/-!
Numbers with 53 binary digits, as they are read from texts and written with a given number of
digits.  Reading rounds to the nearest number and writing to the nearest text, in both cases to an
even last digit where two are equally near; all of it is done exactly on natural numbers.
-/

namespace BuildScan.Virtual.Shell

/-- The size of a number, its sign apart. -/
inductive Magnitude where
  /-- The number `m * 2 ^ e`. -/
  | finite (m : Nat) (e : Int)
  | infinite
  | undefined
  deriving Repr, DecidableEq

structure Binary64 where
  isNegative : Bool
  magnitude : Magnitude
  deriving Repr, DecidableEq

namespace Binary64

def zero : Binary64 := ⟨false, .finite 0 0⟩

/-- The whole number next to a quotient, an even one if two are equally near. -/
def roundedQuotient (num den : Nat) : Nat :=
  let q := num / den
  let twice := 2 * (num % den)
  if twice < den then q
  else if twice = den then q + q % 2
  else q + 1

def power (base exponent : Nat) : Nat := Nat.pow base exponent

/-- The quotient `num * 2 ^ e / den`, rounded. -/
def scaledQuotient (num den : Nat) (e : Int) : Nat :=
  if 0 ≤ e then roundedQuotient (num * power 2 e.toNat) den
  else roundedQuotient num (den * power 2 (-e).toNat)

/-- The number next to a quotient. -/
def nearest (num den : Nat) : Magnitude :=
  if num = 0 then .finite 0 0
  else
    -- the quotient lies between 2 ^ (scale - 1) and 2 ^ (scale + 1)
    let scale : Int := Int.ofNat num.log2 - Int.ofNat den.log2
    let least : Int :=
      if den * power 2 scale.toNat ≤ num * power 2 (-scale).toNat then scale else scale - 1
    let e := max (least - 52) (-1074)
    let m := scaledQuotient num den (-e)
    if 1024 ≤ least || (least = 1023 && power 2 53 ≤ m) then .infinite
    else if power 2 53 ≤ m then .finite (m / 2) (e + 1)
    else .finite m e

/-- The digits at the front of a text, with a point among them, their number behind the point, and
what follows them. -/
def pointedAt (base : Nat) (cs : Octets) : Nat × Nat × Nat × Octets :=
  let isDigit := Integer.isDigitIn base
  let number (ds : Octets) : Nat := (Integer.digitsAt base ds).1
  let front := cs.takeWhile isDigit
  match cs.drop front.length with
  | '.' :: rest =>
    let behind := rest.takeWhile isDigit
    if front.isEmpty && behind.isEmpty then (0, 0, 0, cs)
    else (number (front ++ behind), behind.length, front.length + behind.length,
      rest.drop behind.length)
  | rest => (number front, 0, front.length, rest)

/-- An exponent behind one of two letters, and what follows it. -/
def exponentAt (lower upper : Char) (cs : Octets) : Int × Octets :=
  match cs with
  | c :: rest =>
    if c == lower || c == upper then
      match rest.head? with
      | some d =>
        if d.isDigit || d == '+' || d == '-' then
          (Integer.signedAt? Integer.decimalAt? rest).getD (0, cs)
        else (0, cs)
      | none => (0, cs)
    else (0, cs)
  | [] => (0, cs)

/-- Exponents beyond this one make no difference any more. -/
def greatestExponent : Int := 5000

/-- The number `n * base ^ e`. -/
def scaled (n base : Nat) (e : Int) : Magnitude :=
  let e := max (-greatestExponent) (min greatestExponent e)
  if 0 ≤ e then nearest (n * power base e.toNat) 1 else nearest n (power base (-e).toNat)

/-- The text begins with a word, whatever the case of its letters. -/
def startsWith (word : String) (cs : Octets) : Bool :=
  word.toList.isPrefixOf (cs.map Char.toLower)

/-- The size of a number at the front of a text, and what follows it. -/
def magnitudeAt? (cs : Octets) : Option (Magnitude × Octets) :=
  let decimal : Option (Magnitude × Octets) :=
    let (n, behind, count, rest) := pointedAt 10 cs
    if count = 0 then none
    else
      let (e, rest) := exponentAt 'e' 'E' rest
      some (scaled n 10 (e - behind), rest)
  if startsWith "infinity" cs then some (.infinite, cs.drop 8)
  else if startsWith "inf" cs then some (.infinite, cs.drop 3)
  else if startsWith "nan" cs then some (.undefined, cs.drop 3)
  else if startsWith "0x" cs then
    let (n, behind, count, rest) := pointedAt 16 (cs.drop 2)
    if count = 0 then decimal
    else
      let (e, rest) := exponentAt 'p' 'P' rest
      some (scaled n 2 (e - 4 * behind), rest)
  else decimal

/-- A number at the front of a text, and what follows it. -/
def at? (cs : Octets) : Option (Binary64 × Octets) :=
  match cs.dropWhile isSpace with
  | '-' :: rest => (magnitudeAt? rest).map fun r => (⟨true, r.1⟩, r.2)
  | '+' :: rest => (magnitudeAt? rest).map fun r => (⟨false, r.1⟩, r.2)
  | rest => (magnitudeAt? rest).map fun r => (⟨false, r.1⟩, r.2)

/-- The number is out of the range that was asked for. -/
def isOutOfRange (text : Octets) : Binary64 → Bool
  | ⟨_, .infinite⟩ =>
    !(startsWith "inf" (text.dropWhile fun c => isSpace c || c == '-' || c == '+'))
  | _ => false

/-- The digits of a number in base 10, with zeros in front up to a width. -/
def padded (width n : Nat) : Octets :=
  let digits := decimal n
  List.replicate (width - digits.length) '0' ++ digits

/-- The number `m * 2 ^ e * 10 ^ k`, rounded. -/
def roundedTo (m : Nat) (e : Int) (k : Int) : Nat :=
  let num := m * power 10 k.toNat * power 2 e.toNat
  let den := power 10 (-k).toNat * power 2 (-e).toNat
  roundedQuotient num den

/-- A point and digits behind it; no point without digits unless it is asked for. -/
def fraction (keepsPoint : Bool) (digits : Octets) : Octets :=
  if digits.isEmpty && !keepsPoint then [] else '.' :: digits

/-- The number with so many digits behind the point. -/
def positional (keepsPoint : Bool) (precision m : Nat) (e : Int) : Octets :=
  let digits := padded (precision + 1) (roundedTo m e precision)
  let whole := digits.take (digits.length - precision)
  whole ++ fraction keepsPoint (digits.drop whole.length)

/-- The power of ten at the first digit, if the number is rounded to so many digits more, and those
digits. -/
def digitsFrom (more m : Nat) (e : Int) : Int × Nat :=
  if m = 0 then (0, 0)
  else
    -- an estimate from below of the power of ten
    let binary : Int := Int.ofNat m.log2 + e
    let estimate : Int := Int.fdiv (binary * 30103) 100000 - 1
    let fits (k : Int) : Bool :=
      let n := roundedTo m e (more - k)
      power 10 more ≤ n && n < power 10 (more + 1)
    let k := ([estimate, estimate + 1, estimate + 2, estimate + 3].find? fits).getD estimate
    (k, roundedTo m e (more - k))

/-- An exponent with a sign and at least two digits. -/
def exponentText (e : Int) : Octets := (if e < 0 then '-' else '+') :: padded 2 e.natAbs

/-- The number with one digit in front of the point and so many behind it. -/
def scientific (keepsPoint : Bool) (precision m : Nat) (e : Int) : Octets :=
  let (k, n) := digitsFrom precision m e
  let digits := padded (precision + 1) n
  digits.take 1 ++ fraction keepsPoint (digits.drop 1) ++ 'e' :: exponentText k

/-- The text without zeros at its end, and without a point that would then end it. -/
def withoutZeros (cs : Octets) : Octets :=
  if cs.contains '.' then
    let reversed := cs.reverse.dropWhile (· == '0')
    (if reversed.head? = some '.' then reversed.tail else reversed).reverse
  else cs

/-- The number with so many digits in all, in the shorter of the two forms. -/
def general (keepsZeros : Bool) (precision m : Nat) (e : Int) : Octets :=
  let precision := max 1 precision
  let (k, _) := digitsFrom (precision - 1) m e
  if -4 ≤ k && k < precision then
    let text := positional keepsZeros (Int.ofNat precision - 1 - k).toNat m e
    if keepsZeros then text else withoutZeros text
  else
    let text := scientific keepsZeros (precision - 1) m e
    if keepsZeros then text
    else
      let front := text.takeWhile (· != 'e')
      withoutZeros front ++ text.drop front.length

/-- The number in base 16 with a power of two behind it. -/
def hexadecimal (keepsPoint : Bool) (precision : Option Nat) (m : Nat) (e : Int) : Octets :=
  let shift := 52 - m.log2
  let (n, exponent) : Nat × Int :=
    if m = 0 then (0, 0)
    else if e ≤ -1074 then (m, -1022)
    else (m * power 2 shift, e + 52 - shift)
  let digits (count n : Nat) : Octets :=
    let ds := Nat.toDigits 16 n
    List.replicate (count + 1 - ds.length) '0' ++ ds
  let ds := match precision with
    | some p =>
      if p < 13 then digits p (roundedQuotient n (power 16 (13 - p)))
      else digits p (n * power 16 (p - 13))
    | none => ((digits 13 n).reverse.dropWhile (· == '0')).reverse
  let ds := if ds.isEmpty then ['0'] else ds
  let sign := if exponent < 0 then '-' else '+'
  ['0', 'x'] ++ ds.take 1 ++ fraction keepsPoint (ds.drop 1) ++
    'p' :: sign :: decimal exponent.natAbs

end Binary64

end BuildScan.Virtual.Shell
