import BuildScan.Virtual.Shell.Octets

/-!
Integers of 64 bits and the texts that name them.  A text names a number in base 16 behind `0x`, in
base 8 behind `0`, else in base 10; where only base 10 counts, a zero in front has no meaning.
-/

namespace BuildScan.Virtual.Shell

namespace Integer

/-- The number of integers. -/
def modulus : Nat := 0x10000000000000000

def least : Int := -0x8000000000000000

def greatest : Int := 0x7FFFFFFFFFFFFFFF

/-- Numbers wrap around. -/
def wrap (n : Int) : Int := n.bmod modulus

/-- The nearest integer to a number. -/
def clamp (n : Int) : Int := max least (min greatest n)

/-- The bits of a number. -/
def bits (n : Int) : UInt64 := UInt64.ofInt n

/-- The number that some bits are. -/
def ofBits (b : UInt64) : Int := b.toInt64.toInt

/-- The value of a digit in base 16. -/
def digit? (c : Char) : Option Nat :=
  if c.isDigit then some (c.toNat - 48)
  else if 'a' ≤ c && c ≤ 'f' then some (c.toNat - 87)
  else if 'A' ≤ c && c ≤ 'F' then some (c.toNat - 55)
  else none

/-- The character is a digit in a base. -/
def isDigitIn (base : Nat) (c : Char) : Bool :=
  match digit? c with
  | some d => d < base
  | none => false

/-- The number that digits in a base write at the front of a text, and what follows them. -/
def digitsAt (base : Nat) (cs : Octets) : Nat × Octets :=
  ((cs.takeWhile (isDigitIn base)).foldl (fun n c => n * base + (digit? c).getD 0) 0,
    cs.dropWhile (isDigitIn base))

/-- A number without a sign at the front of a text. -/
def magnitudeAt? (cs : Octets) : Option (Nat × Octets) :=
  match cs with
  | '0' :: x :: d :: rest =>
    if (x == 'x' || x == 'X') && isDigitIn 16 d then some (digitsAt 16 (d :: rest))
    else some (digitsAt 8 cs)
  | '0' :: _ => some (digitsAt 8 cs)
  | c :: _ => if c.isDigit then some (digitsAt 10 cs) else none
  | [] => none

/-- A number in base 10 at the front of a text. -/
def decimalAt? (cs : Octets) : Option (Nat × Octets) :=
  match cs with
  | c :: _ => if c.isDigit then some (digitsAt 10 cs) else none
  | [] => none

/-- A number with spaces and a sign in front of it. -/
def signedAt? (magnitude? : Octets → Option (Nat × Octets)) (cs : Octets) :
    Option (Int × Octets) :=
  match cs.dropWhile isSpace with
  | '-' :: rest => (magnitude? rest).map fun r => (-(Int.ofNat r.1), r.2)
  | '+' :: rest => (magnitude? rest).map fun r => (Int.ofNat r.1, r.2)
  | rest => (magnitude? rest).map fun r => (Int.ofNat r.1, r.2)

/-- The integer that a whole text names, spaces around it apart. -/
def ofText? (magnitude? : Octets → Option (Nat × Octets)) (cs : Octets) : Option Int :=
  match signedAt? magnitude? cs with
  | some (n, rest) => if rest.all isSpace && least ≤ n && n ≤ greatest then some n else none
  | none => none

/-- The integer that a text names in base 10. -/
def ofDecimal? (cs : Octets) : Option Int := ofText? decimalAt? cs

/-- The greatest number that counts something. -/
def greatestCount : Int := 0x7FFFFFFF

/-- A number that counts something. -/
def count? (cs : Octets) : Option Nat :=
  match ofDecimal? cs with
  | some n => if 0 ≤ n && n ≤ greatestCount then some n.toNat else none
  | none => none

end Integer

end BuildScan.Virtual.Shell
