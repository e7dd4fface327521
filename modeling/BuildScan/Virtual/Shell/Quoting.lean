import BuildScan.Virtual.Shell.Octets

/-!
File names in messages of programs.  A name that a shell reads back as it is stands for itself.  Any
other name is put between apostrophes, with bytes that cannot be shown as escapes between `$'` and
`'`; but a name with apostrophes in it, which is harmless otherwise, is put between double quotes.
-/

namespace BuildScan.Virtual.Shell

namespace Quoting

/-- The characters that a shell does not take for themselves. -/
def special : Octets := " !\"$&'()*:;<=>?[\\^\x60|".toList

/-- The byte is a letter, a digit, a sign or a blank. -/
def isShown (c : Char) : Bool := ' ' ≤ c && c ≤ '~'

/-- A shell does not read back the name as it is. -/
def isNeeded (name : Octets) : Bool :=
  match name with
  | [] => true
  | ['\x7b'] => true
  | ['\x7d'] => true
  | '#' :: _ => true
  | '~' :: _ => true
  | cs => cs.any fun c => special.contains c || !isShown c

/-- The character does not bother between double quotes. -/
def isHarmless (c : Char) : Bool :=
  c.isAlphanum || [' ', '\'', '%', '+', ',', '-', '.', '/', ':', ']', '_', '@'].contains c

/-- The name does not bother between double quotes; two signs do not at its front. -/
def isHarmlessName (name : Octets) : Bool :=
  match name with
  | c :: cs => (isHarmless c || c == '#' || c == '~') && cs.all isHarmless
  | [] => true

/-- What stands behind the backslash of an escape. -/
def escape (c : Char) : Octets :=
  let digit (n : Nat) : Char := Char.ofNat (48 + n % 8)
  match [('\x07', 'a'), ('\x08', 'b'), ('\x0c', 'f'), ('\n', 'n'), ('\r', 'r'), ('\t', 't'),
      ('\x0b', 'v')].lookup c with
  | some letter => [letter]
  | none => [digit (c.toNat / 64), digit (c.toNat / 8), digit c.toNat]

/-- The name between apostrophes, without the first one; the flag says that escapes stand in
front. -/
def rest : Bool → Octets → Octets
  | _, [] => ['\'']
  | _, '\'' :: cs => '\'' :: '\\' :: '\'' :: '\'' :: rest false cs
  | escapes, c :: cs =>
    if isShown c then (if escapes then ['\'', '\''] else []) ++ c :: rest false cs
    else (if escapes then ['\\'] else ['\'', '$', '\'', '\\']) ++ escape c ++ rest true cs

end Quoting

/-- A file name as a program shows it. -/
def quotedName (name : Octets) : Octets :=
  if !Quoting.isNeeded name then name
  else if name.contains '\'' && Quoting.isHarmlessName name then '"' :: name ++ ['"']
  else '\'' :: Quoting.rest false name

end BuildScan.Virtual.Shell
