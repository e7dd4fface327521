import BuildScan.Text.Printable

/-!
Texts in quotes that stay on one line: what does not show on its own is written as an escape.
-/

namespace BuildScan.Text

/-- Digits of a number in base 16, in lower case. -/
def hexDigits (n : Nat) : List Char := Nat.toDigits 16 n

/-- A character inside quotes. -/
def quoteChar (c : Char) : List Char :=
  if c = '"' then ['\\', '"']
  else if c = '\\' then ['\\', '\\']
  else if c = '\n' then ['\\', 'n']
  else if c = '\r' then ['\\', 'r']
  else if c = '\t' then ['\\', 't']
  else if c.toNat = 0 then ['\\', '0']
  else if isShown c then [c]
  else ['\\', 'u', '\x7b'] ++ hexDigits c.toNat ++ ['\x7d']

/-- A text in quotes. -/
def quoted (s : String) : String := String.ofList ('"' :: s.toList.flatMap quoteChar ++ ['"'])

/-- Quoted texts in brackets. -/
def quotedList (xs : List String) : String := "[" ++ String.intercalate ", " (xs.map quoted) ++ "]"

end BuildScan.Text
