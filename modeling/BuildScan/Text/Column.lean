/-!
Texts in columns of a given width.
-/

namespace BuildScan.Text

inductive Alignment where
  | left
  | right
  | center
  deriving Repr, DecidableEq

/-- Some spaces. -/
def spaces (n : Nat) : String := String.ofList (List.replicate n ' ')

/-- A text cut to `precision` characters, if given, and filled up to `width` of them; of a filling
in the middle the larger part comes last. -/
def padded (alignment : Alignment) (width : Nat) (precision : Option Nat) (s : String) : String :=
  let shown := match precision with
    | some n => String.ofList (s.toList.take n)
    | none => s
  let gap := width - shown.length
  match alignment with
  | .left => shown ++ spaces gap
  | .right => spaces gap ++ shown
  | .center => spaces (gap / 2) ++ shown ++ spaces (gap - gap / 2)

end BuildScan.Text
