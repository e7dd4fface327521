/-!
Places in a text counted in bytes of its UTF-8 form.  A syntax tree names its parts by byte offsets;
`slice` cuts such a part out.
-/

namespace BuildScan.Text

/-- A stretch of a text: the byte offset of its first byte and that behind its last. -/
structure Span where
  start : Nat
  stop : Nat
  deriving Repr, DecidableEq, Inhabited

/-- Number of bytes that a text takes in UTF-8. -/
def byteSize : List Char → Nat
  | [] => 0
  | c :: cs => c.utf8Size + byteSize cs

/-- The text behind the first `n` bytes; an offset inside a character drops that character. -/
def dropBytes (n : Nat) : List Char → List Char
  | [] => []
  | c :: cs => if n = 0 then c :: cs else dropBytes (n - c.utf8Size) cs

/-- The text of the first `n` bytes; an offset inside a character keeps that character. -/
def takeBytes (n : Nat) : List Char → List Char
  | [] => []
  | c :: cs => if n = 0 then [] else c :: takeBytes (n - c.utf8Size) cs

/-- The text between two byte offsets. -/
def slice (cs : List Char) (start stop : Nat) : List Char :=
  takeBytes (stop - start) (dropBytes start cs)

@[simp] theorem byteSize_append (xs ys : List Char) :
    byteSize (xs ++ ys) = byteSize xs + byteSize ys := by
  induction xs with
  | nil => simp [byteSize]
  | cons c cs ih => simp [byteSize, ih, Nat.add_assoc]

end BuildScan.Text
