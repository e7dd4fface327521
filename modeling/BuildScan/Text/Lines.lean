import BuildScan.Text.Bytes

/-!
Lines of a text and places in it.  A line ends at `\n` only; a `\r` right before that `\n` belongs
to the ending.  A position counts lines and, within the line, bytes, both from one.
-/

namespace BuildScan.Text

/-- Line and column of a place, both from one; the column counts bytes. -/
structure Position where
  line : Nat
  column : Nat
  deriving Repr, DecidableEq, Inhabited

namespace Position

/-- The first place of a text. -/
def origin : Position := ⟨1, 1⟩

/-- The place behind one more character. -/
def next (p : Position) (c : Char) : Position :=
  if c = '\n' then ⟨p.line + 1, 1⟩ else ⟨p.line, p.column + c.utf8Size⟩

/-- The place behind a stretch of text. -/
def after (p : Position) (cs : List Char) : Position := cs.foldl next p

/-- The place at a byte offset of a text. -/
def ofOffset (source : List Char) (offset : Nat) : Position :=
  origin.after (takeBytes offset source)

end Position

/-- Puts a character in front of the first of some lines. -/
def extendFirst (c : Char) : List (List Char) → List (List Char)
  | [] => [[c]]
  | l :: ls => (c :: l) :: ls

/-- The lines of a text without their endings.  A last line without an ending keeps its `\r`; an
ending at the very end opens no further line. -/
def lines : List Char → List (List Char)
  | [] => []
  | '\n' :: cs => [] :: lines cs
  | '\r' :: '\n' :: cs => [] :: lines cs
  | c :: cs => extendFirst c (lines cs)

end BuildScan.Text
