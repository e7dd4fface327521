import BuildScan.Virtual.Shell.Pattern

/-!
Splitting expanded words into fields.  Only what comes from expansions is split, and only at the
characters that the shell is told to split at: blanks among them part fields in any number and count
for nothing at the ends, any other character ends one field.
-/

namespace BuildScan.Virtual.Shell

/-- What an expanded word consists of. -/
inductive Glyph where
  | char (c : Char) (isQuoted : Bool)
  /-- Quotes: there is a field here, even if it is empty. -/
  | mark
  /-- An argument ends here and another one begins. -/
  | gap
  deriving Repr, DecidableEq

/-- Where a part of an expanded word may be split. -/
inductive Splits where
  | never
  | atSeparators
  | atGaps
  deriving Repr, DecidableEq

/-- A part of an expanded word. -/
structure Piece where
  glyphs : List Glyph
  splits : Splits
  deriving Repr, DecidableEq

namespace Glyph

/-- A text as glyphs. -/
def ofText (cs : Octets) (isQuoted : Bool) : List Glyph := cs.map fun c => .char c isQuoted

/-- Glyphs as a text in which a zero byte stands between arguments. -/
def toText (glyphs : List Glyph) : Octets :=
  glyphs.filterMap fun g => match g with
    | char c _ => some c
    | gap => some '\x00'
    | mark => none

/-- A text in which a zero byte stands between arguments as glyphs. -/
def ofArguments (cs : Octets) (isQuoted : Bool) : List Glyph :=
  cs.map fun c => if c = '\x00' then .gap else .char c isQuoted

/-- The character that a glyph shows, with a mark on quoted ones. -/
def marked? : Glyph → Option Marked
  | char c q => some (c, q)
  | _ => none

/-- A glyph that is split at. -/
def separates (separators : Octets) : Glyph → Bool
  | char c _ => separators.contains c
  | mark => false
  | gap => true

/-- A glyph that is no more than a blank where it is split at. -/
def isBlank : Glyph → Bool
  | char c _ => [' ', '\t', '\n'].contains c
  | mark => false
  | gap => true

end Glyph

/-- The text of some glyphs. -/
def textOf (glyphs : List Glyph) : Octets := (glyphs.filterMap Glyph.marked?).map Prod.fst

namespace Splitting

/-- How far the splitting of a word has come. -/
structure Progress where
  /-- The fields that are finished, the last one first. -/
  fields : List (List Glyph)
  /-- The field that has begun, the last glyph first. -/
  current : List Glyph
  /-- Blanks that follow belong to what ended the last field. -/
  absorbs : Bool
  /-- How many more fields there may be; the last one takes all that is left. -/
  room : Option Nat
  /-- What the last field would be without the separators that it ends in. -/
  trimmed : Option (List Glyph)

/-- The rule for the field that takes all that is left. -/
def take (g : Glyph) (separates : Bool) (p : Progress) : Progress :=
  if separates && g.isBlank then
    { p with trimmed := p.trimmed.or (some p.current), current := g :: p.current }
  else
    { p with
      trimmed := if separates && p.absorbs then p.trimmed else none
      absorbs := false
      current := g :: p.current }

/-- The rule for a glyph that is split at. -/
def cut (g : Glyph) (absorbs : Bool) (p : Progress) : Progress :=
  if p.current.isEmpty && absorbs then { p with absorbs := false }
  else if p.room = some 1 then
    { p with
      room := some 0
      trimmed := some p.current
      current := g :: p.current
      absorbs := absorbs }
  else
    { p with
      fields := p.current.reverse :: p.fields
      current := []
      absorbs := absorbs
      room := p.room.map (· - 1) }

/-- The rule for any glyph.  Behind arguments blanks are no different from other separators. -/
def step (separators : Octets) (minds : Bool) (p : Progress) (g : Glyph) : Progress :=
  let separates := g.separates separators
  if p.room = some 0 then take g separates p
  else if p.absorbs then
    if separates then { p with current := [], absorbs := g.isBlank }
    else { p with current := [g], absorbs := false }
  else if separates then cut g (minds && g.isBlank) p
  else { p with current := g :: p.current, absorbs := false }

/-- Goes past a piece; `before` is how the last piece that may be split was. -/
def piece (separators : Octets) (before : Splits) (p : Progress) (piece : Piece) : Progress :=
  match piece.splits with
  | .never => { p with current := piece.glyphs.reverse ++ p.current }
  | .atGaps => piece.glyphs.foldl (step [] false) { p with absorbs := false }
  | .atSeparators =>
    piece.glyphs.foldl (step separators (before != .atGaps)) { p with absorbs := false }

/-- Goes past all pieces. -/
def pieces (separators : Octets) : Splits → Progress → List Piece → Splits × Progress
  | before, p, [] => (before, p)
  | before, p, first :: rest =>
    pieces separators (if first.splits = .never then before else first.splits)
      (piece separators before p first) rest

end Splitting

/-- The fields of an expanded word, no more than there is room for. -/
def fieldsOf (separators : Octets) (room : Option Nat) (word : List Piece) : List (List Glyph) :=
  let (last, p) := Splitting.pieces separators .never ⟨[], [], false, room, none⟩ word
  let rest := p.trimmed.getD p.current
  (if last = .atGaps || !rest.isEmpty then rest.reverse :: p.fields else p.fields).reverse

end BuildScan.Virtual.Shell
