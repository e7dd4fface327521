import BuildScan.Json.Literal
import BuildScan.Json.Value

/-!
Writing values.  A layout says what is put between the tokens: nothing, or line breaks and an
indentation that grows with the depth.  An empty array or object has nothing inside in any layout.
-/

namespace BuildScan.Json

/-- The blanks between tokens. -/
structure Layout where
  /-- In front of an item and, one level further out, of a closing bracket. -/
  gap : Nat → List Char
  /-- Behind a colon. -/
  afterColon : List Char

namespace Layout

/-- No blanks at all. -/
def compact : Layout := ⟨fun _ => [], []⟩

/-- Each item on a line of its own, two spaces further in than what holds it. -/
def pretty : Layout := ⟨fun depth => '\n' :: List.replicate (2 * depth) ' ', [' ']⟩

end Layout

/-- The literal of a string value.  Without a text there is nothing that could be written. -/
def writeString (s : Option String) : List Char := writeText (s.getD "")

mutual

/-- The text of a value inside `depth` arrays and objects. -/
def Value.write (l : Layout) (depth : Nat) : Value → List Char
  | .null => "null".toList
  | .bool true => "true".toList
  | .bool false => "false".toList
  | .natural n => (toString n).toList
  | .decimal lexeme => lexeme
  | .text s => writeString s
  | .array [] => ['[', ']']
  | .array (v :: vs) =>
    '[' :: l.gap (depth + 1) ++ v.write l (depth + 1) ++ writeItems l depth vs
  | .object [] => ['\x7b', '\x7d']
  | .object ((key, v) :: ms) =>
    '\x7b' :: l.gap (depth + 1) ++ writeString key ++ ':' :: l.afterColon ++
      v.write l (depth + 1) ++ writeMembers l depth ms

/-- The items behind the first one, and the closing bracket. -/
def writeItems (l : Layout) (depth : Nat) : List Value → List Char
  | [] => l.gap depth ++ [']']
  | v :: vs => ',' :: l.gap (depth + 1) ++ v.write l (depth + 1) ++ writeItems l depth vs

/-- The members behind the first one, and the closing bracket. -/
def writeMembers (l : Layout) (depth : Nat) : List (Option String × Value) → List Char
  | [] => l.gap depth ++ ['\x7d']
  | (key, v) :: ms =>
    ',' :: l.gap (depth + 1) ++ writeString key ++ ':' :: l.afterColon ++
      v.write l (depth + 1) ++ writeMembers l depth ms

end

/-- The text of a value. -/
def Value.render (l : Layout) (v : Value) : String := String.ofList (v.write l 0)

end BuildScan.Json
