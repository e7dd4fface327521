/-!
JSON values.  Members of an object keep their order and may repeat a key.
-/

namespace BuildScan.Json

inductive Value where
  | null
  | bool (b : Bool)
  /-- A number written with digits only. -/
  | natural (n : Nat)
  /-- A number with a sign, a fraction or an exponent, as written. -/
  | decimal (lexeme : List Char)
  /-- A string; `none` is one with half of a surrogate pair, which stands for no text. -/
  | text (s : Option String)
  | array (items : List Value)
  | object (members : List (Option String × Value))
  deriving Repr

namespace Value

instance : Inhabited Value := ⟨null⟩

/-- A string value. -/
def ofString (s : String) : Value := text (some s)

/-- A text, or `null` in its absence. -/
def ofOption : Option String → Value
  | some s => ofString s
  | none => null

def ofStrings (xs : List String) : Value := array (xs.map ofString)

/-- An object with well-formed keys. -/
def ofMembers (members : List (String × Value)) : Value :=
  object (members.map fun m => (some m.1, m.2))

end Value

end BuildScan.Json
