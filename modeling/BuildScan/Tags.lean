import BuildScan.Config

/-!
Conditions on build tags.  A condition is a list of terms that commas part and that must all hold; a
term is the name of a tag, or such a name behind `!`.  A term of any other form never holds, so a
condition with such a term fails, negated or not.
-/

namespace BuildScan

open BuildScan.Text

/-- The tags that a build satisfies. -/
structure BuildTags where
  satisfied : List String
  deriving Repr, DecidableEq, Inhabited

/-- The parts of a text between the occurrences of a character; there is always one more of them. -/
def splitAt (separator : Char) : List Char → List (List Char)
  | [] => [[]]
  | c :: cs =>
    if c = separator then [] :: splitAt separator cs
    else match splitAt separator cs with
      | [] => [[c]]
      | part :: parts => (c :: part) :: parts

namespace BuildTags

/-- The tags of a build for the configured platform, with calls to C enabled. -/
def ofConfig (config : Config) : BuildTags := ⟨config.goos :: config.goarch :: "cgo" :: config.tags⟩

/-- A character of a tag's name. -/
def isNameChar (c : Char) : Bool := c.isAlphanum || c == '_' || c == '.'

/-- Names are not empty and hold ASCII letters, digits, underscores and points only. -/
def isName (cs : List Char) : Bool := !cs.isEmpty && cs.all isNameChar

/-- The name is one of the satisfied tags. -/
def has (tags : BuildTags) (name : List Char) : Bool :=
  tags.satisfied.contains (String.ofList name)

/-- The term is a name that is satisfied, or a negated one that is not. -/
def termHolds (tags : BuildTags) : List Char → Bool
  | '!' :: name => isName name && !tags.has name
  | name => isName name && tags.has name

/-- Every term of the condition holds, and the condition is not empty. -/
def holds (tags : BuildTags) (condition : List Char) : Bool :=
  if condition.isEmpty then false else (splitAt ',' condition).all tags.termHolds

/-- Whether a condition given as a string holds. -/
def accepts (tags : BuildTags) (condition : String) : Bool := tags.holds condition.toList

end BuildTags

end BuildScan
