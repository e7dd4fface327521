import BuildScan.Tags

/-!
Build directives: instructions in comments.  `target: NAME` in the header of a file names the
platform that it is for; a line `#cgo [CONDITION] KEYWORD: PAYLOAD` gives flags for the compiler or
the linker, or names libraries whose flags have to be looked up.
-/

namespace BuildScan

open BuildScan.Text

inductive DirectiveKind where
  | target
  | compileFlags
  | linkFlags
  | pkgConfig
  deriving Repr, DecidableEq, Inhabited

structure Directive where
  kind : DirectiveKind
  /-- What follows the keyword, without the blanks around it. -/
  payload : String
  position : Position
  deriving Repr, DecidableEq, Inhabited

namespace Directive

/-- The libraries that a directive names; only one kind names any. -/
def libraries (d : Directive) : List String :=
  match d.kind with
  | .pkgConfig => wordsOf d.payload
  | _ => []

/-- The text behind a leading word. -/
def behind? (word : String) (cs : List Char) : Option (List Char) :=
  if word.toList.isPrefixOf cs then some (cs.drop word.length) else none

/-- The target that a trimmed comment line names. -/
def target? (line : List Char) : Option (List Char) :=
  (behind? "target:" line).bind fun rest => (words rest).head?

/-- What a line says once its condition holds: a first word without a colon at its end is a
condition. -/
def unconditional? (tags : BuildTags) (rest : List Char) : Option (List Char) :=
  match words rest with
  | [] => some rest
  | first :: _ =>
    if first.getLast? = some ':' then some rest
    else if tags.holds first then some (trimStart (rest.drop first.length))
    else none

/-- Each keyword and the kind of directive that it makes. -/
def keywords : List (String × DirectiveKind) :=
  [("CFLAGS:", .compileFlags), ("LDFLAGS:", .linkFlags), ("pkg-config:", .pkgConfig)]

/-- The directive that a text makes by the keyword in front of it. -/
def keyed? (message : List Char) : Option (DirectiveKind × List Char) :=
  keywords.findSome? fun k => (behind? k.1 message).map fun payload => (k.2, trim payload)

/-- The directive that a trimmed comment line makes under some tags. -/
def cgo? (tags : BuildTags) (line : List Char) : Option (DirectiveKind × List Char) :=
  (behind? "#cgo" line).bind fun rest =>
    if opensBlank rest then (unconditional? tags (trim rest)).bind keyed? else none

end Directive

end BuildScan
