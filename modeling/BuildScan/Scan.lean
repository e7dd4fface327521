import BuildScan.Directive
import BuildScan.Log
import BuildScan.Go.Fault
import BuildScan.Go.Parser

/-!
The facts of one file that its syntax shows: package, imports, functions and build directives.  Only
the top level and the declaration groups are looked into; what stands inside a function, a
specification or a fault is not seen.
-/

namespace BuildScan

open BuildScan.Text BuildScan.Go

/-- The longest line of a block comment that is looked at, in bytes. -/
def maxCommentLine : Nat := 4096

/-- What some part of a file contributes. -/
structure Findings where
  deps : List String := []
  funcs : List String := []
  directives : List Directive := []
  log : Log := []
  deriving Repr, DecidableEq

namespace Findings

def append (a b : Findings) : Findings :=
  ⟨a.deps ++ b.deps, a.funcs ++ b.funcs, a.directives ++ b.directives, a.log ++ b.log⟩

instance : Append Findings := ⟨append⟩

def none : Findings := {}

end Findings

/-- How a file is looked at. -/
structure View where
  source : List Char
  tags : BuildTags
  /-- Function names are collected. -/
  functions : Bool
  /-- Where the package clause starts; comments before it are of the header. -/
  packageStart : Nat

namespace View

/-- The directive of one comment line at a place. -/
def lineFindings (v : View) (line : List Char) (position : Position) : Findings :=
  match Directive.cgo? v.tags (trim line) with
  | some (kind, payload) => { directives := [⟨kind, String.ofList payload, position⟩] }
  | none => .none

/-- The directives of a block comment's lines from `position` on; a line that is too long ends
it. -/
def blockFindings (v : View) : Position → List (List Char) → Findings
  | _, [] => .none
  | position, line :: rest =>
    if byteSize line > maxCommentLine then
      { log := [⟨.warn, s!"Extra long comment ignored at {position.line}:{position.column}"⟩] }
    else v.lineFindings line position ++ v.blockFindings ⟨position.line + 1, 1⟩ rest

/-- The inside of a block comment. -/
def blockInside? (text : List Char) : Option (List Char) :=
  if 4 ≤ text.length && ['/', '*'].isPrefixOf text && ['*', '/'].isSuffixOf text then
    some ((text.drop 2).take (text.length - 4))
  else Option.none

/-- The directive of a comment in the header. -/
def headerFindings (text : List Char) (position : Position) : Findings :=
  match (Directive.behind? "//" text).bind fun body => Directive.target? (trim body) with
  | some target => { directives := [⟨.target, String.ofList target, position⟩] }
  | none => .none

/-- The directives of a comment behind the header. -/
def bodyFindings (v : View) (text : List Char) (position : Position) : Findings :=
  match Directive.behind? "//" text with
  | some body => v.lineFindings body position
  | none =>
    match blockInside? text with
    | some inside => v.blockFindings position (lines inside)
    | none => .none

def commentFindings (v : View) (start : Nat) (text : List Char) : Findings :=
  let position := Position.ofOffset v.source start
  if start < v.packageStart then headerFindings text position else v.bodyFindings text position

end View

/-- Nodes whose children are looked at. -/
def Go.NodeKind.isGroup : NodeKind → Bool
  | .importDeclaration => true
  | .importSpecList => true
  | .constDeclaration => true
  | .varDeclaration => true
  | .typeDeclaration => true
  | _ => false

mutual

/-- What a node contributes. -/
def View.findings (v : View) : Node → Findings
  | .mk kind span missing children =>
    let node := Node.mk kind span missing children
    let textOf (n : Node) := String.ofList (n.text v.source)
    match kind with
    | .importSpec => { deps := (node.path?.map textOf).toList }
    | .comment => v.commentFindings span.start (node.text v.source)
    | .functionDeclaration =>
      if v.functions then { funcs := (node.name?.map textOf).toList } else .none
    | _ => if kind.isGroup then v.findingsIn children else .none

/-- What some nodes contribute, one after the other. -/
def View.findingsIn (v : View) : List Node → Findings
  | [] => .none
  | n :: ns => v.findings n ++ v.findingsIn ns

end

/-- The facts of one file, before any library is looked up. -/
structure Scanned where
  package : String
  /-- Import paths as written, quotes included. -/
  deps : List String
  /-- Names of functions at the top level. -/
  funcs : List String
  /-- In the order of the text. -/
  directives : List Directive
  deriving Repr, DecidableEq

/-- Nothing is known of a file. -/
def Scanned.none : Scanned := ⟨"", [], [], []⟩

/-- The package clause of a file. -/
def Go.Node.packageClause? (root : Node) : Option Node :=
  root.namedChildren.find? fun c => c.kind = .packageClause

/-- The facts of a syntax tree.  A tree of anything but a file shows none. -/
def walk (source : List Char) (tags : BuildTags) (functions : Bool) (root : Node) :
    Scanned × Log :=
  if root.kind = .sourceFile then
    let clause := root.packageClause?
    let name := clause.bind fun c => c.namedChildren.find? fun n => n.kind = .packageIdentifier
    let view : View := ⟨source, tags, functions, (clause.map Node.start).getD 0⟩
    let found := view.findingsIn root.children
    (⟨String.ofList ((name.map (Node.text source)).getD []), found.deps, found.funcs,
      found.directives⟩, found.log)
  else (.none, [])

/-- Scans one file.  As a test unit it must be free of faults and its functions are listed. -/
def scan [Go.Parser] (tags : BuildTags) (source : String) (isTest : Bool) :
    Except BuildError Scanned × Log :=
  let text := source.toList
  let root := Go.parse text
  match rejection? text isTest root with
  | some e => (.error e, [])
  | none =>
    let result := walk text tags isTest root
    (.ok result.1, result.2)

end BuildScan
