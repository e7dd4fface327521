import BuildScan.Go.Node
import BuildScan.Error
import BuildScan.Text.Alphanumeric
import BuildScan.Text.Blank

/-!
Which faults of a syntax tree make a file unreadable.  In a whole-file reading every fault does.
For the header alone only those do that start before the first declaration of the body; a file
without such a declaration is all header.  Then the package clause must be the first thing in the
file apart from comments.
-/

namespace BuildScan.Go

open BuildScan.Text

/-- Declarations that end the header of a file. -/
def NodeKind.isBody : NodeKind → Bool
  | functionDeclaration => true
  | methodDeclaration => true
  | typeDeclaration => true
  | varDeclaration => true
  | constDeclaration => true
  | _ => false

/-- The words that open such a declaration. -/
def bodyKeywords : List String := ["func", "type", "var", "const"]

/-- The text starts with the word, and the word ends there. -/
def opensWith (word : String) (cs : List Char) : Bool :=
  word.toList.isPrefixOf cs &&
    !((cs.drop word.length).head?.any fun c => isAlphanumeric c || c == '_')

namespace Node

/-- The child ends the header: a declaration of the body, or a fault that starts like one. -/
def opensBody (source : List Char) (n : Node) : Bool :=
  n.kind.isBody ||
    (n.kind == .error && bodyKeywords.any fun word => opensWith word (dropBytes n.start source))

/-- Where the body of a file starts, if it has one. -/
def headerEnd? (source : List Char) (root : Node) : Option Nat :=
  (root.children.find? (opensBody source)).map start

mutual

/-- The node is a fault, or something below it is. -/
def hasFault : Node → Bool
  | mk kind span missing children =>
    (mk kind span missing children).isFault || hasFaultIn children

def hasFaultIn : List Node → Bool
  | [] => false
  | n :: ns => hasFault n || hasFaultIn ns

end

mutual

/-- The first fault of a tree in the order of the text.  Where no fault is, none is looked for. -/
def firstFault? : Node → Option Node
  | mk kind span missing children =>
    let node := mk kind span missing children
    if node.isFault then some node
    else if node.hasFault then firstFaultIn? children
    else none

def firstFaultIn? : List Node → Option Node
  | [] => none
  | n :: ns =>
    match firstFault? n with
    | some fault => some fault
    | none => firstFaultIn? ns

end

/-- How a fault is reported. -/
def faultMessage (source : List Char) (n : Node) : String :=
  if n.missing then s!"expected '{n.kind.title}'"
  else
    let near := String.ofList (trim ((n.text source).take 20))
    s!"syntax error near '{near}'"

end Node

/-- The error for a place of the source. -/
def parseError (source : List Char) (offset : Nat) (message : String) : BuildError :=
  .parse (Position.ofOffset source offset) message

/-- A fault that makes the file unreadable. -/
def fatalFault? (source : List Char) (wholeFile : Bool) (root : Node) : Option Node :=
  if root.hasFault then
    let limit := if wholeFile then none else root.headerEnd? source
    root.firstFault?.filter fun fault => limit.all fun stop => fault.start < stop
  else none

/-- The complaint about a file that does not open with its package clause. -/
def packageError? (source : List Char) (root : Node) : Option BuildError :=
  match root.namedChildren.find? fun c => c.kind ≠ .comment with
  | none => some (parseError source root.stop "expected 'package', found EOF")
  | some first =>
    if first.kind = .packageClause then none
    else some (parseError source first.start "expected 'package'")

/-- What makes a file unreadable, if anything does. -/
def rejection? (source : List Char) (wholeFile : Bool) (root : Node) : Option BuildError :=
  match fatalFault? source wholeFile root with
  | some fault => some (parseError source fault.start (fault.faultMessage source))
  | none => packageError? source root

end BuildScan.Go
