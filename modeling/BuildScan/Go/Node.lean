import BuildScan.Text.Bytes

/-!
Syntax trees of Go files.  The kinds of nodes that decide what a file is about have names of their
own; all others are known by their titles.
-/

namespace BuildScan.Go

open BuildScan.Text

inductive NodeKind where
  | sourceFile
  | packageClause
  | packageIdentifier
  | importDeclaration
  | importSpecList
  | importSpec
  | constDeclaration
  | varDeclaration
  | typeDeclaration
  | functionDeclaration
  | methodDeclaration
  | identifier
  | rawString
  | interpretedString
  | comment
  /-- Text that fits nowhere. -/
  | error
  /-- A keyword, an operator or a mark of punctuation. -/
  | token (text : String)
  | other (title : String)
  deriving Repr, DecidableEq, Inhabited

namespace NodeKind

/-- The kinds with names of their own, by their titles. -/
def titles : List (NodeKind × String) :=
  [(sourceFile, "source_file"),
   (packageClause, "package_clause"),
   (packageIdentifier, "package_identifier"),
   (importDeclaration, "import_declaration"),
   (importSpecList, "import_spec_list"),
   (importSpec, "import_spec"),
   (constDeclaration, "const_declaration"),
   (varDeclaration, "var_declaration"),
   (typeDeclaration, "type_declaration"),
   (functionDeclaration, "function_declaration"),
   (methodDeclaration, "method_declaration"),
   (identifier, "identifier"),
   (rawString, "raw_string_literal"),
   (interpretedString, "interpreted_string_literal"),
   (comment, "comment"),
   (error, "ERROR")]

def title : NodeKind → String
  | token text => text
  | other title => title
  | kind => ((titles.find? fun t => t.1 = kind).map Prod.snd).getD ""

/-- The kind of a named node. -/
def ofTitle (title : String) : NodeKind :=
  ((titles.find? fun t => t.2 == title).map Prod.fst).getD (other title)

/-- Tokens with a fixed text have no name; all other nodes have one. -/
def isNamed : NodeKind → Bool
  | token _ => false
  | _ => true

def isString : NodeKind → Bool
  | rawString => true
  | interpretedString => true
  | _ => false

end NodeKind

/-- A syntax tree.  `missing` marks a token that a reader put where the source has none. -/
inductive Node where
  | mk (kind : NodeKind) (span : Span) (missing : Bool) (children : List Node)
  deriving Repr, Inhabited

namespace Node

def kind : Node → NodeKind
  | mk k _ _ _ => k

def span : Node → Span
  | mk _ s _ _ => s

def missing : Node → Bool
  | mk _ _ m _ => m

def children : Node → List Node
  | mk _ _ _ cs => cs

def start (n : Node) : Nat := n.span.start

def stop (n : Node) : Nat := n.span.stop

/-- The text of a node in the source that it was read from. -/
def text (source : List Char) (n : Node) : List Char := slice source n.start n.stop

/-- The node itself is a fault: text that fits nowhere, or a token that is not there. -/
def isFault (n : Node) : Bool := n.kind = .error || n.missing

/-- The children that have a name. -/
def namedChildren (n : Node) : List Node := n.children.filter fun c => c.kind.isNamed

/-- The path of an import.  In the grammar an import is a string behind an optional name, which is
an identifier, a point or `_`; so the one child that is a string is its field `path`. -/
def path? (n : Node) : Option Node := n.children.find? fun c => c.kind.isString

/-- The name of a function.  In the grammar a function is the keyword, its name, and then
parameters, a result and a body, and none of these is a bare `identifier`: types are of the kind
`type_identifier`.  So the one child that is an identifier is its field `name`. -/
def name? (n : Node) : Option Node := n.children.find? fun c => c.kind = .identifier

mutual

/-- The children of each node stand in it one behind the other. -/
def inOrder : Node → Bool
  | mk _ span _ children => inOrderWithin span.start span.stop children

/-- Some nodes stand one behind the other between two places. -/
def inOrderWithin (start stop : Nat) : List Node → Bool
  | [] => start ≤ stop
  | mk kind span missing children :: ns =>
    start ≤ span.start && inOrder (mk kind span missing children) &&
      inOrderWithin span.stop stop ns

end

end Node

end BuildScan.Go
