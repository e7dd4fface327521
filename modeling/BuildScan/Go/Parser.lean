import BuildScan.Go.Lexeme
import BuildScan.Go.Node

/-!
What makes a syntax tree of a source.  A scan does not care how its trees come about, so the parser
is a parameter of it.

Positions are told from the places of nodes.  Where that matters the nodes have to stand in order,
the comments have to be comments, and the root has to be a file or a fault; all three can be
checked.
-/

namespace BuildScan.Go

open BuildScan.Text

/-- A parser of Go files. -/
class Parser where
  /-- The syntax tree of a source. -/
  parse : List Char → Node

export Parser (parse)

namespace Node

mutual

/-- Every comment is one that a scanner would read. -/
def commentsHold (source : List Char) : Node → Bool
  | mk kind span _ children =>
    let text := slice source span.start span.stop
    (kind ≠ .comment || Lexeme.comment? text == some text.length) &&
      commentsHoldIn source children

def commentsHoldIn (source : List Char) : List Node → Bool
  | [] => true
  | n :: ns => commentsHold source n && commentsHoldIn source ns

end

/-- The node can be the root of a tree: a file, or text that makes none. -/
def isRoot (n : Node) : Bool := n.kind = .sourceFile || n.kind = .error

/-- The tree of a source that nothing can be made of. -/
def unreadable (source : List Char) : Node :=
  let all : Span := ⟨0, byteSize source⟩
  mk .sourceFile all false [mk .error all false []]

end Node

end BuildScan.Go
