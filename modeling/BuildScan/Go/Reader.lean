import BuildScan.Go.Language
import BuildScan.Go.Parser

/-!
The parser that runs.  It reads a source by the grammar, and the tree that comes of it becomes one
of nodes: what is no node gives way to what stands below it.

A tree is taken only if it can be one of the source; otherwise the whole source counts as text that
fits nowhere.
-/

namespace BuildScan.Go

open BuildScan.Parsing BuildScan.Text

/-- The kind of a terminal's node. -/
def Terminal.kind (t : Terminal) : NodeKind :=
  match t with
  | .fixed text =>
    if ["_", "nil", "true", "false", "iota"].contains text then .ofTitle t.title else .token text
  | .closingQuote => .token t.title
  | _ => .ofTitle t.title

/-- The kinds of nodes by number. -/
structure Kinds where
  terminals : Array NodeKind
  parts : Array NodeKind

def Kinds.ofGrammar (g : Grammar Terminal) : Kinds :=
  ⟨g.terminals.map Terminal.kind, g.parts.map fun p => .ofTitle p.name⟩

def Kinds.find (kinds : Kinds) : Label → NodeKind
  | .token t => kinds.terminals.getD t .error
  | .part v => kinds.parts.getD v .error
  | .error => .error
  | .skipped => .error

mutual

/-- The nodes of a tree. -/
def nodesOf (kinds : Kinds) : Subtree → List Node
  | .mk t children =>
    let below := nodesOfAll kinds children
    if t.shown then
      let kind := match t.name with
        | some title => .ofTitle title
        | none => kinds.find t.label
      [.mk kind ⟨t.start.offset, t.stop.offset⟩ t.missing below]
    else below

def nodesOfAll (kinds : Kinds) : List Subtree → List Node
  | [] => []
  | t :: ts => nodesOf kinds t ++ nodesOfAll kinds ts

end

/-- The tree can be one of the source. -/
def Node.isSound (source : List Char) (root : Node) : Bool :=
  root.stop ≤ byteSize source && root.inOrder && root.commentsHold source && root.isRoot

/-- What the grammar makes of a source. -/
def readTree? (source : List Char) : Option Node :=
  match language.get.parse? source with
  | some tree => (nodesOf (Kinds.ofGrammar grammar) tree).head?
  | none => none

/-- The tree of a source that something was made of, or nothing. -/
def treeOf (source : List Char) : Option Node → Node
  | some root => if root.isSound source then root else .unreadable source
  | none => .unreadable source

/-- The parser that reads by the grammar. -/
@[reducible]
def reader : Parser := ⟨fun source => treeOf source (readTree? source)⟩

end BuildScan.Go
