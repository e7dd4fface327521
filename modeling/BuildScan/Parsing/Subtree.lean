import BuildScan.Parsing.Production

/-!
Trees that a reader builds, faults included, and what their faults cost.  A reader that cannot go on
weighs its ways out against each other, and the cheapest reading of the text is the one it returns.
A tree keeps the sums that this asks for.
-/

namespace BuildScan.Parsing

/-- A place in a text: what follows it, and the bytes and line ends before it. -/
structure Place where
  rest : List Char
  offset : Nat
  line : Nat
  deriving Inhabited

namespace Place

def ofText (text : List Char) : Place := ⟨text, 0, 0⟩

/-- The place behind the next `n` characters. -/
def advance : Nat → Place → Place
  | 0, p => p
  | n + 1, p =>
    match p.rest with
    | [] => p
    | c :: rest =>
      advance n ⟨rest, p.offset + c.utf8Size, if c = '\n' then p.line + 1 else p.line⟩

end Place

namespace Cost

/-- Losing one's way. -/
def recovery : Nat := 500

/-- A terminal that is not there. -/
def missing : Nat := 110

/-- A tree passed over. -/
def tree : Nat := 100

/-- Text passed over: a byte costs one, and a line end more. -/
def text (bytes lines : Nat) : Nat := bytes + 30 * lines

end Cost

inductive Label where
  | token (t : Nat)
  | part (v : Nat)
  /-- Text that fits nowhere. -/
  | error
  /-- Trees passed over by a reader that has lost its way. -/
  | skipped
  deriving Repr, DecidableEq, Inhabited

namespace Label

def isFault : Label → Bool
  | error => true
  | skipped => true
  | _ => false

/-- A number to compare labels by: terminals first, then parts, then what fits nowhere. -/
def order : Label → Nat
  | token t => t + 1
  | part v => 1000 + v
  | skipped => 65534
  | error => 65535

end Label

/-- What a tree is, without its children. -/
structure Trunk where
  label : Label
  /-- The name it got from the production that it stands in. -/
  name : Option String
  /-- It is a node. -/
  shown : Bool
  /-- It stands between the trees of a production. -/
  extra : Bool
  missing : Bool
  /-- Where the blanks in front of it start. -/
  margin : Place
  start : Place
  stop : Place
  cost : Nat
  weight : Int
  /-- The nodes below it. -/
  nodes : Nat
  /-- The nodes directly below it. -/
  children : Nat
  deriving Inhabited

inductive Subtree where
  | mk (trunk : Trunk) (children : List Subtree)
  deriving Inhabited

namespace Subtree

def trunk : Subtree → Trunk
  | mk t _ => t

def children : Subtree → List Subtree
  | mk _ cs => cs

def label (t : Subtree) : Label := t.trunk.label

def extra (t : Subtree) : Bool := t.trunk.extra

def cost (t : Subtree) : Nat := t.trunk.cost

def weight (t : Subtree) : Int := t.trunk.weight

def isError (t : Subtree) : Bool := t.label == .error

def withTrunk (f : Trunk → Trunk) : Subtree → Subtree
  | mk t cs => mk (f t) cs

def asExtra (t : Subtree) : Subtree := t.withTrunk fun k => { k with extra := true }

/-- Bytes and line ends of a tree without the blanks in front of it. -/
def extent (t : Subtree) : Nat × Nat :=
  (t.trunk.stop.offset - t.trunk.start.offset, t.trunk.stop.line - t.trunk.start.line)

/-- How much a tree counts where the progress of a reader is measured. -/
def progress (t : Subtree) : Nat :=
  t.trunk.nodes + (if t.trunk.shown then 1 else 0) + (if t.label == .skipped then 1 else 0)

/-- A tree without children. -/
def leaf (label : Label) (shown : Bool) (margin start stop : Place) : Subtree :=
  mk ⟨label, none, shown, false, false, margin, start, stop, 0, 0, 0, 0⟩ []

/-- A terminal that is not in the text. -/
def absent (t : Nat) (shown : Bool) (place : Place) : Subtree :=
  mk ⟨.token t, none, shown, false, true, place, place, place,
    Cost.missing + Cost.recovery, 0, 0, 0⟩ []

/-- What passing over a tree costs, in trees. -/
def burden (t : Subtree) : Nat :=
  if t.extra || (t.isError && t.children.isEmpty) then 0
  else if t.trunk.shown then 1
  else t.trunk.children

def total (ns : List Nat) : Nat := ns.foldr (· + ·) 0

/-- A tree of some others; `here` is where it stands if there are none. -/
def node (label : Label) (shown : Bool) (here : Place) (trees : List Subtree) : Subtree :=
  let margin := (trees.head?.map fun t => t.trunk.margin).getD here
  let start := (trees.head?.map fun t => t.trunk.start).getD here
  let stop := (trees.getLast?.map fun t => t.trunk.stop).getD here
  let own := total (trees.map fun t => if t.label == .skipped then 0 else t.cost)
  let fault :=
    if label.isFault then
      Cost.tree * total (trees.map burden) + Cost.recovery +
        Cost.text (stop.offset - start.offset) (stop.line - start.line)
    else 0
  let nodes := total (trees.map fun t => t.trunk.nodes + if t.trunk.shown then 1 else 0)
  let children := total (trees.map fun t => if t.trunk.shown then 1 else t.trunk.children)
  mk ⟨label, none, shown, false, false, margin, start, stop, own + fault,
    (trees.map weight).foldr (· + ·) 0, nodes, children⟩ trees

/-- Trees in a row and those of them that stand behind the last that is not extra. -/
def splitExtras (trees : List Subtree) : List Subtree × List Subtree :=
  let behind := (trees.reverse.takeWhile extra).reverse
  (trees.take (trees.length - behind.length), behind)

/-- Gives the trees of a production their names. -/
def named : List (Option String) → List Subtree → List Subtree
  | name :: names, t :: ts =>
    if t.extra then t :: named (name :: names) ts
    else
      match name with
      | some n => t.withTrunk (fun k => { k with name := some n }) :: named names ts
      | none => t :: named names ts
  | _, ts => ts
  termination_by _ ts => ts.length

/-- Readers that differ in such trees alone may go on together. -/
def alike (a b : Subtree) : Bool :=
  a.label == b.label &&
    ((0 < a.cost && 0 < b.cost) ||
      (a.trunk.start.offset - a.trunk.margin.offset ==
          b.trunk.start.offset - b.trunk.margin.offset &&
        a.extent.1 == b.extent.1 && a.children.length == b.children.length &&
        a.extra == b.extra))

mutual

/-- Compares trees by their labels and shapes, in the order of the text. -/
def compare : Subtree → Subtree → Ordering
  | mk s as, mk t bs =>
    match Ord.compare s.label.order t.label.order with
    | .eq =>
      match Ord.compare as.length bs.length with
      | .eq => compareAll as bs
      | o => o
    | o => o

def compareAll : List Subtree → List Subtree → Ordering
  | a :: as, b :: bs =>
    match compare a b with
    | .eq => compareAll as bs
    | o => o
  | _, _ => .eq

end

/-- Of two trees for one stretch of text, the second one is better. -/
def improves (a b : Subtree) : Bool :=
  if b.cost != a.cost then b.cost < a.cost
  else if b.weight != a.weight then a.weight < b.weight
  else 0 < a.cost || compare a b == .gt

end Subtree

end BuildScan.Parsing
