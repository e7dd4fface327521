import BuildScan.Parsing.Subtree

/-!
The stack of a reader that follows several readings at once.  Readings that part share what they
have read before, and readings that come to the same state at the same place go on as one: a node of
the stack may have several nodes below it.  A version is a reading in progress and is known by its
top node.

A link without a tree is a gap: there the reading lost its way.
-/

namespace BuildScan.Parsing

structure Link where
  below : Nat
  tree : Option Subtree
  deriving Inhabited

/-- A node of the stack, with sums over what lies below it. -/
structure StackNode where
  state : Nat
  links : List Link
  place : Place
  cost : Nat
  weight : Int
  progress : Nat
  deriving Inhabited

/-- A terminal that a scanner found. -/
structure Lookahead where
  tree : Subtree
  /-- It is a word with a terminal of its own. -/
  isWord : Bool
  deriving Inhabited

inductive Standing where
  | active
  /-- It cannot go on with the terminal found. -/
  | paused (lookahead : Lookahead)
  | halted
  deriving Inhabited

/-- A state that a reading was in before it lost its way, and how far down that is. -/
structure Earlier where
  place : Place
  depth : Nat
  state : Nat
  deriving Inhabited

structure Version where
  top : Nat
  standing : Standing
  /-- The progress at its last fault. -/
  progressAtFault : Nat
  earlier : List Earlier
  deriving Inhabited

def Version.isActive (v : Version) : Bool :=
  match v.standing with
  | .active => true
  | _ => false

def Version.isPaused (v : Version) : Bool :=
  match v.standing with
  | .paused _ => true
  | _ => false

def Version.isHalted (v : Version) : Bool :=
  match v.standing with
  | .halted => true
  | _ => false

/-- A reader at work. -/
structure Reader where
  nodes : Array StackNode
  versions : Array Version
  /-- The best reading of the whole text so far. -/
  finished : Option Subtree
  /-- How many readings have come to an end. -/
  accepted : Nat
  deriving Inhabited

namespace Reader

/-- A reader at the start of a text. -/
def start (place : Place) : Reader :=
  ⟨#[⟨1, [], place, 0, 0, 0⟩], #[⟨0, .active, 0, []⟩], none, 0⟩

def node (r : Reader) (i : Nat) : StackNode := r.nodes.getD i default

def version (r : Reader) (v : Nat) : Version := r.versions.getD v default

/-- The top node of a version. -/
def top (r : Reader) (v : Nat) : StackNode := r.node (r.version v).top

def count (r : Reader) : Nat := r.versions.size

def isActive (r : Reader) (v : Nat) : Bool := (r.version v).isActive

def modify (r : Reader) (v : Nat) (f : Version → Version) : Reader :=
  { r with versions := r.versions.modify v f }

def remove (r : Reader) (v : Nat) : Reader :=
  { r with versions := r.versions.eraseIdxIfInBounds v }

def halt (r : Reader) (v : Nat) : Reader := r.modify v fun k => { k with standing := .halted }

def add (r : Reader) (k : Version) : Reader := { r with versions := r.versions.push k }

/-- Puts a tree, or a gap, on a version. -/
def push (r : Reader) (v : Nat) (tree : Option Subtree) (state : Nat) : Reader :=
  let below := (r.version v).top
  let n := r.node below
  let fresh : StackNode := match tree with
    | none => ⟨state, [⟨below, none⟩], n.place, n.cost, n.weight, n.progress⟩
    | some t =>
      ⟨state, [⟨below, some t⟩], t.trunk.stop, n.cost + t.cost, n.weight + t.weight,
        n.progress + t.progress⟩
  let r := { r with nodes := r.nodes.push fresh }
  let top := r.nodes.size - 1
  r.modify v fun k =>
    { k with
      top := top
      progressAtFault := if tree.isNone then fresh.progress else k.progressAtFault }

/-- Two nodes are good for the same. -/
def matching (a b : StackNode) : Bool :=
  a.state == b.state && a.place.offset == b.place.offset && a.cost == b.cost

def alikeLinks (a b : Option Subtree) : Bool :=
  match a, b with
  | some s, some t => s.alike t
  | none, none => true
  | _, _ => false

/-- At most so many links leave a node. -/
def maxLinks : Nat := 8

/-- Gives a node one more link.  Where a link like it is there already, what lies below both becomes
one, in at most `fuel` steps downwards. -/
def link (fuel : Nat) (r : Reader) (target : Nat) (l : Link) : Reader :=
  match fuel with
  | 0 => r
  | fuel + 1 =>
    if l.below = target then r
    else
      let n := r.node target
      let below := r.node l.below
      let weight := below.weight + (l.tree.map Subtree.weight).getD 0
      let known := n.links.findIdx? fun k =>
        alikeLinks k.tree l.tree && (k.below == l.below || matching (r.node k.below) below)
      match known with
      | some i =>
        let k := n.links.getD i default
        if k.below = l.below then
          let heavier : Bool := match k.tree, l.tree with
            | some s, some t => s.weight < t.weight
            | _, _ => false
          if heavier then
            { r with nodes := r.nodes.modify target fun n =>
                { n with links := n.links.set i l, weight := weight } }
          else r
        else
          let r := below.links.foldl (fun r m => link fuel r k.below m) r
          { r with
            nodes := r.nodes.modify target fun n => { n with weight := max n.weight weight } }
      | none =>
        if maxLinks ≤ n.links.length then r
        else
          let progress := below.progress + (l.tree.map Subtree.progress).getD 0
          { r with nodes := r.nodes.modify target fun n =>
              { n with
                links := n.links ++ [l]
                progress := max n.progress progress
                weight := max n.weight weight } }

/-- Two versions may go on as one. -/
def mayMerge (r : Reader) (v w : Nat) : Bool :=
  r.isActive v && r.isActive w && matching (r.top v) (r.top w)

/-- Makes version `w` a part of version `v`, if they may go on as one. -/
def merge? (r : Reader) (v w : Nat) : Option Reader :=
  if r.mayMerge v w then
    let target := (r.version v).top
    let r := (r.top w).links.foldl (fun r l => link (r.nodes.size + 1) r target l) r
    let n := r.node target
    let r := if n.state = 0 then r.modify v fun k => { k with progressAtFault := n.progress } else r
    some (r.remove w)
  else none

/-- Puts version `v` in the place of version `w`. -/
def replace (r : Reader) (v w : Nat) : Reader :=
  if v = w then r
  else
    let moved := r.version v
    let old := r.version w
    let moved := if moved.earlier.isEmpty then { moved with earlier := old.earlier } else moved
    (r.modify w fun _ => moved).remove v

/-- A way down the stack: where it has come to, the trees on it in the order of the text, and how
many of them count. -/
structure Descent where
  node : Nat
  trees : List Subtree
  depth : Nat
  deriving Inhabited

/-- What to do about a way down: take it, and go on with it. -/
structure Verdict where
  take : Bool
  onward : Bool

def Descent.follow (d : Descent) (l : Link) : Descent :=
  match l.tree with
  | some t => ⟨l.below, t :: d.trees, if t.extra then d.depth else d.depth + 1⟩
  | none => ⟨l.below, d.trees, d.depth + 1⟩

/-- At most so many ways down are followed at once. -/
def maxDescents : Nat := 64

/-- The ways down that are taken, nearer ones first, in at most `fuel` steps. -/
def descend (r : Reader) (judge : Descent → Verdict) (fuel : Nat) (ways : List Descent) :
    List Descent :=
  match fuel, ways with
  | 0, _ => []
  | _, [] => []
  | fuel + 1, ways =>
    let taken := ways.filter fun d => (judge d).take
    let further := ways.filter fun d => (judge d).onward
    let links (d : Descent) := (r.node d.node).links
    let firsts := further.flatMap fun d => ((links d).take 1).map d.follow
    let others := further.flatMap fun d => ((links d).drop 1).map d.follow
    taken ++ descend r judge fuel ((firsts ++ others).take maxDescents)

/-- The ways down from a version that are taken. -/
def descents (r : Reader) (v : Nat) (judge : Descent → Verdict) : List Descent :=
  descend r judge (r.nodes.size + 1) [⟨(r.version v).top, [], 0⟩]

/-- The ways down past `depth` trees, by the nodes that they lead to. -/
def popped (r : Reader) (v depth : Nat) : List (Nat × List (List Subtree)) :=
  let ways := r.descents v fun d =>
    if d.depth = depth then ⟨true, false⟩ else ⟨false, true⟩
  ways.foldl
    (fun groups d =>
      if groups.any (·.1 == d.node) then
        groups.map fun g => if g.1 == d.node then (g.1, g.2 ++ [d.trees]) else g
      else groups ++ [(d.node, [d.trees])])
    []

/-- The states that a version was in before, down to a depth. -/
def earlierStates (r : Reader) (v maxDepth : Nat) : List Earlier :=
  let ways := r.descents v fun d =>
    if maxDepth < d.depth then ⟨false, false⟩ else ⟨true, true⟩
  ways.foldl
    (fun found d =>
      let n := r.node d.node
      let recent := found.reverse.takeWhile fun e => d.depth ≤ e.depth
      if recent.any fun e => e.depth == d.depth && e.state == n.state then found
      else found ++ [⟨n.place, d.depth, n.state⟩])
    []

end Reader

end BuildScan.Parsing
