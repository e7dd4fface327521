import BuildScan.Parsing.Automaton
import BuildScan.Parsing.Stack

/-!
Reading by an automaton.  Every version of the reader scans a terminal and does what its state says:
where that is several things, one version does the last of them and new versions do the others.
-/

namespace BuildScan.Parsing

/-- What a scanner finds at a place: a terminal, and the one that it is as a word, or no terminal at
all; then `stop` is where looking for one ended. -/
inductive Found where
  | terminal (t : Nat) (word : Option Nat) (start stop : Place)
  | nothing (start stop : Place)
  deriving Inhabited

/-- A language as a reader knows it. -/
structure Language where
  automaton : Automaton
  lexicon : Lexicon
  /-- Terminals that are no nodes. -/
  hidden : TokenSet
  /-- The parts that are nodes. -/
  shownParts : Array Bool
  /-- Looks for one of some terminals. -/
  scan : TokenSet → Place → Found

namespace Language

variable (l : Language)

def actionsOn (state t : Nat) : List Action := l.automaton.actionsOn state t

def reads (state t : Nat) : Bool := !(l.actionsOn state t).isEmpty

/-- Where reading a terminal leads; 0 if nowhere. -/
def afterToken (state t : Nat) : Nat := (shiftTarget? (l.actionsOn state t)).getD 0

def isShown : Label → Bool
  | .token t => t != l.lexicon.finish && !l.hidden.has t
  | .part v => l.shownParts.getD v false
  | .error => true
  | .skipped => false

/-- The word is never just a name in the state. -/
def reserves (state t : Nat) : Bool :=
  l.lexicon.reserved.has t && l.reads state l.lexicon.word

/-- The state of a reader that has lost its way. -/
def lost : Nat := 0

def leaf (t : Nat) (margin start stop : Place) : Subtree :=
  (Subtree.leaf (.token t) (l.isShown (.token t)) margin start stop).withTrunk fun k =>
    { k with extra := t == l.lexicon.finish }

/-- Text in which no terminal is found, up to the next one, in at most `fuel` steps. -/
def strayEnd (fuel : Nat) (stop : Place) : Place :=
  match fuel with
  | 0 => stop
  | fuel + 1 =>
    match l.scan (l.automaton.sought.getD lost .empty) stop with
    | .terminal _ _ _ _ => stop
    | .nothing _ further =>
      if further.offset = stop.offset then
        if stop.rest.isEmpty then stop else strayEnd fuel (stop.advance 1)
      else strayEnd fuel further

/-- The terminal at a place, looked for as a state does, then as a lost reader does. -/
def lookahead (state : Nat) (place : Place) : Lookahead :=
  let found := match l.scan (l.automaton.sought.getD state .empty) place with
    | .nothing _ _ => l.scan (l.automaton.sought.getD lost .empty) place
    | f => f
  match found with
  | .terminal t word start stop =>
    let read := match word with
      | some w => if state = lost || l.reads state w || l.reserves state w then w else t
      | none => t
    ⟨l.leaf read place start stop, word.isSome⟩
  | .nothing start stop =>
    let first := if stop.offset = start.offset then start.advance 1 else stop
    let stop := l.strayEnd (place.rest.length + 1) first
    ⟨Subtree.leaf .error true place start stop, false⟩

end Language

/-- What a terminal counts as where a reader asks its state. -/
def Lookahead.terminal (look : Lookahead) (l : Language) : Nat :=
  match look.tree.label with
  | .token t => t
  | _ => l.lexicon.finish + 1

namespace Reader

variable (l : Language)

/-- A tree of a part, from the trees that a reduction takes. -/
def reduced (k : Reduction) (here : Place) (trees : List Subtree) : Subtree :=
  let label := Label.part k.part
  (Subtree.node label (l.isShown label) here (Subtree.named k.names trees)).withTrunk fun t =>
    { t with weight := t.weight + k.weight }

/-- Versions beyond this number are not even begun. -/
def maxBegun : Nat := 10

/-- Versions beyond this number are given up. -/
def maxVersions : Nat := 6

/-- The first version below `v` other than `except` that `v` may join does so. -/
def joinEarlier (r : Reader) (v except : Nat) : Reader :=
  let joined := (List.range v).findSome? fun w => if w = except then none else r.merge? w v
  joined.getD r

/-- Takes trees off a version and puts one of a part on what is below, as a new version for each
node that it comes to.  The second value is the first new version. -/
def reduce (r : Reader) (v : Nat) (k : Reduction) : Reader × Option Nat :=
  let before := r.count
  let halted := (r.versions.filter Version.isHalted).size
  let original := r.version v
  let r := (r.popped v k.count).foldl
    (fun r group =>
      let here := r.count
      if maxBegun + halted < here then r
      else
        let n := r.node group.1
        let read := group.2.map fun trees =>
          let parted := Subtree.splitExtras trees
          (reduced l k n.place parted.1, parted.2)
        match read with
        | [] => r
        | one :: others =>
          let best := others.foldl
            (fun (best : Subtree × List Subtree) other =>
              if best.1.improves other.1 then other else best)
            one
          let state := l.automaton.goto n.state k.part
          let r := r.add ⟨group.1, .active, original.progressAtFault, []⟩
          let r := (best.1 :: best.2).foldl (fun r t => r.push here (some t) state) r
          r.joinEarlier here v)
    r
  (r, if before < r.count then some before else none)

/-- The trees of a version make a tree of the whole text. -/
def accept (r : Reader) (v : Nat) (finish : Subtree) : Reader :=
  let r := r.push v (some finish) 1
  let ways := r.descents v fun d => ⟨(r.node d.node).links.isEmpty, true⟩
  let roots := ways.filterMap fun d =>
    let parted := Subtree.splitExtras d.trees
    match parted.1.getLast? with
    | some t =>
      let trees := parted.1.dropLast ++ t.children ++ parted.2
      let label := t.label
      some (Subtree.node label (l.isShown label) t.trunk.start trees)
    | none => none
  let r := roots.foldl
    (fun (r : Reader) root =>
      let better := match r.finished with
        | none => true
        | some old => old.improves root
      { r with
        finished := if better then some root else r.finished
        accepted := r.accepted + 1 })
    r
  r.halt v

end Reader

end BuildScan.Parsing
