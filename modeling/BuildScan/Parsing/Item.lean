import BuildScan.Parsing.Production

/-!
Items: how far a production has been read.  An item keeps what is still to come but forgets what it
has passed, apart from the number of places and the names given there, so that productions that go
on alike share their items.

Each item set is closed under opening: an item in front of a part brings the items with which that
part begins.  What a part brings does not depend on the item that opens it, except for the terminals
behind.
-/

namespace BuildScan.Parsing

structure Item where
  owner : Nat
  passed : Nat
  names : List (Option String)
  rest : List Step
  rank : Rank
  weight : Int
  deriving Repr, DecidableEq, Hashable, Inhabited

namespace Item

/-- A production behind `passed` of its places. -/
def ofProduction (p : Production) (passed : Nat) : Item :=
  ⟨p.owner, passed, (p.steps.take passed).map Step.name, p.steps.drop passed, p.rank, p.weight⟩

def next? (i : Item) : Option Symbol := i.rest.head?.map Step.symbol

/-- The item behind the next place. -/
def advanced (i : Item) : Item :=
  match i.rest with
  | [] => i
  | s :: rest => { i with passed := i.passed + 1, names := i.names ++ [s.name], rest := rest }

end Item

/-- An item that opening a part brings, and the terminals that may follow it: those given, and, if
it inherits, those behind the part. -/
structure Opening where
  item : Nat
  tokens : TokenSet
  inherits : Bool
  deriving Inhabited

/-- The items of a grammar by number, with what is asked about each of them. -/
structure Items where
  all : Array Item
  next : Array (Option Symbol)
  /-- The number of the item behind the next place. -/
  after : Array Nat
  /-- What may follow the next place, if the production does not end there. -/
  behind : Array (Option TokenSet)
  /-- For each part, what opening it brings. -/
  openings : Array (Array Opening)
  deriving Inhabited

namespace Grammar

variable {τ : Type}

/-- The production of a whole text; its owner is none of the parts. -/
def whole (g : Grammar τ) : Production := ⟨g.parts.size, [⟨.part 0, none⟩], {}, 0⟩

def productions (g : Grammar τ) : List Production :=
  g.parts.toList.flatMap Part.productions ++ [g.whole]

/-- All items: by the number of places passed, then in the order of the productions. -/
def itemList (g : Grammar τ) : List Item :=
  let productions := g.productions
  let longest := productions.foldl (fun n p => max n p.steps.length) 0
  (List.range (longest + 1)).flatMap fun passed =>
    (productions.filter fun p => passed ≤ p.steps.length).map fun p => Item.ofProduction p passed

/-- What is known about the parts that opening a part opens in turn. -/
abbrev Reached := Array (Option (TokenSet × Bool))

def Reached.add (r : Reached) (v : Nat) (tokens : TokenSet) (inherits : Bool) : Reached :=
  match r.getD v none with
  | none => r.setIfInBounds v (some (tokens, inherits))
  | some (old, inherited) => r.setIfInBounds v (some (old.union tokens, inherited || inherits))

/-- Opens each part that is known to be opened. -/
def openRound (g : Grammar τ) (first : Array TokenSet) (reached : Reached) : Reached :=
  g.parts.foldl
    (fun reached p => p.productions.foldl
      (fun (reached : Reached) production =>
        match reached.getD production.owner none, production.steps with
        | some (tokens, inherits), s :: more =>
          match s.symbol, more with
          | .part v, [] => reached.add v tokens inherits
          | .part v, t :: _ => reached.add v (firstOf first t.symbol) false
          | .token _, _ => reached
        | _, _ => reached)
      reached)
    reached

/-- The parts that opening a part opens.  Every round but the last opens another one or adds to what
may follow one. -/
def reachedFrom (g : Grammar τ) (first : Array TokenSet) (v : Nat) : Reached :=
  let start : Reached := (Array.replicate g.parts.size none).setIfInBounds v (some (.empty, true))
  let rec rounds : Nat → Reached → Reached
    | 0, reached => reached
    | n + 1, reached =>
      let next := g.openRound first reached
      if next == reached then reached else rounds n next
  rounds (g.parts.size * (g.terminals.size + 2)) start

def items (g : Grammar τ) (first : Array TokenSet) : Items :=
  let numbered := g.itemList.foldl
    (fun (done : Array Item × Std.HashMap Item Nat) i =>
      if done.2.contains i then done else (done.1.push i, done.2.insert i done.1.size))
    (#[], {})
  let all := numbered.1
  let numberOf (i : Item) := numbered.2.getD i 0
  let begun := g.parts.map fun p => p.productions.map fun production =>
    numberOf (Item.ofProduction production 0)
  let openings := (Array.range g.parts.size).map fun v =>
    let reached := g.reachedFrom first v
    let opened := (List.range g.parts.size).flatMap fun u =>
      match reached.getD u none with
      | some (tokens, inherits) =>
        (begun.getD u []).map fun i => (⟨i, tokens, inherits⟩ : Opening)
      | none => []
    opened.toArray
  ⟨all, all.map Item.next?, all.map fun i => numberOf i.advanced,
    all.map fun i => (i.rest.tail.head?).map fun s => firstOf first s.symbol, openings⟩

end Grammar

end BuildScan.Parsing
