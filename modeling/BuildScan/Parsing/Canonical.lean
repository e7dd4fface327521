import BuildScan.Parsing.Item

/-!
The canonical automaton of a grammar.  A state is a set of items, each with the terminals that may
follow its part; reading a symbol leads to the items behind it.  Where a state could both go on and
reduce, rank and side decide; what they leave open stays open, and a reader tries all of it.
-/

namespace BuildScan.Parsing

/-- A number of trees become one of a part. -/
structure Reduction where
  part : Nat
  count : Nat
  weight : Int
  names : List (Option String)
  deriving Repr, DecidableEq, Inhabited

inductive Action where
  /-- Reads the terminal; `again` says that this only begins a repetition anew. -/
  | shift (state : Nat) (again : Bool)
  | reduce (reduction : Reduction)
  | accept
  deriving Repr, DecidableEq, Inhabited

/-- The items that a state is made from, by number, with the terminals that may follow. -/
abbrev Kernel := List (Nat × TokenSet)

/-- Adds an item, or what may follow it. -/
def Kernel.add (item : Nat) (tokens : TokenSet) : Kernel → Kernel
  | [] => [(item, tokens)]
  | (i, known) :: rest =>
    if i = item then (i, known.union tokens) :: rest
    else if item < i then (item, tokens) :: (i, known) :: rest
    else (i, known) :: Kernel.add item tokens rest

/-- What a state does, by terminal and by part. -/
structure State where
  /-- States of one core differ only in the terminals that may follow. -/
  core : Nat
  actions : List (Nat × List Action)
  gotos : List (Nat × Nat)
  deriving Inhabited

/-- The reductions of a state on one terminal. -/
structure Claims where
  actions : List Action
  precedence : Int
  leftwards : Bool
  rightwards : Bool
  sideless : Bool

namespace Claims

def ofRank (a : Action) (rank : Rank) : Claims :=
  ⟨[a], rank.precedence, rank.side == some .left, rank.side == some .right, rank.side == none⟩

/-- One more reduction, unless those known rank higher; lower ones give way to it. -/
def add (known : Option Claims) (a : Action) (rank : Rank) : Claims :=
  let fresh := ofRank a rank
  match known with
  | none => fresh
  | some c =>
    if c.precedence < rank.precedence then fresh
    else if rank.precedence < c.precedence then c
    else
      ⟨c.actions ++ [a], c.precedence, c.leftwards || fresh.leftwards,
        c.rightwards || fresh.rightwards, c.sideless || fresh.sideless⟩

end Claims

/-- The automaton as far as it is built. -/
structure Building where
  kernels : Array Kernel
  numbers : Std.HashMap Kernel Nat
  cores : Std.HashMap (List Nat) Nat
  states : Array State
  deriving Inhabited

namespace Building

/-- The number of the state made from a kernel, which is new if none was made from it yet. -/
def number (b : Building) (k : Kernel) : Nat × Building :=
  match b.numbers[k]? with
  | some n => (n, b)
  | none =>
    let n := b.kernels.size
    (n, { b with kernels := b.kernels.push k, numbers := b.numbers.insert k n })

/-- The number of a kernel's core. -/
def core (b : Building) (k : Kernel) : Nat × Building :=
  let items := k.map Prod.fst
  match b.cores[items]? with
  | some n => (n, b)
  | none => (b.cores.size, { b with cores := b.cores.insert items b.cores.size })

end Building

/-- A grammar with what building its automaton asks for. -/
structure Workshop where
  items : Items
  first : Array TokenSet
  parts : Array Part
  /-- The number of terminals with the end of the text. -/
  tokenCount : Nat

namespace Workshop

/-- The items of a state with what may follow each; items that are not there have nothing. -/
def closure (w : Workshop) (kernel : Kernel) : Array TokenSet :=
  let start := kernel.foldl (fun (found : Array TokenSet) k => found.setIfInBounds k.1 k.2)
    (Array.replicate w.items.all.size .empty)
  kernel.foldl
    (fun found k =>
      match w.items.next.getD k.1 none with
      | some (.part v) =>
        let behind := (w.items.behind.getD k.1 none).getD k.2
        (w.items.openings.getD v #[]).foldl
          (fun (found : Array TokenSet) o =>
            let more := if o.inherits then o.tokens.union behind else o.tokens
            found.setIfInBounds o.item ((found.getD o.item .empty).union more))
          found
      | _ => found)
    start

/-- The items of a state, in order. -/
def present (w : Workshop) (closed : Array TokenSet) : List (Nat × TokenSet) :=
  (List.range w.items.all.size).filterMap fun i =>
    let tokens := closed.getD i .empty
    if tokens.isEmpty then none else some (i, tokens)

/-- Where each terminal and each part leads. -/
structure Successors where
  tokens : Array Kernel
  parts : Array Kernel

def successors (w : Workshop) (items : List (Nat × TokenSet)) : Successors :=
  items.foldl
    (fun (s : Successors) i =>
      let after := w.items.after.getD i.1 0
      match w.items.next.getD i.1 none with
      | some (.token t) => { s with tokens := s.tokens.modify t (Kernel.add after i.2) }
      | some (.part v) => { s with parts := s.parts.modify v (Kernel.add after i.2) }
      | none => s)
    ⟨Array.replicate w.tokenCount [], Array.replicate w.parts.size []⟩

/-- The reductions of a state, by terminal. -/
def claims (w : Workshop) (items : List (Nat × TokenSet)) : Array (Option Claims) :=
  items.foldl
    (fun claims i =>
      match w.items.next.getD i.1 none with
      | some _ => claims
      | none =>
        let item := w.items.all.getD i.1 default
        let action : Action :=
          if item.owner < w.parts.size then
            .reduce ⟨item.owner, item.passed, item.weight, item.names⟩
          else .accept
        (i.2.toList w.tokenCount).foldl
          (fun (claims : Array (Option Claims)) t =>
            claims.modify t fun known => some (Claims.add known action item.rank))
          claims)
    (Array.replicate w.tokenCount none)

/-- What a state does on a terminal that it can both read, leading to `target`, and reduce on. -/
def settle (w : Workshop) (items : List (Nat × TokenSet)) (t target : Nat) (c : Claims) :
    List Action :=
  let whole := w.parts.size
  let readers := items.filterMap fun i =>
    let item := w.items.all.getD i.1 default
    match item.next? with
    | some s =>
      if 0 < item.passed && (Grammar.firstOf w.first s).has t then some item else none
    | none => none
  let enders := items.filterMap fun i =>
    let item := w.items.all.getD i.1 default
    if item.rest.isEmpty && i.2.has t then some item else none
  let owners := ((readers ++ enders).map Item.owner).filter fun v => v != whole
  let repeats := match owners with
    | v :: more => (w.parts[v]?.any Part.repeats) && more.all (· == v)
    | [] => false
  let stronger := readers.any fun i => c.precedence < i.rank.precedence
  let weaker := readers.any fun i => i.rank.precedence < c.precedence
  if repeats then c.actions ++ [.shift target true]
  else if stronger && !weaker then [.shift target false]
  else if weaker && !stronger then c.actions
  else if weaker || stronger then c.actions ++ [.shift target false]
  else if c.leftwards && !c.sideless && !c.rightwards then c.actions
  else if c.rightwards && !c.sideless && !c.leftwards then [.shift target false]
  else c.actions ++ [.shift target false]

/-- Builds the state of a kernel, and numbers those it leads to. -/
def buildState (w : Workshop) (b : Building) (kernel : Kernel) : Building :=
  let items := w.present (w.closure kernel)
  let next := w.successors items
  let claims := w.claims items
  let targets := (List.range w.tokenCount).foldl
    (fun (done : List (Nat × List Action) × Building) t =>
      let kernel := next.tokens.getD t []
      match kernel, claims.getD t none with
      | [], none => done
      | [], some c => ((t, c.actions) :: done.1, done.2)
      | _, claimed =>
        let target := done.2.number kernel
        let actions := match claimed with
          | none => [.shift target.1 false]
          | some c => w.settle items t target.1 c
        ((t, actions) :: done.1, target.2))
    ([], b)
  let gotos := (List.range w.parts.size).foldl
    (fun (done : List (Nat × Nat) × Building) v =>
      match next.parts.getD v [] with
      | [] => done
      | kernel =>
        let target := done.2.number kernel
        ((v, target.1) :: done.1, target.2))
    ([], targets.2)
  let core := gotos.2.core kernel
  { core.2 with
    states := core.2.states.push ⟨core.1, targets.1.reverse, gotos.1.reverse⟩ }

/-- Builds the states that are numbered and not built yet, at most `fuel` of them. -/
def buildAll (w : Workshop) : Nat → Building → Building
  | 0, b => b
  | fuel + 1, b =>
    match b.kernels[b.states.size]? with
    | some kernel => buildAll w fuel (w.buildState b kernel)
    | none => b

end Workshop

/-- More states than the automaton of any language that is read here has. -/
def stateLimit : Nat := 100000

/-- The states of the canonical automaton.  State 0 is that of a reader that has lost its way and
does nothing; reading begins in state 1. -/
def Grammar.canonical {τ : Type} (g : Grammar τ) : Array State :=
  let first := g.firstSets
  let w : Workshop := ⟨g.items first, first, g.parts, g.terminals.size + 1⟩
  let start := (w.items.all.findIdx? (· == Item.ofProduction g.whole 0)).getD 0
  let b : Building := ⟨#[[], [(start, .single g.finish)]], {}, {}, #[]⟩
  let numbered := { b with
    numbers := ((b.numbers.insert [] 0).insert [(start, .single g.finish)] 1) }
  (w.buildAll stateLimit numbered).states

end BuildScan.Parsing
