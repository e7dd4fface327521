import BuildScan.Parsing.Canonical

/-!
The automaton that a reader works with: that of the canonical states, smaller.  States of one core
become one unless that would change what a text means: where both do something on a terminal they
must do the same, and where only one does, reading the terminal as well must not clash with what the
other reads.  The end of the text clashes with everything, so that a state knows whether the text
may end there.  States that could only make a repetition of one tree are left out.

Each state also has a set of terminals that a scanner looks for when the reader stands there.  The
fewer such sets the better: states share one as long as no terminal of it is mistaken for another.
-/

namespace BuildScan.Parsing

/-- What tells terminals apart, by number. -/
structure Lexicon where
  /-- The end of the text; the terminals are the numbers below. -/
  finish : Nat
  /-- The terminal that is read anywhere and belongs to nothing. -/
  comment : Nat
  /-- The terminal of words that have no terminal of their own. -/
  word : Nat
  /-- Terminals that are read as words first. -/
  words : TokenSet
  /-- The words that are never just names where a name may stand. -/
  reserved : TokenSet
  /-- For each terminal, those beside which it must not be read as well. -/
  clashes : Array TokenSet
  /-- For each terminal, those that no place admits beside it although one begins like the other. -/
  apart : Array TokenSet
  /-- Terminals that are looked for only in their own places. -/
  confined : TokenSet
  deriving Inhabited

structure Automaton where
  actions : Array (Array (List Action))
  gotos : Array (Array Nat)
  /-- What a scanner looks for in each state. -/
  sought : Array TokenSet
  deriving Inhabited

/-- A partition of states into groups. -/
structure Groups where
  members : Array (List Nat)
  groupOf : Array Nat
  deriving Inhabited

namespace Groups

/-- One group for each core. -/
def ofCores (states : Array State) : Groups :=
  let count := states.foldl (fun n s => max n (s.core + 1)) 0
  let members := (List.range states.size).reverse.foldl
    (fun (ms : Array (List Nat)) i => ms.modify (states.getD i default).core (i :: ·))
    (Array.replicate count [])
  ⟨members, states.map State.core⟩

def find (g : Groups) (state : Nat) : Nat := g.groupOf.getD state 0

/-- Splits a list: the first stays, and so does all that agrees with every one before it that
stays. -/
def splitBy (differ : Nat → Nat → Bool) (fuel : Nat) (states : List Nat) : List Nat × List Nat :=
  match fuel, states with
  | fuel + 1, s :: rest =>
    let parted := rest.partition fun t => !differ s t
    let more := splitBy differ fuel parted.1
    (s :: more.1, parted.2 ++ more.2)
  | _, states => (states, [])

/-- Moves what differs out of each group into a new one behind the others, which is split in
turn. -/
def splitAll (differ : Groups → Nat → Nat → Bool) : Nat → Nat → Groups → Groups
  | 0, _, g => g
  | fuel + 1, i, g =>
    match g.members[i]? with
    | none => g
    | some states =>
      let parted := splitBy (differ g) states.length states
      match parted.2 with
      | [] => splitAll differ fuel (i + 1) g
      | moved =>
        let fresh := g.members.size
        splitAll differ fuel (i + 1)
          ⟨(g.members.setIfInBounds i parted.1).push moved,
            moved.foldl (fun (gs : Array Nat) s => gs.setIfInBounds s fresh) g.groupOf⟩

end Groups

/-- Two actions are the same where states count as their groups. -/
def Action.agrees (g : Groups) : Action → Action → Bool
  | .shift s again, .shift t still => g.find s == g.find t && again == still
  | a, b => a == b

/-- The state that some actions lead to when they read the terminal. -/
def shiftTarget? (actions : List Action) : Option Nat :=
  match actions.getLast? with
  | some (.shift s _) => some s
  | _ => none

namespace State

/-- The terminals on which a state does something. -/
def tokens (l : Lexicon) (s : State) : TokenSet :=
  s.actions.foldl (fun ts a => if a.1 == l.finish then ts else ts.insert a.1) (.single l.comment)

/-- A terminal that only one state knows clashes with what the other one knows. -/
def clashes (l : Lexicon) (other : TokenSet) (t : Nat) : Bool :=
  t == l.finish || !((l.clashes.getD t .empty).inter other).isEmpty

/-- The states do different things on one terminal, or one of them must not learn what the other one
does.  `known` gives the terminals of each. -/
def conflicts (l : Lexicon) (g : Groups) (known other : TokenSet) :
    List (Nat × List Action) → List (Nat × List Action) → Bool
  | [], right => right.any fun a => clashes l known a.1
  | left, [] => left.any fun a => clashes l other a.1
  | (t, as) :: left, (u, bs) :: right =>
    if t = u then
      as.length != bs.length || !((as.zip bs).all fun p => p.1.agrees g p.2) ||
        conflicts l g known other left right
    else if t < u then
      clashes l other t || conflicts l g known other left ((u, bs) :: right)
    else
      clashes l known u || conflicts l g known other ((t, as) :: left) right
  termination_by left right => left.length + right.length

/-- Two ascending lists give different groups to one number. -/
def partWays (g : Groups) : List (Nat × Nat) → List (Nat × Nat) → Bool
  | [], _ => false
  | _, [] => false
  | (a, s) :: left, (b, t) :: right =>
    if a = b then g.find s != g.find t || partWays g left right
    else if a < b then partWays g left ((b, t) :: right)
    else partWays g ((a, s) :: left) right
  termination_by left right => left.length + right.length

/-- Where a state leads, by terminal. -/
def shifts (s : State) : List (Nat × Nat) :=
  s.actions.filterMap fun a => (shiftTarget? a.2).map (a.1, ·)

end State

namespace Automaton

/-- Groups of states that may become one. -/
def grouped (l : Lexicon) (states : Array State) : Groups :=
  let tokens := states.map (State.tokens l)
  let shifts := states.map State.shifts
  let known (s : Nat) := tokens.getD s .empty
  let state (s : Nat) := states.getD s default
  let conflict (g : Groups) (s t : Nat) : Bool :=
    State.conflicts l g (known s) (known t) (state s).actions (state t).actions
  let apart (g : Groups) (s t : Nat) : Bool :=
    State.partWays g (shifts.getD s []) (shifts.getD t []) ||
      State.partWays g (state s).gotos (state t).gotos
  let rec refine : Nat → Groups → Groups
    | 0, g => g
    | n + 1, g =>
      let next := Groups.splitAll apart (2 * states.size) 0 g
      if next.members.size == g.members.size then g else refine n next
  refine states.size (Groups.splitAll conflict (2 * states.size) 0 (Groups.ofCores states))

/-- What each group does, by terminal and by part, with groups for states. -/
structure Rows where
  actions : Array (Array (List Action))
  gotos : Array (Array Nat)

def Rows.ofGroups (l : Lexicon) (partCount : Nat) (states : Array State) (g : Groups) : Rows :=
  let move : Action → Action
    | .shift s again => .shift (g.find s) again
    | a => a
  let actions := g.members.map fun members =>
    members.foldl
      (fun (row : Array (List Action)) s => (states.getD s default).actions.foldl
        (fun row a =>
          if (row.getD a.1 []).isEmpty then row.setIfInBounds a.1 (a.2.map move) else row)
        row)
      (Array.replicate (l.finish + 1) [])
  let gotos := g.members.map fun members =>
    members.foldl
      (fun (row : Array Nat) s => (states.getD s default).gotos.foldl
        (fun row a => row.setIfInBounds a.1 (g.find a.2)) row)
      (Array.replicate partCount 0)
  ⟨actions, gotos⟩

/-- The part to which a group reduces one tree, if it can do nothing else and the part is a mere
repetition. -/
def passedPart? (parts : Array Part) (actions : Array (List Action)) : Option Nat :=
  let all := actions.toList.flatten
  let part? : Action → Option Nat
    | .reduce k =>
      if k.count == 1 && k.weight == 0 && k.names.all Option.isNone &&
          (parts[k.part]?.any Part.repeats) then
        some k.part
      else none
    | _ => none
  match all.head?.bind part? with
  | some v => if all.all fun a => part? a == some v then some v else none
  | none => none

/-- Leads past the groups that could only make a repetition of one tree. -/
def Rows.shortened (parts : Array Part) (rows : Rows) : Rows :=
  let passed := rows.actions.map (passedPart? parts)
  let rec past (gotos : Array Nat) : Nat → Nat → Nat
    | 0, target => target
    | fuel + 1, target =>
      match passed.getD target none with
      | some v => past gotos fuel (gotos.getD v 0)
      | none => target
  let move (gotos : Array Nat) : Action → Action
    | .shift s again => .shift (past gotos parts.size s) again
    | a => a
  let ways := rows.actions.zip rows.gotos
  ⟨ways.map fun w => w.1.map fun as => as.map (move w.2),
    rows.gotos.map fun gotos => gotos.map (past gotos parts.size)⟩

/-- The groups that another one leads to. -/
def Rows.reached (rows : Rows) : Array Bool :=
  let targets (as : List Action) : List Nat := as.filterMap fun
    | .shift s _ => some s
    | _ => none
  let shifted := rows.actions.foldl
    (fun found row => row.foldl
      (fun found as => (targets as).foldl
        (fun (found : Array Bool) s => found.setIfInBounds s true) found)
      found)
    (Array.replicate rows.actions.size false)
  rows.gotos.foldl
    (fun found row => row.foldl (fun (found : Array Bool) s => found.setIfInBounds s true) found)
    shifted

/-- The order of the groups: the two first ones, then the others that are reached, those that know
most symbols in front. -/
def Rows.ranked (rows : Rows) (firsts : List Nat) : List Nat :=
  let reached := rows.reached
  let sizes := (rows.actions.zip rows.gotos).map fun row =>
    row.1.foldl (fun n as => if as.isEmpty then n else n + 1) 0 +
      row.2.foldl (fun n s => if s = 0 then n else n + 1) 0
  let rest := (List.range rows.actions.size).filter fun i =>
    !firsts.contains i && reached.getD i false
  firsts ++ rest.mergeSort fun a b => sizes.getD b 0 ≤ sizes.getD a 0

/-- Two sets of terminals may be looked for at once. -/
def mayShare (l : Lexicon) (a b : TokenSet) : Bool :=
  let hinders (t : Nat) (others : TokenSet) : Bool :=
    !(((l.clashes.getD t .empty).union (l.apart.getD t .empty)).inter others).isEmpty
  ((a.symmDiff b).toList l.finish).all fun t =>
    if a.has t then !hinders t b else !hinders t a

/-- Adds what a state looks for to the first of some sets with which it may share. -/
def share (l : Lexicon) (sought : TokenSet) : List TokenSet → Nat × List TokenSet
  | [] => (0, [sought])
  | s :: rest =>
    if mayShare l s sought then (0, s.union sought :: rest)
    else
      let r := share l sought rest
      (r.1 + 1, s :: r.2)

/-- What a scanner looks for where the terminals `known` do something. -/
def soughtFor (l : Lexicon) (known : TokenSet) : TokenSet :=
  let plain := TokenSet.ofList ((known.toList l.finish).filter fun t => !l.words.has t)
  let words := !(known.inter l.words).isEmpty
  if words then plain.insert l.word else plain

/-- The automaton of some canonical states. -/
def ofStates (l : Lexicon) (parts : Array Part) (states : Array State) : Automaton :=
  let groups := grouped l states
  let rows := (Rows.ofGroups l parts.size states groups).shortened parts
  let order := rows.ranked [groups.find 0, groups.find 1]
  let places := (order.foldl
    (fun (done : Array Nat × Nat) i => (done.1.setIfInBounds i done.2, done.2 + 1))
    (Array.replicate groups.members.size 0, 0)).1
  let place (i : Nat) := places.getD i 0
  let move : Action → Action
    | .shift i again => .shift (place i) again
    | a => a
  let actions := order.toArray.map fun i =>
    (rows.actions.getD i #[]).map fun as => as.map move
  let gotos := order.toArray.map fun i => (rows.gotos.getD i #[]).map place
  let everything := TokenSet.ofList
    ((List.range l.finish).filter fun t => !l.confined.has t)
  let knownOf (row : Array (List Action)) : TokenSet :=
    (List.range l.finish).foldl
      (fun (ts : TokenSet) t => if (row.getD t []).isEmpty then ts else ts.insert t)
      (.single l.comment)
  let known := everything :: (actions.toList.drop 1).map knownOf
  let shared := known.foldl
    (fun (done : List Nat × List TokenSet) ts =>
      let r := share l (soughtFor l ts) done.2
      (r.1 :: done.1, r.2))
    ([], [])
  let sets := shared.2.toArray
  ⟨actions, gotos, (shared.1.reverse.map fun n => sets.getD n .empty).toArray⟩

/-- What a state does on a terminal. -/
def actionsOn (a : Automaton) (state t : Nat) : List Action :=
  (a.actions.getD state #[]).getD t []

/-- Where a part leads from a state; 0 if nowhere. -/
def goto (a : Automaton) (state v : Nat) : Nat := (a.gotos.getD state #[]).getD v 0

end Automaton

end BuildScan.Parsing
