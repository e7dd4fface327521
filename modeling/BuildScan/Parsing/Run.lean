import BuildScan.Parsing.Recovery

/-!
Reading a whole text.  The versions of a reader take turns; after each round those that are no
better than others are given up, and one that could not go on loses its way if no other did better.
The reading ends when what has been read to the end costs less than anything that is still under
way.
-/

namespace BuildScan.Parsing

namespace Reader

variable (l : Language)

/-- What came of the things that a state does on a terminal. -/
structure Turn where
  reader : Reader
  /-- The terminal was read, or the text was. -/
  isOver : Bool
  reduced : Bool
  /-- The version that the last reduction made. -/
  fresh : Option Nat

def Turn.act (v : Nat) (look : Lookahead) (turn : Turn) (a : Action) : Turn :=
  if turn.isOver then turn
  else
    match a with
    | .shift state again =>
      if again then turn
      else { turn with reader := turn.reader.push v (some look.tree) state, isOver := true }
    | .reduce k =>
      let done := reduce l turn.reader v k
      { turn with
        reader := done.1
        reduced := true
        fresh := done.2.orElse fun _ => turn.fresh }
    | .accept => { turn with reader := accept l turn.reader v look.tree, isOver := true }

/-- The version waits until it is known whether another one can do better. -/
def pause (r : Reader) (v : Nat) (look : Lookahead) : Reader :=
  let progress := (r.top v).progress
  r.modify v fun k => { k with standing := .paused look, progressAtFault := progress }

/-- The word read as a name. -/
def Lookahead.asName (look : Lookahead) : Lookahead :=
  { look with tree := look.tree.withTrunk fun k => { k with label := .token l.lexicon.word } }

/-- Version `v` makes the reductions that the lookahead asks for and then reads it, if it can. -/
def read (v : Nat) : Nat → Lookahead → Reader → Reader
  | 0, _, r => r.halt v
  | fuel + 1, look, r =>
    let state := r.state v
    let t := look.terminal l
    if t = l.lexicon.comment then r.push v (some look.tree.asExtra) state
    else if state = Language.lost then recover l r v look
    else
      let turn := (l.actionsOn state t).foldl (Turn.act l v look) ⟨r, false, false, none⟩
      if turn.isOver then turn.reader
      else
        match turn.fresh with
        | some w => read v fuel look (turn.reader.replace w v)
        | none =>
          if turn.reduced then turn.reader.halt v
          else if look.isWord && t != l.lexicon.word && !l.reserves state t &&
              l.reads state l.lexicon.word then
            read v fuel (Lookahead.asName l look) turn.reader
          else pause turn.reader v look

/-- Version `v` reads one terminal. -/
def advance (r : Reader) (v : Nat) : Reader :=
  let look := l.lookahead (r.state v) (r.top v).place
  read l v reductionLimit look r

/-- Version `v` reads on until it is farther in the text than any was before. -/
def advanceFar (v : Nat) : Nat → Nat → Reader → Reader × Nat
  | 0, farthest, r => (r, farthest)
  | fuel + 1, farthest, r =>
    if r.isActive v then
      let r := advance l r v
      let offset := (r.top v).place.offset
      if farthest < offset || (0 < v && offset = farthest) then (r, offset)
      else advanceFar v fuel farthest r
    else (r, farthest)

/-- Each version from number `v` on takes its turn. -/
def round (steps : Nat) : Nat → Nat → Nat → Reader → Reader × Nat
  | 0, _, farthest, r => (r, farthest)
  | fuel + 1, v, farthest, r =>
    if v < r.count then
      let done := advanceFar l v steps farthest r
      round steps fuel (v + 1) done.2 done.1
    else (r, farthest)

def swap (r : Reader) (v w : Nat) : Reader :=
  let a := r.version v
  let b := r.version w
  (r.modify v fun _ => b).modify w fun _ => a

/-- Compares version `w`, whose standpoint is `s`, with those from `v` on before it; the one that is
so much worse goes, and so does one that can go on as the other.  The second value is the next
version to compare. -/
def sift (s : Standpoint) (v w : Nat) (r : Reader) : Reader × Nat :=
  if _h : v < w then
    match (r.standpoint v).compare s with
    | .onlyLeft => (r.remove w, w)
    | .onlyRight => sift s v (w - 1) (r.remove v)
    | .right =>
      match r.merge? v w with
      | some r => (r, w)
      | none => sift s (v + 1) w (r.swap v w)
    | _ =>
      match r.merge? v w with
      | some r => (r, w)
      | none => sift s (v + 1) w r
  else (r, w + 1)
  termination_by w - v

/-- Compares all versions from `w` on with those before them.  The second value is the least that
one costs that is not in error. -/
def siftAll : Nat → Nat → Option Nat → Reader → Reader × Option Nat
  | 0, _, least, r => (r, least)
  | fuel + 1, w, least, r =>
    if r.count ≤ w then (r, least)
    else if (r.version w).isHalted then siftAll fuel w least (r.remove w)
    else
      let s := r.standpoint w
      let least := if s.inError then least else some (min s.cost (least.getD s.cost))
      let sifted := sift s 0 w r
      siftAll fuel sifted.2 least sifted.1

/-- At most so many readings come to an end before those that cannot go on are given up. -/
def maxAccepted : Nat := 6

/-- Lets the first version lose its way if it could not go on, and drops the others that could
not. -/
def resume : Nat → Nat → Bool → Option Nat → Reader → Reader × Option Nat
  | 0, _, _, least, r => (r, least)
  | fuel + 1, v, another, least, r =>
    match (r.version v).standing with
    | .paused look =>
      if !another && r.accepted < maxAccepted then
        let cost := r.cost v
        let r := loseWay l (r.modify v fun k => { k with standing := .active }) v look
        resume fuel (v + 1) true (some cost) r
      else resume fuel v another least (r.remove v)
    | _ => resume fuel (v + 1) true least r

/-- Gives up what is no use.  The second value is what the cheapest version costs. -/
def condense (r : Reader) : Reader × Option Nat :=
  let sifted := siftAll (2 * r.count) 0 none r.settleAll
  let r := { sifted.1 with versions := sifted.1.versions.take maxVersions }
  resume l r.count 0 false sifted.2 r

/-- Reads on, in at most `fuel` rounds. -/
def run (steps : Nat) : Nat → Nat → Reader → Reader
  | 0, _, r => r
  | fuel + 1, farthest, r =>
    let done := round l steps steps 0 farthest r
    let condensed := condense l done.1
    let r := condensed.1
    let settled := r.finished.any fun t => condensed.2.all fun cost => t.cost < cost
    if settled || r.count = 0 then r else run steps fuel done.2 r

end Reader

/-- The tree of a text. -/
def Language.parse? (l : Language) (text : List Char) : Option Subtree :=
  let steps := 64 * (text.length + 16)
  (Reader.run l steps steps 0 (Reader.start (Place.ofText text))).finished

end BuildScan.Parsing
