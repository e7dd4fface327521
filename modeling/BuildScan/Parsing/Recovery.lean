import BuildScan.Parsing.Reader

/-!
What a reader does where a terminal fits nowhere.  It may take a terminal for granted that is not
there; it may go back to a state that it was in before and pass over everything since; or it may
pass over the terminal.  Each way is a version of its own, and those that cost too much are given
up.
-/

namespace BuildScan.Parsing

/-- How a version stands beside others. -/
structure Standpoint where
  cost : Nat
  /-- The progress since the last fault. -/
  progress : Nat
  weight : Int
  /-- It is lost, or has met something that it cannot read. -/
  inError : Bool

/-- Of two versions one may be better, and may be so much better that the other is given up. -/
inductive Preference where
  | onlyLeft
  | left
  | neither
  | right
  | onlyRight
  deriving Repr, DecidableEq

namespace Standpoint

/-- So much more may a version cost that has made no progress since its last fault. -/
def leeway : Nat := 1800

/-- The farther the cheaper one has come since its last fault, the less the other may cost. -/
def outweighs (a b : Standpoint) : Bool := leeway < (b.cost - a.cost) * (1 + a.progress)

def compare (a b : Standpoint) : Preference :=
  if !a.inError && b.inError then
    if a.cost < b.cost then .onlyLeft else .left
  else if a.inError && !b.inError then
    if b.cost < a.cost then .onlyRight else .right
  else if a.cost < b.cost then
    if a.outweighs b then .onlyLeft else .left
  else if b.cost < a.cost then
    if b.outweighs a then .onlyRight else .right
  else if b.weight < a.weight then .left
  else if a.weight < b.weight then .right
  else .neither

end Standpoint

namespace Reader

variable (l : Language)

/-- The state of a version. -/
def state (r : Reader) (v : Nat) : Nat := (r.top v).state

/-- What a version has cost, with what it will cost at least where it does not know how to go on. -/
def cost (r : Reader) (v : Nat) : Nat :=
  let n := r.top v
  let astray := n.state == 0 && n.links.head?.any fun k => k.tree.isNone
  n.cost + if astray || (r.version v).isPaused then Cost.recovery else 0

/-- A version that has come back behind its last fault counts as having met it just now. -/
def settle (r : Reader) (v : Nat) : Reader :=
  let progress := (r.top v).progress
  r.modify v fun k => { k with progressAtFault := min k.progressAtFault progress }

def settleAll (r : Reader) : Reader := (List.range r.count).foldl settle r

/-- The progress since the last fault. -/
def progress (r : Reader) (v : Nat) : Nat :=
  (r.top v).progress - (r.version v).progressAtFault

def standpoint (r : Reader) (v : Nat) : Standpoint :=
  let paused := (r.version v).isPaused
  ⟨r.cost v + (if paused then Cost.tree else 0), r.progress v, (r.top v).weight,
    paused || r.state v == 0⟩

/-- One of some versions makes version `v`, seen from the standpoint `s`, useless. -/
def surpassedBy (v : Nat) (s : Standpoint) : List Nat → Reader → Reader × Bool
  | [], r => (r, false)
  | w :: ws, r =>
    if w = v || !r.isActive w || (r.top w).place.offset < (r.top v).place.offset then
      surpassedBy v s ws r
    else
      let r := r.settle w
      match s.compare (r.standpoint w) with
      | .onlyRight => (r, true)
      | .right => if r.mayMerge w v then (r, true) else surpassedBy v s ws r
      | _ => surpassedBy v s ws r

/-- There is no use in version `v` if it comes to cost so much. -/
def surpassed (r : Reader) (v cost : Nat) : Reader × Bool :=
  if r.finished.any fun t => t.cost ≤ cost then (r, true)
  else
    let r := r.settle v
    surpassedBy v ⟨cost, r.progress v, (r.top v).weight, false⟩ (List.range r.count) r

/-- What the state of a version can do: whether it reads one of some terminals, and its
reductions. -/
def options (state : Nat) (terminals : List Nat) : Bool × List Reduction :=
  terminals.foldl
    (fun found t =>
      (l.actionsOn state t).foldl
        (fun (found : Bool × List Reduction) a => match a with
          | .shift _ again => (found.1 || !again, found.2)
          | .reduce k =>
            if k.count = 0 || found.2.any fun o => o.part == k.part && o.count == k.count then found
            else (found.1, found.2 ++ [k])
          | .accept => found)
        found)
    (state == Language.lost, [])

/-- Makes all reductions that are possible in front of one of some terminals, beginning with version
`v`.  Where the terminals are those of a lookahead, versions that cannot read it are dropped.  The
second value says whether one can. -/
def reduceAll (v : Nat) (terminals : List Nat) (mustRead : Bool) :
    Nat → Nat → Nat → Nat → Bool → Reader → Reader × Bool
  | 0, _, _, _, can, r => (r, can)
  | fuel + 1, base, w, round, can, r =>
    if r.count ≤ w then (r, can)
    else
      let joined := (List.range w).findSome? fun u => if u < base then none else r.merge? u w
      match joined with
      | some r => reduceAll v terminals mustRead fuel base w (round + 1) can r
      | none =>
        let count := r.count
        let able := options l (r.state w) terminals
        let reduced := able.2.foldl
          (fun (done : Reader × Option Nat) k => reduce l done.1 w k)
          (r, none)
        let r := reduced.1
        let onward (r : Reader) (can : Bool) : Reader × Bool :=
          reduceAll v terminals mustRead fuel base (if w = v then count else w + 1)
            (round + 1) can r
        if able.1 then onward r true
        else
          match reduced.2 with
          | some fresh =>
            if round < maxVersions then
              reduceAll v terminals mustRead fuel base w (round + 1) can (r.replace fresh w)
            else onward (if mustRead then r.remove w else r) can
          | none => onward (if mustRead then r.remove w else r) can

/-- More rounds of reductions than a text can ask for. -/
def reductionLimit : Nat := 100000

/-- Makes the reductions that any terminal allows, and says whether one can be read then. -/
def reduceFreely (r : Reader) (v : Nat) : Reader × Bool :=
  reduceAll l v (List.range l.lexicon.finish) false reductionLimit r.count v 0 false r

/-- Makes the reductions that a terminal allows, and says whether it can be read then.  Before the
end of the text any terminal may stand. -/
def reduceFor (r : Reader) (v t : Nat) : Reader × Bool :=
  if t = l.lexicon.finish then reduceFreely l r v
  else reduceAll l v [t] true reductionLimit r.count v 0 false r

/-- Puts in a terminal that is not there, the first of some that lets version `v` read `next` behind
it, as a new version.  The second value says whether there is one. -/
def putIn (v next : Nat) : List Nat → Reader → Reader × Bool
  | [], r => (r, false)
  | t :: ts, r =>
    let state := r.state v
    let target := l.afterToken state t
    if target = 0 || target = state then putIn v next ts r
    else
      match (l.actionsOn target next).head? with
      | some (.reduce _) =>
        let leaf := Subtree.absent t (l.isShown (.token t)) (r.top v).place
        let w := r.count
        let k := { r.version v with earlier := [] }
        let tried := reduceFor l ((r.add k).push w (some leaf) target) w next
        if tried.2 then tried else putIn v next ts tried.1
      | _ => putIn v next ts r

/-- The states of a version that are kept in mind when it loses its way lie at most so deep. -/
def maxDepth : Nat := 16

/-- Goes back to a state that version `v` was in `depth` trees before; what has been read since fits
nowhere.  The second value says whether there is a way. -/
def returnTo (r : Reader) (v depth goal : Nat) : Reader × Bool :=
  let progressAtFault := (r.version v).progressAtFault
  (r.popped v depth).foldl
    (fun (done : Reader × Bool) group =>
      let n := done.1.node group.1
      match group.2 with
      | [] => done
      | trees :: _ =>
        if n.state ≠ goal then done
        else
          let error := n.links.find? fun k => k.tree.any Subtree.isError
          let below := match error with
            | some k => k.below
            | none => group.1
          let trees := ((error.bind Link.tree).map Subtree.children).getD [] ++ trees
          let parted := Subtree.splitExtras trees
          let unread := match parted.1 with
            | [] => []
            | ts => [(Subtree.node .error true n.place ts).asExtra]
          let r := done.1
          let w := r.count
          let r := r.add ⟨below, .active, progressAtFault, []⟩
          ((unread ++ parted.2).foldl (fun r t => r.push w (some t) goal) r, true))
    (r, false)

/-- Tries the earlier states of version `v`, nearest first, for one in which the lookahead can be
read.  The second value says whether there is one. -/
def tryEarlier (v : Nat) (look : Lookahead) (versions : Nat) : List Earlier → Reader → Reader × Bool
  | [], r => (r, false)
  | e :: es, r =>
    let place := (r.top v).place
    let depth := e.depth + if 0 < r.progress v then 1 else 0
    let known := (List.range versions).any fun w =>
      r.state w == e.state && (r.top w).place.offset == place.offset
    if e.state = 0 || e.place.offset = place.offset || known then
      tryEarlier v look versions es r
    else
      let cost := r.cost v + Cost.tree * e.depth +
        Cost.text (place.offset - e.place.offset) (place.line - e.place.line)
      let judged := r.surpassed v cost
      if judged.2 then (judged.1, false)
      else if l.reads e.state (look.terminal l) then
        let went := judged.1.returnTo v depth e.state
        if went.2 then went else tryEarlier v look versions es went.1
      else tryEarlier v look versions es judged.1

/-- Passes over a terminal. -/
def skip (r : Reader) (v : Nat) (look : Subtree) : Reader :=
  let here := (r.top v).place
  let pass (trees : List Subtree) : Subtree := Subtree.node .skipped false here trees
  if 0 < r.progress v then
    match r.popped v 1 with
    | (below, trees :: _) :: _ =>
      (r.modify v fun k => { k with top := below }).push v (some (pass (trees ++ [pass [look]]))) 0
    | _ => r.push v (some (pass [look])) 0
  else r.push v (some (pass [look])) 0

/-- Drops the versions from number `first` on that are not active. -/
def dropInactive (r : Reader) (first : Nat) : Reader :=
  let kept := (r.versions.toList.drop first).filter Version.isActive
  { r with versions := (r.versions.toList.take first ++ kept).toArray }

/-- What version `v`, which is lost, does about a lookahead. -/
def recover (r : Reader) (v : Nat) (look : Lookahead) : Reader :=
  let count := r.count
  let r := r.settle v
  let earlier := if look.tree.isError then [] else (r.version v).earlier
  let tried := tryEarlier l v look count earlier r
  let r := tried.1.dropInactive count
  if look.terminal l = l.lexicon.finish then
    let nothing := Subtree.node .error true (r.top v).place []
    accept l (r.push v (some nothing) 1) v look.tree
  else if tried.2 && maxVersions < r.count then r.halt v
  else
    let t := look.tree.trunk
    let cost := r.cost v + Cost.tree +
      Cost.text (t.stop.offset - t.margin.offset) (t.stop.line - t.margin.line)
    let judged := r.surpassed v cost
    if judged.2 then judged.1.halt v else judged.1.skip v look.tree

/-- Puts a gap on version `w`, after trying to put in a terminal if none was put in yet. -/
def lose (next : Nat) (done : Reader × Bool) (w : Nat) : Reader × Bool :=
  let tried :=
    if done.2 then done else putIn l w next (List.range l.lexicon.finish) done.1
  (tried.1.push w none Language.lost, tried.2)

/-- Version `v` loses its way in front of a lookahead. -/
def loseWay (r : Reader) (v : Nat) (look : Lookahead) : Reader :=
  let before := r.count
  let r := (reduceFreely l r v).1
  let fresh := (List.range r.count).drop before
  let lost := (v :: fresh).foldl (lose l (look.terminal l)) (r, false)
  let r := fresh.foldl (fun (r : Reader) _ => (r.merge? v before).getD r) lost.1
  let earlier := r.earlierStates v maxDepth
  recover l (r.modify v fun k => { k with earlier := earlier }) v look

end Reader

end BuildScan.Parsing
