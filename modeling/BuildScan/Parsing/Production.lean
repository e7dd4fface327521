import BuildScan.Parsing.Phrase
import BuildScan.Parsing.TokenSet
import Std.Data.HashMap

/-!
Numbered grammars: terminals and parts are numbers, and an alternative becomes as many productions
as it has ways to choose.  Terminals count in the order in which the rules mention them, behind
those that the grammar puts first.  Behind the last terminal the end of the text counts as one more.
-/

namespace BuildScan.Parsing

inductive Symbol where
  | token (t : Nat)
  | part (v : Nat)
  deriving Repr, DecidableEq, Hashable, Inhabited

/-- One place of a production. -/
structure Step where
  symbol : Symbol
  /-- The name that what is read there gets in place of its own. -/
  name : Option String
  deriving Repr, DecidableEq, Hashable, Inhabited

structure Production where
  owner : Nat
  steps : List Step
  rank : Rank
  weight : Int
  deriving Repr, DecidableEq, Hashable, Inhabited

/-- A part of a grammar. -/
structure Part where
  name : String
  shown : Bool
  /-- It stands for a repetition. -/
  repeats : Bool
  productions : List Production
  deriving Inhabited

structure Grammar (τ : Type) where
  terminals : Array τ
  parts : Array Part
  deriving Inhabited

namespace Phrase

variable {τ : Type}

mutual

/-- The sequences of places that a phrase allows. -/
def forms (tokenOf : τ → Nat) (partOf : String → Nat) (name : Option String) :
    Phrase τ → List (List Step)
  | token t => [[⟨.token (tokenOf t), name⟩]]
  | part n => [[⟨.part (partOf n), name⟩]]
  | seq ps => sequences tokenOf partOf name ps
  | choice ps => choices tokenOf partOf name ps
  | repeated p => forms tokenOf partOf name p
  | called n p => forms tokenOf partOf (some n) p

def sequences (tokenOf : τ → Nat) (partOf : String → Nat) (name : Option String) :
    List (Phrase τ) → List (List Step)
  | [] => [[]]
  | p :: ps =>
    (forms tokenOf partOf name p).flatMap fun first =>
      (sequences tokenOf partOf name ps).map (first ++ ·)

def choices (tokenOf : τ → Nat) (partOf : String → Nat) (name : Option String) :
    List (Phrase τ) → List (List Step)
  | [] => []
  | p :: ps => forms tokenOf partOf name p ++ choices tokenOf partOf name ps

end

end Phrase

namespace Grammar

variable {τ : Type} [BEq τ] [Hashable τ]

/-- The distinct members of a list, in the order in which they come first. -/
def distinct {α : Type} [BEq α] (xs : List α) : List α :=
  xs.foldl (fun seen x => if seen.contains x then seen else seen ++ [x]) []

/-- Rules without repetitions: those given, and one for each repetition. -/
def unfolded (rules : List (Rule τ)) : List (Rule τ × Bool) :=
  let read := rules.foldl
    (fun (done : List (Rule τ) × Repetitions τ) r =>
      let next := r.unfold done.2
      (done.1 ++ [next.1], next.2))
    ([], [])
  read.1.map (·, false) ++ read.2.map fun k => (repetitionRule k.1 k.2, true)

/-- Numbers the symbols of some rules, the first of which is that of the whole language. -/
def ofRules (leading : List τ) (rules : List (Rule τ)) (trailing : List τ) : Grammar τ :=
  let mentioned := rules.flatMap fun r => r.alternatives.flatMap fun a => a.phrase.terminals
  let terminals := (distinct (leading ++ mentioned ++ trailing)).toArray
  let all := unfolded rules
  let tokens : Std.HashMap τ Nat := terminals.foldl (fun m t => m.insert t m.size) {}
  let parts : Std.HashMap String Nat := all.foldl (fun m r => m.insert r.1.name m.size) {}
  let part (r : Rule τ × Bool) : Part :=
    let owner := parts.getD r.1.name 0
    let productions := r.1.alternatives.flatMap fun a =>
      (a.phrase.forms (tokens.getD · 0) (parts.getD · 0) none).map fun steps =>
        (⟨owner, steps, a.rank, a.weight⟩ : Production)
    ⟨r.1.name, r.1.shown, r.2, distinct productions⟩
  ⟨terminals, (all.map part).toArray⟩

/-- How many terminals there are; the next number is that of the end of the text. -/
def finish (g : Grammar τ) : Nat := g.terminals.size

/-- The terminals that what a symbol stands for may start with, given those of the parts. -/
def firstOf (known : Array TokenSet) : Symbol → TokenSet
  | .token t => .single t
  | .part v => known.getD v .empty

/-- One round of finding out what each part may start with. -/
def firstRound (g : Grammar τ) (known : Array TokenSet) : Array TokenSet :=
  g.parts.map fun p =>
    p.productions.foldl
      (fun found production => match production.steps with
        | [] => found
        | s :: _ => found.union (firstOf known s.symbol))
      .empty

/-- The terminals that each part may start with.  Every round but the last adds one to some
part's. -/
def firstSets (g : Grammar τ) : Array TokenSet :=
  let rec rounds : Nat → Array TokenSet → Array TokenSet
    | 0, known => known
    | n + 1, known =>
      let next := g.firstRound known
      if next == known then known else rounds n next
  rounds (g.parts.size + 1) (Array.replicate g.parts.size .empty)

end Grammar

end BuildScan.Parsing
