/-!
Grammars as they are written down.  A rule names a part of the language and gives its alternatives
as phrases: terminals and parts in sequence, by choice, or repeated.  An alternative may have a
rank, which decides between two readings before they are tried, and a weight, which decides between
two that both came to an end.
-/

namespace BuildScan.Parsing

inductive Phrase (τ : Type) where
  | token (terminal : τ)
  | part (name : String)
  | seq (phrases : List (Phrase τ))
  | choice (phrases : List (Phrase τ))
  /-- Once or more often. -/
  | repeated (phrase : Phrase τ)
  /-- What is read gets another name than its own. -/
  | called (name : String) (phrase : Phrase τ)
  deriving BEq, Inhabited

/-- Which of two equal operators binds first. -/
inductive Side where
  | left
  | right
  deriving Repr, DecidableEq, Hashable

structure Rank where
  precedence : Int := 0
  side : Option Side := none
  deriving Repr, DecidableEq, Hashable, Inhabited

structure Alternative (τ : Type) where
  phrase : Phrase τ
  rank : Rank := {}
  weight : Int := 0
  deriving Inhabited

structure Rule (τ : Type) where
  name : String
  /-- What the rule reads is a node of the tree. -/
  shown : Bool
  alternatives : List (Alternative τ)
  deriving Inhabited

namespace Phrase

variable {τ : Type}

def opt (p : Phrase τ) : Phrase τ := .choice [p, .seq []]

def many (p : Phrase τ) : Phrase τ := .choice [.repeated p, .seq []]

/-- Once or more often, with something in between. -/
def sepBy (separator p : Phrase τ) : Phrase τ := .seq [p, many (.seq [separator, p])]

mutual

/-- The terminals that a phrase mentions, in order and with repetitions. -/
def terminals : Phrase τ → List τ
  | token t => [t]
  | part _ => []
  | seq ps => terminalsOf ps
  | choice ps => terminalsOf ps
  | repeated p => p.terminals
  | called _ p => p.terminals

def terminalsOf : List (Phrase τ) → List τ
  | [] => []
  | p :: ps => p.terminals ++ terminalsOf ps

end

end Phrase

/-- Parts that stand for repetitions: what each repeats, and its name. -/
abbrev Repetitions (τ : Type) := List (Phrase τ × String)

namespace Phrase

variable {τ : Type} [BEq τ]

/-- The part that stands for the repetition of a phrase. -/
def repetition (p : Phrase τ) (known : Repetitions τ) : Phrase τ × Repetitions τ :=
  match known.find? fun k => k.1 == p with
  | some k => (.part k.2, known)
  | none =>
    let name := s!"repetition {known.length}"
    (.part name, known ++ [(p, name)])

mutual

/-- Replaces repetitions, inner ones first, by parts of their own. -/
def unfold (known : Repetitions τ) : Phrase τ → Phrase τ × Repetitions τ
  | token t => (token t, known)
  | part n => (part n, known)
  | seq ps => let r := unfoldAll known ps; (seq r.1, r.2)
  | choice ps => let r := unfoldAll known ps; (choice r.1, r.2)
  | repeated p => let r := p.unfold known; r.1.repetition r.2
  | called n p => let r := p.unfold known; (called n r.1, r.2)

def unfoldAll (known : Repetitions τ) : List (Phrase τ) → List (Phrase τ) × Repetitions τ
  | [] => ([], known)
  | p :: ps =>
    let first := p.unfold known
    let rest := unfoldAll first.2 ps
    (first.1 :: rest.1, rest.2)

end

end Phrase

/-- A rule without repetitions, and the repetitions it needs. -/
def Rule.unfold {τ : Type} [BEq τ] (known : Repetitions τ) (r : Rule τ) : Rule τ × Repetitions τ :=
  let read := r.alternatives.foldl
    (fun (done : List (Alternative τ) × Repetitions τ) a =>
      let phrase := a.phrase.unfold done.2
      (done.1 ++ [{ a with phrase := phrase.1 }], phrase.2))
    ([], known)
  ({ r with alternatives := read.1 }, read.2)

/-- The rule of a repetition: two of it in a row, or the phrase once. -/
def repetitionRule {τ : Type} (phrase : Phrase τ) (name : String) : Rule τ :=
  ⟨name, false, [⟨.seq [.part name, .part name], {}, 0⟩, ⟨phrase, {}, 0⟩]⟩

end BuildScan.Parsing
