import BuildScan.Go.Scanner
import BuildScan.Go.Syntax
import BuildScan.Parsing.Run

/-!
Go as a language that a reader knows: the grammar's automaton and the scanner.  Building the
automaton takes longer than reading most files, so it is put off until a file needs it, and kept.
-/

namespace BuildScan.Go

open BuildScan.Parsing

/-- The terminals with a property. -/
def having (g : Grammar Terminal) (p : Terminal → Bool) : TokenSet :=
  TokenSet.ofList ((List.range g.terminals.size).filter fun t => (g.terminals[t]?).any p)

def lexicon (g : Grammar Terminal) : Lexicon :=
  let numbering := Numbering.ofTerminals g.terminals
  let wordsOnly (old new : Terminal) : Bool :=
    (old == .name && new.isWord) || (new == .name && old.isWord)
  { finish := g.finish
    comment := numbering.comment
    word := numbering.name
    words := having g Terminal.isWord
    reserved := having g Terminal.isKeyword
    clashes := g.terminals.map fun new =>
      having g fun old => !wordsOnly old new && old.clashes new
    apart := g.terminals.map fun new => having g fun old => old.apart new
    confined := having g fun t => t == .lineEnd || t == .inside || t == .rawInside }

/-- The language of a grammar. -/
def languageOf (g : Grammar Terminal) : Language :=
  let numbering := Numbering.ofTerminals g.terminals
  let lexicon := lexicon g
  { automaton := Automaton.ofStates lexicon g.parts g.canonical
    lexicon := lexicon
    hidden := having g (· == .lineEnd)
    shownParts := g.parts.map Part.shown
    scan := numbering.scan }

/-- The grammar of Go files, in numbers. -/
def grammar : Grammar Terminal := Grammar.ofRules [.name] Syntax.rules [.comment]

def language : Thunk Language := Thunk.mk fun _ => languageOf grammar

end BuildScan.Go
