import BuildScan.Virtual.Shell.Words

/-!
Reading commands.  A script is read line by line: `readLine` takes the commands up to the end of a
line, or further if the line breaks off inside a command, so that each line can be carried out
before the next one is read.
-/

namespace BuildScan.Virtual.Shell

/-- The commands of the shell whose faults end a script. -/
def specialNames : List String :=
  [".", ":", "break", "continue", "eval", "exec", "exit", "export", "local", "readonly", "return",
   "set", "shift", "times", "trap", "unset"]

/-- What a token is looked up as where it stands. -/
structure Checks where
  /-- Line ends are skipped. -/
  lines : Bool
  keywords : Bool
  aliases : Bool

namespace Checks

def none : Checks := ⟨false, false, false⟩

def all : Checks := ⟨true, true, true⟩

/-- Where a command begins on the same line. -/
def command : Checks := ⟨false, true, true⟩

def aliasesOnly : Checks := ⟨false, false, true⟩

/-- Where a pattern begins. -/
def pattern : Checks := ⟨true, true, false⟩

end Checks

/-- How far a list of commands goes. -/
inductive Extent where
  /-- To the end of the line. -/
  | line
  /-- To a word or sign that ends it; it is not empty. -/
  | body
  /-- Likewise, but it may be empty. -/
  | rest
  deriving DecidableEq

namespace Read

/-- Goes past a comment. -/
def skipLine : Nat → Read Unit
  | 0 => tooLong
  | fuel + 1 => do
    match ← peek with
    | none => return
    | some '\n' => return
    | some _ =>
      drop
      skipLine fuel

/-- The next token as it is written. -/
def bareToken (inner : Read (Option Script)) (plainly : Bool) : Nat → Read Token
  | 0 => tooLong
  | fuel + 1 => do
    let sign (s : Sign) : Read Token := do
      drop
      return .sign s
    let doubled (c : Char) (one two : Sign) : Read Token := do
      drop
      return .sign (if ← accept c then two else one)
    match ← glance with
    | none => return .sign .finish
    | some ' ' =>
      drop
      bareToken inner plainly fuel
    | some '\t' =>
      drop
      bareToken inner plainly fuel
    | some '#' =>
      skipLine fuel
      bareToken inner plainly fuel
    | some '\n' => sign .lineEnd
    | some '&' => doubled '&' .ampersand .both
    | some '|' => doubled '|' .bar .either
    | some ';' => doubled ';' .semicolon .caseEnd
    | some '(' => sign .openParen
    | some ')' => sign .closeParen
    | some _ => wordToken inner plainly

/-- The token that was put back, or else the next one. -/
def nextToken (inner : Read (Option Script)) (plainly : Bool) : Read Token := do
  match (← get).token with
  | some token =>
    modify fun t => { t with token := none }
    return token
  | none => bareToken inner plainly (← get).bound

/-- The next token that is no line end. -/
def skipLines (inner : Read (Option Script)) : Nat → Token → Read Token
  | 0, _ => tooLong
  | fuel + 1, token =>
    if token.isSign .lineEnd then do
      announced inner
      skipLines inner fuel (← nextToken inner false)
    else return token

/-- The next token, looked up as what it may be. -/
def tokenAfter (inner : Read (Option Script)) (checks : Checks) : Nat → Read Token
  | 0 => tooLong
  | fuel + 1 => do
    let token ← nextToken inner false
    let token ← if checks.lines then skipLines inner fuel token else pure token
    let checksAliases := checks.aliases || (← get).replacesNext
    modify fun t => { t with replacesNext := false }
    match token.plain? with
    | none => return token
    | some text =>
      match if checks.keywords then Keyword.ofText? text else none with
      | some k => return .keyword k
      | none =>
        let t ← get
        match if checksAliases then t.alias? text else none with
        | some value =>
          modify fun t => t.insert text value
          tokenAfter inner { checks with aliases := checksAliases } fuel
        | none => return token

/-- The next token, looked up as what it may be. -/
def token (inner : Read (Option Script)) (checks : Checks) : Read Token := do
  tokenAfter inner checks (← get).bound

/-- Takes a reserved word, which has to be next. -/
def expect (inner : Read (Option Script)) (checks : Checks) (k : Keyword) : Read Unit := do
  let found ← token inner checks
  if !found.isKeyword k then unexpected found (some (Token.keyword k).title)

/-- How the sign of a redirection opens a file, and for which stream if none is named. -/
def openings : List (String × Opening × Nat) :=
  [("<", .read, 0), ("<>", .readWrite, 0), (">", .write, 1), (">|", .overwrite, 1),
   (">>", .append, 1)]

/-- The stream that a word names, if it is written out. -/
def originalOf (word : Word) : Original :=
  match plainWord? word with
  | some ['-'] => .closed
  | some [d] => if d.isDigit then .stream (d.toNat - 48) else .named word
  | _ => .named word

/-- The text of a word without its quotes. -/
def unquoted (word : Word) : Octets :=
  word.flatMap fun part => match part with
    | .text cs _ => cs
    | _ => []

/-- Announces a document that a stream reads. -/
def document? (inner : Read (Option Script)) (stream : Nat) (stripsTabs : Bool) :
    Read Redirect := do
  match ← nextToken inner true with
  | .word mark =>
    let number := (← get).nextDocument
    let isLiteral := mark.any Part.isQuoted
    modify fun t =>
      { t with
        nextDocument := number + 1
        awaited := t.awaited ++ [⟨number, unquoted mark, isLiteral, stripsTabs⟩] }
    return .document stream number
  | other => unexpected other none

/-- The redirection with a sign. -/
def redirection (inner : Read (Option Script)) (stream : Option Nat) (sign : Octets) :
    Read Redirect := do
  match string sign with
  | "<<" => document? inner (stream.getD 0) false
  | "<<-" => document? inner (stream.getD 0) true
  | text =>
    match ← token inner .none with
    | .word word =>
      match openings.lookup text with
      | some (opening, default) => return .file (stream.getD default) opening word
      | none => return .copy (stream.getD (if text = "<&" then 0 else 1)) (originalOf word)
    | other => unexpected other none

/-- The redirections behind a command. -/
def redirections (inner : Read (Option Script)) : Nat → Read (List Redirect)
  | 0 => tooLong
  | fuel + 1 => do
    match ← token inner .command with
    | .redirect stream sign =>
      let first ← redirection inner stream sign
      return first :: (← redirections inner fuel)
    | other =>
      putBack other
      return []

/-- The words up to something else, and what that is. -/
def words (inner : Read (Option Script)) : Nat → Read (List Word × Token)
  | 0 => tooLong
  | fuel + 1 => do
    match ← token inner .none with
    | .word w =>
      let (rest, behind) ← words inner fuel
      return (w :: rest, behind)
    | other => return ([], other)

/-- The patterns of a branch, from the one that is given on.  In the stead of a sign that is no
pattern stands the last word. -/
def patterns (inner : Read (Option Script)) : Nat → Token → Read (List Word)
  | 0, _ => tooLong
  | fuel + 1, first => do
    let pattern := first.word?.getD (← get).lastWord
    let behind ← token inner .none
    if behind.isSign .bar then return pattern :: (← patterns inner fuel (← token inner .none))
    else if behind.isSign .closeParen then return [pattern]
    else unexpected behind (some Sign.closeParen.title)

/-- The name of a function that may be defined. -/
def functionName? (word : Word) : Option Octets :=
  match plainWord? word with
  | some name => if isName name && !specialNames.contains (string name) then some name else none
  | none => none

/-- What has been read of a command without structure. -/
structure Simple where
  assignments : List (Octets × Word)
  words : List Word
  redirects : List Redirect

mutual

/-- A list of commands, behind what has been read of it. -/
def list : Nat → Extent → Option Script → Read (Option Script)
  | 0, _, _ => tooLong
  | fuel + 1, extent, before => do
    let inner := list fuel .rest none
    let first ← token inner (if extent = .line then .command else .all)
    if first.isSign .lineEnd then
      announced inner
      return before
    else if first.isSign .finish then
      announced inner
      putBack first
      return before
    else
      putBack first
      if first.isEnd && (extent = .rest || (extent = .body && before.isSome)) then return before
      else
        let command ← andOr fuel
        let behind ← token inner .none
        let command := if behind.isSign .ampersand then command.behind else command
        let all := match before with
          | some s => some (Script.inOrder s command)
          | none => some command
        match behind with
        | .sign .finish =>
          announced inner
          putBack behind
          return all
        | .sign .lineEnd =>
          putBack behind
          list fuel extent all
        | .sign .ampersand => list fuel extent all
        | .sign .semicolon => list fuel extent all
        | _ =>
          if extent = .line then unexpected behind none
          else
            putBack behind
            return all

/-- The commands up to a word that ends them. -/
def body : Nat → Read Script
  | 0 => tooLong
  | fuel + 1 => do return (← list fuel .body none).getD default

/-- Pipelines with `&&` and `||` between them. -/
def andOr : Nat → Read Script
  | 0 => tooLong
  | fuel + 1 => do andOrFrom fuel (← pipeline fuel .none)

/-- Further pipelines behind the first ones. -/
def andOrFrom : Nat → Script → Read Script
  | 0, _ => tooLong
  | fuel + 1, first => do
    match ← token (list fuel .rest none) .none with
    | .sign .both => andOrFrom fuel (.both first (← pipeline fuel .all))
    | .sign .either => andOrFrom fuel (.either first (← pipeline fuel .all))
    | other =>
      putBack other
      return first

/-- Commands with bars between them. -/
def pipeline : Nat → Checks → Read Script
  | 0, _ => tooLong
  | fuel + 1, checks => do
    let first ← token (list fuel .rest none) checks
    let isNegated := first.isKeyword .bang
    if !isNegated then putBack first
    let command ← command fuel (if isNegated then .command else .none)
    let stages ← stages fuel
    let whole := if stages.isEmpty then command else .pipeline (command :: stages) false
    return if isNegated then .negated whole else whole

/-- The stages of a pipeline behind the first one. -/
def stages : Nat → Read (List Script)
  | 0 => tooLong
  | fuel + 1 => do
    match ← token (list fuel .rest none) .none with
    | .sign .bar =>
      let next ← command fuel .all
      return next :: (← stages fuel)
    | other =>
      putBack other
      return []

/-- One command. -/
def command : Nat → Checks → Read Script
  | 0, _ => tooLong
  | fuel + 1, checks => do
    let inner := list fuel .rest none
    let line := (← get).line
    let ended (script : Script) (k : Keyword) : Read Script := do
      expect inner .none k
      return script
    let compound : Option (Read Script) ← match ← token inner checks with
      | .keyword .if_ => pure (some do ended (← choice fuel) .fi)
      | .keyword .while_ => pure (some do ended (← loop fuel false) .done)
      | .keyword .until_ => pure (some do ended (← loop fuel true) .done)
      | .keyword .for_ => pure (some do ended (← each fuel line) .done)
      | .keyword .case => pure (some (select fuel line))
      | .keyword .openBrace => pure (some do ended (← body fuel) .closeBrace)
      | .sign .openParen => pure (some do
          let script ← body fuel
          let behind ← token inner .none
          if behind.isSign .closeParen then return .nested line script [] false
          else unexpected behind (some Sign.closeParen.title))
      | .word w => do
        putBack (.word w)
        pure none
      | .redirect stream sign => do
        putBack (.redirect stream sign)
        pure none
      | other => unexpected other none
    match compound with
    | none => simple fuel (← get).line true ⟨[], [], []⟩
    | some act =>
      let script ← act
      match script, ← redirections inner fuel with
      | s, [] => return s
      | .nested line s [] false, redirects => return .nested line s redirects false
      | s, redirects => return .redirected line s redirects

/-- A choice behind its first word. -/
def choice : Nat → Read Script
  | 0 => tooLong
  | fuel + 1 => do
    let inner := list fuel .rest none
    let condition ← body fuel
    expect inner .none .then_
    let yes ← body fuel
    match ← token inner .none with
    | .keyword .elif => return .choice condition yes (some (← choice fuel))
    | .keyword .else_ => return .choice condition yes (some (← body fuel))
    | other =>
      putBack other
      return .choice condition yes none

/-- A loop with a condition, behind its first word. -/
def loop : Nat → Bool → Read Script
  | 0, _ => tooLong
  | fuel + 1, isUntil => do
    let condition ← body fuel
    expect (list fuel .rest none) .none .do_
    return .loop isUntil condition (← body fuel)

/-- A loop over words, behind its first word. -/
def each : Nat → Nat → Read Script
  | 0, _ => tooLong
  | fuel + 1, line => do
    let inner := list fuel .rest none
    match (← token inner .none).plain? with
    | none => fail "Syntax error: Bad for loop variable"
    | some name =>
      if !isName name then fail "Syntax error: Bad for loop variable"
      else
        let next ← token inner .all
        let values ←
          if next.isKeyword .in_ then do
            let (values, behind) ← words inner fuel
            if !(behind.isSign .lineEnd || behind.isSign .semicolon) then unexpected behind none
            else pure values
          else do
            if !next.isSign .semicolon then putBack next
            pure [[everyArgument]]
        expect inner .all .do_
        return .each line name values (← body fuel)

/-- A choice among patterns, behind its first word. -/
def select : Nat → Nat → Read Script
  | 0, _ => tooLong
  | fuel + 1, line => do
    let inner := list fuel .rest none
    match ← token inner .none with
    | .word w =>
      expect inner .all .in_
      return .select line w (← branches fuel)
    | other => unexpected other (some "word")

/-- The branches of a choice among patterns, and the word behind them. -/
def branches : Nat → Read (List (List Word × Option Script))
  | 0 => tooLong
  | fuel + 1 => do
    let inner := list fuel .rest none
    let first ← token inner .pattern
    if first.isKeyword .esac then return []
    else
      let first ← if first.isSign .openParen then token inner .none else pure first
      let patterns ← patterns inner fuel first
      let script ← list fuel .rest none
      let behind ← token inner .pattern
      if behind.isKeyword .esac then return [(patterns, script)]
      else if behind.isSign .caseEnd then return (patterns, script) :: (← branches fuel)
      else unexpected behind (some Sign.caseEnd.title)

/-- A command without structure, behind what has been read of it, or the definition of a
function. -/
def simple : Nat → Nat → Bool → Simple → Read Script
  | 0, _, _, _ => tooLong
  | fuel + 1, line, inFront, s => do
    let inner := list fuel .rest none
    let finished : Script := .simple line s.assignments s.words s.redirects
    match ← token inner (if inFront then .aliasesOnly else .none) with
    | .word w =>
      match if inFront then w.assignment? else none with
      | some a => simple fuel line true { s with assignments := s.assignments ++ [a] }
      | none => simple fuel line false { s with words := s.words ++ [w] }
    | .redirect stream sign =>
      let redirect ← redirection inner stream sign
      simple fuel line inFront { s with redirects := s.redirects ++ [redirect] }
    | .sign .openParen =>
      match s with
      | ⟨[], [name], []⟩ =>
        let behind ← token inner .none
        if !behind.isSign .closeParen then unexpected behind (some Sign.closeParen.title)
        else
          match functionName? name with
          | none => fail "Syntax error: Bad function name"
          | some name => return .define name (← command fuel .all)
      | _ =>
        putBack (.sign .openParen)
        return finished
    | other =>
      putBack other
      return finished

end

end Read

/-- What a line holds. -/
inductive Line where
  /-- There is no line any more. -/
  | finished
  | commands (script : Option Script)

namespace Intake

/-- The commands of the next line and what follows it, or why the text is no script. -/
def readLine (t : Intake) : Except Fault (Line × Intake) := do
  let (script, t) ← (Read.list t.bound .line none).run { t with token := none }
  match script, t.token with
  | none, some _ => return (.finished, t)
  | script, _ => return (.commands script, t)

/-- A text as the lines of a document. -/
def readDocument (t : Intake) : Except Fault Word := do
  let unending : Awaited := ⟨0, ['\x00'], false, false⟩
  let read := Read.parts (Read.list t.bound .rest none) false t.bound (.document unending)
  let (word, _) ← read.run { t with isDocument := true }
  return word

end Intake

end BuildScan.Virtual.Shell
