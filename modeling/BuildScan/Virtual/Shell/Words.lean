import BuildScan.Virtual.Shell.Intake

/-!
Reading words.  Where a part of a word stands decides what ends it and which characters are special
in it: outside of quotes, in double quotes, in braces behind the name of a parameter, in an
arithmetic expression or in a document.  The commands in `$(...)` are read by `inner`.
-/

namespace BuildScan.Virtual.Shell

/-- Where the parts of a word stand. -/
inductive Setting where
  | bare
  /-- In double quotes. -/
  | quoted
  /-- In braces behind an operator. -/
  | braced (isQuoted : Bool)
  /-- In double quotes in such braces. -/
  | bracedQuotes
  /-- In an arithmetic expression, with so many parentheses open. -/
  | sum (depth : Nat)
  | document (d : Awaited)

namespace Setting

def isQuoted : Setting → Bool
  | bare => false
  | braced q => q
  | _ => true

/-- The characters that part words. -/
def isSeparator (c : Char) : Bool := [' ', '\t', '\n', ';', '&', '|', '<', '>', '(', ')'].contains c

/-- The character ends the parts and stands behind them. -/
def isEnd : Setting → Char → Bool
  | bare, c => isSeparator c
  | _, _ => false

/-- The character ends the parts and belongs to them. -/
def isClosing : Setting → Char → Bool
  | quoted, c => c == '"'
  | bracedQuotes, c => c == '"'
  | braced _, c => c == '\x7d'
  | _, _ => false

/-- A backslash in front of the character is left out. -/
def isEscaped (s : Setting) (c : Char) : Bool :=
  !s.isQuoted || ['\\', '\x60', '$'].contains c ||
    match s with
    | document _ => false
    | braced _ => c == '"' || c == '\x7d'
    | bracedQuotes => c == '"' || c == '\x7d'
    | _ => c == '"'

/-- What is wrong if the text ends here, which is a document or is none. -/
def fault? (isDocument : Bool) : Setting → Option String
  | bare => none
  | document _ => none
  | sum _ => some "Missing '))'"
  | s => some (if isDocument || !s.isQuoted then "Missing '\x7d'" else "Unterminated quoted string")

end Setting

namespace Read

/-- The text up to an apostrophe. -/
def untilApostrophe : Nat → Read Octets
  | 0 => tooLong
  | fuel + 1 => do
    match ← peek with
    | none => fail "Syntax error: Unterminated quoted string"
    | some c =>
      drop
      if c = '\'' then return [] else return c :: (← untilApostrophe fuel)

/-- The text up to a back quote; some backslashes in it are left out. -/
def untilBackQuote (isQuoted : Bool) : Nat → Read Octets
  | 0 => tooLong
  | fuel + 1 => do
    match ← glance with
    | none => fail "Syntax error: EOF in backquote substitution"
    | some '\x60' =>
      drop
      return []
    | some '\\' =>
      drop
      match ← peek with
      | none => fail "Syntax error: EOF in backquote substitution"
      | some c =>
        drop
        let rest ← untilBackQuote isQuoted fuel
        if ['\\', '\x60', '$'].contains c || (isQuoted && c == '"') then return c :: rest
        else return '\\' :: c :: rest
    | some c =>
      drop
      return c :: (← untilBackQuote isQuoted fuel)

/-- Parameters with a name of one character that is no letter. -/
def isSpecial (c : Char) : Bool := c.isDigit || ['@', '*', '#', '?', '$', '!', '-'].contains c

/-- The use that an operator makes of a parameter. -/
def use? (ifEmpty : Bool) (word : Word) : Char → Option Use
  | '-' => some (.instead ifEmpty word)
  | '=' => some (.assign ifEmpty word)
  | '+' => some (.replace ifEmpty word)
  | '?' => some (.demand ifEmpty word)
  | _ => none

/-- What stands in braces behind the name of a parameter; `more` reads the parts in a setting. -/
def useBehind (more : Setting → Read Word) (name : Octets) (isQuoted : Bool) : Read Part := do
  let rest := more (.braced isQuoted)
  let use (ifEmpty : Bool) (operator : Char) : Read Part := do
    return .value name ((use? ifEmpty (← rest) operator).getD .bad) isQuoted
  let cut (sign : Char) (shortest longest : Cut) : Read Part := do
    let side := if ← accept sign then longest else shortest
    return .value name (.cut side (← more (.braced false))) isQuoted
  match ← glance with
  | none => use false '\x7d'
  | some c =>
    swallow
    match c with
    | '\x7d' => return .value name .plain isQuoted
    | '%' => cut '%' .shortestBack .longestBack
    | '#' => cut '#' .shortestFront .longestFront
    | ':' =>
      match ← glance with
      | none => use true '\x7d'
      | some operator =>
        swallow
        use true operator
    | operator => use false operator

/-- The name of a variable or the number of an argument. -/
def longName : Read Octets := do
  match ← glance with
  | some c =>
    if isNameStart c then takeWhile isNameChar
    else if c.isDigit then takeWhile Char.isDigit
    else return []
  | none => return []

/-- What stands in braces behind a dollar sign. -/
def inBraces (more : Setting → Read Word) (isQuoted : Bool) : Read Part := do
  let bad : Read Part := do
    let _ ← more (.braced isQuoted)
    return .value [] .bad isQuoted
  let name ← longName
  if !name.isEmpty then useBehind more name isQuoted
  else
    match ← glance with
    | none => bad
    | some '\x7d' => bad
    | some '#' =>
      drop
      let name ← longName
      if !name.isEmpty then
        if ← accept '\x7d' then return .value name .length isQuoted else bad
      else
        let t ← get
        match ← glance with
        | none => bad
        | some '\x7d' => useBehind more ['#'] isQuoted
        | some c =>
          drop
          if (← glance) = some '\x7d' then
            if isSpecial c then
              drop
              return .value [c] .length isQuoted
            else bad
          else
            set t
            useBehind more ['#'] isQuoted
    | some c =>
      swallow
      if isSpecial c then useBehind more [c] isQuoted else bad

/-- The script between parentheses.  Documents that it announces and that do not follow in it are
empty. -/
def inParentheses (inner : Read (Option Script)) : Read (Option Script) := do
  let before ← get
  modify fun t => { t with awaited := [], isDocument := false }
  let script ← inner
  match (← get).token with
  | some (.sign .closeParen) => pure ()
  | some token => unexpected token (some Sign.closeParen.title)
  | none => pure ()
  modify fun t =>
    { t with
      token := none
      isDocument := before.isDocument
      awaited := before.awaited
      documents := (t.awaited.map fun a => (a.number, ⟨[], true⟩)) ++ t.documents }
  return script

/-- What a dollar sign stands for, or the sign itself. -/
def substitution (inner : Read (Option Script)) (more : Setting → Read Word) (isQuoted : Bool) :
    Read Part := do
  match ← glance with
  | some '(' =>
    drop
    if ← accept '(' then return .sum (← more (.sum 0)) isQuoted
    else return .output (← inParentheses inner) isQuoted
  | some '\x7b' =>
    drop
    inBraces more isQuoted
  | some c =>
    if isNameStart c then return .value (← takeWhile isNameChar) .plain isQuoted
    else if isSpecial c then
      drop
      return .value [c] .plain isQuoted
    else return .text ['$'] isQuoted
  | none => return .text ['$'] isQuoted

/-- Parts in double quotes.  All arguments on their own are nothing if there are none; anything else
is a field even if it is empty. -/
def inQuotes : Word → Word
  | [.value ['@'] .plain true] => [everyArgument]
  | w => .text [] true :: w ++ [.text [] true]

/-- Goes past the line that ends a document, if it is next. -/
def acceptMark (d : Awaited) : Read Bool := do
  let t ← get
  let upcoming := (t.values.flatMap fun s => s.left) ++ t.left
  let indent := if d.stripsTabs then (upcoming.takeWhile (· == '\t')).length else 0
  let line := upcoming.drop indent
  let behind := line.drop d.mark.length
  let isMark := d.mark.isPrefixOf line && (behind.isEmpty || behind.head? == some '\n')
  let count := indent + if isMark then d.mark.length + 1 else 0
  (List.range count).forM fun _ => drop
  if isMark && behind.isEmpty then modify fun t => { t with line := t.line + 1 }
  return isMark

/-- Adds a part in front of a word. -/
def cons : Part → Word → Word
  | .text [c] q, w => w.push c q
  | part, w => part :: w

/-- The parts of a word up to their end.  With `plainly` a dollar sign stands for itself. -/
def parts (inner : Read (Option Script)) (plainly : Bool) : Nat → Setting → Read Word
  | 0, _ => tooLong
  | fuel + 1, s => do
    let more := parts inner plainly fuel
    let literal (c : Char) : Read Word := do return Word.push c s.isQuoted (← more s)
    match ← glance with
    | none =>
      let isDocument := (← get).isDocument
      match s.fault? isDocument with
      | some message => fail ("Syntax error: " ++ message)
      | none => return []
    | some c =>
      if s.isEnd c then return []
      else
        drop
        if s.isClosing c then return []
        else
          match c with
          | '\\' =>
            match ← peek with
            | none => return Word.push '\\' true (← more s)
            | some e =>
              drop
              let rest := Word.push e true (← more s)
              return if s.isEscaped e then rest else Word.push '\\' true rest
          | '$' =>
            if plainly then literal c
            else
              let part ← substitution inner more s.isQuoted
              return cons part (← more s)
          | '\x60' =>
            if plainly then literal c
            else
              let text ← untilBackQuote s.isQuoted fuel
              let script ← within text inner
              return .output script s.isQuoted :: (← more s)
          | '"' =>
            match s with
            | .bare =>
              let inside ← more .quoted
              return inQuotes inside ++ (← more s)
            | .braced _ =>
              let inside ← more .bracedQuotes
              return inQuotes inside ++ (← more s)
            | _ => literal c
          | '\'' =>
            if s.isQuoted then literal c
            else
              let inside ← untilApostrophe fuel
              return .text inside true :: (← more s)
          | '\n' =>
            match s with
            | .document d =>
              if ← acceptMark d then return [.text [c] true] else literal c
            | _ => literal c
          | '(' =>
            match s with
            | .sum depth => return Word.push c true (← more (.sum (depth + 1)))
            | _ => literal c
          | ')' =>
            match s with
            | .sum 0 => if ← accept ')' then return [] else literal c
            | .sum (depth + 1) => return Word.push c true (← more (.sum depth))
            | _ => literal c
          | _ => literal c

/-- The lines of a document in which nothing is expanded. -/
def literalLines (d : Awaited) : Nat → Read Octets
  | 0 => tooLong
  | fuel + 1 => do
    match ← peek with
    | none => return []
    | some c =>
      drop
      if c = '\n' then
        if ← acceptMark d then return [c] else return c :: (← literalLines d fuel)
      else return c :: (← literalLines d fuel)

/-- Reads the body of a document. -/
def document (inner : Read (Option Script)) (d : Awaited) : Read Unit := do
  let bound := (← get).bound
  modify fun t => { t with isDocument := true }
  let body : Word ←
    if ← acceptMark d then pure []
    else if d.isLiteral then do pure [.text (← literalLines d bound) true]
    else parts inner false bound (.document d)
  modify fun t =>
    { t with isDocument := false, documents := (d.number, ⟨body, d.isLiteral⟩) :: t.documents }

/-- Reads the documents that have been announced. -/
def announced (inner : Read (Option Script)) : Read Unit := do
  let awaited := (← get).awaited
  modify fun t => { t with awaited := [] }
  awaited.forM (document inner)

/-- A word, or the redirection that it turns out to be the beginning of. -/
def wordToken (inner : Read (Option Script)) (plainly : Bool) : Read Token := do
  let word ← parts inner plainly (← get).bound .bare
  let stream? : Option (Option Nat) := match word with
    | [] => some none
    | [.text [d] false] => if d.isDigit then some (some (d.toNat - 48)) else none
    | _ => none
  match stream?, ← glance with
  | some stream, some '>' =>
    drop
    if ← accept '>' then return .redirect stream ['>', '>']
    else if ← accept '|' then return .redirect stream ['>', '|']
    else if ← accept '&' then return .redirect stream ['>', '&']
    else return .redirect stream ['>']
  | some stream, some '<' =>
    drop
    if ← accept '<' then
      if ← accept '-' then return .redirect stream ['<', '<', '-']
      else return .redirect stream ['<', '<']
    else if ← accept '&' then return .redirect stream ['<', '&']
    else if ← accept '>' then return .redirect stream ['<', '>']
    else return .redirect stream ['<']
  | _, _ =>
    modify fun t => { t with lastWord := word }
    return .word word

end Read

end BuildScan.Virtual.Shell
