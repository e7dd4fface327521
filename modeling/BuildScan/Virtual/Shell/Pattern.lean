import BuildScan.Virtual.Shell.Syntax

/-!
Patterns of the shell: `*` is any text, `?` any character and `[...]` one of some characters.
Quoted characters stand for themselves, and so does a character behind a backslash that is not
quoted itself.
-/

namespace BuildScan.Virtual.Shell

/-- A character of an expanded word, and whether it is quoted. -/
abbrev Marked := Char × Bool

/-- What stands in brackets. -/
inductive Choice where
  | range (low high : Char)
  /-- The characters of a class. -/
  | kind (holds : Char → Bool)

/-- A part of a pattern. -/
inductive Glob where
  | only (c : Char)
  | any
  | run
  | oneOf (isNegated : Bool) (choices : List Choice)

def isPunctuation (c : Char) : Bool := '!' ≤ c && c ≤ '~' && !c.isAlphanum

/-- The classes of characters and their names. -/
def classes : List (String × (Char → Bool)) :=
  [("alnum", Char.isAlphanum), ("cntrl", fun c => c.toNat < 0x20 || c.toNat = 0x7F),
   ("lower", Char.isLower), ("space", isSpace), ("alpha", Char.isAlpha), ("digit", Char.isDigit),
   ("print", fun c => ' ' ≤ c && c ≤ '~'), ("upper", Char.isUpper), ("blank", isLineBlank),
   ("graph", fun c => '!' ≤ c && c ≤ '~'), ("punct", isPunctuation),
   ("xdigit", fun c => c.isDigit || ('a' ≤ c && c ≤ 'f') || ('A' ≤ c && c ≤ 'F'))]

/-- The class at the front of a pattern, written `:name:]`, and what follows it. -/
def class? (pattern : List Marked) : Option ((Char → Bool) × List Marked) :=
  classes.findSome? fun c =>
    let written := (':' :: c.1.toList ++ [':', ']']).map fun d => (d, false)
    if written.isPrefixOf pattern then some (c.2, pattern.drop written.length) else none

/-- The character at the front of a pattern, behind a backslash if there is one. -/
def literal? : List Marked → Option (Char × List Marked)
  | ('\\', false) :: (c, _) :: rest => some (c, rest)
  | (c, _) :: rest => some (c, rest)
  | [] => none

/-- The choices up to the closing bracket, which does not close if it is the first, and what
follows.  The first argument bounds their number. -/
def choices? (isFirst : Bool) : Nat → List Marked → Option (List Choice × List Marked)
  | 0, _ => none
  | fuel + 1, pattern =>
    let add (choice : Choice) (rest : List Marked) : Option (List Choice × List Marked) :=
      (choices? false fuel rest).map fun r => (choice :: r.1, r.2)
    let single : Option (List Choice × List Marked) :=
      match literal? pattern with
      | none => none
      | some (low, rest) =>
        match rest with
        | ('-', false) :: behind =>
          if behind.head? = some (']', false) then add (.range low low) rest
          else
            match literal? behind with
            | none => none
            | some (high, behind) => add (.range low high) behind
        | _ => add (.range low low) rest
    match pattern with
    | [] => none
    | (']', false) :: rest => if isFirst then single else some ([], rest)
    | ('[', false) :: rest =>
      match class? rest with
      | some (holds, rest) => add (.kind holds) rest
      | none => single
    | _ => single

/-- A pattern in parts. -/
def globs : Nat → List Marked → List Glob
  | 0, _ => []
  | _, [] => []
  | fuel + 1, ('*', false) :: rest => .run :: globs fuel rest
  | fuel + 1, ('?', false) :: rest => .any :: globs fuel rest
  | fuel + 1, ('[', false) :: rest =>
    let (isNegated, start) := match rest with
      | ('!', false) :: more => (true, more)
      | _ => (false, rest)
    match choices? true start.length start with
    | some (choices, behind) => .oneOf isNegated choices :: globs fuel behind
    | none => .only '[' :: globs fuel rest
  | fuel + 1, ('\\', false) :: (c, _) :: rest => .only c :: globs fuel rest
  | fuel + 1, (c, _) :: rest => .only c :: globs fuel rest

/-- Characters beyond ASCII come before all others. -/
def rank (c : Char) : Nat := if c.toNat < 0x80 then c.toNat + 0x80 else c.toNat - 0x80

def Choice.holds (c : Char) : Choice → Bool
  | range low high => rank low ≤ rank c && rank c ≤ rank high
  | kind holds => holds c

/-- The ends of a text, the whole text first. -/
def tails : Octets → List Octets
  | [] => [[]]
  | c :: cs => (c :: cs) :: tails cs

/-- The parts cover the whole text. -/
def covers : List Glob → Octets → Bool
  | [], cs => cs.isEmpty
  | .run :: rest, cs => (tails cs).any (covers rest)
  | _ :: _, [] => false
  | .only d :: rest, c :: cs => c == d && covers rest cs
  | .any :: rest, _ :: cs => covers rest cs
  | .oneOf isNegated choices :: rest, c :: cs =>
    (choices.any (Choice.holds c)) != isNegated && covers rest cs

/-- The pattern covers the whole text. -/
def fits (pattern : List Marked) (cs : Octets) : Bool := covers (globs pattern.length pattern) cs

/-- Cuts off what a pattern covers at one end of a value.  In the value of several arguments a zero
byte stands between them: a pattern sees nothing behind it, and the searches that begin at the front
end there. -/
def cutOff (side : Cut) (pattern : List Marked) (value : Octets) : Octets :=
  let parts := globs pattern.length pattern
  let covered (cs : Octets) : Bool := covers parts (cs.takeWhile (· != '\x00'))
  let first := (value.takeWhile (· != '\x00')).length
  let fromFront := List.range (first + 1)
  let fromBack := (List.range (value.length + 1)).reverse
  let front := fun n : Nat => covered (value.take n)
  let back := fun n : Nat => covered (value.drop n)
  match side with
  | .shortestFront => ((fromFront.find? front).map value.drop).getD value
  | .longestFront => ((fromBack.find? front).map value.drop).getD value
  | .shortestBack => ((fromBack.find? back).map value.take).getD value
  | .longestBack => ((fromFront.find? back).map value.take).getD value

/-- The text has a character that a pattern may have. -/
def isPattern (cs : List Marked) : Bool := cs.any fun m => !m.2 && ['*', '?', '['].contains m.1

end BuildScan.Virtual.Shell
