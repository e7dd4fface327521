import BuildScan.Virtual.Shell.Octets

/-!
Scripts of the shell as trees.  A word is a list of parts, each of which knows whether it stands in
quotes: only what is not quoted is split into fields and matched against file names.
-/

namespace BuildScan.Virtual.Shell

/-- Which part of a value is cut off. -/
inductive Cut where
  | shortestFront
  | longestFront
  | shortestBack
  | longestBack
  deriving Repr, DecidableEq

/-- How a file is opened for a stream. -/
inductive Opening where
  | read
  | readWrite
  | write
  /-- Likewise, even where files are to be kept. -/
  | overwrite
  | append
  deriving Repr, DecidableEq

mutual

/-- A part of a word. -/
inductive Part where
  /-- A quoted text is part of a field even if it is empty. -/
  | text (cs : Octets) (isQuoted : Bool)
  /-- The value of a parameter. -/
  | value (name : Octets) (use : Use) (isQuoted : Bool)
  /-- The value of an arithmetic expression. -/
  | sum (expression : List Part) (isQuoted : Bool)
  /-- What a script writes. -/
  | output (script : Option Script) (isQuoted : Bool)

/-- What is made of the value of a parameter.  With `ifEmpty` an empty value counts as none. -/
inductive Use where
  | plain
  | length
  /-- Another value where there is none. -/
  | instead (ifEmpty : Bool) (word : List Part)
  /-- Likewise, and the other value is assigned. -/
  | assign (ifEmpty : Bool) (word : List Part)
  /-- Another value where there is one. -/
  | replace (ifEmpty : Bool) (word : List Part)
  /-- An error where there is none. -/
  | demand (ifEmpty : Bool) (word : List Part)
  | cut (side : Cut) (pattern : List Part)
  /-- No use that there is. -/
  | bad

/-- Which stream another one becomes a copy of. -/
inductive Original where
  | stream (number : Nat)
  | closed
  | named (word : List Part)

/-- A change of where a stream leads. -/
inductive Redirect where
  | file (stream : Nat) (opening : Opening) (target : List Part)
  | copy (stream : Nat) (original : Original)
  /-- The stream reads a text of the script, which is kept under a number. -/
  | document (stream : Nat) (number : Nat)

/-- A script.  A form that is reported as being on a line holds the number of that line. -/
inductive Script where
  /-- A command with the assignments in front of it. -/
  | simple (line : Nat) (assignments : List (Octets × List Part)) (words : List (List Part))
      (redirects : List Redirect)
  /-- Each stage reads what the one before it writes. -/
  | pipeline (stages : List Script) (inBackground : Bool)
  | negated (body : Script)
  | both (first second : Script)
  | either (first second : Script)
  | inOrder (first second : Script)
  | choice (condition yes : Script) (no : Option Script)
  | loop (isUntil : Bool) (condition body : Script)
  | each (line : Nat) (name : Octets) (words : List (List Part)) (body : Script)
  | select (line : Nat) (word : List Part)
      (branches : List (List (List Part) × Option Script))
  /-- The body runs in a process of its own, which is waited for unless it is in the background. -/
  | nested (line : Nat) (body : Script) (redirects : List Redirect) (inBackground : Bool)
  | redirected (line : Nat) (body : Script) (redirects : List Redirect)
  | define (name : Octets) (body : Script)

end

abbrev Word := List Part

instance : Inhabited Script := ⟨.pipeline [] false⟩

namespace Script

/-- The script with nobody waiting for it. -/
def behind : Script → Script
  | pipeline stages _ => pipeline stages true
  | nested line body redirects _ => nested line body redirects true
  | redirected line body redirects => nested line body redirects true
  | s => nested 0 s [] true

end Script

/-- The part stands in quotes. -/
def Part.isQuoted : Part → Bool
  | text _ q => q
  | value _ _ q => q
  | sum _ q => q
  | output _ q => q

/-- Adds a character in front of a word. -/
def Word.push (c : Char) (isQuoted : Bool) : Word → Word
  | .text cs q :: rest =>
    if q = isQuoted then .text (c :: cs) q :: rest else .text [c] isQuoted :: .text cs q :: rest
  | w => .text [c] isQuoted :: w

/-- An assignment that a word is. -/
def Word.assignment? : Word → Option (Octets × Word)
  | .text cs false :: rest =>
    (assignmentAt? cs).map fun a => (a.1, if a.2.isEmpty then rest else .text a.2 false :: rest)
  | _ => none

/-- A word that is nothing but unquoted text. -/
def plainWord? : Word → Option Octets
  | [] => some []
  | [.text cs false] => some cs
  | _ => none

/-- All arguments, each a field. -/
def everyArgument : Part := .value ['@'] .plain true

/-- A text inside the script that a stream reads. -/
structure Document where
  body : Word
  /-- Nothing in it is expanded. -/
  isLiteral : Bool

end BuildScan.Virtual.Shell
