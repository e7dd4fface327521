import BuildScan.Virtual.Shell.Integer
import BuildScan.Virtual.Shell.Variables

/-!
Arithmetic of the shell: integers of 64 bits with the operators of C.  A name stands for the number
that its variable holds, zero if it holds none, and may be assigned to.  A fault in the text of an
expression is a part of the expression that has no value, so that it counts only when everything to
its left has been evaluated.
-/

namespace BuildScan.Virtual.Shell.Arithmetic

inductive Token where
  | number (n : Int)
  | name (s : Octets)
  | sign (s : String)
  deriving Repr, DecidableEq

/-- Why an expression has no value. -/
inductive Fault where
  /-- Something else is expected in the text. -/
  | expected (what : String)
  | divisionByZero
  /-- The quotient is no integer of 64 bits. -/
  | overflow
  | notANumber (text : Octets)
  | readOnly (name : Octets)
  deriving Repr, DecidableEq

inductive Expression where
  | number (n : Int)
  | name (s : Octets)
  | unary (sign : String) (e : Expression)
  | binary (sign : String) (left right : Expression)
  | choice (condition yes no : Expression)
  | assign (name : Octets) (operator : Option String) (value : Expression)
  /-- The value of an expression with a fault behind it. -/
  | broken (e : Expression) (f : Fault)
  | missing (f : Fault)
  deriving Repr

/-- The signs, longer ones before those that they start with. -/
def signs : List String :=
  ["<<=", ">>=", "&&", "||", "==", "!=", "<=", ">=", "<<", ">>", "+=", "-=", "*=", "/=", "%=", "&=",
   "|=", "^=", "+", "-", "*", "/", "%", "<", ">", "=", "!", "~", "&", "|", "^", "?", ":", "(", ")"]

/-- The sign that no operator has, for a character that is not known. -/
def unknownSign : Token := .sign ""

/-- The tokens of a text, up to a character that is not known.  The first argument bounds their
number. -/
def tokens : Nat → Octets → List Token
  | 0, _ => []
  | _, [] => []
  | fuel + 1, c :: cs =>
    if c == ' ' || c == '\t' || c == '\n' then tokens fuel cs
    else
      match Integer.magnitudeAt? (c :: cs) with
      | some (n, rest) => .number (Integer.clamp n) :: tokens fuel rest
      | none =>
        match nameAt (c :: cs) with
        | (d :: name, rest) => .name (d :: name) :: tokens fuel rest
        | ([], _) =>
          match signs.find? fun s => s.toList.isPrefixOf (c :: cs) with
          | some s => .sign s :: tokens fuel ((c :: cs).drop s.length)
          | none => [unknownSign]

/-- How tightly an operator binds. -/
def level? (sign : String) : Option Nat :=
  [("|", 3), ("^", 4), ("&", 5), ("==", 6), ("!=", 6), ("<", 7), (">", 7), ("<=", 7), (">=", 7),
   ("<<", 8), (">>", 8), ("+", 9), ("-", 9), ("*", 10), ("/", 10), ("%", 10)].lookup sign

/-- The operator that an assignment applies first. -/
def assignmentOperator? (sign : String) : Option (Option String) :=
  [("=", none), ("+=", some "+"), ("-=", some "-"), ("*=", some "*"), ("/=", some "/"),
   ("%=", some "%"), ("&=", some "&"), ("|=", some "|"), ("^=", some "^"), ("<<=", some "<<"),
   (">>=", some ">>")].lookup sign

/-- What was read of an expression, and the tokens behind it unless reading has come to a fault. -/
abbrev Reading := Expression × Option (List Token)

/-- Goes on reading behind an expression, unless there is nothing to be read. -/
def Reading.andThen (r : Reading) (f : Expression → List Token → Reading) : Reading :=
  match r.2 with
  | some rest => f r.1 rest
  | none => r

/-- What was read, inside something else. -/
def Reading.inside (f : Expression → Expression) (r : Reading) : Reading := (f r.1, r.2)

/-- The token that has to come next. -/
def expect (sign what : String) (e : Expression) (rest : List Token) : Reading :=
  match rest with
  | .sign s :: more => if s = sign then (e, some more) else (.broken e (.expected what), none)
  | _ => (.broken e (.expected what), none)

mutual

/-- An operand. -/
def operand : Nat → List Token → Reading
  | 0, _ => (.missing (.expected "primary"), none)
  | fuel + 1, tokens =>
    match tokens with
    | .number n :: rest => (.number n, some rest)
    | .name s :: rest => (.name s, some rest)
    | .sign "(" :: rest => (whole fuel rest).andThen (expect ")" "')'")
    | .sign s :: rest =>
      if ["+", "-", "!", "~"].contains s then (operand fuel rest).inside (.unary s)
      else (.missing (.expected "primary"), none)
    | [] => (.missing (.expected "primary"), none)

/-- Operators from a level on, applied to what stands to their left. -/
def operators : Nat → Nat → Expression → List Token → Reading
  | 0, _, left, _ => (.broken left (.expected "primary"), none)
  | fuel + 1, least, left, tokens =>
    match tokens with
    | .sign s :: rest =>
      match level? s with
      | some level =>
        if level < least then (left, some tokens)
        else
          let right := (operand fuel rest).andThen (operators fuel (level + 1))
          (right.inside (.binary s left)).andThen (operators fuel least)
      | none => (left, some tokens)
    | _ => (left, some tokens)

/-- Operators and operands, joined by a sign. -/
def joinedBy : Nat → String → List Token → Reading
  | 0, _, _ => (.missing (.expected "primary"), none)
  | fuel + 1, sign, tokens =>
    let first :=
      if sign = "||" then joinedBy fuel "&&" tokens
      else (operand fuel tokens).andThen (operators fuel 0)
    first.andThen fun left rest =>
      match rest with
      | .sign s :: more =>
        if s = sign then (joinedBy fuel sign more).inside (.binary sign left) else (left, some rest)
      | _ => (left, some rest)

/-- An expression: an assignment or a choice. -/
def whole : Nat → List Token → Reading
  | 0, _ => (.missing (.expected "primary"), none)
  | fuel + 1, tokens =>
    match tokens with
    | .name s :: .sign sign :: rest =>
      match assignmentOperator? sign with
      | some operator => (whole fuel rest).inside (.assign s operator)
      | none => choice fuel tokens
    | _ => choice fuel tokens

/-- An expression that assigns nothing at its top. -/
def choice : Nat → List Token → Reading
  | 0, _ => (.missing (.expected "primary"), none)
  | fuel + 1, tokens =>
    (joinedBy fuel "||" tokens).andThen fun condition rest =>
      match rest with
      | .sign "?" :: rest =>
        let nothing : Expression := .number 0
        let yes := (whole fuel rest).andThen (expect ":" "':'")
        match yes.2 with
        | none => (.choice condition yes.1 nothing, none)
        | some rest => (choice fuel rest).inside (.choice condition yes.1)
      | _ => (condition, some rest)

end

def truth (b : Bool) : Int := if b then 1 else 0

/-- The value of an operator other than `&&` and `||`. -/
def apply (sign : String) (a b : Int) : Except Fault Int :=
  let quotient (f : Int → Int → Int) : Except Fault Int :=
    if b = 0 then .error .divisionByZero
    else if a = Integer.least && b = -1 then .error .overflow
    else .ok (f a b)
  match sign with
  | "+" => .ok (Integer.wrap (a + b))
  | "-" => .ok (Integer.wrap (a - b))
  | "*" => .ok (Integer.wrap (a * b))
  | "/" => quotient Int.tdiv
  | "%" => quotient Int.tmod
  | "==" => .ok (truth (a == b))
  | "!=" => .ok (truth (a != b))
  | "<" => .ok (truth (a < b))
  | ">" => .ok (truth (a > b))
  | "<=" => .ok (truth (a ≤ b))
  | ">=" => .ok (truth (a ≥ b))
  | "&" => .ok (Integer.ofBits (Integer.bits a &&& Integer.bits b))
  | "|" => .ok (Integer.ofBits (Integer.bits a ||| Integer.bits b))
  | "^" => .ok (Integer.ofBits (Integer.bits a ^^^ Integer.bits b))
  | "<<" => .ok (Integer.ofBits (Integer.bits a <<< Integer.bits b))
  | ">>" => .ok ((Integer.bits a).toInt64 >>> (Integer.bits b).toInt64).toInt
  | _ => .error (.expected "EOF")

/-- The number in a variable. -/
def valueIn (vars : Variables) (name : Octets) : Except Fault Int :=
  let text := (vars.value? name).getD []
  if text.all isSpace then .ok 0
  else
    match Integer.ofText? Integer.magnitudeAt? text with
    | some n => .ok n
    | none => .error (.notANumber text)

/-- Computations that may assign to variables. -/
abbrev Evaluation := StateT Variables (Except Fault)

/-- The value of an expression.  Of one that is not needed only the faults in its text count. -/
def evaluate (isNeeded : Bool) : Expression → Evaluation Int
  | .number n => return n
  | .name s => do if isNeeded then valueIn (← get) s else return 0
  | .unary sign e => do
    let n ← evaluate isNeeded e
    match sign with
    | "-" => return Integer.wrap (-n)
    | "!" => return truth (n == 0)
    | "~" => return -n - 1
    | _ => return n
  | .binary "&&" left right => do
    let a ← evaluate isNeeded left
    let b ← evaluate (isNeeded && a != 0) right
    return truth (a != 0 && b != 0)
  | .binary "||" left right => do
    let a ← evaluate isNeeded left
    let b ← evaluate (isNeeded && a == 0) right
    return truth (a != 0 || b != 0)
  | .binary sign left right => do
    let a ← evaluate isNeeded left
    let b ← evaluate isNeeded right
    if isNeeded then apply sign a b else return b
  | .choice condition yes no => do
    let c ← evaluate isNeeded condition
    let a ← evaluate (isNeeded && c != 0) yes
    let b ← evaluate (isNeeded && c == 0) no
    return if c != 0 then a else b
  | .assign name operator value => do
    let n ← evaluate isNeeded value
    if !isNeeded then return n
    else
      let vars ← get
      let n ← match operator with
        | none => pure n
        | some sign => apply sign (← valueIn vars name) n
      if vars.isReadOnly name then throw (.readOnly name)
      set (vars.assign name (signedDecimal n))
      return n
  | .broken e f => do
    let _ ← evaluate isNeeded e
    throw f
  | .missing f => throw f

/-- The expression that a text writes. -/
def expressionOf (text : Octets) : Expression :=
  let tokens := tokens text.length text
  let r := whole (8 * tokens.length + 8) tokens
  match r.2 with
  | some (_ :: _) => .broken r.1 (.expected "EOF")
  | _ => r.1

/-- The value of an expression given as text, and the variables afterwards. -/
def evaluateText (vars : Variables) (text : Octets) : Except Fault (Int × Variables) :=
  (evaluate true (expressionOf text)).run vars

end BuildScan.Virtual.Shell.Arithmetic
