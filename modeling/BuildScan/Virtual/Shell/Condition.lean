import BuildScan.Virtual.Shell.Globbing
import BuildScan.Virtual.Shell.Process

/-!
Conditions given as arguments, as in `[ -f name -a 1 -lt 2 ]`.  Whether an argument is an operator
depends on where it stands: one that needs an operand is a text of its own if there is none, or if
what follows it is an operator between two operands.
-/

namespace BuildScan.Virtual.Shell.Condition

open BuildScan.Text

/-- The operators on one text or one file. -/
def unary : List String :=
  ["-r", "-w", "-x", "-e", "-f", "-d", "-c", "-b", "-p", "-u", "-g", "-k", "-s", "-t", "-z", "-n",
   "-h", "-O", "-G", "-L", "-S"]

/-- The operators between two operands. -/
def binary : List String :=
  ["=", "!=", "<", ">", "-eq", "-ne", "-ge", "-gt", "-le", "-lt", "-nt", "-ot", "-ef"]

/-- What an argument is where it stands. -/
inductive Role where
  | finish
  | operand
  | unary (operator : String)
  | binary (operator : String)
  | negation
  | both
  | either
  | openParen
  | closeParen
  deriving DecidableEq

/-- An operator on one operand is a text if no operand follows it. -/
def standsAlone : List Octets → Bool
  | [] => true
  | [_] => false
  | next :: _ :: _ => binary.contains (string next)

/-- What the first of some arguments is. -/
def roleOf : List Octets → Role
  | [] => .finish
  | arg :: rest =>
    let text := string arg
    match text with
    | "!" => .negation
    | "-a" => .both
    | "-o" => .either
    | "(" => if rest.isEmpty then .operand else .openParen
    | ")" => .closeParen
    | _ =>
      if binary.contains text then .binary text
      else if unary.contains text && !standsAlone rest then .unary text
      else .operand

/-- A value, and the arguments from the last one on that belongs to it. -/
abbrev Value := Bool × List Octets

def number (cs : Octets) : Except Octets Int :=
  match Integer.ofDecimal? cs with
  | some n => .ok n
  | none => .error (octetsOf "Illegal number: " ++ cs)

/-- The path leads to a symbolic link. -/
def isLink (s : State) (path : Octets) : Bool :=
  let reversed := path.reverse
  let name := (reversed.takeWhile (· != '/')).reverse
  let directory := (reversed.dropWhile (· != '/')).reverse
  match s.world.files.find s.process.cwd (if directory.isEmpty then "." else string directory) with
  | .ok (place, .directory) =>
    match s.world.files.at? (place ++ [string name]) with
    | some (.link _) => true
    | _ => false
  | _ => false

/-- The value of an operator on one operand. -/
def applyUnary (s : State) (operator : String) (arg : Octets) : Except Octets Bool :=
  let holds (f : Entry → Bool) : Except Octets Bool :=
    .ok (match s.world.files.find s.process.cwd (pathOf arg) with
      | .ok (_, entry) => f entry
      | .error _ => false)
  let hasMode (bits : Nat) : Entry → Bool
    | .file mode _ => mode &&& bits != 0
    | _ => false
  match operator with
  | "-n" => .ok !arg.isEmpty
  | "-z" => .ok arg.isEmpty
  | "-t" => (number arg).map fun _ => false
  | "-h" => .ok (isLink s arg)
  | "-L" => .ok (isLink s arg)
  | "-d" => holds fun e => e == .directory
  | "-f" => holds fun e => match e with
    | .file _ _ => true
    | .program _ => true
    | _ => false
  | "-x" => holds fun e => e == .directory || e.isExecutable
  | "-s" => holds fun e => match e with
    | .file _ content => !content.isEmpty
    | .void => false
    | .stream _ => false
    | _ => true
  | "-c" => holds fun e => e == .void
  | "-u" => holds (hasMode 0o4000)
  | "-g" => holds (hasMode 0o2000)
  | "-k" => holds (hasMode 0o1000)
  | "-b" => .ok false
  | "-p" => .ok false
  | "-S" => .ok false
  | _ => holds fun _ => true

/-- The value of an operator between two operands. -/
def applyBinary (s : State) (left : Octets) (operator : String) (right : Octets) :
    Except Octets Bool :=
  let compare (f : Int → Int → Bool) : Except Octets Bool := do
    let a ← number left
    let b ← number right
    return f a b
  match operator with
  | "=" => .ok (left == right)
  | "!=" => .ok (left != right)
  | "<" => .ok (decide (left < right))
  | ">" => .ok (decide (right < left))
  | "-eq" => compare fun a b => a == b
  | "-ne" => compare fun a b => a != b
  | "-lt" => compare fun a b => a < b
  | "-le" => compare fun a b => a ≤ b
  | "-gt" => compare fun a b => a > b
  | "-ge" => compare fun a b => a ≥ b
  | "-ef" =>
    match s.world.files.find s.process.cwd (pathOf left),
        s.world.files.find s.process.cwd (pathOf right) with
    | .ok (a, _), .ok (b, _) => .ok (a == b)
    | _, _ => .ok false
  | _ => .ok false

mutual

/-- Conditions with `-o` between them; the role of the first argument is given. -/
def disjunction (s : State) : Nat → Bool → Role → List Octets → Except Octets Value
  | 0, value, _, args => .ok (value, args)
  | fuel + 1, value, role, args => do
    let (b, args) ← conjunction s fuel true role args
    if roleOf args.tail = .either then
      disjunction s fuel (value || b) (roleOf (args.drop 2)) (args.drop 2)
    else return (value || b, args)

/-- Conditions with `-a` between them. -/
def conjunction (s : State) : Nat → Bool → Role → List Octets → Except Octets Value
  | 0, value, _, args => .ok (value, args)
  | fuel + 1, value, role, args => do
    let (b, args) ← negation s fuel role args
    if roleOf args.tail = .both then
      conjunction s fuel (value && b) (roleOf (args.drop 2)) (args.drop 2)
    else return (value && b, args)

/-- A condition with any number of `!` in front of it. -/
def negation (s : State) : Nat → Role → List Octets → Except Octets Value
  | 0, _, args => .ok (false, args)
  | fuel + 1, role, args =>
    if role = .negation then do
      let role := roleOf args.tail
      let (b, args) ← negation s fuel role (if role = .finish then args else args.tail)
      return (!b, args)
    else single s fuel role args

/-- A condition without `!`, `-a` and `-o`. -/
def single (s : State) : Nat → Role → List Octets → Except Octets Value
  | 0, _, args => .ok (false, args)
  | fuel + 1, role, args =>
    match role, args with
    | .finish, _ => .ok (false, args)
    | .openParen, _ =>
      if roleOf args.tail = .closeParen then .ok (false, args.tail)
      else do
        let (b, args) ← disjunction s fuel false (roleOf args.tail) args.tail
        if roleOf args.tail = .closeParen then return (b, args.tail)
        else throw (octetsOf "closing paren expected")
    | .unary operator, _ :: arg :: _ => do return (← applyUnary s operator arg, args.tail)
    | .unary operator, _ => .error (octetsOf (operator ++ ": argument expected"))
    | _, left :: rest =>
      match roleOf rest with
      | .binary operator =>
        match rest.tail with
        | right :: _ => do return (← applyBinary s left operator right, rest.tail)
        | [] => .error (octetsOf (operator ++ ": argument expected"))
      | _ => .ok (!left.isEmpty, args)
    | _, [] => .ok (false, args)

end

/-- The value of a condition whose first argument has a role. -/
def valueFrom (s : State) (role : Role) (args : List Octets) : Except Octets Bool := do
  let (b, rest) ← disjunction s (5 * args.length + 5) false role args
  match rest with
  | first :: _ :: _ =>
    throw ((if first.isEmpty then [] else first ++ octetsOf ": ") ++ octetsOf "unexpected operator")
  | _ => return b

/-- The value of a condition, or what is wrong with it.  Up to four arguments are read by rules of
their own: an operator in the middle of three counts as one, and parentheses around and `!` in front
are taken off first. -/
def value (s : State) : Nat → List Octets → Except Octets Bool
  | 0, args => valueFrom s (roleOf args) args
  | fuel + 1, args =>
    let inner : Except Octets Bool :=
      if args.head? = some ['('] && args.getLast? = some [')'] then value s fuel args.dropLast.tail
      else if args.head? = some ['!'] then (value s fuel args.tail).map not
      else valueFrom s (roleOf args) args
    match args with
    | [] => .ok false
    | [_, operator, _] =>
      if binary.contains (string operator) then valueFrom s .operand args else inner
    | [_, _, _, _] => inner
    | _ => valueFrom s (roleOf args) args

/-- The value of a condition given as arguments. -/
def ofArguments (s : State) (args : List Octets) : Except Octets Bool := value s 4 args

end BuildScan.Virtual.Shell.Condition
