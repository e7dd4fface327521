import BuildScan.Virtual.Shell.Builtin
import BuildScan.Virtual.Shell.Expansion

/-!
What the words of a command order.  The first field names the command; behind `command` and its
options follows another name, which is not looked up among functions.  The words behind some names
are expanded like assignments if they look like ones, so that the name has to be known before they
are expanded.
-/

namespace BuildScan.Virtual.Shell

/-- What a name stands for. -/
inductive Deed where
  /-- There is no name. -/
  | nothing
  | builtin (name : String)
  | function (body : Script)
  | program

/-- How far the words of a command have been understood. -/
inductive Search where
  /-- The next field is a name. -/
  | name
  /-- The next field is an option of `command`, or a name. -/
  | options
  /-- The next field is a name, and no option. -/
  | behindMark
  | settled
  deriving DecidableEq

structure Order where
  search : Search
  deed : Deed
  /-- All fields of the command. -/
  fields : List Octets
  /-- The fields from the name on. -/
  words : List Octets
  /-- The first name is one of a command whose faults end a script. -/
  isSpecial : Bool
  /-- What is assigned in front of the command ends with it. -/
  isLocal : Bool
  /-- Programs are looked for in the usual places. -/
  isUsual : Bool

namespace Order

def start : Order := ⟨.name, .nothing, [], [], false, false, false⟩

/-- The order with the name of a command in it. -/
def named (p : Process) (o : Order) (field : Octets) : Order :=
  let isFirst := o.search = .name
  let o := { o with words := [field], search := .settled }
  let function? := if isFirst then p.functions.lookup field else none
  match function? with
  | some body => { o with deed := .function body, isLocal := true }
  | none =>
    let name := string field
    if Builtin.isBuiltin name then
      let isSpecial := if isFirst then specialNames.contains name else o.isSpecial
      { o with
        deed := .builtin name
        isSpecial := isSpecial
        isLocal := !(isFirst && isSpecial)
        search := if name = "command" then .options else .settled }
    else { o with deed := .program, isLocal := true }

/-- The order with another field. -/
def feed (p : Process) (o : Order) (field : Octets) : Order :=
  let o := { o with fields := o.fields ++ [field] }
  let other : Order := { o with words := o.words ++ [field], search := .settled }
  match o.search with
  | .settled => other
  | .name => o.named p field
  | .behindMark => o.named p field
  | .options =>
    match field with
    | ['-', '-'] => { o with words := o.words ++ [field], search := .behindMark }
    | '-' :: c :: cs =>
      if (c :: cs).all (· == 'p') then { o with words := o.words ++ [field], isUsual := true }
      else other
    | _ => o.named p field

/-- The commands whose arguments may be assignments. -/
def assigningNames : List String := ["alias", "export", "local", "readonly"]

/-- Words behind the name may be assignments. -/
def takesAssignments (o : Order) : Bool :=
  match o.search, o.deed with
  | .settled, .builtin name => assigningNames.contains name
  | _, _ => false

/-- The redirections of the command stay. -/
def isLasting (o : Order) : Bool :=
  match o.deed with
  | .builtin "exec" => true
  | _ => false

/-- The order that some words give. -/
def ofWords (outputOf : OutputOf) (words : List Word) : Run Order :=
  words.foldlM (fun o word => do
    if o.takesAssignments && word.assignment?.isSome then
      let field ← expandAssigned outputOf word
      return o.feed (← process) field
    else
      let fields ← expandFields outputOf word
      let p ← process
      return fields.foldl (feed p) o) start

end Order

end BuildScan.Virtual.Shell
