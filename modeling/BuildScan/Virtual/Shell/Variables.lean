import BuildScan.Virtual.Shell.Octets

/-!
The variables of a process.  A variable may be known without having a value; it may be handed to the
programs that the process starts, and it may be protected against changes.
-/

namespace BuildScan.Virtual.Shell

structure Variable where
  value : Option Octets
  isExported : Bool
  isReadOnly : Bool
  deriving Repr, DecidableEq

namespace Variable

/-- A variable that nobody has mentioned. -/
def unknown : Variable := ⟨none, false, false⟩

end Variable

structure Variables where
  entries : List (Octets × Variable)
  /-- Whatever gets a value is exported. -/
  exportsAll : Bool

namespace Variables

/-- Exported variables with values. -/
def ofEnvironment (pairs : List (Octets × Octets)) : Variables :=
  ⟨pairs.map fun p => (p.1, ⟨some p.2, true, false⟩), false⟩

def find? (vars : Variables) (name : Octets) : Option Variable := vars.entries.lookup name

/-- The value of a variable. -/
def value? (vars : Variables) (name : Octets) : Option Octets :=
  (vars.find? name).bind Variable.value

def isReadOnly (vars : Variables) (name : Octets) : Bool :=
  ((vars.find? name).map Variable.isReadOnly).getD false

/-- Puts a variable in the stead of what has its name. -/
def put (vars : Variables) (name : Octets) (v : Variable) : Variables :=
  { vars with entries := (name, v) :: vars.entries.filter fun e => e.1 != name }

/-- Forgets a variable. -/
def erase (vars : Variables) (name : Octets) : Variables :=
  { vars with entries := vars.entries.filter fun e => e.1 != name }

/-- Gives a variable a value. -/
def assign (vars : Variables) (name value : Octets) : Variables :=
  let before := (vars.find? name).getD .unknown
  vars.put name
    { before with value := some value, isExported := before.isExported || vars.exportsAll }

/-- Brings a variable back to what it was. -/
def restore (vars : Variables) (name : Octets) : Option Variable → Variables
  | some v => vars.put name v
  | none => vars.erase name

/-- The exported variables that have a value. -/
def environment (vars : Variables) : List (Octets × Octets) :=
  vars.entries.filterMap fun e =>
    if e.2.isExported then e.2.value.map fun v => (e.1, v) else none

/-- The variables with a property, by name. -/
def sorted (vars : Variables) (p : Variable → Bool) : List (Octets × Variable) :=
  (vars.entries.filter fun e => p e.2).mergeSort fun a b => isUpTo a.1 b.1

end Variables

end BuildScan.Virtual.Shell
