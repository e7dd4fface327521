/-!
Finite sets of terminals, which a grammar numbers from zero on: bit `t` tells whether `t` is in the
set.
-/

namespace BuildScan.Parsing

structure TokenSet where
  bits : Nat
  deriving Repr, DecidableEq, Hashable, Inhabited

namespace TokenSet

def empty : TokenSet := ⟨0⟩

def single (t : Nat) : TokenSet := ⟨1 <<< t⟩

def union (a b : TokenSet) : TokenSet := ⟨a.bits ||| b.bits⟩

def inter (a b : TokenSet) : TokenSet := ⟨a.bits &&& b.bits⟩

/-- What is in exactly one of two sets. -/
def symmDiff (a b : TokenSet) : TokenSet := ⟨a.bits ^^^ b.bits⟩

def has (s : TokenSet) (t : Nat) : Bool := s.bits.testBit t

def isEmpty (s : TokenSet) : Bool := s.bits == 0

def insert (s : TokenSet) (t : Nat) : TokenSet := s.union (single t)

def ofList (ts : List Nat) : TokenSet := ts.foldl insert empty

/-- The members below `size`, in order. -/
def toList (size : Nat) (s : TokenSet) : List Nat := (List.range size).filter s.has

theorem has_union (a b : TokenSet) (t : Nat) : (a.union b).has t = (a.has t || b.has t) := by
  simp [has, union]

theorem has_inter (a b : TokenSet) (t : Nat) : (a.inter b).has t = (a.has t && b.has t) := by
  simp [has, inter]

theorem has_empty (t : Nat) : empty.has t = false := by
  simp [has, empty]

end TokenSet

end BuildScan.Parsing
