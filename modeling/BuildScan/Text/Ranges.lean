/-!
Sets of characters written as sorted lists of closed code point intervals.  The tables in this
folder list only what lies beyond ASCII: the ASCII part of a class is stated by its rule, so that a
proof about ordinary source text never has to look into a table.
-/

namespace BuildScan.Text

/-- Closed intervals of code points, in increasing order. -/
abbrev Ranges := List (Nat × Nat)

/-- Some interval holds the character. -/
def Ranges.has (r : Ranges) (c : Char) : Bool :=
  r.any fun i => i.1 ≤ c.toNat && c.toNat ≤ i.2

end BuildScan.Text
