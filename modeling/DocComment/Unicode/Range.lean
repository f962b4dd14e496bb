/-!
# Sets of code points

A property of characters is kept as the list of its maximal runs of code points, in increasing
order, each run by its first and its last code point.
-/

namespace DocComment.Unicode

/-- The runs of a set of code points. -/
abbrev RangeTable := List (Nat × Nat)

/-- A character is in the set when its code point lies in some run. -/
def RangeTable.contains (t : RangeTable) (c : Char) : Bool :=
  t.any fun r ↦ r.1 ≤ c.toNat && c.toNat ≤ r.2

end DocComment.Unicode
