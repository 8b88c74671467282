/-!
# How much history is kept

The bounds on the histories that a node keeps.  A history always holds at least its newest entry, so
a bound of zero counts as one.
-/

namespace ChainView

/-- How much history a node keeps. -/
structure Retention where
  /-- The greatest number of headers. -/
  maxHeaders : UInt64
  /-- The greatest number of L1 blocks. -/
  maxL1Blocks : UInt64
  deriving DecidableEq

namespace Retention

/-- The history that a node keeps unless told otherwise. -/
def standard : Retention := ⟨1024, 4096⟩

/-- The number of entries that a bound allows. -/
def bound (n : Nat) : Nat := Nat.max n 1

/-- At least one entry is allowed. -/
theorem bound_pos (n : Nat) : 0 < bound n :=
  Nat.lt_of_lt_of_le Nat.one_pos (Nat.le_max_right n 1)

/-- A positive bound is meant as it is. -/
theorem bound_of_pos {n : Nat} (h : 0 < n) : bound n = n :=
  Nat.max_eq_left h

end Retention

end ChainView
