import ChainView.Digest

/-!
# Block headers

The header of a block of the chain, and the relation that makes a chain of headers: a header
extends another if it names that one as its parent and stands one height above it.
-/

namespace ChainView

/-- The header of a block. -/
structure Header where
  /-- Height of the block in the chain. -/
  index : UInt64
  /-- Time of production, in milliseconds since the epoch. -/
  timestamp : UInt64
  /-- Id of the block. -/
  id : Digest
  /-- Id of the parent block. -/
  parent : Digest
  /-- Commitment to the L1 segment of the body. -/
  l1Segment : Digest
  /-- Commitment to the execution segment of the body. -/
  execSegment : Digest
  /-- Root of the state after the block. -/
  stateRoot : Digest
  deriving DecidableEq, Inhabited

namespace Header

/-- Whether a header directly extends another.  No header extends one at the greatest height. -/
def extends? (child parent : Header) : Bool :=
  child.parent = parent.id && child.index.toNat = parent.index.toNat + 1

/-- A header extends another exactly if it names it and stands one above it. -/
theorem extends?_iff {child parent : Header} :
    child.extends? parent = true ↔
      child.parent = parent.id ∧ child.index.toNat = parent.index.toNat + 1 := by
  simp [extends?]

/-- A child stands strictly above its parent. -/
theorem index_lt_of_extends? {child parent : Header} (h : child.extends? parent = true) :
    parent.index < child.index := by
  have := (extends?_iff.mp h).2
  exact UInt64.lt_iff_toNat_lt.mpr (by omega)

end Header

end ChainView
