import ChainView.Digest
import ChainView.Chain.Retention

/-!
# The index of recent L1 blocks

The hashes of the newest L1 blocks by height.  A block at or below the tip tells of a
reorganisation: every block from its height on is dropped before it is recorded.  When the bound is
passed the lowest block is dropped.
-/

namespace ChainView

/-- A bounded table of block hashes by height. -/
structure L1Table where
  /-- The greatest number of blocks kept. -/
  retention : Nat
  /-- At least one block is kept. -/
  retention_pos : 0 < retention
  /-- The blocks kept, in the order of their heights. -/
  blocks : List (UInt64 × Digest)

/-- What recording a block did. -/
inductive L1Change where
  /-- The block stands above every other. -/
  | extended
  /-- The block replaced some that were there. -/
  | reorganised (dropped : Nat)
  deriving DecidableEq

namespace L1Table

/-- The empty index that keeps at most `retention` blocks, and one at least. -/
def empty (retention : Nat) : L1Table where
  retention := Retention.bound retention
  retention_pos := Retention.bound_pos retention
  blocks := []

/-- The blocks below a height. -/
def below (ix : L1Table) (height : UInt64) : List (UInt64 × Digest) :=
  ix.blocks.filter fun b => b.1 < height

/-- The number of blocks at a height or above. -/
def countFrom (ix : L1Table) (height : UInt64) : Nat :=
  ix.blocks.countP fun b => height ≤ b.1

/-- The index with the block recorded. -/
def insert (ix : L1Table) (height : UInt64) (hash : Digest) : L1Table :=
  let all := ix.below height ++ [(height, hash)]
  { ix with blocks := all.drop (all.length - ix.retention) }

/-- What recording a block at a height does. -/
def outcome (ix : L1Table) (height : UInt64) : L1Change :=
  match ix.countFrom height with
  | 0 => .extended
  | dropped => .reorganised dropped

/-- Records a block. -/
def record (ix : L1Table) (height : UInt64) (hash : Digest) : L1Change × L1Table :=
  (ix.outcome height, ix.insert height hash)

/-- The hash of the block at a height. -/
def get? (ix : L1Table) (height : UInt64) : Option Digest :=
  ix.blocks.lookup height

/-- The highest block. -/
def tip? (ix : L1Table) : Option (UInt64 × Digest) :=
  ix.blocks.getLast?

@[simp] theorem blocks_empty (retention : Nat) : (empty retention).blocks = [] := rfl

/-- Recording never passes the bound. -/
theorem length_blocks_insert_le (ix : L1Table) (height : UInt64) (hash : Digest) :
    (ix.insert height hash).blocks.length ≤ ix.retention := by
  simp [insert]
  omega

/-- The block recorded last is the tip. -/
theorem tip?_insert (ix : L1Table) (height : UInt64) (hash : Digest) :
    (ix.insert height hash).tip? = some (height, hash) := by
  have := ix.retention_pos
  unfold tip? insert
  rw [List.getLast?_drop]
  simp
  omega

end L1Table

end ChainView
