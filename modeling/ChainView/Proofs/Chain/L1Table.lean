import Mathlib.Tactic.Common
import ChainView.Chain.L1Table

/-!
# The order of the L1 blocks

Recording a block drops every block from its height on, so the blocks of a table always stand in the
order of their heights.  A height is therefore that of one block at most, and the first block found
at a height is the only one.
-/

namespace ChainView

namespace L1Table

/-- Recording an L1 block keeps the blocks in the order of their heights. -/
lemma ordered_insert {ix : L1Table} (ho : ix.blocks.Pairwise fun a b => a.1 < b.1)
    (height : UInt64) (hash : Digest) :
    (ix.insert height hash).blocks.Pairwise fun a b => a.1 < b.1 := by
  have hbelow : (ix.below height).Pairwise fun a b => a.1 < b.1 := ho.filter _
  have hall : (ix.below height ++ [(height, hash)]).Pairwise fun a b => a.1 < b.1 := by
    rw [List.pairwise_append]
    refine ⟨hbelow, List.pairwise_singleton _ _, ?_⟩
    intro a ha b hb
    obtain rfl : b = (height, hash) := by simpa using hb
    simpa using (List.mem_filter.mp ha).2
  exact hall.drop

/-- The hash found at a height is that of the recorded block at the height. -/
lemma get?_eq_some_iff {ix : L1Table} (ho : ix.blocks.Pairwise fun a b => a.1 < b.1)
    {height : UInt64} {hash : Digest} :
    ix.get? height = some hash ↔ (height, hash) ∈ ix.blocks := by
  unfold get?
  rw [List.lookup_eq_some_iff]
  constructor
  · rintro ⟨front, back, hsplit, -⟩
    rw [hsplit]
    simp
  · intro hmem
    obtain ⟨front, back, hsplit⟩ := List.append_of_mem hmem
    refine ⟨front, back, hsplit, ?_⟩
    intro p hp
    rw [hsplit, List.pairwise_append] at ho
    have hlow := ho.2.2 p hp (height, hash) (by simp)
    simpa using (UInt64.ne_of_lt hlow).symm

end L1Table

end ChainView
