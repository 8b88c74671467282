import Mathlib.Data.List.Induction
import ChainView.Node.Follower
import ChainView.Proofs.Chain.Linked

/-!
# The chain that a sequence of times determines

The blocks of a follower are a function of the times at which it is stepped: each names the one
before it, and its id is the digest of that id, of its height and of its time.  `Follower.chain` is
this chain, without any node, settings or L1 blocks.  Its block at position `k` stands at height `k`
and bears the `k`-th time, and the chain is linked as long as the heights do not wrap around.
-/

namespace ChainView

namespace Follower

/-- The blocks made at a sequence of times on top of a parent, from a height on. -/
def chainFrom (parent : Digest) (height : UInt64) : List UInt64 → List Header
  | [] => []
  | time :: rest =>
    block parent height time :: chainFrom (block parent height time).id (height + 1) rest

/-- The blocks made at a sequence of times, from the first block on. -/
def chain (times : List UInt64) : List Header :=
  chainFrom .zero 0 times

/-- The id of the last block of a chain, or that of its parent if the chain is empty. -/
def lastId (parent : Digest) (hs : List Header) : Digest :=
  (hs.getLast?.map Header.id).getD parent

/-- The last id of a chain does not depend on the parent of its first block. -/
lemma lastId_cons (parent : Digest) (h : Header) (hs : List Header) :
    lastId parent (h :: hs) = lastId h.id hs := by
  cases hlast : hs.getLast? <;> simp [lastId, List.getLast?_cons, hlast]

/-- Counting from the next height is counting one further. -/
lemma add_one_add_ofNat (height : UInt64) (k : ℕ) :
    height + 1 + UInt64.ofNat k = height + UInt64.ofNat (k + 1) := by
  rw [UInt64.ofNat_add, UInt64.add_assoc, UInt64.add_comm 1]
  rfl

@[simp] lemma length_chainFrom (parent : Digest) (height : UInt64) (times : List UInt64) :
    (chainFrom parent height times).length = times.length := by
  induction times generalizing parent height with
  | nil => rfl
  | cons time rest ih => simp [chainFrom, ih]

@[simp] lemma length_chain (times : List UInt64) : (chain times).length = times.length :=
  length_chainFrom _ _ _

/-- Further times continue a chain on top of its last block. -/
lemma chainFrom_append (parent : Digest) (height : UInt64) (first second : List UInt64) :
    chainFrom parent height (first ++ second) =
      chainFrom parent height first ++
        chainFrom (lastId parent (chainFrom parent height first))
          (height + UInt64.ofNat first.length) second := by
  induction first generalizing parent height with
  | nil => simp [chainFrom, lastId]
  | cons time rest ih =>
    simp only [List.cons_append, chainFrom, ih, lastId_cons, List.length_cons,
      add_one_add_ofNat]

/-- One more time puts one more block on top. -/
lemma chain_append_singleton (times : List UInt64) (time : UInt64) :
    chain (times ++ [time]) =
      chain times ++ [block (lastId .zero (chain times)) (UInt64.ofNat times.length) time] := by
  rw [chain, chainFrom_append, UInt64.zero_add]
  rfl

/-- The chain of the first times is the first part of the chain. -/
lemma chain_prefix_append (first second : List UInt64) :
    chain first <+: chain (first ++ second) := by
  rw [chain, chain, chainFrom_append]
  exact List.prefix_append _ _

/-- The block at a position stands that far above the first one and bears the time there. -/
lemma getElem?_chainFrom {parent : Digest} {height : UInt64} {times : List UInt64} {k : ℕ}
    {h : Header} (hk : (chainFrom parent height times)[k]? = some h) :
    h.index = height + UInt64.ofNat k ∧ times[k]? = some h.timestamp := by
  induction times generalizing parent height k with
  | nil => simp [chainFrom] at hk
  | cons time rest ih =>
    cases k with
    | zero =>
      obtain rfl : block parent height time = h := by simpa [chainFrom] using hk
      exact ⟨(UInt64.add_zero height).symm, rfl⟩
    | succ k =>
      obtain ⟨hindex, htime⟩ := ih hk
      exact ⟨hindex.trans (add_one_add_ofNat height k), htime⟩

/-- The height of a block of the chain is its position, as long as positions are words. -/
lemma toNat_index_of_getElem?_chain {times : List UInt64} (hlen : times.length ≤ UInt64.size)
    {k : ℕ} {h : Header} (hk : (chain times)[k]? = some h) : h.index.toNat = k := by
  have hindex : h.index = UInt64.ofNat k := by
    rw [(getElem?_chainFrom hk).1, UInt64.zero_add]
  have hlt : k < times.length := by
    simpa using (List.getElem?_eq_some_iff.mp hk).1
  rw [hindex]
  exact UInt64.toNat_ofNat_of_lt' (by omega)

/-- The first block of the chain has no parent. -/
lemma parent_head?_chain (times : List UInt64) :
    ∀ first ∈ (chain times).head?, first.parent = .zero := by
  intro first hfirst
  cases times with
  | nil => simp [chain, chainFrom] at hfirst
  | cons time rest =>
    obtain rfl : block .zero 0 time = first := by simpa [chain, chainFrom] using hfirst
    rfl

/-- The block on top of a chain extends its last block, unless there is no height left. -/
lemma extends?_block {times : List UInt64} (hlen : times.length < UInt64.size) (time : UInt64) :
    ∀ last ∈ (chain times).getLast?,
      (block (lastId .zero (chain times)) (UInt64.ofNat times.length) time).extends? last =
        true := by
  intro last hlast
  have hlast' : (chain times).getLast? = some last := hlast
  have hget : (chain times)[times.length - 1]? = some last := by
    rw [← hlast', List.getLast?_eq_getElem?, length_chain]
  have hindex := toNat_index_of_getElem?_chain hlen.le hget
  have hpos : times.length - 1 < times.length := by
    simpa using (List.getElem?_eq_some_iff.mp hget).1
  refine Header.extends?_iff.mpr ⟨?_, ?_⟩
  · change lastId .zero (chain times) = last.id
    simp [lastId, hlast']
  · change (UInt64.ofNat times.length).toNat = last.index.toNat + 1
    rw [UInt64.toNat_ofNat_of_lt' hlen, hindex]
    omega

/-- The chain is linked, as long as there are heights for all of its blocks. -/
lemma linked_chain {times : List UInt64} (hlen : times.length ≤ UInt64.size) :
    Linked (chain times) := by
  induction times using List.reverseRecOn with
  | nil => exact Linked.nil
  | append_singleton times time ih =>
    have hlt : times.length < UInt64.size := Nat.lt_of_succ_le (by simpa using hlen)
    rw [chain_append_singleton]
    exact (ih hlt.le).append_singleton (extends?_block hlt time)

end Follower

end ChainView
