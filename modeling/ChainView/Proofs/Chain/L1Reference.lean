import Mathlib.Data.Set.Card
import ChainView.Proofs.Chain.L1Table

/-!
# The L1 table as the upper end of the L1 chain

A table of L1 blocks forgets its lowest blocks, and a reorganisation takes away its highest ones.
After both, the table may hold fewer blocks than its bound allows, although more are known below it.
So it holds neither all blocks nor as many as it may.  What it does hold is an *upper end* of the
chain that the records tell of: the unbounded map from heights to hashes in which a record drops
every block from its height on and then sets its own.  Every height that the table answers, it
answers as the chain does, and what it lacks of the chain is below all that it has.  A block that
was dropped in a reorganisation is therefore never served again.
-/

namespace ChainView

/-! ## The L1 chain -/

/-- The hashes of L1 blocks by height, without a bound. -/
abbrev L1Chain := UInt64 → Option Digest

namespace L1Chain

/-- The chain without blocks. -/
def empty : L1Chain := fun _ => none

/-- The chain without the blocks from a height on. -/
def cutFrom (m : L1Chain) (height : UInt64) : L1Chain := fun k => if height ≤ k then none else m k

/-- The chain with a block recorded: those from its height on are dropped before it is set. -/
def record (m : L1Chain) (height : UInt64) (hash : Digest) : L1Chain :=
  Function.update (m.cutFrom height) height (some hash)

/-- The number of blocks of the chain. -/
noncomputable def size (m : L1Chain) : ℕ := {k | m k ≠ none}.ncard

/-- The chain that a sequence of records tells of. -/
def ofRecords (records : List (UInt64 × Digest)) : L1Chain :=
  records.foldl (fun m r => m.record r.1 r.2) empty

/-- The blocks behind a record are the recorded one and the old ones below it. -/
lemma record_eq_some_iff {m : L1Chain} {height k : UInt64} {hash y : Digest} :
    m.record height hash k = some y ↔ k = height ∧ y = hash ∨ k < height ∧ m k = some y := by
  unfold record cutFrom
  by_cases hk : k = height
  · subst hk
    simp [eq_comm]
  · rw [Function.update_of_ne hk]
    by_cases hle : height ≤ k
    · simp [hk, hle]
    · simp [hk, hle, UInt64.not_le.mp hle]

end L1Chain

/-- Blocks in the order of their heights have as many heights as there are blocks. -/
lemma ncard_heights {l : List (UInt64 × Digest)} (hl : l.Pairwise fun a b => a.1 < b.1) :
    {k | ∃ y, (k, y) ∈ l}.ncard = l.length := by
  have hnodup : (l.map Prod.fst).Nodup :=
    List.pairwise_map.mpr (hl.imp fun hab => UInt64.ne_of_lt hab)
  have hset : {k | ∃ y, (k, y) ∈ l} = ((l.map Prod.fst).toFinset : Set UInt64) := by
    ext k
    simp
  rw [hset, Set.ncard_coe_finset, List.toFinset_card_of_nodup hnodup, List.length_map]

namespace L1Table

/-! ## The upper end of a chain -/

/-- A table holds the upper end of a chain: the chain has the blocks of the table and, below them,
those that were evicted. -/
structure UpperEnd (ix : L1Table) (evicted : List (UInt64 × Digest)) (m : L1Chain) : Prop where
  /-- The blocks, evicted ones first, are in the order of their heights. -/
  ordered : (evicted ++ ix.blocks).Pairwise fun a b => a.1 < b.1
  /-- They are the blocks of the chain. -/
  entries : ∀ k y, m k = some y ↔ (k, y) ∈ evicted ++ ix.blocks
  /-- The bound is kept. -/
  length_le : ix.blocks.length ≤ ix.retention

/-- A table is saturated if it evicted nothing or is full. -/
def Saturated (ix : L1Table) (evicted : List (UInt64 × Digest)) : Prop :=
  evicted = [] ∨ ix.blocks.length = ix.retention

/-- The blocks that a table evicts when a block is recorded: of those that were evicted already, the
ones below it remain. -/
def evictedBy (ix : L1Table) (evicted : List (UInt64 × Digest)) (height : UInt64) (hash : Digest) :
    List (UInt64 × Digest) :=
  let all := ix.below height ++ [(height, hash)]
  evicted.filter (fun b => b.1 < height) ++ all.take (all.length - ix.retention)

/-- Behind a record, the blocks of the table and the evicted ones are the old ones below the height
and the recorded one. -/
lemma evictedBy_append_blocks (ix : L1Table) (evicted : List (UInt64 × Digest)) (height : UInt64)
    (hash : Digest) :
    ix.evictedBy evicted height hash ++ (ix.insert height hash).blocks =
      (evicted ++ ix.blocks).filter (fun b => b.1 < height) ++ [(height, hash)] := by
  simp only [evictedBy, insert, List.append_assoc, List.take_append_drop, List.filter_append, below]

/-- The table that drops the blocks from a height on keeps all others. -/
lemma length_below (ix : L1Table) (height : UInt64) :
    (ix.below height).length + ix.countFrom height = ix.blocks.length := by
  have hcount := List.length_eq_countP_add_countP (fun b : UInt64 × Digest => decide (b.1 < height))
    (l := ix.blocks)
  simp only [decide_eq_true_eq, UInt64.not_lt] at hcount
  rw [below, ← List.countP_eq_length_filter, countFrom, hcount]

/-- The length of a table behind a record. -/
lemma length_blocks_insert (ix : L1Table) (height : UInt64) (hash : Digest) :
    (ix.insert height hash).blocks.length =
      min ix.retention (ix.blocks.length - ix.countFrom height + 1) := by
  have hbelow := ix.length_below height
  simp only [insert, List.length_drop, List.length_append, List.length_singleton]
  omega

/-- A record extends the table exactly if no block stands at its height or above. -/
lemma outcome_eq_extended_iff {ix : L1Table} {height : UInt64} :
    ix.outcome height = .extended ↔ ix.countFrom height = 0 := by
  unfold outcome
  cases ix.countFrom height <;> simp

/-- A record that does not extend the table drops the blocks at its height and above. -/
lemma outcome_eq_reorganised {ix : L1Table} {height : UInt64}
    (h : ix.outcome height ≠ .extended) :
    ix.outcome height = .reorganised (ix.countFrom height) := by
  cases hcount : ix.countFrom height with
  | zero => exact absurd (outcome_eq_extended_iff.mpr hcount) h
  | succ n => simp [outcome, hcount]

namespace UpperEnd

variable {ix : L1Table} {evicted : List (UInt64 × Digest)} {m : L1Chain}

/-- The empty table is the upper end of the empty chain. -/
lemma empty (retention : ℕ) : (L1Table.empty retention).UpperEnd [] .empty where
  ordered := List.Pairwise.nil
  entries := by simp [L1Chain.empty]
  length_le := Nat.zero_le _

/-- A record leaves an upper end of the chain with the record. -/
lemma insert (hu : ix.UpperEnd evicted m) (height : UInt64) (hash : Digest) :
    (ix.insert height hash).UpperEnd (ix.evictedBy evicted height hash) (m.record height hash) where
  ordered := by
    rw [evictedBy_append_blocks, List.pairwise_append]
    refine ⟨hu.ordered.filter _, List.pairwise_singleton _ _, ?_⟩
    intro a ha b hb
    obtain rfl : b = (height, hash) := by simpa using hb
    simpa using (List.mem_filter.mp ha).2
  entries k y := by
    simp only [evictedBy_append_blocks, L1Chain.record_eq_some_iff, hu.entries, List.mem_append,
      List.mem_filter, List.mem_singleton, Prod.mk.injEq, decide_eq_true_eq]
    tauto
  length_le := ix.length_blocks_insert_le height hash

/-- The blocks of the table are in the order of their heights. -/
lemma ordered_blocks (hu : ix.UpperEnd evicted m) : ix.blocks.Pairwise fun a b => a.1 < b.1 :=
  (List.pairwise_append.mp hu.ordered).2.1

/-- The table answers the heights of its blocks. -/
lemma get?_ne_none_iff (hu : ix.UpperEnd evicted m) {k : UInt64} :
    ix.get? k ≠ none ↔ ∃ y, (k, y) ∈ ix.blocks := by
  simp [Option.ne_none_iff_exists', get?_eq_some_iff hu.ordered_blocks]

/-- The table answers the heights of the chain that are at least that of its lowest block, and
answers them as the chain does. -/
lemma get?_eq (hu : ix.UpperEnd evicted m) {lowest : UInt64 × Digest}
    (hlowest : ix.blocks.head? = some lowest) (k : UInt64) :
    ix.get? k = if lowest.1 ≤ k then m k else none := by
  obtain ⟨rest, hblocks⟩ := List.head?_eq_some_iff.mp hlowest
  have hmem : lowest ∈ ix.blocks := by simp [hblocks]
  apply Option.ext
  intro y
  rw [get?_eq_some_iff hu.ordered_blocks]
  by_cases hle : lowest.1 ≤ k
  · rw [if_pos hle, hu.entries, List.mem_append]
    refine ⟨.inr, fun h => h.resolve_left ?_⟩
    intro hevicted
    have hlt := (List.pairwise_append.mp hu.ordered).2.2 _ hevicted _ hmem
    exact UInt64.not_lt.mpr hle hlt
  · rw [if_neg hle]
    refine iff_of_false ?_ (by simp)
    intro hk
    have hordered := hu.ordered_blocks
    rw [hblocks] at hk hordered
    rcases List.mem_cons.mp hk with rfl | hk
    · exact hle (UInt64.le_refl _)
    · exact hle (UInt64.le_of_lt ((List.pairwise_cons.mp hordered).1 _ hk))

/-- What the table answers is in the chain. -/
lemma eq_some_of_get?_eq_some (hu : ix.UpperEnd evicted m) {k : UInt64} {y : Digest}
    (h : ix.get? k = some y) : m k = some y := by
  rw [hu.entries, List.mem_append]
  exact .inr ((get?_eq_some_iff hu.ordered_blocks).mp h)

/-- What the table lacks of the chain was evicted, and is below all that it answers. -/
lemma lt_of_get?_eq_none (hu : ix.UpperEnd evicted m) {k l : UInt64} (hchain : m k ≠ none)
    (hk : ix.get? k = none) (hl : ix.get? l ≠ none) : k < l := by
  obtain ⟨y, hy⟩ := Option.ne_none_iff_exists'.mp hchain
  obtain ⟨z, hz⟩ := hu.get?_ne_none_iff.mp hl
  have hevicted : (k, y) ∈ evicted := by
    refine (List.mem_append.mp ((hu.entries k y).mp hy)).resolve_right ?_
    intro hblock
    exact hu.get?_ne_none_iff.mpr ⟨y, hblock⟩ hk
  exact (List.pairwise_append.mp hu.ordered).2.2 _ hevicted _ hz

/-- The chain has the blocks of the table and the evicted ones. -/
lemma size_eq (hu : ix.UpperEnd evicted m) : m.size = evicted.length + ix.blocks.length := by
  rw [← List.length_append, ← ncard_heights hu.ordered, L1Chain.size]
  simp only [Option.ne_none_iff_exists', hu.entries]

/-- A saturated table is as long as the chain cut to the bound. -/
lemma length_eq_min (hu : ix.UpperEnd evicted m) (hs : ix.Saturated evicted) :
    ix.blocks.length = min ix.retention m.size := by
  have hle := hu.length_le
  rw [hu.size_eq]
  rcases hs with rfl | hfull
  · rw [List.length_nil]
    omega
  · omega

/-- The blocks that a record drops are counted by the heights that the table answers. -/
lemma countFrom_eq (hu : ix.UpperEnd evicted m) (height : UInt64) :
    ix.countFrom height = {k | height ≤ k ∧ ix.get? k ≠ none}.ncard := by
  have hset : {k | height ≤ k ∧ ix.get? k ≠ none} =
      {k | ∃ y, (k, y) ∈ ix.blocks.filter fun b => height ≤ b.1} := by
    ext k
    simp [hu.get?_ne_none_iff, and_comm]
  rw [hset, ncard_heights (hu.ordered_blocks.filter _), countFrom, List.countP_eq_length_filter]

/-- No block stands at a height or above exactly if the table is empty or its tip is below. -/
lemma countFrom_eq_zero_iff (hu : ix.UpperEnd evicted m) {height : UInt64} :
    ix.countFrom height = 0 ↔
      ix.blocks = [] ∨ ∃ tip, ix.tip? = some tip ∧ tip.1 < height := by
  rw [countFrom, List.countP_eq_zero, tip?]
  rcases List.eq_nil_or_concat' ix.blocks with hnil | ⟨front, tip, hblocks⟩
  · simp [hnil]
  · have hordered := hu.ordered_blocks
    rw [hblocks, List.pairwise_append] at hordered
    rw [hblocks, List.getLast?_concat]
    constructor
    · intro hbelow
      exact .inr ⟨tip, rfl, by simpa using hbelow tip (by simp)⟩
    · rintro (hnil | ⟨t, ht, hlt⟩) b hb
      · simp at hnil
      · obtain rfl : tip = t := Option.some.inj ht
        have hle : b.1 ≤ tip.1 := by
          rcases List.mem_append.mp hb with hb | hb
          · exact UInt64.le_of_lt (hordered.2.2 b hb tip (by simp))
          · rw [List.mem_singleton.mp hb]
            exact UInt64.le_refl _
        simpa using UInt64.lt_of_le_of_lt hle hlt

/-- A record that extends a saturated table leaves it saturated. -/
lemma saturated_insert (hu : ix.UpperEnd evicted m) {height : UInt64}
    (hextended : ix.outcome height = .extended) (hs : ix.Saturated evicted) (hash : Digest) :
    (ix.insert height hash).Saturated (ix.evictedBy evicted height hash) := by
  have hcount := outcome_eq_extended_iff.mp hextended
  have hbelow := ix.length_below height
  have hlength := ix.length_blocks_insert height hash
  have hle := hu.length_le
  rcases hs with rfl | hfull
  · by_cases hroom : ix.blocks.length < ix.retention
    · refine .inl ?_
      have hzero : (ix.below height ++ [(height, hash)]).length - ix.retention = 0 := by
        rw [List.length_append, List.length_singleton]
        omega
      simp only [evictedBy, hzero, List.filter_nil, List.take_zero, List.append_nil]
    · exact .inr (by change _ = ix.retention; omega)
  · exact .inr (by change _ = ix.retention; omega)

end UpperEnd

/-! ## Recording a sequence of blocks -/

/-- Records a sequence of blocks and gives the outcome of each. -/
def recordAll (ix : L1Table) : List (UInt64 × Digest) → List L1Change × L1Table
  | [] => ([], ix)
  | (height, hash) :: rest =>
    ((ix.record height hash).1 :: ((ix.record height hash).2.recordAll rest).1,
      ((ix.record height hash).2.recordAll rest).2)

/-- A table stays an upper end of the chain while blocks are recorded, and a saturated one stays
saturated while there is no reorganisation. -/
lemma UpperEnd.recordAll {ix : L1Table} {evicted : List (UInt64 × Digest)} {m : L1Chain}
    (hu : ix.UpperEnd evicted m) (records : List (UInt64 × Digest)) :
    ∃ gone, (ix.recordAll records).2.UpperEnd gone
        (records.foldl (fun m r => m.record r.1 r.2) m) ∧
      (ix.recordAll records).2.retention = ix.retention ∧
      ((∀ outcome ∈ (ix.recordAll records).1, outcome = .extended) → ix.Saturated evicted →
        (ix.recordAll records).2.Saturated gone) := by
  induction records generalizing ix evicted m with
  | nil => exact ⟨evicted, hu, rfl, fun _ hs => hs⟩
  | cons r rest ih =>
    obtain ⟨height, hash⟩ := r
    obtain ⟨gone, hgone, hretention, hsaturated⟩ := ih (hu.insert height hash)
    refine ⟨gone, hgone, hretention, ?_⟩
    intro hextended hs
    obtain ⟨hfirst, hrest⟩ := List.forall_mem_cons.mp hextended
    exact hsaturated hrest (hu.saturated_insert hfirst hs hash)

/-- A bounded table never serves an L1 block that is stale or was dropped.  Take any sequence of
records, from the empty table, and compare the table with the unbounded chain in which a record
drops all blocks from its height on before it sets its own.  Behind each record: the block recorded
is the tip; the table answers exactly the blocks of the chain from some height on, so that whatever
it answers is in the chain, and what it lacks of the chain is below all that it answers; its length
is within the bound and, as long as there was no reorganisation, that of the chain cut to the bound.
The record extends the table exactly if the table was empty or its tip was lower, and otherwise
reports the number of heights that were kept at its height or above; the length is what remains of
the old one and one more, cut to the bound. -/
theorem record_keeps_upper_end (retention : ℕ) (records : List (UInt64 × Digest))
    (height : UInt64) (hash : Digest) :
    let outcomes := ((L1Table.empty retention).recordAll records).1
    let old := ((L1Table.empty retention).recordAll records).2
    let outcome := (old.record height hash).1
    let ix := (old.record height hash).2
    let chain := L1Chain.ofRecords (records ++ [(height, hash)])
    let dropped := {k | height ≤ k ∧ old.get? k ≠ none}.ncard
    ix.tip? = some (height, hash) ∧
      (∃ threshold, ∀ k, ix.get? k = if threshold ≤ k then chain k else none) ∧
      (∀ k y, ix.get? k = some y → chain k = some y) ∧
      (∀ k, chain k ≠ none → ix.get? k = none → ∀ l, ix.get? l ≠ none → k < l) ∧
      ix.blocks.length ≤ max retention 1 ∧
      ((∀ o ∈ outcomes ++ [outcome], o = .extended) →
        ix.blocks.length = min (max retention 1) chain.size) ∧
      (outcome = .extended ↔ old.blocks = [] ∨ ∃ tip, old.tip? = some tip ∧ tip.1 < height) ∧
      (outcome ≠ .extended → outcome = .reorganised dropped) ∧
      ix.blocks.length = min (max retention 1) (old.blocks.length - dropped + 1) := by
  intro outcomes old outcome ix chain dropped
  obtain ⟨evicted, hold, hretention, hsaturated⟩ := (UpperEnd.empty retention).recordAll records
  have hbound : old.retention = max retention 1 := hretention
  have hdropped : old.countFrom height = dropped := hold.countFrom_eq height
  have hix : ix.UpperEnd (old.evictedBy evicted height hash) chain := by
    have hchain : chain = (L1Chain.ofRecords records).record height hash := by
      simp [chain, L1Chain.ofRecords]
    rw [hchain]
    exact hold.insert height hash
  obtain ⟨lowest, hlowest⟩ : ∃ lowest, ix.blocks.head? = some lowest := by
    have hmem : (height, hash) ∈ ix.blocks := List.mem_of_getLast? (old.tip?_insert height hash)
    obtain ⟨lowest, rest, hblocks⟩ := List.exists_cons_of_ne_nil (List.ne_nil_of_mem hmem)
    exact ⟨lowest, by rw [hblocks]; rfl⟩
  refine ⟨old.tip?_insert height hash, ⟨lowest.1, hix.get?_eq hlowest⟩, ?_, ?_, ?_, ?_, ?_, ?_, ?_⟩
  · intro k y hk
    exact hix.eq_some_of_get?_eq_some hk
  · intro k hchain hk l hl
    exact hix.lt_of_get?_eq_none hchain hk hl
  · rw [← hbound]
    exact hix.length_le
  · intro hextended
    obtain ⟨hbefore, hlast⟩ := List.forall_mem_append.mp hextended
    rw [← hbound]
    exact hix.length_eq_min
      (hold.saturated_insert (hlast outcome (by simp)) (hsaturated hbefore (.inl rfl)) hash)
  · exact outcome_eq_extended_iff.trans hold.countFrom_eq_zero_iff
  · intro hne
    rw [← hdropped]
    exact outcome_eq_reorganised hne
  · rw [← hdropped, ← hbound]
    exact old.length_blocks_insert height hash

/-- A reorganisation behind an eviction leaves less than the bound allows: of the chain with blocks
at the heights 1 and 2, only the upper one is kept. -/
example : ((L1Table.empty 2).recordAll [(1, .zero), (2, .zero), (3, .zero), (2, .zero)]).2.blocks =
    [(2, .zero)] := by decide

end L1Table

end ChainView
