import ChainView.Proofs.Follower.Steps
import ChainView.Proofs.Node.Streams

/-!
# The three views of the L1 chain

A node has three views of the L1 chain: the status of its reader, the anchor in the status of the
chain, and the table of L1 blocks.  A follower writes them at different moments of a step, the first
and the last only with every block that brings an L1 block.  `Follower.Anchored` ties them to the
number of blocks made so far, and a step that succeeds keeps it.

The L1 blocks are a function of the height of the first one and of their number alone
(`Follower.l1Blocks`).  Their heights rise by one, so each is put on top of the table, and the table
holds the last of them.

None of this uses that a step succeeds because the ids of the blocks differ or the settings are in
order; that the steps did succeed is enough.
-/

namespace ChainView

/-! ## A table of rising heights -/

/-- A block above all others is put on top of them. -/
lemma L1Table.record_of_lt {ix : L1Table} {height : UInt64}
    (habove : ∀ b ∈ ix.blocks, b.1 < height) (hash : Digest) :
    ix.outcome height = .extended ∧
      (ix.insert height hash).blocks = (ix.blocks ++ [(height, hash)]).rtake ix.retention := by
  have hcount : ix.countFrom height = 0 := by
    rw [countFrom, List.countP_eq_zero]
    intro b hb
    simpa using habove b hb
  have hbelow : ix.below height = ix.blocks :=
    List.filter_eq_self.mpr fun b hb => decide_eq_true (habove b hb)
  refine ⟨by simp [outcome, hcount], ?_⟩
  simp only [insert, hbelow]
  rfl

/-- The report of an L1 block. -/
def l1Record (b : UInt64 × Digest) : Report := .l1Block b.1 b.2

/-- L1 blocks of rising heights extend the table of a fresh node, each of them, and the table holds
the last of them. -/
lemma Node.after_l1Record (retention : Retention) (network : String)
    {blocks : List (UInt64 × Digest)} (hrise : blocks.Pairwise fun a b => a.1 < b.1) :
    let table := (after retention network (blocks.map l1Record)).l1Table
    table.retention = Retention.bound retention.maxL1Blocks.toNat ∧
      table.blocks = blocks.rtake table.retention ∧
      log retention network (blocks.map l1Record) =
        blocks.map fun b => (l1Record b, .ok (.recorded .extended)) := by
  induction blocks using List.reverseRecOn with
  | nil => exact ⟨rfl, by simp [after, create], rfl⟩
  | append_singleton blocks b ih =>
    obtain ⟨hfirst, -, hlast⟩ := List.pairwise_append.mp hrise
    obtain ⟨hretention, hblocks, hlog⟩ := ih hfirst
    have habove : ∀ a ∈ (after retention network (blocks.map l1Record)).l1Table.blocks,
        a.1 < b.1 := by
      intro a ha
      rw [hblocks, List.rtake] at ha
      exact hlast a (List.mem_of_mem_drop ha) b (by simp)
    obtain ⟨houtcome, hinsert⟩ := L1Table.record_of_lt habove b.2
    have hingest : (after retention network (blocks.map l1Record)).ingest (l1Record b) =
        (.ok (.recorded .extended), { after retention network (blocks.map l1Record) with
          l1Table := (after retention network (blocks.map l1Record)).l1Table.insert b.1 b.2 }) := by
      simp [ingest, takeL1Block, L1Table.record, l1Record, houtcome]
    rw [List.map_append, List.map_singleton, after_append_singleton, log_append_singleton, hingest,
      hlog, List.map_append, List.map_singleton]
    refine ⟨hretention, ?_, rfl⟩
    rw [hinsert, hblocks, rtake_rtake_append_singleton (L1Table.retention_pos _)]
    rfl

namespace Follower

/-! ## The L1 chain of a follower -/

/-- The hash of the last of a number of L1 blocks, the first of which stands at a height.  It is the
digest of a label, of the hash of the block before it and of its height in bytes; in front of the
first block stand zeros. -/
def l1HashAfter (start : UInt64) : ℕ → Digest
  | 0 => .zero
  | count + 1 =>
    Sha256.hash (Text.bytesOf "l1-block" ++ (l1HashAfter start count).bytes ++
      Sha256.longBytes (start + UInt64.ofNat count))

/-- The follower makes the hash of an L1 block in this way. -/
lemma l1Hash_l1HashAfter (start : UInt64) (count : ℕ) :
    l1Hash (l1HashAfter start count) (start + UInt64.ofNat count) =
      l1HashAfter start (count + 1) := rfl

/-- A number of L1 blocks from a height on. -/
def l1Blocks (start : UInt64) (count : ℕ) : List (UInt64 × Digest) :=
  (List.range count).map fun i => (start + UInt64.ofNat i, l1HashAfter start (i + 1))

@[simp] lemma length_l1Blocks (start : UInt64) (count : ℕ) :
    (l1Blocks start count).length = count := by
  simp [l1Blocks]

/-- One more L1 block stands on top of the others. -/
lemma l1Blocks_succ (start : UInt64) (count : ℕ) :
    l1Blocks start (count + 1) =
      l1Blocks start count ++ [(start + UInt64.ofNat count, l1HashAfter start (count + 1))] := by
  simp [l1Blocks, List.range_succ]

/-- Heights are counted on from the first one, as long as they are words. -/
lemma toNat_add_ofNat {start : UInt64} {i : ℕ} (hi : start.toNat + i < UInt64.size) :
    (start + UInt64.ofNat i).toNat = start.toNat + i := by
  rw [UInt64.toNat_add, UInt64.toNat_ofNat_of_lt' (by omega)]
  exact Nat.mod_eq_of_lt hi

/-- The heights of the L1 blocks rise, as long as they are words. -/
lemma pairwise_l1Blocks {start : UInt64} {count : ℕ}
    (hcount : start.toNat + count ≤ UInt64.size) :
    (l1Blocks start count).Pairwise fun a b => a.1 < b.1 := by
  rw [l1Blocks, List.pairwise_map]
  refine List.pairwise_lt_range.imp_of_mem ?_
  intro i j hi hj hlt
  rw [List.mem_range] at hi hj
  rw [UInt64.lt_iff_toNat_lt, toNat_add_ofNat (by omega), toNat_add_ofNat (by omega)]
  exact Nat.add_lt_add_left hlt _

/-- The last entries of a list are found by their distance from the end. -/
lemma mem_rtake_iff {α : Type*} {l : List α} {bound : ℕ} {a : α} :
    a ∈ l.rtake bound ↔ ∃ j < min l.length bound, l[l.length - 1 - j]? = some a := by
  rw [List.rtake, List.mem_iff_getElem?]
  simp only [List.getElem?_drop]
  constructor
  · rintro ⟨i, hi⟩
    obtain ⟨hlt, -⟩ := List.getElem?_eq_some_iff.mp hi
    refine ⟨l.length - 1 - (l.length - bound + i), by omega, ?_⟩
    rw [← hi]
    congr 1
    omega
  · rintro ⟨j, hj, hget⟩
    refine ⟨l.length - 1 - j - (l.length - bound), ?_⟩
    rw [← hget]
    congr 1
    omega

/-- The L1 block at a position. -/
lemma getElem?_l1Blocks {start : UInt64} {count i : ℕ} (hi : i < count) :
    (l1Blocks start count)[i]? = some (start + UInt64.ofNat i, l1HashAfter start (i + 1)) := by
  simp [l1Blocks, hi]

/-- The last L1 blocks are found by their distance from the tip. -/
lemma mem_rtake_l1Blocks_iff {start : UInt64} {k bound : ℕ}
    (hk : start.toNat + k < UInt64.size) {height : UInt64} {hash : Digest} :
    (height, hash) ∈ (l1Blocks start (k + 1)).rtake bound ↔
      ∃ j < min (k + 1) bound,
        height.toNat = start.toNat + k - j ∧ hash = l1HashAfter start (k + 1 - j) := by
  rw [mem_rtake_iff, length_l1Blocks]
  apply exists_congr
  intro j
  apply and_congr_right
  intro hj
  have hheight : (start + UInt64.ofNat (k - j)).toNat = start.toNat + k - j := by
    rw [toNat_add_ofNat (by omega)]
    omega
  have hcount : k - j + 1 = k + 1 - j := by omega
  rw [Nat.add_sub_cancel, getElem?_l1Blocks (by omega), hcount, Option.some_inj, Prod.mk.injEq,
    ← UInt64.toNat_inj, hheight]
  exact and_congr eq_comm eq_comm

/-- The table of a fresh node that is told a number of L1 blocks holds as many of them as it may, up
to the last one, and each is told as an extension of the table. -/
lemma l1Table_after_l1Blocks (retention : Retention) (network : String) {start : UInt64} {k : ℕ}
    (hk : start.toNat + k < UInt64.size) :
    let records := (l1Blocks start (k + 1)).map l1Record
    let table := (Node.after retention network records).l1Table
    let bound := max retention.maxL1Blocks.toNat 1
    table.blocks.length = min (k + 1) bound ∧
      (∀ height hash, table.get? height = some hash ↔
        ∃ j < min (k + 1) bound,
          height.toNat = start.toNat + k - j ∧ hash = l1HashAfter start (k + 1 - j)) ∧
      Node.log retention network records =
        (l1Blocks start (k + 1)).map fun b => (l1Record b, .ok (.recorded .extended)) := by
  intro records table bound
  have hrise : (l1Blocks start (k + 1)).Pairwise fun a b => a.1 < b.1 :=
    pairwise_l1Blocks (by omega)
  obtain ⟨hretention, hblocks, hlog⟩ := Node.after_l1Record retention network hrise
  have hblocks' : table.blocks = (l1Blocks start (k + 1)).rtake bound := by
    have hbound : table.retention = bound := hretention
    rw [← hbound]
    exact hblocks
  have hsound := (Node.sound_after retention network records).ordered
  refine ⟨?_, ?_, hlog⟩
  · rw [hblocks', List.rtake, List.length_drop, length_l1Blocks]
    omega
  · intro height hash
    rw [L1Table.get?_eq_some_iff hsound, ← mem_rtake_l1Blocks_iff hk, ← hblocks']

/-- The number of L1 blocks that come with a number of blocks. -/
def l1CountAfter (s : FollowerSettings) : ℕ → ℕ
  | 0 => 0
  | count + 1 => count / s.l1Interval.toNat + 1

/-- The block at a height brings another L1 block if the interval divides the height. -/
lemma l1CountAfter_succ (s : FollowerSettings) (count : ℕ) :
    l1CountAfter s (count + 1) =
      l1CountAfter s count + if s.l1Interval.toNat ∣ count then 1 else 0 := by
  cases count with
  | zero => simp [l1CountAfter]
  | succ k =>
    simp only [l1CountAfter, Nat.succ_div]
    omega

/-- The reports of the L1 blocks that come with a number of blocks. -/
def l1Records (s : FollowerSettings) (count : ℕ) : List Report :=
  (l1Blocks s.l1StartHeight (l1CountAfter s count)).map l1Record

/-! ## What a step does to the views -/

/-- What a step that succeeds has done.  Only the L1 blocks are left out. -/
structure Made (f : Follower) (n : Node) (time : UInt64) (h : Header) (g : Follower) (m : Node) :
    Prop where
  /-- The block is the next one of the follower. -/
  nextBlock?_eq : f.nextBlock? time = some h
  /-- There is a height for the L1 block that comes with it. -/
  overflowsL1_eq : f.overflowsL1 h.index = false
  /-- It extends the newest header of the node. -/
  extends_newest : ∀ newest ∈ n.window.newest?, h.extends? newest = true
  /-- The follower moves on to it. -/
  follower_eq : g = { f.holding h with tip := some h }
  /-- So does the node. -/
  newest_eq : m.window.newest? = some h
  /-- The status of the chain is the one with the block as its tip. -/
  client_eq : m.snapshot.client = (f.holding h).status h
  /-- The status of the reader is another one if the block brings an L1 block. -/
  l1_eq : m.snapshot.l1 =
    match f.broughtL1? h.index with
    | some (height, hash) => f.l1Status height hash time
    | none => n.snapshot.l1
  /-- The only L1 block that is reported is the one that the block brings. -/
  l1Records_eq : ofStream [.l1Block] (f.reports n time) =
    (f.broughtL1? h.index).toList.map l1Record

/-- A client status that is taken replaces the one in force. -/
lemma eq_of_takeStatus_eq_ok {n next : Node} {s : ClientStatus}
    (htake : n.takeStatus s = .ok next) :
    next = { n with snapshot := ⟨s, n.snapshot.l1, n.snapshot.version + 1⟩ } := by
  have hingest : n.ingest (.status s) = (.ok .accepted, next) := by
    simp [Node.ingest, htake]
  exact (Node.ingest_status_eq_ok_iff.mp hingest).2.2.2

/-- The L1 block that comes with a block leaves the window and is published by the status of the
reader. -/
lemma ingestAll_l1Reports (f : Follower) (n : Node) (index time : UInt64) :
    (n.ingestAll (f.l1Reports index time)).2.window = n.window ∧
      (n.ingestAll (f.l1Reports index time)).2.snapshot.l1 =
        match f.broughtL1? index with
        | some (height, hash) => f.l1Status height hash time
        | none => n.snapshot.l1 := by
  unfold l1Reports
  cases f.broughtL1? index <;> exact ⟨rfl, rfl⟩

/-- A step that succeeds has done this. -/
lemma made_of_step_eq {f g : Follower} {n m : Node} {time : UInt64} {h : Header}
    (hstep : f.step n time = (.ok h, g, m)) : Made f n time h g m := by
  cases stepsTo_of_step_eq hstep with
  | @made _ next _ hnext htake hroom hstatus =>
    rcases n.takeHeader_cases h with ⟨_, hrefused, -⟩ | ⟨-, hext, htaken⟩
    · cases htake.symm.trans hrefused
    obtain ⟨-, rfl⟩ := Prod.mk.inj (htake.symm.trans htaken)
    rw [ownReports_eq hnext] at hstatus
    obtain ⟨hwindow, hl1⟩ :=
      f.ingestAll_l1Reports { n with window := n.window.push h } h.index time
    have hm := eq_of_takeStatus_eq_ok hstatus
    have hreports : f.reports n time =
        .header h :: (f.l1Reports h.index time ++ [.status ((f.holding h).status h)]) := by
      simp [reports, hnext, htaken, hroom]
    refine ⟨hnext, hroom, hext, rfl, ?_, by rw [hm], by rw [hm]; exact hl1, ?_⟩
    · rw [hm]
      change (Node.ingestAll _ _).2.window.newest? = some h
      rw [hwindow]
      exact n.window.newest?_push h
    · rw [hreports, l1Reports]
      cases f.broughtL1? h.index <;> rfl

/-- A follower and a node behind steps at a sequence of times that succeeded, while nobody else
reported: the views of the L1 chain are those that the number of blocks determines. -/
structure Anchored (f : Follower) (n : Node) (times : List UInt64) : Prop where
  /-- The newest header of the node is the tip of the follower. -/
  newest_eq : n.window.newest? = f.tip
  /-- There are as many blocks as there are heights up to the tip. -/
  height_eq : (f.tip.map fun h => h.index.toNat + 1).getD 0 = times.length
  /-- The follower knows the height of the last L1 block. -/
  l1Height_eq : f.l1Height.map UInt64.toNat = l1HeightAfter f.settings times.length
  /-- It knows the hash of that block. -/
  l1Tip_eq : f.l1Tip =
    l1HashAfter f.settings.l1StartHeight (l1CountAfter f.settings times.length)
  /-- The status of the reader tells of that block, at the time at which it was made. -/
  l1_eq : ∀ height ∈ f.l1Height, ∃ time,
    times[(times.length - 1) / f.settings.l1Interval.toNat * f.settings.l1Interval.toNat]? =
      some time ∧ n.snapshot.l1 = f.l1Status height f.l1Tip time
  /-- So does the anchor in the status of the chain. -/
  client_eq : f.tip ≠ none → n.snapshot.client.lastL1Block = f.l1Tip ∧
    n.snapshot.client.buriedHeight = f.buriedHeight

namespace Anchored

variable {f : Follower} {n : Node} {times : List UInt64}

/-- There are no blocks before the first step. -/
lemma create (settings : FollowerSettings) (network : String) (retention : Retention)
    (nodeNetwork : String) :
    Anchored (Follower.create settings network) (Node.create retention nodeNetwork) [] where
  newest_eq := rfl
  height_eq := rfl
  l1Height_eq := rfl
  l1Tip_eq := rfl
  l1_eq := by simp [Follower.create]
  client_eq := by simp [Follower.create]

/-- The next block stands on top of all blocks before it. -/
lemma toNat_index (ha : Anchored f n times) {time : UInt64} {h : Header} {g : Follower} {m : Node}
    (hm : Made f n time h g m) : h.index.toNat = times.length := by
  have hheight := ha.height_eq
  cases htip : f.tip with
  | none =>
    have hindex : h.index = 0 := by
      have hnext := index_nextBlock? hm.nextBlock?_eq
      rw [nextIndex?, htip] at hnext
      exact (Option.some.inj hnext).symm
    rw [hindex, ← hheight, htip]
    rfl
  | some tip =>
    have hext := hm.extends_newest tip (by rw [ha.newest_eq, htip]; rfl)
    rw [(Header.extends?_iff.mp hext).2, ← hheight, htip]
    rfl

/-- The next L1 block stands as high above the first one as there are L1 blocks. -/
lemma nextL1Height?_eq (ha : Anchored f n times) {height : UInt64}
    (hnext : f.nextL1Height? = some height) :
    height = f.settings.l1StartHeight + UInt64.ofNat (l1CountAfter f.settings times.length) := by
  have hheight := ha.l1Height_eq
  unfold nextL1Height? at hnext
  cases times with
  | nil =>
    have hnone : f.l1Height = none := by simpa [l1HeightAfter] using hheight
    rw [hnone] at hnext
    simp [l1CountAfter, Option.some.inj hnext]
  | cons time rest =>
    obtain ⟨last, hlast, hnat⟩ := Option.map_eq_some_iff.mp hheight
    rw [hlast] at hnext
    have habove := wordAbove?_eq_some_iff.mp hnext
    rw [hnat, List.length_cons, Nat.add_sub_cancel, Nat.add_assoc] at habove
    have hroom : f.settings.l1StartHeight.toNat +
        (rest.length / f.settings.l1Interval.toNat + 1) < UInt64.size := habove ▸ height.toNat_lt
    refine UInt64.toNat_inj.mp (habove.trans ?_)
    exact (toNat_add_ofNat hroom).symm

/-- What a step that succeeds does to the L1 chain and to the views that are not written with the
status: if the interval divides the height of the block, it brings the next L1 block, and otherwise
everything stays as it is. -/
lemma l1_step (ha : Anchored f n times) (hinterval : f.settings.l1Interval ≠ 0) {time : UInt64}
    {h : Header} {g : Follower} {m : Node} (hm : Made f n time h g m) :
    let start := f.settings.l1StartHeight
    let interval := f.settings.l1Interval.toNat
    let behind := l1CountAfter f.settings (times.length + 1)
    (f.withL1 h.index).l1Tip = l1HashAfter start behind ∧
      (∀ height ∈ (f.withL1 h.index).l1Height, ∃ t,
        (times ++ [time])[times.length / interval * interval]? = some t ∧
          m.snapshot.l1 = f.l1Status height (f.withL1 h.index).l1Tip t) ∧
      l1Records f.settings (times.length + 1) =
        l1Records f.settings times.length ++ ofStream [.l1Block] (f.reports n time) := by
  intro start interval behind
  let before := l1CountAfter f.settings times.length
  have hbrings : f.bringsL1 h.index = true ↔ interval ∣ times.length := by
    rw [bringsL1_iff hinterval, ha.toNat_index hm]
  have hcount : behind = before + if interval ∣ times.length then 1 else 0 :=
    l1CountAfter_succ f.settings times.length
  by_cases hdvd : interval ∣ times.length
  · obtain ⟨height, hnext, hbrought⟩ := exists_broughtL1? (hbrings.mpr hdvd) hm.overflowsL1_eq
    have hhash : l1Hash f.l1Tip height = l1HashAfter start (before + 1) := by
      rw [ha.l1Tip_eq, ha.nextL1Height?_eq hnext, l1Hash_l1HashAfter]
    have hblock : ofStream [.l1Block] (f.reports n time) =
        [l1Record (start + UInt64.ofNat before, l1HashAfter start (before + 1))] := by
      rw [hm.l1Records_eq, hbrought, hhash, ha.nextL1Height?_eq hnext]
      rfl
    have hstatus := hm.l1_eq
    simp only [hbrought, hhash] at hstatus
    rw [if_pos hdvd] at hcount
    simp only [withL1, hbrought, hhash, hcount, hstatus, Nat.div_mul_cancel hdvd]
    refine ⟨trivial, ?_, ?_⟩
    · rintro height ⟨rfl⟩
      exact ⟨time, List.getElem?_concat_length, rfl⟩
    · change (l1Blocks start behind).map l1Record = _
      rw [hcount, l1Blocks_succ, List.map_append, hblock]
      rfl
  · have hbrought : f.broughtL1? h.index = none :=
      broughtL1?_of_not_bringsL1 (by simpa using fun hyes => hdvd (hbrings.mp hyes))
    have hblock : ofStream [.l1Block] (f.reports n time) = [] := by
      rw [hm.l1Records_eq, hbrought]
      rfl
    have hstatus : m.snapshot.l1 = n.snapshot.l1 := by
      rw [hm.l1_eq, hbrought]
    rw [if_neg hdvd, Nat.add_zero] at hcount
    obtain ⟨last, hlast⟩ := Nat.exists_eq_succ_of_ne_zero fun hzero : times.length = 0 =>
      hdvd (hzero ▸ Nat.dvd_zero interval)
    have hsame : (times.length - 1) / interval = times.length / interval := by
      rw [hlast] at hdvd ⊢
      simp [Nat.succ_div, hdvd]
    simp only [withL1, hbrought, hcount, hstatus, hblock, List.append_nil]
    refine ⟨ha.l1Tip_eq, ?_, congrArg (fun k => (l1Blocks start k).map l1Record) hcount⟩
    intro height hheight
    obtain ⟨t, ht, hl1⟩ := ha.l1_eq height hheight
    have hbefore : times.length / interval * interval < times.length := by
      rw [← hsame, hlast]
      exact Nat.lt_succ_of_le (Nat.div_mul_le_self _ _)
    refine ⟨t, ?_, hl1⟩
    rw [List.getElem?_append_left hbefore, ← hsame]
    exact ht

/-- A step that succeeds goes on from there. -/
lemma step (ha : Anchored f n times) (hinterval : f.settings.l1Interval ≠ 0)
    (hl1 : f.settings.l1StartHeight.toNat + times.length / f.settings.l1Interval.toNat <
      UInt64.size)
    {time : UInt64} {h : Header} {g : Follower} {m : Node} (hm : Made f n time h g m) :
    Anchored g m (times ++ [time]) ∧ g.settings = f.settings ∧ g.network = f.network := by
  have hindex := ha.toNat_index hm
  have hlength : (times ++ [time]).length = times.length + 1 := by simp
  obtain ⟨htip, hstatus, -⟩ := ha.l1_step hinterval hm
  obtain ⟨_, _, hbring, hheight⟩ := exists_bringL1? n time hinterval
    (by rw [hindex]; exact ha.l1Height_eq) (by rwa [hindex])
  rw [bringL1?_eq, hm.overflowsL1_eq] at hbring
  obtain ⟨rfl, -⟩ := Prod.mk.inj (Option.some.inj hbring)
  rw [hindex] at hheight
  obtain ⟨hsettings, hnetwork⟩ : (f.holding h).settings = f.settings ∧
      (f.holding h).network = f.network := by
    unfold holding withL1
    split <;> exact ⟨rfl, rfl⟩
  obtain rfl := hm.follower_eq
  refine ⟨?_, hsettings, hnetwork⟩
  exact {
    newest_eq := hm.newest_eq
    height_eq := by
      rw [hlength, ← hindex]
      rfl
    l1Height_eq := by
      change (f.withL1 h.index).l1Height.map UInt64.toNat = l1HeightAfter (f.holding h).settings _
      rw [hsettings, hlength]
      exact hheight
    l1Tip_eq := by
      change (f.withL1 h.index).l1Tip = l1HashAfter (f.holding h).settings.l1StartHeight
        (l1CountAfter (f.holding h).settings _)
      rw [hsettings, hlength]
      exact htip
    l1_eq := by
      intro height hheight
      obtain ⟨t, ht, hl1⟩ := hstatus height hheight
      refine ⟨t, ?_, ?_⟩
      · change (times ++ [time])[(_ - 1) / (f.holding h).settings.l1Interval.toNat *
          (f.holding h).settings.l1Interval.toNat]? = some t
        rw [hsettings, hlength]
        exact ht
      · rw [hl1, l1Status, l1Status]
        exact congrArg _ hnetwork.symm
    client_eq := by
      intro _
      rw [hm.client_eq]
      exact ⟨rfl, rfl⟩ }

/-- Steps that all succeed go on from there, and the L1 blocks that they report continue the L1
chain. -/
lemma stepEach (ha : Anchored f n times) (rest : List UInt64)
    (hinterval : f.settings.l1Interval ≠ 0)
    (hl1 : f.settings.l1StartHeight.toNat +
      ((times ++ rest).length - 1) / f.settings.l1Interval.toNat < UInt64.size)
    (hok : ∀ answer ∈ (f.stepEach n rest).1, answer.isOk = true) :
    let last := (f.stepEach n rest).2
    Anchored last.1 last.2 (times ++ rest) ∧ last.1.settings = f.settings ∧
      last.1.network = f.network ∧
      l1Records f.settings (times ++ rest).length =
        l1Records f.settings times.length ++ ofStream [.l1Block] (f.reportsOver n rest) := by
  -- Each step moves a time over from the ones that are left to the ones that are done.
  induction rest generalizing f n times with
  | nil =>
    simp only [List.append_nil]
    exact ⟨ha, rfl, rfl, (List.append_nil _).symm⟩
  | cons time rest ih =>
    have hshift : times ++ time :: rest = times ++ [time] ++ rest :=
      List.append_cons times time rest
    have hlength : (times ++ time :: rest).length = times.length + rest.length + 1 := by
      simp
      omega
    rw [stepEach_cons] at hok
    obtain ⟨hfirst, hlater⟩ := List.forall_mem_cons.mp hok
    obtain ⟨h, hanswer⟩ : ∃ h, (f.step n time).1 = .ok h := by
      cases hanswer : (f.step n time).1 with
      | ok h => exact ⟨h, rfl⟩
      | error e => simp [hanswer, Except.isOk, Except.toBool] at hfirst
    have hm : Made f n time h (f.step n time).2.1 (f.step n time).2.2 :=
      made_of_step_eq (Prod.ext hanswer rfl)
    have hl1Next : f.settings.l1StartHeight.toNat +
        times.length / f.settings.l1Interval.toNat < UInt64.size := by
      refine Nat.lt_of_le_of_lt (Nat.add_le_add_left (Nat.div_le_div_right ?_) _) hl1
      omega
    obtain ⟨haNext, hsettings, hnetwork⟩ := ha.step hinterval hl1Next hm
    obtain ⟨-, -, hrecords⟩ := ha.l1_step hinterval hm
    rw [hshift] at hl1
    rw [← hsettings] at hinterval hl1
    obtain ⟨haLast, hsettingsLast, hnetworkLast, hrecordsLast⟩ := ih haNext hinterval hl1 hlater
    rw [hshift]
    refine ⟨haLast, hsettingsLast.trans hsettings, hnetworkLast.trans hnetwork, ?_⟩
    have hstream : ofStream [.l1Block] (f.reportsOver n (time :: rest)) =
        ofStream [.l1Block] (f.reports n time) ++
          ofStream [.l1Block] ((f.step n time).2.1.reportsOver (f.step n time).2.2 rest) :=
      List.filter_append ..
    have hone : (times ++ [time]).length = times.length + 1 := by simp
    rw [hsettings, hone, hrecords] at hrecordsLast
    rw [hstream, ← List.append_assoc]
    exact hrecordsLast

end Anchored

/-! ## The views behind a run -/

/-- The three views of the L1 chain always agree.  Let a fresh follower with settings in order make
blocks over a fresh node to which nobody else reports, one at each of a sequence of times, and let
all of these steps succeed; with `k` intervals gone by, let there be heights for the L1 blocks.
Then the status of the reader says that it is connected, and tells of the L1 block `k` above the
first one, of the time at which the block came that brought it, and of the network of the follower.
Its hash is the anchor in the status of the chain, where the buried height lies the depth below it
and at zero at least, and it is the hash that the table has for its height.  The table holds as many
L1 blocks as have come and as it may, up to this one, each with the hash made from the one before
it.  The node is the one that the reports of the follower lead to, and each of the L1 blocks among
these was answered as an extension of the table. -/
theorem l1_views_agree (settings : FollowerSettings) (retention : Retention)
    (network nodeNetwork : String) (times : List UInt64)
    (hsettings : settings.fault? retention.maxHeaders = none) (hne : times ≠ [])
    (hok : ∀ answer ∈ ((Follower.create settings network).stepEach
      (Node.create retention nodeNetwork) times).1, answer.isOk = true)
    (hl1 : settings.l1StartHeight.toNat + (times.length - 1) / settings.l1Interval.toNat <
      UInt64.size) :
    let fresh := Node.create retention nodeNetwork
    let node := ((Follower.create settings network).stepEach fresh times).2.2
    let k := (times.length - 1) / settings.l1Interval.toNat
    let hashAfter := l1HashAfter settings.l1StartHeight
    let l1 := node.snapshot.l1
    let client := node.snapshot.client
    let bound := max retention.maxL1Blocks.toNat 1
    let reports := (Follower.create settings network).reportsOver fresh times
    (l1.connected = true ∧ l1.height.toNat = settings.l1StartHeight.toNat + k ∧
        times[k * settings.l1Interval.toNat]? = some l1.updatedAt ∧ l1.network = network) ∧
      (l1.tip = hashAfter (k + 1) ∧ client.lastL1Block = l1.tip ∧
        node.l1Table.get? l1.height = some l1.tip) ∧
      client.buriedHeight.toNat = l1.height.toNat - settings.l1BuryDepth.toNat ∧
      (node.l1Table.blocks.length = min (k + 1) bound ∧
        ∀ height hash, node.l1Table.get? height = some hash ↔
          ∃ j < min (k + 1) bound,
            height.toNat = l1.height.toNat - j ∧ hash = hashAfter (k + 1 - j)) ∧
      node = (fresh.ingestAll reports).2 ∧
      answeredOf [.l1Block] (fresh.transcript reports) =
        (l1Blocks settings.l1StartHeight (k + 1)).map fun b =>
          (.l1Block b.1 b.2, .ok (.recorded .extended)) := by
  intro fresh node k hashAfter l1 client bound reports
  obtain ⟨hinterval, -⟩ := FollowerSettings.fault?_eq_none_iff.mp hsettings
  obtain ⟨ha, hsame, hnetwork, hrecords⟩ :=
    (Anchored.create settings network retention nodeNetwork).stepEach times hinterval hl1 hok
  have hpos : 0 < times.length := List.length_pos_iff.mpr hne
  -- `f` is the follower behind the run.
  obtain ⟨f, hf⟩ : ∃ f, f = ((Follower.create settings network).stepEach fresh times).2.1 :=
    ⟨_, rfl⟩
  rw [← hf] at ha hsame hnetwork
  have ha : Anchored f node times := ha
  have hsettings' : f.settings = settings := hsame
  have hnetwork' : f.network = network := hnetwork
  have hcount : l1CountAfter settings times.length = k + 1 := by
    obtain ⟨count, hlength⟩ := Nat.exists_eq_succ_of_ne_zero hpos.ne'
    simp [k, hlength, l1CountAfter]
  have htip : f.l1Tip = hashAfter (k + 1) := by
    rw [ha.l1Tip_eq, hsettings', hcount]
  obtain ⟨top, htop, htopNat⟩ : ∃ top, f.l1Height = some top ∧
      top.toNat = settings.l1StartHeight.toNat + k := by
    have hheight := ha.l1Height_eq
    rw [hsettings', l1HeightAfter, if_neg hpos.ne'] at hheight
    exact Option.map_eq_some_iff.mp hheight
  obtain ⟨time, htime, hl1Status⟩ := ha.l1_eq top (by simp [htop])
  have hmade : f.tip ≠ none := by
    intro hnone
    have hheight := ha.height_eq
    rw [hnone] at hheight
    exact hpos.ne hheight
  obtain ⟨hanchor, hburied⟩ := ha.client_eq hmade
  have hl1Eq : l1 = f.l1Status top f.l1Tip time := hl1Status
  -- The table and the answers are those that the reports of L1 blocks have alone.
  have hstream : ofStream [.l1Block] reports =
      (l1Blocks settings.l1StartHeight (k + 1)).map l1Record := by
    rw [← hcount]
    exact hrecords.symm
  have hnode : node = Node.after retention nodeNetwork reports :=
    (ingestAll_reportsOver _ fresh times).symm
  obtain ⟨htable, hanswers⟩ := Node.determines_l1Blocks.after retention nodeNetwork reports
  obtain ⟨hlength, hget, hlog⟩ := l1Table_after_l1Blocks retention nodeNetwork hl1
  rw [hstream] at htable hanswers
  rw [← hnode] at htable
  rw [← htable] at hlength hget
  have hheight : l1.height.toNat = settings.l1StartHeight.toNat + k := by
    rw [hl1Eq]
    exact htopNat
  rw [hheight, hl1Eq]
  refine ⟨⟨rfl, rfl, ?_, hnetwork'⟩, ⟨htip, hanchor, ?_⟩, ?_, ⟨hlength, hget⟩, hnode, ?_⟩
  · rw [hsettings'] at htime
    exact htime
  · have hsome : 0 < min (k + 1) bound := Nat.lt_min.mpr ⟨Nat.succ_pos k, Nat.le_max_right _ 1⟩
    refine (hget top f.l1Tip).mpr ⟨0, hsome, ?_, ?_⟩
    · rw [htopNat]
      rfl
    · rw [htip]
      rfl
  · change node.snapshot.client.buriedHeight.toNat = _
    rw [hburied, toNat_buriedHeight, htop, hsettings', ← htopNat]
    rfl
  · exact hanswers.trans hlog

/-- The views behind two steps that brought an L1 block each: a table of one block has dropped the
first of them, and the depth is greater than the height, so the buried height is zero. -/
theorem l1_views_of_two_l1_blocks :
    let settings : FollowerSettings := ⟨true, 1, 1, 6, 3⟩
    let node := ((Follower.create settings "signet").stepEach
      (Node.create ⟨2, 1⟩ "regtest") [7, 9]).2.2
    settings.l1BuryDepth = 6 ∧ node.snapshot.l1.height.toNat = 4 ∧
      node.snapshot.l1.updatedAt = 9 ∧ node.snapshot.client.buriedHeight.toNat = 0 ∧
      node.l1Table.blocks.length = 1 ∧
      node.l1Table.get? node.snapshot.l1.height = some node.snapshot.client.lastL1Block := by
  intro settings node
  obtain ⟨⟨-, hheight, htime, -⟩, ⟨-, hanchor, htop⟩, hburied, ⟨hlength, -⟩, -, -⟩ :=
    l1_views_agree settings ⟨2, 1⟩ "signet" "regtest" [7, 9] rfl (by simp) (by decide +kernel)
      (by decide)
  have hindex : (([7, 9] : List UInt64).length - 1) / settings.l1Interval.toNat *
      settings.l1Interval.toNat = 1 := by decide
  rw [hindex] at htime
  simp only [node]
  refine ⟨rfl, hheight.trans (by decide), (Option.some.inj htime).symm, ?_,
    hlength.trans (by decide), ?_⟩
  · rw [hburied, hheight]
    decide
  · rw [hanchor]
    exact htop

end Follower

end ChainView
