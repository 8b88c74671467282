import ChainView.Proofs.Follower.Chain
import ChainView.Proofs.Node.Finality

/-!
# A follower with a node of its own

A step of a follower can fail in four places that lie outside of it: its block has to extend the
newest header of the node, its finalized block must not be known to stand above its tip, and neither
the slot nor the buried height may go backwards.  And it fails if there is no height for its block
or for the L1 block that comes with it.  `Follower.InStep` ties the follower and the node together
after a sequence of steps: both stand at the end of the chain that the times determine, each keeps
the part of it that its own bound allows, and the published status is that of the last block.
Settings in order make the finality depth smaller than the retention of headers, so that the
finalized block is among the headers kept, at the latest as the oldest of them.

`Follower.stepEach_of_settings_in_order` is the result: over a fresh node that nobody else reports
to, no step fails, and the node ends up with the last blocks of the chain and their status.
-/

namespace ChainView

/-! ## The newest header of a window -/

/-- The last header of a linked list is the highest one. -/
lemma Linked.index_le_getLast {hs : List Header} (hl : Linked hs) {last : Header}
    (hlast : hs.getLast? = some last) : ∀ h ∈ hs, h.index ≤ last.index := by
  intro h hh
  obtain ⟨front, rfl⟩ := List.getLast?_eq_some_iff.mp hlast
  rcases List.mem_append.mp hh with hh | hh
  · exact UInt64.le_of_lt ((List.pairwise_append.mp hl.pairwise_index_lt).2.2 h hh last (by simp))
  · obtain rfl : h = last := by simpa using hh
    exact UInt64.le_refl _

/-- A status is not refuted if no header but the newest bears the id of its tip. -/
lemma Node.refutesFinality_eq_false {n : Node} (hl : Linked n.window.headers) {s : ClientStatus}
    {last : Header} (hlast : n.window.headers.getLast? = some last)
    (honly : ∀ h ∈ n.window.headers, h.id = s.tip → h = last) : n.refutesFinality s = false := by
  have hleads : n.window.leadsTo? s.finalized s.tip ≠ some false := by
    intro hfalse
    obtain ⟨⟨u, hu, huid⟩, l, hlmem, hlid, hlow⟩ :=
      (Window.leadsTo?_eq_some_false_iff hl).mp hfalse
    obtain rfl : l = last := honly l hlmem hlid
    have hlt := UInt64.lt_of_lt_of_le (hlow u hu huid) (hl.index_le_getLast hlast u hu)
    exact UInt64.lt_irrefl _ hlt
  simp [refutesFinality, hleads]

/-- A status that is not refuted and falls behind in neither number is published. -/
lemma Node.takeStatus_of_le {n : Node} {s : ClientStatus} (hrefutes : n.refutesFinality s = false)
    (hslot : n.snapshot.client.tipSlot ≤ s.tipSlot)
    (hburied : n.snapshot.client.buriedHeight ≤ s.buriedHeight) :
    ∃ next, n.takeStatus s = .ok next ∧ next.snapshot.client = s ∧ next.window = n.window ∧
      next.halted = n.halted := by
  obtain ⟨snapshot, hreplace, hclient⟩ : ∃ snapshot,
      n.snapshot.replaceClient s = .ok snapshot ∧ snapshot.client = s :=
    ⟨_, Snapshot.replaceClient_eq_ok_iff.mpr ⟨hslot, hburied, rfl⟩, rfl⟩
  refine ⟨{ n with snapshot }, ?_, hclient, rfl, rfl⟩
  simp [takeStatus, hrefutes, hreplace]

/-- If settings are in order, there are L1 blocks, and the number of blocks that the follower keeps
in mind is a word. -/
lemma FollowerSettings.bounds_of_fault?_eq_none {s : FollowerSettings} {maxHeaders : UInt64}
    (h : s.fault? maxHeaders = none) :
    s.l1Interval ≠ 0 ∧ s.finalityDepth.toNat + 1 < UInt64.size := by
  obtain ⟨hinterval, hdepth⟩ := fault?_eq_none_iff.mp h
  exact ⟨hinterval, Nat.lt_of_le_of_lt (UInt64.lt_iff_toNat_lt.mp hdepth) maxHeaders.toNat_lt⟩

namespace Follower

/-! ## The parts of a step -/

/-- A step whose header is taken in and whose L1 block has a height ends as the node answers to its
status. -/
lemma step_eq_of_takeHeader {f g : Follower} {n next m : Node} {time : UInt64} {h : Header}
    (hnext : f.nextBlock? time = some h) (htake : n.takeHeader h = (.ok (), next))
    (hbring : f.bringL1? next h.index time = some (g, m)) :
    f.step n time =
      match m.takeStatus ((g.keepId h.id).status h) with
      | .error e => (.error (.refused e), g.keepId h.id, m)
      | .ok last => (.ok h, { g.keepId h.id with tip := some h }, last) := by
  cases hlast : m.takeStatus ((g.keepId h.id).status h) <;>
    simp only [step, hnext, htake, hbring, hlast]

/-- The L1 block changes neither the chain of the follower nor that of the node. -/
lemma bringL1?_frame {f g : Follower} {n m : Node} {index time : UInt64}
    (hbring : f.bringL1? n index time = some (g, m)) :
    g.settings = f.settings ∧ g.recent = f.recent ∧ m.window = n.window ∧ m.halted = n.halted ∧
      m.snapshot.client = n.snapshot.client := by
  unfold bringL1? at hbring
  split at hbring
  · obtain ⟨height, -, heq⟩ := Option.map_eq_some_iff.mp hbring
    obtain ⟨rfl, rfl⟩ := Prod.mk.inj heq
    exact ⟨rfl, rfl, rfl, rfl, rfl⟩
  · obtain ⟨rfl, rfl⟩ := Prod.mk.inj (Option.some.inj hbring)
    exact ⟨rfl, rfl, rfl, rfl, rfl⟩

/-- The height of the last L1 block after a number of blocks: the first of them brings the first L1
block, and every interval brings another. -/
def l1HeightAfter (s : FollowerSettings) (count : ℕ) : Option ℕ :=
  if count = 0 then none
  else some (s.l1StartHeight.toNat + (count - 1) / s.l1Interval.toNat)

/-- An L1 block comes with the blocks whose heights are multiples of the interval. -/
lemma bringsL1_iff {f : Follower} (hinterval : f.settings.l1Interval ≠ 0) {index : UInt64} :
    f.bringsL1 index = true ↔ f.settings.l1Interval.toNat ∣ index.toNat := by
  have hmod : index % f.settings.l1Interval = 0 ↔
      index.toNat % f.settings.l1Interval.toNat = 0 := by
    rw [← UInt64.toNat_inj, UInt64.toNat_mod]
    rfl
  simp [bringsL1, hinterval, hmod, Nat.dvd_iff_mod_eq_zero]

/-- If a block brings an L1 block, that one stands as high above the first one as intervals have
gone by, as long as this height is a word. -/
lemma exists_nextL1Height? {f : Follower} {count : ℕ}
    (hheight : f.l1Height.map UInt64.toNat = l1HeightAfter f.settings count)
    (hdvd : f.settings.l1Interval.toNat ∣ count)
    (hbound : f.settings.l1StartHeight.toNat + count / f.settings.l1Interval.toNat <
      UInt64.size) :
    ∃ height, f.nextL1Height? = some height ∧
      height.toNat = f.settings.l1StartHeight.toNat + count / f.settings.l1Interval.toNat := by
  unfold nextL1Height?
  cases count with
  | zero =>
    rw [l1HeightAfter, if_pos rfl, Option.map_eq_none_iff] at hheight
    exact ⟨f.settings.l1StartHeight, by rw [hheight], by simp⟩
  | succ k =>
    obtain ⟨last, hlast, hnat⟩ := Option.map_eq_some_iff.mp hheight
    rw [Nat.add_sub_cancel] at hnat
    have hdiv : (k + 1) / f.settings.l1Interval.toNat = k / f.settings.l1Interval.toNat + 1 :=
      Nat.succ_div_of_dvd hdvd
    have hroom : last.toNat + 1 < UInt64.size := by omega
    obtain ⟨height, habove⟩ : ∃ height, wordAbove? last = some height := ⟨_, if_pos hroom⟩
    have habove' := wordAbove?_eq_some_iff.mp habove
    exact ⟨height, by rw [hlast]; exact habove, by omega⟩

/-- There is a height for the L1 block that comes with a block, if one does, and the heights of L1
blocks are counted as `l1HeightAfter` does, as long as they are words. -/
lemma exists_bringL1? {f : Follower} (n : Node) {index : UInt64} (time : UInt64)
    (hinterval : f.settings.l1Interval ≠ 0)
    (hheight : f.l1Height.map UInt64.toNat = l1HeightAfter f.settings index.toNat)
    (hbound : f.settings.l1StartHeight.toNat + index.toNat / f.settings.l1Interval.toNat <
      UInt64.size) :
    ∃ g m, f.bringL1? n index time = some (g, m) ∧
      g.l1Height.map UInt64.toNat = l1HeightAfter f.settings (index.toNat + 1) := by
  have hbrings : f.bringsL1 index = true ↔ f.settings.l1Interval.toNat ∣ index.toNat :=
    bringsL1_iff hinterval
  by_cases hdvd : f.settings.l1Interval.toNat ∣ index.toNat
  · obtain ⟨height, hnext, hnat⟩ := exists_nextL1Height? hheight hdvd hbound
    rw [bringL1?, if_pos (hbrings.mpr hdvd), hnext]
    exact ⟨_, _, rfl, congrArg some hnat⟩
  · rw [bringL1?, if_neg fun h => hdvd (hbrings.mp h)]
    refine ⟨f, n, rfl, hheight.trans ?_⟩
    -- the first block brings an L1 block, so this one is not the first
    obtain ⟨k, hk⟩ := Nat.exists_eq_succ_of_ne_zero fun hzero : index.toNat = 0 =>
      hdvd (hzero ▸ Nat.dvd_zero _)
    have hdiv : (k + 1) / f.settings.l1Interval.toNat = k / f.settings.l1Interval.toNat := by
      rw [hk] at hdvd
      simp [Nat.succ_div, hdvd]
    simp [l1HeightAfter, hk, hdiv]

/-- The buried height is the height of the last L1 block less the depth, and zero at least. -/
lemma toNat_buriedHeight (f : Follower) :
    f.buriedHeight.toNat =
      (f.l1Height.map UInt64.toNat).getD 0 - f.settings.l1BuryDepth.toNat := by
  unfold buriedHeight
  cases f.l1Height with
  | none => simp
  | some height =>
    simp only [Option.map_some, Option.getD_some]
    split
    · rename_i hle
      exact UInt64.toNat_sub_of_le _ _ hle
    · rename_i hlt
      have hlt' := UInt64.lt_iff_toNat_lt.mp (UInt64.not_le.mp hlt)
      change 0 = _
      omega

/-- Another block does not lower the buried height. -/
lemma buriedHeight_le_of_l1HeightAfter {f g : Follower} {count : ℕ}
    (hsettings : g.settings = f.settings)
    (hf : f.l1Height.map UInt64.toNat = l1HeightAfter f.settings count)
    (hg : g.l1Height.map UInt64.toNat = l1HeightAfter f.settings (count + 1)) :
    f.buriedHeight ≤ g.buriedHeight := by
  rw [UInt64.le_iff_toNat_le, toNat_buriedHeight, toNat_buriedHeight, hsettings, hf, hg]
  apply Nat.sub_le_sub_right
  cases count with
  | zero => exact Nat.zero_le _
  | succ k => exact Nat.add_le_add_left (Nat.div_le_div_right (Nat.le_succ k)) _

/-- Keeping an id adds it to the newest ones, unless the finality depth is the greatest word. -/
lemma recent_keepId {f : Follower} (hdepth : f.settings.finalityDepth.toNat + 1 < UInt64.size)
    (id : Digest) :
    (f.keepId id).recent = (f.recent ++ [id]).rtake (f.settings.finalityDepth.toNat + 1) := by
  have hspan : f.span = f.settings.finalityDepth.toNat + 1 := Nat.min_eq_left (by omega)
  rw [← hspan]
  rfl

/-! ## Follower and node in step -/

/-- The follower and the node after blocks were made at a sequence of times: both stand at the end
of the chain that the times determine. -/
structure InStep (f : Follower) (n : Node) (times : List UInt64) : Prop where
  /-- The follower stands on the last block. -/
  tip_eq : f.tip = (chain times).getLast?
  /-- It knows the ids of the last blocks, from the finalized one on. -/
  recent_eq :
    f.recent = ((chain times).map Header.id).rtake (f.settings.finalityDepth.toNat + 1)
  /-- It knows the height of the last L1 block. -/
  l1Height_eq : f.l1Height.map UInt64.toNat = l1HeightAfter f.settings times.length
  /-- The node takes in headers. -/
  running : n.halted = false
  /-- Its window holds the last blocks. -/
  tracks : n.window.Tracks (chain times)
  /-- The published slot is the height of the last block. -/
  slot_eq : n.snapshot.client.tipSlot.toNat = times.length - 1
  /-- The published buried height is that of the follower. -/
  buried_eq : n.snapshot.client.buriedHeight = f.buriedHeight
  /-- The published ids are those of the last block and of the first one of the recent ones. -/
  published : ∀ last ∈ (chain times).getLast?, n.snapshot.client.tip = last.id ∧
    n.snapshot.client.finalized = f.recent.head?.getD last.id

namespace InStep

variable {f : Follower} {n : Node} {times : List UInt64}

/-- A fresh follower and a fresh node are in step before the first block. -/
lemma create (settings : FollowerSettings) (network : String) (retention : Retention)
    (nodeNetwork : String) :
    InStep (Follower.create settings network) (Node.create retention nodeNetwork) [] where
  tip_eq := rfl
  recent_eq := by simp [Follower.create, chain, chainFrom]
  l1Height_eq := rfl
  running := rfl
  tracks := Window.Tracks.empty _
  slot_eq := rfl
  buried_eq := rfl
  published := by simp [chain, chainFrom]

/-- The next block stands at the height that the number of blocks says. -/
lemma nextIndex?_eq (hs : InStep f n times) (hlen : times.length < UInt64.size) :
    f.nextIndex? = some (UInt64.ofNat times.length) := by
  unfold nextIndex?
  rw [hs.tip_eq]
  cases hlast : (chain times).getLast? with
  | none =>
    have hchain : chain times = [] := List.getLast?_eq_none_iff.mp hlast
    have hnil : times.length = 0 := by simpa using congrArg List.length hchain
    rw [hnil]
    rfl
  | some tip =>
    have hget : (chain times)[times.length - 1]? = some tip := by
      rw [← hlast, List.getLast?_eq_getElem?, length_chain]
    have hindex := toNat_index_of_getElem?_chain hlen.le hget
    have hpos : times.length - 1 < times.length := by
      simpa using (List.getElem?_eq_some_iff.mp hget).1
    refine wordAbove?_eq_some_iff.mpr ?_
    rw [hindex, UInt64.toNat_ofNat_of_lt' hlen]
    omega

/-- The next block is the one that the next time puts on top of the chain. -/
lemma nextBlock?_eq (hs : InStep f n times) (hlen : times.length < UInt64.size) (time : UInt64) :
    f.nextBlock? time =
      some (block (lastId .zero (chain times)) (UInt64.ofNat times.length) time) := by
  rw [nextBlock?, hs.nextIndex?_eq hlen, parentId, hs.tip_eq]
  rfl

/-- The node takes in the next block, which continues the chain. -/
lemma takeHeader_nextBlock (hs : InStep f n times) (hlen : times.length < UInt64.size)
    (time : UInt64) :
    ∃ h, f.nextBlock? time = some h ∧ chain (times ++ [time]) = chain times ++ [h] ∧
      h.index.toNat = times.length ∧
      n.takeHeader h = (.ok (), { n with window := n.window.push h }) ∧
      (n.window.push h).Tracks (chain (times ++ [time])) := by
  have hchain := chain_append_singleton times time
  have hadmits : admits (chain times)
      (block (lastId .zero (chain times)) (UInt64.ofNat times.length) time) = true := by
    rw [admits_eq_true_iff]
    exact extends?_block hlen time
  obtain ⟨happend, htracks⟩ := hs.tracks.append_of_admits hadmits
  refine ⟨_, hs.nextBlock?_eq hlen time, hchain, UInt64.toNat_ofNat_of_lt' hlen, ?_, ?_⟩
  · simp [Node.takeHeader, hs.running, happend]
  · rw [hchain]
    exact htracks

/-- With the L1 block that comes with the next block, the heights of L1 blocks are counted on. -/
lemma exists_bringL1?_next (hs : InStep f n times) (next : Node) {h : Header} (time : UInt64)
    (hindex : h.index.toNat = times.length) (hinterval : f.settings.l1Interval ≠ 0)
    (hl1 : f.settings.l1StartHeight.toNat + times.length / f.settings.l1Interval.toNat <
      UInt64.size) :
    ∃ g m, f.bringL1? next h.index time = some (g, m) ∧
      g.l1Height.map UInt64.toNat = l1HeightAfter f.settings (times.length + 1) := by
  have hheight : f.l1Height.map UInt64.toNat = l1HeightAfter f.settings h.index.toNat := by
    rw [hindex]
    exact hs.l1Height_eq
  rw [← hindex] at hl1 ⊢
  exact exists_bringL1? next time hinterval hheight hl1

/-- With the id of the next block, the recent ids are the last ones of the longer chain. -/
lemma recent_next (hs : InStep f n times) {g : Follower} {h : Header} {hs' : List Header}
    (hsettings : g.settings = f.settings) (hrecent : g.recent = f.recent)
    (hdepth : f.settings.finalityDepth.toNat + 1 < UInt64.size)
    (hchain : hs' = chain times ++ [h]) :
    (g.keepId h.id).recent = (hs'.map Header.id).rtake (f.settings.finalityDepth.toNat + 1) := by
  rw [recent_keepId (by rwa [hsettings]), hrecent, hsettings, hs.recent_eq,
    rtake_rtake_append_singleton (Nat.succ_pos _), hchain, List.map_append]
  rfl

/-- As long as there are heights for the next block and for its L1 block, a step reports the next
block of the chain.  Either the node knows the finalized block to be no ancestor of it, or the step
succeeds and keeps follower and node in step. -/
lemma step_cases (hs : InStep f n times) (hlen : times.length < UInt64.size)
    (hinterval : f.settings.l1Interval ≠ 0)
    (hdepth : f.settings.finalityDepth.toNat + 1 < UInt64.size)
    (hl1 : f.settings.l1StartHeight.toNat + times.length / f.settings.l1Interval.toNat <
      UInt64.size) (time : UInt64) :
    ∃ h, chain (times ++ [time]) = chain times ++ [h] ∧
      ((∃ (m : Node) (s : ClientStatus), m.window.Tracks (chain (times ++ [time])) ∧
          s.tip = h.id ∧ m.refutesFinality s = true ∧
          (f.step n time).1 = .error (.refused (.finalizedNotAncestor s.finalized s.tip))) ∨
        ∃ g m, f.step n time = (.ok h, g, m) ∧ InStep g m (times ++ [time]) ∧
          g.settings = f.settings ∧ m.window.retention = n.window.retention) := by
  obtain ⟨h, hnext, hchain, hindex, htake, htracks⟩ := hs.takeHeader_nextBlock hlen time
  refine ⟨h, hchain, ?_⟩
  -- `g` and `m` stand behind the L1 block, which leaves the chain and its status alone.
  obtain ⟨g, m, hbring, hl1After⟩ :=
    hs.exists_bringL1?_next { n with window := n.window.push h } time hindex hinterval hl1
  obtain ⟨hsettings, hrecent, hwindow, hhalted, hclient⟩ := bringL1?_frame hbring
  have hkept := hs.recent_next hsettings hrecent hdepth hchain
  have htracksNext : m.window.Tracks (chain (times ++ [time])) := by
    rw [hwindow]
    exact htracks
  cases hrefutes : m.refutesFinality ((g.keepId h.id).status h) with
  | true =>
    refine .inl ⟨m, (g.keepId h.id).status h, htracksNext, rfl, hrefutes, ?_⟩
    simp [step_eq_of_takeHeader hnext htake hbring, Node.takeStatus, hrefutes]
  | false =>
    have hslot : m.snapshot.client.tipSlot ≤ h.index := by
      rw [hclient, UInt64.le_iff_toNat_le, hs.slot_eq]
      exact (Nat.sub_le _ _).trans hindex.ge
    have hburied : m.snapshot.client.buriedHeight ≤ g.buriedHeight := by
      rw [hclient, hs.buried_eq]
      exact buriedHeight_le_of_l1HeightAfter hsettings hs.l1Height_eq hl1After
    obtain ⟨next, hpublish, hpublished, hsame, hlatch⟩ :=
      Node.takeStatus_of_le hrefutes hslot hburied
    refine .inr ⟨{ g.keepId h.id with tip := some h }, next, ?_, ?_, hsettings, ?_⟩
    · rw [step_eq_of_takeHeader hnext htake hbring, hpublish]
    · exact {
        tip_eq := by simp [hchain]
        recent_eq := by
          change (g.keepId h.id).recent =
            (_ : List Digest).rtake (g.settings.finalityDepth.toNat + 1)
          rw [hkept, hsettings]
        l1Height_eq := by
          change g.l1Height.map UInt64.toNat = l1HeightAfter g.settings _
          rw [hl1After, hsettings, List.length_append, List.length_singleton]
        running := hlatch.trans (hhalted.trans hs.running)
        tracks := by
          rw [hsame]
          exact htracksNext
        slot_eq := by
          rw [hpublished, List.length_append, List.length_singleton, Nat.add_sub_cancel]
          exact hindex
        buried_eq := by
          rw [hpublished]
          rfl
        published := by
          intro last hlast
          obtain rfl : h = last := by simpa [hchain] using hlast
          rw [hpublished]
          exact ⟨rfl, rfl⟩ }
    · rw [hsame, hwindow]
      rfl

/-- A step succeeds and keeps follower and node in step, as long as there are heights for the next
block and for its L1 block and no block has the id of another. -/
lemma step (hs : InStep f n times) (hlen : times.length < UInt64.size) {time : UInt64}
    (hinterval : f.settings.l1Interval ≠ 0)
    (hdepth : f.settings.finalityDepth.toNat + 1 < UInt64.size)
    (hl1 : f.settings.l1StartHeight.toNat + times.length / f.settings.l1Interval.toNat <
      UInt64.size)
    (hids : ((chain (times ++ [time])).map Header.id).Nodup) :
    ∃ h g m, f.step n time = (.ok h, g, m) ∧ chain (times ++ [time]) = chain times ++ [h] ∧
      InStep g m (times ++ [time]) ∧ g.settings = f.settings ∧
      m.window.retention = n.window.retention := by
  obtain ⟨h, hchain, ⟨m, s, htracks, htip, hrefutes, -⟩ | ⟨g, m, hstep, hnext⟩⟩ :=
    hs.step_cases hlen hinterval hdepth hl1 time
  · -- The ids differ, so the window knows nothing against a finalized block below its newest one.
    have honly : ∀ a ∈ m.window.headers, a.id = s.tip → a = h := by
      intro a ha hid
      exact htracks.eq_of_id_eq hids ha (by simp [hchain]) (hid.trans htip)
    have hfalse := Node.refutesFinality_eq_false htracks.linked_headers
      (htracks.newest?_eq.trans (by simp [hchain])) honly
    exact absurd hrefutes (by simp [hfalse])
  · exact ⟨h, g, m, hstep, hchain, hnext⟩

end InStep

/-! ## A whole run -/

/-- Makes blocks at a sequence of times, refused or not, and gives the answer to each. -/
def stepEach (f : Follower) (n : Node) :
    List UInt64 → List (Except StepFault Header) × Follower × Node
  | [] => ([], f, n)
  | time :: rest =>
    let (answer, g, m) := f.step n time
    let (answers, last) := g.stepEach m rest
    (answer :: answers, last)

@[simp] lemma stepEach_cons (f : Follower) (n : Node) (time : UInt64) (rest : List UInt64) :
    f.stepEach n (time :: rest) =
      ((f.step n time).1 :: ((f.step n time).2.1.stepEach (f.step n time).2.2 rest).1,
        ((f.step n time).2.1.stepEach (f.step n time).2.2 rest).2) := rfl

/-- Later times are answered from where the earlier ones lead to. -/
lemma stepEach_append (f : Follower) (n : Node) (first second : List UInt64) :
    f.stepEach n (first ++ second) =
      ((f.stepEach n first).1 ++
          ((f.stepEach n first).2.1.stepEach (f.stepEach n first).2.2 second).1,
        ((f.stepEach n first).2.1.stepEach (f.stepEach n first).2.2 second).2) := by
  induction first generalizing f n with
  | nil => rfl
  | cons time rest ih => rw [List.cons_append, stepEach_cons, ih, stepEach_cons, List.cons_append]

/-- Of the answers, `stepAll` gives the last one, unless a height overflows. -/
lemma stepAll_eq_stepEach {f : Follower} {n : Node} {times : List UInt64}
    (hno : .error .overflow ∉ (f.stepEach n times).1) :
    f.stepAll n times = ((f.stepEach n times).1.getLast?, (f.stepEach n times).2) := by
  induction times generalizing f n with
  | nil => rfl
  | cons time rest ih =>
    rw [stepEach_cons, List.mem_cons, not_or] at hno
    have hrest := ih hno.2
    rw [stepEach_cons, List.getLast?_cons]
    rcases hstep : f.step n time with ⟨answer, g, m⟩
    rw [hstep] at hno hrest
    rcases answer with (e | _) | h
    · cases hlast : (g.stepEach m rest).1.getLast? <;> simp [stepAll, hstep, hrest, hlast]
    · exact absurd rfl hno.1
    · cases hlast : (g.stepEach m rest).1.getLast? <;> simp [stepAll, hstep, hrest, hlast]

/-- A run that begins in step answers with the further blocks of the chain and ends in step. -/
lemma InStep.stepEach {f : Follower} {n : Node} {done : List UInt64} (hs : InStep f n done)
    (rest : List UInt64) (hlen : (done ++ rest).length ≤ UInt64.size)
    (hinterval : f.settings.l1Interval ≠ 0)
    (hdepth : f.settings.finalityDepth.toNat + 1 < UInt64.size)
    (hl1 : f.settings.l1StartHeight.toNat +
      ((done ++ rest).length - 1) / f.settings.l1Interval.toNat < UInt64.size)
    (hids : ((chain (done ++ rest)).map Header.id).Nodup) :
    ∃ made g m, f.stepEach n rest = (made.map .ok, g, m) ∧
      chain (done ++ rest) = chain done ++ made ∧ InStep g m (done ++ rest) ∧
      g.settings = f.settings ∧ m.window.retention = n.window.retention := by
  -- Each step moves a time over from the ones that are left to the ones that are done.
  induction rest generalizing f n done with
  | nil => exact ⟨[], f, n, rfl, by simp, by rwa [List.append_nil], rfl, rfl⟩
  | cons time rest ih =>
    have hshift : done ++ time :: rest = done ++ [time] ++ rest := List.append_cons done time rest
    have hlength : (done ++ time :: rest).length = done.length + rest.length + 1 := by simp; omega
    have hl1Next : f.settings.l1StartHeight.toNat +
        done.length / f.settings.l1Interval.toNat < UInt64.size := by
      refine Nat.lt_of_le_of_lt (Nat.add_le_add_left (Nat.div_le_div_right ?_) _) hl1
      omega
    have hidsNext : ((chain (done ++ [time])).map Header.id).Nodup := by
      rw [hshift] at hids
      exact hids.sublist ((chain_prefix_append _ rest).map Header.id).sublist
    obtain ⟨h, g, m, hstep, hchain, hsNext, hsettings, hretention⟩ :=
      hs.step (by omega) hinterval hdepth hl1Next hidsNext
    rw [hshift] at hlen hl1 hids
    rw [← hsettings] at hinterval hdepth hl1
    obtain ⟨made, last, final, hrun, hmade, hsLast, hsettingsLast, hretentionLast⟩ :=
      ih hsNext hlen hinterval hdepth hl1 hids
    refine ⟨h :: made, last, final, ?_, ?_, ?_, hsettingsLast.trans hsettings,
      hretentionLast.trans hretention⟩
    · simp [hstep, hrun]
    · rw [hshift, hmade, hchain, List.append_assoc, List.singleton_append]
    · rw [hshift]
      exact hsLast

/-- The finalized block of a chain is kept if fewer blocks stand above it than headers are kept. -/
lemma mem_rtake_of_depth_lt {hs : List Header} {depth bound : ℕ} (hdepth : depth < bound)
    {h : Header} (hh : hs[hs.length - 1 - depth]? = some h) : h ∈ hs.rtake bound := by
  refine List.mem_of_getElem? (i := hs.length - 1 - depth - (hs.length - bound)) ?_
  rw [List.rtake, List.getElem?_drop, ← hh]
  congr 1
  omega

namespace InStep

variable {f : Follower} {n : Node} {times : List UInt64}

/-- The oldest of the recent ids is that of the finalized block. -/
lemma head?_recent (hs : InStep f n times) :
    f.recent.head? =
      (chain times)[times.length - 1 - f.settings.finalityDepth.toNat]?.map Header.id := by
  have hposition : times.length - (f.settings.finalityDepth.toNat + 1) =
      times.length - 1 - f.settings.finalityDepth.toNat := by omega
  rw [hs.recent_eq, List.rtake, List.head?_drop, List.length_map, length_chain, hposition,
    List.getElem?_map]

/-- A header that the node keeps is found by its id if no two blocks have the same id. -/
lemma withId?_eq_some (hs : InStep f n times) (hids : ((chain times).map Header.id).Nodup)
    {h : Header} (hh : h ∈ n.window.headers) : n.window.withId? h.id = some h := by
  refine (Window.withId?_eq_some_iff hs.tracks.linked_headers).mpr ⟨hh, rfl, ?_⟩
  intro g hg hid
  rw [hs.tracks.eq_of_id_eq hids hg (hs.tracks.mem_of_mem_headers hh) hid]
  exact UInt64.le_refl _

end InStep

/-- Over a fresh node that nobody else reports to, no step of a fresh follower with settings in
order fails, as long as no two blocks have the same id and there are heights for the blocks and for
the L1 blocks.  The answers are the blocks of the chain that the times determine: the block at a
position stands at that height, bears the time there and extends the block before it.  The node
keeps the last of them, as many as it may, and its status names the last block and the one that
stands as far below it as the finality depth says, or the first block; that one is among the
headers kept. -/
theorem stepEach_of_settings_in_order (settings : FollowerSettings) (retention : Retention)
    (network nodeNetwork : String) (times : List UInt64)
    (hsettings : settings.fault? retention.maxHeaders = none)
    (hne : times ≠ []) (hlen : times.length < UInt64.size)
    (hids : ((chain times).map Header.id).Nodup)
    (hl1 : settings.l1StartHeight.toNat + (times.length - 1) / settings.l1Interval.toNat <
      UInt64.size) :
    let blocks := chain times
    let outcome := (Follower.create settings network).stepEach
      (Node.create retention nodeNetwork) times
    let node := outcome.2.2
    outcome.1 = blocks.map .ok ∧ blocks.length = times.length ∧
      (∀ (k : ℕ) (h : Header), blocks[k]? = some h →
        h.index.toNat = k ∧ times[k]? = some h.timestamp) ∧
      (∀ first ∈ blocks.head?, first.parent = .zero) ∧ Linked blocks ∧
      node.window.headers = blocks.rtake (min times.length retention.maxHeaders.toNat) ∧
      ∃ tip finalized, blocks[times.length - 1]? = some tip ∧
        blocks[times.length - 1 - settings.finalityDepth.toNat]? = some finalized ∧
        node.snapshot.client.tip = tip.id ∧
        node.snapshot.client.tipSlot.toNat = times.length - 1 ∧
        node.snapshot.client.finalized = finalized.id ∧
        node.window.withId? finalized.id = some finalized := by
  intro blocks outcome node
  obtain ⟨hinterval, hdepth⟩ := FollowerSettings.fault?_eq_none_iff.mp hsettings
  have hdepthNat := UInt64.lt_iff_toNat_lt.mp hdepth
  have hmax := retention.maxHeaders.toNat_lt
  obtain ⟨made, g, m, hrun, hmade, hs, hsame, hretention⟩ :=
    (InStep.create settings network retention nodeNetwork).stepEach times hlen.le hinterval
      (Nat.lt_of_le_of_lt hdepthNat hmax) hl1 hids
  have hnode : node = m := congrArg (fun r => r.2.2) hrun
  have hmade' : blocks = made := hmade
  have hlength : blocks.length = times.length := length_chain times
  have hpos : 0 < times.length := List.length_pos_iff.mpr hne
  have hbound : m.window.retention = retention.maxHeaders.toNat := by
    rw [hretention]
    exact Retention.bound_of_pos (by omega)
  have hheaders : m.window.headers = blocks.rtake retention.maxHeaders.toNat := by
    rw [← hbound]
    exact hs.tracks.headers_eq
  obtain ⟨tip, htip⟩ : ∃ tip, blocks[times.length - 1]? = some tip :=
    ⟨_, List.getElem?_eq_getElem (by omega)⟩
  obtain ⟨finalized, hfinalized⟩ :
      ∃ finalized, blocks[times.length - 1 - settings.finalityDepth.toNat]? = some finalized :=
    ⟨_, List.getElem?_eq_getElem (by omega)⟩
  have hlast : blocks.getLast? = some tip := by
    rw [List.getLast?_eq_getElem?, hlength, htip]
  have holdest : g.recent.head? = some finalized.id := by
    rw [hs.head?_recent, hsame]
    exact congrArg (Option.map Header.id) hfinalized
  obtain ⟨htipId, hfinalizedId⟩ := hs.published tip hlast
  rw [hnode]
  refine ⟨?_, hlength, ?_, parent_head?_chain times, linked_chain hlen.le, ?_, tip, finalized,
    htip, hfinalized, htipId, hs.slot_eq, ?_, ?_⟩
  · rw [hmade']
    exact congrArg Prod.fst hrun
  · intro k h hk
    exact ⟨toNat_index_of_getElem?_chain hlen.le hk, (getElem?_chainFrom hk).2⟩
  · rw [hheaders, List.rtake, List.rtake, hlength]
    congr 1
    omega
  · rw [hfinalizedId, holdest]
    rfl
  · refine hs.withId?_eq_some hids ?_
    rw [hheaders]
    exact mem_rtake_of_depth_lt hdepthNat (by rwa [hlength])

/-- The theorem at the bound: with a finality depth of one and two headers kept, the third block
drops the first one from both the node and the follower, and the finalized block is the oldest one
kept. -/
theorem stepEach_of_depth_one_and_two_headers :
    let times : List UInt64 := [5, 5, 7]
    let settings : FollowerSettings := ⟨true, 1, 2, 6, 100⟩
    let node := ((Follower.create settings "signet").stepEach
      (Node.create ⟨2, 1⟩ "signet") times).2.2
    ∃ first second third, chain times = [first, second, third] ∧
      node.window.headers = [second, third] ∧ node.snapshot.client.tip = third.id ∧
      node.snapshot.client.finalized = second.id := by
  intro times settings node
  obtain ⟨first, second, third, hchain⟩ :
      ∃ first second third, chain times = [first, second, third] := ⟨_, _, _, rfl⟩
  obtain ⟨-, -, -, -, -, hheaders, tip, finalized, htip, hfinalized, htipId, -, hfinalizedId, -⟩ :=
    stepEach_of_settings_in_order settings ⟨2, 1⟩ "signet" "signet" times rfl (by simp [times])
      (by decide) (by decide +kernel) (by decide)
  rw [hchain] at hheaders htip hfinalized
  obtain rfl : third = tip := Option.some.inj htip
  obtain rfl : second = finalized := Option.some.inj hfinalized
  simp only [node]
  exact ⟨first, second, third, hchain, hheaders.trans rfl, htipId, hfinalizedId⟩

end Follower

end ChainView
