import ChainView.Proofs.Follower.FailStop
import ChainView.Proofs.Follower.L1Views

/-!
# How far a follower can count

A follower counts two chains by words: the next block stands one above the tip, and the next L1
block one above the last.  A step in which one of these additions passes the greatest word ends in
an overflow, wherever it stands (`Follower.step_eq_overflow_iff`).  The first addition cannot do so
in fewer than `2 ^ 64` steps, because the chain begins at height zero.  The second begins at a
height that the settings name, and no bound on this height is asked of settings in order.

`Follower.CountsUp` says that a run counts as it should.  It does if there are heights for the L1
blocks of the run, and if no two blocks have the same id, it does not otherwise: the block that
should bring the L1 block above the greatest height is taken in, and its step ends there.
-/

namespace ChainView

/-- The height of the L1 block that is reported, if one is. -/
def Report.l1Height? : Report → Option UInt64
  | .l1Block height _ => some height
  | _ => none

namespace Follower

/-! ## The additions of a run -/

/-- The height of the tip, to which a step adds one for its block. -/
def tipCounted (f : Follower) (_ : Node) (_ : UInt64) : List UInt64 :=
  (f.tip.map Header.index).toList

/-- The height of the last L1 block, to which a step adds one if its block is taken in and brings
another L1 block. -/
def l1Counted (f : Follower) (n : Node) (time : UInt64) : List UInt64 :=
  match f.nextBlock? time with
  | none => []
  | some h =>
    match (n.takeHeader h).1 with
    | .error _ => []
    | .ok () => if f.bringsL1 h.index then f.l1Height.toList else []

/-- The numbers to which a step adds one. -/
def counted (f : Follower) (n : Node) (time : UInt64) : List UInt64 :=
  f.tipCounted n time ++ f.l1Counted n time

/-- What the steps at a sequence of times give together. -/
def collect {α : Type} (part : Follower → Node → UInt64 → List α) (f : Follower) (n : Node) :
    List UInt64 → List α
  | [] => []
  | time :: rest =>
    part f n time ++ collect part (f.step n time).2.1 (f.step n time).2.2 rest

/-- A run counts as it should. -/
structure CountsUp (f : Follower) (n : Node) (times : List UInt64) : Prop where
  /-- No addition leaves the range of the words. -/
  additions : ∀ x ∈ collect counted f n times, x.toNat + 1 < UInt64.size
  /-- No step ends in an overflow. -/
  returns : .error .overflow ∉ (f.stepEach n times).1
  /-- The L1 blocks are reported at the height of the first one, the next height, and so on. -/
  heights : ∃ count, ((f.reportsOver n times).filterMap Report.l1Height?).map UInt64.toNat =
    List.range' f.settings.l1StartHeight.toNat count
  /-- If steps fail, the first of them does because the node knows its finalized block to be no
  ancestor of its block. -/
  failures : ∀ (made : List Header) (e : StepFault) (later : List (Except StepFault Header)),
    (f.stepEach n times).1 = made.map .ok ++ .error e :: later →
      ∃ finalized tip, e = .refused (.finalizedNotAncestor finalized tip)

section Collect

variable {α : Type} {part other : Follower → Node → UInt64 → List α}

/-- What is collected of two parts is collected of either of them. -/
lemma mem_collect_append_iff {f : Follower} {n : Node} {times : List UInt64} {a : α} :
    a ∈ collect (fun f n time => part f n time ++ other f n time) f n times ↔
      a ∈ collect part f n times ∨ a ∈ collect other f n times := by
  induction times generalizing f n with
  | nil => simp [collect]
  | cons time rest ih =>
    simp only [collect, List.mem_append, ih]
    tauto

end Collect

/-! ## Steps that end in an overflow -/

/-- There is no height for the next L1 block exactly if the last one is at the greatest height. -/
lemma nextL1Height?_eq_none_iff {f : Follower} :
    f.nextL1Height? = none ↔ ∃ x ∈ f.l1Height.toList, x.toNat + 1 = UInt64.size := by
  unfold nextL1Height?
  cases f.l1Height <;> simp [wordAbove?_eq_none_iff]

/-- There is no next block exactly if the tip is at the greatest height. -/
lemma nextBlock?_eq_none_iff {f : Follower} (n : Node) {time : UInt64} :
    f.nextBlock? time = none ↔ ∃ x ∈ f.tipCounted n time, x.toNat + 1 = UInt64.size := by
  rw [nextBlock?, Option.map_eq_none_iff]
  unfold nextIndex? tipCounted
  cases f.tip <;> simp [wordAbove?_eq_none_iff]

/-- A step ends in an overflow exactly if it adds one to the greatest word. -/
lemma step_eq_overflow_iff {f : Follower} {n : Node} {time : UInt64} :
    (f.step n time).1 = .error .overflow ↔
      ∃ x ∈ f.counted n time, x.toNat + 1 = UInt64.size := by
  simp only [counted, List.mem_append, or_and_right, exists_or, ← nextBlock?_eq_none_iff]
  cases hnext : f.nextBlock? time with
  | none => simp [step, hnext]
  | some h =>
    rcases htake : n.takeHeader h with ⟨_ | _, next⟩
    · simp [step, l1Counted, hnext, htake]
    · have hcounted : (∃ x ∈ f.l1Counted n time, x.toNat + 1 = UInt64.size) ↔
          f.overflowsL1 h.index = true := by
        simp only [l1Counted, hnext, htake, overflowsL1, Bool.and_eq_true,
          Option.isNone_iff_eq_none, nextL1Height?_eq_none_iff]
        split <;> simp [*]
      rw [hcounted]
      cases hl1 : f.overflowsL1 h.index with
      | true => simp [step_eq_of_overflowsL1 hnext htake hl1]
      | false =>
        have hbring := f.bringL1?_eq next h.index time
        rw [hl1] at hbring
        rw [step_eq_of_takeHeader hnext htake hbring]
        split <;> simp

/-- A run comes to an overflow exactly if a step of it adds one to the greatest word. -/
lemma overflow_mem_iff {f : Follower} {n : Node} {times : List UInt64} :
    .error .overflow ∈ (f.stepEach n times).1 ↔
      ∃ x ∈ collect counted f n times, x.toNat + 1 = UInt64.size := by
  induction times generalizing f n with
  | nil => simp [stepEach, collect]
  | cons time rest ih =>
    rw [stepEach_cons, List.mem_cons, eq_comm, step_eq_overflow_iff, ih]
    simp only [collect, List.mem_append, or_and_right, exists_or]

/-! ## The heights of the blocks -/

/-- A step leaves the follower on its tip or moves it on to the next block. -/
lemma tip_step (f : Follower) (n : Node) (time : UInt64) :
    (f.step n time).2.1.tip = f.tip ∨ (f.step n time).2.1.tip = f.nextBlock? time := by
  obtain ⟨answer, g, m, hstep⟩ : ∃ answer g m, f.step n time = (answer, g, m) := ⟨_, _, _, rfl⟩
  rw [hstep]
  cases stepsTo_of_step_eq hstep with
  | overflows | headerRefused | l1Overflows => exact .inl rfl
  | statusRefused => exact .inl (f.tip_holding _)
  | made hnext => exact .inr hnext.symm

/-- Heights of blocks stay below the number of steps, over any node. -/
lemma tipCounted_lt {f : Follower} {n : Node} (count : ℕ)
    (htip : ∀ tip ∈ f.tip, tip.index.toNat < count) {times : List UInt64}
    (hlen : count + times.length ≤ UInt64.size) :
    ∀ x ∈ collect tipCounted f n times, x.toNat + 1 < UInt64.size := by
  induction times generalizing f n count with
  | nil => simp [collect]
  | cons time rest ih =>
    rw [List.length_cons] at hlen
    intro x hx
    rcases List.mem_append.mp hx with hx | hx
    · obtain ⟨tip, hmem, rfl⟩ := Option.map_eq_some_iff.mp (Option.mem_toList.mp hx)
      have hlt := htip tip hmem
      omega
    · refine ih (count + 1) ?_ (by omega) x hx
      intro tip hmem
      rcases f.tip_step n time with hsame | hnext
      · rw [hsame] at hmem
        exact Nat.lt_succ_of_lt (htip tip hmem)
      · have hindex := index_nextBlock? (hnext.symm.trans hmem)
        unfold nextIndex? at hindex
        cases hold : f.tip with
        | none =>
          rw [hold] at hindex
          rw [← Option.some.inj hindex]
          exact Nat.succ_pos count
        | some old =>
          rw [hold] at hindex
          have hlt := htip old hold
          rw [wordAbove?_eq_some_iff.mp hindex]
          exact Nat.succ_lt_succ hlt

/-! ## The heights of the L1 blocks -/

/-- As many L1 blocks come with a number of blocks as intervals have gone by, if the next block
brings another. -/
lemma l1CountAfter_of_dvd {s : FollowerSettings} {count : ℕ} (hdvd : s.l1Interval.toNat ∣ count) :
    l1CountAfter s count = count / s.l1Interval.toNat := by
  cases count with
  | zero => simp [l1CountAfter]
  | succ k => exact (Nat.succ_div_of_dvd hdvd).symm

/-- A step from there adds one to a number that leaves room for it, and reports an L1 block exactly
if the interval divides the height of the block, at the height that comes next. -/
lemma InStep.l1_of_step {f : Follower} {n : Node} {done : List UInt64} (hs : InStep f n done)
    (hlen : done.length < UInt64.size) (hinterval : f.settings.l1Interval ≠ 0)
    (hl1 : f.settings.l1StartHeight.toNat + done.length / f.settings.l1Interval.toNat <
      UInt64.size) (time : UInt64) :
    (∀ x ∈ f.l1Counted n time, x.toNat + 1 < UInt64.size) ∧
      ((f.reports n time).filterMap Report.l1Height?).map UInt64.toNat =
        if f.settings.l1Interval.toNat ∣ done.length then
          [f.settings.l1StartHeight.toNat + l1CountAfter f.settings done.length]
        else [] := by
  obtain ⟨h, hnext, -, hindex, htake, -⟩ := hs.takeHeader_nextBlock hlen time
  have hbrings : f.bringsL1 h.index = true ↔ f.settings.l1Interval.toNat ∣ done.length := by
    rw [bringsL1_iff hinterval, hindex]
  by_cases hdvd : f.settings.l1Interval.toNat ∣ done.length
  · obtain ⟨height, hheight, hnat⟩ := exists_nextL1Height? hs.l1Height_eq hdvd hl1
    have hyes := hbrings.mpr hdvd
    refine ⟨fun x hx => ?_, ?_⟩
    · have hmem : x ∈ f.l1Height.toList := by simpa [l1Counted, hnext, htake, hyes] using hx
      have hne : x.toNat + 1 ≠ UInt64.size := fun h =>
        absurd (nextL1Height?_eq_none_iff.mpr ⟨x, hmem, h⟩) (by simp [hheight])
      have hlt : x.toNat < UInt64.size := x.toNat_lt
      omega
    · have hreports : f.reports n time = [.header h, .l1Block height (l1Hash f.l1Tip height),
          .l1Status (f.l1Status height (l1Hash f.l1Tip height) time),
          .status ((f.holding h).status h)] := by
        simp [reports, l1Reports, broughtL1?, nextL1Block?, overflowsL1, hnext, htake, hyes,
          hheight]
      rw [hreports, if_pos hdvd, l1CountAfter_of_dvd hdvd, ← hnat]
      rfl
  · have hno : f.bringsL1 h.index = false := by
      simpa using fun hyes => hdvd (hbrings.mp hyes)
    simp [l1Counted, reports, l1Reports, broughtL1?, overflowsL1, hnext, htake, hno,
      Report.l1Height?, hdvd]

/-- A follower that is left behind counts no L1 blocks and reports none. -/
lemma LeftBehind.no_l1 {f : Follower} {n : Node} {index : UInt64} (hl : LeftBehind f n index)
    (times : List UInt64) :
    collect l1Counted f n times = [] ∧
      (f.reportsOver n times).filterMap Report.l1Height? = [] := by
  induction times generalizing n with
  | nil => exact ⟨rfl, rfl⟩
  | cons time rest ih =>
    obtain ⟨h, e, hnext, htake, -⟩ := hl.takeHeader time
    have hstep : f.step n time = (.error (.refused e), f, { n with halted := true }) := by
      simp [step, hnext, htake]
    obtain ⟨hcounted, hheights⟩ := ih (n := { n with halted := true }) ⟨hl.next_eq, .inl rfl⟩
    simp only [collect, reportsOver, hstep, List.filterMap_append, hheights, List.append_nil]
    exact ⟨by simp [hcounted, l1Counted, hnext, htake],
      by simp [reports, hnext, htake, Report.l1Height?]⟩

/-- A run that begins in step counts the L1 blocks as it should, as long as there are heights for
them. -/
lemma InStep.countsL1 {f : Follower} {n : Node} {done : List UInt64} (hs : InStep f n done)
    (rest : List UInt64) (hlen : (done ++ rest).length ≤ UInt64.size)
    (hinterval : f.settings.l1Interval ≠ 0)
    (hdepth : f.settings.finalityDepth.toNat + 1 < UInt64.size)
    (hl1 : f.settings.l1StartHeight.toNat +
      ((done ++ rest).length - 1) / f.settings.l1Interval.toNat < UInt64.size) :
    (∀ x ∈ collect l1Counted f n rest, x.toNat + 1 < UInt64.size) ∧
      (∃ count, ((f.reportsOver n rest).filterMap Report.l1Height?).map UInt64.toNat =
        List.range' (f.settings.l1StartHeight.toNat + l1CountAfter f.settings done.length)
          count) ∧
      ∀ (made : List Header) (e : StepFault) (later : List (Except StepFault Header)),
        (f.stepEach n rest).1 = made.map .ok ++ .error e :: later →
          ∃ finalized tip, e = .refused (.finalizedNotAncestor finalized tip) := by
  -- Each step moves a time over from the ones that are left to the ones that are done.
  induction rest generalizing f n done with
  | nil => exact ⟨by simp [collect], ⟨0, rfl⟩, by simp [Follower.stepEach]⟩
  | cons time rest ih =>
    have hshift : done ++ time :: rest = done ++ [time] ++ rest := List.append_cons done time rest
    have hlength : (done ++ time :: rest).length = done.length + rest.length + 1 := by simp; omega
    have hl1Next : f.settings.l1StartHeight.toNat +
        done.length / f.settings.l1Interval.toNat < UInt64.size := by
      refine Nat.lt_of_le_of_lt (Nat.add_le_add_left (Nat.div_le_div_right ?_) _) hl1
      omega
    obtain ⟨hfirst, hblock⟩ := hs.l1_of_step (by omega) hinterval hl1Next time
    obtain ⟨h, -, ⟨m, s, -, -, -, hanswer⟩ | ⟨g, m, hstep, hsNext, hsettings, -⟩⟩ :=
      hs.step_cases (by omega) hinterval hdepth hl1Next time
    · obtain ⟨g, m, hstep⟩ : ∃ g m, f.step n time =
          (.error (.refused (.finalizedNotAncestor s.finalized s.tip)), g, m) :=
        ⟨_, _, Prod.ext hanswer rfl⟩
      have hleft := (leftBehind_of_error (hs.nextIndex?_eq (by omega))
        ((f.step_eq_stepAmid n time).symm.trans hstep)).2
      obtain ⟨hcounted, hheights⟩ := hleft.no_l1 rest
      simp only [collect, reportsOver, hstep, hcounted, hheights, List.append_nil,
        List.filterMap_append, hblock, stepEach_cons]
      refine ⟨hfirst, ?_, ?_⟩
      · split
        · exact ⟨1, rfl⟩
        · exact ⟨0, rfl⟩
      · intro made e later hanswers
        cases made with
        | nil => exact ⟨_, _, (Except.error.inj (List.cons.inj hanswers).1).symm⟩
        | cons b made => cases (List.cons.inj hanswers).1
    · rw [hshift] at hlen hl1
      rw [← hsettings] at hinterval hdepth hl1
      obtain ⟨hlater, ⟨count, hheights⟩, hfailures⟩ := ih hsNext hlen hinterval hdepth hl1
      rw [hsettings, List.length_append, List.length_singleton, l1CountAfter_succ] at hheights
      simp only [collect, reportsOver, hstep, List.filterMap_append, List.map_append, hblock,
        hheights, stepEach_cons, List.forall_mem_append]
      refine ⟨⟨hfirst, hlater⟩, ?_, ?_⟩
      · split
        · exact ⟨count + 1, by rw [List.range'_succ, Nat.add_assoc]; rfl⟩
        · exact ⟨count, rfl⟩
      · intro made e later hanswers
        cases made with
        | nil => cases (List.cons.inj hanswers).1
        | cons b made => exact hfailures made e later (List.cons.inj hanswers).2

/-! ## Whole runs -/

/-- A run counts as it should as long as there are heights for the L1 blocks. -/
lemma countsUp_of_heights {settings : FollowerSettings} {retention : Retention}
    {network nodeNetwork : String} {times : List UInt64}
    (hsettings : settings.fault? retention.maxHeaders = none) (hlen : times.length < UInt64.size)
    (hl1 : settings.l1StartHeight.toNat + (times.length - 1) / settings.l1Interval.toNat <
      UInt64.size) :
    CountsUp (create settings network) (Node.create retention nodeNetwork) times := by
  obtain ⟨hinterval, hbound⟩ := FollowerSettings.bounds_of_fault?_eq_none hsettings
  obtain ⟨hcounted, hheights, hfailures⟩ :=
    (InStep.create settings network retention nodeNetwork).countsL1 times hlen.le hinterval hbound
      hl1
  have hadditions : ∀ x ∈ collect counted (create settings network)
      (Node.create retention nodeNetwork) times, x.toNat + 1 < UInt64.size := by
    intro x hx
    rcases mem_collect_append_iff.mp hx with htip | hl1Counted
    · exact tipCounted_lt 0 (by simp [create]) (by omega) x htip
    · exact hcounted x hl1Counted
  refine ⟨hadditions, fun hover => ?_, hheights, hfailures⟩
  obtain ⟨x, hx, hgreatest⟩ := overflow_mem_iff.mp hover
  exact absurd hgreatest (hadditions x hx).ne

/-- The block that should bring the L1 block above the greatest height is not the first one, and the
last L1 block before it stands at the greatest height. -/
lemma heights_used_up {s : FollowerSettings} (hinterval : s.l1Interval ≠ 0) :
    let position := s.l1Interval.toNat * (UInt64.size - s.l1StartHeight.toNat)
    0 < position ∧
      s.l1StartHeight.toNat + (position - 1) / s.l1Interval.toNat + 1 = UInt64.size := by
  intro position
  have hstart : s.l1StartHeight.toNat < UInt64.size := s.l1StartHeight.toNat_lt
  have hinterval' : 0 < s.l1Interval.toNat :=
    Nat.pos_of_ne_zero fun h => hinterval (UInt64.toNat_inj.mp h)
  have hpos : 0 < position := Nat.mul_pos hinterval' (by omega)
  have hdiv : (position - 1) / s.l1Interval.toNat =
      UInt64.size - s.l1StartHeight.toNat - (0 / s.l1Interval.toNat + 1) :=
    Nat.mul_sub_div 0 _ _ hpos
  rw [Nat.zero_div, Nat.zero_add] at hdiv
  exact ⟨hpos, by omega⟩

/-- The header of the block that should bring the L1 block above the greatest height is taken in,
and its step ends there. -/
lemma InStep.step_overflows {f : Follower} {n : Node} {done : List UInt64} (hs : InStep f n done)
    (hinterval : f.settings.l1Interval ≠ 0) (hlen : done.length < UInt64.size)
    (hdone : done.length =
      f.settings.l1Interval.toNat * (UInt64.size - f.settings.l1StartHeight.toNat))
    (time : UInt64) :
    ∃ h, chain (done ++ [time]) = chain done ++ [h] ∧
      f.step n time = (.error .overflow, f, { n with window := n.window.push h }) := by
  obtain ⟨hcount, hlast⟩ := heights_used_up hinterval
  rw [← hdone] at hcount hlast
  obtain ⟨h, hnext, hchain, hindex, htake, -⟩ := hs.takeHeader_nextBlock hlen time
  have hbrings : f.bringsL1 h.index = true := by
    rw [bringsL1_iff hinterval, hindex, hdone]
    exact Nat.dvd_mul_right _ _
  have hheight := hs.l1Height_eq
  rw [l1HeightAfter, if_neg hcount.ne'] at hheight
  obtain ⟨greatest, hgreatest, hnat⟩ := Option.map_eq_some_iff.mp hheight
  have hnone : f.nextL1Height? = none :=
    nextL1Height?_eq_none_iff.mpr ⟨greatest, Option.mem_toList.mpr hgreatest, by omega⟩
  exact ⟨h, hchain, step_eq_of_overflowsL1 hnext htake (by simp [overflowsL1, hbrings, hnone])⟩

/-- If no two blocks have the same id and there are not heights for all L1 blocks, then a run makes
the blocks up to the one that should bring the L1 block above the greatest height. -/
lemma exists_overflow {settings : FollowerSettings} {retention : Retention}
    (network nodeNetwork : String) {times : List UInt64}
    (hsettings : settings.fault? retention.maxHeaders = none) (hlen : times.length < UInt64.size)
    (hids : ((chain times).map Header.id).Nodup)
    (hmissing : UInt64.size ≤
      settings.l1StartHeight.toNat + (times.length - 1) / settings.l1Interval.toNat) :
    ∃ before time after h, times = before ++ time :: after ∧
      before.length =
        settings.l1Interval.toNat * (UInt64.size - settings.l1StartHeight.toNat) ∧
      chain (before ++ [time]) = chain before ++ [h] ∧
      let behind := (create settings network).stepEach (Node.create retention nodeNetwork) before
      behind.1 = (chain before).map .ok ∧
        behind.2.1.step behind.2.2 time =
          (.error .overflow, behind.2.1,
            { behind.2.2 with window := behind.2.2.window.push h }) := by
  obtain ⟨hinterval, hbound⟩ := FollowerSettings.bounds_of_fault?_eq_none hsettings
  have hstart : settings.l1StartHeight.toNat < UInt64.size := settings.l1StartHeight.toNat_lt
  obtain ⟨hlt, hlast⟩ := heights_used_up hinterval
  -- The L1 block that comes with the block at this position is the one without a height.
  obtain ⟨position, hposition⟩ : ∃ position, position =
      settings.l1Interval.toNat * (UInt64.size - settings.l1StartHeight.toNat) := ⟨_, rfl⟩
  rw [← hposition] at hlt hlast
  have hle : position ≤ times.length - 1 := by
    rw [hposition, Nat.mul_comm]
    exact Nat.mul_le_of_le_div _ _ _ (by omega)
  have hsplit : times = times.take position ++ times[position] :: times.drop (position + 1) := by
    rw [← List.drop_eq_getElem_cons, List.take_append_drop]
  have hdone : ([] ++ times.take position).length = position := by
    rw [List.nil_append, List.length_take]
    omega
  have hbefore : settings.l1StartHeight.toNat +
      (position - 1) / settings.l1Interval.toNat < UInt64.size := by omega
  have hidsBefore : ((chain ([] ++ times.take position)).map Header.id).Nodup := by
    rw [hsplit] at hids
    exact hids.sublist ((chain_prefix_append _ _).map Header.id).sublist
  obtain ⟨made, g, m, hrun, hmade, hs, hsame, -⟩ :=
    (InStep.create settings network retention nodeNetwork).stepEach (times.take position)
      (by omega) hinterval hbound (by rwa [hdone]) hidsBefore
  rw [List.nil_append] at hs hdone
  obtain ⟨h, hchain, hstep⟩ := hs.step_overflows (by rwa [hsame]) (by omega)
    (by rw [hsame, hdone]; exact hposition) times[position]
  refine ⟨_, _, _, h, hsplit, hdone.trans hposition, hchain, ?_⟩
  have hmade' : chain (times.take position) = made := hmade
  rw [hrun, hmade']
  exact ⟨rfl, hstep⟩

/-- **How far a follower counts.**  Let a fresh follower with settings in order make blocks over a
fresh node to which nobody else reports, in fewer than `2 ^ 64` steps.  A step ends in an overflow
exactly if it adds one to the greatest word.  No height of a block leaves the range of the words.
If there are heights for the L1 blocks, then no height of an L1 block does either: no step ends in
an overflow, the L1 blocks are reported at the height of the first one, the next height, and so on,
and the first step that fails, if one does, fails because the node knows the finalized block to be
no ancestor of the new one.

If no two blocks have the same id, the run counts as it should only then.  Otherwise it makes the
blocks below the one that should bring the L1 block above the greatest height.  The header of that
one is taken in as well, and its step ends in an overflow there, with nothing of the L1 block or of
the status reported and the follower on the block before. -/
theorem countsUp_iff_heights (settings : FollowerSettings) (retention : Retention)
    (network nodeNetwork : String) (times : List UInt64)
    (hsettings : settings.fault? retention.maxHeaders = none)
    (hlen : times.length < UInt64.size) :
    let f := create settings network
    let n := Node.create retention nodeNetwork
    let answers := (f.stepEach n times).1
    let start := settings.l1StartHeight.toNat
    let interval := settings.l1Interval.toNat
    let heights := start + (times.length - 1) / interval < UInt64.size
    (.error .overflow ∈ answers ↔ ∃ x ∈ collect counted f n times, x.toNat + 1 = UInt64.size) ∧
      (∀ x ∈ collect tipCounted f n times, x.toNat + 1 < UInt64.size) ∧
      (heights → CountsUp f n times) ∧
      (((chain times).map Header.id).Nodup →
        (CountsUp f n times ↔ heights) ∧ (.error .overflow ∈ answers ↔ ¬ heights) ∧
          (¬ heights → ∃ before time after h, times = before ++ time :: after ∧
            before.length = interval * (UInt64.size - start) ∧
            chain (before ++ [time]) = chain before ++ [h] ∧
            let behind := f.stepEach n before
            behind.1 = (chain before).map .ok ∧
              behind.2.1.step behind.2.2 time =
                (.error .overflow, behind.2.1,
                  { behind.2.2 with window := behind.2.2.window.push h }))) := by
  intro f n answers start interval heights
  have htip : ∀ tip ∈ f.tip, tip.index.toNat < 0 := by simp [f, create]
  have hcountsUp : heights → CountsUp f n times := countsUp_of_heights hsettings hlen
  refine ⟨overflow_mem_iff, tipCounted_lt 0 htip (by omega), hcountsUp, fun hids => ?_⟩
  have hends (hmissing : ¬ heights) :=
    exists_overflow network nodeNetwork hsettings hlen hids (Nat.le_of_not_lt hmissing)
  have hover : ¬ heights → .error .overflow ∈ answers := by
    intro hmissing
    obtain ⟨before, time, after, h, hsplit, -, -, -, hstep⟩ := hends hmissing
    simp only [answers, hsplit]
    rw [stepEach_append, stepEach_cons, hstep]
    exact List.mem_append_right _ List.mem_cons_self
  refine ⟨⟨fun hcounts => ?_, hcountsUp⟩, ⟨fun hmem hheights => ?_, hover⟩, hends⟩
  · by_contra hmissing
    exact hcounts.returns (hover hmissing)
  · exact (hcountsUp hheights).returns hmem

/-- From the height below the greatest one on there are heights for two L1 blocks, and not for
three. -/
theorem countsUp_to_greatest_height :
    let f := create ⟨true, 1, 1, 6, 18446744073709551614⟩ "signet"
    let n := Node.create ⟨2, 1⟩ "signet"
    CountsUp f n [5, 5] ∧ ¬ CountsUp f n [5, 5, 7] ∧
      .error .overflow ∈ (f.stepEach n [5, 5, 7]).1 := by
  intro f n
  obtain ⟨-, -, htwo, -⟩ := countsUp_iff_heights ⟨true, 1, 1, 6, 18446744073709551614⟩ ⟨2, 1⟩
    "signet" "signet" [5, 5] rfl (by decide)
  obtain ⟨-, -, -, hthree⟩ := countsUp_iff_heights ⟨true, 1, 1, 6, 18446744073709551614⟩ ⟨2, 1⟩
    "signet" "signet" [5, 5, 7] rfl (by decide)
  obtain ⟨hcounts, hover, -⟩ := hthree (by decide +kernel)
  exact ⟨htwo (by decide), fun h => absurd (hcounts.mp h) (by decide), hover.mpr (by decide)⟩

/-- Settings in order may name the greatest height for the first L1 block.  The second step finds no
height for the next one and ends in an overflow. -/
theorem not_countsUp_from_greatest_height :
    let settings : FollowerSettings := ⟨true, 4, 1, 6, 18446744073709551615⟩
    let f := create settings "signet"
    let n := Node.create .standard "signet"
    settings.fault? Retention.standard.maxHeaders = none ∧
      (f.reportsOver n [1, 2]).filterMap Report.l1Height? = [18446744073709551615] ∧
      (f.stepEach n [1, 2]).1.getLast? = some (.error .overflow) ∧ ¬ CountsUp f n [1, 2] := by
  intro settings f n
  have hlast : (f.stepEach n [1, 2]).1.getLast? = some (.error .overflow) := by decide +kernel
  exact ⟨rfl, by decide +kernel, hlast, fun h => h.returns (List.mem_of_getLast? hlast)⟩

end Follower

end ChainView
