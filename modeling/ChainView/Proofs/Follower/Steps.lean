import ChainView.Proofs.Follower.Run
import ChainView.Proofs.Node.Transition

/-!
# What a step of a follower does

A step reports a header, then the L1 block that comes with it, if one does, and last the status of
the chain.  It can be refused at the header and at the status only, and a height can overflow before
the header or behind it, so it ends in one of five ways, which `Follower.StepsTo` lists.  Other
followers may report to the same node in the course of a step.  `Follower.stepAmid` is a step for
which it is left open what the node takes in between the header and the status; with the L1 reports
of the follower there and nothing else it is a step as such.

What a step does to the node is no more than that the node takes in its reports, and so the node
that a run leads to is the one that the reports of the run lead to
(`Follower.ingestAll_reportsOver`).
-/

namespace ChainView

/-- A header is either refused, which sets the latch, or put on top of the newest one. -/
lemma Node.takeHeader_cases (n : Node) (h : Header) :
    (∃ e, n.takeHeader h = (.error e, { n with halted := true }) ∧
        (e = .halted ∨ ∃ d, e = .discontinuity d)) ∨
      n.halted = false ∧ (∀ newest ∈ n.window.newest?, h.extends? newest = true) ∧
        n.takeHeader h = (.ok (), { n with window := n.window.push h }) := by
  cases hhalted : n.halted with
  | true =>
    have hsame : { n with halted := true } = n := by
      rw [← hhalted]
    exact .inl ⟨.halted, by simp [takeHeader, hhalted, hsame], .inl rfl⟩
  | false =>
    cases happend : n.window.append h with
    | error d =>
      exact .inl ⟨.discontinuity d, by simp [takeHeader, hhalted, happend], .inr ⟨d, rfl⟩⟩
    | ok w =>
      obtain ⟨hext, rfl⟩ := Window.append_eq_ok_iff.mp happend
      exact .inr ⟨rfl, hext, by simp [takeHeader, hhalted, happend]⟩

namespace Follower

/-! ## The parts of a step -/

/-- The next block stands at the next height. -/
lemma index_nextBlock? {f : Follower} {time : UInt64} {h : Header}
    (hnext : f.nextBlock? time = some h) : f.nextIndex? = some h.index := by
  obtain ⟨index, hindex, rfl⟩ := Option.map_eq_some_iff.mp hnext
  exact hindex

/-- The next L1 block, if there is a height for it. -/
def nextL1Block? (f : Follower) : Option (UInt64 × Digest) :=
  f.nextL1Height?.map fun height => (height, l1Hash f.l1Tip height)

/-- The L1 block that comes with the block at a height, if one does and there is a height for it. -/
def broughtL1? (f : Follower) (index : UInt64) : Option (UInt64 × Digest) :=
  if f.bringsL1 index then f.nextL1Block? else none

/-- Whether there is no height for the L1 block that comes with the block at a height. -/
def overflowsL1 (f : Follower) (index : UInt64) : Bool :=
  f.bringsL1 index && f.nextL1Height?.isNone

/-- A block that brings no L1 block comes without one. -/
lemma broughtL1?_of_not_bringsL1 {f : Follower} {index : UInt64}
    (hno : f.bringsL1 index = false) : f.broughtL1? index = none := by
  simp [broughtL1?, hno]

/-- A block whose L1 block has no height comes without one. -/
lemma broughtL1?_of_overflowsL1 {f : Follower} {index : UInt64}
    (hl1 : f.overflowsL1 index = true) : f.broughtL1? index = none := by
  obtain ⟨hbrings, hnone⟩ := Bool.and_eq_true_iff.mp hl1
  simp [broughtL1?, nextL1Block?, hbrings, Option.isNone_iff_eq_none.mp hnone]

/-- If no height overflows, a block that brings an L1 block brings the next one. -/
lemma exists_broughtL1? {f : Follower} {index : UInt64} (hbrings : f.bringsL1 index = true)
    (hl1 : f.overflowsL1 index = false) :
    ∃ height, f.nextL1Height? = some height ∧
      f.broughtL1? index = some (height, l1Hash f.l1Tip height) := by
  cases hheight : f.nextL1Height? with
  | none => simp [overflowsL1, hbrings, hheight] at hl1
  | some height => exact ⟨height, rfl, by simp [broughtL1?, nextL1Block?, hbrings, hheight]⟩

/-- The reports of the L1 block that comes with the block at a height. -/
def l1Reports (f : Follower) (index time : UInt64) : List Report :=
  match f.broughtL1? index with
  | some (height, hash) => [.l1Block height hash, .l1Status (f.l1Status height hash time)]
  | none => []

/-- The follower with the L1 block that comes with the block at a height. -/
def withL1 (f : Follower) (index : UInt64) : Follower :=
  match f.broughtL1? index with
  | some (height, hash) => { f with l1Height := some height, l1Tip := hash }
  | none => f

/-- The follower with the L1 block and the id of a block, which is not its tip yet. -/
def holding (f : Follower) (h : Header) : Follower :=
  (f.withL1 h.index).keepId h.id

/-- The L1 block that comes with a block is told to the node by its reports, if there is a height
for it. -/
lemma bringL1?_eq (f : Follower) (n : Node) (index time : UInt64) :
    f.bringL1? n index time =
      if f.overflowsL1 index then none
      else some (f.withL1 index, (n.ingestAll (f.l1Reports index time)).2) := by
  cases hbrings : f.bringsL1 index with
  | false => simp [bringL1?, overflowsL1, withL1, l1Reports, broughtL1?, hbrings]
  | true =>
    cases hheight : f.nextL1Height? <;>
      simp [bringL1?, overflowsL1, withL1, l1Reports, broughtL1?, nextL1Block?, hbrings, hheight,
        Node.ingest]

/-- There are no reports of an L1 block without a height. -/
lemma l1Reports_of_overflowsL1 {f : Follower} {index : UInt64}
    (hl1 : f.overflowsL1 index = true) (time : UInt64) : f.l1Reports index time = [] := by
  rw [l1Reports, broughtL1?_of_overflowsL1 hl1]

/-- A step whose header is taken in and whose L1 block has no height ends there. -/
lemma step_eq_of_overflowsL1 {f : Follower} {n next : Node} {time : UInt64} {h : Header}
    (hnext : f.nextBlock? time = some h) (htake : n.takeHeader h = (.ok (), next))
    (hl1 : f.overflowsL1 h.index = true) : f.step n time = (.error .overflow, f, next) := by
  simp [step, hnext, htake, bringL1?_eq, hl1]

/-- An L1 block does not change the tip of the follower. -/
@[simp] lemma tip_withL1 (f : Follower) (index : UInt64) : (f.withL1 index).tip = f.tip := by
  unfold withL1
  split <;> rfl

/-- A block that the follower holds does not change its tip. -/
@[simp] lemma tip_holding (f : Follower) (h : Header) : (f.holding h).tip = f.tip :=
  f.tip_withL1 h.index

/-! ## A step in the course of which others report -/

/-- Makes the next block at a time and reports it, while `between` is what the node takes in between
the header and the status: the L1 reports of the follower and whatever others report. -/
def stepAmid (f : Follower) (n : Node) (time : UInt64) (between : List Report) :
    Except StepFault Header × Follower × Node :=
  match f.nextBlock? time with
  | none => (.error .overflow, f, n)
  | some h =>
    match n.takeHeader h with
    | (.error e, n) => (.error (.refused e), f, n)
    | (.ok (), n) =>
      let n := (n.ingestAll between).2
      if f.overflowsL1 h.index then (.error .overflow, f, n)
      else
        match n.takeStatus ((f.holding h).status h) with
        | .error e => (.error (.refused e), f.holding h, n)
        | .ok n => (.ok h, { f.holding h with tip := some h }, n)

/-- The L1 reports of the next step. -/
def ownReports (f : Follower) (time : UInt64) : List Report :=
  match f.nextBlock? time with
  | some h => f.l1Reports h.index time
  | none => []

/-- The L1 reports of a step are those that come with its block. -/
lemma ownReports_eq {f : Follower} {time : UInt64} {h : Header}
    (hnext : f.nextBlock? time = some h) : f.ownReports time = f.l1Reports h.index time := by
  rw [ownReports, hnext]

/-- If no one else reports, a step is just a step. -/
lemma step_eq_stepAmid (f : Follower) (n : Node) (time : UInt64) :
    f.step n time = f.stepAmid n time (f.ownReports time) := by
  cases hnext : f.nextBlock? time with
  | none => simp [step, stepAmid, hnext]
  | some h =>
    rcases htake : n.takeHeader h with ⟨_ | _, next⟩
    · simp [step, stepAmid, hnext, htake]
    · have hbring := f.bringL1?_eq next h.index time
      cases hoverflows : f.overflowsL1 h.index with
      | true =>
        simp [step, stepAmid, ownReports_eq hnext, hnext, htake, hbring, hoverflows,
          l1Reports_of_overflowsL1]
      | false =>
        simp only [step, stepAmid, ownReports_eq hnext, hnext, htake, hbring, hoverflows]
        rfl

/-- The ways in which a step can end: the answer, the follower and the node behind it. -/
inductive StepsTo (f : Follower) (n : Node) (time : UInt64) (between : List Report) :
    Except StepFault Header → Follower → Node → Prop
  /-- There is no height for the block. -/
  | overflows (hnext : f.nextBlock? time = none) : StepsTo f n time between (.error .overflow) f n
  /-- The header is refused. -/
  | headerRefused {h : Header} {e : ReportFault} {next : Node}
      (hnext : f.nextBlock? time = some h) (htake : n.takeHeader h = (.error e, next)) :
      StepsTo f n time between (.error (.refused e)) f next
  /-- The header is taken in, and there is no height for the L1 block. -/
  | l1Overflows {h : Header} {next : Node} (hnext : f.nextBlock? time = some h)
      (htake : n.takeHeader h = (.ok (), next)) (hl1 : f.overflowsL1 h.index = true) :
      StepsTo f n time between (.error .overflow) f (next.ingestAll between).2
  /-- The header is taken in, and the status is refused. -/
  | statusRefused {h : Header} {e : ReportFault} {next : Node}
      (hnext : f.nextBlock? time = some h) (htake : n.takeHeader h = (.ok (), next))
      (hl1 : f.overflowsL1 h.index = false)
      (hstatus : (next.ingestAll between).2.takeStatus ((f.holding h).status h) = .error e) :
      StepsTo f n time between (.error (.refused e)) (f.holding h) (next.ingestAll between).2
  /-- Both are taken in. -/
  | made {h : Header} {next last : Node} (hnext : f.nextBlock? time = some h)
      (htake : n.takeHeader h = (.ok (), next)) (hl1 : f.overflowsL1 h.index = false)
      (hstatus : (next.ingestAll between).2.takeStatus ((f.holding h).status h) = .ok last) :
      StepsTo f n time between (.ok h) { f.holding h with tip := some h } last

/-- A step ends in one of these ways. -/
lemma stepsTo_stepAmid (f : Follower) (n : Node) (time : UInt64) (between : List Report) :
    f.StepsTo n time between (f.stepAmid n time between).1 (f.stepAmid n time between).2.1
      (f.stepAmid n time between).2.2 := by
  cases hnext : f.nextBlock? time with
  | none =>
    simp only [stepAmid, hnext]
    exact .overflows hnext
  | some h =>
    rcases htake : n.takeHeader h with ⟨_ | _, next⟩
    · simp only [stepAmid, hnext, htake]
      exact .headerRefused hnext htake
    · cases hl1 : f.overflowsL1 h.index with
      | true =>
        simp only [stepAmid, hnext, htake, hl1, if_true]
        exact .l1Overflows hnext htake hl1
      | false =>
        cases hstatus : (next.ingestAll between).2.takeStatus ((f.holding h).status h) with
        | error e =>
          simp only [stepAmid, hnext, htake, hl1, hstatus, Bool.false_eq_true, if_false]
          exact .statusRefused hnext htake hl1 hstatus
        | ok last =>
          simp only [stepAmid, hnext, htake, hl1, hstatus, Bool.false_eq_true, if_false]
          exact .made hnext htake hl1 hstatus

/-- What a step leads to is one of these ends. -/
lemma stepsTo_of_stepAmid_eq {f g : Follower} {n m : Node} {time : UInt64} {between : List Report}
    {answer : Except StepFault Header} (h : f.stepAmid n time between = (answer, g, m)) :
    f.StepsTo n time between answer g m := by
  have hends := f.stepsTo_stepAmid n time between
  rwa [h] at hends

/-- A step over a node to which no one else reports ends in one of these ways. -/
lemma stepsTo_of_step_eq {f g : Follower} {n m : Node} {time : UInt64}
    {answer : Except StepFault Header} (h : f.step n time = (answer, g, m)) :
    f.StepsTo n time (f.ownReports time) answer g m :=
  stepsTo_of_stepAmid_eq ((f.step_eq_stepAmid n time).symm.trans h)

/-! ## The reports of a run -/

/-- The reports of a step: there are none without a height for the block, and no more behind a
header that the node refuses or in front of an L1 block that has no height. -/
def reports (f : Follower) (n : Node) (time : UInt64) : List Report :=
  match f.nextBlock? time with
  | none => []
  | some h =>
    match (n.takeHeader h).1 with
    | .error _ => [.header h]
    | .ok () =>
      if f.overflowsL1 h.index then [.header h]
      else .header h :: (f.l1Reports h.index time ++ [.status ((f.holding h).status h)])

/-- The reports of the steps at a sequence of times. -/
def reportsOver (f : Follower) (n : Node) : List UInt64 → List Report
  | [] => []
  | time :: rest =>
    f.reports n time ++ (f.step n time).2.1.reportsOver (f.step n time).2.2 rest

/-- The node behind a step is the one that the reports of the step lead to. -/
lemma ingestAll_reports (f : Follower) (n : Node) (time : UInt64) :
    (n.ingestAll (f.reports n time)).2 = (f.step n time).2.2 := by
  have hheader (h : Header) : (n.ingest (.header h)).2 = (n.takeHeader h).2 := by
    rcases htake : n.takeHeader h with ⟨_ | _, next⟩ <;> simp [Node.ingest, htake]
  obtain ⟨answer, g, m, hstep⟩ : ∃ answer g m, f.step n time = (answer, g, m) := ⟨_, _, _, rfl⟩
  rw [hstep]
  cases stepsTo_of_step_eq hstep with
  | overflows hnext => simp [reports, hnext]
  | headerRefused hnext htake => simp [reports, hnext, htake, hheader]
  | l1Overflows hnext htake hl1 =>
    simp [reports, ownReports_eq hnext, hnext, htake, hl1, hheader, l1Reports_of_overflowsL1]
  | statusRefused hnext htake hl1 hstatus =>
    rw [ownReports_eq hnext] at hstatus ⊢
    simp [reports, hnext, htake, hl1, Node.ingestAll_append, Node.ingest, hstatus]
  | made hnext htake hl1 hstatus =>
    rw [ownReports_eq hnext] at hstatus
    simp [reports, hnext, htake, hl1, Node.ingestAll_append, Node.ingest, hstatus]

/-- The node behind a run is the one that the reports of the run lead to. -/
lemma ingestAll_reportsOver (f : Follower) (n : Node) (times : List UInt64) :
    (n.ingestAll (f.reportsOver n times)).2 = (f.stepEach n times).2.2 := by
  induction times generalizing f n with
  | nil => rfl
  | cons time rest ih =>
    rw [reportsOver, Node.ingestAll_append, ingestAll_reports, ih]
    rfl

end Follower

end ChainView
