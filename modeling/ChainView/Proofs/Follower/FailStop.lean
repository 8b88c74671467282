import ChainView.Proofs.Follower.Steps
import ChainView.Proofs.Node.Latch

/-!
# A follower does not recover from a failed step

A step that is refused leaves the follower on its last block, while the node may have taken in the
header of the new one.  It does not come to a second try.  The follower is then *left behind*: the
node takes in no header any more, or its newest header stands at the height of the next block of the
follower or above.  Nothing that is reported to the node undoes this, since the latch is never
cleared and the newest header only rises.  And a follower that is left behind is refused at the
header of its next block, which sets the latch.

A step that finds no height for its L1 block leaves the follower behind too, as its header was taken
in before that.

None of this depends on how the follower and the node came to be where they are, nor on what others
report to the node, between the steps of the follower or in the course of them.
-/

namespace ChainView

/-- The newest header of a node does not fall. -/
lemma Node.Transition.exists_newest {n next : Node} {r : Report}
    {answer : Except ReportFault Receipt} (ht : n.Transition r answer next) {newest : Header}
    (hnewest : n.window.newest? = some newest) :
    ∃ h, next.window.newest? = some h ∧ newest.index ≤ h.index := by
  cases ht with
  | headerTaken h w _ hwindow =>
    obtain ⟨hext, rfl⟩ := Window.append_eq_ok_iff.mp hwindow
    have hlt := Header.index_lt_of_extends? (hext newest hnewest)
    exact ⟨h, n.window.newest?_push h, UInt64.le_of_lt hlt⟩
  | statusTaken | statusRefuted | statusRegressed | l1StatusTaken | headerRefused | headerIgnored
  | l1BlockTaken => exact ⟨newest, hnewest, UInt64.le_refl _⟩

namespace Follower

/-- A follower is left behind by a node at the height of its next block: the node takes in no
header, or has one at this height or above. -/
structure LeftBehind (f : Follower) (n : Node) (index : UInt64) : Prop where
  /-- The next block stands at this height. -/
  next_eq : f.nextIndex? = some index
  /-- The latch is set, or the newest header is too high. -/
  behind : n.halted = true ∨ ∃ newest, n.window.newest? = some newest ∧ index ≤ newest.index

namespace LeftBehind

variable {f g : Follower} {n : Node} {index : UInt64}

/-- All that matters of the follower is its tip. -/
lemma congr (hl : LeftBehind f n index) (htip : g.tip = f.tip) : LeftBehind g n index where
  next_eq := by
    rw [nextIndex?, htip]
    exact hl.next_eq
  behind := hl.behind

/-- A follower that is left behind stays so, whatever is reported to the node. -/
lemma ingestAll (hl : LeftBehind f n index) (rs : List Report) :
    LeftBehind f (n.ingestAll rs).2 index := by
  have hstep : ∀ m r answer next, LeftBehind f m index → m.Transition r answer next →
      LeftBehind f next index := by
    intro m r answer next hm ht
    refine ⟨hm.next_eq, ?_⟩
    rcases hm.behind with hhalted | ⟨newest, hnewest, hle⟩
    · exact .inl (ht.halted_iff.mpr (.inl hhalted))
    · obtain ⟨h, hh, hrise⟩ := ht.exists_newest hnewest
      exact .inr ⟨h, hh, UInt64.le_trans hle hrise⟩
  exact Node.ingestAll_induction hstep hl rs

/-- There is a next block of a follower that is left behind, and the node refuses its header.  That
changes nothing but the latch, which is set behind it. -/
lemma takeHeader (hl : LeftBehind f n index) (time : UInt64) :
    ∃ h e, f.nextBlock? time = some h ∧ n.takeHeader h = (.error e, { n with halted := true }) ∧
      (e = .halted ∨ ∃ d, e = .discontinuity d) := by
  have hnext : f.nextBlock? time = some (block f.parentId index time) := by
    rw [nextBlock?, hl.next_eq]
    rfl
  rcases n.takeHeader_cases (block f.parentId index time) with ⟨e, htake, he⟩ | ⟨hrunning, hext, -⟩
  · exact ⟨_, e, hnext, htake, he⟩
  · rcases hl.behind with hhalted | ⟨newest, hnewest, hle⟩
    · exact absurd (hrunning.symm.trans hhalted) Bool.false_ne_true
    -- a header that extends the newest one would stand above it
    · exact absurd hle (UInt64.not_le.mpr (Header.index_lt_of_extends? (hext newest hnewest)))

/-- The next step of a follower that is left behind is refused at its header.  It changes nothing
but the latch, which is set behind it. -/
lemma stepAmid (hl : LeftBehind f n index) (time : UInt64) (between : List Report) :
    ∃ e, f.stepAmid n time between = (.error (.refused e), f, { n with halted := true }) ∧
      (e = .halted ∨ ∃ d, e = .discontinuity d) := by
  obtain ⟨h, e, hnext, htake, he⟩ := hl.takeHeader time
  exact ⟨e, by simp [Follower.stepAmid, hnext, htake], he⟩

end LeftBehind

/-- Once the node has taken in the header of the next block, the follower is left behind unless it
moves on to that block. -/
lemma leftBehind_of_takeHeader {f : Follower} {n next : Node} {time : UInt64} {h : Header}
    (hnext : f.nextBlock? time = some h) (htake : n.takeHeader h = (.ok (), next))
    (between : List Report) : LeftBehind f (next.ingestAll between).2 h.index := by
  rcases n.takeHeader_cases h with ⟨_, hrefused, -⟩ | ⟨-, -, htaken⟩
  · cases htake.symm.trans hrefused
  -- the new header is the newest one of the node, and the follower would make it once more
  · obtain ⟨-, rfl⟩ := Prod.mk.inj (htake.symm.trans htaken)
    have hleft : LeftBehind f { n with window := n.window.push h } h.index :=
      ⟨index_nextBlock? hnext, .inr ⟨h, n.window.newest?_push h, UInt64.le_refl _⟩⟩
    exact hleft.ingestAll between

/-- A step that fails leaves the follower on its tip, and left behind if there was a height for its
block. -/
lemma leftBehind_of_error {f g : Follower} {n m : Node} {time index : UInt64}
    {between : List Report} {e : StepFault} (hindex : f.nextIndex? = some index)
    (herror : f.stepAmid n time between = (.error e, g, m)) :
    g.tip = f.tip ∧ LeftBehind g m index := by
  have hsame {h : Header} (hnext : f.nextBlock? time = some h) : h.index = index :=
    Option.some.inj ((index_nextBlock? hnext).symm.trans hindex)
  cases stepsTo_of_stepAmid_eq herror with
  | overflows hnext => simp [nextBlock?, hindex] at hnext
  | @headerRefused h _ _ hnext htake =>
    rcases n.takeHeader_cases h with ⟨_, hrefused, -⟩ | ⟨-, -, htaken⟩
    · obtain ⟨-, rfl⟩ := Prod.mk.inj (htake.symm.trans hrefused)
      exact ⟨rfl, hindex, .inl rfl⟩
    · cases htake.symm.trans htaken
  | l1Overflows hnext htake =>
    rw [← hsame hnext]
    exact ⟨rfl, leftBehind_of_takeHeader hnext htake between⟩
  | @statusRefused h _ _ hnext htake =>
    rw [← hsame hnext]
    exact ⟨f.tip_holding h, (leftBehind_of_takeHeader hnext htake between).congr (f.tip_holding h)⟩

/-- There was a height for the block of a step that is refused. -/
lemma exists_nextIndex?_of_refused {f : Follower} {n : Node} {time : UInt64}
    {between : List Report} {e : ReportFault}
    (hrefused : (f.stepAmid n time between).1 = .error (.refused e)) :
    ∃ index, f.nextIndex? = some index := by
  cases hnext : f.nextBlock? time with
  | none => simp [Follower.stepAmid, hnext] at hrefused
  | some h => exact ⟨h.index, index_nextBlock? hnext⟩

/-! ## Runs over a node to which others report -/

/-- What happens to a follower and its node. -/
inductive Move where
  /-- The follower makes a step, and `between` is what the node takes in between the header and the
  status. -/
  | step (time : UInt64) (between : List Report)
  /-- Someone else reports to the node between two steps. -/
  | report (r : Report)

/-- Lets moves happen one after the other, and gives the answer to each step. -/
def runShared (f : Follower) (n : Node) :
    List Move → List (Except StepFault Header) × Follower × Node
  | [] => ([], f, n)
  | .step time between :: rest =>
    let (answer, g, m) := f.stepAmid n time between
    let (answers, last) := g.runShared m rest
    (answer :: answers, last)
  | .report r :: rest => f.runShared (n.ingest r).2 rest

/-- A run of a follower that is left behind leaves it as it is and left behind.  Its steps are
refused at the header, and if there is one, the latch is set. -/
lemma LeftBehind.runShared {f : Follower} {n : Node} {index : UInt64} (hl : LeftBehind f n index)
    (moves : List Move) :
    (f.runShared n moves).2.1 = f ∧ LeftBehind f (f.runShared n moves).2.2 index ∧
      (∀ answer ∈ (f.runShared n moves).1, answer = .error (.refused .halted) ∨
        ∃ d, answer = .error (.refused (.discontinuity d))) ∧
      ((f.runShared n moves).1 ≠ [] ∨ n.halted = true →
        (f.runShared n moves).2.2.halted = true) := by
  induction moves generalizing n with
  | nil => exact ⟨rfl, hl, by simp [Follower.runShared], by simp [Follower.runShared]⟩
  | cons move rest ih =>
    cases move with
    | report r =>
      obtain ⟨hfollower, hleft, hanswers, hlatch⟩ := ih (hl.ingestAll [r])
      refine ⟨hfollower, hleft, hanswers, fun h => hlatch (h.imp_right fun hn => ?_)⟩
      exact (Node.ingestAll_of_halted hn [r]).1
    | step time between =>
      obtain ⟨e, hstep, he⟩ := hl.stepAmid time between
      have hstopped : LeftBehind f { n with halted := true } index := ⟨hl.next_eq, .inl rfl⟩
      obtain ⟨hfollower, hleft, hanswers, hlatch⟩ := ih hstopped
      simp only [Follower.runShared, hstep]
      refine ⟨hfollower, hleft, ?_, fun _ => hlatch (.inr rfl)⟩
      rw [List.forall_mem_cons]
      refine ⟨?_, hanswers⟩
      simpa using he

/-- A follower whose step is refused has stopped for good.  Take any follower and any node, wherever
earlier steps and the reports of others have brought them, and a step that is refused for whatever
reason, be it in the course of reports by others.  Then let any moves happen, more steps of the
follower and reports by others in any order.  The tip of the follower is the one from before the
failed step and the follower stays as that step left it.  Every later step is refused, because its
header breaks the chain or because the chain was broken before, and once there was one the latch is
set.  The next step changes nothing of the node but the latch, so that no header of the follower
gets in any more.

A step in the course of which the node takes in nothing but the L1 reports of the follower is a step
of the follower as such. -/
theorem step_error_is_final (f : Follower) (n : Node) (time : UInt64) (between : List Report)
    (later : List Move) (hfails : ∃ e, (f.stepAmid n time between).1 = .error (.refused e)) :
    let failed := (f.stepAmid n time between).2
    let answers := (failed.1.runShared failed.2 later).1
    let last := (failed.1.runShared failed.2 later).2
    failed.1.tip = f.tip ∧ last.1 = failed.1 ∧
      (∀ answer ∈ answers, answer = .error (.refused .halted) ∨
        ∃ d, answer = .error (.refused (.discontinuity d))) ∧
      (answers ≠ [] → last.2.halted = true) ∧
      (∀ time between, ∃ e,
        last.1.stepAmid last.2 time between =
          (.error (.refused e), last.1, { last.2 with halted := true })) ∧
      ∀ (g : Follower) (m : Node) (time : UInt64),
        g.step m time = g.stepAmid m time (g.ownReports time) := by
  intro failed answers last
  obtain ⟨e, he⟩ := hfails
  obtain ⟨index, hindex⟩ := exists_nextIndex?_of_refused he
  have herror : f.stepAmid n time between = (.error (.refused e), failed.1, failed.2) :=
    Prod.ext he rfl
  obtain ⟨htip, hleft⟩ := leftBehind_of_error hindex herror
  obtain ⟨hfollower, hlast, hanswers, hlatch⟩ := hleft.runShared later
  refine ⟨htip, hfollower, hanswers, fun hne => hlatch (.inl hne), ?_, step_eq_stepAmid⟩
  intro time between
  obtain ⟨e, hstep, -⟩ := (hlast.congr (congrArg Follower.tip hfollower)).stepAmid time between
  exact ⟨e, hstep⟩

/-- Someone else has published a higher slot, so the first step fails at its status.  The window has
its header all the same, and the second step breaks the chain with another header of that height. -/
theorem step_error_is_final_behind_higher_slot :
    let n := Node.after ⟨4, 4⟩ "signet" [.status ⟨.zero, 5, .zero, .zero, 0⟩]
    let f := Follower.create .standard "signet"
    let failed := (f.step n 7).2
    (f.step n 7).1 = .error (.refused (.regression (.slot 5 0))) ∧
      failed.1.tip = none ∧ failed.2.window.headers.length = 1 ∧
      (failed.1.runShared failed.2 [.step 8 []]).2.2.halted = true := by
  intro n f failed
  have hfails : (f.step n 7).1 = .error (.refused (.regression (.slot 5 0))) := by
    decide +kernel
  have hamid : f.step n 7 = f.stepAmid n 7 (f.ownReports 7) := f.step_eq_stepAmid n 7
  have hsecond : (failed.1.runShared failed.2 [.step 8 []]).1 ≠ [] := by simp [runShared]
  obtain ⟨htip, -, -, hlatch, -⟩ :=
    step_error_is_final f n 7 (f.ownReports 7) [.step 8 []] ⟨_, hamid ▸ hfails⟩
  rw [← hamid] at htip hlatch
  simp only [failed] at hsecond ⊢
  exact ⟨hfails, htip, by decide +kernel, hlatch hsecond⟩

end Follower

end ChainView
