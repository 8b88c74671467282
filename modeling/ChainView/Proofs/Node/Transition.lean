import Mathlib.Data.List.Induction
import ChainView.Node.Basic
import ChainView.Proofs.Chain.History
import ChainView.Proofs.Chain.L1Table

/-!
# The transitions of a node

`Node.Transition` lists all that a report can do to a node: which reports are taken in, what they
change, and which are refused and why.  It is the one place where the intake is taken apart: facts
about the states of a node are proved for each transition and then hold after every sequence of
reports, by `Node.ingestAll_induction`.  The first such fact is `Node.Sound`: the window is linked,
and the L1 blocks are in the order of their heights.
-/

namespace ChainView

namespace Node

/-- What a report may do to a node: the answer to it and the node that it leaves behind. -/
inductive Transition (n : Node) : Report → Except ReportFault Receipt → Node → Prop
  /-- A client status is published. -/
  | statusTaken (s : ClientStatus) (snapshot : Snapshot) (hfinal : n.refutesFinality s = false)
      (hsnapshot : n.snapshot.replaceClient s = .ok snapshot) :
      Transition n (.status s) (.ok .accepted) { n with snapshot }
  /-- A client status is refused for its finalized block. -/
  | statusRefuted (s : ClientStatus) (hfinal : n.refutesFinality s = true) :
      Transition n (.status s) (.error (.finalizedNotAncestor s.finalized s.tip)) n
  /-- A client status is refused because it falls behind the published one. -/
  | statusRegressed (s : ClientStatus) (r : Regression) (hfinal : n.refutesFinality s = false)
      (hsnapshot : n.snapshot.replaceClient s = .error r) :
      Transition n (.status s) (.error (.regression r)) n
  /-- An L1 status is published. -/
  | l1StatusTaken (s : L1Status) : Transition n (.l1Status s) (.ok .accepted) (n.takeL1Status s)
  /-- A header is put on top of the window. -/
  | headerTaken (h : Header) (w : Window) (hrunning : n.halted = false)
      (hwindow : n.window.append h = .ok w) :
      Transition n (.header h) (.ok .accepted) { n with window := w }
  /-- A header breaks the chain. -/
  | headerRefused (h : Header) (d : Discontinuity) (hrunning : n.halted = false)
      (hwindow : n.window.append h = .error d) :
      Transition n (.header h) (.error (.discontinuity d)) { n with halted := true }
  /-- A header comes after the chain was broken. -/
  | headerIgnored (h : Header) (hhalted : n.halted = true) :
      Transition n (.header h) (.error .halted) n
  /-- An L1 block is recorded. -/
  | l1BlockTaken (height : UInt64) (hash : Digest) :
      Transition n (.l1Block height hash) (.ok (.recorded (n.l1Table.outcome height)))
        { n with l1Table := n.l1Table.insert height hash }

/-- Taking in a report is a transition. -/
lemma transition_ingest (n : Node) (r : Report) :
    n.Transition r (n.ingest r).1 (n.ingest r).2 := by
  cases r with
  | status s =>
    cases hfinal : n.refutesFinality s with
    | true =>
      have heq : n.ingest (.status s) =
          (.error (.finalizedNotAncestor s.finalized s.tip), n) := by
        simp [ingest, takeStatus, hfinal]
      rw [heq]
      exact .statusRefuted s hfinal
    | false =>
      cases hsnapshot : n.snapshot.replaceClient s with
      | ok snapshot =>
        have heq : n.ingest (.status s) = (.ok .accepted, { n with snapshot }) := by
          simp [ingest, takeStatus, hfinal, hsnapshot]
        rw [heq]
        exact .statusTaken s snapshot hfinal hsnapshot
      | error r =>
        have heq : n.ingest (.status s) = (.error (.regression r), n) := by
          simp [ingest, takeStatus, hfinal, hsnapshot]
        rw [heq]
        exact .statusRegressed s r hfinal hsnapshot
  | l1Status s => exact .l1StatusTaken s
  | header h =>
    cases hhalted : n.halted with
    | true =>
      have heq : n.ingest (.header h) = (.error .halted, n) := by
        simp [ingest, takeHeader, hhalted]
      rw [heq]
      exact .headerIgnored h hhalted
    | false =>
      cases hwindow : n.window.append h with
      | ok w =>
        have heq : n.ingest (.header h) = (.ok .accepted, { n with window := w }) := by
          simp [ingest, takeHeader, hhalted, hwindow]
        rw [heq]
        exact .headerTaken h w hhalted hwindow
      | error d =>
        have heq : n.ingest (.header h) =
            (.error (.discontinuity d), { n with halted := true }) := by
          simp [ingest, takeHeader, hhalted, hwindow]
        rw [heq]
        exact .headerRefused h d hhalted hwindow
  | l1Block height hash => exact .l1BlockTaken height hash

/-- What every transition keeps holds after every sequence of reports. -/
lemma ingestAll_induction {P : Node → Prop}
    (hstep : ∀ n r answer next, P n → n.Transition r answer next → P next) {n : Node} (hn : P n)
    (rs : List Report) : P (n.ingestAll rs).2 := by
  induction rs generalizing n with
  | nil => exact hn
  | cons r rest ih =>
    rw [ingestAll_cons]
    exact ih (hstep n r _ _ hn (n.transition_ingest r))

/-! ## The nodes that sequences of reports lead to -/

/-- A fresh node after a sequence of reports. -/
def after (retention : Retention) (network : String) (rs : List Report) : Node :=
  ((create retention network).ingestAll rs).2

/-- The second part of a sequence meets the node that the first part leads to. -/
lemma after_append (retention : Retention) (network : String) (first second : List Report) :
    after retention network (first ++ second) =
      ((after retention network first).ingestAll second).2 := by
  simp [after, ingestAll_append]

/-- The last report of a sequence meets the node that the others lead to. -/
lemma after_append_singleton (retention : Retention) (network : String) (rs : List Report)
    (r : Report) :
    after retention network (rs ++ [r]) = ((after retention network rs).ingest r).2 :=
  after_append retention network rs [r]

/-- What holds of a fresh node and is kept by every transition holds after all reports. -/
lemma after_induction {P : Node → Prop} {retention : Retention} {network : String}
    (hcreate : P (create retention network))
    (hstep : ∀ n r answer next, P n → n.Transition r answer next → P next) (rs : List Report) :
    P (after retention network rs) :=
  ingestAll_induction hstep hcreate rs

/-! ## Soundness of the histories -/

/-- The histories of a node are in order. -/
structure Sound (n : Node) : Prop where
  /-- The window is linked. -/
  linked : Linked n.window.headers
  /-- The L1 blocks stand in the order of their heights. -/
  ordered : n.l1Table.blocks.Pairwise fun a b => a.1 < b.1

/-- Every transition keeps the histories in order. -/
lemma Sound.transition {n next : Node} {r : Report} {answer : Except ReportFault Receipt}
    (hn : n.Sound) (ht : n.Transition r answer next) : next.Sound := by
  cases ht with
  | headerTaken h w _ hwindow => exact ⟨Window.linked_of_append hn.linked hwindow, hn.ordered⟩
  | l1BlockTaken height hash => exact ⟨hn.linked, L1Table.ordered_insert hn.ordered height hash⟩
  | statusTaken => exact ⟨hn.linked, hn.ordered⟩
  | l1StatusTaken => exact ⟨hn.linked, hn.ordered⟩
  | headerRefused => exact ⟨hn.linked, hn.ordered⟩
  | statusRefuted | statusRegressed | headerIgnored => exact hn

/-- The histories of a node are in order after any reports. -/
lemma sound_after (retention : Retention) (network : String) (rs : List Report) :
    (after retention network rs).Sound := by
  refine after_induction ⟨Linked.nil, List.Pairwise.nil⟩ ?_ rs
  intro n r answer next hn ht
  exact hn.transition ht

end Node

end ChainView
