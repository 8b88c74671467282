import ChainView.Proofs.Node.Refusal
import ChainView.Proofs.Node.Transcript

/-!
# The latch

A node that was given a header that breaks the chain takes in no header any more.  The latch that
says so is set by such a header and by nothing else, and nothing clears it: it can be read off the
transcript of the reports.  Behind it the window stands still, so that every question about headers
has the answer that it had before the chain was broken.  All other reports pass the latch by: they
are answered, and change the node, as if it were clear.
-/

namespace ChainView

namespace Node

/-- The node with its latch clear. -/
def released (n : Node) : Node := { n with halted := false }

/-! ## One report -/

/-- The latch is set behind a report if it was set before, or if the report is a header that breaks
the chain. -/
lemma Transition.halted_iff {n next : Node} {r : Report} {answer : Except ReportFault Receipt}
    (ht : n.Transition r answer next) :
    next.halted = true ↔
      n.halted = true ∨ ∃ h d, (r, answer) = (.header h, .error (.discontinuity d)) := by
  cases ht with
  | headerRefused h d hrunning hwindow => exact iff_of_true rfl (.inr ⟨h, d, rfl⟩)
  | l1StatusTaken s => simp [takeL1Status]
  | statusTaken | statusRefuted | statusRegressed | headerTaken | headerIgnored
  | l1BlockTaken => simp

/-- While the latch is set, no report changes the window. -/
lemma Transition.window_of_halted {n next : Node} {r : Report}
    {answer : Except ReportFault Receipt} (ht : n.Transition r answer next)
    (hn : n.halted = true) : next.window = n.window := by
  cases ht with
  | headerTaken h w hrunning hwindow => simp [hrunning] at hn
  | statusTaken | statusRefuted | statusRegressed | l1StatusTaken | headerRefused | headerIgnored
  | l1BlockTaken => rfl

/-- A report other than a header is answered, and changes the node, as if the latch were clear. -/
lemma ingest_eq_released {n : Node} {r : Report} (hr : ∀ h, r ≠ .header h) :
    n.ingest r =
      ((n.released.ingest r).1, { (n.released.ingest r).2 with halted := n.halted }) := by
  cases r with
  | status s =>
    have hsame : objection? n.released.window n.released.snapshot.client s =
        objection? n.window n.snapshot.client s := rfl
    rw [ingest_status, ingest_status, hsame]
    cases objection? n.window n.snapshot.client s <;> rfl
  | l1Status s => rfl
  | header h => exact absurd rfl (hr h)
  | l1Block height hash => rfl

/-- Only headers are refused for the chain, or for the latch. -/
lemma ingest_ne_error_of_ne_header {n : Node} {r : Report} (hr : ∀ h, r ≠ .header h) :
    (n.ingest r).1 ≠ .error .halted ∧ ∀ d, (n.ingest r).1 ≠ .error (.discontinuity d) := by
  constructor
  · intro hanswer
    cases ingest_eq_error_iff.mp hanswer with
    | halted h _ => exact hr h rfl
  · intro d hanswer
    cases ingest_eq_error_iff.mp hanswer with
    | discontinuity h => exact hr h rfl

/-! ## Sequences of reports -/

/-- The latch of a node is set exactly if a header of its transcript broke the chain. -/
lemma halted_after_iff (retention : Retention) (network : String) (rs : List Report) :
    (after retention network rs).halted = true ↔
      ∃ h d, (.header h, .error (.discontinuity d)) ∈ log retention network rs := by
  induction rs using List.reverseRecOn with
  | nil =>
    refine iff_of_false (by simp [after, create]) ?_
    rintro ⟨h, d, hmem⟩
    cases hmem
  | append_singleton rs r ih =>
    have hlast := (transition_ingest (after retention network rs) r).halted_iff
    rw [after_append_singleton, hlast, ih, log_append_singleton]
    simp only [List.mem_append, List.mem_singleton, exists_or, eq_comm]

/-- While the latch is set it stays set, and the window stays as it is. -/
lemma ingestAll_of_halted {n : Node} (hn : n.halted = true) (rs : List Report) :
    (n.ingestAll rs).2.halted = true ∧ (n.ingestAll rs).2.window = n.window := by
  have hstep : ∀ (m : Node) r answer (next : Node), (m.halted = true ∧ m.window = n.window) →
      m.Transition r answer next → next.halted = true ∧ next.window = n.window := by
    rintro m r answer next ⟨hhalted, hwindow⟩ ht
    exact ⟨ht.halted_iff.mpr (.inl hhalted), (ht.window_of_halted hhalted).trans hwindow⟩
  exact ingestAll_induction hstep ⟨hn, rfl⟩ rs

/-- A header that breaks the chain sets the latch for all reports behind it, and the window is the
one from before that header. -/
lemma after_of_break {retention : Retention} {network : String} {before : List Report}
    {h : Header} {d : Discontinuity} (later : List Report)
    (hbreak : ((after retention network before).ingest (.header h)).1 =
      .error (.discontinuity d)) :
    (after retention network (before ++ .header h :: later)).halted = true ∧
      (after retention network (before ++ .header h :: later)).window =
        (after retention network before).window := by
  have ht := transition_ingest (after retention network before) (.header h)
  rw [hbreak] at ht
  have hhalted := ht.halted_iff.mpr (.inr ⟨h, d, rfl⟩)
  have hwindow := congrArg Node.window ht.eq_of_error.1
  obtain ⟨hlatched, hkept⟩ := ingestAll_of_halted hhalted later
  rw [after_append, ingestAll_cons]
  exact ⟨hlatched, hkept.trans hwindow⟩

/-- The latch is exact and permanent.  After any sequence of reports to a fresh node it is set
exactly if some header of the sequence was refused because it broke the chain.  From such a header
on, whatever else was reported behind it, every header is refused as one that comes after the break,
and all questions about headers have the answers that they had before it.  No other report is
refused for the break or for the latch, none sets or clears the latch, and each of them has the
answer and the effect that it has on the same node with the latch clear. -/
theorem latch_exact_and_permanent (retention : Retention) (network : String) (rs : List Report) :
    let n := after retention network rs
    (n.halted = true ↔
        ∃ h d, (.header h, .error (.discontinuity d)) ∈ log retention network rs) ∧
      (∀ before h later d, rs = before ++ .header h :: later →
        ((after retention network before).ingest (.header h)).1 = .error (.discontinuity d) →
          let old := after retention network before
          (∀ g, (n.ingest (.header g)).1 = .error .halted) ∧
            (∀ count, n.window.recent count = old.window.recent count) ∧
            (∀ index, n.window.atHeight? index = old.window.atHeight? index) ∧
            ∀ id, n.window.withId? id = old.window.withId? id) ∧
      ∀ r, (∀ h, r ≠ .header h) →
        (n.ingest r).1 ≠ .error .halted ∧
          (∀ d, (n.ingest r).1 ≠ .error (.discontinuity d)) ∧
          (n.ingest r).2.halted = n.halted ∧
          n.ingest r =
            ((n.released.ingest r).1, { (n.released.ingest r).2 with halted := n.halted }) := by
  intro n
  refine ⟨halted_after_iff retention network rs, ?_, ?_⟩
  · rintro before h later d hsplit hbreak old
    obtain ⟨hhalted, hwindow⟩ := after_of_break later hbreak
    rw [← hsplit] at hhalted hwindow
    have hwindow' : n.window = old.window := hwindow
    rw [hwindow']
    refine ⟨?_, fun _ => rfl, fun _ => rfl, fun _ => rfl⟩
    intro g
    exact ingest_eq_error_iff.mpr (.halted g hhalted)
  · intro r hr
    obtain ⟨hnotHalted, hnotBreak⟩ := ingest_ne_error_of_ne_header (n := n) hr
    have heq := ingest_eq_released (n := n) hr
    exact ⟨hnotHalted, hnotBreak, by rw [heq], heq⟩

/-- A header at the height of its parent breaks the chain.  The header that would have extended the
window is then refused as well, and an L1 block is recorded as ever. -/
example : (log .standard "signet" [.header default, .header default,
      .header { (default : Header) with index := 1 }, .l1Block 7 .zero]).map Prod.snd =
    [.ok .accepted, .error (.discontinuity ⟨.zero, 1, .zero, 0⟩), .error .halted,
      .ok (.recorded .extended)] := by decide

end Node

end ChainView
