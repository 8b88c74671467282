import ChainView.Proofs.Chain.Ancestry
import ChainView.Proofs.Node.Finality
import ChainView.Proofs.Node.Refusal
import ChainView.Proofs.Node.Transcript

/-!
# Which client statuses are published

A node judges the finalized block of a client status by two heights of a window that forgets, while
finality is about the links of the whole chain of headers that the node took in.  If that chain is
rooted, the two agree: a status is refused for its finalized block exactly if the window keeps both
this block and the tip, and the tip is a strict ancestor of the finalized block.  A status whose
blocks are in order in the whole chain is never refused for them, whatever was forgotten.  The
numbers of the status are compared only after that, the slot before the buried height.
-/

namespace ChainView

namespace Node

/-- The finalized block of a status is refuted exactly if it and the tip are kept and the tip is a
strict ancestor of it. -/
lemma refutesFinality_iff_strictAncestor {n : Node} {chain : List Header}
    (ht : n.window.Tracks chain) (hr : Rooted chain) {s : ClientStatus} :
    n.refutesFinality s = true ↔
      n.window.Keeps s.finalized ∧ n.window.Keeps s.tip ∧
        StrictAncestor chain s.tip s.finalized := by
  rw [← ht.leadsTo?_eq_some_false_iff_strictAncestor hr]
  have hdiffer : n.window.leadsTo? s.finalized s.tip = some false → s.finalized ≠ s.tip := by
    intro hleads hsame
    obtain ⟨upper, hupper, lower, hlower, hupperId, hlowerId, hindex⟩ :=
      (ht.leadsTo?_eq_some_iff hr).mp hleads
    have hid : lower.id = upper.id := (hlowerId.trans hsame).trans hupperId.symm
    obtain rfl : lower = upper :=
      ht.eq_of_id_eq hr.nodup hlower (ht.mem_of_mem_headers hupper) hid
    simp at hindex
  unfold refutesFinality
  rw [Bool.and_eq_true, decide_eq_true_eq, decide_eq_true_eq]
  exact ⟨And.right, fun hleads => ⟨hdiffer hleads, hleads⟩⟩

/-- In a rooted chain a block that is the tip or an ancestor of it has no refuted finality. -/
lemma refutesFinality_eq_false_of_ancestorOrEqual {n : Node} {chain : List Header}
    (ht : n.window.Tracks chain) (hr : Rooted chain) {s : ClientStatus}
    (hancestor : AncestorOrEqual chain s.finalized s.tip) : n.refutesFinality s = false := by
  rw [← Bool.not_eq_true, refutesFinality_iff_strictAncestor ht hr]
  rintro ⟨⟨upper, hupper, hupperId⟩, ⟨lower, hlower, hlowerId⟩, hstrict⟩
  rw [← hupperId, ← hlowerId] at hstrict hancestor
  exact (hr.strictAncestor_iff_not_ancestorOrEqual ht.linked (ht.mem_of_mem_headers hlower)
    (ht.mem_of_mem_headers hupper)).mp hstrict hancestor

/-- A node publishes exactly the client statuses that are not known to be wrong.  Take any sequence
of reports whose accepted headers form a rooted chain, and any status after it.  The status is
refused for its finalized block exactly if this block and the tip are both kept and the tip is a
strict ancestor of it in the chain of all accepted headers; else for its slot, exactly if that is
below the published one; else for its buried height, exactly if that is below the published one; and
else it is published as it is.  So a status whose finalized block is its tip, or an ancestor of it
in the whole chain, is never refused for it, however much the window has forgotten; and one whose
finalized block stands above its tip is always refused while both are kept. -/
theorem status_published_iff_not_known_wrong (retention : Retention) (network : String)
    (rs : List Report) (s : ClientStatus) (hrooted : Rooted (accepted retention network rs)) :
    let n := after retention network rs
    let chain := accepted retention network rs
    let answer := (n.ingest (.status s)).1
    let current := n.snapshot.client
    let wrong :=
      n.window.Keeps s.finalized ∧ n.window.Keeps s.tip ∧ StrictAncestor chain s.tip s.finalized
    (answer = .error (.finalizedNotAncestor s.finalized s.tip) ↔ wrong) ∧
      (answer = .error (.regression (.slot current.tipSlot s.tipSlot)) ↔
        ¬ wrong ∧ s.tipSlot < current.tipSlot) ∧
      (answer = .error (.regression (.buriedHeight current.buriedHeight s.buriedHeight)) ↔
        ¬ wrong ∧ current.tipSlot ≤ s.tipSlot ∧ s.buriedHeight < current.buriedHeight) ∧
      (n.ingest (.status s) = (.ok .accepted,
          { n with snapshot := ⟨s, n.snapshot.l1, n.snapshot.version + 1⟩ }) ↔
        ¬ wrong ∧ current.tipSlot ≤ s.tipSlot ∧ current.buriedHeight ≤ s.buriedHeight) ∧
      (AncestorOrEqual chain s.finalized s.tip →
        ∀ finalized tip, answer ≠ .error (.finalizedNotAncestor finalized tip)) ∧
      ∀ upper ∈ n.window.headers, ∀ lower ∈ n.window.headers,
        upper.id = s.finalized → lower.id = s.tip → lower.index < upper.index →
          answer = .error (.finalizedNotAncestor s.finalized s.tip) := by
  intro n chain answer current wrong
  have ht : n.window.Tracks chain := tracks_after retention network rs
  have hwrong : n.refutesFinality s = true ↔ wrong := refutesFinality_iff_strictAncestor ht hrooted
  have hright : n.refutesFinality s = false ↔ ¬ wrong := by
    rw [← hwrong, Bool.not_eq_true]
  have hrefused : answer = .error (.finalizedNotAncestor s.finalized s.tip) ↔ wrong := by
    rw [ingest_eq_error_iff, ← hwrong]
    constructor
    · intro h
      cases h with
      | finalizedNotAncestor _ hfinal => exact hfinal
    · exact .finalizedNotAncestor s
  refine ⟨hrefused, ?_, ?_, ?_, ?_, ?_⟩
  · rw [ingest_eq_error_iff, ← hright]
    constructor
    · intro h
      cases h with
      | slot _ hfinal hslot => exact ⟨hfinal, hslot⟩
    · rintro ⟨hfinal, hslot⟩
      exact .slot s hfinal hslot
  · rw [ingest_eq_error_iff, ← hright]
    constructor
    · intro h
      cases h with
      | buriedHeight _ hfinal hslot hburied => exact ⟨hfinal, hslot, hburied⟩
    · rintro ⟨hfinal, hslot, hburied⟩
      exact .buriedHeight s hfinal hslot hburied
  · rw [ingest_status_eq_ok_iff, ← hright]
    simp [current]
  · intro hancestor finalized tip hanswer
    have hfinal := refutesFinality_eq_false_of_ancestorOrEqual ht hrooted hancestor
    cases ingest_eq_error_iff.mp hanswer with
    | finalizedNotAncestor _ hrefuted => simp [hfinal] at hrefuted
  · intro upper hupper lower hlower hupperId hlowerId hlt
    have hstrict := ht.linked.strictAncestor_of_index_lt (ht.mem_of_mem_headers hlower)
      (ht.mem_of_mem_headers hupper) hlt
    rw [hupperId, hlowerId] at hstrict
    exact hrefused.mpr ⟨⟨upper, hupper, hupperId⟩, ⟨lower, hlower, hlowerId⟩, hstrict⟩

/-- Three headers in a window of two.  A status with the second block as its tip and the third one
finalized is refused, and one with the third block as its tip and the first one finalized, which the
window has forgotten, is published. -/
theorem status_published_after_three_headers :
    let first : Header := .bare 0 (.filled 1) .zero
    let second : Header := .bare 1 (.filled 2) (.filled 1)
    let third : Header := .bare 2 (.filled 3) (.filled 2)
    let rs : List Report := [.header first, .header second, .header third]
    let n := after ⟨2, 1⟩ "signet" rs
    Rooted (accepted ⟨2, 1⟩ "signet" rs) ∧
      (n.ingest (.status ⟨second.id, 1, third.id, .zero, 0⟩)).1 =
        .error (.finalizedNotAncestor third.id second.id) ∧
      (n.ingest (.status ⟨third.id, 2, first.id, .zero, 0⟩)).1 = .ok .accepted := by
  intro first second third rs n
  have hrooted : Rooted (accepted ⟨2, 1⟩ "signet" rs) := ⟨by decide, by decide⟩
  have hkept : n.window.headers = [second, third] := by decide
  have hforgotten : ¬ n.window.Keeps first.id := by
    rintro ⟨h, hh, hid⟩
    revert h
    rw [hkept]
    decide
  obtain ⟨-, -, -, -, -, habove⟩ := status_published_iff_not_known_wrong ⟨2, 1⟩ "signet" rs
    ⟨second.id, 1, third.id, .zero, 0⟩ hrooted
  obtain ⟨-, -, -, hpublished, -, -⟩ := status_published_iff_not_known_wrong ⟨2, 1⟩ "signet" rs
    ⟨third.id, 2, first.id, .zero, 0⟩ hrooted
  refine ⟨hrooted, ?_, ?_⟩
  · exact habove third (by rw [hkept]; simp) second (by rw [hkept]; simp) rfl rfl (by decide)
  · exact congrArg Prod.fst
      (hpublished.mpr ⟨fun hwrong => hforgotten hwrong.1, by decide, by decide⟩)

end Node

end ChainView
