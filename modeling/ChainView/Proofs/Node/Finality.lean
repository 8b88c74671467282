import ChainView.Proofs.Node.Transition

/-!
# When the finalized block stays below the tip

A node compares the finalized block of a client status with its tip when the status arrives, in the
window of that moment.  The window goes on growing under a status that has been published, and
nothing compares the two blocks again.  This file says exactly what that leaves of the invariant
that the published finalized block is never known to be no ancestor of the published tip.

In a linked window a block is known to be no ancestor of another exactly if every header with its
id stands strictly above some header with the other id (`Window.leadsTo?_eq_some_false_iff`).  All
reports but headers keep the invariant, and a header breaks it exactly if it *exposes* the status:
the node takes the header, and in the window with it the finalized block stands above the tip.
Such a header bears the finalized id itself or pushes out an older header that bears it.  A status
that names a block before its header has arrived is enough for that.
-/

namespace ChainView

/-! ## Ancestry in a linked window -/

namespace Window

/-- A block stands above another in a window if headers with its id are kept and some header with
the other id is strictly lower than all of them. -/
def StandsAbove (w : Window) (upper lower : Digest) : Prop :=
  (∃ u ∈ w.headers, u.id = upper) ∧
    ∃ l ∈ w.headers, l.id = lower ∧ ∀ u ∈ w.headers, u.id = upper → l.index < u.index

/-- In a linked window a block is known to be no ancestor of another exactly if it stands above
it. -/
lemma leadsTo?_eq_some_false_iff {w : Window} (hl : Linked w.headers) {a d : Digest} :
    w.leadsTo? a d = some false ↔ w.StandsAbove a d := by
  constructor
  · intro h
    unfold leadsTo? at h
    cases hd : w.oldestWithId? d with
    | none => simp [hd] at h
    | some lower =>
      cases ha : w.oldestWithId? a with
      | none => simp [hd, ha] at h
      | some upper =>
        obtain ⟨humem, huid, hulow⟩ := oldestWithId?_spec hl ha
        obtain ⟨hlmem, hlid, -⟩ := oldestWithId?_spec hl hd
        have hlt : lower.index < upper.index := by simpa [hd, ha] using h
        refine ⟨⟨upper, humem, huid⟩, lower, hlmem, hlid, ?_⟩
        intro u hu hid
        exact UInt64.lt_of_lt_of_le hlt (hulow u hu hid)
  · rintro ⟨⟨u, hu, rfl⟩, l, hlmem, rfl, hlow⟩
    obtain ⟨upper, hupper⟩ := exists_oldestWithId? hu
    obtain ⟨lower, hlower⟩ := exists_oldestWithId? hlmem
    obtain ⟨humem, huid, -⟩ := oldestWithId?_spec hl hupper
    obtain ⟨-, -, hllow⟩ := oldestWithId?_spec hl hlower
    have hlt : lower.index < upper.index :=
      UInt64.lt_of_le_of_lt (hllow l hlmem rfl) (hlow upper humem huid)
    simp [leadsTo?, hupper, hlower, hlt]

/-- A block does not stand above itself. -/
lemma StandsAbove.ne {w : Window} {a d : Digest} (h : w.StandsAbove a d) : a ≠ d := by
  rintro rfl
  obtain ⟨-, l, hl, hid, hlow⟩ := h
  exact absurd (hlow l hl hid) (UInt64.lt_irrefl _)

/-- A push that brings one block above another brings the upper one, or drops a copy of it. -/
lemma StandsAbove.of_push {w : Window} {h : Header} {a d : Digest}
    (hl : Linked (w.headers ++ [h])) (habove : (w.push h).StandsAbove a d) :
    w.StandsAbove a d ∨ h.id = a ∨ ∃ old ∈ w.headers, old.id = a ∧ old ∉ (w.push h).headers := by
  by_contra hnone
  push Not at hnone
  obtain ⟨hnot, hne, hkept⟩ := hnone
  obtain ⟨⟨u, hu, huid⟩, l, hlmem, hlid, hlow⟩ := habove
  have hsub : ∀ g ∈ (w.push h).headers, g ∈ w.headers ∨ g = h := by
    intro g hg
    rw [headers_push] at hg
    simpa using List.mem_of_mem_drop hg
  have hbelow : ∀ g ∈ w.headers, g.index < h.index := by
    intro g hg
    exact (List.pairwise_append.mp hl.pairwise_index_lt).2.2 g hg h (by simp)
  have hu' : u ∈ w.headers := by
    rcases hsub u hu with hu' | rfl
    · exact hu'
    · exact absurd huid hne
  -- The lower header is not the new one, which stands above all copies of the upper block.
  have hl' : l ∈ w.headers := by
    rcases hsub l hlmem with hl' | rfl
    · exact hl'
    · exact absurd (UInt64.lt_trans (hlow u hu huid) (hbelow u hu')) (UInt64.lt_irrefl _)
  refine hnot ⟨⟨u, hu', huid⟩, l, hl', hlid, ?_⟩
  intro g hg hgid
  exact hlow g (hkept g hg hgid) hgid

end Window

/-! ## The published finalized block -/

namespace Node

/-- The published finalized block is the published tip, or the window does not know it to be no
ancestor of that tip. -/
def KeepsFinality (n : Node) : Prop :=
  n.snapshot.client.finalized = n.snapshot.client.tip ∨
    n.window.leadsTo? n.snapshot.client.finalized n.snapshot.client.tip ≠ some false

instance (n : Node) : Decidable n.KeepsFinality := inferInstanceAs (Decidable (_ ∨ _))

/-- A header exposes the published status if the node takes it and, in the window with it, the
finalized block stands above the tip. -/
structure Exposes (n : Node) (h : Header) : Prop where
  /-- The chain has not been broken. -/
  running : n.halted = false
  /-- The window takes the header. -/
  taken : n.window.append h = .ok (n.window.push h)
  /-- In the window with the header the finalized block stands above the tip. -/
  above : (n.window.push h).StandsAbove n.snapshot.client.finalized n.snapshot.client.tip

/-- Finality is kept exactly as long as the finalized block does not stand above the tip. -/
lemma keepsFinality_iff {n : Node} (hl : Linked n.window.headers) :
    n.KeepsFinality ↔
      ¬ n.window.StandsAbove n.snapshot.client.finalized n.snapshot.client.tip := by
  unfold KeepsFinality
  rw [← Window.leadsTo?_eq_some_false_iff hl]
  constructor
  · rintro (heq | hne)
    · intro h
      exact ((Window.leadsTo?_eq_some_false_iff hl).mp h).ne heq
    · exact hne
  · exact Or.inr

/-- A status that is not refuted keeps finality once it is published. -/
lemma keepsFinality_of_refutesFinality {n : Node} {s : ClientStatus}
    (hs : n.refutesFinality s = false) (hclient : n.snapshot.client = s) : n.KeepsFinality := by
  unfold KeepsFinality
  rw [hclient]
  unfold refutesFinality at hs
  by_cases heq : s.finalized = s.tip
  · exact Or.inl heq
  · exact Or.inr (by simpa [heq] using hs)

/-- A fresh node keeps finality: before the first report both blocks are the zero one. -/
lemma keepsFinality_create (retention : Retention) (network : String) :
    (create retention network).KeepsFinality := Or.inl rfl

/-- A transition keeps finality exactly if it is not the arrival of an exposing header. -/
lemma KeepsFinality.transition {n next : Node} {r : Report} {answer : Except ReportFault Receipt}
    (hn : n.KeepsFinality) (hsound : n.Sound) (ht : n.Transition r answer next) :
    next.KeepsFinality ↔ ∀ h, r = .header h → ¬ n.Exposes h := by
  cases ht with
  | headerTaken h w hrunning hwindow =>
    obtain ⟨-, rfl⟩ := Window.append_eq_ok_iff.mp hwindow
    rw [keepsFinality_iff (Window.linked_of_append hsound.linked hwindow)]
    constructor
    · rintro hnot g ⟨rfl⟩ hexp
      exact hnot hexp.above
    · intro hnot habove
      exact hnot h rfl ⟨hrunning, hwindow, habove⟩
  | headerRefused h d hrunning hwindow =>
    refine iff_of_true hn ?_
    rintro g ⟨rfl⟩ hexp
    rw [hexp.taken] at hwindow
    cases hwindow
  | headerIgnored h hhalted =>
    refine iff_of_true hn ?_
    rintro g ⟨rfl⟩ hexp
    rw [hexp.running] at hhalted
    cases hhalted
  | statusTaken s snapshot hfinal hsnapshot =>
    obtain ⟨-, -, rfl⟩ := Snapshot.replaceClient_eq_ok_iff.mp hsnapshot
    exact iff_of_true (keepsFinality_of_refutesFinality (s := s) hfinal rfl) (by simp)
  | statusRefuted | statusRegressed | l1StatusTaken | l1BlockTaken =>
    exact iff_of_true hn (by simp)

/-- Finality is kept throughout a sequence of reports exactly if none of its headers exposes the
status that is published when it arrives.  A node keeps finality exactly as long as the published
finalized block does not stand above the published tip, and a header that makes it stand there
bears the finalized id or pushes out an older header that bears it. -/
theorem keepsFinality_throughout_iff (retention : Retention) (network : String)
    (rs : List Report) :
    ((∀ before, before <+: rs → (after retention network before).KeepsFinality) ↔
      ∀ before h, before ++ [.header h] <+: rs → ¬ (after retention network before).Exposes h) ∧
    ∀ before, before <+: rs →
      let n := after retention network before
      (n.KeepsFinality ↔
        ¬ n.window.StandsAbove n.snapshot.client.finalized n.snapshot.client.tip) ∧
      ∀ h, n.KeepsFinality → n.Exposes h →
        h.id = n.snapshot.client.finalized ∨
          ∃ old ∈ n.window.headers,
            old.id = n.snapshot.client.finalized ∧ old ∉ (n.window.push h).headers := by
  refine ⟨⟨?_, ?_⟩, ?_⟩
  · intro hkeeps before h hprefix hexp
    have hbefore : before <+: rs := (List.prefix_append before [.header h]).trans hprefix
    have hnext := hkeeps _ hprefix
    rw [after_append_singleton] at hnext
    exact ((hkeeps before hbefore).transition (sound_after retention network before)
      (transition_ingest _ _)).mp hnext h rfl hexp
  · -- Induction on the reports seen so far: each of them is a transition that exposes nothing.
    intro hnone before
    induction before using List.reverseRecOn with
    | nil =>
      intro _
      exact keepsFinality_create retention network
    | append_singleton before r ih =>
      intro hprefix
      have hkeeps := ih ((List.prefix_append before [r]).trans hprefix)
      rw [after_append_singleton]
      refine (hkeeps.transition (sound_after retention network before)
        (transition_ingest _ _)).mpr ?_
      rintro h rfl
      exact hnone before h hprefix
  · intro before _ n
    have hsound : n.Sound := sound_after retention network before
    refine ⟨keepsFinality_iff hsound.linked, ?_⟩
    intro h hkeeps hexp
    have hext := (Window.append_eq_ok_iff.mp hexp.taken).1
    have hl : Linked (n.window.headers ++ [h]) := hsound.linked.append_singleton hext
    exact (hexp.above.of_push hl).resolve_left ((keepsFinality_iff hsound.linked).mp hkeeps)

/-- A status may name as finalized a block that arrives only later, on top of the tip that the
status names.  Once the headers of both are there, the published finalized block is known to be no
ancestor of the published tip. -/
theorem not_keepsFinality_of_late_finalized :
    ¬ ∀ (retention : Retention) (network : String) (rs : List Report),
      (after retention network rs).KeepsFinality := by
  intro hall
  have hlate := hall .standard "signet" [
    .status ⟨.filled 1, 0, .filled 2, .zero, 0⟩,
    .header (.bare 0 (.filled 1) .zero),
    .header (.bare 1 (.filled 2) (.filled 1))]
  revert hlate
  decide

end Node

end ChainView
