import ChainView.Proofs.Node.Transition

/-!
# Refused reports

`Node.Refuses` lists every reason for which a node refuses a report, together with the error that
tells of it.  The numbers and ids of an error are those of the node that the report meets and of the
report itself.  A node refuses a report exactly for one of these reasons, and a report that is
refused leaves everything in place that can be read from the node; only the latch may be set, by a
header that breaks the chain.
-/

namespace ChainView

/-- The height above another one is the next number, unless there is none. -/
lemma Window.toNat_nextIndex (index : UInt64) :
    (nextIndex index).toNat = min (index.toNat + 1) (UInt64.size - 1) := by
  have hlt : index.toNat < UInt64.size := index.toNat_lt
  unfold nextIndex
  split
  · rename_i hroom
    rw [UInt64.toNat_add, UInt64.toNat_one, Nat.mod_eq_of_lt hroom]
    omega
  · omega

/-- A window refuses a header exactly if it has a newest header that the header does not extend, and
complains of that one. -/
lemma Window.append_eq_error_iff {w : Window} {h : Header} {d : Discontinuity} :
    w.append h = .error d ↔
      ∃ newest, w.newest? = some newest ∧ h.extends? newest = false ∧
        d = discontinuity newest h := by
  unfold append
  cases w.newest? with
  | none => simp
  | some newest =>
    cases hext : h.extends? newest with
    | true => simp [hext]
    | false =>
      simp only [hext, Bool.false_eq_true, if_false]
      constructor
      · rintro ⟨⟩
        exact ⟨newest, rfl, hext, rfl⟩
      · rintro ⟨_, ⟨⟩, -, rfl⟩
        rfl

/-- A snapshot refuses a client status exactly if its slot fell, or else its buried height. -/
lemma Snapshot.replaceClient_eq_error_iff {s : Snapshot} {status : ClientStatus} {r : Regression} :
    s.replaceClient status = .error r ↔
      status.tipSlot < s.client.tipSlot ∧ r = .slot s.client.tipSlot status.tipSlot ∨
        s.client.tipSlot ≤ status.tipSlot ∧ status.buriedHeight < s.client.buriedHeight ∧
          r = .buriedHeight s.client.buriedHeight status.buriedHeight := by
  unfold replaceClient
  by_cases hslot : status.tipSlot < s.client.tipSlot
  · simp [hslot, UInt64.not_le.mpr hslot, eq_comm]
  · by_cases hburied : status.buriedHeight < s.client.buriedHeight
    · simp [hslot, hburied, UInt64.not_lt.mp hslot, eq_comm]
    · simp [hslot, hburied]

namespace Node

/-- The reasons for which a node refuses a report, each with the error that tells of it. -/
inductive Refuses (n : Node) : Report → ReportFault → Prop
  /-- The chain was broken before. -/
  | halted (h : Header) (hhalted : n.halted = true) : Refuses n (.header h) .halted
  /-- The header does not extend the newest one, above which a header of the next height was
  expected, or one of the greatest height if there is no next one. -/
  | discontinuity (h newest : Header) (expected : UInt64) (hrunning : n.halted = false)
      (hnewest : n.window.newest? = some newest) (hext : h.extends? newest = false)
      (hexpected : expected.toNat = min (newest.index.toNat + 1) (UInt64.size - 1)) :
      Refuses n (.header h) (.discontinuity {
        expectedParent := newest.id
        expectedIndex := expected
        foundParent := h.parent
        foundIndex := h.index })
  /-- The finalized block of the status is known to be no ancestor of its tip. -/
  | finalizedNotAncestor (s : ClientStatus) (hfinal : n.refutesFinality s = true) :
      Refuses n (.status s) (.finalizedNotAncestor s.finalized s.tip)
  /-- The slot of the tip is below the published one. -/
  | slot (s : ClientStatus) (hfinal : n.refutesFinality s = false)
      (hslot : s.tipSlot < n.snapshot.client.tipSlot) :
      Refuses n (.status s) (.regression (.slot n.snapshot.client.tipSlot s.tipSlot))
  /-- The slot is not, but the buried height is below the published one. -/
  | buriedHeight (s : ClientStatus) (hfinal : n.refutesFinality s = false)
      (hslot : n.snapshot.client.tipSlot ≤ s.tipSlot)
      (hburied : s.buriedHeight < n.snapshot.client.buriedHeight) :
      Refuses n (.status s)
        (.regression (.buriedHeight n.snapshot.client.buriedHeight s.buriedHeight))

/-- A node answers by an error exactly if it has a reason to refuse the report, and by the error
that tells of this reason. -/
lemma ingest_eq_error_iff {n : Node} {r : Report} {fault : ReportFault} :
    (n.ingest r).1 = .error fault ↔ n.Refuses r fault := by
  constructor
  · intro hanswer
    have ht := n.transition_ingest r
    rw [hanswer] at ht
    generalize (n.ingest r).2 = next at ht
    cases ht with
    | statusRefuted s hfinal => exact .finalizedNotAncestor s hfinal
    | statusRegressed s r hfinal hsnapshot =>
      rcases Snapshot.replaceClient_eq_error_iff.mp hsnapshot with
        ⟨hslot, rfl⟩ | ⟨hslot, hburied, rfl⟩
      · exact .slot s hfinal hslot
      · exact .buriedHeight s hfinal hslot hburied
    | headerRefused h d hrunning hwindow =>
      obtain ⟨newest, hnewest, hext, rfl⟩ := Window.append_eq_error_iff.mp hwindow
      exact .discontinuity h newest _ hrunning hnewest hext (Window.toNat_nextIndex _)
    | headerIgnored h hhalted => exact .halted h hhalted
  · intro hrefuses
    cases hrefuses with
    | halted h hhalted => simp [ingest, takeHeader, hhalted]
    | discontinuity h newest expected hrunning hnewest hext hexpected =>
      have hindex : expected = Window.nextIndex newest.index :=
        UInt64.toNat_inj.mp (hexpected.trans (Window.toNat_nextIndex _).symm)
      have hwindow := Window.append_eq_error_iff.mpr ⟨newest, hnewest, hext, rfl⟩
      simp [ingest, takeHeader, hrunning, hwindow, hindex, Window.discontinuity]
    | finalizedNotAncestor s hfinal => simp [ingest, takeStatus, hfinal]
    | slot s hfinal hslot =>
      have hsnapshot := Snapshot.replaceClient_eq_error_iff.mpr (.inl ⟨hslot, rfl⟩)
      simp [ingest, takeStatus, hfinal, hsnapshot]
    | buriedHeight s hfinal hslot hburied =>
      have hsnapshot := Snapshot.replaceClient_eq_error_iff.mpr (.inr ⟨hslot, hburied, rfl⟩)
      simp [ingest, takeStatus, hfinal, hsnapshot]

/-- A node publishes a client status exactly if it has no reason to refuse it. -/
lemma ingest_status_eq_ok_iff {n next : Node} {s : ClientStatus} :
    n.ingest (.status s) = (.ok .accepted, next) ↔
      n.refutesFinality s = false ∧ n.snapshot.client.tipSlot ≤ s.tipSlot ∧
        n.snapshot.client.buriedHeight ≤ s.buriedHeight ∧
        next = { n with snapshot := ⟨s, n.snapshot.l1, n.snapshot.version + 1⟩ } := by
  constructor
  · intro hingest
    have ht := n.transition_ingest (.status s)
    rw [hingest] at ht
    cases ht with
    | statusTaken _ snapshot hfinal hsnapshot =>
      obtain ⟨hslot, hburied, rfl⟩ := Snapshot.replaceClient_eq_ok_iff.mp hsnapshot
      exact ⟨hfinal, hslot, hburied, rfl⟩
  · rintro ⟨hfinal, hslot, hburied, rfl⟩
    have hsnapshot := Snapshot.replaceClient_eq_ok_iff.mpr ⟨hslot, hburied, rfl⟩
    simp [ingest, takeStatus, hfinal, hsnapshot]

/-! ## What a client status depends on -/

/-- What stands against a client status in front of a window and the status in force, if anything
does. -/
def objection? (w : Window) (current s : ClientStatus) : Option ReportFault :=
  if s.finalized ≠ s.tip ∧ w.leadsTo? s.finalized s.tip = some false then
    some (.finalizedNotAncestor s.finalized s.tip)
  else if s.tipSlot < current.tipSlot then
    some (.regression (.slot current.tipSlot s.tipSlot))
  else if s.buriedHeight < current.buriedHeight then
    some (.regression (.buriedHeight current.buriedHeight s.buriedHeight))
  else none

/-- Of a node, only the window and the client status in force decide about a client status. -/
lemma ingest_status (n : Node) (s : ClientStatus) :
    n.ingest (.status s) =
      match objection? n.window n.snapshot.client s with
      | some fault => (.error fault, n)
      | none =>
        (.ok .accepted, { n with snapshot := ⟨s, n.snapshot.l1, n.snapshot.version + 1⟩ }) := by
  have hrefutes : n.refutesFinality s = true ↔
      s.finalized ≠ s.tip ∧ n.window.leadsTo? s.finalized s.tip = some false := by
    simp [refutesFinality]
  by_cases hfinal : s.finalized ≠ s.tip ∧ n.window.leadsTo? s.finalized s.tip = some false
  · simp only [objection?, if_pos hfinal, ingest, takeStatus, hrefutes.mpr hfinal, if_true]
  · by_cases hslot : s.tipSlot < n.snapshot.client.tipSlot
    · simp only [objection?, if_neg hfinal, if_pos hslot, ingest, takeStatus, hrefutes,
        Snapshot.replaceClient]
    · by_cases hburied : s.buriedHeight < n.snapshot.client.buriedHeight
      · simp only [objection?, if_neg hfinal, if_neg hslot, if_pos hburied, ingest, takeStatus,
          hrefutes, Snapshot.replaceClient]
      · simp only [objection?, if_neg hfinal, if_neg hslot, if_neg hburied, ingest, takeStatus,
          hrefutes, Snapshot.replaceClient]

/-- Two nodes read alike if whatever is asked of them has the same answer. -/
structure ReadsAs (n m : Node) : Prop where
  /-- The statuses and the version are the same. -/
  snapshot : n.snapshot = m.snapshot
  /-- The recent headers are the same, of any number. -/
  recent : ∀ count, n.window.recent count = m.window.recent count
  /-- The header at a height is the same. -/
  atHeight? : ∀ index, n.window.atHeight? index = m.window.atHeight? index
  /-- The header with an id is the same. -/
  withId? : ∀ id, n.window.withId? id = m.window.withId? id
  /-- The hash of the L1 block at a height is the same. -/
  l1Hash? : ∀ height, n.l1Table.get? height = m.l1Table.get? height

/-- A report that is refused leaves the node as it is, but for the latch, which a header that breaks
the chain sets. -/
lemma Transition.eq_of_error {n next : Node} {r : Report} {fault : ReportFault}
    (h : n.Transition r (.error fault) next) :
    next = { n with halted := next.halted } ∧
      (next.halted ≠ n.halted →
        n.halted = false ∧ next.halted = true ∧ ∃ d, fault = .discontinuity d) := by
  cases h with
  | headerRefused h d hrunning hwindow => exact ⟨rfl, fun _ => ⟨hrunning, rfl, d, rfl⟩⟩
  | statusRefuted | statusRegressed | headerIgnored => exact ⟨rfl, fun hne => absurd rfl hne⟩

/-- A refused report is atomic.  Whatever node a report meets, the node answers by an error exactly
if it has a reason to refuse the report, and the error describes the node before the report and the
report itself.  If it does, then the snapshot with its version, the window and the L1 blocks are
those from before, so that the node reads as before; and the latch, if it changes at all, was clear
and is set by a header that breaks the chain. -/
theorem refused_report_is_atomic (n : Node) (r : Report) (fault : ReportFault) :
    let answer := (n.ingest r).1
    let next := (n.ingest r).2
    (answer = .error fault ↔ n.Refuses r fault) ∧
      (answer = .error fault →
        next.snapshot = n.snapshot ∧ next.window = n.window ∧ next.l1Table = n.l1Table ∧
          next.ReadsAs n ∧
          (next.halted ≠ n.halted →
            n.halted = false ∧ next.halted = true ∧ ∃ d, fault = .discontinuity d)) := by
  intro answer next
  refine ⟨ingest_eq_error_iff, ?_⟩
  intro hanswer
  have ht : n.Transition r (.error fault) next := by
    rw [← hanswer]
    exact n.transition_ingest r
  obtain ⟨heq, hlatch⟩ := ht.eq_of_error
  have hsnapshot : next.snapshot = n.snapshot := by rw [heq]
  have hwindow : next.window = n.window := by rw [heq]
  have hl1Table : next.l1Table = n.l1Table := by rw [heq]
  have hreads : next.ReadsAs n := by
    rw [heq]
    exact ⟨rfl, fun _ => rfl, fun _ => rfl, fun _ => rfl, fun _ => rfl⟩
  exact ⟨hsnapshot, hwindow, hl1Table, hreads, hlatch⟩

end Node

end ChainView
