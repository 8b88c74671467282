import Mathlib.Data.List.Basic
import ChainView.Chain.Status

/-!
# The history of the published snapshots

Client statuses and L1 statuses are published in one record, each update replacing its half of the
snapshot and counting one version.  An update that is refused leaves the snapshot as it is, version
included.  After any sequence of updates the snapshot therefore holds the last client status that
was taken and the last L1 status, and its version tells how many updates were taken
(`Snapshot.Records`).  Versions identify snapshots: an update either leaves the snapshot alone or
raises its version, and neither the slot of the tip nor the buried height ever falls
(`Snapshot.Precedes`), so two snapshots of one history with the same version are the same.
-/

namespace ChainView

/-- An update of the published statuses. -/
inductive Update where
  /-- Another view of the chain. -/
  | client (s : ClientStatus)
  /-- Another state of the reader of the L1 chain. -/
  | l1 (s : L1Status)

/-- What an update is answered: the version published with it, or why it is refused. -/
abbrev Publication := Except Regression UInt64

namespace Snapshot

/-! ## Publishing one update -/

/-- Publishes an update: the answer, and the snapshot in force behind it. -/
def publish (s : Snapshot) : Update → Publication × Snapshot
  | .client status =>
    match s.replaceClient status with
    | .ok next => (.ok next.version, next)
    | .error r => (.error r, s)
  | .l1 status => (.ok (s.replaceL1 status).version, s.replaceL1 status)

/-- All that publishing an update can do. -/
inductive Publishes (s : Snapshot) : Update → Publication → Snapshot → Prop
  /-- A client status is taken, if neither number went backwards. -/
  | client {status : ClientStatus} (hslot : s.client.tipSlot ≤ status.tipSlot)
      (hburied : s.client.buriedHeight ≤ status.buriedHeight) :
      Publishes s (.client status) (.ok (s.version + 1)) ⟨status, s.l1, s.version + 1⟩
  /-- A client status is refused for its slot, whatever its buried height. -/
  | slot {status : ClientStatus} (hslot : status.tipSlot < s.client.tipSlot) :
      Publishes s (.client status) (.error (.slot s.client.tipSlot status.tipSlot)) s
  /-- A client status is refused for its buried height, its slot being in order. -/
  | buriedHeight {status : ClientStatus} (hslot : s.client.tipSlot ≤ status.tipSlot)
      (hburied : status.buriedHeight < s.client.buriedHeight) :
      Publishes s (.client status)
        (.error (.buriedHeight s.client.buriedHeight status.buriedHeight)) s
  /-- An L1 status is taken. -/
  | l1 {status : L1Status} :
      Publishes s (.l1 status) (.ok (s.version + 1)) ⟨s.client, status, s.version + 1⟩

/-- Publishing does one of these things. -/
lemma publishes_publish (s : Snapshot) (u : Update) :
    s.Publishes u (s.publish u).1 (s.publish u).2 := by
  cases u with
  | l1 status => exact .l1
  | client status =>
    by_cases hslot : status.tipSlot < s.client.tipSlot
    · have heq : s.publish (.client status) =
          (.error (.slot s.client.tipSlot status.tipSlot), s) := by
        simp [publish, replaceClient, hslot]
      rw [heq]
      exact .slot hslot
    · by_cases hburied : status.buriedHeight < s.client.buriedHeight
      · have heq : s.publish (.client status) =
            (.error (.buriedHeight s.client.buriedHeight status.buriedHeight), s) := by
          simp [publish, replaceClient, hslot, hburied]
        rw [heq]
        exact .buriedHeight (UInt64.not_lt.mp hslot) hburied
      · have heq : s.publish (.client status) =
            (.ok (s.version + 1), ⟨status, s.l1, s.version + 1⟩) := by
          simp [publish, replaceClient, hslot, hburied]
        rw [heq]
        exact .client (UInt64.not_lt.mp hslot) (UInt64.not_lt.mp hburied)

namespace Publishes

variable {s next : Snapshot} {status : ClientStatus} {answer : Publication}

/-- A client status is answered by the version in force behind it exactly if neither of its numbers
went backwards. -/
lemma client_eq_ok_iff (h : s.Publishes (.client status) answer next) :
    answer = .ok next.version ↔
      s.client.tipSlot ≤ status.tipSlot ∧ s.client.buriedHeight ≤ status.buriedHeight := by
  cases h with
  | client hslot hburied => exact iff_of_true rfl ⟨hslot, hburied⟩
  | slot hslot => exact iff_of_false (by simp) fun h => UInt64.not_lt.mpr h.1 hslot
  | buriedHeight hslot hburied =>
    exact iff_of_false (by simp) fun h => UInt64.not_lt.mpr h.2 hburied

/-- A client status whose slot went backwards is refused for that, and changes nothing. -/
lemma eq_of_slot_lt (h : s.Publishes (.client status) answer next)
    (hlt : status.tipSlot < s.client.tipSlot) :
    answer = .error (.slot s.client.tipSlot status.tipSlot) ∧ next = s := by
  cases h with
  | client hslot => exact absurd hlt (UInt64.not_lt.mpr hslot)
  | slot => exact ⟨rfl, rfl⟩
  | buriedHeight hslot => exact absurd hlt (UInt64.not_lt.mpr hslot)

/-- A client status of which only the buried height went backwards is refused for that, and changes
nothing. -/
lemma eq_of_buriedHeight_lt (h : s.Publishes (.client status) answer next)
    (hle : s.client.tipSlot ≤ status.tipSlot)
    (hlt : status.buriedHeight < s.client.buriedHeight) :
    answer = .error (.buriedHeight s.client.buriedHeight status.buriedHeight) ∧ next = s := by
  cases h with
  | client _ hburied => exact absurd hlt (UInt64.not_lt.mpr hburied)
  | slot hslot => exact absurd hslot (UInt64.not_lt.mpr hle)
  | buriedHeight => exact ⟨rfl, rfl⟩

/-- An L1 status is answered by the version in force behind it. -/
lemma l1_eq_ok {status : L1Status} (h : s.Publishes (.l1 status) answer next) :
    answer = .ok next.version := by
  cases h
  rfl

end Publishes

/-! ## Publishing a sequence of updates -/

/-- Publishes a sequence of updates and gives the answer to each. -/
def publishAll (s : Snapshot) : List Update → List Publication × Snapshot
  | [] => ([], s)
  | u :: rest =>
    ((s.publish u).1 :: ((s.publish u).2.publishAll rest).1, ((s.publish u).2.publishAll rest).2)

/-- A sequence of updates may be published piece by piece. -/
lemma publishAll_append (s : Snapshot) (first second : List Update) :
    s.publishAll (first ++ second) =
      ((s.publishAll first).1 ++ ((s.publishAll first).2.publishAll second).1,
        ((s.publishAll first).2.publishAll second).2) := by
  induction first generalizing s with
  | nil => rfl
  | cons u rest ih => simp [publishAll, ih]

/-- Every update has an answer. -/
lemma length_answers (s : Snapshot) (us : List Update) :
    (s.publishAll us).1.length = us.length := by
  induction us generalizing s with
  | nil => rfl
  | cons u rest ih => simp [publishAll, ih]

/-- The answers to the first updates of a sequence are its first answers. -/
lemma answers_take (s : Snapshot) (us : List Update) (i : ℕ) :
    (s.publishAll (us.take i)).1 = (s.publishAll us).1.take i := by
  induction us generalizing s i with
  | nil => simp [publishAll]
  | cons u rest ih =>
    cases i with
    | zero => rfl
    | succ i => simp [publishAll, ih]

/-- Each update meets the snapshot that those before it have left. -/
lemma publishes_getElem? (s : Snapshot) {us : List Update} {i : ℕ} {u : Update}
    (hu : us[i]? = some u) :
    ∃ answer, (s.publishAll us).1[i]? = some answer ∧
      (s.publishAll (us.take i)).2.Publishes u answer (s.publishAll (us.take (i + 1))).2 := by
  induction us generalizing s i with
  | nil => simp at hu
  | cons first rest ih =>
    cases i with
    | zero =>
      obtain rfl : first = u := by simpa using hu
      exact ⟨_, rfl, s.publishes_publish first⟩
    | succ i => exact ih (s.publish first).2 hu

/-! ## What a history holds -/

/-- The client status of an update that was taken, by its answer. -/
def takenClient? : Update × Publication → Option ClientStatus
  | (.client status, .ok _) => some status
  | _ => none

/-- The L1 status of an update. -/
def l1Status? : Update → Option L1Status
  | .l1 status => some status
  | .client _ => none

/-- A snapshot records a history of updates that started from `s`: it holds the last client status
taken and the last L1 status, and its version counts the updates taken. -/
structure Records (s : Snapshot) (us : List Update) (answers : List Publication)
    (next : Snapshot) : Prop where
  /-- The client status is the last one that was taken. -/
  client : next.client = ((us.zip answers).filterMap takenClient?).getLastD s.client
  /-- The L1 status is the last one of all. -/
  l1 : next.l1 = (us.filterMap l1Status?).getLastD s.l1
  /-- The version has been raised once for each update taken. -/
  version : next.version = s.version + .ofNat (answers.countP Except.isOk)

/-- Publishing leaves a snapshot that records the updates. -/
lemma records_publishAll (s : Snapshot) (us : List Update) :
    s.Records us (s.publishAll us).1 (s.publishAll us).2 := by
  induction us generalizing s with
  | nil => exact ⟨rfl, rfl, by simp [publishAll]⟩
  | cons u rest ih =>
    have h := s.publishes_publish u
    have hrest := ih (s.publish u).2
    rw [publishAll]
    revert h hrest
    generalize (s.publish u).1 = answer
    generalize (s.publish u).2 = next
    intro h hrest
    have hcount : ∀ n : ℕ, s.version + 1 + .ofNat n = s.version + .ofNat (n + 1) := by
      intro n
      rw [UInt64.add_assoc, UInt64.add_comm 1, UInt64.ofNat_add]
      rfl
    obtain ⟨hclient, hl1, hversion⟩ := hrest
    cases h with
    | client hslot hburied =>
      refine ⟨?_, hl1, ?_⟩
      · exact hclient.trans List.getLastD_cons.symm
      · rw [List.countP_cons_of_pos rfl, ← hcount]
        exact hversion
    | slot | buriedHeight => exact ⟨hclient, hl1, hversion⟩
    | l1 =>
      refine ⟨hclient, ?_, ?_⟩
      · exact hl1.trans List.getLastD_cons.symm
      · rw [List.countP_cons_of_pos rfl, ← hcount]
        exact hversion

/-- The number of updates taken is that of the updates at most. -/
lemma countP_answers_le (s : Snapshot) (us : List Update) :
    (s.publishAll us).1.countP Except.isOk ≤ us.length := by
  rw [← s.length_answers us]
  exact List.countP_le_length

/-- As long as the version does not overflow, it counts in numbers. -/
lemma toNat_version_publishAll (s : Snapshot) (us : List Update)
    (hroom : s.version.toNat + us.length < UInt64.size) :
    (s.publishAll us).2.version.toNat =
      s.version.toNat + (s.publishAll us).1.countP Except.isOk := by
  have hle := s.countP_answers_le us
  rw [(s.records_publishAll us).version, UInt64.toNat_add, UInt64.toNat_ofNat_of_lt' (by omega)]
  exact Nat.mod_eq_of_lt (by change _ < UInt64.size; omega)

/-! ## The order of a history -/

/-- A snapshot precedes another: no number of the other is lower, and it is the same snapshot if it
has the same version. -/
structure Precedes (s t : Snapshot) : Prop where
  /-- The slot of the tip has not fallen. -/
  tipSlot : s.client.tipSlot ≤ t.client.tipSlot
  /-- The buried height has not fallen. -/
  buriedHeight : s.client.buriedHeight ≤ t.client.buriedHeight
  /-- The version has not fallen. -/
  version : s.version ≤ t.version
  /-- The version identifies the snapshot. -/
  eq_of_version_eq : s.version = t.version → s = t

/-- Every snapshot precedes itself. -/
lemma Precedes.refl (s : Snapshot) : s.Precedes s :=
  ⟨UInt64.le_refl _, UInt64.le_refl _, UInt64.le_refl _, fun _ => rfl⟩

/-- What precedes a snapshot precedes those behind it: a version between two equal ones is the same
version. -/
lemma Precedes.trans {s t u : Snapshot} (hst : s.Precedes t) (htu : t.Precedes u) :
    s.Precedes u where
  tipSlot := UInt64.le_trans hst.tipSlot htu.tipSlot
  buriedHeight := UInt64.le_trans hst.buriedHeight htu.buriedHeight
  version := UInt64.le_trans hst.version htu.version
  eq_of_version_eq h := by
    have hmid : s.version = t.version := by
      refine UInt64.le_antisymm hst.version ?_
      rw [h]
      exact htu.version
    rw [hst.eq_of_version_eq hmid]
    exact htu.eq_of_version_eq (hmid.symm.trans h)

/-- One update leads to a snapshot behind the one before, and raises the version by one at most. -/
lemma Publishes.precedes {s next : Snapshot} {u : Update} {answer : Publication}
    (h : s.Publishes u answer next) (hroom : s.version.toNat + 1 < UInt64.size) :
    s.Precedes next ∧ next.version.toNat ≤ s.version.toNat + 1 := by
  have hsucc : (s.version + 1).toNat = s.version.toNat + 1 := by
    rw [UInt64.toNat_add]
    exact Nat.mod_eq_of_lt hroom
  have hle : s.version ≤ s.version + 1 := UInt64.le_iff_toNat_le.mpr (by omega)
  have hne : s.version ≠ s.version + 1 := by
    intro heq
    have := congrArg UInt64.toNat heq
    omega
  cases h with
  | client hslot hburied => exact ⟨⟨hslot, hburied, hle, fun h => absurd h hne⟩, Nat.le_of_eq hsucc⟩
  | l1 =>
    exact ⟨⟨UInt64.le_refl _, UInt64.le_refl _, hle, fun h => absurd h hne⟩, Nat.le_of_eq hsucc⟩
  | slot | buriedHeight => exact ⟨.refl s, Nat.le_succ _⟩

/-- A sequence of updates leads to a snapshot behind the one it started from. -/
lemma precedes_publishAll {s : Snapshot} {us : List Update}
    (hroom : s.version.toNat + us.length < UInt64.size) : s.Precedes (s.publishAll us).2 := by
  induction us generalizing s with
  | nil => exact .refl s
  | cons u rest ih =>
    rw [List.length_cons] at hroom
    obtain ⟨hnext, hversion⟩ := (s.publishes_publish u).precedes (by omega)
    exact hnext.trans (ih (by omega))

/-- Of two points of a history the earlier snapshot precedes the later one. -/
lemma precedes_of_le {s : Snapshot} {us : List Update}
    (hroom : s.version.toNat + us.length < UInt64.size) {i j : ℕ} (hij : i ≤ j) :
    (s.publishAll (us.take i)).2.Precedes (s.publishAll (us.take j)).2 := by
  obtain ⟨rest, hrest⟩ : us.take i <+: us.take j := List.take_prefix_take_left hij
  have hlen := congrArg List.length hrest
  have htake : (us.take j).length ≤ us.length := List.length_take_le' j us
  rw [List.length_append] at hlen
  have hfirst := s.toNat_version_publishAll (us.take i) (by omega)
  have hcount := s.countP_answers_le (us.take i)
  rw [← hrest, publishAll_append]
  exact precedes_publishAll (by omega)

/-- A snapshot store loses no update and is monotone.  Take any sequence of updates, from a snapshot
whose version leaves room for them.  After any number of them, the snapshot holds the last client
status taken, the last L1 status, and a version raised once for each update taken.  Of these
updates, every one meets the snapshot that those before it have left: an L1 status is always taken;
a client status is taken exactly if its slot and its buried height are at least those in force;
whatever is taken is answered by its version, and whatever is refused leaves the whole snapshot as
it is and is answered by the fall of the slot, or else by that of the buried height.  Hence of any
two points of the history the later one has a slot, a buried height and a version at least as high,
and if their versions are equal, so are their snapshots. -/
theorem publishAll_loses_no_update (s : Snapshot) (us : List Update)
    (hroom : s.version.toNat + us.length < UInt64.size) :
    let answers := (s.publishAll us).1
    let current (i : ℕ) : Snapshot := (s.publishAll (us.take i)).2
    (∀ i : ℕ, (current i).client =
          (((us.take i).zip (answers.take i)).filterMap takenClient?).getLastD s.client ∧
        (current i).l1 = ((us.take i).filterMap l1Status?).getLastD s.l1 ∧
        (current i).version.toNat = s.version.toNat + (answers.take i).countP Except.isOk) ∧
      (∀ (i : ℕ) (status : ClientStatus), us[i]? = some (.client status) →
        let before := (current i).client
        ∃ answer, answers[i]? = some answer ∧
          (answer = .ok (current (i + 1)).version ↔
            before.tipSlot ≤ status.tipSlot ∧ before.buriedHeight ≤ status.buriedHeight) ∧
          (status.tipSlot < before.tipSlot →
            answer = .error (.slot before.tipSlot status.tipSlot) ∧ current (i + 1) = current i) ∧
          (before.tipSlot ≤ status.tipSlot → status.buriedHeight < before.buriedHeight →
            answer = .error (.buriedHeight before.buriedHeight status.buriedHeight) ∧
              current (i + 1) = current i)) ∧
      (∀ (i : ℕ) (status : L1Status), us[i]? = some (.l1 status) →
        answers[i]? = some (.ok (current (i + 1)).version)) ∧
      (∀ i j : ℕ, i ≤ j →
        (current i).client.tipSlot ≤ (current j).client.tipSlot ∧
          (current i).client.buriedHeight ≤ (current j).client.buriedHeight ∧
          (current i).version ≤ (current j).version) ∧
      ∀ i j : ℕ, (current i).version = (current j).version → current i = current j := by
  intro answers current
  have hle : ∀ {i j}, i ≤ j → (current i).Precedes (current j) := precedes_of_le hroom
  refine ⟨?_, ?_, ?_, ?_, ?_⟩
  · intro i
    have hrecords := s.records_publishAll (us.take i)
    have htake : (us.take i).length ≤ us.length := List.length_take_le' i us
    have hversion := s.toNat_version_publishAll (us.take i) (by omega)
    rw [answers_take] at hrecords hversion
    exact ⟨hrecords.client, hrecords.l1, hversion⟩
  · intro i status hu before
    obtain ⟨answer, hanswer, h⟩ := s.publishes_getElem? hu
    refine ⟨answer, hanswer, h.client_eq_ok_iff, ?_, ?_⟩
    · intro hslot
      exact h.eq_of_slot_lt hslot
    · intro hslot hburied
      exact h.eq_of_buriedHeight_lt hslot hburied
  · intro i status hu
    obtain ⟨answer, hanswer, h⟩ := s.publishes_getElem? hu
    rw [hanswer, h.l1_eq_ok]
  · intro i j hij
    exact ⟨(hle hij).tipSlot, (hle hij).buriedHeight, (hle hij).version⟩
  · intro i j hversion
    rcases Nat.le_total i j with hij | hji
    · exact (hle hij).eq_of_version_eq hversion
    · exact ((hle hji).eq_of_version_eq hversion.symm).symm

/-- The history of a store with one status taken and two that are behind it, the first of them in
both numbers, around an L1 status: two updates are taken. -/
theorem publishAll_of_two_stale_statuses :
    let s : Snapshot := ⟨.initial, .initial "signet", 7⟩
    let status (slot buried : UInt64) : ClientStatus := ⟨.zero, slot, .zero, .zero, buried⟩
    let us : List Update := [.client (status 5 3), .client (status 4 2), .l1 (.initial "main"),
      .client (status 6 2)]
    s.version.toNat + us.length < UInt64.size ∧
      (s.publishAll us).2.client = status 5 3 ∧ (s.publishAll us).2.l1 = .initial "main" ∧
      (s.publishAll us).2.version.toNat = 9 ∧
      (s.publishAll us).1[1]? = some (.error (.slot 5 4)) ∧
      (s.publishAll us).1[3]? = some (.error (.buriedHeight 3 2)) := by
  intro s status us
  have hroom : s.version.toNat + us.length < UInt64.size := by decide
  obtain ⟨hholds, hclients, -⟩ := publishAll_loses_no_update s us hroom
  obtain ⟨hclient, hl1, hversion⟩ := hholds 4
  obtain ⟨first, hfirst, -, hslot, -⟩ := hclients 1 (status 4 2) rfl
  obtain ⟨second, hsecond, -, -, hburied⟩ := hclients 3 (status 6 2) rfl
  refine ⟨hroom, hclient, hl1, hversion, ?_, ?_⟩
  · rw [hfirst, (hslot (by decide)).1]
    rfl
  · rw [hsecond, (hburied (by decide) (by decide)).1]
    rfl

end Snapshot

end ChainView
