import ChainView.Proofs.Node.Transition

/-!
# What a run leaves behind

The *transcript* of a sequence of reports pairs each of them with the answer to it.  Two facts tie
the node that the sequence leads to with its transcript: the window holds the end of the chain of
the headers that were taken in, and the version of the snapshot counts the statuses that were
published.
-/

namespace ChainView

/-- The header of a report that was taken in, by its answer. -/
def takenHeader? : Report × Except ReportFault Receipt → Option Header
  | (.header h, .ok _) => some h
  | _ => none

/-- Whether an answered report has published a status. -/
def publishes : Report × Except ReportFault Receipt → Bool
  | (.status _, .ok _) => true
  | (.l1Status _, .ok _) => true
  | _ => false

namespace Node

/-- The reports of a sequence, each with the answer to it. -/
def transcript (n : Node) (rs : List Report) : List (Report × Except ReportFault Receipt) :=
  rs.zip (n.ingestAll rs).1

@[simp] lemma transcript_nil (n : Node) : n.transcript [] = [] := rfl

@[simp] lemma transcript_cons (n : Node) (r : Report) (rest : List Report) :
    n.transcript (r :: rest) = (r, (n.ingest r).1) :: (n.ingest r).2.transcript rest := rfl

/-- The transcript of a sequence is that of its first part and that of the rest. -/
lemma transcript_append (n : Node) (first second : List Report) :
    n.transcript (first ++ second) =
      n.transcript first ++ (n.ingestAll first).2.transcript second := by
  induction first generalizing n with
  | nil => rfl
  | cons r rest ih => simp [ih]

/-- The transcript of a sequence of reports from a fresh node on. -/
def log (retention : Retention) (network : String) (rs : List Report) :
    List (Report × Except ReportFault Receipt) :=
  (create retention network).transcript rs

/-- The last report of a sequence is answered by the node that the others lead to. -/
lemma log_append_singleton (retention : Retention) (network : String) (rs : List Report)
    (r : Report) :
    log retention network (rs ++ [r]) =
      log retention network rs ++ [(r, ((after retention network rs).ingest r).1)] :=
  transcript_append _ rs [r]

/-! ## The chain of accepted headers -/

/-- The headers of a sequence of reports that a fresh node takes in. -/
def accepted (retention : Retention) (network : String) (rs : List Report) : List Header :=
  (log retention network rs).filterMap takenHeader?

/-- A transition keeps the window at the end of the chain of accepted headers. -/
lemma Transition.tracks {n next : Node} {r : Report} {answer : Except ReportFault Receipt}
    (h : n.Transition r answer next) {chain : List Header} (ht : n.window.Tracks chain) :
    next.window.Tracks (chain ++ (takenHeader? (r, answer)).toList) := by
  cases h with
  | headerTaken h w _ hwindow =>
    obtain ⟨hext, rfl⟩ := Window.append_eq_ok_iff.mp hwindow
    rw [ht.newest?_eq] at hext
    exact (ht.append_of_admits (admits_eq_true_iff.mpr hext)).2
  | statusTaken | statusRefuted | statusRegressed | l1StatusTaken | headerRefused | headerIgnored
  | l1BlockTaken =>
    change n.window.Tracks (chain ++ [])
    rw [List.append_nil]
    exact ht

/-- The window of a node holds the end of the chain of the headers that it took in. -/
lemma tracks_after (retention : Retention) (network : String) (rs : List Report) :
    (after retention network rs).window.Tracks (accepted retention network rs) := by
  induction rs using List.reverseRecOn with
  | nil => exact Window.Tracks.empty _
  | append_singleton rs r ih =>
    have hone : ∀ p, [p].filterMap takenHeader? = (takenHeader? p).toList := by
      intro p
      cases h : takenHeader? p <;> simp [h]
    have hlast := (transition_ingest (after retention network rs) r).tracks ih
    rw [after_append_singleton, accepted, log_append_singleton, List.filterMap_append, hone]
    exact hlast

/-- The bound of the window is the one that the node was made with. -/
lemma retention_after (retention : Retention) (network : String) (rs : List Report) :
    (after retention network rs).window.retention = max retention.maxHeaders.toNat 1 := by
  refine after_induction (P := fun n => n.window.retention = max retention.maxHeaders.toNat 1)
    rfl ?_ rs
  intro n r answer next hn ht
  cases ht with
  | headerTaken h w _ hwindow =>
    obtain ⟨-, rfl⟩ := Window.append_eq_ok_iff.mp hwindow
    exact hn
  | statusTaken | statusRefuted | statusRegressed | l1StatusTaken | headerRefused | headerIgnored
  | l1BlockTaken => exact hn

/-! ## The number of publications -/

/-- A transition raises the version by one if it publishes a status, and keeps it otherwise. -/
lemma Transition.version_eq {n next : Node} {r : Report} {answer : Except ReportFault Receipt}
    (h : n.Transition r answer next) :
    next.snapshot.version =
      n.snapshot.version + if publishes (r, answer) then 1 else 0 := by
  cases h with
  | statusTaken s snapshot _ hsnapshot =>
    obtain ⟨-, -, rfl⟩ := Snapshot.replaceClient_eq_ok_iff.mp hsnapshot
    rfl
  | l1StatusTaken => rfl
  | statusRefuted | statusRegressed | headerTaken | headerRefused | headerIgnored
  | l1BlockTaken => exact (UInt64.add_zero _).symm

/-- The version of a node counts the publications in its transcript. -/
lemma version_after (retention : Retention) (network : String) (rs : List Report) :
    (after retention network rs).snapshot.version =
      .ofNat ((log retention network rs).countP publishes) := by
  induction rs using List.reverseRecOn with
  | nil => rfl
  | append_singleton rs r ih =>
    have hlast := (transition_ingest (after retention network rs) r).version_eq
    rw [after_append_singleton, hlast, ih, log_append_singleton, List.countP_append,
      List.countP_singleton, UInt64.ofNat_add]
    split <;> rfl

end Node

end ChainView
