import ChainView.Proofs.Node.Refusal
import ChainView.Proofs.Node.Transcript

/-!
# Streams of reports that do not interfere

The reports to a node come in streams of certain kinds, and each stream *determines* a part of the
node: reports of other kinds leave the part as it is, and a report of the stream has an answer and
an effect on the part that depend on nothing but the part.  A part that a stream determines is,
after any sequence of reports, what the stream alone would have made of it, and the reports of the
stream are answered as if they had come alone (`Node.Determines.after`).

Headers determine the window and the latch, L1 blocks the L1 table, and L1 statuses the published L1
status.  A client status is judged by the window, so it takes headers and client statuses together
to determine the published one.  Both streams share a version, which belongs to neither; but it is
the number of publications, and so two interleavings of the two streams lead to the same node.
-/

namespace ChainView

/-! ## Kinds and streams -/

/-- The kinds of reports. -/
inductive Report.Kind where
  /-- The view of the chain. -/
  | status
  /-- The state of the reader of the L1 chain. -/
  | l1Status
  /-- A header. -/
  | header
  /-- A block of the L1 chain. -/
  | l1Block
  deriving DecidableEq

/-- The kind of a report. -/
def Report.kind : Report → Report.Kind
  | .status _ => .status
  | .l1Status _ => .l1Status
  | .header _ => .header
  | .l1Block _ _ => .l1Block

/-- Whether a report belongs to the stream of some kinds. -/
def Report.isOf (stream : List Report.Kind) (r : Report) : Bool :=
  r.kind ∈ stream

/-- The reports of a sequence that belong to a stream, in their order. -/
def ofStream (stream : List Report.Kind) (rs : List Report) : List Report :=
  rs.filter fun r => r.isOf stream

/-- The reports of a transcript that belong to a stream, with their answers and in their order. -/
def answeredOf (stream : List Report.Kind)
    (answered : List (Report × Except ReportFault Receipt)) :
    List (Report × Except ReportFault Receipt) :=
  answered.filter fun p => p.1.isOf stream

/-- The kinds that tell of the chain. -/
def chainKinds : List Report.Kind := [.header, .status]

/-- The kinds that tell of the L1 chain. -/
def l1Kinds : List Report.Kind := [.l1Status, .l1Block]

/-- Every report tells either of the chain or of the L1 chain. -/
lemma Report.isOf_l1Kinds (r : Report) : r.isOf l1Kinds = !r.isOf chainKinds := by
  cases r <;> rfl

/-- Of the answers to a stream, those to a part of the stream are the answers to that part. -/
lemma answeredOf_answeredOf {inner outer : List Report.Kind} (hsub : inner ⊆ outer)
    (answered : List (Report × Except ReportFault Receipt)) :
    answeredOf inner (answeredOf outer answered) = answeredOf inner answered := by
  unfold answeredOf
  rw [List.filter_filter]
  apply List.filter_congr
  intro p _
  have hpart : p.1.isOf inner = true → p.1.isOf outer = true := by
    intro hinner
    exact decide_eq_true (hsub (of_decide_eq_true hinner))
  cases hinner : p.1.isOf inner <;> simp_all

namespace Node

/-! ## What reports change -/

/-- A header meets the window and the latch. -/
lemma ingest_header (n : Node) (h : Header) :
    n.ingest (.header h) =
      if n.halted then (.error .halted, n)
      else
        match n.window.append h with
        | .ok window => (.ok .accepted, { n with window })
        | .error d => (.error (.discontinuity d), { n with halted := true }) := by
  cases hhalted : n.halted with
  | true => simp [ingest, takeHeader, hhalted]
  | false => cases happend : n.window.append h <;> simp [ingest, takeHeader, hhalted, happend]

/-- A header changes neither the snapshot nor the L1 blocks. -/
lemma header_frame (n : Node) (h : Header) :
    (n.ingest (.header h)).2.snapshot = n.snapshot ∧
      (n.ingest (.header h)).2.l1Table = n.l1Table := by
  rw [ingest_header]
  cases n.halted <;> cases n.window.append h <;> exact ⟨rfl, rfl⟩

/-- A client status changes of the node only the client status and the version. -/
lemma status_frame (n : Node) (s : ClientStatus) :
    (n.ingest (.status s)).2.window = n.window ∧ (n.ingest (.status s)).2.halted = n.halted ∧
      (n.ingest (.status s)).2.l1Table = n.l1Table ∧
      (n.ingest (.status s)).2.snapshot.l1 = n.snapshot.l1 := by
  rw [ingest_status]
  cases objection? n.window n.snapshot.client s <;> exact ⟨rfl, rfl, rfl, rfl⟩

/-- Nodes with the same window and the same latch answer a header alike, and agree in both behind
it. -/
lemma header_congr {n m : Node} (hwindow : n.window = m.window) (hhalted : n.halted = m.halted)
    (h : Header) :
    (n.ingest (.header h)).1 = (m.ingest (.header h)).1 ∧
      (n.ingest (.header h)).2.window = (m.ingest (.header h)).2.window ∧
      (n.ingest (.header h)).2.halted = (m.ingest (.header h)).2.halted := by
  rw [ingest_header, ingest_header, hwindow, hhalted]
  cases hm : m.halted with
  | true => exact ⟨rfl, hwindow, hhalted⟩
  | false => cases m.window.append h <;> exact ⟨rfl, rfl, rfl⟩

/-- Nodes with the same window and the same client status answer a client status alike, and have the
same one behind it. -/
lemma status_congr {n m : Node} (hwindow : n.window = m.window)
    (hclient : n.snapshot.client = m.snapshot.client) (s : ClientStatus) :
    (n.ingest (.status s)).1 = (m.ingest (.status s)).1 ∧
      (n.ingest (.status s)).2.snapshot.client = (m.ingest (.status s)).2.snapshot.client := by
  rw [ingest_status, ingest_status, hwindow, hclient]
  cases objection? m.window m.snapshot.client s with
  | some fault => exact ⟨rfl, hclient⟩
  | none => exact ⟨rfl, rfl⟩

/-! ## Streams that determine a part of the node -/

/-- A stream determines a part of the node if other reports leave the part as it is, and a report of
the stream is answered alike by nodes that agree in the part and leaves them agreeing. -/
structure Determines {α : Type} (stream : List Report.Kind) (part : Node → α) : Prop where
  /-- Reports that are not of the stream leave the part as it is. -/
  keeps : ∀ n r, r.isOf stream = false → part (n.ingest r).2 = part n
  /-- The part decides about the answer to a report of the stream and about its effect. -/
  agrees : ∀ n m r, r.isOf stream = true → part n = part m →
    (n.ingest r).1 = (m.ingest r).1 ∧ part (n.ingest r).2 = part (m.ingest r).2

/-- Nodes that agree in a part still agree in it if the one is given a sequence of reports and the
other only those of the stream that determines the part; and these have the same answers. -/
lemma Determines.ingestAll {α : Type} {stream : List Report.Kind} {part : Node → α}
    (hd : Determines stream part) {n m : Node} (hpart : part n = part m) (rs : List Report) :
    part (n.ingestAll rs).2 = part (m.ingestAll (ofStream stream rs)).2 ∧
      answeredOf stream (n.transcript rs) = m.transcript (ofStream stream rs) := by
  induction rs generalizing n m with
  | nil => exact ⟨hpart, rfl⟩
  | cons r rest ih =>
    cases hr : r.isOf stream with
    | true =>
      obtain ⟨hanswer, hnext⟩ := hd.agrees n m r hr hpart
      obtain ⟨hlast, hrest⟩ := ih hnext
      have hreports : ofStream stream (r :: rest) = r :: ofStream stream rest :=
        List.filter_cons_of_pos hr
      rw [hreports, transcript_cons, transcript_cons, ← hrest, ← hanswer]
      exact ⟨hlast, List.filter_cons_of_pos hr⟩
    | false =>
      have hskip : ¬ r.isOf stream = true := by simp [hr]
      obtain ⟨hlast, hrest⟩ := ih ((hd.keeps n r hr).trans hpart)
      have hreports : ofStream stream (r :: rest) = ofStream stream rest :=
        List.filter_cons_of_neg hskip
      rw [hreports, transcript_cons, ← hrest]
      exact ⟨hlast, List.filter_cons_of_neg hskip⟩

/-- A part of the node that a stream determines is what the stream alone makes of it, and the stream
has the answers that it has alone. -/
lemma Determines.after {α : Type} {stream : List Report.Kind} {part : Node → α}
    (hd : Determines stream part) (retention : Retention) (network : String) (rs : List Report) :
    part (Node.after retention network rs) =
        part (Node.after retention network (ofStream stream rs)) ∧
      answeredOf stream (log retention network rs) =
        log retention network (ofStream stream rs) :=
  hd.ingestAll rfl rs

/-- Headers determine the window and the latch. -/
lemma determines_headers : Determines [.header] fun n => (n.window, n.halted) where
  keeps n r hr := by
    cases r with
    | header h => simp [Report.isOf, Report.kind] at hr
    | status s =>
      obtain ⟨hwindow, hhalted, -, -⟩ := status_frame n s
      exact Prod.ext hwindow hhalted
    | l1Status | l1Block => rfl
  agrees n m r hr hpart := by
    cases r with
    | header h =>
      obtain ⟨hwindow, hhalted⟩ := Prod.mk.inj hpart
      obtain ⟨hanswer, hwindow', hhalted'⟩ := header_congr hwindow hhalted h
      exact ⟨hanswer, Prod.ext hwindow' hhalted'⟩
    | status | l1Status | l1Block => simp [Report.isOf, Report.kind] at hr

/-- L1 blocks determine the L1 table. -/
lemma determines_l1Blocks : Determines [.l1Block] fun n => n.l1Table where
  keeps n r hr := by
    cases r with
    | l1Block height hash => simp [Report.isOf, Report.kind] at hr
    | header h => exact (header_frame n h).2
    | status s => exact (status_frame n s).2.2.1
    | l1Status s => rfl
  agrees n m r hr hpart := by
    cases r with
    | l1Block height hash => simp_all [ingest, takeL1Block, L1Table.record]
    | status | l1Status | header => simp [Report.isOf, Report.kind] at hr

/-- L1 statuses determine the published L1 status. -/
lemma determines_l1Statuses : Determines [.l1Status] fun n => n.snapshot.l1 where
  keeps n r hr := by
    cases r with
    | l1Status s => simp [Report.isOf, Report.kind] at hr
    | header h => exact congrArg Snapshot.l1 (header_frame n h).1
    | status s => exact (status_frame n s).2.2.2
    | l1Block height hash => rfl
  agrees n m r hr _ := by
    cases r with
    | l1Status s => exact ⟨rfl, rfl⟩
    | status | header | l1Block => simp [Report.isOf, Report.kind] at hr

/-- What a node has of the chain. -/
def chainPart (n : Node) : Window × Bool × ClientStatus :=
  (n.window, n.halted, n.snapshot.client)

/-- What a node has of the L1 chain. -/
def l1Part (n : Node) : L1Table × L1Status :=
  (n.l1Table, n.snapshot.l1)

/-- Headers and client statuses together determine what a node has of the chain. -/
lemma determines_chainPart : Determines chainKinds chainPart where
  keeps n r hr := by
    cases r with
    | status | header => simp [Report.isOf, Report.kind, chainKinds] at hr
    | l1Status | l1Block => rfl
  agrees n m r hr hpart := by
    simp only [chainPart, Prod.mk.injEq] at hpart ⊢
    obtain ⟨hwindow, hhalted, hclient⟩ := hpart
    cases r with
    | header h =>
      obtain ⟨hanswer, hwindow', hhalted'⟩ := header_congr hwindow hhalted h
      rw [(header_frame n h).1, (header_frame m h).1]
      exact ⟨hanswer, hwindow', hhalted', hclient⟩
    | status s =>
      obtain ⟨hanswer, hclient'⟩ := status_congr hwindow hclient s
      obtain ⟨hnwindow, hnhalted, -, -⟩ := status_frame n s
      obtain ⟨hmwindow, hmhalted, -, -⟩ := status_frame m s
      rw [hnwindow, hnhalted, hmwindow, hmhalted]
      exact ⟨hanswer, hwindow, hhalted, hclient'⟩
    | l1Status | l1Block => simp [Report.isOf, Report.kind, chainKinds] at hr

/-- L1 statuses and L1 blocks together determine what a node has of the L1 chain: each of them
determines its own part and leaves the other. -/
lemma determines_l1Part : Determines l1Kinds l1Part where
  keeps n r hr := by
    cases r with
    | header h =>
      exact Prod.ext (header_frame n h).2 (congrArg Snapshot.l1 (header_frame n h).1)
    | status s => exact Prod.ext (status_frame n s).2.2.1 (status_frame n s).2.2.2
    | l1Status | l1Block => simp [Report.isOf, Report.kind, l1Kinds] at hr
  agrees n m r hr hpart := by
    obtain ⟨hl1Table, hl1⟩ := Prod.mk.inj hpart
    cases r with
    | l1Block height hash =>
      obtain ⟨hanswer, hnext⟩ := determines_l1Blocks.agrees n m (.l1Block height hash) rfl hl1Table
      exact ⟨hanswer, Prod.ext hnext hl1⟩
    | l1Status s => exact ⟨rfl, Prod.ext hl1Table rfl⟩
    | status | header => simp [Report.isOf, Report.kind, l1Kinds] at hr

/-! ## Interleavings -/

/-- A node is what it has of the chain and of the L1 chain, and its version. -/
lemma eq_of_parts {n m : Node} (hchain : n.chainPart = m.chainPart) (hl1 : n.l1Part = m.l1Part)
    (hversion : n.snapshot.version = m.snapshot.version) : n = m := by
  obtain ⟨⟨client, l1, version⟩, window, l1Table, halted⟩ := n
  obtain ⟨⟨client', l1', version'⟩, window', l1Table', halted'⟩ := m
  simp only [chainPart, l1Part, Prod.mk.injEq] at hchain hl1 hversion
  obtain ⟨rfl, rfl, rfl⟩ := hchain
  obtain ⟨rfl, rfl⟩ := hl1
  subst hversion
  rfl

/-- The publications of a transcript are those of the chain and those of the L1 chain. -/
lemma countP_publishes (answered : List (Report × Except ReportFault Receipt)) :
    answered.countP publishes =
      (answeredOf chainKinds answered).countP publishes +
        (answeredOf l1Kinds answered).countP publishes := by
  have hl1 : answeredOf l1Kinds answered =
      answered.filter fun p => !p.1.isOf chainKinds := by
    unfold answeredOf
    simp only [Report.isOf_l1Kinds]
  rw [hl1]
  exact List.countP_eq_countP_filter_add ..

/-- Streams of reports do not interfere.  After any sequence of reports to a fresh node, the window,
the latch and the answers to headers are those of its headers alone; the L1 table and the answers to
L1 blocks are those of its L1 blocks alone; the published L1 status is that of its L1 statuses
alone; and the published client status and the answers to client statuses are those of its headers
and client statuses alone.  Hence two sequences that interleave the same reports of the chain and
the same reports of the L1 chain, each in their order, lead to the same node, with the same version,
and every report has the same answer in both. -/
theorem streams_do_not_interfere (retention : Retention) (network : String) :
    (∀ rs : List Report,
      let n := after retention network rs
      let alone (stream : List Report.Kind) := after retention network (ofStream stream rs)
      let answers := log retention network rs
      let answersAlone (stream : List Report.Kind) :=
        log retention network (ofStream stream rs)
      (n.window = (alone [.header]).window ∧ n.halted = (alone [.header]).halted ∧
          answeredOf [.header] answers = answersAlone [.header]) ∧
        (n.l1Table = (alone [.l1Block]).l1Table ∧
          answeredOf [.l1Block] answers = answersAlone [.l1Block]) ∧
        n.snapshot.l1 = (alone [.l1Status]).snapshot.l1 ∧
        n.snapshot.client = (alone chainKinds).snapshot.client ∧
        answeredOf [.status] answers = answeredOf [.status] (answersAlone chainKinds)) ∧
      ∀ rs rs' : List Report,
        ofStream chainKinds rs = ofStream chainKinds rs' →
        ofStream l1Kinds rs = ofStream l1Kinds rs' →
          after retention network rs = after retention network rs' ∧
            answeredOf chainKinds (log retention network rs) =
              answeredOf chainKinds (log retention network rs') ∧
            answeredOf l1Kinds (log retention network rs) =
              answeredOf l1Kinds (log retention network rs') := by
  constructor
  · intro rs n alone answers answersAlone
    obtain ⟨hheaders, hheaderAnswers⟩ := determines_headers.after retention network rs
    obtain ⟨hl1Table, hl1Answers⟩ := determines_l1Blocks.after retention network rs
    obtain ⟨hl1, -⟩ := determines_l1Statuses.after retention network rs
    obtain ⟨hchain, hchainAnswers⟩ := determines_chainPart.after retention network rs
    refine ⟨⟨congrArg Prod.fst hheaders, congrArg Prod.snd hheaders, hheaderAnswers⟩,
      ⟨hl1Table, hl1Answers⟩, hl1, congrArg (fun part => part.2.2) hchain, ?_⟩
    have hstatuses : ([.status] : List Report.Kind) ⊆ chainKinds := by decide
    rw [← answeredOf_answeredOf hstatuses answers]
    exact congrArg (answeredOf [.status]) hchainAnswers
  · intro rs rs' hchainReports hl1Reports
    obtain ⟨hchain, hchainAnswers⟩ := determines_chainPart.after retention network rs
    obtain ⟨hchain', hchainAnswers'⟩ := determines_chainPart.after retention network rs'
    obtain ⟨hl1, hl1Answers⟩ := determines_l1Part.after retention network rs
    obtain ⟨hl1', hl1Answers'⟩ := determines_l1Part.after retention network rs'
    rw [hchainReports] at hchain hchainAnswers
    rw [hl1Reports] at hl1 hl1Answers
    have hsameChain := hchainAnswers.trans hchainAnswers'.symm
    have hsameL1 := hl1Answers.trans hl1Answers'.symm
    refine ⟨eq_of_parts (hchain.trans hchain'.symm) (hl1.trans hl1'.symm) ?_, hsameChain, hsameL1⟩
    rw [version_after, version_after, countP_publishes, countP_publishes (log _ _ rs'),
      hsameChain, hsameL1]

end Node

end ChainView
