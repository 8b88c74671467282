import ChainView.Chain.Window
import ChainView.Chain.L1Table
import ChainView.Chain.Status

/-!
# The node

The node holds the snapshot of statuses, the window of headers and the index of L1 blocks, and takes
in what a follower of the chain reports.  A header that does not extend the newest one breaks the
chain: from then on the node takes in no header and goes on answering from the window it has.
Everything else is taken in as before.  A report that is refused changes nothing but that latch.
-/

namespace ChainView

/-- The state of a node. -/
structure Node where
  /-- The statuses reported last. -/
  snapshot : Snapshot
  /-- The recent headers. -/
  window : Window
  /-- The recent L1 blocks. -/
  l1Table : L1Table
  /-- Whether headers are no longer taken in. -/
  halted : Bool

/-- Why a report is refused. -/
inductive ReportFault where
  /-- A header does not extend the newest one. -/
  | discontinuity (d : Discontinuity)
  /-- Headers are no longer taken in. -/
  | halted
  /-- A client status falls behind the current one. -/
  | regression (r : Regression)
  /-- The finalized block of a client status is known to be no ancestor of its tip. -/
  | finalizedNotAncestor (finalized tip : Digest)
  deriving DecidableEq

namespace ReportFault

/-- Whether the error ends the taking in of headers. -/
def endsIntake : ReportFault → Bool
  | .discontinuity _ => true
  | .halted => true
  | .regression _ => false
  | .finalizedNotAncestor _ _ => false

/-- The wording of an error. -/
def message : ReportFault → String
  | .discontinuity d =>
    "chain discontinuity: expected block " ++ toString d.expectedIndex ++ " on top of "
      ++ d.expectedParent.toHex ++ ", got block " ++ toString d.foundIndex ++ " on top of "
      ++ d.foundParent.toHex
  | .halted => "header ingestion halted after a chain discontinuity"
  | .regression (.slot current proposed) =>
    "chain tip slot regressed from " ++ toString current ++ " to " ++ toString proposed
  | .regression (.buriedHeight current proposed) =>
    "buried L1 height regressed from " ++ toString current ++ " to " ++ toString proposed
  | .finalizedNotAncestor finalized tip =>
    "finalized block " ++ finalized.toHex ++ " is not an ancestor of tip " ++ tip.toHex

end ReportFault

/-- What a follower of the chain reports. -/
inductive Report where
  /-- The view of the chain. -/
  | status (s : ClientStatus)
  /-- The state of the reader of the L1 chain. -/
  | l1Status (s : L1Status)
  /-- A header on top of the newest one. -/
  | header (h : Header)
  /-- A block of the L1 chain. -/
  | l1Block (height : UInt64) (hash : Digest)
  deriving DecidableEq

/-- What a report that is taken in did. -/
inductive Receipt where
  /-- It was taken in. -/
  | accepted
  /-- It was recorded among the L1 blocks. -/
  | recorded (r : L1Change)
  deriving DecidableEq

namespace Node

/-- A fresh node of `network`. -/
def create (retention : Retention) (network : String) : Node where
  snapshot := .initial network
  window := .empty retention.maxHeaders.toNat
  l1Table := .empty retention.maxL1Blocks.toNat
  halted := false

/-- Whether the finalized block of a status is known to be no ancestor of its tip. -/
def refutesFinality (n : Node) (s : ClientStatus) : Bool :=
  s.finalized ≠ s.tip && n.window.leadsTo? s.finalized s.tip = some false

/-- Takes in a client status. -/
def takeStatus (n : Node) (s : ClientStatus) : Except ReportFault Node :=
  if n.refutesFinality s then .error (.finalizedNotAncestor s.finalized s.tip)
  else
    match n.snapshot.replaceClient s with
    | .ok snapshot => .ok { n with snapshot }
    | .error r => .error (.regression r)

/-- Takes in an L1 status. -/
def takeL1Status (n : Node) (s : L1Status) : Node :=
  { n with snapshot := n.snapshot.replaceL1 s }

/-- Takes in a header; the first one that breaks the chain sets the latch. -/
def takeHeader (n : Node) (h : Header) : Except ReportFault Unit × Node :=
  if n.halted then (.error .halted, n)
  else
    match n.window.append h with
    | .ok window => (.ok (), { n with window })
    | .error d => (.error (.discontinuity d), { n with halted := true })

/-- Takes in an L1 block. -/
def takeL1Block (n : Node) (height : UInt64) (hash : Digest) : L1Change × Node :=
  let (r, l1Table) := n.l1Table.record height hash
  (r, { n with l1Table })

/-- Takes in a report. -/
def ingest (n : Node) : Report → Except ReportFault Receipt × Node
  | .status s =>
    match n.takeStatus s with
    | .ok next => (.ok .accepted, next)
    | .error e => (.error e, n)
  | .l1Status s => (.ok .accepted, n.takeL1Status s)
  | .header h =>
    match n.takeHeader h with
    | (.ok (), next) => (.ok .accepted, next)
    | (.error e, next) => (.error e, next)
  | .l1Block height hash =>
    let (r, next) := n.takeL1Block height hash
    (.ok (.recorded r), next)

/-- Takes in a sequence of reports and gives the answer to each. -/
def ingestAll (n : Node) : List Report → List (Except ReportFault Receipt) × Node
  | [] => ([], n)
  | r :: rest =>
    let (answer, next) := n.ingest r
    let (answers, last) := next.ingestAll rest
    (answer :: answers, last)

@[simp] theorem ingestAll_nil (n : Node) : n.ingestAll [] = ([], n) := rfl

@[simp] theorem ingestAll_cons (n : Node) (r : Report) (rest : List Report) :
    n.ingestAll (r :: rest) =
      ((n.ingest r).1 :: ((n.ingest r).2.ingestAll rest).1,
        ((n.ingest r).2.ingestAll rest).2) := rfl

/-- A sequence of reports may be taken in piece by piece. -/
theorem ingestAll_append (n : Node) (first second : List Report) :
    n.ingestAll (first ++ second) =
      ((n.ingestAll first).1 ++ ((n.ingestAll first).2.ingestAll second).1,
        ((n.ingestAll first).2.ingestAll second).2) := by
  induction first generalizing n with
  | nil => simp
  | cons r rest ih => simp [ih]

end Node

end ChainView
