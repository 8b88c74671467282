import ChainView.Digest

/-!
# Status reports

What the node reports of the chain and of the L1 chain it is anchored in, and the snapshot that
holds the latest of both.  A snapshot is replaced as a whole, and its version counts the
replacements.
-/

namespace ChainView

/-- The view of the chain. -/
structure ClientStatus where
  /-- Id of the newest block. -/
  tip : Digest
  /-- Slot of the newest block. -/
  tipSlot : UInt64
  /-- Id of the newest finalized block. -/
  finalized : Digest
  /-- Hash of the newest L1 block seen. -/
  lastL1Block : Digest
  /-- Deepest L1 height treated as irreversible. -/
  buriedHeight : UInt64
  deriving DecidableEq, Inhabited

/-- The view of the chain that a syncing peer asks for. -/
structure SyncStatus where
  /-- Height of the newest block. -/
  tipHeight : UInt64
  /-- Id of the newest block. -/
  tipId : Digest
  /-- Id of the newest finalized block. -/
  finalizedId : Digest
  deriving DecidableEq, Inhabited

/-- The state of the reader of the L1 chain. -/
structure L1Status where
  /-- Whether the reader reaches its node. -/
  connected : Bool
  /-- Height of the L1 tip. -/
  height : UInt64
  /-- Hash of the L1 tip. -/
  tip : Digest
  /-- The last transaction published, if there was one. -/
  publishedTx : Option Digest
  /-- Number of inscriptions published. -/
  published : UInt64
  /-- Time of the last update, in milliseconds since the epoch. -/
  updatedAt : UInt64
  /-- Name of the L1 network. -/
  network : String
  deriving DecidableEq

namespace ClientStatus

/-- The status before anything was reported. -/
def initial : ClientStatus := ⟨.zero, 0, .zero, .zero, 0⟩

/-- Whether no finalized block was reported yet. -/
def isUnfinalized (s : ClientStatus) : Bool :=
  s.finalized.isZero

/-- The part of the status that a syncing peer asks for. -/
def sync (s : ClientStatus) : SyncStatus :=
  ⟨s.tipSlot, s.tip, s.finalized⟩

end ClientStatus

namespace L1Status

/-- The network of a node that is not told another. -/
def defaultNetwork : String := "signet"

/-- The status of a reader of `network` before its first report. -/
def initial (network : String) : L1Status := ⟨false, 0, .zero, none, 0, 0, network⟩

end L1Status

/-- A consistent view of both statuses. -/
structure Snapshot where
  /-- The view of the chain. -/
  client : ClientStatus
  /-- The view of the L1 chain. -/
  l1 : L1Status
  /-- The number of updates so far. -/
  version : UInt64
  deriving DecidableEq

/-- How a client status falls behind the current one. -/
inductive Regression where
  /-- The slot of the tip went backwards. -/
  | slot (current proposed : UInt64)
  /-- The buried L1 height went backwards. -/
  | buriedHeight (current proposed : UInt64)
  deriving DecidableEq

namespace Snapshot

/-- The snapshot of a node on `network` before anything was reported. -/
def initial (network : String) : Snapshot := ⟨.initial, .initial network, 0⟩

/-- Replaces the client status, unless its slot or its buried height went backwards. -/
def replaceClient (s : Snapshot) (status : ClientStatus) : Except Regression Snapshot :=
  if status.tipSlot < s.client.tipSlot then
    .error (.slot s.client.tipSlot status.tipSlot)
  else if status.buriedHeight < s.client.buriedHeight then
    .error (.buriedHeight s.client.buriedHeight status.buriedHeight)
  else .ok { s with client := status, version := s.version + 1 }

/-- Replaces the L1 status. -/
def replaceL1 (s : Snapshot) (status : L1Status) : Snapshot :=
  { s with l1 := status, version := s.version + 1 }

/-- A client status is taken exactly if neither number went backwards. -/
theorem replaceClient_eq_ok_iff {s next : Snapshot} {status : ClientStatus} :
    s.replaceClient status = .ok next ↔
      s.client.tipSlot ≤ status.tipSlot ∧ s.client.buriedHeight ≤ status.buriedHeight ∧
        next = { s with client := status, version := s.version + 1 } := by
  unfold replaceClient
  constructor
  · intro h
    split at h
    · cases h
    · split at h
      · cases h
      · cases h
        rename_i h₁ h₂
        exact ⟨UInt64.not_lt.mp h₁, UInt64.not_lt.mp h₂, rfl⟩
  · rintro ⟨h₁, h₂, rfl⟩
    rw [if_neg (UInt64.not_lt.mpr h₁), if_neg (UInt64.not_lt.mpr h₂)]

end Snapshot

end ChainView
