import ChainView.Crypto.Sha256
import ChainView.Settings.Node

/-!
# The follower for development

A follower that makes up a chain instead of following one.  Every step makes a block on top of the
last one and reports it to the node as a real follower would: the header, now and then a block of
the L1 chain, and the status of the chain.  All ids are digests of what came before and of the time
of the step, so a sequence of times determines the chain.  A step that the node refuses leaves the
follower on its last block, so the next one will be refused too.

The heights of both chains are words that are counted up with nothing to stop them.  A step that
would count past the greatest word is given up where it stands.
-/

namespace ChainView

/-- The word above another, unless there is none. -/
def wordAbove? (x : UInt64) : Option UInt64 :=
  if x.toNat + 1 < UInt64.size then some (x + 1) else none

/-- A word is above another exactly if it is greater by one. -/
theorem wordAbove?_eq_some_iff {x y : UInt64} :
    wordAbove? x = some y ↔ y.toNat = x.toNat + 1 := by
  have hlt : y.toNat < UInt64.size := y.toNat_lt
  unfold wordAbove?
  split
  · rename_i hroom
    have hsucc : (x + 1).toNat = x.toNat + 1 := by
      rw [UInt64.toNat_add, UInt64.toNat_one]
      exact Nat.mod_eq_of_lt hroom
    rw [Option.some_inj, ← UInt64.toNat_inj, hsucc]
    exact eq_comm
  · exact iff_of_false nofun (by omega)

/-- There is a word above another exactly if that is not the greatest one. -/
theorem wordAbove?_eq_none_iff {x : UInt64} : wordAbove? x = none ↔ x.toNat + 1 = UInt64.size := by
  have hlt : x.toNat < UInt64.size := x.toNat_lt
  unfold wordAbove?
  split
  · exact iff_of_false nofun (by omega)
  · exact iff_of_true rfl (by omega)

/-- The word above another is the next one. -/
theorem eq_add_one_of_wordAbove? {x y : UInt64} (h : wordAbove? x = some y) : y = x + 1 := by
  unfold wordAbove? at h
  split at h
  · exact (Option.some.inj h).symm
  · cases h

/-- Why a step makes no block. -/
inductive StepFault where
  /-- The node refuses a report. -/
  | refused (fault : ReportFault)
  /-- A height would pass the greatest word. -/
  | overflow
  deriving DecidableEq

/-- The wording of a fault. -/
def StepFault.message : StepFault → String
  | .refused fault => fault.message
  | .overflow => "attempt to add with overflow"

/-- The state of a follower. -/
structure Follower where
  /-- Its settings. -/
  settings : FollowerSettings
  /-- The name of the L1 network. -/
  network : String
  /-- The last block that was reported in full. -/
  tip : Option Header
  /-- The ids of the newest blocks, from the finalized one on. -/
  recent : List Digest
  /-- The height of the last L1 block. -/
  l1Height : Option UInt64
  /-- The hash of the last L1 block. -/
  l1Tip : Digest

namespace Follower

/-- A follower before its first block. -/
def create (settings : FollowerSettings) (network : String) : Follower :=
  ⟨settings, network, none, [], none, .zero⟩

/-- The digest of a label followed by an id. -/
def labelled (label : String) (id : Digest) : Digest :=
  Sha256.hash (Text.bytesOf label ++ id.bytes)

/-- The id of the block at a height on top of a parent, made at a time. -/
def blockId (parent : Digest) (index time : UInt64) : Digest :=
  Sha256.hash (parent.bytes ++ Sha256.longBytes index ++ Sha256.longBytes time)

/-- The hash of the L1 block at a height on top of another. -/
def l1Hash (parent : Digest) (height : UInt64) : Digest :=
  Sha256.hash (Text.bytesOf "l1-block" ++ parent.bytes ++ Sha256.longBytes height)

/-- The block at a height on top of a parent, made at a time. -/
def block (parent : Digest) (index time : UInt64) : Header :=
  let id := blockId parent index time
  { index := index
    timestamp := time
    id := id
    parent := parent
    l1Segment := labelled "l1-segment" id
    execSegment := labelled "exec-segment" id
    stateRoot := labelled "state-root" id }

/-- The height of the next block, unless the last one is at the greatest height. -/
def nextIndex? (f : Follower) : Option UInt64 :=
  match f.tip with
  | some tip => wordAbove? tip.index
  | none => some 0

/-- The id of the last block, on top of which the next one is made. -/
def parentId (f : Follower) : Digest :=
  (f.tip.map Header.id).getD .zero

/-- The block on top of the last one, made at a time, if there is a height for it. -/
def nextBlock? (f : Follower) (time : UInt64) : Option Header :=
  f.nextIndex?.map fun index => block f.parentId index time

/-- The height of the next L1 block, unless the last one is at the greatest height. -/
def nextL1Height? (f : Follower) : Option UInt64 :=
  match f.l1Height with
  | some height => wordAbove? height
  | none => some f.settings.l1StartHeight

/-- Whether an L1 block comes with the block at a height. -/
def bringsL1 (f : Follower) (index : UInt64) : Bool :=
  f.settings.l1Interval ≠ 0 && index % f.settings.l1Interval = 0

/-- The status of the reader of the L1 chain behind a block. -/
def l1Status (f : Follower) (height : UInt64) (hash : Digest) (time : UInt64) : L1Status where
  connected := true
  height := height
  tip := hash
  publishedTx := none
  published := 0
  updatedAt := time
  network := f.network

/-- Reports the L1 block that comes with the block at a height, if one does.  There is no result if
there is no height for it; nothing of it is reported then. -/
def bringL1? (f : Follower) (n : Node) (index time : UInt64) : Option (Follower × Node) :=
  if f.bringsL1 index then
    f.nextL1Height?.map fun height =>
      let hash := l1Hash f.l1Tip height
      let n := (n.takeL1Block height hash).2.takeL1Status (f.l1Status height hash time)
      ({ f with l1Height := some height, l1Tip := hash }, n)
  else some (f, n)

/-- The number of ids that are kept: the finalized block and those above it. -/
def span (f : Follower) : Nat :=
  Nat.min (f.settings.finalityDepth.toNat + 1) (UInt64.size - 1)

/-- Adds the id of a block to the newest ones. -/
def keepId (f : Follower) (id : Digest) : Follower :=
  let ids := f.recent ++ [id]
  { f with recent := ids.drop (ids.length - f.span) }

/-- The height below which the L1 chain is irreversible. -/
def buriedHeight (f : Follower) : UInt64 :=
  match f.l1Height with
  | some height =>
    if f.settings.l1BuryDepth ≤ height then height - f.settings.l1BuryDepth else 0
  | none => 0

/-- The status of the chain with a block as its tip. -/
def status (f : Follower) (h : Header) : ClientStatus where
  tip := h.id
  tipSlot := h.index
  finalized := f.recent.head?.getD h.id
  lastL1Block := f.l1Tip
  buriedHeight := f.buriedHeight

/-- Makes the next block at a time and reports it.  What was reported before a height overflows
stays reported. -/
def step (f : Follower) (n : Node) (time : UInt64) :
    Except StepFault Header × Follower × Node :=
  match f.nextBlock? time with
  | none => (.error .overflow, f, n)
  | some h =>
    match n.takeHeader h with
    | (.error e, n) => (.error (.refused e), f, n)
    | (.ok (), n) =>
      match f.bringL1? n h.index time with
      | none => (.error .overflow, f, n)
      | some (f, n) =>
        let f := f.keepId h.id
        match n.takeStatus (f.status h) with
        | .error e => (.error (.refused e), f, n)
        | .ok n => (.ok h, { f with tip := some h }, n)

/-- Makes blocks at a sequence of times, refused or not, until a height overflows; the answer to the
last step is given. -/
def stepAll (f : Follower) (n : Node) :
    List UInt64 → Option (Except StepFault Header) × Follower × Node
  | [] => (none, f, n)
  | time :: rest =>
    match f.step n time with
    | (.error .overflow, f, n) => (some (.error .overflow), f, n)
    | (answer, f, n) =>
      let (last, f, n) := f.stepAll n rest
      (last <|> some answer, f, n)

/-- Makes blocks at a sequence of times until a step fails: whether one did, and the end. -/
def run (f : Follower) (n : Node) : List UInt64 → Bool × Follower × Node
  | [] => (false, f, n)
  | time :: rest =>
    match f.step n time with
    | (.ok _, f, n) => f.run n rest
    | (.error _, f, n) => (true, f, n)

end Follower

end ChainView
