import ChainView.Chain.Header
import ChainView.Chain.Status
import ChainView.Json.Record
import ChainView.Json.Writer

/-!
# The wire form of headers and reports

Each entity is written as an object with its members in a fixed order, and read back by the shape
of that object.  Ids are bare hexadecimal text, except in the sync status, where they carry the mark
`0x`; reading takes either spelling everywhere.
-/

namespace ChainView

namespace Digest

/-- A digest as a value. -/
def toJson (d : Digest) : Json.Value := .string d.toHex

/-- A digest as a value, its text marked by `0x`. -/
def toMarkedJson (d : Digest) : Json.Value := .string d.toMarkedHex

/-- Reads a digest from its text. -/
def decoder : Json.Decoder Digest :=
  Json.Decoder.text.check fun s =>
    match ofHex s with
    | .ok d => .ok d
    | .error refusal => .error refusal.message

end Digest

namespace Header

open Json in
/-- The members of a header in their order. -/
def shape : Shape Header where
  name := "BlockHeader"
  blank := ⟨0, 0, .zero, .zero, .zero, .zero, .zero⟩
  members := [
    mustHave "block_idx" Decoder.word64 fun h v => { h with index := v },
    mustHave "timestamp" Decoder.word64 fun h v => { h with timestamp := v },
    mustHave "block_id" Digest.decoder fun h v => { h with id := v },
    mustHave "prev_block" Digest.decoder fun h v => { h with parent := v },
    mustHave "l1_segment_hash" Digest.decoder fun h v => { h with l1Segment := v },
    mustHave "exec_segment_hash" Digest.decoder fun h v => { h with execSegment := v },
    mustHave "state_root" Digest.decoder fun h v => { h with stateRoot := v }]
  lenient := false

/-- A header as an object. -/
def toJson (h : Header) : Json.Value :=
  .object [
    ("block_idx", .word h.index),
    ("timestamp", .word h.timestamp),
    ("block_id", h.id.toJson),
    ("prev_block", h.parent.toJson),
    ("l1_segment_hash", h.l1Segment.toJson),
    ("exec_segment_hash", h.execSegment.toJson),
    ("state_root", h.stateRoot.toJson)]

end Header

namespace ClientStatus

open Json in
/-- The members of a client status in their order. -/
def shape : Shape ClientStatus where
  name := "ChainStatus"
  blank := .initial
  members := [
    mustHave "chain_tip" Digest.decoder fun s v => { s with tip := v },
    mustHave "chain_tip_slot" Decoder.word64 fun s v => { s with tipSlot := v },
    mustHave "finalized_blkid" Digest.decoder fun s v => { s with finalized := v },
    mustHave "last_l1_block" Digest.decoder fun s v => { s with lastL1Block := v },
    mustHave "buried_l1_height" Decoder.word64 fun s v => { s with buriedHeight := v }]
  lenient := false

/-- A client status as an object. -/
def toJson (s : ClientStatus) : Json.Value :=
  .object [
    ("chain_tip", s.tip.toJson),
    ("chain_tip_slot", .word s.tipSlot),
    ("finalized_blkid", s.finalized.toJson),
    ("last_l1_block", s.lastL1Block.toJson),
    ("buried_l1_height", .word s.buriedHeight)]

end ClientStatus

namespace SyncStatus

open Json in
/-- The members of a sync status in their order. -/
def shape : Shape SyncStatus where
  name := "SyncStatus"
  blank := ⟨0, .zero, .zero⟩
  members := [
    mustHave "tip_height" Decoder.word64 fun s v => { s with tipHeight := v },
    mustHave "tip_block_id" Digest.decoder fun s v => { s with tipId := v },
    mustHave "finalized_block_id" Digest.decoder fun s v => { s with finalizedId := v }]
  lenient := false

/-- A sync status as an object. -/
def toJson (s : SyncStatus) : Json.Value :=
  .object [
    ("tip_height", .word s.tipHeight),
    ("tip_block_id", s.tipId.toMarkedJson),
    ("finalized_block_id", s.finalizedId.toMarkedJson)]

end SyncStatus

namespace L1Status

open Json in
/-- The members of an L1 status in their order. -/
def shape : Shape L1Status where
  name := "L1Status"
  blank := .initial ""
  members := [
    mustHave "bitcoin_rpc_connected" Decoder.bool fun s v => { s with connected := v },
    mustHave "cur_height" Decoder.word64 fun s v => { s with height := v },
    mustHave "cur_tip_blkid" Digest.decoder fun s v => { s with tip := v },
    mayHave "last_published_txid" (Decoder.optional Digest.decoder)
      fun s v => { s with publishedTx := v },
    mustHave "published_inscription_count" Decoder.word64 fun s v => { s with published := v },
    mustHave "last_update" Decoder.word64 fun s v => { s with updatedAt := v },
    mustHave "network" Decoder.text fun s v => { s with network := v }]
  lenient := false

/-- An L1 status as an object. -/
def toJson (s : L1Status) : Json.Value :=
  .object [
    ("bitcoin_rpc_connected", .bool s.connected),
    ("cur_height", .word s.height),
    ("cur_tip_blkid", s.tip.toJson),
    ("last_published_txid", .ofOption (s.publishedTx.map Digest.toJson)),
    ("published_inscription_count", .word s.published),
    ("last_update", .word s.updatedAt),
    ("network", .string s.network)]

end L1Status

end ChainView
