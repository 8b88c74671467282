import ChainView.Chain.Wire
import ChainView.Proofs.Json.Records

/-!
# Headers and reports are read back as written

A header, a status of the chain and a status of the reader of the L1 chain are each written as an
object whose members stand in the order of the shape by which it is read.  A result of a method
carries it with its keys sorted.  Both texts are read back as what was written, and so is any other
text in which the members stand in another order: the shape describes the members, and any two of
them may be set in either order.
-/

namespace ChainView

open Json

variable {depth : ℕ}

/-- A digest is read back from its text. -/
lemma Digest.reads_toJson (d : Digest) : Reads (Digest.decoder depth) d.toJson d :=
  (reads_text d.toHex).check (by simp only [d.ofHex_toHex])

/-- A digest is read back from its text with the mark in front of it. -/
lemma Digest.reads_toMarkedJson (d : Digest) : Reads (Digest.decoder depth) d.toMarkedJson d :=
  (reads_text d.toMarkedHex).check (by simp only [d.ofHex_toMarkedHex])

/-- A digest that may be missing is read back, and none from null. -/
lemma Digest.reads_optional (d : Option Digest) :
    Reads (Digest.decoder.optional depth) (.ofOption (d.map Digest.toJson)) d := by
  cases d with
  | none => exact reads_optional_null
  | some d => exact d.reads_toJson.optional (.string d.toHex : d.toJson.Exact 0) nofun

/-! ## Headers -/

namespace Header

/-- The members of a header may be set in any order. -/
lemma independent_shape : Header.shape.Independent where
  nodup := by decide
  commutes := by
    simp only [shape, List.pairwise_cons, List.forall_mem_cons, List.not_mem_nil,
      IsEmpty.forall_iff, implies_true, List.Pairwise.nil, and_true]
    and_intros <;> exact Member.commutes_of_put fun _ _ _ => rfl

/-- A header is written as a value that fits it. -/
lemma fits_toJson (h : Header) : Header.shape.Fits h.toJson h := by
  refine ⟨_, rfl, rfl, fun depth => ?_, ?_⟩
  · exact .cons rfl ((reads_word64 h.index).map _) <|
      .cons rfl ((reads_word64 h.timestamp).map _) <|
      .cons rfl (h.id.reads_toJson.map _) <|
      .cons rfl (h.parent.reads_toJson.map _) <|
      .cons rfl (h.l1Segment.reads_toJson.map _) <|
      .cons rfl (h.execSegment.reads_toJson.map _) <|
      .singleton rfl (h.stateRoot.reads_toJson.map _) rfl
  · simp only [List.forall_mem_cons]
    exact ⟨rfl, rfl, rfl, rfl, rfl, rfl, rfl, List.forall_mem_nil _⟩

/-- With its keys sorted, a header is read back. -/
lemma reads_sortKeys (h : Header) :
    Reads (Header.shape.decoder (depth + 1)) h.toJson.sortKeys h :=
  h.fits_toJson.reads_sortKeys independent_shape

end Header

/-! ## Statuses -/

namespace ClientStatus

/-- The members of a client status may be set in any order. -/
lemma independent_shape : ClientStatus.shape.Independent where
  nodup := by decide
  commutes := by
    simp only [shape, List.pairwise_cons, List.forall_mem_cons, List.not_mem_nil,
      IsEmpty.forall_iff, implies_true, List.Pairwise.nil, and_true]
    and_intros <;> exact Member.commutes_of_put fun _ _ _ => rfl

/-- A client status is written as a value that fits it. -/
lemma fits_toJson (s : ClientStatus) : ClientStatus.shape.Fits s.toJson s := by
  refine ⟨_, rfl, rfl, fun depth => ?_, ?_⟩
  · exact .cons rfl (s.tip.reads_toJson.map _) <|
      .cons rfl ((reads_word64 s.tipSlot).map _) <|
      .cons rfl (s.finalized.reads_toJson.map _) <|
      .cons rfl (s.lastL1Block.reads_toJson.map _) <|
      .singleton rfl ((reads_word64 s.buriedHeight).map _) rfl
  · simp only [List.forall_mem_cons]
    exact ⟨rfl, rfl, rfl, rfl, rfl, List.forall_mem_nil _⟩

/-- With its keys sorted, a client status is read back. -/
lemma reads_sortKeys (s : ClientStatus) :
    Reads (ClientStatus.shape.decoder (depth + 1)) s.toJson.sortKeys s :=
  s.fits_toJson.reads_sortKeys independent_shape

end ClientStatus

namespace SyncStatus

/-- The members of a sync status may be set in any order. -/
lemma independent_shape : SyncStatus.shape.Independent where
  nodup := by decide
  commutes := by
    simp only [shape, List.pairwise_cons, List.forall_mem_cons, List.not_mem_nil,
      IsEmpty.forall_iff, implies_true, List.Pairwise.nil, and_true]
    and_intros <;> exact Member.commutes_of_put fun _ _ _ => rfl

/-- A sync status is written as a value that fits it. -/
lemma fits_toJson (s : SyncStatus) : SyncStatus.shape.Fits s.toJson s := by
  refine ⟨_, rfl, rfl, fun depth => ?_, ?_⟩
  · exact .cons rfl ((reads_word64 s.tipHeight).map _) <|
      .cons rfl (s.tipId.reads_toMarkedJson.map _) <|
      .singleton rfl (s.finalizedId.reads_toMarkedJson.map _) rfl
  · simp only [List.forall_mem_cons]
    exact ⟨rfl, rfl, rfl, List.forall_mem_nil _⟩

/-- With its keys sorted, a sync status is read back. -/
lemma reads_sortKeys (s : SyncStatus) :
    Reads (SyncStatus.shape.decoder (depth + 1)) s.toJson.sortKeys s :=
  s.fits_toJson.reads_sortKeys independent_shape

end SyncStatus

namespace L1Status

/-- The members of an L1 status may be set in any order. -/
lemma independent_shape : L1Status.shape.Independent where
  nodup := by decide
  commutes := by
    simp only [shape, List.pairwise_cons, List.forall_mem_cons, List.not_mem_nil,
      IsEmpty.forall_iff, implies_true, List.Pairwise.nil, and_true]
    and_intros <;> exact Member.commutes_of_put fun _ _ _ => rfl

/-- An L1 status is written as a value that fits it. -/
lemma fits_toJson (s : L1Status) : L1Status.shape.Fits s.toJson s := by
  refine ⟨_, rfl, rfl, fun depth => ?_, ?_⟩
  · exact .cons rfl ((reads_bool s.connected).map _) <|
      .cons rfl ((reads_word64 s.height).map _) <|
      .cons rfl (s.tip.reads_toJson.map _) <|
      .cons rfl ((Digest.reads_optional s.publishedTx).map _) <|
      .cons rfl ((reads_word64 s.published).map _) <|
      .cons rfl ((reads_word64 s.updatedAt).map _) <|
      .singleton rfl ((reads_text s.network).map _) rfl
  · simp only [List.forall_mem_cons]
    have htx : (Value.ofOption (s.publishedTx.map Digest.toJson)).sortKeys =
        .ofOption (s.publishedTx.map Digest.toJson) := by
      cases s.publishedTx <;> rfl
    exact ⟨rfl, rfl, rfl, htx, rfl, rfl, rfl, List.forall_mem_nil _⟩

/-- With its keys sorted, an L1 status is read back. -/
lemma reads_sortKeys (s : L1Status) :
    Reads (L1Status.shape.decoder (depth + 1)) s.toJson.sortKeys s :=
  s.fits_toJson.reads_sortKeys independent_shape

end L1Status

end ChainView
