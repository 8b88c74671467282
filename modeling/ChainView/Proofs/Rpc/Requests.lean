import Mathlib.Data.List.Nodup
import ChainView.Proofs.Json.Grammar
import ChainView.Proofs.Rpc.Envelope

/-!
# Requests are understood as they are sent

A client has much freedom in how it sends a request.  It may put the members of the object in any
order and others among them, leave out parameters if there are none, space the text out and spell
its strings as it likes.  None of this matters.  What the reader of an envelope asks for is found
under its key wherever it stands, since no other member has that key (`heldBy_of_perm`), and the
value is the same for all texts of the object.  So the request that is read is the one that was sent
(`readRequest_of_hasText`).
-/

namespace ChainView.Rpc

/-- The keys under which the parts of a request stand. -/
def requestKeys : List String := ["jsonrpc", "method", "params", "id"]

/-- The members by which the parameters of a request are given: a list of them, and if there are
none, also null or nothing at all. -/
inductive GivenBy : List Json.Value → List (String × Json.Value) → Prop
  /-- The list of them. -/
  | list (params : List Json.Value) : GivenBy params [("params", .array params)]
  /-- Null, if there are none. -/
  | null : GivenBy [] [("params", .null)]
  /-- Nothing, if there are none. -/
  | missing : GivenBy [] []

/-- The members that name the version of the protocol, the method and the id of a request. -/
def envelopeMembers (method : String) (id : RequestId) : List (String × Json.Value) :=
  [("jsonrpc", .string "2.0"), ("method", .string method), ("id", id.toJson)]

/-- The keys of an id are sorted, as it has none. -/
@[simp] lemma RequestId.sortKeys_toJson (id : RequestId) : id.toJson.sortKeys = id.toJson := by
  cases id <;> rfl

section Members

variable {method : String} {id : RequestId} {params : List Json.Value}
  {given further members : List (String × Json.Value)}

/-- The envelope and the parameters are given under different keys. -/
lemma GivenBy.nodup_keys (h : GivenBy params given) :
    ((envelopeMembers method id ++ given).map Prod.fst).Nodup := by
  have hwith : ["jsonrpc", "method", "id", "params"].Nodup := by decide
  have hwithout : ["jsonrpc", "method", "id"].Nodup := by decide
  cases h with
  | list params => exact hwith
  | null => exact hwith
  | missing => exact hwithout

/-- What is given under a key of a request is found under it once the members are in order, wherever
it stands. -/
lemma lookup_of_perm (hgiven : GivenBy params given) (hfurther : ∀ m ∈ further, m.1 ∉ requestKeys)
    (hmembers : members.Perm (envelopeMembers method id ++ given ++ further)) {key : String}
    (hkey : key ∈ requestKeys) {v : Json.Value}
    (hv : (key, v) ∈ envelopeMembers method id ++ given) :
    (Json.orderMembers (Json.sortValues members)).lookup key = some v.sortKeys := by
  refine Json.lookup_sorted_of_mem (hmembers.mem_iff.mpr (List.mem_append_left _ hv)) ?_
  intro w hw
  rcases List.mem_append.mp (hmembers.mem_iff.mp hw) with hw | hw
  · exact (Prod.mk.inj (List.inj_on_of_nodup_map hgiven.nodup_keys hw hv rfl)).2
  · exact absurd hkey (hfurther _ hw)

/-- Members that name version, method and id, give the parameters and have other keys apart from
that hold the request once they are in order. -/
lemma heldBy_of_perm (hpos : 1 ≤ method.utf8ByteSize) (hle : method.utf8ByteSize ≤ 256)
    (hid : ∀ x, id ≠ .float x) (hgiven : GivenBy params given)
    (hfurther : ∀ m ∈ further, m.1 ∉ requestKeys)
    (hmembers : members.Perm (envelopeMembers method id ++ given ++ further)) :
    (⟨method, params.map Json.Value.sortKeys, id⟩ : Request).HeldBy
      (Json.orderMembers (Json.sortValues members)) where
  id := by
    rw [lookup_of_perm hgiven hfurther hmembers (by decide) (v := id.toJson)
      (by simp [envelopeMembers]), RequestId.sortKeys_toJson]
  id_exact := hid
  version := lookup_of_perm hgiven hfurther hmembers (by decide) (v := .string "2.0")
    (by simp [envelopeMembers])
  method := lookup_of_perm hgiven hfurther hmembers (by decide) (v := .string method)
    (by simp [envelopeMembers])
  method_ne := by
    rintro rfl
    exact absurd hpos (by decide)
  method_le := hle
  params := by
    have hkey : "params" ∈ requestKeys := by decide
    have hfound {v : Json.Value} (hv : ("params", v) ∈ given) :=
      lookup_of_perm hgiven hfurther hmembers hkey (List.mem_append_right _ hv)
    cases hgiven with
    | list params =>
      rw [hfound List.mem_cons_self, Json.Value.sortKeys, Json.sortItems_eq_map]
      exact .inl rfl
    | null => exact .inr ⟨rfl, .inr (hfound List.mem_cons_self)⟩
    | missing =>
      refine .inr ⟨rfl, .inl (Json.lookup_sorted_of_forall_not_mem fun v hv => ?_)⟩
      rcases List.mem_append.mp (hmembers.mem_iff.mp hv) with hv | hv
      · simp [envelopeMembers] at hv
      · exact hfurther _ hv hkey

end Members

/-- A request is understood as it is sent.  Let the members of an object name the version of the
protocol, a method of 1 to 256 bytes, and an id, and give parameters, in any order and with any
further members under other names among them.  If there are no parameters, they may be null or left
out.  In the whole object there are no numbers but integers, so the id is an integer or a text, and
its lists and objects are nested to no more than the limit.  Then from every text of the object,
however it is spaced and its strings are spelled, exactly this method, these parameters and this id
are read.  Objects among the parameters get their members in the order of their keys, so parameters
in which they have it already are left as they are. -/
theorem readRequest_of_hasText {method : String} {id : RequestId} {params : List Json.Value}
    {given further members : List (String × Json.Value)} {text : Bytes}
    (hpos : 1 ≤ method.utf8ByteSize) (hle : method.utf8ByteSize ≤ 256)
    (hgiven : GivenBy params given) (hfurther : ∀ m ∈ further, m.1 ∉ requestKeys)
    (hmembers : members.Perm (envelopeMembers method id ++ given ++ further))
    (hexact : (Json.Value.object members).Exact Json.nestingLimit)
    (htext : (Json.Value.object members).HasText text) :
    readRequest text = .ok ⟨method, params.map Json.Value.sortKeys, id⟩ ∧
      ((∀ p ∈ params, p.sortKeys = p) → readRequest text = .ok ⟨method, params, id⟩) := by
  have hid : ∀ x, id ≠ .float x := by
    rintro x rfl
    cases hexact with
    | object hvalues =>
      have hmem : ("id", Json.Value.float x) ∈ members :=
        hmembers.mem_iff.mpr (List.mem_append_left _ (List.mem_append_left _ (by
          simp [envelopeMembers, RequestId.toJson])))
      cases hvalues _ hmem
  have hparse := Json.parse_of_hasText htext hexact (Nat.le_refl _)
  rw [Json.Value.sortKeys] at hparse
  have hread : readRequest text = .ok ⟨method, params.map Json.Value.sortKeys, id⟩ :=
    readRequest_eq_ok_iff.mpr
      ⟨_, hparse, heldBy_of_perm hpos hle hid hgiven hfurther hmembers⟩
  refine ⟨hread, fun hsorted => ?_⟩
  rw [hread, List.map_congr_left hsorted, List.map_id']

open Json in
/-- Parameters, the least integer as the id and a method with an escape in its name are understood,
sent in backward order behind a further member. -/
theorem readRequest_of_backward_members :
    let id : RequestId := .integer ⟨-9223372036854775808, by decide, by decide⟩
    let params : List Value := [.object [("b", .null), ("a", .array [])], .string "1"]
    let given : List (String × Value) := [("params", .array params)]
    let further : List (String × Value) := [("note", .bool true)]
    let sent : List MemberText := [.written ("note", .bool true),
      ⟨"params", .array params, 0x20 :: writeString "params", (Value.array params).write⟩,
      .written ("id", id.toJson),
      ⟨"method", .string "aé", writeString "method", Text.bytesOf "\x22\\u0061é\x22"⟩,
      .written ("jsonrpc", .string "2.0")]
    let members := sent.map MemberText.member
    let text := Ascii.openBrace :: (separate (sent.map MemberText.text) ++ [Ascii.closeBrace])
    1 ≤ "aé".utf8ByteSize ∧ "aé".utf8ByteSize ≤ 256 ∧ GivenBy params given ∧
      (∀ m ∈ further, m.1 ∉ requestKeys) ∧
      members.Perm (envelopeMembers "aé" id ++ given ++ further) ∧
      (Value.object members).Exact nestingLimit ∧ (Value.object members).HasText text ∧
      readRequest text =
        .ok ⟨"aé", [.object [("a", .array []), ("b", .null)], .string "1"], id⟩ := by
  intro id params given further sent members text
  have hpos : 1 ≤ "aé".utf8ByteSize := by decide
  have hle : "aé".utf8ByteSize ≤ 256 := by decide
  have hfurther : ∀ m ∈ further, m.1 ∉ requestKeys :=
    List.forall_mem_singleton.mpr (by decide)
  have hmembers : members.Perm (envelopeMembers "aé" id ++ given ++ further) :=
    List.reverse_perm (envelopeMembers "aé" id ++ given ++ further)
  have hparams : (Value.array params).Exact 126 := by
    refine .array ?_
    simp only [params, List.forall_mem_cons]
    refine ⟨.object ?_, .string _, List.forall_mem_nil _⟩
    simp only [List.forall_mem_cons]
    exact ⟨.null, .array (List.forall_mem_nil _), List.forall_mem_nil _⟩
  have hexact : (Value.object members).Exact 127 := by
    refine .object ?_
    simp only [members, sent, List.map_cons, List.map_nil, List.forall_mem_cons]
    exact ⟨.bool true, hparams, .integer _, .string _, .string _, List.forall_mem_nil _⟩
  have hname : (Value.string "aé").HasText (Text.bytesOf "\x22\\u0061é\x22") := by
    have hspelled : Spelled ['a', 'é'] (Ascii.backslash :: Ascii.byte 'u' ::
        [0x30, 0x30, 0x36, 0x31] ++ (String.utf8EncodeChar 'é' ++ [])) :=
      .cons (.number rfl rfl) (.cons (.raw (by decide) (by decide) (by decide)) .nil)
    have hchars : "aé".toList = ['a', 'é'] := by decide
    have hbytes : Text.bytesOf "\x22\\u0061é\x22" = Ascii.quote :: (Ascii.backslash ::
        Ascii.byte 'u' :: [0x30, 0x30, 0x36, 0x31] ++ (String.utf8EncodeChar 'é' ++ [])
          ++ [Ascii.quote]) := by decide +kernel
    rw [hbytes]
    exact .string (hchars ▸ hspelled)
  have hkeys : ∀ m ∈ sent, KeyText m.key m.keyText := by
    have hspaced : KeyText "params" (0x20 :: writeString "params") :=
      @KeyText.string _ [0x20] _ [] (List.forall_mem_singleton.mpr rfl) (spelled_written _)
        blank_nil
    simp only [sent, List.forall_mem_cons]
    exact ⟨keyText_writeString _, hspaced, keyText_writeString _, keyText_writeString _,
      keyText_writeString _, List.forall_mem_nil _⟩
  have hvalues : ∀ m ∈ sent, m.value.HasText m.valueText := by
    simp only [sent, List.forall_mem_cons]
    exact ⟨.bool true, hparams.hasText_write, .integer _, hname,
      (Value.Exact.string _ : Value.Exact 0 _).hasText_write, List.forall_mem_nil _⟩
  have htext : (Value.object members).HasText text := .object blank_nil hkeys hvalues
  refine ⟨hpos, hle, .list params, hfurther, hmembers, hexact, htext, ?_⟩
  have hread := (readRequest_of_hasText hpos hle (.list params) hfurther hmembers hexact htext).1
  simp +decide only [params, List.map_cons, List.map_nil, Value.sortKeys, sortValues, sortItems,
    orderMembers, insertMember, List.foldl, if_true] at hread
  exact hread

end ChainView.Rpc
