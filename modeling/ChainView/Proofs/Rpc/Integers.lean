import ChainView.Proofs.Json.OpenObjects
import ChainView.Proofs.Rpc.Echo
import ChainView.Proofs.Rpc.Queries

/-!
# Integers get through unchanged

An integer that a client writes in plain decimal passes through the reader of JSON, through a check
of its kind and, as an id, through the writer of the response.  Where it fits the word that is asked
for, it comes out as it went in: the id of a response has the digits of the id of the request, and
the node is asked for exactly the height or the number that was sent.  Where it does not fit, it is
read as a double-precision number, as a negative integer or not at all, and none of these is an id
or a word, so the request is refused.  No request is served under another number.

The request is left open in one place only: `OpenObject.fill` puts the integer in, and the request
is otherwise in order if it is one with a zero there.
-/

namespace ChainView.Rpc

open Json

/-! ## The end of a response -/

/-- The last member of an object is written last. -/
lemma writeMembers_append_singleton {members : List (String × Value)} (hne : members ≠ [])
    (m : String × Value) :
    writeMembers (members ++ [m]) = writeMembers members ++ Ascii.comma :: writeMember m := by
  cases members with
  | nil => exact absurd rfl hne
  | cons first members =>
    rw [List.cons_append, writeMembers_cons, writeMembers_cons, List.flatMap_append,
      List.append_assoc, List.flatMap_singleton]

/-- A response that carries an integer as its id ends with the digits of the integer. -/
lemma write_response_of_id {response : Response} {id : Integer}
    (hid : response.id = some (.integer id)) :
    ∃ front, response.write =
      front ++ Text.bytesOf (",\x22id\x22:" ++ toString id.toInt ++ "\x7d") := by
  have hkey : Text.bytesOf ",\x22id\x22:" = Ascii.comma :: (writeString "id" ++ [Ascii.colon]) := by
    decide
  have hend : Text.bytesOf "\x7d" = [Ascii.closeBrace] := by decide
  obtain ⟨members, hne, hmembers⟩ : ∃ members, members ≠ [] ∧
      response.toJson = .object (members ++ [("id", .integer id)]) := by
    refine ⟨_, ?_, by rw [Response.toJson, hid]; rfl⟩
    simp
  refine ⟨Ascii.openBrace :: writeMembers members, ?_⟩
  rw [Response.write, hmembers, Value.write, writeMembers_append_singleton hne, writeMember,
    Text.bytesOf_append, Text.bytesOf_append, hkey, hend, bytesOf_toString, Value.write]
  simp

/-- A body that is no request is answered with its rejection. -/
lemma Registry.response_of_rejection {γ : Type} (r : Registry γ) (context : γ) {body : Bytes}
    {rejection : Rejection} (h : readRequest body = .error rejection) :
    r.response context body = .ofError rejection.id? rejection.toErrorObject := by
  rw [response, reply, h]

/-! ## Requests that are left open -/

section Open

variable {o : OpenObject} {request : Request} {v : Value}

/-- A request that holds with one id holds with every other one that is put in its place. -/
lemma Request.HeldBy.with_id (h : request.HeldBy (o.members v)) (hkey : o.key = "id")
    (id : Integer) :
    { request with id := .integer id : Request }.HeldBy (o.members (.integer id)) := by
  have hsame : ∀ key ≠ "id", (o.members (.integer id)).lookup key = (o.members v).lookup key :=
    fun key hne => o.lookup_members_of_ne (by rwa [hkey]) _ _
  exact {
    id := by
      rw [← hkey]
      exact o.lookup_members_self _
    id_exact := fun x => nofun
    version := by rw [hsame _ (by decide), h.version]
    method := by rw [hsame _ (by decide), h.method]
    method_ne := h.method_ne
    method_le := h.method_le
    params := by
      rw [hsame _ (by decide)]
      exact h.params }

/-- A request that holds with some parameters holds with any others that are put in their place. -/
lemma Request.HeldBy.with_params (h : request.HeldBy (o.members v)) (hkey : o.key = "params")
    (params : Parameters) :
    { request with params := params : Request }.HeldBy (o.members (.array params)) := by
  have hsame : ∀ key ≠ "params",
      (o.members (.array params)).lookup key = (o.members v).lookup key :=
    fun key hne => o.lookup_members_of_ne (by rwa [hkey]) _ _
  exact {
    id := by rw [hsame _ (by decide), h.id]
    id_exact := h.id_exact
    version := by rw [hsame _ (by decide), h.version]
    method := by rw [hsame _ (by decide), h.method]
    method_ne := h.method_ne
    method_le := h.method_le
    params := by
      refine .inl ?_
      rw [← hkey]
      exact o.lookup_members_self _ }

/-- A request that is read from the text with a value put in is held by the members with it. -/
lemma heldBy_of_readRequest_fill {text : Bytes}
    (hreads : ReadsText (value (nestingLimit - 1)) text v)
    (hread : readRequest (o.fill text) = .ok request) : request.HeldBy (o.members v) := by
  obtain ⟨members, hparse, hr⟩ := readRequest_eq_ok_iff.mp hread
  rw [o.parse_fill hreads] at hparse
  obtain ⟨⟩ := hparse
  exact hr

/-- With a text put in at which the reader of JSON fails the request is refused, and the answer
carries no id. -/
lemma exists_response_fill_notJson {text : Bytes}
    (h : FailsText (value (nestingLimit - 1)) text) {γ : Type} (r : Registry γ) (context : γ) :
    ∃ e, r.response context (o.fill text) = .ofError none e ∧ e.code = -32700 := by
  obtain ⟨fault, hparse⟩ := o.exists_parse_fill_eq_error h
  have hread : readRequest (o.fill text) = .error (.notJson (fault.describe (o.fill text))) := by
    simp [readRequest, hparse]
  exact ⟨_, r.response_of_rejection context hread, rfl⟩

/-- Zero is written by one digit. -/
lemma plainText_zero : PlainText 0 (Text.bytesOf "0") := by
  have h := PlainText.digits (n := 0) blank_nil blank_nil
  rwa [List.nil_append, List.append_nil] at h

/-- Zero is read from this digit. -/
lemma readsText_zero {depth : ℕ} :
    ReadsText (value depth) (Text.bytesOf "0") (.integer ⟨0, by decide, by decide⟩) :=
  plainText_zero.readsText rfl

/-- A list of zero alone is read from this digit in brackets. -/
lemma readsText_list_zero {depth : ℕ} :
    ReadsText (value (depth + 1)) (Text.bytesOf "[0]")
      (.array [.integer ⟨0, by decide, by decide⟩]) := by
  have h := ListText.brackets blank_nil plainText_zero blank_nil
  rw [List.nil_append, List.append_nil] at h
  exact h.readsText rfl

/-! ## Ids -/

/-- With an id that fits a word the request is read, and its id is the integer. -/
lemma exists_readRequest_fill_id (hkey : o.key = "id")
    (hvalid : readRequest (o.fill (Text.bytesOf "0")) = .ok request) {n : ℤ} {text : Bytes}
    (ht : PlainText n text) (hn : FitsWord n) :
    ∃ id : Integer, id.toInt = n ∧
      readRequest (o.fill text) = .ok { request with id := .integer id } := by
  have hzero := heldBy_of_readRequest_fill readsText_zero hvalid
  exact ⟨⟨n, hn.1, hn.2⟩, rfl, readRequest_eq_ok_iff.mpr
    ⟨_, o.parse_fill (ht.readsText rfl), hzero.with_id hkey _⟩⟩

/-- With any other integer as its id the request is refused, and the answer carries no id. -/
lemma exists_response_fill_id_error (hkey : o.key = "id") {n : ℤ} {text : Bytes}
    (ht : PlainText n text) (hn : ¬ FitsWord n) {γ : Type} (r : Registry γ) (context : γ) :
    ∃ e, r.response context (o.fill text) = .ofError none e ∧
      (e.code = -32600 ∨ e.code = -32700) := by
  rcases exists_readsText_or_failsText hn (nestingLimit - 1) with ⟨x, hreads⟩ | hfails
  · have hid : readId (o.members (.float x)) = .error .badId := by
      have hlookup := o.lookup_members_self (.float x)
      rw [hkey] at hlookup
      simp [readId, hlookup, RequestId.ofValue?]
    have hread : readRequest (o.fill text) = .error (.envelope .badId none) := by
      simp [readRequest, o.parse_fill (hreads ht), requestOfValue, hid]
    exact ⟨_, r.response_of_rejection context hread, .inl rfl⟩
  · obtain ⟨e, hresponse, hcode⟩ := exists_response_fill_notJson (hfails ht) r context
    exact ⟨e, hresponse, .inr hcode⟩

/-! ## Words as parameters -/

/-- The methods that ask the node for something by a word, each with what it asks for. -/
inductive AsksByWord : String → (NodeView → UInt64 → Except Failure Value) → Prop
  /-- The hash of the L1 block at the height. -/
  | l1BlockHash : AsksByWord "strata_getL1blockHash" fun view height =>
      (view.l1HashAt height).map Digest.toJson
  /-- The header at the height, in a list. -/
  | headersAtIndex : AsksByWord "strata_getHeadersAtIdx" fun view index =>
      (view.headerAtHeight index).map fun h => .array [h.toJson]
  /-- As many of the newest headers as the number says. -/
  | recentHeaders : AsksByWord "strata_getRecentBlockHeaders" fun view count =>
      .ok (.array ((view.node.window.recent count.toNat).map Header.toJson))

namespace AsksByWord

variable {method : String} {query : NodeView → UInt64 → Except Failure Value}

/-- They have one parameter, a word. -/
lemma mem_schema (h : AsksByWord method query) : (method, [ParameterKind.word]) ∈ schema := by
  cases h <;> decide

/-- A call by a word answers what is asked for by this word. -/
lemma call (h : AsksByWord method query) (view : NodeView) (w : UInt64) :
    nodeRegistry.call view method [.word w] =
      .ok (.ofExcept ((query view w).map Value.sortKeys)) := by
  cases h with
  | l1BlockHash => exact call_l1BlockHash view w
  | headersAtIndex => exact call_headersAtIndex view w
  | recentHeaders => exact call_recentHeaders view w

/-- A call by a value that is no word is refused. -/
lemma call_of_word?_eq_none (h : AsksByWord method query) (view : NodeView) {v : Value}
    (hv : v.word? = none) :
    ∃ mismatch : Mismatch, nodeRegistry.call view method [v] =
      .error (.unfitParameters mismatch.message) := by
  have hmisfit : Misfit [.word] [v] := by
    by_contra hfit
    obtain ⟨w, rfl⟩ := not_misfit_singleton_iff.mp hfit
    rw [Value.word?_eq_some_iff.mpr rfl] at hv
    exact absurd hv nofun
  obtain ⟨m, hfind, hparams⟩ := exists_find?_nodeRegistry h.mem_schema
  rw [← hparams] at hmisfit
  obtain ⟨mismatch, hcheck⟩ := Method.exists_mismatch hmisfit
  exact ⟨mismatch, by simp [Registry.call, hfind, hcheck]⟩

end AsksByWord

/-- The response that gives what was asked for, or says that it is not there. -/
def Response.ofAnswer (id : RequestId) : Except Failure Value → Response
  | .ok v => .ofResult id v.sortKeys
  | .error e => .ofError (some id) e.toErrorObject

section Ask

variable {query : NodeView → UInt64 → Except Failure Value} (hkey : o.key = "params")
  (hvalid : readRequest (o.fill (Text.bytesOf "[0]")) = .ok request)
  (hasks : AsksByWord request.method query) {n : ℤ} {text : Bytes} (ht : ListText n text)
  (view : NodeView)

include hkey hvalid

/-- With any value as its parameter the request is read with this value. -/
lemma readRequest_fill_params {v : Value}
    (hreads : ReadsText (value (nestingLimit - 1)) text (.array [v])) :
    readRequest (o.fill text) = .ok { request with params := [v] } := by
  have hzero := heldBy_of_readRequest_fill readsText_list_zero hvalid
  exact readRequest_eq_ok_iff.mpr ⟨_, o.parse_fill hreads, hzero.with_params hkey _⟩

include hasks

/-- A value that is no word is refused as the parameter. -/
lemma exists_response_fill_params_error {v : Value} (hv : v.word? = none)
    (hreads : ReadsText (value (nestingLimit - 1)) text (.array [v])) :
    ∃ e, nodeRegistry.response view (o.fill text) = .ofError (some request.id) e ∧
      e.code = -32602 := by
  obtain ⟨mismatch, hcall⟩ := hasks.call_of_word?_eq_none view hv
  refine ⟨.unfitParameters mismatch.message, ?_, rfl⟩
  rw [Registry.response, Registry.reply, readRequest_fill_params hkey hvalid hreads]
  simp only [Registry.answer, hcall]

include ht

/-- With a word as its parameter the request is read with this word, and the node is asked for what
it says. -/
lemma response_fill_params_of_word {w : UInt64} (hw : (w.toNat : ℤ) = n) :
    readRequest (o.fill text) = .ok { request with params := [.word w] } ∧
      nodeRegistry.response view (o.fill text) = .ofAnswer request.id (query view w) := by
  have hread : readRequest (o.fill text) = .ok { request with params := [.word w] } :=
    readRequest_fill_params hkey hvalid (ht.readsText (k := .ofUInt64 w) hw)
  refine ⟨hread, ?_⟩
  rw [Registry.response, Registry.reply, hread]
  simp only [Registry.answer, hasks.call view w]
  cases query view w <;> rfl

/-- With any other integer as its parameter the request is refused. -/
lemma exists_response_fill_params_error_of_not_word
    (hn : ¬ (0 ≤ n ∧ n < 18446744073709551616)) :
    ∃ id e, nodeRegistry.response view (o.fill text) = .ofError id e ∧
      (e.code = -32602 ∨ e.code = -32700) := by
  by_cases hfits : FitsWord n
  · have hword : (Value.integer ⟨n, hfits.1, hfits.2⟩).word? = none := by
      have hneg : ¬ 0 ≤ n := fun h => hn ⟨h, hfits.2⟩
      exact if_neg hneg
    obtain ⟨e, hresponse, hcode⟩ := exists_response_fill_params_error hkey hvalid hasks view hword
      (ht.readsText rfl)
    exact ⟨_, e, hresponse, .inl hcode⟩
  · rcases ht.readsText_or_failsText hfits with ⟨x, hreads⟩ | hfails
    · obtain ⟨e, hresponse, hcode⟩ :=
        exists_response_fill_params_error (v := .float x) hkey hvalid hasks view rfl hreads
      exact ⟨_, e, hresponse, .inl hcode⟩
    · obtain ⟨e, hresponse, hcode⟩ := exists_response_fill_notJson hfails nodeRegistry view
      exact ⟨none, e, hresponse, .inr hcode⟩

end Ask

end Open

/-! ## Calls with one part left open -/

/-- A call without parameters, with its id left open. -/
def openId (method : String) : OpenObject :=
  .written "id" [("jsonrpc", .string "2.0"), ("method", .string method)] []
    (by
      simp only [List.append_nil, List.forall_mem_cons]
      exact ⟨⟨.string _, rfl⟩, ⟨.string _, rfl⟩, List.forall_mem_nil _⟩)
    (List.forall_mem_nil _)

/-- A call of the id `a`, with its parameters left open. -/
def openParams (method : String) : OpenObject :=
  .written "params" [("jsonrpc", .string "2.0"), ("method", .string method)] [("id", .string "a")]
    (by
      simp only [List.cons_append, List.nil_append, List.forall_mem_cons]
      exact ⟨⟨.string _, rfl⟩, ⟨.string _, rfl⟩, ⟨.string _, rfl⟩, List.forall_mem_nil _⟩)
    (List.forall_mem_singleton.mpr (by decide))

section Calls

variable {method : String} (hne : method ≠ "") (hle : method.utf8ByteSize ≤ 256)

include hne hle

/-- A call of any method is in order with a zero as its id. -/
lemma readRequest_fill_openId :
    readRequest ((openId method).fill (Text.bytesOf "0")) =
      .ok ⟨method, [], .integer ⟨0, by decide, by decide⟩⟩ := by
  refine readRequest_eq_ok_iff.mpr ⟨_, (openId method).parse_fill readsText_zero, ?_⟩
  exact {
    id := OpenObject.lookup_members_written _ _ _ _
    id_exact := fun x => nofun
    version := OpenObject.lookup_members_written _ _ _ _
    method := OpenObject.lookup_members_written _ _ _ _
    method_ne := hne
    method_le := hle
    params := .inr ⟨rfl, .inl (OpenObject.lookup_members_written _ _ _ _)⟩ }

/-- A call of any method is in order with a zero as its parameter. -/
lemma readRequest_fill_openParams :
    readRequest ((openParams method).fill (Text.bytesOf "[0]")) =
      .ok ⟨method, [.integer ⟨0, by decide, by decide⟩], .text "a"⟩ := by
  refine readRequest_eq_ok_iff.mpr ⟨_, (openParams method).parse_fill readsText_list_zero, ?_⟩
  exact {
    id := OpenObject.lookup_members_written _ _ _ _
    id_exact := fun x => nofun
    version := OpenObject.lookup_members_written _ _ _ _
    method := OpenObject.lookup_members_written _ _ _ _
    method_ne := hne
    method_le := hle
    params := .inl (OpenObject.lookup_members_written _ _ _ _) }

end Calls

/-! ## Any integer in plain decimal -/

end ChainView.Rpc
