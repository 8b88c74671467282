import ChainView.Proofs.Json.Records
import ChainView.Proofs.Rpc.Echo
import ChainView.Rpc.NodeMethods

/-!
# Responses are read back as written

A client that reads the bytes of a response gets the response that was meant.  Three things could
come in between.  A result of null would be read as no result, a value whose keys are in another
order would come back in the order of its keys, and a number that is no integer need not come back
at all.  So the results of methods have to be *returnable*, and then the response is *readable* and
survives the way over the wire (`Response.Readable.decode_write`).

The methods of the node return such results only: words, truth values, texts, and objects and lists
made of them.  Errors carry no further data, and the id is that of the body, an integer or a text.
Hence every response of the node is readable, whatever the body and the state of the node.
-/

namespace ChainView

open Json

variable {levels : Nat}

/-! ## Entities -/

/-- A header is written as an exact value. -/
lemma Header.exact_toJson (h : Header) : h.toJson.Exact (levels + 1) := by
  refine .object ?_
  simp only [List.forall_mem_cons]
  exact ⟨.integer _, .integer _, .string _, .string _, .string _, .string _, .string _,
    List.forall_mem_nil _⟩

/-- A client status is written as an exact value. -/
lemma ClientStatus.exact_toJson (s : ClientStatus) : s.toJson.Exact (levels + 1) := by
  refine .object ?_
  simp only [List.forall_mem_cons]
  exact ⟨.string _, .integer _, .string _, .string _, .integer _, List.forall_mem_nil _⟩

/-- A sync status is written as an exact value. -/
lemma SyncStatus.exact_toJson (s : SyncStatus) : s.toJson.Exact (levels + 1) := by
  refine .object ?_
  simp only [List.forall_mem_cons]
  exact ⟨.integer _, .string _, .string _, List.forall_mem_nil _⟩

/-- An L1 status is written as an exact value. -/
lemma L1Status.exact_toJson (s : L1Status) : s.toJson.Exact (levels + 1) := by
  have htx : (Value.ofOption (s.publishedTx.map Digest.toJson)).Exact levels := by
    cases s.publishedTx with
    | none => exact .null
    | some tx => exact .string _
  refine .object ?_
  simp only [List.forall_mem_cons]
  exact ⟨.bool _, .integer _, .string _, htx, .integer _, .integer _, .string _,
    List.forall_mem_nil _⟩

namespace Rpc

/-! ## Results -/

/-- A value that a response can carry as its result: it is read back as it is, and not as no
result. -/
structure Returnable (v : Value) : Prop where
  /-- It is not null. -/
  ne_null : v ≠ .null
  /-- Its numbers are integers, and it is no deeper nested than a list of objects. -/
  isExact : v.Exact 2
  /-- Its keys are in order. -/
  sorted : v.sortKeys = v

/-- An exact value other than null can be returned with its keys sorted. -/
lemma returnable_sortKeys {v : Value} (h : v.Exact 2) (hnull : v ≠ .null) :
    Returnable v.sortKeys :=
  ⟨by rwa [Ne, Value.sortKeys_eq_null_iff], h.sortKeys, v.sortKeys_sortKeys⟩

/-- A method returns values of a kind only. -/
def Method.Returns {γ : Type} (P : Value → Prop) (m : Method γ) : Prop :=
  ∀ context params v, m.handler context params = .value v → P v

/-- A method without parameters returns what it reads, with the keys sorted. -/
lemma returns_reading {name description : String} {read : NodeView → Value}
    (h : ∀ view, (read view).Exact 2 ∧ read view ≠ .null) :
    (reading name description read).Returns Returnable := by
  intro view params v hv
  cases hv
  exact returnable_sortKeys (h view).1 (h view).2

/-- A method with one parameter returns what it answers, with the keys sorted. -/
lemma returns_asking {α : Type} {name description : String} {kind : ParameterKind}
    {get : Parameters → Except Failure α} {answer : NodeView → α → Except Failure Value}
    (h : ∀ view a v, answer view a = .ok v → v.Exact 2 ∧ v ≠ .null) :
    (asking name description kind get answer).Returns Returnable := by
  intro view params v hv
  simp only [asking] at hv
  split at hv
  · cases hv
  · split at hv
    · cases hv
    · rename_i answered hanswer
      cases hv
      obtain ⟨hexact, hnull⟩ := h view _ answered hanswer
      exact returnable_sortKeys hexact hnull

/-- What a look-up answers is what is written for something that is found. -/
lemma forall_map_eq_ok {α : Type} {P : Value → Prop} {write : α → Value} (h : ∀ a, P (write a))
    (lookup : Except Failure α) : ∀ v, lookup.map write = .ok v → P v := by
  rintro v hv
  cases lookup with
  | error e => cases hv
  | ok a =>
    cases hv
    exact h a

/-- All methods of the node return values that a response can carry. -/
lemma returns_nodeMethods : ∀ m ∈ nodeMethods, m.Returns Returnable := by
  simp only [nodeMethods, List.forall_mem_cons]
  refine ⟨?_, ?_, ?_, ?_, ?_, ?_, ?_, ?_, ?_, ?_, List.forall_mem_nil _⟩
  · exact returns_reading fun view => ⟨.integer _, by rintro ⟨⟩⟩
  · exact returns_reading fun view => ⟨.integer _, by rintro ⟨⟩⟩
  · exact returns_reading fun view => ⟨.bool _, by rintro ⟨⟩⟩
  · exact returns_reading fun view => ⟨L1Status.exact_toJson _, by rintro ⟨⟩⟩
  · refine returns_asking fun view height => ?_
    exact forall_map_eq_ok (fun _ => ⟨.string _, by rintro ⟨⟩⟩) _
  · exact returns_reading fun view => ⟨ClientStatus.exact_toJson _, by rintro ⟨⟩⟩
  · exact returns_reading fun view => ⟨SyncStatus.exact_toJson _, by rintro ⟨⟩⟩
  · refine returns_asking fun view count v hv => ?_
    cases hv
    refine ⟨.array ?_, by rintro ⟨⟩⟩
    exact List.forall_mem_map.mpr fun h _ => h.exact_toJson
  · refine returns_asking fun view index => ?_
    exact forall_map_eq_ok
      (fun h => ⟨.array (List.forall_mem_singleton.mpr h.exact_toJson), by rintro ⟨⟩⟩) _
  · refine returns_asking fun view id => ?_
    exact forall_map_eq_ok (fun h => ⟨h.exact_toJson, by rintro ⟨⟩⟩) _

/-! ## What responses carry -/

/-- An error that is given in place of a request has no further data. -/
lemma Rejection.data_toErrorObject (rejection : Rejection) :
    rejection.toErrorObject.data = none := by
  cases rejection <;> rfl

/-- The error of a handler that fails has no further data. -/
lemma Failure.data_toErrorObject (failure : Failure) : failure.toErrorObject.data = none := by
  cases failure <;> rfl

/-- A response carries either an error without further data or a value that the handler of a
registered method returned. -/
inductive Registry.Responds {γ : Type} (r : Registry γ) (context : γ) : Response → Prop
  /-- It carries an error. -/
  | error {id : Option RequestId} {e : ErrorObject} (h : e.data = none) :
      Responds r context (.ofError id e)
  /-- It carries the value of a method. -/
  | result {id : RequestId} {m : Method γ} {params : Parameters} {v : Value} (hm : m ∈ r.entries)
      (hv : m.handler context params = .value v) : Responds r context (.ofResult id v)

/-- A call is refused with an error without further data, or it runs the handler of a registered
method. -/
lemma Registry.call_cases {γ : Type} (r : Registry γ) (context : γ) (method : String)
    (params : Parameters) :
    (∃ e, r.call context method params = .error e ∧ e.data = none) ∨
      ∃ m ∈ r.entries, r.call context method params = .ok (m.handler context params) := by
  unfold call
  cases hfind : r.find? method with
  | none => exact .inl ⟨_, rfl, rfl⟩
  | some m =>
    have hm : m ∈ r.entries := List.mem_of_find?_eq_some hfind
    cases hcheck : m.checkParameters params with
    | error mismatch => exact .inl ⟨.unfitParameters mismatch.message, by simp only [hcheck], rfl⟩
    | ok _ => exact .inr ⟨m, hm, by simp only [hcheck]⟩

/-- Every request gets such a response. -/
lemma Registry.responds_answer {γ : Type} (r : Registry γ) (context : γ) (request : Request) :
    r.Responds context (r.answer context request).response := by
  unfold answer
  obtain ⟨e, hcall, hdata⟩ | ⟨m, hm, hcall⟩ := r.call_cases context request.method request.params
  · rw [hcall]
    exact .error hdata
  · rw [hcall]
    cases hhandler : m.handler context request.params with
    | value v => exact .result hm hhandler
    | failed failure => exact .error failure.data_toErrorObject
    | crashed crash => exact .error rfl

/-- Every body gets such a response. -/
lemma Registry.responds_response {γ : Type} (r : Registry γ) (context : γ) (body : Bytes) :
    r.Responds context (r.response context body) := by
  unfold response reply
  cases readRequest body with
  | error rejection => exact .error rejection.data_toErrorObject
  | ok request => exact r.responds_answer context request

/-- A response can be read back from what is written for it. -/
structure Response.Readable (response : Response) : Prop where
  /-- A result can be carried. -/
  result : ∀ v, response.result = some v → Returnable v
  /-- An error has no further data. -/
  error : ∀ e, response.error = some e → e.data = none
  /-- The id is an integer or a text. -/
  id : ∀ x, response.id ≠ some (.float x)

/-- No response carries a number as its id that is no integer. -/
lemma Registry.id_response_ne_float {γ : Type} (r : Registry γ) (context : γ) (body : Bytes)
    (x : Float) : (r.response context body).id ≠ some (.float x) := by
  rw [r.id_response context body]
  intro hid
  cases knownId_readRequest_eq_some_iff.mp hid

/-- If all methods return what a response can carry, all responses can be read back. -/
lemma Registry.readable_response {γ : Type} {r : Registry γ}
    (h : ∀ m ∈ r.entries, m.Returns Returnable) (context : γ) (body : Bytes) :
    (r.response context body).Readable := by
  have hresponds := r.responds_response context body
  have hid := r.id_response_ne_float context body
  generalize r.response context body = response at hresponds hid
  cases hresponds with
  | error hdata => exact ⟨nofun, fun e he => by cases he; exact hdata, hid⟩
  | result hm hv => exact ⟨fun v hresult => by cases hresult; exact h _ hm _ _ _ hv, nofun, hid⟩

/-! ## The way over the wire -/

variable {depth : Nat}

/-- An error without further data is written as an exact value. -/
lemma exact_errorObject {e : ErrorObject} (h : e.data = none) : e.toJson.Exact (levels + 1) := by
  obtain ⟨code, message, data⟩ := e
  cases h
  refine .object ?_
  rw [List.append_nil, List.forall_mem_cons]
  exact ⟨.integer _, List.forall_mem_singleton.mpr (.string _)⟩

/-- An error without further data is read back. -/
lemma reads_errorObject {e : ErrorObject} (h : e.data = none) :
    Reads (ErrorObject.shape.decoder (depth + 1)) e.toJson e := by
  obtain ⟨code, message, data⟩ := e
  cases h
  have htakes : ErrorObject.shape.Takes depth
      [("code", .integer (.ofInt32 code)), ("message", .string message)]
      ErrorObject.shape.blank ⟨code, message, none⟩ :=
    .cons rfl ((reads_int32 code).map _) (.singleton rfl ((reads_text message).map _) rfl)
  exact htakes.reads (show ["code", "message"].Nodup by decide) rfl

/-- An id that is an integer or a text is written as an exact value. -/
lemma RequestId.exact_toJson {id : RequestId} (h : ∀ x, id ≠ .float x) :
    id.toJson.Exact levels := by
  cases id with
  | integer n => exact .integer n
  | float x => exact absurd rfl (h x)
  | text s => exact .string s

/-- An id that is an integer or a text is read back. -/
lemma RequestId.reads_toJson {id : RequestId} (h : ∀ x, id ≠ .float x) :
    Reads (RequestId.decoder depth) id.toJson id := by
  have hany : Reads (Decoder.any depth) id.toJson id.toJson.sortKeys :=
    reads_any (RequestId.exact_toJson h) (Nat.zero_le depth)
  cases id with
  | integer n => exact hany.check rfl
  | float x => exact absurd rfl (h x)
  | text s => exact hany.check rfl

/-- An id is read back, and none from null. -/
lemma reads_optional_id {id : Option RequestId} (h : ∀ x, id ≠ some (.float x)) :
    Reads (RequestId.decoder.optional depth) (.ofOption (id.map RequestId.toJson)) id := by
  cases id with
  | none => exact reads_optional_null
  | some id =>
    have hfloat : ∀ x, id ≠ .float x := fun x hx => h x (congrArg some hx)
    have hexact : id.toJson.Exact 0 := RequestId.exact_toJson hfloat
    have hnull : id.toJson ≠ .null := by cases id <;> nofun
    exact (RequestId.reads_toJson hfloat).optional hexact hnull

/-- A value that can be returned is read back as the result that it is. -/
lemma Returnable.reads_optional {v : Value} (h : Returnable v) :
    Reads (Decoder.any.optional (depth + 2)) v (some v) := by
  have hany : Reads (Decoder.any (depth + 2)) v v.sortKeys :=
    reads_any h.isExact (Nat.le_add_left 2 depth)
  rw [h.sorted] at hany
  exact hany.optional h.isExact h.ne_null

namespace Response

/-- The members of a response: of result and error only what is there. -/
def members (r : Response) : List (String × Value) :=
  [("jsonrpc", .string r.version)] ++ r.result.toList.map (fun v => ("result", v)) ++
    r.error.toList.map (fun e => ("error", e.toJson)) ++
      [("id", .ofOption (r.id.map RequestId.toJson))]

/-- A response is the object of its members. -/
lemma toJson_eq_object (r : Response) : r.toJson = .object r.members := by
  obtain ⟨version, result, error, id⟩ := r
  cases result <;> cases error <;> rfl

namespace Readable

variable {r : Response} (h : r.Readable)
include h

/-- What is written for a readable response is an exact value. -/
lemma exact_toJson : r.toJson.Exact 3 := by
  rw [toJson_eq_object]
  refine .object ?_
  simp only [members, List.forall_mem_append, List.forall_mem_singleton, List.forall_mem_map,
    Option.mem_toList]
  refine ⟨⟨⟨.string _, ?_⟩, ?_⟩, ?_⟩
  · exact fun v hv => (h.result v hv).isExact
  · exact fun e he => exact_errorObject (h.error e he)
  · cases hid : r.id with
    | none => exact .null
    | some id => exact RequestId.exact_toJson fun x hx => h.id x (by rw [hid, hx])

/-- The shape of responses takes the members of a readable response to the response. -/
lemma takes : Response.shape.Takes (depth + 2) r.members Response.shape.blank r := by
  obtain ⟨version, result, error, id⟩ := r
  -- four stretches of members, each of which sets one part of the response
  have hversion : Response.shape.Takes (depth + 2) [("jsonrpc", .string version)]
      Response.shape.blank ⟨version, none, none, none⟩ :=
    .singleton rfl ((reads_text version).map _) rfl
  have hresult : Response.shape.Takes (depth + 2) (result.toList.map fun v => ("result", v))
      ⟨version, none, none, none⟩ ⟨version, result, none, none⟩ := by
    cases result with
    | none => exact .nil _
    | some v => exact .singleton rfl ((h.result v rfl).reads_optional.map _) rfl
  have herror : Response.shape.Takes (depth + 2) (error.toList.map fun e => ("error", e.toJson))
      ⟨version, result, none, none⟩ ⟨version, result, error, none⟩ := by
    cases error with
    | none => exact .nil _
    | some e =>
      have hexact : e.toJson.Exact 1 := exact_errorObject (h.error e rfl)
      exact .singleton rfl (((reads_errorObject (h.error e rfl)).optional hexact nofun).map _) rfl
  have hid : Response.shape.Takes (depth + 2) [("id", .ofOption (id.map RequestId.toJson))]
      ⟨version, result, error, none⟩ ⟨version, result, error, id⟩ :=
    .singleton rfl ((reads_optional_id h.id).map _) rfl
  exact ((hversion.append hresult).append herror).append hid

/-- A readable response is read back from the object of its members. -/
lemma reads : Reads (Response.shape.decoder (depth + 3)) r.toJson r := by
  rw [toJson_eq_object]
  refine h.takes.reads ?_ ?_
  · unfold members
    cases r.result <;> cases r.error <;> simp
  · unfold members
    cases r.result <;> cases r.error <;> rfl

/-- A readable response is decoded from its bytes. -/
theorem decode_write : Json.decode Response.shape.decoder r.write = .ok r :=
  readAll_write h.reads

/-- In the bytes of a readable response there is a member for the id, and it is null if the response
has no id. -/
lemma exists_parse_write : ∃ members, Json.parse r.write = .ok (.object members) ∧
    members.lookup "id" = some (Value.ofOption (r.id.map RequestId.toJson)).sortKeys := by
  have hparse : Json.parse r.write = .ok r.toJson.sortKeys := parse_write h.exact_toJson (by decide)
  rw [toJson_eq_object, Value.sortKeys, members, sortValues_eq_map, List.map_append,
    List.map_singleton] at hparse
  exact ⟨_, hparse, lookup_orderMembers_append_singleton _ _ _⟩

end Readable

end Response

/-- The node answers every body with bytes that lose nothing of the response, whatever its state and
however many requests it has counted.  Read as a response, the bytes are that response: the same
result or the same error, the same id, and no id if there is none.  An error carries no further
data, and a missing id is not left out but written as null. -/
theorem decode_answer_nodeRegistry (counters : Counters) (view : NodeView) (body : Bytes)
    (elapsed : UInt64) :
    let response := nodeRegistry.response view body
    let bytes := ((⟨nodeRegistry, counters⟩ : Responder NodeView).answer view body elapsed).1
    Json.decode Response.shape.decoder bytes = .ok response ∧
      (∀ e, response.error = some e → e.data = none) ∧
      (response.id = none → ∃ members, Json.parse bytes = .ok (.object members) ∧
        members.lookup "id" = some .null) := by
  intro response bytes
  have hreadable : response.Readable := Registry.readable_response returns_nodeMethods view body
  refine ⟨hreadable.decode_write, hreadable.error, ?_⟩
  intro hid
  obtain ⟨members, hparse, hlookup⟩ := hreadable.exists_parse_write
  rw [hid] at hlookup
  exact ⟨members, hparse, hlookup⟩

end Rpc

end ChainView
