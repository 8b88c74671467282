import ChainView.Proofs.Rpc.Envelope
import ChainView.Rpc.Responder

/-!
# The id that a response carries

A response answers a request by its id, and the id has to get through whatever happens to the
request.  A refused envelope carries it out of the reader, if the reader came so far; a call that
fails carries it past the registry; and a handler that breaks off does not take it along.  All these
routes lead to one place: a response carries the id that is known once the body has been read or
refused (`Registry.id_response`), and what is known then is the id that the body *bears*, whatever
else is wrong with it (`knownId_readRequest_eq_some_iff`).  None of this depends on the registry, on
the context, or on what the handlers do.
-/

namespace ChainView.Rpc

/-! ## The id of a body -/

/-- A body bears an id: it is JSON, and an object whose id is an integer or a text.  The rest of the
object does not matter. -/
inductive Bears (body : Bytes) : RequestId → Prop
  /-- The id is an integer. -/
  | integer {members : List (String × Json.Value)} {n : Json.Integer}
      (hv : Json.parse body = .ok (.object members))
      (hid : members.lookup "id" = some (.integer n)) : Bears body (.integer n)
  /-- The id is a text. -/
  | text {members : List (String × Json.Value)} {s : String}
      (hv : Json.parse body = .ok (.object members))
      (hid : members.lookup "id" = some (.string s)) : Bears body (.text s)

/-- The id that a body bears is the one that is read from its members. -/
lemma bears_iff {body : Bytes} {id : RequestId} :
    Bears body id ↔
      ∃ members, Json.parse body = .ok (.object members) ∧ readId members = .ok id := by
  constructor
  · rintro (⟨hv, hid⟩ | ⟨hv, hid⟩)
    · exact ⟨_, hv, readId_eq_ok_iff.mpr ⟨hid, by simp⟩⟩
    · exact ⟨_, hv, readId_eq_ok_iff.mpr ⟨hid, by simp⟩⟩
  · rintro ⟨members, hv, hread⟩
    obtain ⟨hid, hexact⟩ := readId_eq_ok_iff.mp hread
    cases id with
    | integer n => exact .integer hv hid
    | text s => exact .text hv hid
    | float x => exact absurd rfl (hexact x)

/-- The id that is known once a request has been read or refused. -/
def knownId : Except Rejection Request → Option RequestId
  | .ok request => some request.id
  | .error rejection => rejection.id?

/-- Of a value, the id is known exactly if it is read from the members of an object: the checks that
come after it pass it on, and those before it know none. -/
lemma knownId_requestOfValue_eq_some_iff {v : Json.Value} {id : RequestId} :
    knownId (requestOfValue v) = some id ↔
      ∃ members, v = .object members ∧ readId members = .ok id := by
  cases v with
  | object members =>
    cases hid : readId members with
    | error fault => simp [requestOfValue, hid, knownId, Rejection.id?]
    | ok known =>
      cases hcall : readCall members with
      | error fault => simp [requestOfValue, hid, hcall, knownId, Rejection.id?]
      | ok call => simp [requestOfValue, hid, hcall, knownId]
  | _ => simp [requestOfValue, knownId, Rejection.id?]

/-- Of a body, the id is known exactly if the body bears it. -/
lemma knownId_readRequest_eq_some_iff {body : Bytes} {id : RequestId} :
    knownId (readRequest body) = some id ↔ Bears body id := by
  rw [bears_iff]
  cases hv : Json.parse body with
  | error fault => simp [readRequest, hv, knownId, Rejection.id?]
  | ok v => simp [readRequest, hv, knownId_requestOfValue_eq_some_iff]

/-! ## Responses -/

/-- A response has one of the two forms: the version of the protocol with a result and no error, or
with an error and no result. -/
structure Response.WellFormed (response : Response) : Prop where
  /-- The version is that of the protocol. -/
  version : response.version = "2.0"
  /-- Of result and error exactly one is there. -/
  outcome : (∃ v, response.result = some v ∧ response.error = none) ∨
    ∃ e, response.result = none ∧ response.error = some e

/-- A response with a result is well formed. -/
lemma Response.WellFormed.ofResult (id : RequestId) (v : Json.Value) :
    (Response.ofResult id v).WellFormed := ⟨rfl, .inl ⟨v, rfl, rfl⟩⟩

/-- A response with an error is well formed. -/
lemma Response.WellFormed.ofError (id : Option RequestId) (e : ErrorObject) :
    (Response.ofError id e).WellFormed := ⟨rfl, .inr ⟨e, rfl, rfl⟩⟩

namespace Registry

variable {γ : Type} (r : Registry γ) (context : γ)

/-- The answer to a request carries its id and is well formed, whether the method is unknown, the
parameters do not fit, or the handler returns, fails or breaks off. -/
lemma answer_spec (request : Request) :
    (r.answer context request).response.id = some request.id ∧
      (r.answer context request).response.WellFormed := by
  unfold answer
  cases r.call context request.method request.params with
  | error e => exact ⟨rfl, .ofError _ e⟩
  | ok outcome =>
    cases outcome with
    | value v => exact ⟨rfl, .ofResult _ v⟩
    | failed e => exact ⟨rfl, .ofError _ e.toErrorObject⟩
    | crashed c => exact ⟨rfl, .ofError _ .internal⟩

/-- The response to a body carries the id that is known once the body has been read or refused. -/
lemma id_response (body : Bytes) :
    (r.response context body).id = knownId (readRequest body) := by
  unfold response reply
  cases readRequest body with
  | error rejection => rfl
  | ok request => exact (r.answer_spec context request).1

/-- The response to a body is well formed. -/
lemma wellFormed_response (body : Bytes) : (r.response context body).WellFormed := by
  unfold response reply
  cases readRequest body with
  | error rejection => exact .ofError _ rejection.toErrorObject
  | ok request => exact (r.answer_spec context request).2

/-- Whatever methods are registered and whatever their handlers do, every body gets a response that
names the version of the protocol and carries either a result or an error.  Its id is the integer or
the text that the body bears as its id, at whichever stage the request fails, and null if the body
bears none. -/
theorem response_echoes_id (body : Bytes) :
    let response := r.response context body
    response.version = "2.0" ∧
      ((∃ v, response.result = some v ∧ response.error = none) ∨
        ∃ e, response.result = none ∧ response.error = some e) ∧
      (∀ id, response.id = some id ↔ Bears body id) ∧
      (response.id = none ↔ ∀ id, ¬ Bears body id) := by
  intro response
  have hid : ∀ id, response.id = some id ↔ Bears body id := by
    intro id
    rw [r.id_response context body]
    exact knownId_readRequest_eq_some_iff
  obtain ⟨hversion, houtcome⟩ := r.wellFormed_response context body
  refine ⟨hversion, houtcome, hid, ?_⟩
  rw [Option.eq_none_iff_forall_ne_some]
  exact forall_congr' fun id => not_congr (hid id)

end Registry

end ChainView.Rpc
