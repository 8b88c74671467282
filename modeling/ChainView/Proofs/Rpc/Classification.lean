import ChainView.Proofs.Rpc.Envelope
import ChainView.Proofs.Rpc.Queries

/-!
# Which answer a body gets from a node

Every body gets one of six answers from the methods of a node: a result, or an error of one of five
classes.  `Classified` says which, by conditions on the body and on the histories of the node that
mention neither the order of the checks nor the functions that make them.  The conditions cover all
bodies (`exists_classified`), and under each of them the answer is as it says (`Classified.reply`),
so each class of answers is described exactly.  In particular no handler fails on its parameters
after their check, none fails to read the node, and none breaks off.
-/

namespace ChainView.Rpc

/-! ## The classes of bodies -/

/-- The answer that a body gets: an error of a class, or none. -/
inductive Classified (view : NodeView) (body : Bytes) : Option ErrorClass → Prop
  /-- The body is not JSON. -/
  | notJson (h : ∀ v, Json.parse body ≠ .ok v) : Classified view body (some .notJson)
  /-- The body is JSON, but no object. -/
  | notObject {v : Json.Value} (hv : Json.parse body = .ok v) (h : ∀ members, v ≠ .object members) :
      Classified view body (some .notRequest)
  /-- The body is an object that holds no request. -/
  | faulty {members : List (String × Json.Value)} (hv : Json.parse body = .ok (.object members))
      (h : Faulty members) : Classified view body (some .notRequest)
  /-- The request names no method of the node. -/
  | unknownMethod {request : Request} (h : request.WrittenBy body)
      (hmethod : request.method ∉ schema.map Prod.fst) : Classified view body (some .unknownMethod)
  /-- The parameters of the request do not fit its method. -/
  | unfitParameters {request : Request} {kinds : List ParameterKind} (h : request.WrittenBy body)
      (hmethod : (request.method, kinds) ∈ schema) (hmisfit : Misfit kinds request.params) :
      Classified view body (some .unfitParameters)
  /-- The request asks for what is not kept. -/
  | unknownResource {request : Request} (h : request.WrittenBy body)
      (hmissing : Missing view.node request.method request.params) :
      Classified view body (some .unknownResource)
  /-- The request is answered. -/
  | answered {request : Request} {result : Json.Value} (h : request.WrittenBy body)
      (hyields : Yields view request.method request.params result) : Classified view body none

/-! ## The answer to a body -/

/-- Every body gets an answer of some class. -/
lemma exists_classified {view : NodeView} (hs : view.node.Sound) (body : Bytes) :
    ∃ c, Classified view body c := by
  cases hv : Json.parse body with
  | error fault => exact ⟨_, .notJson (by simp [hv])⟩
  | ok v =>
    by_cases hobject : ∃ members, v = .object members
    · obtain ⟨members, rfl⟩ := hobject
      by_cases hf : Faulty members
      · exact ⟨_, .faulty hv hf⟩
      obtain ⟨request, hr⟩ := exists_heldBy_of_not_faulty hf
      have hwritten : request.WrittenBy body := ⟨members, hv, hr⟩
      by_cases hmethod : request.method ∈ schema.map Prod.fst
      · obtain ⟨⟨method, kinds⟩, hmem, hname⟩ := List.mem_map.mp hmethod
        obtain rfl : method = request.method := hname
        by_cases hmisfit : Misfit kinds request.params
        · exact ⟨_, .unfitParameters hwritten hmem hmisfit⟩
        rcases exists_yields_or_missing hs hmem hmisfit with ⟨result, hyields⟩ | hmissing
        · exact ⟨_, .answered hwritten hyields⟩
        · exact ⟨_, .unknownResource hwritten hmissing⟩
      · exact ⟨_, .unknownMethod hwritten hmethod⟩
    · exact ⟨_, .notObject hv fun members heq => hobject ⟨members, heq⟩⟩

/-- A value that holds no request is refused for its envelope. -/
lemma error_reply_of_not_request {γ : Type} {r : Registry γ} {context : γ} {body : Bytes}
    {v : Json.Value} (hv : Json.parse body = .ok v)
    (hnone : ∀ (request : Request) (members : List (String × Json.Value)),
      v = .object members → ¬ request.HeldBy members) :
    (r.reply context body).response.error.map ErrorObject.code = some ErrorClass.notRequest.code ∧
      (r.reply context body).crashed = false := by
  cases hrequest : requestOfValue v with
  | ok request =>
    obtain ⟨members, hmembers, hr⟩ := requestOfValue_eq_ok_iff.mp hrequest
    exact absurd hr (hnone request members hmembers)
  | error rejection =>
    obtain ⟨fault, id, rfl⟩ := exists_fault_of_requestOfValue_eq_error hrequest
    have hread : readRequest body = .error (.envelope fault id) := by
      simp [readRequest, hv, hrequest]
    rw [Registry.reply, hread]
    exact ⟨rfl, rfl⟩

/-- A request is answered by what comes of its call. -/
lemma reply_of_writtenBy {γ : Type} {r : Registry γ} {context : γ} {body : Bytes}
    {request : Request} (hr : request.WrittenBy body) :
    r.reply context body = r.answer context request := by
  have hread := readRequest_eq_ok_iff.mpr hr
  simp [Registry.reply, hread]

/-- A body that writes a request for which there is a result is answered with this result. -/
lemma reply_of_yields {view : NodeView} (hs : view.node.Sound) {body : Bytes} {request : Request}
    {result : Json.Value} (hr : request.WrittenBy body)
    (hyields : Yields view request.method request.params result) :
    nodeRegistry.reply view body = ⟨.ofResult request.id result, false⟩ := by
  rw [reply_of_writtenBy hr, Registry.answer, hyields.call hs]
  rfl

/-- A body gets an answer of the class that it is of, and no handler breaks off. -/
lemma Classified.reply {view : NodeView} (hs : view.node.Sound) {body : Bytes}
    {c : Option ErrorClass} (hc : Classified view body c) :
    (nodeRegistry.reply view body).response.error.map ErrorObject.code = c.map ErrorClass.code ∧
      (nodeRegistry.reply view body).crashed = false := by
  cases hc with
  | notJson h =>
    cases hv : Json.parse body with
    | ok v => exact absurd hv (h v)
    | error fault =>
      have hread : readRequest body = .error (.notJson (fault.describe body)) := by
        simp [readRequest, hv]
      rw [Registry.reply, hread]
      exact ⟨rfl, rfl⟩
  | notObject hv h =>
    refine error_reply_of_not_request hv ?_
    intro request members heq
    exact absurd heq (h members)
  | faulty hv h =>
    refine error_reply_of_not_request hv ?_
    rintro request members ⟨⟩
    exact h.not_heldBy request
  | @unknownMethod request hr hmethod =>
    have hcall : nodeRegistry.call view request.method request.params =
        .error (.unknownMethod request.method) := by
      simp [Registry.call, find?_nodeRegistry_of_not_mem hmethod]
    rw [reply_of_writtenBy hr, Registry.answer, hcall]
    exact ⟨rfl, rfl⟩
  | @unfitParameters request kinds hr hmethod hmisfit =>
    obtain ⟨m, hfind, rfl⟩ := exists_find?_nodeRegistry hmethod
    obtain ⟨mismatch, hcheck⟩ := Method.exists_mismatch hmisfit
    have hcall : nodeRegistry.call view request.method request.params =
        .error (.unfitParameters mismatch.message) := by
      simp [Registry.call, hfind, hcheck]
    rw [reply_of_writtenBy hr, Registry.answer, hcall]
    exact ⟨rfl, rfl⟩
  | unknownResource hr hmissing =>
    obtain ⟨what, hcall⟩ := hmissing.call hs
    rw [reply_of_writtenBy hr, Registry.answer, hcall]
    exact ⟨rfl, rfl⟩
  | answered hr hyields =>
    rw [reply_of_yields hs hr hyields]
    exact ⟨rfl, rfl⟩

/-- No two classes of errors have the same code. -/
lemma ErrorClass.code_injective : Function.Injective ErrorClass.code :=
  Function.LeftInverse.injective ErrorClass.ofCode_code

end ChainView.Rpc
