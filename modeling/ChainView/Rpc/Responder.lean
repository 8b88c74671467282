import ChainView.Rpc.Method
import ChainView.Rpc.Counters

/-!
# Answering requests

A body is read as a request, its method is looked up, its parameters are checked and the handler is
run; whatever goes wrong on the way becomes an error response.  Every body gets an answer, and a
responder counts it.
-/

namespace ChainView.Rpc

/-- A response, and whether a handler broke off in making it. -/
structure Reply where
  /-- The response. -/
  response : Response
  /-- Whether a handler broke off. -/
  crashed : Bool

namespace Registry

variable {γ : Type}

/-- What comes of a call: an error before the handler runs, or the outcome of the handler. -/
def call (r : Registry γ) (context : γ) (method : String) (params : Parameters) :
    Except ErrorObject Outcome :=
  match r.find? method with
  | none => .error (.unknownMethod method)
  | some m =>
    match m.checkParameters params with
    | .error mismatch => .error (.unfitParameters mismatch.message)
    | .ok () => .ok (m.handler context params)

/-- Answers a request. -/
def answer (r : Registry γ) (context : γ) (request : Request) : Reply :=
  match r.call context request.method request.params with
  | .error e => ⟨.ofError (some request.id) e, false⟩
  | .ok outcome =>
    match outcome.answer with
    | .ok v => ⟨.ofResult request.id v, outcome.isCrash⟩
    | .error e => ⟨.ofError (some request.id) e, outcome.isCrash⟩

/-- Answers a body. -/
def reply (r : Registry γ) (context : γ) (body : Bytes) : Reply :=
  match readRequest body with
  | .error rejection => ⟨.ofError rejection.id? rejection.toErrorObject, false⟩
  | .ok request => r.answer context request

/-- The response to a body. -/
def response (r : Registry γ) (context : γ) (body : Bytes) : Response :=
  (r.reply context body).response

end Registry

/-- The bytes of a response. -/
def Response.write (r : Response) : Bytes :=
  r.toJson.write

/-- Counts a reply that took some time. -/
def Counters.recordReply (c : Counters) (reply : Reply) (elapsed : UInt64) : Counters :=
  let c := if reply.crashed then c.recordCrash else c
  c.record (reply.response.error.map ErrorObject.code) elapsed

/-- Methods with the counters of the requests they were asked. -/
structure Responder (γ : Type) where
  /-- The methods. -/
  registry : Registry γ
  /-- The counters. -/
  counters : Counters

namespace Responder

variable {γ : Type}

/-- The responder of some methods that has not been asked anything. -/
def create (registry : Registry γ) : Responder γ := ⟨registry, .zero⟩

/-- Answers a body in a context and counts it; answering took the time `elapsed`. -/
def answer (r : Responder γ) (context : γ) (body : Bytes) (elapsed : UInt64) :
    Bytes × Responder γ :=
  let reply := r.registry.reply context body
  (reply.response.write, { r with counters := r.counters.recordReply reply elapsed })

/-- The bytes of the answer do not depend on what was counted before. -/
@[simp] theorem answer_fst (r : Responder γ) (context : γ) (body : Bytes) (elapsed : UInt64) :
    (r.answer context body elapsed).1 = (r.registry.response context body).write := rfl

/-- Answering changes no method. -/
@[simp] theorem registry_answer (r : Responder γ) (context : γ) (body : Bytes)
    (elapsed : UInt64) : (r.answer context body elapsed).2.registry = r.registry := rfl

end Responder

end ChainView.Rpc
