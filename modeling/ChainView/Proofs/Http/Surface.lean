import ChainView.Http.Router
import ChainView.Proofs.Rpc.Accounting

/-!
# The gateway over HTTP

Between a client and the responder stand the question of a browser, the routes, their methods and
the limit on the size of a body.  All of them together let through exactly the bodies that are
`Admissible`: those that are posted to the root and are not too large.  `Server.answer_responder`
says so for one request.  For a sequence of requests it follows that the responder is where it would
be if it had been asked the admissible bodies in their order, and nothing else
(`Server.responder_after`); so its counters are those that `Responder.countersOf` speaks of.
-/

namespace ChainView.Http

open Rpc (Asked NodeView nodeRegistry Responder)

/-! ## The requests that reach the responder -/

/-- A request posts its body to the root. -/
structure Request.IsCall (r : Request) : Prop where
  /-- The method. -/
  method : r.method = "POST"
  /-- The path. -/
  path : r.path = "/"

/-- A request that posts its body to the root, where the body is not too large. -/
structure Admissible (settings : GatewaySettings) (r : Request) : Prop where
  /-- It is a call. -/
  isCall : r.IsCall
  /-- Its body is not too large. -/
  length_le : r.body.length ≤ settings.limits.maxRequestSize.toNat

instance (r : Request) : Decidable r.IsCall :=
  decidable_of_iff (r.method = "POST" ∧ r.path = "/")
    ⟨fun ⟨hmethod, hpath⟩ => ⟨hmethod, hpath⟩, fun h => ⟨h.method, h.path⟩⟩

instance (settings : GatewaySettings) (r : Request) : Decidable (Admissible settings r) :=
  decidable_of_iff (r.IsCall ∧ r.body.length ≤ settings.limits.maxRequestSize.toNat)
    ⟨fun ⟨hcall, hlength⟩ => ⟨hcall, hlength⟩, fun h => ⟨h.isCall, h.length_le⟩⟩

/-- The root is the path of calls, and no other path is. -/
lemma Route.ofPath?_eq_calls_iff {path : String} : ofPath? path = some .calls ↔ path = "/" := by
  unfold ofPath?
  split_ifs with hroot <;> simp [hroot]

/-- A request as a server meets it: with the node as it is then, and the time that answering it as a
call takes. -/
structure Incoming where
  /-- The node. -/
  node : Node
  /-- The request. -/
  request : Request
  /-- The time in microseconds. -/
  elapsed : UInt64

/-- What the methods of a gateway read of a node. -/
def viewOf (settings : GatewaySettings) (n : Node) : NodeView :=
  ⟨n, settings.chain.protocolVersion, settings.chain.blockTime⟩

/-- What the responder is asked by a request, if it is asked anything. -/
def Incoming.asked? (settings : GatewaySettings) (i : Incoming) : Option (Asked NodeView) :=
  if Admissible settings i.request then
    some ⟨viewOf settings i.node, i.request.body, i.elapsed⟩
  else none

/-- The responder is asked as often as a request is admissible. -/
lemma Incoming.length_filterMap_asked? (settings : GatewaySettings) (asked : List Incoming) :
    (asked.filterMap (Incoming.asked? settings)).length =
      asked.countP fun i => Admissible settings i.request := by
  rw [List.length_filterMap_eq_countP]
  refine List.countP_congr fun i _ => ?_
  unfold Incoming.asked?
  split_ifs with hadmissible <;> simp [hadmissible]

namespace Server

variable (s : Server) (n : Node) {r : Request} (elapsed : UInt64)

/-! ## One request -/

/-- The headers about origins say nothing about the type of the body. -/
lemma filter_withOrigin (r : Request) (response : Response) :
    (s.withOrigin r response).headers.filter (·.1 = "content-type") =
      response.headers.filter (·.1 = "content-type") := by
  simp only [withOrigin, OriginPolicy.commonFields, List.filter_append]
  cases s.settings.cors.granted? (r.header? "origin") <;> simp

/-- A request by a method of the route of its path is served there.  A request for the headers
alone is left out, since it gets no body. -/
lemma answer_of_allowed {route : Route} (hroute : Route.ofPath? r.path = some route)
    (hallowed : r.method ∈ route.allowed) (hhead : r.method ≠ "HEAD") :
    s.answer n r elapsed =
      (s.withOrigin r (s.serve n route r elapsed).1, (s.serve n route r elapsed).2) := by
  have hoptions : r.method ≠ "OPTIONS" := by
    intro hoptions
    rw [hoptions] at hallowed
    revert hallowed
    cases route <;> decide
  have hcontains : route.allowed.contains r.method = true := List.contains_iff_mem.mpr hallowed
  simp only [answer, if_neg hoptions, Server.route, hroute, if_pos hcontains, forMethod,
    if_neg hhead]

/-- A call is answered by what becomes of its body. -/
lemma answer_of_isCall (h : r.IsCall) :
    s.answer n r elapsed =
      (s.withOrigin r (s.call n r.body elapsed).1, (s.call n r.body elapsed).2) := by
  refine s.answer_of_allowed n elapsed (Route.ofPath?_eq_calls_iff.mpr h.path) ?_ ?_
  · rw [h.method]
    decide
  · rw [h.method]
    decide

/-- The counters are there to be read. -/
lemma answer_of_get_metrics (hmethod : r.method = "GET") (hpath : r.path = "/metrics") :
    s.answer n r elapsed =
      (s.withOrigin r (jsonResponse s.responder.counters.toJson.write), s) := by
  have hroute : Route.ofPath? r.path = some .metrics := by
    rw [hpath]
    decide
  refine s.answer_of_allowed n elapsed hroute ?_ ?_
  · rw [hmethod]
    decide
  · rw [hmethod]
    decide

/-- No route but that of calls changes the server. -/
lemma serve_snd_of_ne {route : Route} (h : route ≠ .calls) (r : Request) :
    (s.serve n route r elapsed).2 = s := by
  cases route with
  | calls => exact absurd rfl h
  | health => rfl
  | methods => rfl
  | metrics => rfl

/-- No route is taken that changes the server but by a call. -/
lemma route_snd_of_not_isCall (h : ¬ r.IsCall) : (s.route n r elapsed).2 = s := by
  unfold route
  split
  · rfl
  · rename_i route hroute
    split_ifs with hallowed
    · refine serve_snd_of_ne s n elapsed (fun hcalls => h ?_) r
      -- the route of calls has no other path and no other method
      subst hcalls
      exact ⟨by simpa [Route.allowed] using hallowed, Route.ofPath?_eq_calls_iff.mp hroute⟩
    · rfl

/-- A request that is not a call leaves the server as it is. -/
lemma answer_snd_of_not_isCall (h : ¬ r.IsCall) : (s.answer n r elapsed).2 = s := by
  unfold answer
  split_ifs with hoptions
  · rfl
  · exact s.route_snd_of_not_isCall n elapsed h

/-- A body that is not too large is answered by the responder. -/
lemma call_of_le {body : Bytes} (h : body.length ≤ s.settings.limits.maxRequestSize.toNat) :
    s.call n body elapsed =
      (jsonResponse (s.responder.answer (viewOf s.settings n) body elapsed).1,
        { s with responder := (s.responder.answer (viewOf s.settings n) body elapsed).2 }) := by
  unfold call
  rw [if_neg (Nat.not_lt.mpr h)]
  rfl

/-- A body that is too large is not. -/
lemma call_of_lt {body : Bytes} (h : s.settings.limits.maxRequestSize.toNat < body.length) :
    s.call n body elapsed = (tooLarge, s) := by
  unfold call
  rw [if_pos h]

/-- What a request does to a server: the responder is asked the body if this is admissible, and
nothing happens otherwise. -/
lemma answer_snd (i : Incoming) :
    (s.answer i.node i.request i.elapsed).2 =
      match i.asked? s.settings with
      | none => s
      | some a =>
        { s with responder := (s.responder.answer a.context a.body a.elapsed).2 } := by
  by_cases hcall : i.request.IsCall
  · rw [answer_of_isCall _ _ _ hcall]
    rcases Nat.lt_or_ge s.settings.limits.maxRequestSize.toNat i.request.body.length with
      hlarge | hsmall
    · rw [call_of_lt _ _ _ hlarge, Incoming.asked?,
        if_neg fun hadmissible => Nat.not_le.mpr hlarge hadmissible.length_le]
    · rw [call_of_le _ _ _ hsmall, Incoming.asked?, if_pos ⟨hcall, hsmall⟩]
  · rw [answer_snd_of_not_isCall _ _ _ hcall, Incoming.asked?,
      if_neg fun hadmissible => hcall hadmissible.isCall]

/-! ## Sequences of requests -/

/-- The server after it has answered requests. -/
def after (s : Server) : List Incoming → Server
  | [] => s
  | i :: rest => (s.answer i.node i.request i.elapsed).2.after rest

/-- Answering requests changes no setting. -/
lemma settings_after (asked : List Incoming) : (s.after asked).settings = s.settings := by
  induction asked generalizing s with
  | nil => rfl
  | cons i rest ih =>
    rw [after, ih, answer_snd]
    split <;> rfl

/-- The responder of a server that has answered requests has been asked the admissible ones, in
their order. -/
lemma responder_after (asked : List Incoming) :
    (s.after asked).responder =
      (s.responder.answerAll (asked.filterMap (Incoming.asked? s.settings))).2 := by
  induction asked generalizing s with
  | nil => rfl
  | cons i rest ih =>
    rw [after, ih, answer_snd]
    cases hasked : i.asked? s.settings with
    | none => rw [List.filterMap_cons_none hasked]
    | some a =>
      rw [List.filterMap_cons_some hasked]
      rfl

/-- The gateway runs its methods for the admissible calls, and for nothing else.

A server of any settings has answered any requests, the node being in any state at each of them.
Then its responder is where it would be if it had been asked the admissible bodies, in their order.
The next request, whatever it is, is answered as follows.  If it is admissible, the response says
that it went well, is of the type JSON and of no other, and carries what the responder answers to
the body, be it a result or an error.  If it is a call with a larger body, the response says so, and
the server stays as it is; it does so with every request that is no call.  And if it asks for the
counters, it gets them, and the total among them is the number of the admissible requests up to
then, as a word and, short of a wrap-around, as a number. -/
theorem admissible_calls_alone_are_run (settings : GatewaySettings) (asked : List Incoming)
    (next : Incoming) :
    let server := (create settings).after asked
    let admitted := asked.countP fun i => Admissible settings i.request
    let answered := server.answer next.node next.request next.elapsed
    server.responder = ((Responder.create nodeRegistry).answerAll
        (asked.filterMap (Incoming.asked? settings))).2 ∧
      (Admissible settings next.request →
        answered.1.status = 200 ∧
        answered.1.headers.filter (·.1 = "content-type") =
          [("content-type", "application/json")] ∧
        answered.1.body = (server.responder.answer (viewOf settings next.node) next.request.body
          next.elapsed).1) ∧
      (next.request.IsCall →
        settings.limits.maxRequestSize.toNat < next.request.body.length →
        answered.1.status = 413 ∧ answered.2 = server) ∧
      (¬ next.request.IsCall → answered.2 = server) ∧
      (next.request.method = "GET" → next.request.path = "/metrics" →
        answered.1.status = 200 ∧
        answered.1.body = server.responder.counters.toJson.write ∧
        ∃ total : UInt64,
          server.responder.counters.exported? "requests" "total" = some (.word total) ∧
          total = .ofNat admitted ∧ (admitted < UInt64.size → total.toNat = admitted)) := by
  intro server admitted answered
  have hsettings : server.settings = settings := settings_after _ asked
  have hresponder : server.responder = ((Responder.create nodeRegistry).answerAll
      (asked.filterMap (Incoming.asked? settings))).2 := responder_after _ asked
  refine ⟨hresponder, ?_, ?_, answer_snd_of_not_isCall _ _ _, ?_⟩
  · intro hadmissible
    have hlength : next.request.body.length ≤ server.settings.limits.maxRequestSize.toNat :=
      hsettings.symm ▸ hadmissible.length_le
    have hanswer := server.answer_of_isCall next.node next.elapsed hadmissible.isCall
    rw [call_of_le _ _ _ hlength, hsettings] at hanswer
    refine ⟨congrArg (fun a => a.1.status) hanswer, ?_, congrArg (fun a => a.1.body) hanswer⟩
    simp only [answered, hanswer, filter_withOrigin]
    rfl
  · intro hcall hlarge
    have hanswer := server.answer_of_isCall next.node next.elapsed hcall
    rw [call_of_lt _ _ _ (hsettings.symm ▸ hlarge)] at hanswer
    exact ⟨congrArg (fun a => a.1.status) hanswer, congrArg Prod.snd hanswer⟩
  · intro hmethod hpath
    have hanswer := server.answer_of_get_metrics next.node next.elapsed hmethod hpath
    have htotal : server.responder.counters.total = .ofNat admitted := by
      rw [hresponder]
      exact (Responder.total_countersOf nodeRegistry _).trans
        (congrArg _ (Incoming.length_filterMap_asked? settings asked))
    refine ⟨congrArg (fun a => a.1.status) hanswer, congrArg (fun a => a.1.body) hanswer,
      server.responder.counters.total, rfl, htotal, fun hsmall => ?_⟩
    rw [htotal, UInt64.toNat_ofNat_of_lt' hsmall]

/-- A question of a browser, a look at the health and a body that is one byte too large leave one
call to count. -/
example :
    let settings := { GatewaySettings.standard with limits.maxRequestSize := 2 }
    let asked := [("GET", "/health", []), ("POST", "/", [123, 125]), ("OPTIONS", "/", []),
      ("POST", "/", [123, 125, 10])]
    ((create settings).after <| asked.map fun (method, target, body) =>
      ⟨.create settings.retention "signet", ⟨method, target, [], body⟩, 0⟩).responder.counters.total
        = 1 := by
  decide +kernel

end Server

end ChainView.Http
