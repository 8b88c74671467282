import ChainView.Proofs.Rpc.Parameters
import ChainView.Proofs.Rpc.Wire

/-!
# What a response discloses of a handler

A client sees the names of the methods and the kinds of their parameters: the *interface* of a
registry.  Which method a body reaches is a matter of the interface alone, and of the handler that
is reached a response shows no more than the answer that its outcome is turned into
(`SameInterface.response_congr`).  All failures inside the node are turned into one answer, so two
registries of one interface send the same bytes for a body on which both fail inside, whatever their
handlers read and whatever went wrong; and for a body that reaches no method they send the same
bytes in any case.
-/

namespace ChainView.Rpc

/-- An outcome is a failure inside the node: the state could not be read, the result could not be
written, or the handler broke off. -/
inductive Outcome.FailsInside : Outcome → Prop
  /-- The state could not be read. -/
  | unreadable (why : String) : FailsInside (.failed (.unreadable why))
  /-- The result could not be written. -/
  | unwritable (why : String) : FailsInside (.failed (.unwritable why))
  /-- The handler broke off. -/
  | crashed (c : Crash) : FailsInside (.crashed c)

/-- Of a failure inside the node a client learns only that there was one. -/
lemma Outcome.FailsInside.answer_eq {o : Outcome} (h : o.FailsInside) :
    o.answer = .error .internal := by
  cases h <;> rfl

variable {γ δ : Type}

/-- Two registries have the same interface: they have methods of the same names, and methods of one
name take parameters of the same kinds. -/
def SameInterface (r : Registry γ) (s : Registry δ) : Prop :=
  ∀ name, (r.find? name).map Method.params = (s.find? name).map Method.params

/-- A body reaches a method: it writes a request that names the method and whose parameters fit
it. -/
structure Registry.Reaches (r : Registry γ) (body : Bytes) (request : Request) (m : Method γ) :
    Prop where
  /-- The body writes the request. -/
  written : request.WrittenBy body
  /-- The request names the method. -/
  named : r.find? request.method = some m
  /-- The parameters fit it. -/
  fits : ¬ Misfit m.params request.params

/-- A method is found under its name. -/
lemma Registry.name_eq_of_find? {r : Registry γ} {name : String} {m : Method γ}
    (h : r.find? name = some m) : m.name = name := by
  unfold find? at h
  simpa using List.find?_some h

/-- The check of parameters is a matter of the name and of the kinds. -/
lemma Method.checkParameters_congr {m : Method γ} {k : Method δ} (hname : m.name = k.name)
    (hparams : m.params = k.params) (ps : Parameters) :
    m.checkParameters ps = k.checkParameters ps := by
  unfold checkParameters
  rw [hname, hparams]

/-- A body that reaches a method is answered by its handler. -/
lemma Registry.Reaches.reply_eq {r : Registry γ} {body : Bytes} {request : Request} {m : Method γ}
    (h : r.Reaches body request m) (context : γ) :
    r.response context body =
      match (m.handler context request.params).answer with
      | .ok v => .ofResult request.id v
      | .error e => .ofError (some request.id) e := by
  have hread := readRequest_eq_ok_iff.mpr h.written
  have hcheck := Method.checkParameters_eq_ok_iff.mpr h.fits
  unfold response reply answer call
  simp only [hread, h.named, hcheck]
  cases (m.handler context request.params).answer <;> rfl

namespace SameInterface

variable {r : Registry γ} {s : Registry δ}

/-- To have the same interface is a symmetric relation. -/
lemma symm (h : SameInterface r s) : SameInterface s r := fun name => (h name).symm

/-- Under each name there are methods of the same kinds of parameters, or none. -/
lemma find?_cases (h : SameInterface r s) (name : String) :
    (r.find? name = none ∧ s.find? name = none) ∨
      ∃ m k, r.find? name = some m ∧ s.find? name = some k ∧ m.params = k.params := by
  have hname := h name
  cases hr : r.find? name with
  | none =>
    rw [hr, Option.map_none, eq_comm, Option.map_eq_none_iff] at hname
    exact .inl ⟨rfl, hname⟩
  | some m =>
    rw [hr, Option.map_some, eq_comm, Option.map_eq_some_iff] at hname
    obtain ⟨k, hk, hparams⟩ := hname
    exact .inr ⟨m, k, rfl, hk, hparams.symm⟩

/-- A body that reaches a method of one registry reaches one of the other. -/
lemma exists_reaches (h : SameInterface r s) {body : Bytes} {request : Request} {m : Method γ}
    (hr : r.Reaches body request m) : ∃ k, s.Reaches body request k := by
  obtain ⟨hnone, -⟩ | ⟨m', k, hm, hk, hparams⟩ := h.find?_cases request.method
  · rw [hr.named] at hnone
    cases hnone
  · obtain rfl : m = m' := Option.some.inj (hr.named.symm.trans hm)
    exact ⟨k, hr.written, hk, hparams ▸ hr.fits⟩

/-- Registries of one interface respond alike to a body if the methods that it reaches, should it
reach any, answer alike. -/
lemma response_congr (h : SameInterface r s) {context : γ} {other : δ} {body : Bytes}
    (hanswer : ∀ request m k, r.Reaches body request m → s.Reaches body request k →
      (m.handler context request.params).answer = (k.handler other request.params).answer) :
    r.response context body = s.response other body := by
  cases hread : readRequest body with
  | error rejection => simp only [Registry.response, Registry.reply, hread]
  | ok request =>
    have hwritten := readRequest_eq_ok_iff.mp hread
    obtain ⟨hr, hs⟩ | ⟨m, k, hr, hs, hparams⟩ := h.find?_cases request.method
    · simp only [Registry.response, Registry.reply, Registry.answer, Registry.call, hread, hr, hs]
    · by_cases hfit : Misfit m.params request.params
      · have hname := (Registry.name_eq_of_find? hr).trans (Registry.name_eq_of_find? hs).symm
        have hcheck := Method.checkParameters_congr hname hparams request.params
        have hrefused : m.checkParameters request.params ≠ .ok () := fun hok =>
          Method.checkParameters_eq_ok_iff.mp hok hfit
        simp only [Registry.response, Registry.reply, Registry.answer, Registry.call, hread, hr, hs,
          ← hcheck]
        cases hm : m.checkParameters request.params with
        | error mismatch => rfl
        | ok _ => exact absurd hm hrefused
      · have hreaches : r.Reaches body request m := ⟨hwritten, hr, hfit⟩
        have hreached : s.Reaches body request k := ⟨hwritten, hs, hparams ▸ hfit⟩
        rw [hreaches.reply_eq, hreached.reply_eq, hanswer request m k hreaches hreached]

end SameInterface

/-- An error response without further data, whose id is none but an integer or a text, can be read
back. -/
lemma Response.Readable.ofError {id : Option RequestId} {e : ErrorObject} (hdata : e.data = none)
    (hid : ∀ x, id ≠ some (.float x)) : (Response.ofError id e).Readable :=
  ⟨nofun, fun _ he => Option.some.inj he ▸ hdata, hid⟩

/-- Take two responders whose registries have the same interface, in any contexts, with any
counters, and a body.  If the body reaches a method of each and both handlers fail inside the node,
for any reasons, then both responders send the same bytes.  They are read as the response with the
code -32603, the message that there was an internal error, no further data and the id of the
request.  If the body reaches no method of one of them, it reaches none of the other and both send
the same bytes too, whatever the handlers are. -/
theorem answer_discloses_no_internals {p : Responder γ} {q : Responder δ}
    (hsame : SameInterface p.registry q.registry) (context : γ) (other : δ) (body : Bytes)
    (elapsed time : UInt64) :
    (∀ request m k, p.registry.Reaches body request m → q.registry.Reaches body request k →
      (m.handler context request.params).FailsInside →
      (k.handler other request.params).FailsInside →
        (p.answer context body elapsed).1 = (q.answer other body time).1 ∧
        Json.decode Response.shape.decoder (p.answer context body elapsed).1 =
          .ok ⟨"2.0", none, some ⟨-32603, "Internal error", none⟩, some request.id⟩) ∧
      ((∀ request m, ¬ p.registry.Reaches body request m) →
        (∀ request k, ¬ q.registry.Reaches body request k) ∧
        (p.answer context body elapsed).1 = (q.answer other body time).1) := by
  constructor
  · intro request m k hm hk hfails hfailsToo
    have hresponse : p.registry.response context body = .ofError (some request.id) .internal := by
      rw [hm.reply_eq, hfails.answer_eq]
    have hresponseToo : q.registry.response other body = .ofError (some request.id) .internal := by
      rw [hk.reply_eq, hfailsToo.answer_eq]
    have hid : ∀ x, some request.id ≠ some (.float x) := by
      obtain ⟨members, -, hheld⟩ := hm.written
      exact fun x hx => hheld.id_exact x (Option.some.inj hx)
    rw [Responder.answer_fst, Responder.answer_fst, hresponse, hresponseToo]
    exact ⟨rfl, (Response.Readable.ofError rfl hid).decode_write⟩
  · intro hnone
    have hnoneToo : ∀ request k, ¬ q.registry.Reaches body request k := by
      intro request k hk
      obtain ⟨m, hm⟩ := hsame.symm.exists_reaches hk
      exact hnone request m hm
    refine ⟨hnoneToo, ?_⟩
    rw [Responder.answer_fst, Responder.answer_fst,
      hsame.response_congr fun request m k hm => absurd hm (hnone request m)]

open Json in
/-- A handler that cannot read its state and one that breaks off on a secret give the same answer to
a request, under registries that list their methods in different orders; and so they do to a body
that is no request. -/
theorem answer_discloses_no_internals_of_two_failures :
    let ask : Method Unit := ⟨"ask", [.word], "", fun _ _ => .value .null⟩
    let poll : Method Unit := ⟨"poll", [], "", fun _ _ => .failed (.unreadable "disk gone")⟩
    let askToo : Method String := ⟨"ask", [.word], "", fun _ _ => .failed (.missing "all")⟩
    let pollToo : Method String := ⟨"poll", [], "", fun path _ => .crashed (.message path)⟩
    let p : Responder Unit := .create ⟨[ask, poll]⟩
    let q : Responder String := .create ⟨[pollToo, askToo]⟩
    let body : Bytes := (Value.object [("id", .string "a"), ("jsonrpc", .string "2.0"),
      ("method", .string "poll")]).write
    let request : Request := ⟨"poll", [], .text "a"⟩
    SameInterface p.registry q.registry ∧
      p.registry.Reaches body request poll ∧ q.registry.Reaches body request pollToo ∧
      (p.answer () body 1).1 = (q.answer "/secret" body 2).1 ∧
      Json.decode Response.shape.decoder (p.answer () body 1).1 =
        .ok ⟨"2.0", none, some ⟨-32603, "Internal error", none⟩, some (.text "a")⟩ ∧
      (∀ request m, ¬ p.registry.Reaches [] request m) ∧
      (p.answer () [] 1).1 = (q.answer "/secret" [] 2).1 := by
  intro ask poll askToo pollToo p q body request
  have hsame : SameInterface p.registry q.registry := by
    intro name
    by_cases hask : "ask" = name
    · subst hask
      rfl
    · by_cases hpoll : "poll" = name
      · subst hpoll
        rfl
      · simp [p, q, Responder.create, Registry.find?, ask, poll, askToo, pollToo, hask, hpoll]
  have hwritten : request.WrittenBy body := by
    have hexact : (Value.object [("id", .string "a"), ("jsonrpc", .string "2.0"),
        ("method", .string "poll")]).Exact 1 := by
      refine .object ?_
      simp only [List.forall_mem_cons]
      exact ⟨.string _, .string _, .string _, List.forall_mem_nil _⟩
    have hparse := parse_write hexact (by decide)
    simp +decide only [Value.sortKeys, sortValues, orderMembers, insertMember, List.foldl,
      if_false] at hparse
    have hexactId : ∀ x, request.id ≠ .float x := by
      rintro x ⟨⟩
    exact ⟨_, hparse, rfl, hexactId, rfl, rfl, by decide, by decide, .inr ⟨rfl, .inl rfl⟩⟩
  have hreaches : p.registry.Reaches body request poll :=
    ⟨hwritten, rfl, Method.checkParameters_eq_ok_iff.mp rfl⟩
  have hreachesToo : q.registry.Reaches body request pollToo :=
    ⟨hwritten, rfl, Method.checkParameters_eq_ok_iff.mp rfl⟩
  have hnone : ∀ request m, ¬ p.registry.Reaches [] request m := by
    rintro request m ⟨⟨members, hparse, -⟩, -, -⟩
    cases hparse
  obtain ⟨hinside, -⟩ := answer_discloses_no_internals hsame () "/secret" body 1 2
  obtain ⟨-, hunreached⟩ := answer_discloses_no_internals hsame () "/secret" [] 1 2
  obtain ⟨hbytes, hdecoded⟩ := hinside request poll pollToo hreaches hreachesToo (.unreadable _)
    (.crashed _)
  exact ⟨hsame, hreaches, hreachesToo, hbytes, hdecoded, hnone, (hunreached hnone).2⟩

end ChainView.Rpc
