import Mathlib.Data.List.Count
import ChainView.Proofs.Rpc.Echo

/-!
# The counters account for every request

A responder counts in two places: a handler that breaks off is counted when it does, and a request
once it has been answered, under the code of its error if it has one.  `Counters.Rises` says what
that comes to for one reply: each counter rises by one if the reply is of the kind that it counts,
and stays as it is otherwise.  A counter of which this is known counts the replies of its kind over
a whole sequence (`Responder.counter_answerAll`), in the arithmetic of words.

The counter of an error is chosen by one table of codes and the label of an error by another.  Both
are asked about the same code, and they agree on all codes, those that belong to no class included
(`Counters.errorsOf_countError`).
-/

namespace ChainView.Rpc

/-! ## One reply -/

/-- One or zero, by whether something is so. -/
def tick (b : Bool) : UInt64 := if b then 1 else 0

namespace Counters

/-- An error of a code raises the counter of the class of that code, and of no other. -/
lemma errorsOf_countError (c : Counters) (code : Int32) (k : ErrorClass) :
    (c.countError code).errorsOf k = c.errorsOf k + tick (ErrorClass.ofCode code = k) := by
  unfold countError ErrorClass.ofCode
  split_ifs <;> cases k <;> simp [errorsOf, tick]

/-- An error raises no counter but one of the classes. -/
lemma countError_frame (c : Counters) (code : Int32) :
    (c.countError code).total = c.total ∧ (c.countError code).success = c.success ∧
      (c.countError code).error = c.error ∧ (c.countError code).crashes = c.crashes ∧
      (c.countError code).samples = c.samples := by
  unfold countError
  split_ifs <;> exact ⟨rfl, rfl, rfl, rfl, rfl⟩

/-- Counters rise by a reply: each by one if the reply is of the kind that it counts. -/
structure Rises (c next : Counters) (reply : Reply) : Prop where
  /-- Every reply is counted. -/
  total : next.total = c.total + 1
  /-- The time of every reply is counted in. -/
  samples : next.samples = c.samples + 1
  /-- A reply without an error is counted as a success. -/
  success : next.success = c.success + tick reply.response.error.isNone
  /-- A reply with an error is counted as one. -/
  error : next.error = c.error + tick reply.response.error.isSome
  /-- It is counted under its class too. -/
  errorsOf : ∀ k, next.errorsOf k =
    c.errorsOf k + tick (reply.response.error.any fun e => e.errorClass = k)
  /-- A handler that broke off is counted. -/
  crashes : next.crashes = c.crashes + tick reply.crashed

/-- A finished request raises the counter of the class of its code, if it has one. -/
lemma errorsOf_record (c : Counters) (code : Option Int32) (elapsed : UInt64) (k : ErrorClass) :
    (c.record code elapsed).errorsOf k =
      c.errorsOf k + tick (code.any fun code => ErrorClass.ofCode code = k) := by
  cases code with
  | none => cases k <;> simp [record, countOutcome, errorsOf, tick]
  | some code =>
    -- the class is counted between the number of errors and the time, which are other counters
    let counted : Counters := { c with total := c.total + 1, error := c.error + 1 }
    have hcount : (c.record (some code) elapsed).errorsOf k =
        (counted.countError code).errorsOf k := by
      cases k <;> rfl
    have hbefore : counted.errorsOf k = c.errorsOf k := by cases k <;> rfl
    rw [hcount, errorsOf_countError, hbefore, Option.any_some]

/-- A finished request is counted once, and once more as a success or as an error. -/
lemma record_spec (c : Counters) (code : Option Int32) (elapsed : UInt64) :
    (c.record code elapsed).total = c.total + 1 ∧
      (c.record code elapsed).samples = c.samples + 1 ∧
      (c.record code elapsed).success = c.success + tick code.isNone ∧
      (c.record code elapsed).error = c.error + tick code.isSome ∧
      (c.record code elapsed).crashes = c.crashes := by
  cases code with
  | none => exact ⟨rfl, rfl, rfl, (UInt64.add_zero _).symm, rfl⟩
  | some code =>
    obtain ⟨htotal, hsuccess, herror, hcrashes, hsamples⟩ :=
      countError_frame { c with total := c.total + 1, error := c.error + 1 } code
    exact ⟨htotal, congrArg (· + 1) hsamples, hsuccess.trans (UInt64.add_zero _).symm, herror,
      hcrashes⟩

/-- Recording a reply raises the counters by it. -/
lemma rises_recordReply (c : Counters) (reply : Reply) (elapsed : UInt64) :
    c.Rises (c.recordReply reply elapsed) reply := by
  obtain ⟨response, crashed⟩ := reply
  have hclass : ∀ (c : Counters) k,
      (c.record (response.error.map ErrorObject.code) elapsed).errorsOf k =
        c.errorsOf k + tick (response.error.any fun e => e.errorClass = k) := by
    intro c k
    rw [errorsOf_record, Option.any_map]
    rfl
  cases crashed with
  | false =>
    obtain ⟨htotal, hsamples, hsuccess, herror, hcrashes⟩ :=
      c.record_spec (response.error.map ErrorObject.code) elapsed
    rw [Option.isNone_map] at hsuccess
    rw [Option.isSome_map] at herror
    exact ⟨htotal, hsamples, hsuccess, herror, hclass c,
      hcrashes.trans (UInt64.add_zero _).symm⟩
  | true =>
    obtain ⟨htotal, hsamples, hsuccess, herror, hcrashes⟩ :=
      c.recordCrash.record_spec (response.error.map ErrorObject.code) elapsed
    rw [Option.isNone_map] at hsuccess
    rw [Option.isSome_map] at herror
    have hbefore : ∀ k, c.recordCrash.errorsOf k = c.errorsOf k := fun k => by cases k <;> rfl
    exact ⟨htotal, hsamples, hsuccess, herror, fun k => hbefore k ▸ hclass c.recordCrash k,
      hcrashes⟩

/-- The value that the exported counters have under a name in one of their parts. -/
def exported? (c : Counters) (part name : String) : Option Json.Value :=
  (c.toJson.get? part).bind (Json.Value.get? name)

/-- The errors of a class are exported under its label. -/
lemma exported?_errors (c : Counters) (k : ErrorClass) :
    c.exported? "errors" k.label = some (.word (c.errorsOf k)) := by
  cases k <;> rfl

end Counters

/-- Classes have different labels. -/
lemma ErrorClass.label_injective : Function.Injective ErrorClass.label := by
  intro a b
  cases a <;> cases b <;> decide

/-! ## Replies -/

namespace Registry

variable {γ : Type} (r : Registry γ) (context : γ)

/-- The outcome of the handler that a body reaches, if it reaches one: the body has to be a request
of a method that is there, with parameters that fit it. -/
def handled? (body : Bytes) : Option Outcome :=
  match readRequest body with
  | .error _ => none
  | .ok request => (r.call context request.method request.params).toOption

/-- A handler broke off in making a reply exactly if the body reached a handler that did. -/
lemma crashed_reply (body : Bytes) :
    (r.reply context body).crashed = (r.handled? context body).any Outcome.isCrash := by
  unfold reply handled?
  cases readRequest body with
  | error rejection => rfl
  | ok request =>
    simp only [answer]
    cases r.call context request.method request.params with
    | error e => rfl
    | ok outcome => cases outcome <;> rfl

/-- A handler that broke off leaves an error behind that is counted as internal. -/
lemma error_reply_of_crashed {body : Bytes} (h : (r.reply context body).crashed = true) :
    (r.response context body).error = some .internal := by
  unfold response
  unfold reply at h ⊢
  cases hr : readRequest body with
  | error rejection => simp [hr] at h
  | ok request =>
    simp only [hr, answer] at h ⊢
    cases hc : r.call context request.method request.params with
    | error e => simp [hc] at h
    | ok outcome =>
      cases outcome with
      | value v => simp [hc, Outcome.answer, Outcome.isCrash] at h
      | failed e => simp [hc, Outcome.answer, Outcome.isCrash] at h
      | crashed c => rfl

/-- A response has a result exactly if it has no error. -/
lemma isSome_result_response (body : Bytes) :
    (r.response context body).result.isSome = (r.response context body).error.isNone := by
  obtain ⟨v, hresult, herror⟩ | ⟨e, hresult, herror⟩ :=
    (r.wellFormed_response context body).outcome
  · rw [hresult, herror]
    rfl
  · rw [hresult, herror]
    rfl

end Registry

/-- The errors among responses are counted once each by the counts of the six classes. -/
lemma countP_error_eq (responses : List Response) :
    responses.countP (fun r => r.error.isSome) =
      responses.countP (fun r => r.error.any fun e => e.errorClass = .notJson) +
      responses.countP (fun r => r.error.any fun e => e.errorClass = .notRequest) +
      responses.countP (fun r => r.error.any fun e => e.errorClass = .unknownMethod) +
      responses.countP (fun r => r.error.any fun e => e.errorClass = .unfitParameters) +
      responses.countP (fun r => r.error.any fun e => e.errorClass = .unknownResource) +
      responses.countP (fun r => r.error.any fun e => e.errorClass = .internal) := by
  induction responses with
  | nil => rfl
  | cons response rest ih =>
    simp only [List.countP_cons, ih]
    cases response.error with
    | none => simp
    | some e =>
      cases hk : e.errorClass <;> simp [hk] <;> omega

/-! ## Sequences of requests -/

/-- A request as a responder meets it: the context in which it is answered, its body, and the time
that answering it takes. -/
structure Asked (γ : Type) where
  /-- The context. -/
  context : γ
  /-- The body. -/
  body : Bytes
  /-- The time in microseconds. -/
  elapsed : UInt64

/-- Of the handlers that a sequence of requests reaches, as many break off as there are replies in
whose making one did. -/
lemma Registry.countP_crashed {γ : Type} (r : Registry γ) (asked : List (Asked γ)) :
    (asked.filterMap fun a => r.handled? a.context a.body).countP
        (fun | .crashed _ => true | _ => false) =
      asked.countP fun a => (r.reply a.context a.body).crashed := by
  rw [List.countP_filterMap]
  refine List.countP_congr fun a _ => ?_
  rw [crashed_reply]
  rcases r.handled? a.context a.body with _ | _ | _ | _ <;> simp [Outcome.isCrash]

namespace Responder

variable {γ : Type}

/-- Answers a sequence of requests. -/
def answerAll (r : Responder γ) : List (Asked γ) → List Bytes × Responder γ
  | [] => ([], r)
  | a :: rest =>
    let (sent, next) := r.answer a.context a.body a.elapsed
    let (others, last) := next.answerAll rest
    (sent :: others, last)

/-- What is sent is the responses to the bodies, each by itself. -/
lemma answerAll_fst (r : Responder γ) (asked : List (Asked γ)) :
    (r.answerAll asked).1 =
      asked.map fun a => (r.registry.response a.context a.body).write := by
  induction asked generalizing r with
  | nil => rfl
  | cons a rest ih =>
    rw [List.map_cons, ← registry_answer r a.context a.body a.elapsed, ← ih]
    rfl

/-- A counter that rises by one with the replies of a kind, and stays as it is with all others,
counts the replies of that kind. -/
lemma counter_answerAll (r : Responder γ) (asked : List (Asked γ)) {counter : Counters → UInt64}
    {kind : Reply → Bool}
    (hstep : ∀ c reply elapsed,
      counter (c.recordReply reply elapsed) = counter c + tick (kind reply)) :
    counter (r.answerAll asked).2.counters = counter r.counters +
      .ofNat (asked.countP fun a => kind (r.registry.reply a.context a.body)) := by
  induction asked generalizing r with
  | nil => exact (UInt64.add_zero _).symm
  | cons a rest ih =>
    -- the first request is counted by the step, the others from the counters that it leaves
    have hfirst := hstep r.counters (r.registry.reply a.context a.body) a.elapsed
    have hrest := ih (r.answer a.context a.body a.elapsed).2
    rw [registry_answer] at hrest
    change counter ((r.answer a.context a.body a.elapsed).2.answerAll rest).2.counters = _
    rw [hrest]
    change counter (r.counters.recordReply _ _) + _ = _
    rw [hfirst, List.countP_cons, UInt64.add_assoc, UInt64.ofNat_add, UInt64.add_comm (tick _)]
    congr 2
    cases kind (r.registry.reply a.context a.body) <;> rfl

/-! ## What a responder has counted -/

section Fresh

variable (registry : Registry γ) (asked : List (Asked γ))

/-- The counters of a responder that has been asked a sequence of requests, and nothing before. -/
def countersOf : Counters := ((create registry).answerAll asked).2.counters

/-- A counter that starts at zero and rises by one with the replies of a kind is their number. -/
lemma counter_countersOf (counter : Counters → UInt64) (kind : Reply → Bool)
    (hzero : counter .zero = 0)
    (hstep : ∀ c reply elapsed,
      counter (c.recordReply reply elapsed) = counter c + tick (kind reply)) :
    counter (countersOf registry asked) =
      .ofNat (asked.countP fun a => kind (registry.reply a.context a.body)) := by
  have h := (create registry).counter_answerAll asked hstep
  rw [show counter (create registry).counters = 0 from hzero, UInt64.zero_add] at h
  exact h

/-- The requests are counted. -/
lemma total_countersOf : (countersOf registry asked).total = .ofNat asked.length := by
  rw [counter_countersOf registry asked Counters.total (fun _ => true) rfl fun c reply elapsed =>
    (c.rises_recordReply reply elapsed).total, List.countP_true]

/-- Their times are counted. -/
lemma samples_countersOf : (countersOf registry asked).samples = .ofNat asked.length := by
  rw [counter_countersOf registry asked Counters.samples (fun _ => true) rfl fun c reply elapsed =>
    (c.rises_recordReply reply elapsed).samples, List.countP_true]

/-- The responses with a result are counted. -/
lemma success_countersOf : (countersOf registry asked).success =
    .ofNat (asked.countP fun a => (registry.response a.context a.body).result.isSome) := by
  simp only [Registry.isSome_result_response]
  exact counter_countersOf registry asked Counters.success
    (fun reply => reply.response.error.isNone) rfl
    fun c reply elapsed => (c.rises_recordReply reply elapsed).success

/-- The responses with an error are counted. -/
lemma error_countersOf : (countersOf registry asked).error =
    .ofNat (asked.countP fun a => (registry.response a.context a.body).error.isSome) :=
  counter_countersOf registry asked Counters.error (fun reply => reply.response.error.isSome) rfl
    fun c reply elapsed => (c.rises_recordReply reply elapsed).error

/-- The responses with an error of a class are counted. -/
lemma errorsOf_countersOf (k : ErrorClass) : (countersOf registry asked).errorsOf k =
    .ofNat (asked.countP fun a =>
      (registry.response a.context a.body).error.any fun e => e.errorClass = k) := by
  have hzero : Counters.zero.errorsOf k = 0 := by cases k <;> rfl
  have hcount := counter_countersOf registry asked (fun c => c.errorsOf k)
    (fun reply => reply.response.error.any fun e => e.errorClass = k) hzero
  exact hcount fun c reply elapsed => (c.rises_recordReply reply elapsed).errorsOf k

/-- The replies in whose making a handler broke off are counted. -/
lemma crashes_countersOf : (countersOf registry asked).crashes =
    .ofNat (asked.countP fun a => (registry.reply a.context a.body).crashed) :=
  counter_countersOf registry asked Counters.crashes Reply.crashed rfl
    fun c reply elapsed => (c.rises_recordReply reply elapsed).crashes

/-- The requests are the successes and the errors. -/
lemma total_eq_success_add_error : (countersOf registry asked).total =
    (countersOf registry asked).success + (countersOf registry asked).error := by
  rw [total_countersOf, success_countersOf, error_countersOf, ← UInt64.ofNat_add,
    List.length_eq_countP_add_countP fun a =>
      (registry.response a.context a.body).result.isSome]
  congr 2
  refine List.countP_congr fun a _ => ?_
  simp [Registry.isSome_result_response, Option.isSome_iff_ne_none]

/-- The errors are those of the six classes. -/
lemma error_eq_sum_errorsOf : (countersOf registry asked).error =
    (countersOf registry asked).notJson + (countersOf registry asked).notRequest +
      (countersOf registry asked).unknownMethod + (countersOf registry asked).unfitParameters +
      (countersOf registry asked).unknownResource + (countersOf registry asked).internal := by
  let responses := asked.map fun a => registry.response a.context a.body
  have herror : (countersOf registry asked).error =
      .ofNat (responses.countP fun r => r.error.isSome) := by
    rw [error_countersOf, List.countP_map]
    rfl
  have hclass : ∀ k, .ofNat (responses.countP fun r => r.error.any fun e => e.errorClass = k) =
      (countersOf registry asked).errorsOf k := by
    intro k
    rw [errorsOf_countersOf, List.countP_map]
    rfl
  rw [herror, countP_error_eq]
  simp only [UInt64.ofNat_add, hclass]
  rfl

/-- Each handler that broke off is behind an internal error of its own, and the counters show that
unless they have wrapped around. -/
lemma crashes_le_internal (hlength : asked.length < UInt64.size) :
    (countersOf registry asked).crashes ≤ (countersOf registry asked).internal := by
  have hle : (asked.countP fun a => (registry.reply a.context a.body).crashed) ≤
      asked.countP fun a =>
        (registry.response a.context a.body).error.any fun e => e.errorClass = .internal := by
    refine List.countP_mono_left fun a _ ha => ?_
    rw [registry.error_reply_of_crashed a.context ha]
    rfl
  have hinternal : (asked.countP fun a => (registry.response a.context a.body).error.any
      fun e => e.errorClass = .internal) < UInt64.size :=
    Nat.lt_of_le_of_lt List.countP_le_length hlength
  change _ ≤ (countersOf registry asked).errorsOf .internal
  rw [crashes_countersOf, errorsOf_countersOf, UInt64.le_iff_toNat_le,
    UInt64.toNat_ofNat_of_lt' (Nat.lt_of_le_of_lt hle hinternal),
    UInt64.toNat_ofNat_of_lt' hinternal]
  exact hle

end Fresh

/-- Whatever methods are registered and whatever their handlers do, a responder that has not been
asked anything and is asked a sequence of bodies counts each of them once, in 64-bit words: all of
them and the times that they took by their number, the successes by the responses with a result and
the errors by those with an error.  Under the label of a class it exports the number of the errors
of that label, and beside them the number of the handlers that broke off.  So the requests are the
successes and the errors, the errors are those of the six classes, and the handlers that broke off
are counted among the internal errors as long as no counter wraps around.  Every code at all is
counted under the label of its class, and under no other. -/
theorem counters_account_for_every_request (registry : Registry γ) (asked : List (Asked γ)) :
    let counters := ((create registry).answerAll asked).2.counters
    let responses := asked.map fun a => registry.response a.context a.body
    let outcomes := asked.filterMap fun a => registry.handled? a.context a.body
    ((create registry).answerAll asked).1 = responses.map Response.write ∧
      counters.total = .ofNat asked.length ∧
      counters.samples = .ofNat asked.length ∧
      counters.success = .ofNat (responses.countP fun r => r.result.isSome) ∧
      counters.error = .ofNat (responses.countP fun r => r.error.isSome) ∧
      (∀ k : ErrorClass, counters.exported? "errors" k.label =
        some (.word (.ofNat (responses.countP fun r =>
          r.error.any fun e => e.errorClass.label = k.label)))) ∧
      counters.crashes = .ofNat (outcomes.countP fun | .crashed _ => true | _ => false) ∧
      (counters.exported? "requests" "total" = some (.word counters.total) ∧
        counters.exported? "requests" "success" = some (.word counters.success) ∧
        counters.exported? "requests" "error" = some (.word counters.error) ∧
        counters.exported? "errors" "handler_panics" = some (.word counters.crashes)) ∧
      counters.total = counters.success + counters.error ∧
      counters.error = counters.notJson + counters.notRequest + counters.unknownMethod +
        counters.unfitParameters + counters.unknownResource + counters.internal ∧
      (asked.length < UInt64.size → counters.crashes ≤ counters.internal) ∧
      ∀ (c : Counters) (e : ErrorObject) (elapsed : UInt64) (k : ErrorClass),
        (c.record (some e.code) elapsed).exported? "errors" k.label =
          some (.word (c.errorsOf k + if e.errorClass.label = k.label then 1 else 0)) := by
  intro counters responses outcomes
  have hcrashes : counters.crashes =
      .ofNat (outcomes.countP fun | .crashed _ => true | _ => false) := by
    rw [registry.countP_crashed]
    exact crashes_countersOf registry asked
  refine ⟨?_, total_countersOf registry asked, samples_countersOf registry asked, ?_, ?_, ?_,
    hcrashes, ⟨rfl, rfl, rfl, rfl⟩, total_eq_success_add_error registry asked,
    error_eq_sum_errorsOf registry asked, crashes_le_internal registry asked, ?_⟩
  · rw [answerAll_fst, List.map_map]
    rfl
  · rw [List.countP_map]
    exact success_countersOf registry asked
  · rw [List.countP_map]
    exact error_countersOf registry asked
  · intro k
    simp only [Counters.exported?_errors, ErrorClass.label_injective.eq_iff]
    rw [List.countP_map]
    exact congrArg (some ∘ Json.Value.word) (errorsOf_countersOf registry asked k)
  · intro c e elapsed k
    have htick : tick (ErrorClass.ofCode e.code = k) =
        if e.errorClass.label = k.label then 1 else 0 := by
      simp only [tick, decide_eq_true_eq, ErrorClass.label_injective.eq_iff]
      rfl
    rw [Counters.exported?_errors, Counters.errorsOf_record, Option.any_some, htick]

end Responder

end ChainView.Rpc
