import Mathlib.Tactic.Common
import ChainView.Rpc.Envelope

/-!
# What a request is

The readers of an envelope check its members one by one and stop at the first fault.  Here the same
is said without an order.  `Request.HeldBy` lists what the members of an object have to be for the
object to hold a request, and `Faulty` lists the faults they can have.  Members without a fault hold
a request, members with one hold none, and the readers find a request exactly if there is one.
-/

namespace ChainView.Rpc

/-- The members of an object hold a request. -/
structure Request.HeldBy (request : Request) (members : List (String × Json.Value)) : Prop where
  /-- They hold its id. -/
  id : members.lookup "id" = some request.id.toJson
  /-- The id is an integer or a text. -/
  id_exact : ∀ x, request.id ≠ .float x
  /-- They hold the version of the protocol. -/
  version : members.lookup "jsonrpc" = some (.string "2.0")
  /-- They hold its method. -/
  method : members.lookup "method" = some (.string request.method)
  /-- The name of the method is not empty. -/
  method_ne : request.method ≠ ""
  /-- The name of the method is not too long. -/
  method_le : request.method.utf8ByteSize ≤ 256
  /-- They hold its parameters, which may be left out or null if there are none. -/
  params : members.lookup "params" = some (.array request.params) ∨
    request.params = [] ∧ (members.lookup "params" = none ∨ members.lookup "params" = some .null)

/-- A body writes a request: it is JSON, and an object that holds the request. -/
def Request.WrittenBy (request : Request) (body : Bytes) : Prop :=
  ∃ members, Json.parse body = .ok (.object members) ∧ request.HeldBy members

/-- The members of an object are at fault, if taken for a request. -/
inductive Faulty (members : List (String × Json.Value)) : Prop
  /-- The id is missing or null, or neither an integer nor a text. -/
  | id (hinteger : ∀ n, members.lookup "id" ≠ some (.integer n))
      (htext : ∀ s, members.lookup "id" ≠ some (.string s))
  /-- The version is missing or another one. -/
  | version (h : members.lookup "jsonrpc" ≠ some (.string "2.0"))
  /-- The method is missing or no text. -/
  | method (h : ∀ m, members.lookup "method" ≠ some (.string m))
  /-- The name of the method is empty. -/
  | methodEmpty (h : members.lookup "method" = some (.string ""))
  /-- The name of the method is too long. -/
  | methodTooLong (m : String) (h : members.lookup "method" = some (.string m))
      (hlong : 256 < m.utf8ByteSize)
  /-- The parameters are there and neither null nor a list. -/
  | params (p : Json.Value) (h : members.lookup "params" = some p) (hnull : p ≠ .null)
      (hlist : ∀ ps, p ≠ .array ps)

/-- Members at fault hold no request. -/
lemma Faulty.not_heldBy {members : List (String × Json.Value)} (hf : Faulty members)
    (request : Request) : ¬ request.HeldBy members := by
  intro hr
  cases hf with
  | id hinteger htext =>
    cases hid : request.id with
    | integer n => exact hinteger n (by rw [hr.id, hid]; rfl)
    | float x => exact hr.id_exact x hid
    | text s => exact htext s (by rw [hr.id, hid]; rfl)
  | version h => exact h hr.version
  | method h => exact h _ hr.method
  | methodEmpty h =>
    rw [hr.method] at h
    exact hr.method_ne (by simpa using h)
  | methodTooLong m h hlong =>
    rw [hr.method] at h
    obtain rfl : request.method = m := by simpa using h
    exact absurd hr.method_le (Nat.not_le.mpr hlong)
  | params p h hnull hlist =>
    rcases hr.params with hp | ⟨-, hp | hp⟩
    · exact hlist _ (Option.some.inj (h.symm.trans hp))
    · exact absurd (h.symm.trans hp) (by simp)
    · exact hnull (Option.some.inj (h.symm.trans hp))

/-- Members that are not at fault hold a request. -/
lemma exists_heldBy_of_not_faulty {members : List (String × Json.Value)}
    (hf : ¬ Faulty members) : ∃ request : Request, request.HeldBy members := by
  obtain ⟨id, hid, hexact⟩ : ∃ id : RequestId,
      members.lookup "id" = some id.toJson ∧ ∀ x, id ≠ .float x := by
    by_contra hnone
    refine hf (.id ?_ ?_)
    · intro n hn
      exact hnone ⟨.integer n, hn, by simp⟩
    · intro s hs
      exact hnone ⟨.text s, hs, by simp⟩
  have hversion : members.lookup "jsonrpc" = some (.string "2.0") := by
    by_contra hne
    exact hf (.version hne)
  obtain ⟨m, hm⟩ : ∃ m, members.lookup "method" = some (.string m) := by
    by_contra hnone
    exact hf (.method fun m hm => hnone ⟨m, hm⟩)
  have hne : m ≠ "" := by
    rintro rfl
    exact hf (.methodEmpty hm)
  have hle : m.utf8ByteSize ≤ 256 := by
    by_contra hlong
    exact hf (.methodTooLong m hm (Nat.not_le.mp hlong))
  obtain ⟨ps, hps⟩ : ∃ ps, members.lookup "params" = some (.array ps) ∨
      ps = [] ∧ (members.lookup "params" = none ∨ members.lookup "params" = some .null) := by
    cases hp : members.lookup "params" with
    | none => exact ⟨[], .inr ⟨rfl, .inl rfl⟩⟩
    | some p =>
      by_contra hnone
      refine hf (.params p hp ?_ ?_)
      · rintro rfl
        exact hnone ⟨[], .inr ⟨rfl, .inr rfl⟩⟩
      · rintro ps rfl
        exact hnone ⟨ps, .inl rfl⟩
  exact ⟨⟨m, ps, id⟩, hid, hexact, hversion, hm, hne, hle, hps⟩

/-! ## The readers -/

section Readers

variable {members : List (String × Json.Value)}

/-- Of all values, ids are read from those that exact ids are written as. -/
lemma RequestId.ofValue?_eq_some_iff {v : Json.Value} {id : RequestId} :
    RequestId.ofValue? v = some id ↔ v = id.toJson ∧ ∀ x, id ≠ .float x := by
  constructor
  · intro h
    refine ⟨(RequestId.toJson_of_ofValue? h).symm, ?_⟩
    rintro x rfl
    cases v <;> simp [RequestId.ofValue?] at h
  · rintro ⟨rfl, hexact⟩
    cases id with
    | integer n => rfl
    | float x => exact absurd rfl (hexact x)
    | text s => rfl

/-- The id that is read is the one that the members hold. -/
lemma readId_eq_ok_iff {id : RequestId} :
    readId members = .ok id ↔ members.lookup "id" = some id.toJson ∧ ∀ x, id ≠ .float x := by
  unfold readId
  cases members.lookup "id" with
  | none => simp
  | some v =>
    rw [Option.some.injEq, ← RequestId.ofValue?_eq_some_iff]
    cases v <;> simp [RequestId.ofValue?]

/-- The version is in order if it is that of the protocol. -/
lemma checkVersion_eq_ok_iff :
    checkVersion members = .ok () ↔ members.lookup "jsonrpc" = some (.string "2.0") := by
  unfold checkVersion
  cases members.lookup "jsonrpc" with
  | none => simp
  | some v =>
    cases v with
    | string s => by_cases hs : s = "2.0" <;> simp [protocolVersion, hs]
    | _ => simp

/-- The method that is read is the one that the members hold, and its name is neither empty nor too
long. -/
lemma readMethod_eq_ok_iff {m : String} :
    readMethod members = .ok m ↔
      members.lookup "method" = some (.string m) ∧ m ≠ "" ∧ m.utf8ByteSize ≤ 256 := by
  unfold readMethod
  cases members.lookup "method" with
  | none => simp
  | some v =>
    cases v with
    | string name =>
      simp only [String.utf8ByteSize_eq_zero_iff, Option.some.injEq, Json.Value.string.injEq]
      constructor
      · intro h
        split at h
        · cases h
        · rename_i hne
          split at h
          · cases h
          · rename_i hle
            cases h
            exact ⟨rfl, hne, Nat.not_lt.mp hle⟩
      · rintro ⟨rfl, hne, hle⟩
        have hshort : ¬ methodNameLimit < name.utf8ByteSize := Nat.not_lt.mpr hle
        rw [if_neg hne, if_neg hshort]
    | _ => simp

/-- The parameters that are read are the ones that the members hold. -/
lemma readParams_eq_ok_iff {ps : List Json.Value} :
    readParams members = .ok ps ↔ members.lookup "params" = some (.array ps) ∨
      ps = [] ∧ (members.lookup "params" = none ∨ members.lookup "params" = some .null) := by
  unfold readParams
  cases members.lookup "params" with
  | none => simp [eq_comm]
  | some v => cases v <;> simp [eq_comm]

/-- A call is read exactly if version, method and parameters are. -/
lemma readCall_eq_ok_iff {m : String} {ps : List Json.Value} :
    readCall members = .ok (m, ps) ↔
      checkVersion members = .ok () ∧ readMethod members = .ok m ∧ readParams members = .ok ps := by
  unfold readCall
  cases checkVersion members with
  | error fault => simp
  | ok _ =>
    cases readMethod members with
    | error fault => simp
    | ok method => cases readParams members <;> simp

end Readers

/-- The request that is read from a value is the one that the members of the value hold. -/
lemma requestOfValue_eq_ok_iff {v : Json.Value} {request : Request} :
    requestOfValue v = .ok request ↔
      ∃ members, v = .object members ∧ request.HeldBy members := by
  constructor
  · intro h
    cases v with
    | object members =>
      unfold requestOfValue at h
      cases hid : readId members with
      | error fault => simp [hid] at h
      | ok id =>
        cases hcall : readCall members with
        | error fault => simp [hid, hcall] at h
        | ok call =>
          obtain ⟨method, params⟩ := call
          obtain rfl : (⟨method, params, id⟩ : Request) = request := by simpa [hid, hcall] using h
          obtain ⟨hversion, hmethod, hparams⟩ := readCall_eq_ok_iff.mp hcall
          obtain ⟨hmem, hexact⟩ := readId_eq_ok_iff.mp hid
          obtain ⟨hname, hne, hle⟩ := readMethod_eq_ok_iff.mp hmethod
          exact ⟨members, rfl, hmem, hexact, checkVersion_eq_ok_iff.mp hversion, hname, hne, hle,
            readParams_eq_ok_iff.mp hparams⟩
    | _ => simp [requestOfValue] at h
  · rintro ⟨members, rfl, hr⟩
    have hid := readId_eq_ok_iff.mpr ⟨hr.id, hr.id_exact⟩
    have hcall := readCall_eq_ok_iff.mpr ⟨checkVersion_eq_ok_iff.mpr hr.version,
      readMethod_eq_ok_iff.mpr ⟨hr.method, hr.method_ne, hr.method_le⟩,
      readParams_eq_ok_iff.mpr hr.params⟩
    simp [requestOfValue, hid, hcall]

/-- The request that is read from a body is the one that the body writes. -/
lemma readRequest_eq_ok_iff {body : Bytes} {request : Request} :
    readRequest body = .ok request ↔ request.WrittenBy body := by
  unfold readRequest Request.WrittenBy
  cases Json.parse body with
  | error fault => simp
  | ok v => simp [requestOfValue_eq_ok_iff]

/-- A value that is refused is refused for its envelope. -/
lemma exists_fault_of_requestOfValue_eq_error {v : Json.Value} {rejection : Rejection}
    (h : requestOfValue v = .error rejection) :
    ∃ fault id, rejection = .envelope fault id := by
  unfold requestOfValue at h
  split at h
  · split at h
    · cases h
      exact ⟨_, _, rfl⟩
    · split at h
      · cases h
        exact ⟨_, _, rfl⟩
      · cases h
  · cases h
    exact ⟨_, _, rfl⟩
  · cases h
    exact ⟨_, _, rfl⟩

end ChainView.Rpc
