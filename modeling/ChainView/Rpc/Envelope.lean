import ChainView.Rpc.Failure
import ChainView.Json.Reader

/-!
# Requests and responses

A request is an object with a version, an id, the name of a method and a list of parameters.  Its
parts are checked in the order id, version, method, parameters, so that every error after the first
check can carry the id of the request.  A response carries either a result or an error, and the id
of the request it answers, or null if that could not be read.
-/

namespace ChainView.Rpc

/-- The version of the protocol. -/
def protocolVersion : String := "2.0"

/-- The id of a request. -/
inductive RequestId where
  /-- An integer. -/
  | integer (n : Json.Integer)
  /-- Another number, which a response may carry but no request. -/
  | float (x : Float)
  /-- A text. -/
  | text (s : String)

namespace RequestId

/-- The id that a value is, if it is an integer or a text. -/
def ofValue? : Json.Value → Option RequestId
  | .integer n => some (.integer n)
  | .string s => some (.text s)
  | _ => none

/-- An id as a value. -/
def toJson : RequestId → Json.Value
  | .integer n => .integer n
  | .float x => .float x
  | .text s => .string s

/-- An id in messages: a text stands between quotes as it is. -/
def describe : RequestId → String
  | .integer n => toString n.toInt
  | .float x => Text.ofBytes (Json.writeFloat x)
  | .text s => "\x22" ++ s ++ "\x22"

/-- Reads an id, any number or a text. -/
def decoder : Json.Decoder RequestId :=
  Json.Decoder.any.check fun v =>
    match v with
    | .integer n => .ok (.integer n)
    | .float x => .ok (.float x)
    | .string s => .ok (.text s)
    | _ => .error "data did not match any variant of untagged enum JsonRpcId"

/-- An id read from a value is written as that value. -/
theorem toJson_of_ofValue? {v : Json.Value} {id : RequestId} (h : ofValue? v = some id) :
    id.toJson = v := by
  cases v <;> simp [ofValue?] at h <;> subst h <;> rfl

end RequestId

/-- A request whose envelope is in order. -/
structure Request where
  /-- The name of the method. -/
  method : String
  /-- The parameters by position. -/
  params : List Json.Value
  /-- The id. -/
  id : RequestId

/-- A response. -/
structure Response where
  /-- The version of the protocol. -/
  version : String
  /-- The result, if the request succeeded. -/
  result : Option Json.Value
  /-- The error, if it failed. -/
  error : Option ErrorObject
  /-- The id of the request, if it could be read. -/
  id : Option RequestId

namespace Response

/-- The response with a result. -/
def ofResult (id : RequestId) (result : Json.Value) : Response :=
  ⟨protocolVersion, some result, none, some id⟩

/-- The response with an error. -/
def ofError (id : Option RequestId) (error : ErrorObject) : Response :=
  ⟨protocolVersion, none, some error, id⟩

/-- A response as an object: of result and error only what is there, and always the id. -/
def toJson (r : Response) : Json.Value :=
  .object (
    [("jsonrpc", .string r.version)] ++
    (match r.result with
      | some v => [("result", v)]
      | none => []) ++
    (match r.error with
      | some e => [("error", e.toJson)]
      | none => []) ++
    [("id", .ofOption (r.id.map RequestId.toJson))])

open Json in
/-- The members of a response in their order. -/
def shape : Shape Response where
  name := "RpcResponse"
  blank := ⟨"", none, none, none⟩
  members := [
    mustHave "jsonrpc" Decoder.text fun r v => { r with version := v },
    mayHave "result" (Decoder.optional Decoder.any) fun r v => { r with result := v },
    mayHave "error" (Decoder.optional ErrorObject.shape.decoder) fun r v => { r with error := v },
    mayHave "id" (Decoder.optional RequestId.decoder) fun r v => { r with id := v }]
  lenient := false

end Response

/-- What is wrong with the envelope of a request. -/
inductive EnvelopeFault where
  /-- It is a list. -/
  | batch
  /-- It is no object. -/
  | notObject
  /-- It has no id. -/
  | noId
  /-- Its id is neither an integer nor a text. -/
  | badId
  /-- It has no version. -/
  | noVersion
  /-- Its version is another one. -/
  | badVersion
  /-- It names no method. -/
  | noMethod
  /-- The name of its method is no text. -/
  | methodNotText
  /-- The name of its method is empty. -/
  | methodEmpty
  /-- The name of its method is too long. -/
  | methodTooLong
  /-- Its parameters are no list. -/
  | paramsNotList
  deriving DecidableEq

/-- The wording of an envelope fault. -/
def EnvelopeFault.message : EnvelopeFault → String
  | .batch => "batch requests are not supported"
  | .notObject => "request must be a JSON object"
  | .noId => "missing id (notifications are not supported)"
  | .badId => "id must be an integer or a string"
  | .noVersion => "missing jsonrpc field"
  | .badVersion => "jsonrpc must be \x222.0\x22"
  | .noMethod => "missing method field"
  | .methodNotText => "method must be a string"
  | .methodEmpty => "method cannot be empty"
  | .methodTooLong => "method name too long"
  | .paramsNotList => "params must be an array"

/-- Why a body is no request. -/
inductive Rejection where
  /-- It is not JSON. -/
  | notJson (details : String)
  /-- Its envelope is not in order; the id is given if it could be read. -/
  | envelope (fault : EnvelopeFault) (id : Option RequestId)

namespace Rejection

/-- The error that a client receives. -/
def toErrorObject : Rejection → ErrorObject
  | .notJson details => .notJson details
  | .envelope fault _ => .notRequest fault.message

/-- The id that the error response carries. -/
def id? : Rejection → Option RequestId
  | .notJson _ => none
  | .envelope _ id => id

end Rejection

/-- The greatest length of the name of a method in bytes. -/
def methodNameLimit : Nat := 256

/-- The id among the members of a request. -/
def readId (members : List (String × Json.Value)) : Except EnvelopeFault RequestId :=
  match members.lookup "id" with
  | none => .error .noId
  | some .null => .error .noId
  | some raw =>
    match RequestId.ofValue? raw with
    | some id => .ok id
    | none => .error .badId

/-- Checks the version among the members of a request. -/
def checkVersion (members : List (String × Json.Value)) : Except EnvelopeFault Unit :=
  match members.lookup "jsonrpc" with
  | none => .error .noVersion
  | some (.string v) => if v = protocolVersion then .ok () else .error .badVersion
  | some _ => .error .badVersion

/-- The name of the method among the members of a request. -/
def readMethod (members : List (String × Json.Value)) : Except EnvelopeFault String :=
  match members.lookup "method" with
  | none => .error .noMethod
  | some (.string m) =>
    if m.utf8ByteSize = 0 then .error .methodEmpty
    else if methodNameLimit < m.utf8ByteSize then .error .methodTooLong
    else .ok m
  | some _ => .error .methodNotText

/-- The parameters among the members of a request; missing or null ones are none. -/
def readParams (members : List (String × Json.Value)) : Except EnvelopeFault (List Json.Value) :=
  match members.lookup "params" with
  | none => .ok []
  | some .null => .ok []
  | some (.array params) => .ok params
  | some _ => .error .paramsNotList

/-- The version, the method and the parameters among the members of a request. -/
def readCall (members : List (String × Json.Value)) :
    Except EnvelopeFault (String × List Json.Value) :=
  match checkVersion members with
  | .error fault => .error fault
  | .ok () =>
    match readMethod members with
    | .error fault => .error fault
    | .ok method =>
      match readParams members with
      | .error fault => .error fault
      | .ok params => .ok (method, params)

/-- The request that a value is. -/
def requestOfValue : Json.Value → Except Rejection Request
  | .object members =>
    match readId members with
    | .error fault => .error (.envelope fault none)
    | .ok id =>
      match readCall members with
      | .error fault => .error (.envelope fault (some id))
      | .ok (method, params) => .ok ⟨method, params, id⟩
  | .array _ => .error (.envelope .batch none)
  | _ => .error (.envelope .notObject none)

/-- The request that a body writes. -/
def readRequest (body : Bytes) : Except Rejection Request :=
  match Json.parse body with
  | .error fault => .error (.notJson (fault.describe body))
  | .ok v => requestOfValue v

end ChainView.Rpc
