import ChainView.Json.Record
import ChainView.Json.Writer

/-!
# Errors of the procedure calls

The error object that a client receives, and the ways in which the handler of a method can fail.
A client learns what it can mend: an unknown resource or a bad parameter.  Of a failure inside the
node it learns only that there was one.
-/

namespace ChainView.Rpc

/-- The classes of error codes, by which requests are counted. -/
inductive ErrorClass where
  /-- The body is not JSON. -/
  | notJson
  /-- The body is not a request. -/
  | notRequest
  /-- There is no such method. -/
  | unknownMethod
  /-- The parameters do not fit the method. -/
  | unfitParameters
  /-- What was asked for is not there. -/
  | unknownResource
  /-- Anything else. -/
  | internal
  deriving DecidableEq

namespace ErrorClass

/-- The code that errors of the class are given. -/
def code : ErrorClass → Int32
  | .notJson => -32700
  | .notRequest => -32600
  | .unknownMethod => -32601
  | .unfitParameters => -32602
  | .unknownResource => -32001
  | .internal => -32603

/-- The class of a code.  A code that none of the others has is an internal error. -/
def ofCode (code : Int32) : ErrorClass :=
  if code = ErrorClass.notJson.code then .notJson
  else if code = ErrorClass.notRequest.code then .notRequest
  else if code = ErrorClass.unknownMethod.code then .unknownMethod
  else if code = ErrorClass.unfitParameters.code then .unfitParameters
  else if code = ErrorClass.unknownResource.code then .unknownResource
  else .internal

/-- The label of the class. -/
def label : ErrorClass → String
  | .notJson => "parse_error"
  | .notRequest => "invalid_request"
  | .unknownMethod => "method_not_found"
  | .unfitParameters => "invalid_params"
  | .unknownResource => "resource_not_found"
  | .internal => "internal_error"

/-- The code of a class is of that class. -/
@[simp] theorem ofCode_code (c : ErrorClass) : ofCode c.code = c := by
  cases c <;> decide

end ErrorClass

/-- The error object of a response. -/
structure ErrorObject where
  /-- The code. -/
  code : Int32
  /-- The message. -/
  message : String
  /-- Further data, if there are any. -/
  data : Option Json.Value
  deriving Inhabited

namespace ErrorObject

/-- An error of a class, without further data. -/
def ofClass (c : ErrorClass) (message : String) : ErrorObject := ⟨c.code, message, none⟩

/-- The body is not JSON. -/
def notJson (details : String) : ErrorObject :=
  .ofClass .notJson ("Parse error: " ++ details)

/-- The body is not a request. -/
def notRequest (details : String) : ErrorObject :=
  .ofClass .notRequest ("Invalid request: " ++ details)

/-- There is no such method. -/
def unknownMethod (method : String) : ErrorObject :=
  .ofClass .unknownMethod ("Method not found: " ++ method)

/-- The parameters do not fit the method. -/
def unfitParameters (details : String) : ErrorObject :=
  .ofClass .unfitParameters ("Invalid params: " ++ details)

/-- Something failed inside the node. -/
def internal : ErrorObject :=
  .ofClass .internal "Internal error"

/-- What was asked for is not there. -/
def unknownResource (resource : String) : ErrorObject :=
  .ofClass .unknownResource ("Resource not found: " ++ resource)

/-- The class of an error. -/
def errorClass (e : ErrorObject) : ErrorClass := .ofCode e.code

/-- An error in one line. -/
def describe (e : ErrorObject) : String :=
  "[" ++ toString e.code.toInt ++ "] " ++ e.message

/-- The error object, without the member for further data if there are none. -/
def toJson (e : ErrorObject) : Json.Value :=
  .object ([("code", .integer (.ofInt32 e.code)), ("message", .string e.message)] ++
    match e.data with
    | some data => [("data", data)]
    | none => [])

open Json in
/-- The members of an error object in their order. -/
def shape : Shape ErrorObject where
  name := "ErrorHelper"
  blank := ⟨0, "", none⟩
  members := [
    mustHave "code" Decoder.int32 fun e v => { e with code := v },
    mustHave "message" Decoder.text fun e v => { e with message := v },
    mayHave "data" (Decoder.optional Decoder.any) fun e v => { e with data := v }]
  lenient := false

end ErrorObject

/-- How the handler of a method fails. -/
inductive Failure where
  /-- What was asked for is not there. -/
  | missing (what : String)
  /-- A parameter cannot be used. -/
  | unfit (why : String)
  /-- The state of the node cannot be read. -/
  | unreadable (why : String)
  /-- The result cannot be written. -/
  | unwritable (why : String)
  deriving DecidableEq

namespace Failure

/-- The wording of a failure, for the log. -/
def message : Failure → String
  | .missing what => what
  | .unfit why => why
  | .unreadable why => "status query failed: store unavailable: " ++ why
  | .unwritable why => "result serialization failed: " ++ why

/-- What a client learns of a failure. -/
def toErrorObject : Failure → ErrorObject
  | .missing what => .unknownResource what
  | .unfit why => .unfitParameters why
  | .unreadable _ => .internal
  | .unwritable _ => .internal

end Failure

end ChainView.Rpc
