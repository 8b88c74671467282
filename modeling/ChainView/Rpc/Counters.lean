import ChainView.Rpc.Failure

/-!
# Counting requests

Every request is counted once, as a success or under the class of its error; a handler that breaks
off is counted apart as well.  The counters are 64-bit words and wrap around, and so does the sum of
the times that the requests took.
-/

namespace ChainView.Rpc

/-- The counters of a responder. -/
structure Counters where
  /-- All requests. -/
  total : UInt64
  /-- Requests answered by a result. -/
  success : UInt64
  /-- Requests answered by an error. -/
  error : UInt64
  /-- Errors by their class. -/
  notJson : UInt64
  /-- Bodies that are no request. -/
  notRequest : UInt64
  /-- Requests of an unknown method. -/
  unknownMethod : UInt64
  /-- Requests with unfit parameters. -/
  unfitParameters : UInt64
  /-- Requests of what is not there. -/
  unknownResource : UInt64
  /-- Requests that failed inside the node. -/
  internal : UInt64
  /-- Handlers that broke off. -/
  crashes : UInt64
  /-- The time that all requests took, in microseconds. -/
  elapsed : UInt64
  /-- The number of times in that sum. -/
  samples : UInt64
  deriving DecidableEq

namespace Counters

/-- All counters at zero. -/
def zero : Counters := ⟨0, 0, 0, 0, 0, 0, 0, 0, 0, 0, 0, 0⟩

instance : Inhabited Counters := ⟨zero⟩

/-- The number of errors of a class. -/
def errorsOf (c : Counters) : ErrorClass → UInt64
  | .notJson => c.notJson
  | .notRequest => c.notRequest
  | .unknownMethod => c.unknownMethod
  | .unfitParameters => c.unfitParameters
  | .unknownResource => c.unknownResource
  | .internal => c.internal

/-- Counts an error of a code.  Five codes have a counter of their own; an error of any other code
is counted as internal. -/
def countError (c : Counters) (code : Int32) : Counters :=
  if code = ErrorClass.notJson.code then { c with notJson := c.notJson + 1 }
  else if code = ErrorClass.notRequest.code then { c with notRequest := c.notRequest + 1 }
  else if code = ErrorClass.unknownMethod.code then { c with unknownMethod := c.unknownMethod + 1 }
  else if code = ErrorClass.unfitParameters.code then
    { c with unfitParameters := c.unfitParameters + 1 }
  else if code = ErrorClass.unknownResource.code then
    { c with unknownResource := c.unknownResource + 1 }
  else { c with internal := c.internal + 1 }

/-- Counts a request that ended in an error of the given code, or in a result. -/
def countOutcome (c : Counters) (code : Option Int32) : Counters :=
  let c := { c with total := c.total + 1 }
  match code with
  | none => { c with success := c.success + 1 }
  | some code => { c with error := c.error + 1 }.countError code

/-- Counts a request and the time it took. -/
def record (c : Counters) (code : Option Int32) (elapsed : UInt64) : Counters :=
  let c := c.countOutcome code
  { c with elapsed := c.elapsed + elapsed, samples := c.samples + 1 }

/-- Counts a handler that broke off. -/
def recordCrash (c : Counters) : Counters :=
  { c with crashes := c.crashes + 1 }

/-- The mean time of a request in microseconds, zero before the first. -/
def averageElapsed (c : Counters) : Float :=
  if c.samples = 0 then 0 else c.elapsed.toFloat / c.samples.toFloat

/-- The counters as an object, without the time that requests took. -/
def members (c : Counters) : List (String × Json.Value) :=
  [("errors", .object [
      ("handler_panics", .word c.crashes),
      ("internal_error", .word c.internal),
      ("invalid_params", .word c.unfitParameters),
      ("invalid_request", .word c.notRequest),
      ("method_not_found", .word c.unknownMethod),
      ("parse_error", .word c.notJson),
      ("resource_not_found", .word c.unknownResource)]),
    ("requests", .object [
      ("error", .word c.error),
      ("success", .word c.success),
      ("total", .word c.total)])]

/-- The counters as an object, with the mean time of a request. -/
def toJson (c : Counters) : Json.Value :=
  .object (Json.insertMember "latency" (.object [("average_us", .float c.averageElapsed)])
    c.members)

end Counters

end ChainView.Rpc
