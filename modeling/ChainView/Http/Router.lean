import ChainView.Http.Origin
import ChainView.Rpc.NodeMethods

/-!
# Routing

The gateway answers procedure calls posted to the root, and serves its health, its catalogue of
methods and its counters.  Only a post to the root whose body is small enough reaches the
responder; whatever comes of the call, the response says that it went well.
-/

namespace ChainView.Http

/-- The routes of the gateway. -/
inductive Route where
  /-- Procedure calls. -/
  | calls
  /-- Whether the gateway is up. -/
  | health
  /-- The catalogue of methods. -/
  | methods
  /-- The counters. -/
  | metrics
  deriving DecidableEq

namespace Route

/-- The route of a path. -/
def ofPath? (path : String) : Option Route :=
  if path = "/" then some .calls
  else if path = "/health" then some .health
  else if path = "/methods" then some .methods
  else if path = "/metrics" then some .metrics
  else none

/-- The methods of a route. -/
def allowed : Route → List String
  | .calls => ["POST"]
  | .health => ["GET", "HEAD"]
  | .methods => ["GET", "HEAD"]
  | .metrics => ["GET", "HEAD"]

/-- The header that names the methods of a route. -/
def allowField (route : Route) : Field :=
  ("allow", ",".intercalate route.allowed)

end Route

/-- A gateway that answers requests. -/
structure Server where
  /-- Its settings. -/
  settings : GatewaySettings
  /-- The methods and the counters. -/
  responder : Rpc.Responder Rpc.NodeView

namespace Server

/-- The server of some settings that has not been asked anything. -/
def create (settings : GatewaySettings) : Server :=
  ⟨settings, .create Rpc.nodeRegistry⟩

/-- What the methods read of a node. -/
def view (s : Server) (n : Node) : Rpc.NodeView :=
  ⟨n, s.settings.chain.protocolVersion, s.settings.chain.blockTime⟩

/-- The header of a JSON body. -/
def jsonField : Field := ("content-type", "application/json")

/-- A response with a JSON body. -/
def jsonResponse (body : Bytes) : Response := ⟨200, [jsonField], body⟩

/-- The response to a body that is too large. -/
def tooLarge : Response :=
  ⟨413, [("content-type", "text/plain; charset=utf-8")],
    Text.bytesOf "Failed to buffer the request body: length limit exceeded"⟩

/-- The response that only says how things stand. -/
def health : Json.Value := .object [("status", .string "ok")]

/-- Answers a body that was posted to the root; answering a call takes the time `elapsed`. -/
def call (s : Server) (n : Node) (body : Bytes) (elapsed : UInt64) : Response × Server :=
  if s.settings.limits.maxRequestSize.toNat < body.length then (tooLarge, s)
  else
    let (out, responder) := s.responder.answer (s.view n) body elapsed
    (jsonResponse out, { s with responder })

/-- A response without its body, if the method asks for none. -/
def forMethod (method : String) (r : Response) : Response :=
  if method = "HEAD" then { r with body := [] } else r

/-- Answers a request on a route that has its method. -/
def serve (s : Server) (n : Node) (route : Route) (r : Request) (elapsed : UInt64) :
    Response × Server :=
  match route with
  | .calls => s.call n r.body elapsed
  | .health => (jsonResponse health.write, s)
  | .methods => (jsonResponse s.responder.registry.catalogue.write, s)
  | .metrics => (jsonResponse s.responder.counters.toJson.write, s)

/-- Answers a request, apart from the headers about origins. -/
def route (s : Server) (n : Node) (r : Request) (elapsed : UInt64) : Response × Server :=
  match Route.ofPath? r.path with
  | none => (⟨404, [], []⟩, s)
  | some route =>
    if route.allowed.contains r.method then
      let (response, s) := s.serve n route r elapsed
      (forMethod r.method response, s)
    else (⟨405, [route.allowField], []⟩, s)

/-- Answers a browser that asks what a page of another origin may do. -/
def preflight (s : Server) (r : Request) : Response :=
  ⟨200, s.settings.cors.preflightFields ++
    match Route.ofPath? r.path with
    | some route => [route.allowField]
    | none => [], []⟩

/-- Adds the headers about origins to a response. -/
def withOrigin (s : Server) (r : Request) (response : Response) : Response :=
  { response with
    headers := s.settings.cors.commonFields (r.header? "origin") ++ response.headers }

/-- Answers a request; answering a call takes the time `elapsed`. -/
def answer (s : Server) (n : Node) (r : Request) (elapsed : UInt64) : Response × Server :=
  if r.method = "OPTIONS" then (s.withOrigin r (s.preflight r), s)
  else
    let (response, next) := s.route n r elapsed
    (s.withOrigin r response, next)

end Server

end ChainView.Http
