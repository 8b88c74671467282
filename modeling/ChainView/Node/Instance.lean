import ChainView.Node.Clock

/-!
# The life of a node

A gateway is started and stopped any number of times; it can be started only while it is stopped,
and it remembers that it has had an address.  A node instance is a gateway with a node behind it
and, if its settings say so, a follower.  Stopping ends the follower but keeps the node, and the
next start brings a new follower, which begins a chain of its own.
-/

namespace ChainView

/-- Whether a gateway is up, and whether it ever was. -/
structure Gateway where
  /-- Its settings. -/
  settings : GatewaySettings
  /-- Whether it is serving. -/
  serving : Bool
  /-- Whether it has had an address. -/
  bound : Bool

namespace Gateway

/-- The gateway of some settings, if they are in order. -/
def create (settings : GatewaySettings) : Except GatewayFault Gateway :=
  match settings.fault? with
  | some fault => .error fault
  | none => .ok ⟨settings, false, false⟩

/-- The wording of the refusal to make a gateway. -/
def refusal (fault : GatewayFault) : String :=
  "configuration error: " ++ fault.message

/-- The wording of the refusal to start a gateway that is serving. -/
def alreadyStarted : String := "service already started"

/-- Starts the gateway, unless it is serving. -/
def start (g : Gateway) : Option Gateway :=
  if g.serving then none else some { g with serving := true, bound := true }

/-- Stops the gateway. -/
def stop (g : Gateway) : Gateway :=
  { g with serving := false }

end Gateway

/-- A node with its gateway and its follower. -/
structure NodeInstance where
  /-- Its settings. -/
  settings : NodeSettings
  /-- The node. -/
  node : Node
  /-- The gateway. -/
  gateway : Gateway
  /-- The follower, while it has not been stopped. -/
  follower : Option Ticking

namespace NodeInstance

/-- The instance of some settings, if they are in order. -/
def create (settings : NodeSettings) : Except SettingsFault NodeInstance :=
  match settings.fault? with
  | some fault => .error fault
  | none => .ok {
      settings
      node := .create settings.gateway.retention settings.gateway.chain.network
      gateway := ⟨settings.gateway, false, false⟩
      follower := none }

/-- The wording of the refusal to make an instance. -/
def refusal (fault : SettingsFault) : String :=
  "invalid node configuration: " ++ fault.message

/-- The wording of the refusal to start an instance that is serving. -/
def alreadyStarted : String :=
  "failed to start RPC service: " ++ Gateway.alreadyStarted

/-- The follower that a start brings. -/
def newFollower (i : NodeInstance) : Ticking :=
  .start (.create i.settings.follower i.settings.gateway.chain.network)
    i.settings.gateway.chain.blockTime

/-- Starts the gateway and the follower, unless the gateway is serving. -/
def start (i : NodeInstance) : Option NodeInstance :=
  match i.gateway.start with
  | none => none
  | some gateway =>
    if i.settings.follower.enabled ∧ i.follower.isNone then
      some { i with gateway, follower := some i.newFollower }
    else some { i with gateway }

/-- Stops the follower and the gateway. -/
def stop (i : NodeInstance) : NodeInstance :=
  { i with gateway := i.gateway.stop, follower := none }

/-- Lets time pass, on a clock that shows `epoch` when the follower starts. -/
def sleep (i : NodeInstance) (epoch : UInt64) (ms : Nat) : NodeInstance :=
  match i.follower with
  | none => i
  | some t =>
    let (t, node) := t.advance i.node epoch ms
    { i with node, follower := some t }

/-- Takes in a report from elsewhere. -/
def ingest (i : NodeInstance) (r : Report) : Except ReportFault Receipt × NodeInstance :=
  let (answer, node) := i.node.ingest r
  (answer, { i with node })

end NodeInstance

end ChainView
