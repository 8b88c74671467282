import ChainView.Rpc.Responder
import ChainView.Node.Basic
import ChainView.Chain.Wire

/-!
# The methods of the node

The methods by which clients read the state of the node.  Each is a plain read; a height, an index
or an id that is not kept is reported as not found.
-/

namespace ChainView.Rpc

/-- What the methods read. -/
structure NodeView where
  /-- The node. -/
  node : Node
  /-- The version of its protocol. -/
  protocolVersion : UInt64
  /-- The target time between blocks, in milliseconds. -/
  blockTime : UInt64

namespace NodeView

/-- A value that is there, or the error that it is not. -/
def found {α : Type} (what : String) : Option α → Except Failure α
  | some a => .ok a
  | none => .error (.missing what)

/-- The hash of the L1 block at a height. -/
def l1HashAt (view : NodeView) (height : UInt64) : Except Failure Digest :=
  found ("L1 block at height " ++ toString height) (view.node.l1Table.get? height)

/-- The header at an index. -/
def headerAtHeight (view : NodeView) (index : UInt64) : Except Failure Header :=
  found ("block header at index " ++ toString index) (view.node.window.atHeight? index)

/-- The header with an id. -/
def headerWithId (view : NodeView) (id : Digest) : Except Failure Header :=
  found ("block " ++ id.toHex) (view.node.window.withId? id)

end NodeView

/-- A method without parameters that reads the view. -/
def reading (name description : String) (read : NodeView → Json.Value) : Method NodeView where
  name := name
  params := []
  description := description
  handler view _ := .value (read view).sortKeys

/-- A method with one parameter, which `get` takes from the parameters. -/
def asking {α : Type} (name description : String) (kind : ParameterKind)
    (get : Parameters → Except Failure α)
    (answer : NodeView → α → Except Failure Json.Value) : Method NodeView where
  name := name
  params := [kind]
  description := description
  handler view params :=
    match get params with
    | .error e => .failed e
    | .ok a =>
      match answer view a with
      | .error e => .failed e
      | .ok v => .value v.sortKeys

/-- The methods of the node. -/
def nodeMethods : List (Method NodeView) := [
  reading "strata_protocolVersion" "Protocol version of this node"
    fun view => .word view.protocolVersion,
  reading "strata_blockTime" "Target milliseconds between L2 blocks"
    fun view => .word view.blockTime,
  reading "strata_l1connected" "Whether the L1 reader reaches its bitcoin node"
    fun view => .bool view.node.snapshot.l1.connected,
  reading "strata_l1status" "Current L1 reader status"
    fun view => view.node.snapshot.l1.toJson,
  asking "strata_getL1blockHash" "Hash of the L1 block at a height" .word (Parameters.word · 0)
    fun view height => (view.l1HashAt height).map Digest.toJson,
  reading "strata_clientStatus" "Client view of chain tip, finality and L1 anchor"
    fun view => view.node.snapshot.client.toJson,
  reading "strata_syncStatus" "Tip height, tip id and finalized id"
    fun view => view.node.snapshot.client.sync.toJson,
  asking "strata_getRecentBlockHeaders" "Up to N most recent block headers, newest first" .word
    (Parameters.word · 0)
    fun view count => .ok (.array ((view.node.window.recent count.toNat).map Header.toJson)),
  asking "strata_getHeadersAtIdx" "Block headers at an L2 height" .word (Parameters.word · 0)
    fun view index => (view.headerAtHeight index).map fun h => .array [h.toJson],
  asking "strata_getHeaderById" "Block header with a given block id" .digest (Parameters.digest · 0)
    fun view id => (view.headerWithId id).map Header.toJson]

/-- The registry of the methods of the node. -/
def nodeRegistry : Registry NodeView :=
  Registry.empty.insertAll nodeMethods

/-- The methods of the node have different names, so all of them are registered. -/
theorem entries_nodeRegistry : nodeRegistry.entries = nodeMethods := rfl

end ChainView.Rpc
