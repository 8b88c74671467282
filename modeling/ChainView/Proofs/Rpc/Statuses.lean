import ChainView.Proofs.Rpc.Headers

/-!
# The statuses that clients see

Three methods without parameters give out statuses: the one of the chain, the part of it for syncing
peers, and the one of the reader of the L1 chain.  Each is the published one at the time of the
request, and a client reads it back whole.  With the headers, these are all the entities that go
over the wire, and none of them loses anything on the way.
-/

namespace ChainView.Rpc

open Json

/-- A body asks a method without parameters, under any id. -/
def AsksFor (method : String) (body : Bytes) : Prop :=
  ∃ id, (⟨method, [], id⟩ : Request).WrittenBy body

section Methods

variable {view : NodeView} {body : Bytes}

/-- A client that asks for the L1 status reads the published one. -/
lemma resultAs?_l1Status (hs : view.node.Sound) (hasks : AsksFor "strata_l1status" body) :
    resultAs? L1Status.shape.decoder (nodeRegistry.response view body).write =
      some view.node.snapshot.l1 := by
  obtain ⟨id, hr⟩ := hasks
  exact resultAs?_of_yields hs hr .l1Status (L1Status.reads_sortKeys _)

/-- A client that asks for the client status reads the published one. -/
lemma resultAs?_clientStatus (hs : view.node.Sound) (hasks : AsksFor "strata_clientStatus" body) :
    resultAs? ClientStatus.shape.decoder (nodeRegistry.response view body).write =
      some view.node.snapshot.client := by
  obtain ⟨id, hr⟩ := hasks
  exact resultAs?_of_yields hs hr .clientStatus (ClientStatus.reads_sortKeys _)

/-- A client that asks for the sync status reads that of the published client status. -/
lemma resultAs?_syncStatus (hs : view.node.Sound) (hasks : AsksFor "strata_syncStatus" body) :
    resultAs? SyncStatus.shape.decoder (nodeRegistry.response view body).write =
      some view.node.snapshot.client.sync := by
  obtain ⟨id, hr⟩ := hasks
  exact resultAs?_of_yields hs hr .syncStatus (SyncStatus.reads_sortKeys _)

end Methods

end ChainView.Rpc
