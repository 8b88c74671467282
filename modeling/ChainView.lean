import ChainView.Settings.Logging
import ChainView.Main
import ChainView.Proofs.Chain.Publication
import ChainView.Proofs.Chain.L1Reference
import ChainView.Proofs.Follower.Run
import ChainView.Proofs.Rpc.Classification
import ChainView.Proofs.Rpc.Wire
import ChainView.Proofs.Chain.Comparison
import ChainView.Proofs.Node.Transcript
import ChainView.Proofs.Node.Acceptance
import ChainView.Proofs.Node.Latch
import ChainView.Proofs.Node.Streams
import ChainView.Proofs.Follower.FailStop
import ChainView.Proofs.Follower.L1Views
import ChainView.Proofs.Digest
import ChainView.Proofs.Chain.Wire
import ChainView.Proofs.Rpc.Headers
import ChainView.Proofs.Json.Spelling
import ChainView.Proofs.Json.Grammar
import ChainView.Proofs.Rpc.Requests
import ChainView.Proofs.Rpc.Accounting
import ChainView.Proofs.Chain.Ids
import ChainView.Proofs.Follower.Restart
import ChainView.Proofs.Rpc.Statuses
import ChainView.Proofs.Rpc.Disclosure
import ChainView.Proofs.Settings.Layers
import ChainView.Proofs.Http.Surface
import ChainView.Proofs.Rpc.Accessors
import ChainView.Proofs.Digest.Reading
import ChainView.Proofs.Follower.Counters
import ChainView.Proofs.Json.Literals
import ChainView.Proofs.Json.OpenObjects
import ChainView.Proofs.Rpc.Integers
import ChainView.Proofs.Http.Origins
import ChainView.Proofs.Rpc.Registry
import ChainView.Proofs.Follower.Determinism
import ChainView.Proofs.Settings.Files
