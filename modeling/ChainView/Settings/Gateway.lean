import ChainView.Net.IpAddress
import ChainView.Node.Basic
import ChainView.Text.Blank
import ChainView.Json.Writer

/-!
# Settings of the gateway

Where the gateway listens, how large a request may be, what it reports of the chain, how much
history the node keeps and which origins browsers may call it from.  Every setting has a default,
and a settings object may leave out any of them.  A gateway refuses settings that would leave it
without requests, without blocks, without a network or without history.
-/

namespace ChainView

namespace Retention

open Json in
/-- The members of the retention settings in their order. -/
def shape : Shape Retention where
  name := "StoreConfig"
  blank := .standard
  members := [
    mayHave "max_headers" Decoder.size fun s v => { s with maxHeaders := v },
    mayHave "max_l1_blocks" Decoder.size fun s v => { s with maxL1Blocks := v }]
  lenient := true

/-- The retention settings as an object. -/
def toJson (s : Retention) : Json.Value :=
  .object [("max_headers", .word s.maxHeaders), ("max_l1_blocks", .word s.maxL1Blocks)]

end Retention

/-- Where the gateway listens. -/
structure Endpoint where
  /-- The address. -/
  host : IpAddress
  /-- The port; zero stands for any that is free. -/
  port : UInt16
  deriving DecidableEq

namespace Endpoint

/-- Every version 4 address of the machine. -/
def standard : Endpoint := ⟨.v4 0 0 0 0, 8432⟩

open Json in
/-- The members of an endpoint in their order. -/
def shape : Shape Endpoint where
  name := "HttpConfig"
  blank := .standard
  members := [
    mayHave "host" IpAddress.decoder fun s v => { s with host := v },
    mayHave "port" Decoder.word16 fun s v => { s with port := v }]
  lenient := true

/-- An endpoint as an object. -/
def toJson (s : Endpoint) : Json.Value :=
  .object [("host", s.host.toJson), ("port", .word (UInt64.ofNat s.port.toNat))]

/-- The text of an endpoint. -/
def text (s : Endpoint) : String := s.host.withPort s.port

end Endpoint

/-- The limits of a request. -/
structure Limits where
  /-- The greatest size of a body in bytes. -/
  maxRequestSize : UInt64
  deriving DecidableEq

namespace Limits

/-- One mebibyte. -/
def standard : Limits := ⟨1048576⟩

open Json in
/-- The member of the limits. -/
def shape : Shape Limits where
  name := "LimitsConfig"
  blank := .standard
  members := [mayHave "max_request_size" Decoder.size fun s v => { s with maxRequestSize := v }]
  lenient := true

/-- The limits as an object. -/
def toJson (s : Limits) : Json.Value :=
  .object [("max_request_size", .word s.maxRequestSize)]

end Limits

/-- What the gateway reports of the chain. -/
structure ChainSettings where
  /-- The version of the protocol. -/
  protocolVersion : UInt64
  /-- The target time between blocks, in milliseconds. -/
  blockTime : UInt64
  /-- The name of the L1 network. -/
  network : String
  deriving DecidableEq

namespace ChainSettings

/-- A block every five seconds. -/
def standard : ChainSettings := ⟨1, 5000, L1Status.defaultNetwork⟩

open Json in
/-- The members of the chain settings in their order. -/
def shape : Shape ChainSettings where
  name := "ChainConfig"
  blank := .standard
  members := [
    mayHave "protocol_version" Decoder.word64 fun s v => { s with protocolVersion := v },
    mayHave "block_time_ms" Decoder.word64 fun s v => { s with blockTime := v },
    mayHave "network" Decoder.text fun s v => { s with network := v }]
  lenient := true

/-- The chain settings as an object. -/
def toJson (s : ChainSettings) : Json.Value :=
  .object [
    ("protocol_version", .word s.protocolVersion),
    ("block_time_ms", .word s.blockTime),
    ("network", .string s.network)]

end ChainSettings

/-- What browsers may do from other origins. -/
structure OriginPolicy where
  /-- Whether they may do anything. -/
  enabled : Bool
  /-- The origins they may call from; a star stands for all. -/
  origins : List String
  /-- The methods they may use. -/
  methods : List String
  /-- The headers they may send; a star stands for all. -/
  headers : List String
  /-- For how many seconds they may remember this. -/
  maxAge : UInt64
  deriving DecidableEq

namespace OriginPolicy

/-- The entry that stands for everything. -/
def any : String := "*"

/-- Calls from everywhere. -/
def standard : OriginPolicy := ⟨true, [any], ["GET", "POST", "OPTIONS"], ["Content-Type"], 86400⟩

open Json in
/-- The members of an origin policy in their order. -/
def shape : Shape OriginPolicy where
  name := "CorsConfig"
  blank := .standard
  members := [
    mayHave "enabled" Decoder.bool fun s v => { s with enabled := v },
    mayHave "allowed_origins" (Decoder.list Decoder.text) fun s v => { s with origins := v },
    mayHave "allowed_methods" (Decoder.list Decoder.text) fun s v => { s with methods := v },
    mayHave "allowed_headers" (Decoder.list Decoder.text) fun s v => { s with headers := v },
    mayHave "max_age" Decoder.word64 fun s v => { s with maxAge := v }]
  lenient := true

/-- Texts as a list. -/
def listJson (ss : List String) : Json.Value := .array (ss.map .string)

/-- An origin policy as an object. -/
def toJson (s : OriginPolicy) : Json.Value :=
  .object [
    ("enabled", .bool s.enabled),
    ("allowed_origins", listJson s.origins),
    ("allowed_methods", listJson s.methods),
    ("allowed_headers", listJson s.headers),
    ("max_age", .word s.maxAge)]

end OriginPolicy

/-- The settings of a gateway. -/
structure GatewaySettings where
  /-- Where it listens. -/
  http : Endpoint
  /-- How large a request may be. -/
  limits : Limits
  /-- What it reports of the chain. -/
  chain : ChainSettings
  /-- How much history the node keeps. -/
  retention : Retention
  /-- Which origins may call it. -/
  cors : OriginPolicy
  deriving DecidableEq

/-- Why a gateway refuses its settings. -/
inductive GatewayFault where
  /-- No request would be small enough. -/
  | noRequestSize
  /-- There would be no time between blocks. -/
  | noBlockTime
  /-- The network has no name. -/
  | noNetwork
  /-- No header would be kept. -/
  | noHeaders
  /-- No L1 block would be kept. -/
  | noL1Blocks
  deriving DecidableEq

/-- The wording of a refusal. -/
def GatewayFault.message : GatewayFault → String
  | .noRequestSize => "invalid limit: max_request_size cannot be 0"
  | .noBlockTime => "invalid chain parameters: block_time_ms cannot be 0"
  | .noNetwork => "invalid chain parameters: network cannot be empty"
  | .noHeaders => "invalid retention: max_headers cannot be 0"
  | .noL1Blocks => "invalid retention: max_l1_blocks cannot be 0"

namespace GatewaySettings

/-- Every setting at its default. -/
def standard : GatewaySettings := ⟨.standard, .standard, .standard, .standard, .standard⟩

open Json in
/-- The members of the gateway settings in their order. -/
def shape : Shape GatewaySettings where
  name := "GatewayConfig"
  blank := .standard
  members := [
    mayHave "http" Endpoint.shape.decoder fun s v => { s with http := v },
    mayHave "limits" Limits.shape.decoder fun s v => { s with limits := v },
    mayHave "chain" ChainSettings.shape.decoder fun s v => { s with chain := v },
    mayHave "retention" Retention.shape.decoder fun s v => { s with retention := v },
    mayHave "cors" OriginPolicy.shape.decoder fun s v => { s with cors := v }]
  lenient := true

/-- The gateway settings as an object. -/
def toJson (s : GatewaySettings) : Json.Value :=
  .object [
    ("http", s.http.toJson),
    ("limits", s.limits.toJson),
    ("chain", s.chain.toJson),
    ("retention", s.retention.toJson),
    ("cors", s.cors.toJson)]

/-- The first reason to refuse the settings. -/
def fault? (s : GatewaySettings) : Option GatewayFault :=
  if s.limits.maxRequestSize = 0 then some .noRequestSize
  else if s.chain.blockTime = 0 then some .noBlockTime
  else if (Text.trimChars s.chain.network.toList).isEmpty then some .noNetwork
  else if s.retention.maxHeaders = 0 then some .noHeaders
  else if s.retention.maxL1Blocks = 0 then some .noL1Blocks
  else none

/-- The default settings are in order. -/
theorem fault?_standard : standard.fault? = none := by
  decide +kernel

end GatewaySettings

end ChainView
