import ChainView.Settings.Gateway
import ChainView.Text.Numeral
import ChainView.Text.Switch

/-!
# Settings of the node

The settings of the gateway and of the follower that makes up a chain for development.  They are
loaded in three layers: the defaults, a file that the environment may name, and single variables of
the environment.  What fails first decides the error: the file, then the variables in their order,
then the checks of the gateway and of the follower.
-/

namespace ChainView

/-- The settings of the follower. -/
structure FollowerSettings where
  /-- Whether it runs. -/
  enabled : Bool
  /-- The number of blocks between the finalized block and the tip. -/
  finalityDepth : UInt64
  /-- The number of blocks to one L1 block. -/
  l1Interval : UInt64
  /-- The number of L1 blocks above one that make it irreversible. -/
  l1BuryDepth : UInt64
  /-- The height of the first L1 block. -/
  l1StartHeight : UInt64
  deriving DecidableEq

/-- Why the settings of a follower are refused. -/
inductive FollowerFault where
  /-- There would be no L1 block. -/
  | noInterval
  /-- The finalized block would not be kept. -/
  | tooDeep (finalityDepth maxHeaders : UInt64)
  deriving DecidableEq

/-- The wording of a refusal. -/
def FollowerFault.message : FollowerFault → String
  | .noInterval => "invalid dev follower settings: l1_interval cannot be 0"
  | .tooDeep depth maxHeaders =>
    "invalid dev follower settings: finality_depth " ++ toString depth
      ++ " must be below max_headers " ++ toString maxHeaders

namespace FollowerSettings

/-- A follower that does not run. -/
def standard : FollowerSettings := ⟨false, 4, 6, 6, 100⟩

open Json in
/-- The members of the follower settings in their order. -/
def shape : Shape FollowerSettings where
  name := "DevFollowerConfig"
  blank := .standard
  members := [
    mayHave "enabled" Decoder.bool fun s v => { s with enabled := v },
    mayHave "finality_depth" Decoder.word64 fun s v => { s with finalityDepth := v },
    mayHave "l1_interval" Decoder.word64 fun s v => { s with l1Interval := v },
    mayHave "l1_bury_depth" Decoder.word64 fun s v => { s with l1BuryDepth := v },
    mayHave "l1_start_height" Decoder.word64 fun s v => { s with l1StartHeight := v }]
  lenient := true

/-- The follower settings as an object. -/
def toJson (s : FollowerSettings) : Json.Value :=
  .object [
    ("enabled", .bool s.enabled),
    ("finality_depth", .word s.finalityDepth),
    ("l1_interval", .word s.l1Interval),
    ("l1_bury_depth", .word s.l1BuryDepth),
    ("l1_start_height", .word s.l1StartHeight)]

/-- The first reason to refuse the settings on a node that keeps `maxHeaders` headers. -/
def fault? (s : FollowerSettings) (maxHeaders : UInt64) : Option FollowerFault :=
  if s.l1Interval = 0 then some .noInterval
  else if s.finalityDepth < maxHeaders then none
  else some (.tooDeep s.finalityDepth maxHeaders)

/-- Settings are in order exactly if there are L1 blocks and the finalized block is kept. -/
theorem fault?_eq_none_iff {s : FollowerSettings} {maxHeaders : UInt64} :
    s.fault? maxHeaders = none ↔ s.l1Interval ≠ 0 ∧ s.finalityDepth < maxHeaders := by
  unfold fault?
  split
  · simp [*]
  · split <;> simp [*]

end FollowerSettings

/-- The settings of a node. -/
structure NodeSettings where
  /-- Those of the gateway. -/
  gateway : GatewaySettings
  /-- Those of the follower. -/
  follower : FollowerSettings
  deriving DecidableEq

/-- Why a file cannot be read as a text. -/
inductive FileFault where
  /-- There is no such file. -/
  | missing
  /-- It is not a text. -/
  | notText
  deriving DecidableEq

/-- The wording of a file fault. -/
def FileFault.message : FileFault → String
  | .missing => "No such file or directory (os error 2)"
  | .notText => "stream did not contain valid UTF-8"

/-- Why the settings of a node cannot be loaded. -/
inductive SettingsFault where
  /-- The file cannot be read. -/
  | unreadable (path : String) (fault : FileFault)
  /-- The file does not hold settings. -/
  | malformed (path : String) (cause : Json.Cause)
  /-- A variable does not hold a value of its type. -/
  | badVariable (name value : String)
  /-- The gateway refuses its settings. -/
  | gateway (fault : GatewayFault)
  /-- The settings of the follower are refused. -/
  | follower (fault : FollowerFault)

/-- The wording of a settings fault. -/
def SettingsFault.message : SettingsFault → String
  | .unreadable path fault => "failed to read config file " ++ path ++ ": " ++ fault.message
  | .malformed path cause => "failed to parse config file " ++ path ++ ": " ++ cause.message
  | .badVariable name value => "invalid value for " ++ name ++ ": " ++ Text.quoted value
  | .gateway fault => fault.message
  | .follower fault => fault.message

/-- The values of the variables that are set. -/
abbrev Environment := String → Option String

/-- The contents of the files that exist. -/
abbrev Files := String → Option Bytes

/-- A setting that a variable overrides. -/
structure Override where
  /-- The name of the variable. -/
  name : String
  /-- The settings with the value of the variable, without the blanks around it, put in. -/
  apply : String → NodeSettings → Option NodeSettings

namespace Override

/-- The override of a setting whose values `read` reads and `set` puts in. -/
def of {α : Type} (name : String) (read : String → Option α)
    (set : NodeSettings → α → NodeSettings) : Override :=
  ⟨name, fun text s => (read text).map (set s)⟩

/-- The overrides in the order in which they are made. -/
def all : List Override := [
  of "STRATA_RPC_HOST" IpAddress.ofText? fun s v => { s with gateway.http.host := v },
  of "STRATA_RPC_PORT" Text.word16? fun s v => { s with gateway.http.port := v },
  of "STRATA_BLOCK_TIME_MS" Text.word64? fun s v => { s with gateway.chain.blockTime := v },
  of "STRATA_PROTOCOL_VERSION" Text.word64?
    fun s v => { s with gateway.chain.protocolVersion := v },
  of "STRATA_NETWORK" some fun s v => { s with gateway.chain.network := v },
  of "STRATA_MAX_HEADERS" Text.word64? fun s v => { s with gateway.retention.maxHeaders := v },
  of "STRATA_MAX_L1_BLOCKS" Text.word64? fun s v => { s with gateway.retention.maxL1Blocks := v },
  of "STRATA_MAX_REQUEST_SIZE" Text.word64?
    fun s v => { s with gateway.limits.maxRequestSize := v }]

/-- Makes an override, if its variable is set. -/
def run (o : Override) (env : Environment) (s : NodeSettings) : Except SettingsFault NodeSettings :=
  match env o.name with
  | none => .ok s
  | some value =>
    match o.apply (Text.trim value) s with
    | some s => .ok s
    | none => .error (.badVariable o.name value)

/-- Makes overrides one after the other. -/
def runAll (env : Environment) :
    List Override → NodeSettings → Except SettingsFault NodeSettings
  | [], s => .ok s
  | o :: rest, s =>
    match o.run env s with
    | .ok s => runAll env rest s
    | .error fault => .error fault

end Override

namespace NodeSettings

/-- Every setting at its default. -/
def standard : NodeSettings := ⟨.standard, .standard⟩

open Json in
/-- The members of the node settings in their order. -/
def shape : Shape NodeSettings where
  name := "NodeConfig"
  blank := .standard
  members := [
    mayHave "gateway" GatewaySettings.shape.decoder fun s v => { s with gateway := v },
    mayHave "dev_follower" FollowerSettings.shape.decoder fun s v => { s with follower := v }]
  lenient := true

/-- The node settings as an object. -/
def toJson (s : NodeSettings) : Json.Value :=
  .object [("gateway", s.gateway.toJson), ("dev_follower", s.follower.toJson)]

/-- The first reason to refuse the settings. -/
def fault? (s : NodeSettings) : Option SettingsFault :=
  match s.gateway.fault? with
  | some fault => some (.gateway fault)
  | none => (s.follower.fault? s.gateway.retention.maxHeaders).map .follower

/-- The default settings are in order. -/
theorem fault?_standard : standard.fault? = none := by
  have hgateway : standard.gateway.fault? = none := GatewaySettings.fault?_standard
  rw [fault?, hgateway]
  rfl

/-- The variable that names the settings file. -/
def fileVariable : String := "STRATA_CONFIG"

/-- The variable that switches the follower on. -/
def followerVariable : String := "STRATA_DEV_FOLLOWER"

/-- The settings that a file holds. -/
def ofFile (files : Files) (path : String) : Except SettingsFault NodeSettings :=
  match files path with
  | none => .error (.unreadable path .missing)
  | some content =>
    match Text.ofBytes? content with
    | none => .error (.unreadable path .notText)
    | some _ =>
      match Json.decode shape.decoder content with
      | .ok s => .ok s
      | .error fault => .error (.malformed path fault.cause)

/-- The settings before the variables: those of the file, or the defaults if none is named. -/
def base (env : Environment) (files : Files) : Except SettingsFault NodeSettings :=
  match env fileVariable with
  | none => .ok standard
  | some path => ofFile files path

/-- The settings with the follower switched as its variable says. -/
def switchFollower (env : Environment) (s : NodeSettings) : NodeSettings :=
  match env followerVariable with
  | none => s
  | some value => { s with follower.enabled := Text.isOn value }

/-- Loads the settings of a node. -/
def load (env : Environment) (files : Files) : Except SettingsFault NodeSettings :=
  match base env files with
  | .error fault => .error fault
  | .ok s =>
    match Override.runAll env Override.all s with
    | .error fault => .error fault
    | .ok s =>
      let s := switchFollower env s
      match s.fault? with
      | some fault => .error fault
      | none => .ok s

/-- Settings that were loaded are in order. -/
theorem fault?_of_load {env : Environment} {files : Files} {s : NodeSettings}
    (h : load env files = .ok s) : s.fault? = none := by
  unfold load at h
  split at h
  · cases h
  · split at h
    · cases h
    · dsimp only at h
      split at h
      · cases h
      · rename_i hnone
        cases h
        exact hnone

end NodeSettings

end ChainView
