import ChainView.Settings.Node
import ChainView.Text.Alphanumeric

/-!
# Settings of the log

What the log is called, which events it keeps and how it is written, as the environment says; and
the grammar of the filter that picks the events.  A filter is a list of directives separated by
commas.  A directive is a level, a target, or a target with a level; empty directives are ignored.
-/

namespace ChainView

/-- The settings of the log. -/
structure LogSettings where
  /-- The name of the service. -/
  serviceName : String
  /-- The filter of events. -/
  filter : String
  /-- Whether events are written as JSON. -/
  json : Bool
  /-- Whether the output is coloured. -/
  colour : Bool
  deriving DecidableEq

namespace LogSettings

/-- Every setting at its default. -/
def standard : LogSettings := ⟨"strata-status-node", "info", false, true⟩

/-- Whether the environment is that of a container. -/
def inContainer (env : Environment) : Bool :=
  (env "KUBERNETES_SERVICE_HOST").isSome || (env "DOCKER_CONTAINER").isSome

/-- The settings that an environment makes. -/
def ofEnvironment (env : Environment) : LogSettings where
  serviceName := (env "STRATA_SERVICE_NAME").getD standard.serviceName
  filter := ((env "STRATA_LOG_LEVEL").or (env "RUST_LOG")).getD standard.filter
  json := ((env "STRATA_JSON_LOGS").map Text.isOn).getD (inContainer env)
  colour := (env "NO_COLOR").isNone

end LogSettings

/-- The levels of events. -/
inductive LogLevel where
  /-- No events. -/
  | off
  /-- Errors. -/
  | error
  /-- Warnings too. -/
  | warn
  /-- Notes too. -/
  | info
  /-- Details too. -/
  | debug
  /-- Everything. -/
  | trace
  deriving DecidableEq

namespace LogLevel

/-- The level of a name, in any case. -/
def ofName? (cs : List Char) : Option LogLevel :=
  match Ascii.lowercase (String.ofList cs) with
  | "off" => some .off
  | "error" => some .error
  | "warn" => some .warn
  | "info" => some .info
  | "debug" => some .debug
  | "trace" => some .trace
  | _ => none

/-- The level of a rank from zero to five. -/
def ofRank? : Nat → Option LogLevel
  | 0 => some .off
  | 1 => some .error
  | 2 => some .warn
  | 3 => some .info
  | 4 => some .debug
  | 5 => some .trace
  | _ => none

/-- The level that a text writes, by rank or by name. -/
def ofText? (cs : List Char) : Option LogLevel :=
  match (Text.unsigned? UInt64.size (String.ofList cs)).bind ofRank? with
  | some level => some level
  | none => ofName? cs

end LogLevel

/-- A directive of a filter. -/
structure LogDirective where
  /-- The target it is about, if it is not about all. -/
  target : Option (List Char)
  /-- The level of the events it lets pass. -/
  level : LogLevel

namespace LogDirective

/-- Whether a directive may start with a character: a letter or a digit of any script, or one of
three marks. -/
def startsWith (c : Char) : Bool :=
  Text.isAlphanumeric c || c == '-' || c == ':' || c == '_'

/-- The directive that a text writes.  Without an equals sign it is a level or else a target, of
which everything passes; with one, the target stands before it and the level, which may be left out
for everything, behind it. -/
def ofText? (cs : List Char) : Option LogDirective :=
  let trimmed := Text.trimChars cs
  match trimmed with
  | [] => none
  | c :: _ =>
    if startsWith c then
      let name := trimmed.takeWhile (· ≠ '=')
      if name.length = trimmed.length then
        match LogLevel.ofText? cs with
        | some level => some ⟨none, level⟩
        | none => some ⟨some cs, .trace⟩
      else
        let level := cs.drop (name.length + 1)
        if level.isEmpty then some ⟨some name, .trace⟩
        else (LogLevel.ofText? level).map fun level => ⟨some name, level⟩
    else none

end LogDirective

/-- The directives that a filter writes, if each of them is in order. -/
def logFilter? (filter : String) : Option (List LogDirective) :=
  ((filter.toList.splitOn ',').filter fun cs => !cs.isEmpty).mapM LogDirective.ofText?

end ChainView
