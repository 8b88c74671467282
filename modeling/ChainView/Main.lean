import Mathlib.Init
import ChainView.Http.Router
import ChainView.Node.Instance

/-!
# The node as a program

The program loads its settings from the environment and from the file that the environment names,
and answers calls: one body on each line of its input, one response on each line of its output,
until the input ends.  Before each call the follower, if there is one, makes the blocks that have
fallen due, and stamps them with Unix time.
-/

namespace ChainView.Program

/-- The variables that settings are read from. -/
def variableNames : List String :=
  NodeSettings.fileVariable :: NodeSettings.followerVariable :: Override.all.map Override.name

/-- The environment of the process. -/
def environment : IO Environment := do
  let values ← variableNames.mapM fun name => return (name, ← IO.getEnv name)
  return fun name => (values.lookup name).join

/-- The content of a file, unless it cannot be read. -/
def contentOf (path : String) : IO (Option Bytes) := do
  try
    return some (← IO.FS.readBinFile path).toList
  catch _ =>
    return none

/-- The files that an environment names. -/
def files (env : Environment) : IO Files := do
  match env NodeSettings.fileVariable with
  | none => return fun _ => none
  | some path =>
    let content ← contentOf path
    return fun other => if other = path then content else none

/-- The instance that the settings ask for, started. -/
def launch (settings : NodeSettings) : Except SettingsFault NodeInstance :=
  (NodeInstance.create settings).map fun i => i.start.getD i

/-- The bytes of a line without its end. -/
def bodyOf (line : String) : Bytes :=
  (Text.bytesOf line).takeWhile (· ≠ 0x0A)

/-- The time in milliseconds since the Unix epoch. -/
def unixMillis : IO Nat :=
  return (← Std.Time.Timestamp.now).toMillisecondsSinceUnixEpoch.val.toNat

/-- Answers calls until the input ends.  At the start it was `epoch` milliseconds past the Unix
epoch and the steady clock stood at `start`; `before` milliseconds had passed when the last call
was answered. -/
partial def serve (server : Http.Server) (i : NodeInstance) (epoch start before : Nat) :
    IO Unit := do
  let line ← (← IO.getStdin).getLine
  unless line.isEmpty do
    let now := (← IO.monoMsNow) - start
    let i := i.sleep (UInt64.ofNat epoch) (now - before)
    let (response, server) := server.call i.node (bodyOf line) 0
    let output ← IO.getStdout
    output.putStrLn (Text.ofBytes response.body)
    output.flush
    serve server i epoch start now

end ChainView.Program

open ChainView in
/-- Runs the node; settings that are refused end the program with a message. -/
def main : IO UInt32 := do
  let env ← Program.environment
  match NodeSettings.load env (← Program.files env) with
  | .error fault =>
    IO.eprintln fault.message
    return 1
  | .ok settings =>
    match Program.launch settings with
    | .error fault =>
      IO.eprintln (NodeInstance.refusal fault)
      return 1
    | .ok i =>
      Program.serve (.create settings.gateway) i (← Program.unixMillis) (← IO.monoMsNow) 0
      return 0
