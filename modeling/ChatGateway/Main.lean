import ChatGateway.Log.Line
import ChatGateway.Program
import ChatGateway.Site.Assets

/-!
# The command

Runs the program with the variables of the process and the configuration in the current
directory. The process opens no sockets, so nobody is reached and nobody asks; the run shows
whether the service would start.
-/

namespace ChatGateway.Command

/-- The variables that are looked at. -/
def variableNames : List String :=
  ["ENVIRONMENT", "RESPONDER_KIND", "RESPONDER_URL", "RESPONDER_HEALTH_URL",
    "RESPONDER_TIMEOUT_SECS", "RESOURCE_BUNDLE_URL", "RESOURCE_DATA_DIR", "RESOURCE_BUNDLE_NAME",
    "LOG_LEVEL", "OTLP_ENDPOINT", "STATIC_DIR", "APP__HOST", "APP__PORT", Telemetry.filterVariable]

/-- The variables that are set. -/
def environment : IO EnvironmentFile.Variables := do
  let found ← variableNames.mapM fun name => do return (← IO.getEnv name).map fun value => (name, value)
  return found.filterMap id

/-- The files that are looked at. -/
def fileNames : List String := Config.variablesFile :: Config.candidates.map (·.1)

/-- The content of a file, if it can be read. -/
def content? (name : String) : IO (Option Bytes) := do
  try
    return some (← IO.FS.readBinFile name).toList
  catch _ =>
    return none

/-- The directory of the page's assets. -/
def assetsDirectory : Files.Place := ["static"]

/-- The files of the current directory that are looked at, and the page's assets. -/
def volume : IO Files.Volume := do
  let mut tree : Files.Tree := {}
  for name in fileNames do
    if let some content ← content? name then
      tree := tree.put [name] (.file content)
  return ⟨Site.install assetsDirectory tree, []⟩

/-- What a run without sockets finds. -/
def machine : Program.Machine Unit where
  home := "."
  network := .unreachable Unit
  sockets := .unprivileged
  supplies := ⟨fun n => ⟨BitVec.ofNat 128 n⟩, fun _ => 0⟩

end ChatGateway.Command

open ChatGateway in
/-- Runs the program and writes its log and what else it says. -/
def main : IO UInt32 := do
  let run := Program.run Command.machine (← Command.environment) [] (← Command.volume) ()
  for event in run.log do
    IO.println (Bytes.readableText event.line)
  IO.eprint run.errorText
  return run.exitCode.toUInt32
