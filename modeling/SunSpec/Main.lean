import SunSpec.Command.Run

/-!
# The program

The command line over the files of the machine it runs on. Of the environment it looks up the
variables that settings and filters come from, under their names in capitals.
-/

namespace SunSpec

/-- Why a file of the machine cannot be read. -/
def FileFault.ofError : IO.Error → FileFault
  | .noFileOrDirectory .. => .notFound
  | .inappropriateType .. => .isFolder
  | e => .other e.toString

/-- The machine as a host. -/
def Command.machine : Command.Host IO where
  contents path := do
    try return .ok (← IO.FS.readBinFile path).toList
    catch e => return .error (.ofError e)
  makeFolder path := do
    try
      IO.FS.createDirAll path
      return .ok ()
    catch e => return .error (.ofError e)

/-- The variables that settings and filters come from. -/
def variableNames : List String :=
  ["RUST_LOG"] ++ ["transport", "host", "port", "serial", "baud", "slave", "timeout_ms", "models",
    "output", "candidates", "log_level"].map fun name => "SUNS_" ++ name.toUpper

/-- The variables that are set. -/
def environment : IO (List (String × String)) :=
  variableNames.filterMapM fun name => do return (← IO.getEnv name).map fun text => (name, text)

end SunSpec

/-- Run the command line. -/
def main (words : List String) : IO UInt32 := do
  let outcome ← SunSpec.Command.run SunSpec.Command.machine (← SunSpec.environment) words
  IO.print outcome.output
  IO.eprint outcome.messages
  return outcome.code
