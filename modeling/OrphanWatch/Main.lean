import OrphanWatch.Config.Options

/-!
The command line: checks a configuration.

The configuration is read from standard input, and the options from the arguments. What the monitor would
do is printed, or why it cannot run.
-/

namespace OrphanWatch.Main

def environment (names : List String) : IO Expansion.Environment := do
  let values ← names.mapM fun name => do pure (name, ← IO.getEnv name)
  pure (.ofList (values.filterMap fun (name, value) => value.map fun text => (name, text)))

def plan (config : MonitorConfig) : List String :=
  ["Scan interval: " ++ toString config.scan.interval ++ "s",
    "Fetch timeout: " ++ toString config.scan.fetchTimeout ++ "s",
    "TrueNAS: " ++ config.backend.url]

/-- Prints the plan or the reason why there is none; the answer is the exit code. -/
def check (arguments : List String) : IO UInt32 := do
  match Options.empty.parse arguments with
  | .error message =>
    IO.eprintln message
    pure 2
  | .ok options =>
    let document ← (← IO.getStdin).readToEnd
    let environment ← environment (Expansion.Template.of document.toList).names
    match MonitorConfig.load environment document options with
    | .ok config =>
      (plan config).forM IO.println
      pure 0
    | .error error =>
      IO.eprintln error.message
      pure 1

end OrphanWatch.Main

def main (arguments : List String) : IO UInt32 :=
  OrphanWatch.Main.check arguments
