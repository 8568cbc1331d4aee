import MapScript.Simulation.CommandLine
import MapScript.Simulation.Session

set_option autoImplicit false

namespace MapScript.Program

def pollLimit : Nat := Nat.pow 2 62

def environmentNames : List String :=
  ["EVENT_SIM_SCOPE", "EVENT_SIM_CONFIG", "EVENT_SIM_FPS", "EVENT_SIM_TICKS",
    "EVENT_DEBUG_CONDITIONS", "EVENT_FAILURE_POLICY"]

def readEnvironment : IO (String → Option String) := do
  let values ← environmentNames.mapM fun name => do
    return (name, ← IO.getEnv name)
  return fun name => (values.lookup name).join

def reasonOf : IO.Error → String
  | .noFileOrDirectory _ _ _ => "No such file or directory (os error 2)"
  | e => toString e

def readFile (path : String) : IO (String × Except String String) := do
  try
    return (path, .ok (← IO.FS.readFile path))
  catch e =>
    return (path, .error (reasonOf e))

def writeLog (journal : Journal) : IO Unit := do
  for record in journal.filterMap Notice.record? do
    if record.level.reaches .info then
      IO.eprintln record.render

def writeReport (s : Simulation) (report : Report) : IO Unit := do
  IO.eprintln s!"simulation finished ticks={report.ticks} idle={report.idle}"
  for (key, value) in s.world.toList do
    IO.eprintln s!"variable key={key} value={value}"

def simulate (options : Options) (environment : String → Option String) : IO UInt32 := do
  let files ← (options.scope :: options.config.toList).mapM readFile
  let file (path : String) : Except String String :=
    (files.lookup path).getD (.error "not read")
  match options.prepare environment file with
  | .error e =>
    IO.eprintln e.message
    return 1
  | .ok prepared =>
    let (s, result) := prepared.perform pollLimit options
    writeLog s.journal
    match result with
    | .error e =>
      IO.eprintln e.message
      return 1
    | .ok report =>
      writeReport s report
      return 0

def run (arguments : List String) : IO UInt32 := do
  let environment ← readEnvironment
  match Options.ofCommandLine environment arguments with
  | .ok options => simulate options environment
  | .error .helpAsked =>
    IO.println CommandLineError.helpAsked.message
    return 0
  | .error .versionAsked =>
    IO.println CommandLineError.versionAsked.message
    return 0
  | .error e =>
    IO.eprintln e.message
    return 2

end MapScript.Program

def main (arguments : List String) : IO UInt32 :=
  MapScript.Program.run arguments
