import MapScript.Catalog.Basic
import MapScript.Engine.OneShot
import MapScript.Engine.Update
import MapScript.ScopeFile
import MapScript.SettingsFile

set_option autoImplicit false

namespace MapScript

open Number Text

inductive SimulationError where
  | settingsUnread (path reason : String)
  | settingsMalformed (path : String)
  | scopeUnread (path reason : String)
  | scopeMalformed (path : String) (cause : ScopeFileError)
  | commandMalformed (cause : Script.LineError)
  | commandFailed (line : String) (cause : EngineError)
  | commandUnfinished (line : String)
  | frameFailed (frame : Nat) (cause : EngineError)
  deriving DecidableEq, Repr

namespace SimulationError

def loadingSettings (path : String) : String :=
  "loading engine config " ++ path

def unread (path reason : String) : String :=
  "Failed to read file " ++ path ++ ": " ++ reason

def running (line : String) : String :=
  "console command " ++ quoted line

def chain : SimulationError → List String
  | .settingsUnread path reason => [loadingSettings path, unread path reason]
  | .settingsMalformed path =>
    [loadingSettings path, "Failed to parse config " ++ path, SettingsFile.unreadable]
  | .scopeUnread path reason => [unread path reason]
  | .scopeMalformed path cause => ("Failed to load scope " ++ path) :: cause.chain
  | .commandMalformed cause => cause.chain
  | .commandFailed line cause => running line :: cause.message :: cause.causes
  | .commandUnfinished line => [running line, "the action does not finish"]
  | .frameFailed frame cause =>
    ("frame " ++ String.ofList (writeInteger frame)) :: cause.message :: cause.causes

def message (e : SimulationError) : String :=
  String.intercalate ": " e.chain

end SimulationError

/-- The notices stand with the newest first. -/
structure Simulation where
  engine : Engine Variables Builtin
  world : Variables
  backlog : List Notice

structure Report where
  ticks : Nat
  idle : Bool
  deriving DecidableEq, Repr

namespace Simulation

def new (scope : Scope) (settings : Settings) (world : Variables) : Simulation :=
  let (bare, registered) := Catalog.engine id settings
  let (engine, loaded) := bare.loadScope scope
  ⟨engine, world, (registered ++ loaded).reverse⟩

def journal (s : Simulation) : Journal :=
  s.backlog.reverse

def isIdle (s : Simulation) : Bool :=
  s.engine.running.isEmpty

def lineRecord (action : Action) : Record :=
  ⟨.info, "simulation", "executing console command", [("command", action.render)]⟩

def execute (polls : Nat) (dt : Seconds) (s : Simulation) (line : String) :
    Simulation × Except SimulationError Unit :=
  match Script.parseAction "console" line with
  | .error cause => (s, .error (.commandMalformed cause))
  | .ok action =>
    let run := s.engine.execute polls s.world action.kind action.parameters false dt
    let next : Simulation :=
      ⟨run.engine, run.world, run.journal.reverse ++ .said (lineRecord action) :: s.backlog⟩
    match run.ending with
    | .finished => (next, .ok ())
    | .failed cause => (next, .error (.commandFailed line cause))
    | .unfinished => (next, .error (.commandUnfinished line))

def frame (dt : Seconds) (s : Simulation) : Simulation × Except EngineError Unit :=
  let updated := s.engine.update s.world dt
  (⟨updated.engine, updated.world, updated.journal.reverse ++ s.backlog⟩, updated.result)

def runAfter (dt : Seconds) (untilIdle : Bool) (past : Nat) :
    Nat → Simulation → Simulation × Except SimulationError Report
  | 0, s => (s, .ok ⟨past, s.isIdle⟩)
  | left + 1, s =>
    match s.frame dt with
    | (next, .error cause) => (next, .error (.frameFailed (past + 1) cause))
    | (next, .ok _) =>
      -- Only a frame can be the last one: a simulation that is idle before it still runs it.
      if untilIdle && next.isIdle then (next, .ok ⟨past + 1, true⟩)
      else runAfter dt untilIdle (past + 1) left next

/-- Runs so many frames. With `untilIdle` the first one that ends with nothing running is the
last. -/
def run (dt : Seconds) (untilIdle : Bool) (ticks : Nat) (s : Simulation) :
    Simulation × Except SimulationError Report :=
  runAfter dt untilIdle 0 ticks s

end Simulation

end MapScript
