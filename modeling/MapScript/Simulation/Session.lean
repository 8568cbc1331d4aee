import MapScript.Simulation.Basic
import MapScript.Simulation.Options

set_option autoImplicit false

namespace MapScript

open Number

namespace Options

def settings (options : Options) (environment : String → Option String)
    (file : String → Except String String) : Except SimulationError Settings :=
  match options.config with
  | none => .ok (.ofEnvironment environment)
  | some path =>
    match file path with
    | .error reason => .error (.settingsUnread path reason)
    | .ok text =>
      match SettingsFile.parse text with
      | some settings => .ok settings
      | none => .error (.settingsMalformed path)

def loadScope (options : Options) (file : String → Except String String) :
    Except SimulationError Scope :=
  match file options.scope with
  | .error reason => .error (.scopeUnread options.scope reason)
  | .ok text => (ScopeFile.parse text).mapError (.scopeMalformed options.scope)

def prepare (options : Options) (environment : String → Option String)
    (file : String → Except String String) : Except SimulationError Simulation := do
  let settings ← options.settings environment file
  let scope ← options.loadScope file
  return .new scope settings (.ofList options.assignments)

end Options

namespace Simulation

def executeAll (polls : Nat) (dt : Seconds) (s : Simulation) :
    List String → Simulation × Except SimulationError Unit
  | [] => (s, .ok ())
  | line :: rest =>
    match s.execute polls dt line with
    | (next, .ok _) => next.executeAll polls dt rest
    | (next, .error e) => (next, .error e)

def perform (polls : Nat) (options : Options) (s : Simulation) :
    Simulation × Except SimulationError Report :=
  match s.executeAll polls options.frameTime options.commands with
  | (next, .error e) => (next, .error e)
  | (next, .ok _) => next.run options.frameTime options.untilIdle options.ticks.toNat

end Simulation

end MapScript
