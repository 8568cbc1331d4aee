import MapScript.Number.Integer
import MapScript.Simulation.Options
import MapScript.Text.Quoted

set_option autoImplicit false

namespace MapScript

open Number Text

inductive Parameter where
  | scope
  | config
  | fps
  | ticks
  | assignment
  | command
  deriving DecidableEq, Repr

namespace Parameter

def name : Parameter → String
  | .scope => "<SCOPE>"
  | .config => "--config"
  | .fps => "--fps"
  | .ticks => "--ticks"
  | .assignment => "--var"
  | .command => "--exec"

def ofOption? (name : String) : Option Parameter :=
  [.config, .fps, .ticks, .assignment, .command].find? fun p => p.name = "--" ++ name

def environmentName? : Parameter → Option String
  | .scope => some "EVENT_SIM_SCOPE"
  | .config => some "EVENT_SIM_CONFIG"
  | .fps => some "EVENT_SIM_FPS"
  | .ticks => some "EVENT_SIM_TICKS"
  | .assignment => none
  | .command => none

end Parameter

inductive CommandLineError where
  | helpAsked
  | versionAsked
  | unknownArgument (argument : String)
  | scopeMissing
  | valueMissing (parameter : Parameter)
  | emptyPath (parameter : Parameter)
  | badValue (parameter : Parameter) (value : String)
  | repeated (name : String)
  | needlessValue (name : String)
  deriving DecidableEq, Repr

def CommandLineError.message : CommandLineError → String
  | .helpAsked =>
    "usage: mapscript <SCOPE> [--config FILE] [--fps N] [--ticks N] [--until-idle] " ++
      "[--var KEY=VALUE]... [--exec LINE]..."
  | .versionAsked => "mapscript 0.1.0"
  | .unknownArgument argument => "unexpected argument " ++ quoted argument
  | .scopeMissing => "a scope file is required"
  | .valueMissing parameter => parameter.name ++ " needs a value"
  | .emptyPath parameter => parameter.name ++ " needs a file name"
  | .badValue parameter value => "invalid value " ++ quoted value ++ " for " ++ parameter.name
  | .repeated name => name ++ " is given more than once"
  | .needlessValue name => name ++ " takes no value"

inductive Pending where
  | nothing
  | option (parameter : Parameter)
  | value (parameter : Parameter) (value : String)
  deriving DecidableEq, Repr

structure CommandLine where
  scope : Option String
  config : Option String
  fps : Option UInt32
  ticks : Option UInt64
  untilIdle : Bool
  assignments : List (String × String)
  commands : List String
  pending : Pending
  deriving DecidableEq, Repr

namespace CommandLine

def empty : CommandLine :=
  ⟨none, none, none, none, false, [], [], .nothing⟩

def readBelow (range : Int × Int) (bound : Nat) (text : String) : Option Nat :=
  match readInteger range.1 range.2 text.toList with
  | .ok n => if 0 ≤ n ∧ n < bound then some n.toNat else none
  | .error _ => none

def readVariable (text : String) : Option (String × String) :=
  match text.toList.takeWhile (· != '='), text.toList.dropWhile (· != '=') with
  | [], _ => none
  | _, [] => none
  | key, _ :: value => some (String.ofList key, String.ofList value)

def has (line : CommandLine) : Parameter → Bool
  | .scope => line.scope.isSome
  | .config => line.config.isSome
  | .fps => line.fps.isSome
  | .ticks => line.ticks.isSome
  | .assignment => false
  | .command => false

def setPath (parameter : Parameter) (path : String) (line : CommandLine) :
    Except CommandLineError CommandLine :=
  if path = "" then .error (.emptyPath parameter) else .ok line

def setValue {A : Type} (parameter : Parameter) (text : String) (value : Option A)
    (set : A → CommandLine) : Except CommandLineError CommandLine :=
  match value with
  | some value => .ok (set value)
  | none => .error (.badValue parameter text)

def take (line : CommandLine) (parameter : Parameter) (text : String) :
    Except CommandLineError CommandLine :=
  if line.has parameter then .error (.repeated parameter.name)
  else
    match parameter with
    | .scope => setPath .scope text { line with scope := some text }
    | .config => setPath .config text { line with config := some text }
    | .fps => setValue .fps text (readBelow (signedRange 64) UInt32.size text)
        fun n => { line with fps := some (UInt32.ofNat n) }
    | .ticks => setValue .ticks text (readBelow (unsignedRange 64) UInt64.size text)
        fun n => { line with ticks := some (UInt64.ofNat n) }
    | .assignment => setValue .assignment text (readVariable text)
        fun entry => { line with assignments := line.assignments ++ [entry] }
    | .command => .ok { line with commands := line.commands ++ [text] }

def settle (line : CommandLine) : Except CommandLineError CommandLine :=
  match line.pending with
  | .nothing => .ok line
  | .option parameter => .error (.valueMissing parameter)
  | .value parameter text => { line with pending := .nothing }.take parameter text

def readPlain (line : CommandLine) (text : String) (trailing : Bool) :
    Except CommandLineError CommandLine :=
  let asScope := do
    -- A second file name is unknown even if the first one, not taken yet, is empty.
    let hasScope := line.has .scope || match line.pending with
      | .value .scope _ => true
      | _ => false
    if hasScope then throw (.unknownArgument text)
    let line ← line.settle
    return { line with pending := .value .scope text }
  match line.pending, trailing with
  | .option parameter, false => .ok { line with pending := .value parameter text }
  | _, _ => asScope

def readOption (line : CommandLine) (name : String) (attached : Option String) :
    Except CommandLineError CommandLine :=
  match Parameter.ofOption? name, attached with
  | some parameter, some text => do
    let line ← line.settle
    line.take parameter text
  | some parameter, none => do
    let line ← line.settle
    return { line with pending := .option parameter }
  | none, attached =>
    if name ∉ ["until-idle", "help", "version"] then .error (.unknownArgument ("--" ++ name))
    else if attached.isSome then .error (.needlessValue ("--" ++ name))
    else do
      -- A bad value before comes first, also before help and version.
      let line ← line.settle
      if name = "help" then throw .helpAsked
      if name = "version" then throw .versionAsked
      if line.untilIdle then throw (.repeated "--until-idle")
      return { line with untilIdle := true }

def readLetters (line : CommandLine) (letter : Char) : Except CommandLineError CommandLine :=
  if letter = 'h' then line.settle.bind fun _ => .error .helpAsked
  else if letter = 'V' then line.settle.bind fun _ => .error .versionAsked
  else .error (.unknownArgument (String.ofList ['-', letter]))

def readArgument (line : CommandLine) (argument : String) : Except CommandLineError CommandLine :=
  match argument.toList with
  | '-' :: '-' :: body =>
    let name := String.ofList (body.takeWhile (· != '='))
    match body.dropWhile (· != '=') with
    | [] => line.readOption name none
    | _ :: text => line.readOption name (some (String.ofList text))
  | '-' :: letter :: _ => line.readLetters letter
  | _ => line.readPlain argument false

def readTrailing (line : CommandLine) : List String → Except CommandLineError CommandLine
  | [] => .ok line
  | argument :: rest => do
    let line ← line.readPlain argument true
    line.readTrailing rest

def readArguments (line : CommandLine) : List String → Except CommandLineError CommandLine
  | [] => .ok line
  | argument :: rest =>
    if argument = "--" then line.readTrailing rest
    else
      match line.readArgument argument with
      | .ok line => line.readArguments rest
      | .error e => .error e

def takeEnvironment (environment : String → Option String) (line : CommandLine)
    (parameter : Parameter) : Except CommandLineError CommandLine :=
  match line.has parameter, parameter.environmentName?.bind environment with
  | false, some text => line.take parameter text
  | _, _ => .ok line

def toOptions (line : CommandLine) : Except CommandLineError Options :=
  match line.scope with
  | none => .error .scopeMissing
  | some scope =>
    .ok ⟨scope, line.config, line.fps.getD Options.defaultFps,
      line.ticks.getD Options.defaultTicks, line.untilIdle, line.assignments, line.commands⟩

end CommandLine

def Options.ofCommandLine (environment : String → Option String) (arguments : List String) :
    Except CommandLineError Options := do
  let line ← CommandLine.empty.readArguments arguments
  let line ← line.settle
  -- The environment is read before the scope file is missed.
  let line ← [Parameter.scope, .config, .fps, .ticks].foldlM
    (CommandLine.takeEnvironment environment) line
  line.toOptions

end MapScript
