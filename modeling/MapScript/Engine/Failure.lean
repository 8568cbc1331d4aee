import MapScript.Argument

set_option autoImplicit false

namespace MapScript

structure Failure where
  message : String
  causes : List String
  deriving DecidableEq, Repr

def Failure.ofArgument (e : ArgumentError) : Failure :=
  ⟨e.message, []⟩

inductive Phase where
  | test
  | start
  | update
  | cleanup
  deriving DecidableEq, Repr

def Phase.word : Phase → String
  | .test => "test"
  | .start => "start"
  | .update => "update"
  | .cleanup => "cleanup"

inductive EngineError where
  | unregisteredAction (name : String)
  | unregisteredCondition (name : String)
  | malformedArguments (handler : String) (cause : ArgumentError)
  | handler (handler : String) (phase : Phase) (event : Option EventId) (cause : Failure)
  deriving DecidableEq, Repr

namespace EngineError

def message : EngineError → String
  | .unregisteredAction name => "action `" ++ name ++ "` is not registered"
  | .unregisteredCondition name => "condition `" ++ name ++ "` is not registered"
  | .malformedArguments name cause =>
    "malformed parameters for `" ++ name ++ "`: " ++ cause.message
  | .handler name phase event cause =>
    let owner := match event with
      | some id => " of event " ++ id.render
      | none => ""
    "`" ++ name ++ "` failed during " ++ phase.word ++ owner ++ ": " ++ cause.message

def causes : EngineError → List String
  | .malformedArguments _ cause => [cause.message]
  | .handler _ _ _ cause => cause.message :: cause.causes
  | _ => []

def handlerName : EngineError → String
  | .unregisteredAction name => name
  | .unregisteredCondition name => name
  | .malformedArguments name _ => name
  | .handler name _ _ _ => name

def isUnregistered : EngineError → Bool
  | .unregisteredAction _ => true
  | .unregisteredCondition _ => true
  | _ => false

end EngineError

end MapScript
