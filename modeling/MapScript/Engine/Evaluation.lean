import MapScript.Script.Declaration

set_option autoImplicit false

namespace MapScript

structure ConditionResult where
  index : Nat
  passed : Bool
  deriving DecidableEq, Repr

structure Evaluation where
  event : Event
  results : List ConditionResult
  deriving DecidableEq, Repr

namespace Evaluation

def passed (e : Evaluation) : Bool :=
  e.results.all ConditionResult.passed

def condition? (e : Evaluation) (result : ConditionResult) : Option Condition :=
  e.event.conditions[result.index]?

def blocking (e : Evaluation) : List Condition :=
  (e.results.filter fun result => !result.passed).filterMap e.condition?

def overlayLine (e : Evaluation) : String :=
  let marked := e.results.map fun result =>
    let text := match e.condition? result with
      | some condition => condition.render
      | none => "?"
    (if result.passed then " [x] " else " [ ] ") ++ text ++ ";"
  e.event.id.render ++ " " ++ e.event.name ++ ":" ++ String.join marked ++ "\n"

end Evaluation

abbrev ConditionTrace := List Evaluation

namespace ConditionTrace

def ofEvent? (trace : ConditionTrace) (id : EventId) : Option Evaluation :=
  trace.find? fun evaluation => evaluation.event.id = id

def blocking (trace : ConditionTrace) (id : EventId) : List Condition :=
  match trace.ofEvent? id with
  | some evaluation => evaluation.blocking
  | none => []

def overlay (trace : ConditionTrace) : String :=
  String.join (trace.map Evaluation.overlayLine)

end ConditionTrace

end MapScript
