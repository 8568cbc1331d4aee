import MapScript.Engine.Drain
import MapScript.Engine.Evaluation

set_option autoImplicit false

namespace MapScript

open Number

variable {W A : Type}

/-- The running events stand in the order in which they started. -/
structure Engine (W A : Type) where
  actions : Dictionary (ActionFactory A)
  conditions : Dictionary (ConditionTest W)
  settings : Settings
  state : ScopeState
  running : List (RunningEvent A)
  trace : ConditionTrace

namespace Engine

def new (actions : Dictionary (ActionFactory A)) (conditions : Dictionary (ConditionTest W))
    (settings : Settings) : Engine W A :=
  ⟨actions, conditions, settings, ScopeState.initial, [], []⟩

def registerAction (engine : Engine W A) (name : String) (factory : ActionFactory A) :
    Engine W A × Journal :=
  ({ engine with actions := engine.actions.insert name factory }, [.actionRegistered name])

def registerCondition (engine : Engine W A) (name : String) (test : ConditionTest W) :
    Engine W A × Journal :=
  ({ engine with conditions := engine.conditions.insert name test }, [.conditionRegistered name])

def isRunning (engine : Engine W A) (id : EventId) : Bool :=
  engine.running.any fun event => event.id = id

def reset (engine : Engine W A) : Engine W A × Journal :=
  let (state, notices) := engine.state.reset
  ({ engine with state := state, running := [], trace := [] }, notices)

def loadScope (engine : Engine W A) (scope : Scope) : Engine W A × Journal :=
  let (state, notices) := engine.state.load scope
  ({ engine with state := state, running := [], trace := [] }, notices)

def retireInit (state : ScopeState) (id : EventId) : ScopeState × Journal :=
  match state.scope with
  | none => (state, [])
  | some scope =>
    if scope.hasInit id then
      ({ state with scope := some (scope.retireInit id) }, [.initRetired id])
    else (state, [])

def startEvent (engine : Engine W A) (event : Event) : Bool × Engine W A × Journal :=
  if engine.isRunning event.id then (false, engine, [])
  else
    let (state, notices) := retireInit engine.state event.id
    (true, { engine with state := state, running := engine.running ++ [.start event] },
      .eventStarted event.id event.name event.actions.length :: notices)

def cancelEvent [ActionHandler W A] (engine : Engine W A) (id : EventId) :
    Bool × Engine W A × Journal :=
  let (found, running, notices) := cancelById W id engine.running
  (found, { engine with running }, notices)

def cancelAllEvents [ActionHandler W A] (engine : Engine W A) : Engine W A × Journal :=
  let (running, notices) := cancelAll W engine.running
  ({ engine with running }, notices)

def cancelActionIn (W : Type) [ActionHandler W A] (id : EventId) :
    List (RunningEvent A) → Bool × List (RunningEvent A) × Journal
  | [] => (false, [], [])
  | e :: rest =>
    if e.id = id then
      let (stopped, e, notices) := e.cancelAction W
      (stopped, e :: rest, notices)
    else
      let (stopped, rest, notices) := cancelActionIn W id rest
      (stopped, e :: rest, notices)

/-- Cancels only the action in flight; the event goes on with the slot after it. -/
def cancelCurrentAction [ActionHandler W A] (engine : Engine W A) (id : EventId) :
    Bool × Engine W A × Journal :=
  let (stopped, running, notices) := cancelActionIn W id engine.running
  (stopped, { engine with running }, notices)

end Engine

end MapScript
