import MapScript.Engine.Handler

set_option autoImplicit false

namespace MapScript

variable {W A : Type}

inductive ActionState where
  | running
  | done
  | cancelled
  deriving DecidableEq, Repr

def ActionState.word : ActionState → String
  | .running => "running"
  | .done => "done"
  | .cancelled => "cancelled"

structure InFlight (A : Type) where
  action : A
  state : ActionState

structure RunningEvent (A : Type) where
  declaration : Event
  cursor : Nat
  current : Option (InFlight A)
  context : Dictionary Value
  cancelled : Bool

namespace RunningEvent

def start (declaration : Event) : RunningEvent A :=
  ⟨declaration, 0, none, Dictionary.empty, false⟩

def id (e : RunningEvent A) : EventId :=
  e.declaration.id

def slot? (e : RunningEvent A) : Option Action :=
  e.declaration.actions[e.cursor]?

def kind? (e : RunningEvent A) : Option String :=
  e.slot?.map Action.kind

def actionState? (e : RunningEvent A) : Option ActionState :=
  e.current.map InFlight.state

def advance (e : RunningEvent A) : RunningEvent A :=
  { e with cursor := e.cursor + 1, current := none }

def stopAction (W : Type) [ActionHandler W A] (e : RunningEvent A) :
    Bool × RunningEvent A × Journal :=
  match e.current with
  | some ⟨action, .running⟩ =>
    let (action, records) := @ActionHandler.cancel W A _ action
    (true, { e with current := some ⟨action, .cancelled⟩ },
      records.map Notice.said ++
        [.called ⟨some e.id, e.cursor, (e.kind?).getD "", .cancel, .finished, false⟩])
  | _ => (false, e, [])

def cancel (W : Type) [ActionHandler W A] (e : RunningEvent A) : RunningEvent A × Journal :=
  if e.cancelled then (e, [])
  else
    let (_, stopped, notices) := e.stopAction W
    ({ stopped with cancelled := true },
      notices ++ [.eventCancelled e.id e.declaration.name e.cursor])

def cancelAction (W : Type) [ActionHandler W A] (e : RunningEvent A) :
    Bool × RunningEvent A × Journal :=
  let (stopped, event, notices) := e.stopAction W
  (stopped, event, if stopped then notices ++ [.actionCancelled e.id e.kind?] else notices)

end RunningEvent

def cancelById (W : Type) [ActionHandler W A] (id : EventId) :
    List (RunningEvent A) → Bool × List (RunningEvent A) × Journal
  | [] => (false, [], [.cancelIgnored id])
  | e :: rest =>
    if e.id = id then
      let (e, notices) := e.cancel W
      (true, e :: rest, notices)
    else
      let (found, rest, notices) := cancelById W id rest
      (found, e :: rest, notices)

def cancelAll (W : Type) [ActionHandler W A] :
    List (RunningEvent A) → List (RunningEvent A) × Journal
  | [] => ([], [])
  | e :: rest =>
    let (e, notices) := e.cancel W
    let (rest, later) := cancelAll W rest
    (e :: rest, notices ++ later)

def applyRequests (W : Type) [ActionHandler W A] :
    List CancelRequest → List (RunningEvent A) → List (RunningEvent A) × Journal
  | [], running => (running, [])
  | request :: rest, running =>
    let (next, notices) := match request with
      | .event id => (cancelById W id running).2
      | .all => cancelAll W running
    let (last, later) := applyRequests W rest next
    (last, notices ++ later)

end MapScript
