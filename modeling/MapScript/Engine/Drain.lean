import MapScript.Engine.RunningEvent

set_option autoImplicit false

namespace MapScript

open Number

variable {W A : Type}

inductive Drain where
  | blocked
  | complete
  | scopeChanged
  deriving DecidableEq, Repr

structure Drive (W A : Type) where
  event : RunningEvent A
  world : W
  state : ScopeState

def Drive.scene (d : Drive W A) : Scene W :=
  ⟨d.world, d.event.context, d.state⟩

def Drive.after {B : Type} (d : Drive W A) (called : Called W A B)
    (current : Option (InFlight A)) : Drive W A :=
  { event := { d.event with current := current, context := called.scene.locals }
    world := called.scene.world
    state := called.scene.state }

inductive Step where
  | stop (result : Except EngineError Drain)
  | next

structure Stepped (W A : Type) where
  drive : Drive W A
  journal : Journal
  step : Step

structure Drained (W A : Type) where
  drive : Drive W A
  journal : Journal
  result : Except EngineError Drain

def Stepped.after (notices : Journal) (s : Stepped W A) : Stepped W A :=
  { s with journal := notices ++ s.journal }

def cleanUp [ActionHandler W A] (dt : Seconds) (token : ScopeToken) (slot : Action) (action : A)
    (d : Drive W A) : Stepped W A :=
  let called := callHook slot.kind .cleanup .cleanup d.event.cursor ⟨some d.event.id, dt⟩
    ActionHandler.cleanup action d.scene
  let left := d.after called (some ⟨called.action, .done⟩)
  match called.result with
  | .error e => ⟨left, called.journal, .stop (.error e)⟩
  | .ok _ =>
    -- The slot counts as finished even if its cleanup has changed the scope.
    { drive := { left with event := left.event.advance }
      journal := called.journal ++ [.actionFinished d.event.id slot]
      step := if left.state.token = token then .next else .stop (.ok .scopeChanged) }

def poll [ActionHandler W A] (dt : Seconds) (token : ScopeToken) (slot : Action)
    (current : InFlight A) (d : Drive W A) : Stepped W A :=
  let called := callHook slot.kind .update .update d.event.cursor ⟨some d.event.id, dt⟩
    ActionHandler.update current.action d.scene
  -- After a failed cleanup the action is still in flight, and it is polled once more.
  let left := d.after called (some ⟨called.action, current.state⟩)
  match called.result with
  | .error e => ⟨left, called.journal, .stop (.error e)⟩
  | .ok .done => (cleanUp dt token slot called.action left).after called.journal
  | .ok .running =>
    ⟨left, called.journal,
      .stop (.ok (if left.state.token = token then .blocked else .scopeChanged))⟩

def enter [ActionHandler W A] (factories : Dictionary (ActionFactory A)) (dt : Seconds)
    (token : ScopeToken) (slot : Action) (d : Drive W A) : Stepped W A :=
  match createAction factories (some d.event.id) d.event.cursor slot.kind slot.parameters with
  | (.error e, notices) => ⟨d, notices, .stop (.error e)⟩
  | (.ok action, notices) =>
    let called := callHook slot.kind .start .start d.event.cursor ⟨some d.event.id, dt⟩
      ActionHandler.start action d.scene
    match called.result with
    -- A failed start leaves no action behind, but what it did stays done.
    | .error e => ⟨d.after called none, notices ++ called.journal, .stop (.error e)⟩
    | .ok _ =>
      let current : InFlight A := ⟨called.action, .running⟩
      let left := d.after called (some current)
      let started := notices ++ called.journal ++ [.actionStarted d.event.id slot]
      if left.state.token = token then (poll dt token slot current left).after started
      else ⟨left, started, .stop (.ok .scopeChanged)⟩

def visitSlot [ActionHandler W A] (factories : Dictionary (ActionFactory A)) (dt : Seconds)
    (token : ScopeToken) (slot : Action) (d : Drive W A) : Stepped W A :=
  match d.event.current with
  | none => enter factories dt token slot d
  | some current =>
    if current.state = .cancelled then
      ⟨{ d with event := d.event.advance }, [.actionSkipped d.event.id slot], .next⟩
    else poll dt token slot current d

def drainSlots [ActionHandler W A] (factories : Dictionary (ActionFactory A)) (dt : Seconds)
    (token : ScopeToken) : List Action → Drive W A → Drained W A
  | [], d => ⟨d, [.eventFinished d.event.id], .ok .complete⟩
  | slot :: rest, d =>
    let visited := visitSlot factories dt token slot d
    match visited.step with
    | .stop result => ⟨visited.drive, visited.journal, result⟩
    | .next =>
      let drained := drainSlots factories dt token rest visited.drive
      { drained with journal := visited.journal ++ drained.journal }

def drain [ActionHandler W A] (factories : Dictionary (ActionFactory A)) (dt : Seconds)
    (d : Drive W A) : Drained W A :=
  drainSlots factories dt d.state.token (d.event.declaration.actions.drop d.event.cursor) d

end MapScript
