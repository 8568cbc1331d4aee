import MapScript.Engine.Basic

set_option autoImplicit false

namespace MapScript

open Number

variable {W A : Type}

structure Sweep (W A : Type) where
  running : List (RunningEvent A)
  finished : List EventId
  world : W
  state : ScopeState

structure Swept (W A : Type) where
  sweep : Sweep W A
  journal : Journal
  result : Except EngineError Unit

namespace Sweep

def applyPending [ActionHandler W A] (s : Sweep W A) : Sweep W A × Journal :=
  let (running, notices) := applyRequests W s.state.requests s.running
  ({ s with running := running, state := { s.state with requests := [] } }, notices)

def settle (s : Sweep W A) : Sweep W A :=
  { s with running := s.running.filter fun event => !s.finished.contains event.id }

def abandon (s : Sweep W A) : Sweep W A :=
  { s with running := [] }

def finish (s : Sweep W A) (id : EventId) : Sweep W A :=
  { s with finished := s.finished ++ [id] }

def close [ActionHandler W A] (token : ScopeToken) (s : Sweep W A) : Sweep W A × Journal :=
  if s.state.token = token then
    let (applied, notices) := s.applyPending
    (applied.settle, notices)
  else (s.abandon, [])

def afterDrain (s : Sweep W A) (index : Nat) (drive : Drive W A) : Sweep W A :=
  { s with
    running := s.running.set index drive.event
    world := drive.world
    state := drive.state }

inductive Visit where
  | next
  | abandoned
  | aborted (cause : EngineError)

def visit [ActionHandler W A] (factories : Dictionary (ActionFactory A)) (policy : FailurePolicy)
    (dt : Seconds) (token : ScopeToken) (index : Nat) (event : RunningEvent A) (s : Sweep W A) :
    Sweep W A × Journal × Visit :=
  -- No hook is called for a cancelled event, and new requests wait for the next drain.
  if event.cancelled then (s.finish event.id, [.cancelledRemoved event.id], .next)
  else
    let drained := drain factories dt ⟨event, s.world, s.state⟩
    let after := s.afterDrain index drained.drive
    let settled (s : Sweep W A) (notices : Journal) : Sweep W A × Journal × Visit :=
      if s.state.token = token then
        let (applied, cancelled) := s.applyPending
        (applied, drained.journal ++ notices ++ cancelled, .next)
      else (s, drained.journal ++ notices, .abandoned)
    match drained.result with
    | .ok .blocked => settled after []
    | .ok .complete => settled (after.finish event.id) []
    | .ok .scopeChanged => (after, drained.journal ++ [.scopeAbandoned event.id], .abandoned)
    | .error cause =>
      match policy with
      -- The failing event stays as its drain has left it.
      | .abort => (after, drained.journal ++ [.frameAborted event.id cause], .aborted cause)
      | .dropEvent => settled (after.finish event.id) [.eventDropped event.id cause]

def visitFrom [ActionHandler W A] (factories : Dictionary (ActionFactory A))
    (policy : FailurePolicy) (dt : Seconds) (token : ScopeToken) :
    Nat → Nat → Sweep W A → Swept W A
  | 0, _, s =>
    let (closed, notices) := s.close token
    ⟨closed, notices, .ok ()⟩
  | visits + 1, index, s =>
    match s.running[index]? with
    | none => visitFrom factories policy dt token visits (index + 1) s
    | some event =>
      match visit factories policy dt token index event s with
      | (s, notices, .next) =>
        let later := visitFrom factories policy dt token visits (index + 1) s
        { later with journal := notices ++ later.journal }
      | (s, notices, .abandoned) => ⟨s.abandon, notices, .ok ()⟩
      | (s, notices, .aborted cause) =>
        let (closed, cancelled) := s.close token
        ⟨closed, notices ++ cancelled, .error cause⟩

def run [ActionHandler W A] (factories : Dictionary (ActionFactory A)) (policy : FailurePolicy)
    (dt : Seconds) (s : Sweep W A) : Swept W A :=
  let (applied, notices) := s.applyPending
  let swept := visitFrom factories policy dt s.state.token applied.running.length 0 applied
  { swept with journal := notices ++ swept.journal }

end Sweep

end MapScript
