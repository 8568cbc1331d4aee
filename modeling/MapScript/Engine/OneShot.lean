import MapScript.Engine.Basic

set_option autoImplicit false

namespace MapScript

open Number

variable {W A : Type}

/-- A run in progress; the notices stand with the newest first. -/
structure OneShot (W A : Type) where
  action : A
  scene : Scene W
  backlog : List Notice

inductive Ending where
  | finished
  | failed (cause : EngineError)
  | unfinished
  deriving DecidableEq, Repr

namespace OneShot

def after {B : Type} (s : OneShot W A) (called : Called W A B) : OneShot W A :=
  ⟨called.action, called.scene, called.journal.reverse ++ s.backlog⟩

def stop [ActionHandler W A] (name : String) (s : OneShot W A) : OneShot W A :=
  let (action, records) := @ActionHandler.cancel W A _ s.action
  let notices := .oneShotAbandoned name :: records.map Notice.said ++
    [.called ⟨none, 0, name, .cancel, .finished, false⟩]
  ⟨action, s.scene, notices.reverse ++ s.backlog⟩

def cleanUp [ActionHandler W A] (name : String) (step : Seconds) (s : OneShot W A) :
    OneShot W A × Ending :=
  let called := callHook name .cleanup .cleanup 0 ⟨none, step⟩ ActionHandler.cleanup s.action
    s.scene
  match called.result with
  | .ok _ => (s.after called, .finished)
  | .error cause => (s.after called, .failed cause)

def proceed [ActionHandler W A] (name : String) (step : Seconds) (token : ScopeToken) :
    Nat → Bool → OneShot W A → OneShot W A × Ending
  | polls, done, s =>
    -- A stale action is cancelled rather than cleaned up, also when it is done.
    if s.scene.state.token ≠ token then (s.stop name, .finished)
    else if done then s.cleanUp name step
    else
      match polls with
      | 0 => (s, .unfinished)
      | polls + 1 =>
        let called := callHook name .update .update 0 ⟨none, step⟩ ActionHandler.update s.action
          s.scene
        match called.result with
        | .ok status => proceed name step token polls (status = .done) (s.after called)
        | .error cause => (s.after called, .failed cause)

def run [ActionHandler W A] (polls : Nat) (name : String) (skip : Bool) (step : Seconds)
    (action : A) (scene : Scene W) : OneShot W A × Ending :=
  let called := callHook name .start .start 0 ⟨none, step⟩ ActionHandler.start action scene
  let begun : OneShot W A := ⟨called.action, called.scene, called.journal.reverse⟩
  match called.result with
  | .ok _ => proceed name step scene.state.token polls skip begun
  | .error cause => (begun, .failed cause)

end OneShot

structure Executed (W A : Type) where
  engine : Engine W A
  world : W
  journal : Journal
  ending : Ending

namespace Engine

def consoleStep : Seconds :=
  Binary.ofFraction false 1 60

/-- Runs an action with at most `polls` updates; with `skip` it is cleaned up without any. -/
def execute [ActionHandler W A] (polls : Nat) (engine : Engine W A) (world : W) (name : String)
    (parameters : List String) (skip : Bool) (step : Seconds) : Executed W A :=
  match createAction engine.actions none 0 name parameters with
  | (.error cause, notices) => ⟨engine, world, notices, .failed cause⟩
  | (.ok action, notices) =>
    let (shot, ending) := OneShot.run polls name skip step action
      ⟨world, Dictionary.empty, engine.state⟩
    let state := shot.scene.state
    -- The running events belong to the scope that was current before.
    let kept := if state.token = engine.state.token then engine.running else []
    let (running, cancelled) := applyRequests W state.requests kept
    let failure := match ending with
      | .failed cause => [.oneShotFailed name cause]
      | _ => []
    { engine := { engine with state := { state with requests := [] }, running := running }
      world := shot.scene.world
      journal := notices ++ shot.backlog.reverse ++ cancelled ++ failure
      ending := ending }

end Engine

end MapScript
