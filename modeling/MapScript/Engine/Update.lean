import MapScript.Engine.Intake
import MapScript.Engine.Sweep

set_option autoImplicit false

namespace MapScript

open Number

variable {W A : Type}

structure Updated (W A : Type) where
  engine : Engine W A
  world : W
  journal : Journal
  result : Except EngineError Unit

namespace Engine

def sweep [ActionHandler W A] (engine : Engine W A) (world : W) (dt : Seconds) : Updated W A :=
  let swept := Sweep.run engine.actions engine.settings.failurePolicy dt
    ⟨engine.running, [], world, engine.state⟩
  { engine := { engine with running := swept.sweep.running, state := swept.sweep.state }
    world := swept.sweep.world
    journal := swept.journal
    result := swept.result }

def update [ActionHandler W A] (engine : Engine W A) (world : W) (dt : Seconds) : Updated W A :=
  let taken := ({ engine with trace := [] }).intake world dt
  match taken.result with
  -- The events that were started before the failing condition stay for the next frame.
  | .error cause => ⟨taken.engine, world, taken.journal, .error cause⟩
  | .ok _ =>
    let swept := taken.engine.sweep world dt
    { swept with journal := taken.journal ++ swept.journal }

end Engine

end MapScript
