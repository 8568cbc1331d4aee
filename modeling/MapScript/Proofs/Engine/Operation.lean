import MapScript.Engine.OneShot
import MapScript.Engine.Update

set_option autoImplicit false

namespace MapScript

open Number

variable {W A : Type}

inductive Operation (W A : Type) where
  | loadScope (scope : Scope)
  | reset
  | startEvent (event : Event)
  | update (world : W) (dt : Seconds)
  | execute (polls : Nat) (world : W) (name : String) (parameters : List String) (skip : Bool)
      (step : Seconds)
  | cancelEvent (id : EventId)
  | cancelAllEvents
  | cancelCurrentAction (id : EventId)
  | checkCondition (world : W) (event : Event) (condition : Condition) (dt : Seconds)
  | configure (settings : Settings)
  | registerAction (name : String) (factory : ActionFactory A)
  | registerCondition (name : String) (test : ConditionTest W)
  | replaceActions (actions : Dictionary (ActionFactory A))
  | replaceConditions (conditions : Dictionary (ConditionTest W))
  | remember (memory : Memory)

namespace Operation

def isUpdate : Operation W A → Bool
  | update _ _ => true
  | _ => false

def drives : Operation W A → Bool
  | update _ _ => true
  | execute _ _ _ _ _ _ => true
  | _ => false

def cancels (id : EventId) : Operation W A → Bool
  | cancelEvent other => other = id
  | cancelAllEvents => true
  | _ => false

end Operation

inductive Answer (W : Type) where
  | done
  | flag (value : Bool)
  | tested (result : Except EngineError Bool)
  | updated (world : W) (result : Except EngineError Unit)
  | executed (world : W) (ending : Ending)

structure Performed (W A : Type) where
  engine : Engine W A
  journal : Journal
  answer : Answer W

namespace Engine

def perform [ActionHandler W A] (engine : Engine W A) : Operation W A → Performed W A
  | .loadScope scope => ⟨(engine.loadScope scope).1, (engine.loadScope scope).2, .done⟩
  | .reset => ⟨engine.reset.1, engine.reset.2, .done⟩
  | .startEvent event =>
    let (started, next, notices) := engine.startEvent event
    ⟨next, notices, .flag started⟩
  | .update world dt =>
    let updated := engine.update world dt
    ⟨updated.engine, updated.journal, .updated updated.world updated.result⟩
  | .execute polls world name parameters skip step =>
    let executed := engine.execute polls world name parameters skip step
    ⟨executed.engine, executed.journal, .executed executed.world executed.ending⟩
  | .cancelEvent id =>
    let (found, next, notices) := engine.cancelEvent id
    ⟨next, notices, .flag found⟩
  | .cancelAllEvents => ⟨engine.cancelAllEvents.1, engine.cancelAllEvents.2, .done⟩
  | .cancelCurrentAction id =>
    let (stopped, next, notices) := engine.cancelCurrentAction id
    ⟨next, notices, .flag stopped⟩
  | .checkCondition world event condition dt =>
    let checked := engine.checkCondition world event condition dt
    ⟨checked.engine, checked.journal, .tested checked.result⟩
  | .configure settings => ⟨{ engine with settings }, [], .done⟩
  | .registerAction name factory =>
    ⟨(engine.registerAction name factory).1, (engine.registerAction name factory).2, .done⟩
  | .registerCondition name test =>
    ⟨(engine.registerCondition name test).1, (engine.registerCondition name test).2, .done⟩
  | .replaceActions actions => ⟨{ engine with actions }, [], .done⟩
  | .replaceConditions conditions => ⟨{ engine with conditions }, [], .done⟩
  | .remember memory => ⟨engine.withMemory memory, [], .done⟩

def run [ActionHandler W A] (engine : Engine W A) : List (Operation W A) → Engine W A × Journal
  | [] => (engine, [])
  | operation :: rest =>
    let first := engine.perform operation
    let later := run first.engine rest
    (later.1, first.journal ++ later.2)

theorem run_append [ActionHandler W A] (engine : Engine W A) (first later : List (Operation W A)) :
    engine.run (first ++ later) =
      (((engine.run first).1.run later).1,
        (engine.run first).2 ++ ((engine.run first).1.run later).2) := by
  induction first generalizing engine with
  | nil => rfl
  | cons operation rest ih => simp [run, ih]

theorem run_singleton [ActionHandler W A] (engine : Engine W A) (operation : Operation W A) :
    engine.run [operation] =
      ((engine.perform operation).engine, (engine.perform operation).journal) := by
  simp [run]

end Engine

end MapScript
