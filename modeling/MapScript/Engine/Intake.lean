import MapScript.Engine.Basic

set_option autoImplicit false

namespace MapScript

open Number

variable {W A : Type}

structure Tested (B : Type) where
  memory : Memory
  journal : Journal
  result : Except EngineError B

def testCondition (tests : Dictionary (ConditionTest W)) (world : W) (dt : Seconds) (event : Event)
    (condition : Condition) (memory : Memory) : Tested Bool :=
  match tests.find? condition.kind with
  | none =>
    ⟨memory, [.conditionMissing condition.kind], .error (.unregisteredCondition condition.kind)⟩
  | some test =>
    let verdict := test ⟨world, memory, event, dt⟩ condition
    let said := verdict.records.map Notice.said
    match verdict.result with
    | .error cause =>
      ⟨verdict.memory, said, .error (.handler condition.kind .test (some event.id) cause)⟩
    | .ok raw =>
      let result := condition.operator.apply raw
      ⟨verdict.memory, said ++ [.conditionTested event.id condition result], .ok result⟩

/-- One condition of a frame: if failures drop events, a failing condition does not hold. -/
def judgeCondition (settings : Settings) (tests : Dictionary (ConditionTest W)) (world : W)
    (dt : Seconds) (event : Event) (condition : Condition) (memory : Memory) : Tested Bool :=
  let tested := testCondition tests world dt event condition memory
  match tested.result, settings.failurePolicy with
  | .error cause, .dropEvent =>
    { tested with
      journal := tested.journal ++ [.conditionFailed event.id condition cause]
      result := .ok false }
  | _, _ => tested

def allHold (judge : Condition → Memory → Tested Bool) :
    List Condition → Memory → Tested Bool
  | [], memory => ⟨memory, [], .ok true⟩
  | condition :: rest, memory =>
    let tested := judge condition memory
    match tested.result with
    | .error cause => ⟨tested.memory, tested.journal, .error cause⟩
    | .ok false => ⟨tested.memory, tested.journal, .ok false⟩
    | .ok true =>
      let later := allHold judge rest tested.memory
      { later with journal := tested.journal ++ later.journal }

def resultsFrom (judge : Condition → Memory → Tested Bool) :
    Nat → List Condition → Memory → Tested (List ConditionResult)
  | _, [], memory => ⟨memory, [], .ok []⟩
  | index, condition :: rest, memory =>
    let tested := judge condition memory
    match tested.result with
    | .error cause => ⟨tested.memory, tested.journal, .error cause⟩
    | .ok passed =>
      let later := resultsFrom judge (index + 1) rest tested.memory
      { memory := later.memory
        journal := tested.journal ++ later.journal
        result := later.result.map (⟨index, passed⟩ :: ·) }

namespace Engine

structure Advanced (W A B : Type) where
  engine : Engine W A
  journal : Journal
  result : Except EngineError B

def judge (engine : Engine W A) (world : W) (dt : Seconds) (event : Event) :
    Condition → Memory → Tested Bool :=
  judgeCondition engine.settings engine.conditions world dt event

def withMemory (engine : Engine W A) (memory : Memory) : Engine W A :=
  { engine with state := { engine.state with memory } }

def conditionsMet (engine : Engine W A) (world : W) (dt : Seconds) (event : Event) :
    Advanced W A Bool :=
  if engine.settings.debugConditions then
    let tested := resultsFrom (engine.judge world dt event) 0 event.conditions engine.state.memory
    let after := engine.withMemory tested.memory
    match tested.result with
    -- An error leaves no evaluation, but the memory of the conditions before it.
    | .error cause => ⟨after, tested.journal, .error cause⟩
    | .ok results =>
      let evaluation : Evaluation := ⟨event, results⟩
      ⟨{ after with trace := after.trace ++ [evaluation] }, tested.journal, .ok evaluation.passed⟩
  else
    let tested := allHold (engine.judge world dt event) event.conditions engine.state.memory
    ⟨engine.withMemory tested.memory, tested.journal, tested.result⟩

def startSatisfied (world : W) (dt : Seconds) : List Event → Engine W A → Advanced W A Unit
  | [], engine => ⟨engine, [], .ok ()⟩
  | event :: rest, engine =>
    let met := engine.conditionsMet world dt event
    match met.result with
    | .error cause => ⟨met.engine, met.journal, .error cause⟩
    | .ok holds =>
      -- An event whose id is running is tested all the same and not started again.
      let (engine, notices) := if holds then (met.engine.startEvent event).2 else (met.engine, [])
      let later := startSatisfied world dt rest engine
      { later with journal := met.journal ++ notices ++ later.journal }

def declarations (engine : Engine W A) : List Event :=
  match engine.state.scope with
  | some scope => scope.inits ++ scope.events
  | none => []

def intake (engine : Engine W A) (world : W) (dt : Seconds) : Advanced W A Unit :=
  startSatisfied world dt engine.declarations engine

def checkCondition (engine : Engine W A) (world : W) (event : Event) (condition : Condition)
    (dt : Seconds) : Advanced W A Bool :=
  let tested := testCondition engine.conditions world dt event condition engine.state.memory
  ⟨engine.withMemory tested.memory, tested.journal, tested.result⟩

end Engine

end MapScript
