import MapScript.Engine.ScopeState

set_option autoImplicit false

namespace MapScript

open Number

structure Moment where
  event : Option EventId
  dt : Seconds
  deriving DecidableEq, Repr

structure Scene (W : Type) where
  world : W
  locals : Dictionary Value
  state : ScopeState

inductive Status where
  | running
  | done
  deriving DecidableEq, Repr

/-- What a hook leaves behind. It leaves it also when it fails. -/
structure Outcome (W A B : Type) where
  action : A
  world : W
  locals : Dictionary Value
  effects : List Effect
  result : Except Failure B

/-- The life of an action. The cancel hook touches nothing but the action itself. -/
class ActionHandler (W A : Type) where
  start : A → Moment → Scene W → Outcome W A Unit
  update : A → Moment → Scene W → Outcome W A Status
  cleanup : A → Moment → Scene W → Outcome W A Unit
  cancel : A → A × List Record

structure Inquiry (W : Type) where
  world : W
  memory : Memory
  event : Event
  dt : Seconds

structure Verdict where
  memory : Memory
  records : List Record
  result : Except Failure Bool

abbrev ConditionTest (W : Type) := Inquiry W → Condition → Verdict

abbrev ActionFactory (A : Type) := Arguments → Except ArgumentError A

variable {W A B C : Type}

def createAction (factories : Dictionary (ActionFactory A)) (owner : Option EventId) (slot : Nat)
    (name : String) (parameters : List String) : Except EngineError A × Journal :=
  match factories.find? name with
  | none => (.error (.unregisteredAction name), [.actionMissing name])
  | some factory =>
    match factory (Arguments.ofParameters parameters) with
    | .ok action => (.ok action, [.actionCreated owner slot name])
    | .error cause =>
      (.error (.malformedArguments name cause), [.argumentsRefused name parameters cause])

structure Called (W A B : Type) where
  action : A
  scene : Scene W
  journal : Journal
  result : Except EngineError B

class Replies (B : Type) where
  reply : B → Reply

instance : Replies Unit := ⟨fun _ => .finished⟩

instance : Replies Status := ⟨fun
  | .running => .running
  | .done => .finished⟩

def replyOf [Replies B] : Except Failure B → Reply
  | .ok value => Replies.reply value
  | .error _ => .failed

def callHook [Replies B] (kind : String) (phase : Phase) (hook : Hook) (slot : Nat)
    (moment : Moment) (run : A → Moment → Scene W → Outcome W A B) (action : A)
    (scene : Scene W) : Called W A B :=
  let outcome := run action moment scene
  let (state, notices) := scene.state.applyAll outcome.effects
  { action := outcome.action
    scene := ⟨outcome.world, outcome.locals, state⟩
    journal := notices ++
      [.called ⟨moment.event, slot, kind, hook, replyOf outcome.result,
        state.token ≠ scene.state.token⟩]
    result := outcome.result.mapError (.handler kind phase moment.event) }

def Outcome.mapAction (f : A → C) (outcome : Outcome W A B) : Outcome W C B :=
  { action := f outcome.action
    world := outcome.world
    locals := outcome.locals
    effects := outcome.effects
    result := outcome.result }

instance [ActionHandler W A] [ActionHandler W B] : ActionHandler W (A ⊕ B) where
  start
    | .inl a, moment, scene => (ActionHandler.start a moment scene).mapAction .inl
    | .inr b, moment, scene => (ActionHandler.start b moment scene).mapAction .inr
  update
    | .inl a, moment, scene => (ActionHandler.update a moment scene).mapAction .inl
    | .inr b, moment, scene => (ActionHandler.update b moment scene).mapAction .inr
  cleanup
    | .inl a, moment, scene => (ActionHandler.cleanup a moment scene).mapAction .inl
    | .inr b, moment, scene => (ActionHandler.cleanup b moment scene).mapAction .inr
  cancel
    | .inl a => let (a, records) := @ActionHandler.cancel W A _ a; (.inl a, records)
    | .inr b => let (b, records) := @ActionHandler.cancel W B _ b; (.inr b, records)

end MapScript
