import MapScript.Catalog.VariableStore
import MapScript.Engine.Handler

set_option autoImplicit false

namespace MapScript

open Number Text

inductive Builtin where
  | setVariable (key value : String)
  | incrementVariable (key : String) (amount : Int64)
  | print (keys : List String)
  | wait (seconds elapsed : Seconds)
  | setContext (key value : String)
  | copyContext (key target : String)
  | cancelEvent (id : EventId)
  | resetScope
  deriving DecidableEq, Repr

namespace Builtin

variable {W : Type} [VariableStore W]

def readSetVariable (a : Arguments) : Except ArgumentError Builtin := do
  a.atMost 1
  let (key, value) ← a.pair 0 "key:value"
  return .setVariable key value

def readIncrement (a : Arguments) : Except ArgumentError Builtin := do
  a.atMost 2
  let key ← a.text 0 "key"
  let amount ← a.optional Int64 1 "amount"
  return .incrementVariable key (amount.getD 1)

def readPrint (a : Arguments) : Except ArgumentError Builtin := do
  a.atMost 1
  if (a.raw? 0).getD "" = "" then return .print []
  let keys ← a.list 0 "variables"
  return .print keys

def readWait (a : Arguments) : Except ArgumentError Builtin := do
  a.atMost 1
  let seconds ← a.required Seconds 0 "seconds"
  if !seconds.isFinite || seconds.lt .zero then
    throw (.invalid 0 "seconds" seconds.text "non-negative seconds")
  return .wait seconds .zero

def readSetContext (a : Arguments) : Except ArgumentError Builtin := do
  a.atMost 2
  let key ← a.text 0 "key"
  return .setContext key ((a.raw? 1).getD "")

def readCopyContext (a : Arguments) : Except ArgumentError Builtin := do
  a.atMost 2
  let key ← a.text 0 "key"
  let target ← a.text 1 "variable"
  return .copyContext key target

def readCancelEvent (a : Arguments) : Except ArgumentError Builtin := do
  a.atMost 1
  let id ← a.required UInt32 0 "id"
  return .cancelEvent ⟨id⟩

def readResetScope (a : Arguments) : Except ArgumentError Builtin := do
  a.atMost 0
  return .resetScope

def counted (key : String) : Option String → Except Failure Int
  | none => .ok 0
  | some raw =>
    if raw = "" then .ok 0
    else
      match readInteger (signedRange 64).1 (signedRange 64).2 (trim raw.toList) with
      | .ok n => .ok n
      | .error cause =>
        .error ⟨"variable `" ++ key ++ "` is not an integer: " ++ quoted raw, [cause.message]⟩

def incremented (key : String) (amount : Int64) (old : Option String) : Except Failure String :=
  match counted key old with
  | .error cause => .error cause
  | .ok n =>
    let sum := n + amount.toInt
    if (signedRange 64).1 ≤ sum ∧ sum ≤ (signedRange 64).2 then
      .ok (String.ofList (writeInteger sum))
    else .error ⟨"variable `" ++ key ++ "` overflowed", []⟩

def printRecord (message : String) (fields : List (String × String)) : Effect :=
  .say ⟨.info, "events::print", message, fields⟩

def printed (world : W) : List String → List Effect
  | [] =>
    match VariableStore.listing world with
    | [] => [printRecord "no variables have been set" []]
    | all => all.map fun (key, value) => printRecord "variable" [("key", key), ("value", value)]
  | keys => keys.map fun key =>
    match VariableStore.lookup world key with
    | some value => printRecord "variable" [("key", key), ("value", value)]
    | none => printRecord "variable has not been set" [("key", key)]

def idle {B : Type} (b : Builtin) (scene : Scene W) (result : B) : Outcome W Builtin B :=
  ⟨b, scene.world, scene.locals, [], .ok result⟩

def start (b : Builtin) (_ : Moment) (scene : Scene W) : Outcome W Builtin Unit :=
  let done := b.idle scene ()
  match b with
  | .setVariable key value =>
    { done with world := VariableStore.assign scene.world key value }
  | .incrementVariable key amount =>
    match incremented key amount (VariableStore.lookup scene.world key) with
    | .ok value => { done with world := VariableStore.assign scene.world key value }
    | .error cause => { done with result := .error cause }
  | .print keys => { done with effects := printed scene.world keys }
  | .wait seconds _ => { done with action := .wait seconds .zero }
  | .setContext key value => { done with locals := scene.locals.insert key (.text value) }
  | .copyContext key target =>
    match scene.locals.find? key with
    | some value =>
      { done with world := VariableStore.assign scene.world target value.render }
    | none => { done with result := .error ⟨"context entry `" ++ key ++ "` is not set", []⟩ }
  | .cancelEvent id => { done with effects := [.cancelEvent id] }
  | .resetScope => { done with effects := [.reset] }

/-- A wait counts the whole time of the frame, also of the frame it was entered in. -/
def update (b : Builtin) (moment : Moment) (scene : Scene W) : Outcome W Builtin Status :=
  match b with
  | .wait seconds elapsed =>
    -- The sum is rounded each time, so a short step can leave it where it is.
    let now := elapsed + moment.dt
    idle (.wait seconds now) scene (if seconds.le now then .done else .running)
  | b => b.idle scene .done

instance : ActionHandler W Builtin where
  start := start
  update := update
  cleanup b _ scene := b.idle scene ()
  cancel b := (b, [])

def factories : List (String × ActionFactory Builtin) :=
  [("set_variable", readSetVariable), ("increment_variable", readIncrement), ("print", readPrint),
    ("wait", readWait), ("set_context", readSetContext), ("copy_context", readCopyContext),
    ("cancel_event", readCancelEvent), ("reset_scope", readResetScope)]

end Builtin

end MapScript
