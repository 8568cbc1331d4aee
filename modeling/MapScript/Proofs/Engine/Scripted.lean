import MapScript.Proofs.Engine.Operation

set_option autoImplicit false

namespace MapScript

structure Deed (B : Type) where
  effects : List Effect
  result : Except Failure B

structure Scripted where
  start : Deed Unit
  update : Deed Status
  cleanup : Deed Unit

namespace Scripted

def perform {B : Type} (a : Scripted) (scene : Scene Unit) (deed : Deed B) :
    Outcome Unit Scripted B :=
  ⟨a, scene.world, scene.locals, deed.effects, deed.result⟩

instance : ActionHandler Unit Scripted where
  start a _ scene := a.perform scene a.start
  update a _ scene := a.perform scene a.update
  cleanup a _ scene := a.perform scene a.cleanup
  cancel a := (a, [])

def idle : Scripted := ⟨⟨[], .ok ()⟩, ⟨[], .ok .done⟩, ⟨[], .ok ()⟩⟩

def engine (a : Scripted) (policy : FailurePolicy) : Engine Unit Scripted :=
  Engine.new (Dictionary.empty.insert "act" fun _ => .ok a) Dictionary.empty ⟨false, policy⟩

def event (id : EventId) : Event :=
  ⟨id, "", none, [], [⟨"act", [], ""⟩]⟩

def scope (inits : List Event) : Scope :=
  ⟨"", inits, []⟩

def guarded (id : UInt32) (conditions : List (String × Operator)) : Event :=
  ⟨⟨id⟩, "", none, conditions.map fun (kind, operator) => ⟨kind, operator, [], ""⟩, []⟩

def tests : Dictionary (ConditionTest Unit) :=
  ((Dictionary.empty.insert "yes" fun inquiry _ =>
      ⟨inquiry.memory.touch "yes", [], .ok true⟩).insert "broken" fun inquiry _ =>
      ⟨inquiry.memory, [], .error ⟨"", []⟩⟩).insert "known" fun inquiry _ =>
      ⟨inquiry.memory, [], .ok !inquiry.memory.isEmpty⟩

end Scripted

end MapScript
