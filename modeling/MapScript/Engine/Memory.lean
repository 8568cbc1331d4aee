import MapScript.Dictionary
import MapScript.Value

set_option autoImplicit false

namespace MapScript

structure Memory where
  mappings : Dictionary (Dictionary Value)

namespace Memory

def empty : Memory := ⟨Dictionary.empty⟩

instance : Inhabited Memory := ⟨empty⟩

def mapping? (m : Memory) (name : String) : Option (Dictionary Value) :=
  m.mappings.find? name

def mapping (m : Memory) (name : String) : Dictionary Value :=
  (m.mapping? name).getD Dictionary.empty

def touch (m : Memory) (name : String) : Memory :=
  ⟨m.mappings.insert name (m.mapping name)⟩

def value? (m : Memory) (name key : String) : Option Value :=
  (m.mapping name).find? key

def store (m : Memory) (name key : String) (value : Value) : Memory :=
  ⟨m.mappings.insert name ((m.mapping name).insert key value)⟩

def forget (m : Memory) (name key : String) : Memory :=
  match m.mapping? name with
  | none => m
  | some mapping => ⟨m.mappings.insert name (mapping.erase key)⟩

def isEmpty (m : Memory) : Bool :=
  m.mappings.isEmpty

def size (m : Memory) : Nat :=
  m.mappings.size

end Memory

end MapScript
