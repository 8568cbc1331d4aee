import MapScript.Dictionary

set_option autoImplicit false

namespace MapScript

class VariableStore (W : Type) where
  lookup : W → String → Option String
  assign : W → String → String → W
  listing : W → List (String × String)

/-- A store in which a variable holds what was last set. -/
class LawfulVariableStore (W : Type) [VariableStore W] : Prop where
  lookup_assign_self : ∀ (w : W) (key value : String),
    VariableStore.lookup (VariableStore.assign w key value) key = some value
  lookup_assign_of_ne : ∀ (w : W) (key other value : String), other ≠ key →
    VariableStore.lookup (VariableStore.assign w key value) other =
      VariableStore.lookup w other

abbrev Variables := Dictionary String

instance : VariableStore Variables where
  lookup := Dictionary.find?
  assign := Dictionary.insert
  listing := Dictionary.toList

instance : LawfulVariableStore Variables where
  lookup_assign_self w key value := Dictionary.find?_insert_self w key value
  lookup_assign_of_ne w _ _ value h := Dictionary.find?_insert_of_ne w value h

end MapScript
