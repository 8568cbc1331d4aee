import MapScript.Value

set_option autoImplicit false

namespace MapScript

open Number

structure EventId where
  number : UInt32
  deriving DecidableEq, Repr

def EventId.render (id : EventId) : String :=
  "#" ++ String.ofList (writeInteger id.number.toNat)

structure Area where
  x : Int32
  y : Int32
  width : UInt32
  height : UInt32
  deriving DecidableEq, Repr

def Area.contains (area : Area) (x y : Int32) : Bool :=
  area.x.toInt ≤ x.toInt && area.y.toInt ≤ y.toInt &&
    x.toInt < area.x.toInt + area.width.toNat && y.toInt < area.y.toInt + area.height.toNat

inductive Operator where
  | is
  | not
  deriving DecidableEq, Repr

namespace Operator

def word : Operator → String
  | .is => "is"
  | .not => "not"

def ofWord? (s : String) : Option Operator :=
  if s = "is" then some .is else if s = "not" then some .not else none

def apply : Operator → Bool → Bool
  | .is, raw => raw
  | .not, raw => !raw

end Operator

def joinParameters (parameters : List String) : String :=
  if parameters.isEmpty then "" else " " ++ String.intercalate "," parameters

/-- A condition line; its slot also names what the condition remembers. -/
structure Condition where
  kind : String
  operator : Operator
  parameters : List String
  slot : String
  deriving DecidableEq, Repr

def Condition.render (condition : Condition) : String :=
  condition.operator.word ++ " " ++ condition.kind ++ joinParameters condition.parameters

structure Action where
  kind : String
  parameters : List String
  slot : String
  deriving DecidableEq, Repr

def Action.render (action : Action) : String :=
  action.kind ++ joinParameters action.parameters

structure Event where
  id : EventId
  name : String
  area : Option Area
  conditions : List Condition
  actions : List Action
  deriving DecidableEq, Repr

/-- The identity of a loaded scope: every load and every reset moves to the next token. -/
structure ScopeToken where
  number : UInt64
  deriving DecidableEq, Repr

def ScopeToken.next (token : ScopeToken) : ScopeToken :=
  ⟨token.number + 1⟩

/-- The active map: the inits start once each, the events are tested in every frame. -/
structure Scope where
  name : String
  inits : List Event
  events : List Event
  deriving DecidableEq, Repr

def Scope.hasInit (scope : Scope) (id : EventId) : Bool :=
  scope.inits.any fun event => event.id = id

def Scope.retireInit (scope : Scope) (id : EventId) : Scope :=
  { scope with inits := scope.inits.filter fun event => event.id ≠ id }

end MapScript
