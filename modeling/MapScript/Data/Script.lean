import MapScript.Data.Basic
import MapScript.Settings

set_option autoImplicit false

namespace MapScript

open Data

def Area.ofData? (d : Data) : Option Area := do
  let fields ← d.asRecord?
  let x ← field fields "x" asInt32?
  let y ← field fields "y" asInt32?
  let width ← field fields "width" asUInt32?
  let height ← field fields "height" asUInt32?
  return ⟨x, y, width, height⟩

def optionalArea? : Data → Option (Option Area)
  | .null => some none
  | d => (Area.ofData? d).map some

def Condition.ofData? (d : Data) : Option Condition := do
  let fields ← d.asRecord?
  let kind ← field fields "kind" asText?
  let operator ← fieldOr fields "operator" (fun d => d.asVariant?.bind Operator.ofWord?) .is
  let parameters ← fieldOr fields "parameters" asTexts? []
  let slot ← field fields "slot" asText?
  return ⟨kind, operator, parameters, slot⟩

def Action.ofData? (d : Data) : Option Action := do
  let fields ← d.asRecord?
  let kind ← field fields "kind" asText?
  let parameters ← fieldOr fields "parameters" asTexts? []
  let slot ← field fields "slot" asText?
  return ⟨kind, parameters, slot⟩

def listOf? {A : Type} (decode : Data → Option A) (d : Data) : Option (List A) :=
  d.asList?.bind fun items => items.mapM decode

def Event.ofData? (d : Data) : Option Event := do
  let fields ← d.asRecord?
  let id ← field fields "id" asUInt32?
  let name ← fieldOr fields "name" asText? ""
  let area ← fieldOr fields "area" optionalArea? none
  let conditions ← fieldOr fields "conditions" (listOf? Condition.ofData?) []
  let actions ← fieldOr fields "actions" (listOf? Action.ofData?) []
  return ⟨⟨id⟩, name, area, conditions, actions⟩

def Settings.ofData? (d : Data) : Option Settings := do
  let fields ← d.asRecord?
  let debug ← fieldOr fields "debug_conditions" asBool? Settings.default.debugConditions
  let policy ← fieldOr fields "failure_policy" (fun d => d.asVariant?.bind FailurePolicy.ofWord?)
    Settings.default.failurePolicy
  return ⟨debug, policy⟩

def Area.toData (area : Area) : Data :=
  .record [("x", .integer area.x.toInt), ("y", .integer area.y.toInt),
    ("width", .integer area.width.toNat), ("height", .integer area.height.toNat)]

def textsData (items : List String) : Data :=
  .list (items.map .text)

def Condition.toData (condition : Condition) : Data :=
  .record [("kind", .text condition.kind), ("operator", .text condition.operator.word),
    ("parameters", textsData condition.parameters), ("slot", .text condition.slot)]

def Action.toData (action : Action) : Data :=
  .record [("kind", .text action.kind), ("parameters", textsData action.parameters),
    ("slot", .text action.slot)]

def Event.toData (event : Event) : Data :=
  .record [("id", .integer event.id.number.toNat), ("name", .text event.name),
    ("area", (event.area.map Area.toData).getD .null),
    ("conditions", .list (event.conditions.map Condition.toData)),
    ("actions", .list (event.actions.map Action.toData))]

def Settings.toData (settings : Settings) : Data :=
  .record [("debug_conditions", .bool settings.debugConditions),
    ("failure_policy", .text settings.failurePolicy.word)]

end MapScript
