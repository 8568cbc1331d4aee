import MapScript.Catalog.VariableStore
import MapScript.Engine.Handler

set_option autoImplicit false

namespace MapScript.Conditions

open Number Text

variable {W : Type} [VariableStore W]

def verdict (inquiry : Inquiry W) (result : Bool) : Verdict :=
  ⟨inquiry.memory, [], .ok result⟩

def failed (inquiry : Inquiry W) (cause : Failure) : Verdict :=
  ⟨inquiry.memory, [], .error cause⟩

def variableSet (inquiry : Inquiry W) (condition : Condition) : Verdict :=
  match (Arguments.ofParameters condition.parameters).pair 0 "key:value" with
  | .error e => failed inquiry (.ofArgument e)
  | .ok (key, expected) =>
    verdict inquiry (VariableStore.lookup inquiry.world key = some expected)

structure Lead where
  highest : Real64
  leaders : List String
  deriving DecidableEq, Repr

def Lead.none : Lead := ⟨.infinity true, []⟩

def Lead.compete (lead : Lead) (name : String) (value : Real64) : Lead :=
  -- Against what is no number both tests fail, so it never leads.
  if lead.highest.lt value then ⟨value, [name]⟩
  else if value.eq lead.highest then { lead with leaders := lead.leaders ++ [name] }
  else lead

def leadOf (world : W) : List String → Lead → Except Failure Lead
  | [], lead => .ok lead
  | name :: rest, lead =>
    match VariableStore.lookup world name with
    | .none => leadOf world rest lead
    | some raw =>
      match readBinary (trim raw.toList) with
      | some value => leadOf world rest (lead.compete name value)
      | .none =>
        .error ⟨"variable `" ++ name ++ "` is not a number: " ++ quoted raw, []⟩

def warning (message : String) (fields : List (String × String)) : Record :=
  ⟨.warn, "events::conditions", message, fields⟩

def highestVerdict (inquiry : Inquiry W) (key : String) (candidates : List String) : Verdict :=
  -- With the key unset the numbers are not read, so a bad one goes unnoticed.
  if (VariableStore.lookup inquiry.world key).isNone then
    ⟨inquiry.memory, [warning "variable is not set" [("key", key)]], .ok false⟩
  else
    match leadOf inquiry.world candidates .none with
    | .error cause => failed inquiry cause
    | .ok lead =>
      let shared := if 1 < lead.leaders.length then
        [warning "multiple variables share the highest value"
          [("leaders", quotedList lead.leaders), ("highest", lead.highest.text)]]
      else []
      ⟨inquiry.memory, shared, .ok (lead.leaders.head? = some key)⟩

def variableHighest (inquiry : Inquiry W) (condition : Condition) : Verdict :=
  let arguments := Arguments.ofParameters condition.parameters
  match arguments.text 0 "key", arguments.list 1 "candidates" with
  | .error e, _ => failed inquiry (.ofArgument e)
  | _, .error e => failed inquiry (.ofArgument e)
  | .ok key, .ok candidates => highestVerdict inquiry key candidates

def changedName : String := "variable_changed"

def memoryKey (event : Event) (condition : Condition) : String :=
  event.id.render ++ "/" ++ condition.slot

/-- True when the variable differs from what the previous test saw; the first test only sees. -/
def variableChanged (inquiry : Inquiry W) (condition : Condition) : Verdict :=
  match (Arguments.ofParameters condition.parameters).text 0 "key" with
  | .error e => failed inquiry (.ofArgument e)
  | .ok key =>
    let now := Value.ofOption (VariableStore.lookup inquiry.world key)
    let place := memoryKey inquiry.event condition
    let changed := match inquiry.memory.value? changedName place with
      | some before => !before.same now
      | none => false
    ⟨inquiry.memory.store changedName place now, [], .ok changed⟩

def tests : List (String × ConditionTest W) :=
  [("variable_set", variableSet), ("variable_highest", variableHighest),
    (changedName, variableChanged)]

end MapScript.Conditions
