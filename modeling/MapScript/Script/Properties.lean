import MapScript.Script.Line
import MapScript.Text.NaturalOrder

set_option autoImplicit false

namespace MapScript.Script

open Text

structure Lines where
  conditions : List Condition
  actions : List Action
  deriving DecidableEq, Repr

def isConditionKey (key : String) : Bool :=
  "cond".toList.isPrefixOf key.toList

def isActionKey (key : String) : Bool :=
  "act".toList.isPrefixOf key.toList

def readLines : List (String × String) → Except LineError Lines
  | [] => .ok ⟨[], []⟩
  | (key, line) :: rest =>
    if isConditionKey key then
      match parseCondition key line with
      | .error e => .error e
      | .ok condition => (readLines rest).map fun lines =>
        { lines with conditions := condition :: lines.conditions }
    else if isActionKey key then
      match parseAction key line with
      | .error e => .error e
      | .ok action => (readLines rest).map fun lines =>
        { lines with actions := action :: lines.actions }
    else readLines rest

def inNaturalOrder (properties : List (String × String)) : List (String × String) :=
  properties.mergeSort fun a b => naturalLE a.1 b.1

def parseProperties (properties : List (String × String)) : Except LineError Lines :=
  readLines (inNaturalOrder properties)

end MapScript.Script
