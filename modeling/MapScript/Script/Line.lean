import MapScript.Script.Declaration
import MapScript.Text.Blank
import MapScript.Text.Quoted

set_option autoImplicit false

namespace MapScript.Script

open Text

def cutAtSpace (cs : List Char) : List Char × Option (List Char) :=
  match cs.dropWhile (· != ' ') with
  | [] => (cs.takeWhile (· != ' '), none)
  | _ :: rest => (cs.takeWhile (· != ' '), some rest)

/-- The untrimmed arguments, from the characters of the first one read so far (in reverse). -/
def argumentsAfter : List Char → List Char → List (List Char)
  | piece, [] => [piece.reverse]
  | piece, '\\' :: ',' :: rest => argumentsAfter (',' :: piece) rest
  -- Any other backslash stays, and what it precedes is not looked at.
  | piece, '\\' :: c :: rest => argumentsAfter (c :: '\\' :: piece) rest
  | piece, ',' :: rest => piece.reverse :: argumentsAfter [] rest
  | piece, c :: rest => argumentsAfter (c :: piece) rest

def splitArguments (cs : List Char) : List String :=
  (argumentsAfter [] cs).map fun piece => String.ofList (trim piece)

inductive LineError where
  | unknownOperator (slot word line : String)
  | conditionTypeMissing (slot line : String)
  | actionTypeMissing (slot line : String)
  deriving DecidableEq, Repr

def LineError.chain : LineError → List String
  | .unknownOperator slot word line =>
    [slot ++ ": unknown condition operator " ++ quoted word ++ " in " ++ quoted line,
      "Matching variant not found"]
  | .conditionTypeMissing slot line => [slot ++ ": condition type missing in " ++ quoted line]
  | .actionTypeMissing slot line => [slot ++ ": action type missing in " ++ quoted line]

def parameterList (rest : Option (List Char)) : List String :=
  match rest with
  | some text => splitArguments text
  | none => []

def parseCondition (slot line : String) : Except LineError Condition :=
  let (word, rest) := cutAtSpace (trim line.toList)
  match Operator.ofWord? (String.ofList word) with
  | none => .error (.unknownOperator slot (String.ofList word) line)
  | some operator =>
    match rest.map cutAtSpace with
    | none => .error (.conditionTypeMissing slot line)
    | some (kind, parameters) =>
      if kind.isEmpty then .error (.conditionTypeMissing slot line)
      else .ok ⟨String.ofList kind, operator, parameterList parameters, slot⟩

def parseAction (slot line : String) : Except LineError Action :=
  let (kind, parameters) := cutAtSpace (trim line.toList)
  if kind.isEmpty then .error (.actionTypeMissing slot line)
  else .ok ⟨String.ofList kind, parameterList parameters, slot⟩

end MapScript.Script
