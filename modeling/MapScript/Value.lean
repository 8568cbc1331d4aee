import MapScript.Number.Decimal

set_option autoImplicit false

namespace MapScript

open Number

inductive Value where
  | null
  | bool (b : Bool)
  | int (n : Int64)
  | float (x : Real64)
  | text (s : String)
  | list (items : List Value)

namespace Value

def isNull : Value → Bool
  | null => true
  | _ => false

def asBool : Value → Option Bool
  | bool b => some b
  | _ => none

def asInt : Value → Option Int64
  | int n => some n
  | _ => none

def asFloat : Value → Option Real64
  | float x => some x
  | int n => some (Binary.ofInt n.toInt)
  | _ => none

def asText : Value → Option String
  | text s => some s
  | _ => none

def asList : Value → Option (List Value)
  | list items => some items
  | _ => none

def ofOption (s : Option String) : Value :=
  match s with
  | some s => text s
  | none => null

mutual

def render : Value → String
  | null => "null"
  | bool b => if b then "true" else "false"
  | int n => String.ofList (writeInteger n.toInt)
  | float x => x.text
  | text s => s
  | list items => "[" ++ renderItems items ++ "]"

def renderItems : List Value → String
  | [] => ""
  | [item] => render item
  | item :: rest => render item ++ ", " ++ renderItems rest

end

mutual

def same : Value → Value → Bool
  | null, null => true
  | bool a, bool b => a == b
  | int m, int n => m == n
  | float x, float y => x.eq y
  | text s, text t => s == t
  | list xs, list ys => sameItems xs ys
  | _, _ => false

def sameItems : List Value → List Value → Bool
  | [], [] => true
  | x :: xs, y :: ys => same x y && sameItems xs ys
  | _, _ => false

end

end Value

end MapScript
