import MapScript.Value

set_option autoImplicit false

namespace MapScript

open Number

inductive Data where
  | null
  | bool (b : Bool)
  | integer (n : Int)
  | float (x : Real64)
  | text (s : String)
  | list (items : List Data)
  | record (fields : List (String × Data))

instance : Inhabited Data := ⟨.null⟩

namespace Data

def asText? : Data → Option String
  | text s => some s
  | _ => none

def asBool? : Data → Option Bool
  | bool b => some b
  | _ => none

def asList? : Data → Option (List Data)
  | list items => some items
  | _ => none

def asRecord? : Data → Option (List (String × Data))
  | record fields => some fields
  | _ => none

def asInteger? (range : Int × Int) : Data → Option Int
  | integer n => if range.1 ≤ n ∧ n ≤ range.2 then some n else none
  | _ => none

def asUInt32? (d : Data) : Option UInt32 :=
  (d.asInteger? (unsignedRange 32)).map fun n => UInt32.ofNat n.toNat

def asInt32? (d : Data) : Option Int32 :=
  (d.asInteger? (signedRange 32)).map Int32.ofInt

def asTexts? (d : Data) : Option (List String) :=
  d.asList?.bind fun items => items.mapM asText?

def asVariant? : Data → Option String
  | text name => some name
  | record [(name, null)] => some name
  | _ => none

def field {A : Type} (fields : List (String × Data)) (name : String)
    (decode : Data → Option A) : Option A :=
  (fields.lookup name).bind decode

def fieldOr {A : Type} (fields : List (String × Data)) (name : String)
    (decode : Data → Option A) (default : A) : Option A :=
  match fields.lookup name with
  | none => some default
  | some d => decode d

end Data

namespace Value

mutual

def ofData? : Data → Option Value
  | .text name => if name = "Null" then some .null else none
  | .record [(name, payload)] => ofVariant? name payload
  | _ => none

def ofVariant? (name : String) : Data → Option Value
  | .null => if name = "Null" then some .null else none
  | .bool b => if name = "Bool" then some (.bool b) else none
  | .integer n =>
    if name = "Int" then
      ((Data.integer n).asInteger? (signedRange 64)).map fun n => .int (Int64.ofInt n)
    else if name = "Float" then some (.float (Binary.ofInt n))
    else none
  | .float x => if name = "Float" then some (.float x) else none
  | .text s => if name = "Text" then some (.text s) else none
  | .list items => if name = "List" then (ofItems? items).map .list else none
  | .record _ => none

def ofItems? : List Data → Option (List Value)
  | [] => some []
  | item :: rest =>
    match ofData? item, ofItems? rest with
    | some value, some values => some (value :: values)
    | _, _ => none

end

end Value

end MapScript
