import MapScript.Dictionary
import MapScript.Ron.Tree
import MapScript.Script.Properties

set_option autoImplicit false

namespace MapScript

open Number Ron

structure EventSource where
  id : UInt32
  name : String
  area : Option Area
  properties : Dictionary String

structure ScopeSource where
  name : String
  inits : List EventSource
  events : List EventSource

namespace ScopeFile

def recordOf (extensions : List Extension) (name : String) :
    Tree → Option (List (String × Tree))
  | .record written fields =>
    if written = name ∨ (written = "" ∧ Extension.explicitStructNames ∉ extensions) then
      some fields
    else none
  | _ => none

def hasRepeats (known : List String) (fields : List (String × Tree)) : Bool :=
  known.any fun name => 1 < (fields.filter fun field => field.1 == name).length

def field {A : Type} (fields : List (String × Tree)) (name : String)
    (decode : Tree → Option A) : Option A :=
  (fields.lookup name).bind decode

def fieldOr {A : Type} (fields : List (String × Tree)) (name : String)
    (decode : Tree → Option A) (default : A) : Option A :=
  match fields.lookup name with
  | none => some default
  | some tree => decode tree

def textOf : Tree → Option String
  | .text s => some s
  | _ => none

def integerOf (suffix : String) (range : Int × Int) : Tree → Option Int
  | .integer n =>
    if n.suffix.all (· == suffix) && isWithin range n.value then some n.value else none
  | _ => none

def unsignedOf (tree : Tree) : Option UInt32 :=
  (integerOf "u32" (unsignedRange 32) tree).map fun n => UInt32.ofNat n.toNat

def signedOf (tree : Tree) : Option Int32 :=
  (integerOf "i32" (signedRange 32) tree).map Int32.ofInt

def areaOfFields (fields : List (String × Tree)) : Option Area := do
  if hasRepeats ["x", "y", "width", "height"] fields then none
  let x ← field fields "x" signedOf
  let y ← field fields "y" signedOf
  let width ← field fields "width" unsignedOf
  let height ← field fields "height" unsignedOf
  return ⟨x, y, width, height⟩

def areaOf (extensions : List Extension) (tree : Tree) : Option Area :=
  (recordOf extensions "Area" tree).bind areaOfFields

/-- How many levels of nesting stand around a field of an event: two each for the scope, the list of
events and the event. -/
def eventFieldLevel : Nat := 6

def optionalArea (extensions : List Extension) : Tree → Option (Option Area)
  | .none => some none
  | .some .word tree => (areaOf extensions tree).map some
  -- The brackets of `Some` are those of the area itself only where that is switched on.
  | .some .brackets tree =>
    if .unwrapVariantNewtypes ∈ extensions then none else (areaOf extensions tree).map some
  | .some .shared (.record _ fields) => (areaOfFields fields).map some
  | .some .shared _ => none
  | tree =>
    -- An area without the word takes the level that the word would take.
    if .implicitSome ∈ extensions ∧ eventFieldLevel + 1 + tree.levels ≤ nestingLimit then
      (areaOf extensions tree).map some
    else none

def propertiesOf : Tree → Option (Dictionary String)
  | .map entries => do
    let pairs ← entries.mapM fun (key, value) => do
      return (← textOf key, ← textOf value)
    return .ofList pairs
  | _ => none

def eventOf (extensions : List Extension) (tree : Tree) : Option EventSource := do
  let fields ← recordOf extensions "EventRon" tree
  if hasRepeats ["id", "name", "area", "properties"] fields then none
  let id ← field fields "id" unsignedOf
  let name ← fieldOr fields "name" textOf ""
  let area ← fieldOr fields "area" (optionalArea extensions) none
  let properties ← fieldOr fields "properties" propertiesOf .empty
  return ⟨id, name, area, properties⟩

def eventsOf (extensions : List Extension) : Tree → Option (List EventSource)
  | .list items => items.mapM (eventOf extensions)
  | _ => none

def scopeOf (document : Document) : Option ScopeSource := do
  let fields ← recordOf document.extensions "ScopeRon" document.tree
  if hasRepeats ["name", "inits", "events"] fields then none
  let name ← field fields "name" textOf
  let inits ← fieldOr fields "inits" (eventsOf document.extensions) []
  let events ← fieldOr fields "events" (eventsOf document.extensions) []
  return ⟨name, inits, events⟩

def read (text : String) : Option ScopeSource :=
  (readDocument text).bind scopeOf

end ScopeFile

inductive ScopeFileError where
  | unreadable
  | duplicateId (id : UInt32) (scope : String)
  | badScript (id : UInt32) (name : String) (cause : Script.LineError)
  deriving DecidableEq, Repr

def ScopeFileError.chain : ScopeFileError → List String
  | .unreadable => ["Failed to parse scope RON"]
  | .duplicateId id scope =>
    ["duplicate event id " ++ String.ofList (writeInteger id.toNat) ++ " in scope " ++
      Text.quoted scope]
  | .badScript id name cause =>
    ("event " ++ String.ofList (writeInteger id.toNat) ++ " (" ++ name ++ ")") :: cause.chain

def firstRepeat : List UInt32 → List UInt32 → Option UInt32
  | _, [] => none
  | seen, id :: rest => if id ∈ seen then some id else firstRepeat (id :: seen) rest

def EventSource.toEvent (source : EventSource) : Except ScopeFileError Event :=
  match Script.parseProperties source.properties.toList with
  | .error cause => .error (.badScript source.id source.name cause)
  | .ok lines => .ok ⟨⟨source.id⟩, source.name, source.area, lines.conditions, lines.actions⟩

def toEvents : List EventSource → Except ScopeFileError (List Event)
  | [] => .ok []
  | source :: rest =>
    match source.toEvent with
    | .error e => .error e
    | .ok event => (toEvents rest).map (event :: ·)

/-- The scope of a file. Repeated ids are found before any script is read. -/
def ScopeSource.toScope (source : ScopeSource) : Except ScopeFileError Scope :=
  match firstRepeat [] ((source.inits ++ source.events).map EventSource.id) with
  | some id => .error (.duplicateId id source.name)
  | none =>
    match toEvents source.inits with
    | .error e => .error e
    | .ok inits => (toEvents source.events).map fun events => ⟨source.name, inits, events⟩

def ScopeFile.parseWith (read : String → Option ScopeSource) (text : String) :
    Except ScopeFileError Scope :=
  match read text with
  | none => .error .unreadable
  | some source => source.toScope

def ScopeFile.parse (text : String) : Except ScopeFileError Scope :=
  ScopeFile.parseWith ScopeFile.read text

end MapScript
