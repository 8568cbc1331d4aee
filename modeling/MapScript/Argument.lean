import MapScript.Script.Declaration
import MapScript.Text.Blank
import MapScript.Text.Quoted

set_option autoImplicit false

namespace MapScript

open Number Text

inductive ArgumentError where
  | missing (position : Nat) (name : String)
  | invalid (position : Nat) (name value expected : String)
  | tooMany (most found : Nat)
  deriving DecidableEq, Repr

def ArgumentError.message : ArgumentError → String
  | .missing position name =>
    "missing parameter `" ++ name ++ "` at position " ++ toString position
  | .invalid position name value expected =>
    "parameter `" ++ name ++ "` at position " ++ toString position ++ ": cannot read " ++
      quoted value ++ " as " ++ expected
  | .tooMany most found =>
    "expected at most " ++ toString most ++ " parameters, found " ++ toString found

class Readable (A : Type) where
  typeName : String
  read? : String → Option A

def readBounded {A : Type} (range : Int × Int) (ofInt : Int → A) (s : String) : Option A :=
  match readInteger range.1 range.2 s.toList with
  | .ok n => some (ofInt n)
  | .error _ => none

instance : Readable Int8 := ⟨"i8", readBounded (signedRange 8) Int8.ofInt⟩
instance : Readable Int32 := ⟨"i32", readBounded (signedRange 32) Int32.ofInt⟩
instance : Readable Int64 := ⟨"i64", readBounded (signedRange 64) Int64.ofInt⟩
instance : Readable UInt8 := ⟨"u8", readBounded (unsignedRange 8) fun n => UInt8.ofNat n.toNat⟩
instance : Readable UInt32 := ⟨"u32", readBounded (unsignedRange 32) fun n => UInt32.ofNat n.toNat⟩
instance : Readable UInt64 := ⟨"u64", readBounded (unsignedRange 64) fun n => UInt64.ofNat n.toNat⟩
instance : Readable Seconds := ⟨"f32", fun s => readBinary s.toList⟩
instance : Readable Real64 := ⟨"f64", fun s => readBinary s.toList⟩
instance : Readable String := ⟨"String", some⟩
instance : Readable Operator := ⟨"Operator", Operator.ofWord?⟩

instance : Readable Bool :=
  ⟨"bool", fun s => if s = "true" then some true else if s = "false" then some false else none⟩

instance : Readable Char :=
  ⟨"char", fun s => match s.toList with
    | [c] => some c
    | _ => none⟩

structure Arguments where
  values : List String
  deriving DecidableEq, Repr

namespace Arguments

def ofParameters (parameters : List String) : Arguments :=
  if parameters = [""] then ⟨[]⟩ else ⟨parameters⟩

def size (a : Arguments) : Nat :=
  a.values.length

def isEmpty (a : Arguments) : Bool :=
  a.values.isEmpty

def raw? (a : Arguments) (position : Nat) : Option String :=
  a.values[position]?

def read (A : Type) [Readable A] (raw : String) (position : Nat) (name : String) :
    Except ArgumentError A :=
  match Readable.read? (trimmed raw) with
  | some value => .ok value
  | none => .error (.invalid position name raw (Readable.typeName A))

def required (A : Type) [Readable A] (a : Arguments) (position : Nat) (name : String) :
    Except ArgumentError A :=
  match a.raw? position with
  | some raw => read A raw position name
  | none => .error (.missing position name)

def optional (A : Type) [Readable A] (a : Arguments) (position : Nat) (name : String) :
    Except ArgumentError (Option A) :=
  match a.raw? position with
  | none => .ok none
  | some raw => if raw = "" then .ok none else (read A raw position name).map some

def text (a : Arguments) (position : Nat) (name : String) : Except ArgumentError String :=
  match a.raw? position with
  | none => .error (.missing position name)
  | some raw => if raw = "" then .error (.missing position name) else .ok raw

def segmentsAfter : List Char → List Char → List (List Char)
  | piece, [] => [piece.reverse]
  | piece, c :: rest =>
    if c = ':' then piece.reverse :: segmentsAfter [] rest else segmentsAfter (c :: piece) rest

def segments (s : String) : List String :=
  ((segmentsAfter [] s.toList).filter (!·.isEmpty)).map String.ofList

def list (a : Arguments) (position : Nat) (name : String) : Except ArgumentError (List String) :=
  (a.text position name).map segments

def cutAt (separator : Char) (s : String) : Option (String × String) :=
  match s.toList.dropWhile (· != separator) with
  | [] => none
  | _ :: rest => some (String.ofList (s.toList.takeWhile (· != separator)), String.ofList rest)

def pair (a : Arguments) (position : Nat) (name : String) :
    Except ArgumentError (String × String) :=
  match a.text position name with
  | .error e => .error e
  | .ok raw =>
    match cutAt ':' raw with
    | some (key, value) =>
      if key = "" then .error (.invalid position name raw "key:value") else .ok (key, value)
    | none => .error (.invalid position name raw "key:value")

def atMost (a : Arguments) (most : Nat) : Except ArgumentError Unit :=
  if most < a.size then .error (.tooMany most a.size) else .ok ()

end Arguments

end MapScript
