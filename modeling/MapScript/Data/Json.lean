import MapScript.Data.Basic
import MapScript.Text.Reader

/-!
JSON text as untyped data, and back. A number without a fraction and an exponent is an integer if it
fits into 64 bits; every other number has to be finite, and is rounded at each step of its reading.
Of several fields with one name the last counts, except where a text is read for a value, which has
no field twice.
-/

set_option autoImplicit false

namespace MapScript.Json

open Number Text

def skipSpace (cs : List Char) : List Char :=
  cs.dropWhile fun c => c == ' ' || c == '\t' || c == '\n' || c == '\r'

def readUnit : Reader Nat
  | a :: b :: c :: d :: rest => do
    let digits ← [a, b, c, d].mapM hexValue?
    return (digits.foldl (fun n digit => 16 * n + digit) 0, rest)
  | _ => none

def readCodePoint : Reader Char := fun cs => do
  let (unit, rest) ← readUnit cs
  if unit.isValidChar then return (Char.ofNat unit, rest)
  -- What is no character has to be the first half of a pair.
  match rest with
  | '\\' :: 'u' :: rest =>
    let (low, rest) ← readUnit rest
    if unit < 0xDC00 ∧ 0xDC00 ≤ low ∧ low < 0xE000 then
      return (Char.ofNat (0x10000 + 1024 * (unit - 0xD800) + (low - 0xDC00)), rest)
    else none
  | _ => none

def readEscape : Reader Char
  | '"' :: rest => some ('"', rest)
  | '\\' :: rest => some ('\\', rest)
  | '/' :: rest => some ('/', rest)
  | 'b' :: rest => some ('\x08', rest)
  | 'f' :: rest => some ('\x0c', rest)
  | 'n' :: rest => some ('\n', rest)
  | 'r' :: rest => some ('\r', rest)
  | 't' :: rest => some ('\t', rest)
  | 'u' :: rest => readCodePoint rest
  | _ => none

def readText : Nat → List Char → Reader String
  | 0, _, _ => none
  | _, _, [] => none
  | fuel + 1, read, c :: rest =>
    if c = '"' then some (String.ofList read.reverse, rest)
    else if c = '\\' then
      match readEscape rest with
      | some (escaped, rest) => readText fuel (escaped :: read) rest
      | none => none
    else if c.toNat < 0x20 then none
    else readText fuel (c :: read) rest

def isNumberChar (c : Char) : Bool :=
  c.isDigit || c == '-' || c == '+' || c == '.' || c == 'e' || c == 'E'

def areDigits (cs : List Char) : Bool :=
  !cs.isEmpty && cs.all Char.isDigit

def isExponent : List Char → Bool
  | [] => true
  | mark :: rest =>
    (mark == 'e' || mark == 'E') && areDigits (match rest with
      | '+' :: digits => digits
      | '-' :: digits => digits
      | digits => digits)

def isNumber (cs : List Char) : Bool :=
  let body := match cs with
    | '-' :: rest => rest
    | _ => cs
  let whole := body.takeWhile Char.isDigit
  let rest := match body.drop whole.length with
    | '.' :: rest => if (rest.head?.any Char.isDigit) then rest.dropWhile Char.isDigit else ['.']
    | rest => rest
  areDigits whole && (whole.length == 1 || whole.head? != some '0') && isExponent rest

def addDigits : Nat → List Char → Nat × Nat
  | n, [] => (n, 0)
  | n, c :: rest =>
    if 10 * n + digitValue c < Nat.pow 2 64 then addDigits (10 * n + digitValue c) rest
    else (n, rest.length + 1)

def powerOfTen (n : Nat) : Real64 :=
  Numeral.toBinary ⟨1, n⟩ false

/-- Multiplies by a power of ten and rounds. A power that is no finite number is taken in parts, and
what leaves the finite numbers is refused. -/
def scaleByTen (x : Real64) (exponent : Int) : Option Real64 :=
  if x.isZero then some x
  else if 308 < exponent then none
  else if 0 ≤ exponent then
    let scaled := x * powerOfTen exponent.toNat
    if scaled.isFinite then some scaled else none
  else if -308 ≤ exponent then some (x / powerOfTen (-exponent).toNat)
  else scaleByTen (x / powerOfTen 308) (exponent + 308)
termination_by (-exponent).toNat
decreasing_by omega

def floatOf (cs : List Char) : Option Real64 := do
  let (negative, body) := match cs with
    | '-' :: rest => (true, rest)
    | _ => (false, cs)
  let whole := body.takeWhile Char.isDigit
  let (fraction, rest) := match body.drop whole.length with
    | '.' :: rest => (rest.takeWhile Char.isDigit, rest.dropWhile Char.isDigit)
    | rest => ([], rest)
  let (n, before) := addDigits 0 whole
  let (n, after) := addDigits n fraction
  let places : Int := (fraction.length : Int) - after
  let x ← scaleByTen (Binary.ofInt n) (before - places + (← readExponent rest))
  return if negative then -x else x

def numberOf (cs : List Char) : Option Data :=
  let asFloat : Option Data := (floatOf cs).map .float
  if !isNumber cs then none
  -- The negative zero is no integer.
  else if cs == ['-', '0'] then asFloat
  else
    match readInteger (signedRange 64).1 (unsignedRange 64).2 cs with
    | .ok n => some (.integer n)
    | .error _ => asFloat

def readElements {A : Type} (element : Reader A) (close : Char) : Nat → Reader (List A)
  | 0, _ => none
  | fuel + 1, cs => do
    let (item, rest) ← element cs
    match skipSpace rest with
    | [] => none
    | c :: rest =>
      if c = close then return ([item], rest)
      if c ≠ ',' then none
      let (items, rest) ← readElements element close fuel rest
      return (item :: items, rest)

def readMembers {A : Type} (element : Reader A) (close : Char) (cs : List Char) :
    Option (List A × List Char) :=
  match skipSpace cs with
  | [] => none
  | c :: rest => if c = close then some ([], rest) else readElements element close (cs.length + 1) cs

def readField (value : Reader Data) : Reader (String × Data) := fun cs => do
  match skipSpace cs with
  | '"' :: rest =>
    let (name, rest) ← readText (rest.length + 1) [] rest
    match skipSpace rest with
    | ':' :: rest =>
      let (d, rest) ← value rest
      return ((name, d), rest)
    | _ => none
  | _ => none

abbrev Settle := List (String × Data) → Option (List (String × Data))

def lastFields : Settle := fun fields =>
  some (fields.foldr (fun field rest =>
    if rest.any fun other => other.1 == field.1 then rest else field :: rest) [])

def distinctFields : Settle := fun fields =>
  if (fields.map Prod.fst).Nodup then some fields else none

def readScalar (cs : List Char) : Option (Data × List Char) :=
  match cs with
  | '"' :: rest => (readText (rest.length + 1) [] rest).map fun (s, rest) => (.text s, rest)
  | 'n' :: _ => (dropWord "null" cs).map fun rest => (.null, rest)
  | 't' :: _ => (dropWord "true" cs).map fun rest => (.bool true, rest)
  | 'f' :: _ => (dropWord "false" cs).map fun rest => (.bool false, rest)
  | _ => (numberOf (cs.takeWhile isNumberChar)).map fun d => (d, cs.dropWhile isNumberChar)

def readCompound (settle : Settle) (value : Reader Data) (cs : List Char) :
    Option (Data × List Char) :=
  match cs with
  | '[' :: rest => (readMembers value ']' rest).map fun (items, rest) => (.list items, rest)
  | '\x7b' :: rest => do
    let (fields, rest) ← readMembers (readField value) '\x7d' rest
    return (.record (← settle fields), rest)
  | _ => readScalar cs

def readValue (settle : Settle) : Nat → Reader Data
  | 0, _ => none
  | depth + 1, cs => readCompound settle (readValue settle depth) (skipSpace cs)

def nestingLimit : Nat := 128

def read (settle : Settle) (text : String) : Option Data := do
  let (d, rest) ← readValue settle nestingLimit text.toList
  if (skipSpace rest).isEmpty then return d else none

def hexDigits (n : Nat) : List Char :=
  let digits := Nat.toDigits 16 n
  List.replicate (4 - digits.length) '0' ++ digits

def writeChar (c : Char) : List Char :=
  if c = '"' ∨ c = '\\' then ['\\', c]
  else if c.toNat < 0x20 ∨ c = '\u0085' ∨ c = '\u2028' ∨ c = '\u2029' then
    ['\\', 'u'] ++ hexDigits c.toNat
  else [c]

def writeText (s : String) : String :=
  String.ofList (['"'] ++ s.toList.flatMap writeChar ++ ['"'])

def writeFloat (x : Real64) : String :=
  if !x.isFinite then "null"
  else if x.text.contains '.' then x.text
  else x.text ++ ".0"

mutual

def write : Data → String
  | .null => "null"
  | .bool b => if b then "true" else "false"
  | .integer n => String.ofList (writeInteger n)
  | .float x => writeFloat x
  | .text s => writeText s
  | .list items => "[" ++ String.intercalate "," (writeItems items) ++ "]"
  | .record fields => "\x7b" ++ String.intercalate "," (writeFields fields) ++ "\x7d"

def writeItems : List Data → List String
  | [] => []
  | item :: rest => write item :: writeItems rest

def writeFields : List (String × Data) → List String
  | [] => []
  | (name, d) :: rest => (writeText name ++ ":" ++ write d) :: writeFields rest

end

end MapScript.Json

namespace MapScript.Data

def ofJson? (text : String) : Option Data :=
  Json.read Json.lastFields text

def toJson (d : Data) : String :=
  Json.write d

end MapScript.Data

namespace MapScript.Value

def ofJson? (text : String) : Option Value :=
  (Json.read Json.distinctFields text).bind ofData?

end MapScript.Value
