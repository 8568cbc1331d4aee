import MapScript.Number.Binary
import MapScript.Number.Integer

set_option autoImplicit false

namespace MapScript.Number

def isWord (word : String) (cs : List Char) : Bool :=
  cs.map Char.toLower == word.toList

def naturalOf (digits : List Char) : Nat :=
  digits.foldl (fun value c => 10 * value + digitValue c) 0

def readExponent : List Char → Option Int
  | [] => some 0
  | c :: rest =>
    if c = 'e' ∨ c = 'E' then
      let (negative, digits) := match rest with
        | '-' :: ds => (true, ds)
        | '+' :: ds => (false, ds)
        | ds => (false, ds)
      if digits.isEmpty ∨ ¬ digits.all Char.isDigit then none
      else some (if negative then -(naturalOf digits : Int) else naturalOf digits)
    else none

structure Numeral where
  coefficient : Nat
  exponent : Int
  deriving DecidableEq, Repr

def readNumeral (cs : List Char) : Option Numeral :=
  let whole := cs.takeWhile Char.isDigit
  let (fraction, rest) := match cs.dropWhile Char.isDigit with
    | '.' :: tail => (tail.takeWhile Char.isDigit, tail.dropWhile Char.isDigit)
    | tail => ([], tail)
  if whole.isEmpty ∧ fraction.isEmpty then none
  else (readExponent rest).map fun exponent =>
    ⟨naturalOf (whole ++ fraction), exponent - fraction.length⟩

/-- The power of ten from which on every numeral is infinite, and below whose inverse it is zero. -/
def BinaryFormat.decimalReach (f : BinaryFormat) : Int :=
  f.unitExponent + f.precision + f.topShift

def Numeral.toBinary {f : BinaryFormat} (n : Numeral) (negative : Bool) : Binary f :=
  if n.coefficient = 0 then .finite negative 0
  else
    let places := (Nat.toDigits 10 n.coefficient).length + n.exponent
    if f.decimalReach < places then .infinity negative
    else if places < -f.decimalReach then .finite negative 0
    else if 0 ≤ n.exponent then
      Binary.ofFraction negative (n.coefficient * Nat.pow 10 n.exponent.toNat) 1
    else Binary.ofFraction negative n.coefficient (Nat.pow 10 (-n.exponent).toNat)

def readUnsignedBinary {f : BinaryFormat} (negative : Bool) (cs : List Char) : Option (Binary f) :=
  if isWord "inf" cs || isWord "infinity" cs then some (.infinity negative)
  else if isWord "nan" cs then some .nan
  else (readNumeral cs).map (·.toBinary negative)

def readBinary {f : BinaryFormat} : List Char → Option (Binary f)
  | '-' :: rest => readUnsignedBinary true rest
  | '+' :: rest => readUnsignedBinary false rest
  | cs => readUnsignedBinary false cs

/-- The reals that read back to a positive number, in quarters of a unit; the bounds themselves
belong to it if the number is even in its last bit. -/
structure Neighbourhood where
  low : Nat
  high : Nat
  closed : Bool
  deriving DecidableEq, Repr

def BinaryFormat.neighbourhood (f : BinaryFormat) (units : Nat) : Neighbourhood :=
  let shift := f.shift units
  let step := Nat.pow 2 shift
  let below := if 0 < shift ∧ units = Nat.pow 2 (f.precision - 1) * step then step else 2 * step
  ⟨4 * units - below, 4 * units + 2 * step, units / step % 2 = 0⟩

def Neighbourhood.contains (n : Neighbourhood) (scale decimal : Nat) : Bool :=
  if n.closed then n.low * scale ≤ decimal && decimal ≤ n.high * scale
  else n.low * scale < decimal && decimal < n.high * scale

/-- The decimal with the most trailing zeros, at most `zeros`, that reads back; of two the nearer,
and at equal distance the greater. -/
def shortestFrom (n : Neighbourhood) (scale exact : Nat) : Nat → Nat
  | 0 => exact
  | zeros + 1 =>
    let step := Nat.pow 10 (zeros + 1)
    let below := exact / step * step
    let above := below + step
    match n.contains scale (4 * below), n.contains scale (4 * above) with
    | true, false => below
    | false, true => above
    | true, true => if exact - below < above - exact then below else above
    | false, false => shortestFrom n scale exact zeros

def BinaryFormat.shortest (f : BinaryFormat) (units : Nat) : Nat :=
  let scale := Nat.pow 5 f.unitExponent
  let exact := units * scale
  shortestFrom (f.neighbourhood units) scale exact ((Nat.toDigits 10 exact).length - 1)

def writePlaces (places decimal : Nat) : List Char :=
  let whole := Nat.toDigits 10 (decimal / Nat.pow 10 places)
  let digits := Nat.toDigits 10 (decimal % Nat.pow 10 places)
  let padded := List.replicate (places - digits.length) '0' ++ digits
  let fraction := (padded.reverse.dropWhile (· == '0')).reverse
  if fraction.isEmpty then whole else whole ++ '.' :: fraction

def writeBinary {f : BinaryFormat} : Binary f → List Char
  | .nan => "NaN".toList
  | .infinity negative => (if negative then "-inf" else "inf").toList
  | .finite negative units =>
    let magnitude := if units = 0 then ['0'] else writePlaces f.unitExponent (f.shortest units)
    if negative then '-' :: magnitude else magnitude

def Binary.text {f : BinaryFormat} (x : Binary f) : String :=
  String.ofList (writeBinary x)

end MapScript.Number
