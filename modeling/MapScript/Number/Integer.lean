set_option autoImplicit false

namespace MapScript.Number

inductive IntegerError where
  | empty
  | badDigit
  | tooLarge
  | tooSmall
  deriving DecidableEq, Repr

def IntegerError.message : IntegerError → String
  | .empty => "cannot parse integer from empty string"
  | .badDigit => "invalid digit found in string"
  | .tooLarge => "number too large to fit in target type"
  | .tooSmall => "number too small to fit in target type"

def digitValue (c : Char) : Nat :=
  c.toNat - '0'.toNat

def readDigits (bound : Nat) (outside : IntegerError) : Nat → List Char → Except IntegerError Nat
  | value, [] => .ok value
  | value, c :: rest =>
    if c.isDigit then
      if 10 * value + digitValue c ≤ bound then
        readDigits bound outside (10 * value + digitValue c) rest
      else .error outside
    else .error .badDigit

def readMagnitude (bound : Nat) (outside : IntegerError) (cs : List Char) :
    Except IntegerError Nat :=
  if cs.isEmpty then .error .badDigit else readDigits bound outside 0 cs

def readInteger (low high : Int) : List Char → Except IntegerError Int
  | [] => .error .empty
  | '+' :: rest => (readMagnitude high.toNat .tooLarge rest).map Int.ofNat
  | '-' :: rest =>
    if low < 0 then (readMagnitude low.natAbs .tooSmall rest).map fun n => -(n : Int)
    else .error .badDigit
  | cs => (readMagnitude high.toNat .tooLarge cs).map Int.ofNat

def writeInteger (n : Int) : List Char :=
  if n < 0 then '-' :: Nat.toDigits 10 n.natAbs else Nat.toDigits 10 n.natAbs

def signedRange (bits : Nat) : Int × Int :=
  (-(Nat.pow 2 (bits - 1) : Int), (Nat.pow 2 (bits - 1) : Int) - 1)

def unsignedRange (bits : Nat) : Int × Int :=
  (0, (Nat.pow 2 bits : Int) - 1)

end MapScript.Number
