/-!
Binary floating point numbers of a fixed precision, kept exactly: a finite number is a sign and a
natural number of units, the unit being the least positive number of the format. Sums, products and
quotients are computed exactly and then rounded to the nearest number of the format, an exact half
going to the even neighbour.
-/

set_option autoImplicit false

namespace MapScript.Number

/-- A binary interchange format: significant bits, the unit as a negative power of two, and the
power of two that the largest numbers are multiples of, in units. -/
structure BinaryFormat where
  precision : Nat
  unitExponent : Nat
  topShift : Nat
  deriving DecidableEq, Repr

def binary32 : BinaryFormat := ⟨24, 149, 253⟩

def binary64 : BinaryFormat := ⟨53, 1074, 2045⟩

def BinaryFormat.largest (f : BinaryFormat) : Nat :=
  (Nat.pow 2 f.precision - 1) * Nat.pow 2 f.topShift

inductive Binary (f : BinaryFormat) where
  | nan
  | infinity (negative : Bool)
  | finite (negative : Bool) (units : Nat)
  deriving DecidableEq, Repr

abbrev Seconds := Binary binary32

abbrev Real64 := Binary binary64

def roundHalfEven (numerator denominator : Nat) : Nat :=
  let whole := numerator / denominator
  let twice := 2 * (numerator % denominator)
  if denominator < twice ∨ (twice = denominator ∧ whole % 2 = 1) then whole + 1 else whole

def BinaryFormat.shift (f : BinaryFormat) (magnitude : Nat) : Nat :=
  magnitude.log2 + 1 - f.precision

def BinaryFormat.roundUnits (f : BinaryFormat) (numerator denominator : Nat) : Nat :=
  let step := Nat.pow 2 (f.shift (numerator / denominator))
  roundHalfEven numerator (denominator * step) * step

namespace Binary

variable {f : BinaryFormat}

/-- The number of a format nearest to a quotient of units; beyond the largest one it is infinite. -/
def ofUnits (negative : Bool) (numerator denominator : Nat) : Binary f :=
  let units := f.roundUnits numerator denominator
  if units ≤ f.largest then .finite negative units else .infinity negative

def zero : Binary f := .finite false 0

def ofFraction (negative : Bool) (numerator denominator : Nat) : Binary f :=
  ofUnits negative (numerator * Nat.pow 2 f.unitExponent) denominator

def ofInt (n : Int) : Binary f :=
  ofFraction (n < 0) n.natAbs 1

def convert {g : BinaryFormat} : Binary f → Binary g
  | .nan => .nan
  | .infinity negative => .infinity negative
  | .finite negative units => ofUnits negative (units * Nat.pow 2 g.unitExponent)
    (Nat.pow 2 f.unitExponent)

def signedUnits (negative : Bool) (units : Nat) : Int :=
  if negative then -(units : Int) else units

def add : Binary f → Binary f → Binary f
  | .nan, _ => .nan
  | _, .nan => .nan
  | .infinity s, .infinity t => if s = t then .infinity s else .nan
  | .infinity s, .finite _ _ => .infinity s
  | .finite _ _, .infinity t => .infinity t
  | .finite s m, .finite t n =>
    let sum := signedUnits s m + signedUnits t n
    if sum = 0 then .finite (s && t) 0 else ofUnits (sum < 0) sum.natAbs 1

instance : Add (Binary f) := ⟨add⟩

def isZero : Binary f → Bool
  | .finite _ units => units == 0
  | _ => false

def neg : Binary f → Binary f
  | .nan => .nan
  | .infinity negative => .infinity (!negative)
  | .finite negative units => .finite (!negative) units

instance : Neg (Binary f) := ⟨neg⟩

def mul : Binary f → Binary f → Binary f
  | .nan, _ => .nan
  | _, .nan => .nan
  | .infinity s, .infinity t => .infinity (s != t)
  | .infinity s, .finite t n => if n = 0 then .nan else .infinity (s != t)
  | .finite s m, .infinity t => if m = 0 then .nan else .infinity (s != t)
  | .finite s m, .finite t n => ofUnits (s != t) (m * n) (Nat.pow 2 f.unitExponent)

instance : Mul (Binary f) := ⟨mul⟩

def div : Binary f → Binary f → Binary f
  | .nan, _ => .nan
  | _, .nan => .nan
  | .infinity _, .infinity _ => .nan
  | .infinity s, .finite t _ => .infinity (s != t)
  | .finite s _, .infinity t => .finite (s != t) 0
  | .finite s m, .finite t n =>
    if n ≠ 0 then ofFraction (s != t) m n
    else if m ≠ 0 then .infinity (s != t)
    else .nan

instance : Div (Binary f) := ⟨div⟩

def inverse (x : Binary f) : Binary f :=
  ofInt 1 / x

def lt : Binary f → Binary f → Bool
  | .nan, _ => false
  | _, .nan => false
  | .infinity s, .infinity t => s && !t
  | .infinity s, .finite _ _ => s
  | .finite _ _, .infinity t => !t
  | .finite s m, .finite t n => signedUnits s m < signedUnits t n

def eq : Binary f → Binary f → Bool
  | .nan, _ => false
  | _, .nan => false
  | .infinity s, .infinity t => s == t
  | .infinity _, .finite _ _ => false
  | .finite _ _, .infinity _ => false
  | .finite s m, .finite t n => signedUnits s m == signedUnits t n

def le (x y : Binary f) : Bool :=
  x.lt y || x.eq y

def isFinite : Binary f → Bool
  | .finite _ _ => true
  | _ => false

end Binary

theorem Binary.lt_irrefl {f : BinaryFormat} (x : Binary f) : x.lt x = false := by
  cases x <;> simp [Binary.lt]

theorem Binary.eq_comm {f : BinaryFormat} (x y : Binary f) : x.eq y = y.eq x := by
  cases x <;> cases y <;> simp only [Binary.eq] <;> exact BEq.comm

end MapScript.Number
