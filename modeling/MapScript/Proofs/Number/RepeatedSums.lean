import Mathlib.Data.Nat.Log
import Mathlib.Logic.Function.Iterate
import MapScript.Proofs.Number.BinaryOrder
import MapScript.Proofs.Number.Rounding

set_option autoImplicit false

namespace MapScript.Number

namespace BinaryFormat

def standstill (f : BinaryFormat) (d : Nat) : Nat :=
  2 ^ (f.precision + Nat.clog 2 d)

variable {f : BinaryFormat} {x d : Nat}

theorem pow_clog_lt (pos : 0 < d) : 2 ^ Nat.clog 2 d < 2 * d := by
  by_cases one : d = 1
  · subst one
    rw [Nat.clog_one_right]
    decide
  · have half := Nat.pow_pred_clog_lt_self Nat.one_lt_two (show 1 < d by omega)
    have more : 0 < Nat.clog 2 d := Nat.clog_pos Nat.one_lt_two (by omega)
    obtain ⟨c, exponent⟩ := Nat.exists_eq_add_of_le' more
    rw [exponent, Nat.pred_succ] at half
    rw [exponent, Nat.pow_succ]
    omega

theorem log2_add_eq (pos : 0 < x) (same : 2 ^ (x + d).log2 ≤ x) : (x + d).log2 = x.log2 := by
  have high := Nat.lt_log2_self (n := x + d)
  exact ((Nat.log2_eq_iff (by omega)).mpr ⟨same, by omega⟩).symm

theorem lt_roundUnits_of_size (precise : 1 ≤ f.precision) (pos : 0 < d)
    (other : x < 2 ^ (x + d).log2) : x < f.roundUnits (x + d) 1 := by
  have nonzero : (x + d) / 1 ≠ 0 := by
    rw [Nat.div_one]
    omega
  -- A power of two lies between `x` and the sum, and rounding does not lead back over it.
  have grown := pow_le_roundUnits precise Nat.one_pos nonzero
  rw [Nat.div_one] at grown
  omega

theorem spacing_add_eq (pos : 0 < x) (same : 2 ^ (x + d).log2 ≤ x) :
    f.spacing (x + d) = f.spacing x := by
  simp only [spacing, shift, log2_add_eq pos same]

theorem le_roundUnits_add (precise : 1 ≤ f.precision) (pos : 0 < d) (represents : f.Represents x) :
    x ≤ f.roundUnits (x + d) 1 := by
  by_cases same : 2 ^ (x + d).log2 ≤ x
  · have positive : 0 < x := Nat.lt_of_lt_of_le (Nat.two_pow_pos _) same
    apply le_roundUnits Nat.one_pos
    · rw [Nat.div_one, spacing_add_eq positive same]
      exact represents
    · omega
  · exact Nat.le_of_lt (lt_roundUnits_of_size precise pos (Nat.lt_of_not_le same))

theorem lt_roundUnits_add (precise : 1 ≤ f.precision) (pos : 0 < d) (represents : f.Represents x)
    (below : x < f.standstill d) : x < f.roundUnits (x + d) 1 := by
  by_cases same : 2 ^ (x + d).log2 ≤ x
  · -- The sum is a multiple of its spacing and a step of more than half of it.
    have positive : 0 < x := Nat.lt_of_lt_of_le (Nat.two_pow_pos _) same
    have early : x.log2 < f.precision + Nat.clog 2 d :=
      (Nat.log2_lt (Nat.ne_of_gt positive)).mpr below
    have fine : f.spacing x < 2 * d := by
      calc f.spacing x ≤ 2 ^ Nat.clog 2 d :=
            Nat.pow_le_pow_right Nat.two_pos (by unfold shift; omega)
        _ < 2 * d := pow_clog_lt pos
    obtain ⟨k, multiple⟩ := represents
    have past : (2 * k + 1) * f.spacing x < 2 * (x + d) := by
      calc (2 * k + 1) * f.spacing x = 2 * x + f.spacing x := by
            rw [Nat.add_mul, Nat.one_mul, Nat.mul_assoc, Nat.mul_comm k, ← multiple]
        _ < 2 * (x + d) := by omega
    have next := lt_roundHalfEven (f.spacing_pos x) past
    rw [roundUnits_eq, Nat.div_one, spacing_add_eq positive same, Nat.one_mul]
    calc x = k * f.spacing x := by rw [Nat.mul_comm]; exact multiple
      _ < roundHalfEven (x + d) (f.spacing x) * f.spacing x :=
        Nat.mul_lt_mul_of_pos_right next (f.spacing_pos x)
  · exact lt_roundUnits_of_size precise pos (Nat.lt_of_not_le same)

theorem standstill_eq_even_mul (precise : 2 ≤ f.precision) :
    ∃ k, k % 2 = 0 ∧ f.standstill d = k * (2 * 2 ^ Nat.clog 2 d) := by
  obtain ⟨p, precision_eq⟩ := Nat.exists_eq_add_of_le precise
  refine ⟨2 ^ (p + 1), by rw [Nat.pow_succ, Nat.mul_mod_left], ?_⟩
  rw [standstill, precision_eq, Nat.pow_add, Nat.add_comm 2, Nat.pow_succ 2 (p + 1), Nat.mul_assoc]

theorem spacing_beyond_standstill (above : f.standstill d ≤ x) (near : x < 2 * f.standstill d) :
    f.spacing x = 2 * 2 ^ Nat.clog 2 d := by
  have size : x.log2 = f.precision + Nat.clog 2 d := by
    have pos : 0 < f.standstill d := Nat.two_pow_pos _
    rw [Nat.log2_eq_iff (by omega), Nat.pow_succ, Nat.mul_comm]
    exact ⟨above, near⟩
  have shift_eq : f.shift x = Nat.clog 2 d + 1 := by
    unfold shift
    omega
  rw [spacing, shift_eq, Nat.pow_succ, Nat.mul_comm]

theorem roundUnits_add_le (precise : 2 ≤ f.precision) (within : x ≤ f.standstill d) :
    f.roundUnits (x + d) 1 ≤ f.standstill d := by
  have small : d ≤ 2 ^ Nat.clog 2 d := Nat.le_pow_clog Nat.one_lt_two d
  by_cases below : x + d < f.standstill d
  · by_cases none : x + d = 0
    · have zero : f.roundUnits (x + d) 1 = 0 := by simp [none, roundUnits_eq, roundHalfEven]
      omega
    have size := (Nat.log2_lt none).mpr below
    have high := roundUnits_le_pow (f := f) (n := x + d) Nat.one_pos
    rw [Nat.div_one] at high
    exact high.trans (Nat.pow_le_pow_right Nat.two_pos size)
  · -- The sum is at most half a spacing above, and the standstill an even multiple of it.
    have far : 2 ^ Nat.clog 2 d < f.standstill d :=
      Nat.pow_lt_pow_right Nat.one_lt_two (by omega)
    have spacing_eq : f.spacing (x + d) = 2 * 2 ^ Nat.clog 2 d :=
      spacing_beyond_standstill (by omega) (by omega)
    obtain ⟨k, even, multiple⟩ := standstill_eq_even_mul (d := d) precise
    rw [← spacing_eq] at multiple
    have half : 2 * (x + d) ≤ (2 * k + 1) * f.spacing (x + d) := by
      rw [Nat.add_mul, Nat.mul_assoc, ← multiple]
      omega
    rw [roundUnits_eq, Nat.div_one, Nat.one_mul, multiple]
    exact Nat.mul_le_mul_right _ (roundHalfEven_le_of_even (f.spacing_pos _) half even)

end BinaryFormat

namespace Binary

open BinaryFormat

variable {f : BinaryFormat} {d n : Nat}

def total (step : Binary f) (n : Nat) : Binary f :=
  (· + step)^[n] .zero

inductive Risen (d n : Nat) : Binary f → Prop
  | finite {m : Nat} (represents : f.Represents m) (within : m ≤ f.standstill d)
      (risen : min n (f.standstill d) ≤ m) : Risen d n (.finite false m)
  | beyond (short : f.largest < f.standstill d) : Risen d n (.infinity false)

theorem add_finite (m : Nat) (pos : 0 < d) :
    (.finite false m + .finite false d : Binary f) = ofUnits false (m + d) 1 := by
  change (if (m : Int) + (d : Int) = 0 then Binary.finite false 0
    else ofUnits (decide ((m : Int) + (d : Int) < 0)) ((m : Int) + (d : Int)).natAbs 1) = _
  have nonzero : (m : Int) + d ≠ 0 := by omega
  have positive : ¬ (m : Int) + d < 0 := by omega
  simp only [nonzero, positive, if_false, decide_false]
  rfl

theorem Risen.step {x : Binary f} (precise : 2 ≤ f.precision) (pos : 0 < d) (risen : Risen d n x) :
    Risen d (n + 1) (x + .finite false d) := by
  cases risen with
  | beyond short => exact .beyond short
  | @finite m represents within risen =>
    have bounded := roundUnits_add_le (d := d) precise within
    rw [add_finite m pos, ofUnits]
    by_cases fits : f.roundUnits (m + d) 1 ≤ f.largest
    · rw [if_pos fits]
      refine .finite (represents_roundUnits (by omega) _) bounded ?_
      rcases Nat.lt_or_eq_of_le within with below | still
      · have more := lt_roundUnits_add (by omega) pos represents below
        omega
      · have least := le_roundUnits_add (d := d) (by omega) pos represents
        omega
    · rw [if_neg fits]
      exact .beyond (by omega)

theorem risen_total (precise : 2 ≤ f.precision) (pos : 0 < d) (n : Nat) :
    Risen d n (total (.finite false d : Binary f) n) := by
  induction n with
  | zero => exact .finite (Nat.dvd_zero _) (Nat.zero_le _) (by omega)
  | succ n ih =>
    rw [total, Function.iterate_succ_apply']
    exact ih.step precise pos

theorem finite_le_iff {negative : Bool} {units m : Nat} :
    (.finite negative units : Binary f).le (.finite false m) = true ↔
      (.finite negative units : Binary f).place ≤ m := by
  have lt := @lt_iff f (.finite negative units) (.finite false m)
  have eq := @eq_iff f (.finite negative units) (.finite false m)
  simp only [ne_eq, reduceCtorEq, not_false_eq_true, true_and, region, lt_self_iff_false,
    false_or] at lt eq
  rw [le, Bool.or_eq_true, lt, eq]
  change _ < (m : Int) ∨ _ = (m : Int) ↔ _
  omega

/-- Where the sum of equal steps stays, in units. -/
def standstill (step : Binary f) : Nat :=
  f.standstill step.place.toNat

theorem eq_finite_of_pos {x : Binary f} (finite : x.isFinite = true)
    (positive : zero.lt x = true) : ∃ d, 0 < d ∧ x = .finite false d := by
  cases x with
  | nan | infinity => cases finite
  | finite negative units =>
    obtain ⟨_, _, below⟩ := lt_iff.mp positive
    have above : 0 < signedUnits negative units := by
      rcases below with apart | ⟨_, below⟩
      · exact absurd apart (Int.lt_irrefl 0)
      · exact below
    cases negative with
    | true => exact absurd above (by simp [signedUnits])
    | false => exact ⟨units, by simpa [signedUnits] using above, rfl⟩

theorem place_nonneg {x : Binary f} (finite : x.isFinite = true) (above : x.lt zero = false) :
    0 ≤ x.place := by
  cases x with
  | nan | infinity => cases finite
  | finite negative units =>
    apply Int.not_lt.mp
    intro below
    exact absurd (above.symm.trans (lt_iff.mpr ⟨nofun, nofun, .inr ⟨rfl, below⟩⟩)) nofun

theorem le_total {x step : Binary f} (precise : 2 ≤ f.precision) (finite : step.isFinite = true)
    (positive : zero.lt step = true) (number : x.isFinite = true) (fits : x.place ≤ f.largest) :
    (x.place ≤ step.standstill → ∀ n : Nat, x.place ≤ n → x.le (step.total n) = true) ∧
    (step.standstill < x.place → ∀ n, x.le (step.total n) = false) := by
  obtain ⟨d, pos, rfl⟩ := eq_finite_of_pos finite positive
  have standstill_eq : (.finite false d : Binary f).standstill = f.standstill d := rfl
  rw [standstill_eq]
  cases x with
  | nan | infinity => cases number
  | finite negative units =>
    refine ⟨fun within n enough => ?_, fun above n => ?_⟩
    all_goals
      have risen : Risen d n (total (.finite false d : Binary f) n) := risen_total precise pos n
      generalize total (.finite false d : Binary f) n = sum at risen ⊢
    · cases risen with
      | beyond => rfl
      | finite _ _ risen => exact finite_le_iff.mpr (by omega)
    · cases risen with
      | beyond short => omega
      | finite _ within _ =>
        apply Bool.eq_false_iff.mpr
        intro reached
        have := finite_le_iff.mp reached
        omega

end Binary

end MapScript.Number
