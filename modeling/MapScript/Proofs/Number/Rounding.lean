import Mathlib.Algebra.Group.Nat.Even
import Mathlib.Data.Nat.Log
import MapScript.Number.Decimal
import MapScript.Proofs.Number.BinaryOrder

set_option autoImplicit false

namespace MapScript.Number

section Nearest

variable {n d k : Nat}

theorem roundHalfEven_le (pos : 0 < d) (below : n ≤ k * d) : roundHalfEven n d ≤ k := by
  have whole : n / d ≤ k := Nat.div_le_of_le_mul (by rwa [Nat.mul_comm])
  rcases Nat.lt_or_eq_of_le whole with less | same
  · unfold roundHalfEven
    dsimp only
    split <;> omega
  · have exact_ : n % d = 0 := by
      have parts := Nat.div_add_mod n d
      rw [same, Nat.mul_comm] at parts
      omega
    unfold roundHalfEven
    simp only [exact_, same]
    split <;> omega

theorem le_roundHalfEven (pos : 0 < d) (above : k * d ≤ n) : k ≤ roundHalfEven n d := by
  have whole : k ≤ n / d := (Nat.le_div_iff_mul_le pos).mpr above
  unfold roundHalfEven
  dsimp only
  split <;> omega

theorem lt_roundHalfEven (pos : 0 < d) (past : (2 * k + 1) * d < 2 * n) :
    k < roundHalfEven n d := by
  have least : k * d ≤ n := by
    rw [Nat.add_mul, Nat.mul_assoc, Nat.one_mul] at past
    omega
  rcases Nat.lt_or_eq_of_le ((Nat.le_div_iff_mul_le pos).mpr least) with less | same
  · unfold roundHalfEven
    dsimp only
    split <;> omega
  · have parts := Nat.div_add_mod n d
    rw [← same, Nat.mul_comm] at parts
    rw [Nat.add_mul, Nat.mul_assoc, Nat.one_mul] at past
    have more : d < 2 * (n % d) := by omega
    unfold roundHalfEven
    simp only [more, true_or, if_true]
    omega

theorem roundHalfEven_le_of_even (pos : 0 < d) (half : 2 * n ≤ (2 * k + 1) * d)
    (even : k % 2 = 0) : roundHalfEven n d ≤ k := by
  rw [Nat.add_mul, Nat.mul_assoc, Nat.one_mul] at half
  have whole : n / d ≤ k := by
    apply Nat.le_of_lt_succ
    rw [Nat.div_lt_iff_lt_mul pos, Nat.succ_mul]
    omega
  rcases Nat.lt_or_eq_of_le whole with less | same
  · unfold roundHalfEven
    dsimp only
    split <;> omega
  · have parts := Nat.div_add_mod n d
    rw [same, Nat.mul_comm] at parts
    unfold roundHalfEven
    dsimp only
    split <;> omega

end Nearest

namespace BinaryFormat

/-- The distance between neighbouring numbers of this size. -/
def spacing (f : BinaryFormat) (magnitude : Nat) : Nat :=
  2 ^ f.shift magnitude

def Represents (f : BinaryFormat) (m : Nat) : Prop :=
  f.spacing m ∣ m

variable {f : BinaryFormat} {n d m : Nat}

theorem spacing_pos (f : BinaryFormat) (magnitude : Nat) : 0 < f.spacing magnitude :=
  Nat.two_pow_pos _

theorem spacing_dvd_pow {magnitude k : Nat} (small : magnitude.log2 + 1 ≤ k + f.precision) :
    f.spacing magnitude ∣ 2 ^ k :=
  Nat.pow_dvd_pow 2 (by unfold shift; omega)

theorem roundUnits_eq (f : BinaryFormat) (n d : Nat) :
    f.roundUnits n d = roundHalfEven n (d * f.spacing (n / d)) * f.spacing (n / d) :=
  rfl

theorem roundUnits_le (pos : 0 < d) (fits : f.spacing (n / d) ∣ m) (below : n ≤ m * d) :
    f.roundUnits n d ≤ m := by
  obtain ⟨k, rfl⟩ := fits
  rw [roundUnits_eq, Nat.mul_comm]
  apply Nat.mul_le_mul_left
  apply roundHalfEven_le (Nat.mul_pos pos (f.spacing_pos _))
  rwa [Nat.mul_comm d, ← Nat.mul_assoc, Nat.mul_comm k]

theorem le_roundUnits (pos : 0 < d) (fits : f.spacing (n / d) ∣ m) (above : m * d ≤ n) :
    m ≤ f.roundUnits n d := by
  obtain ⟨k, rfl⟩ := fits
  rw [roundUnits_eq, Nat.mul_comm]
  apply Nat.mul_le_mul_right
  apply le_roundHalfEven (Nat.mul_pos pos (f.spacing_pos _))
  rwa [Nat.mul_comm d, ← Nat.mul_assoc, Nat.mul_comm k]

theorem roundUnits_le_pow (pos : 0 < d) :
    f.roundUnits n d ≤ 2 ^ ((n / d).log2 + 1) := by
  apply roundUnits_le pos (spacing_dvd_pow (by omega))
  have parts := Nat.div_lt_iff_lt_mul pos |>.mp (Nat.lt_log2_self (n := n / d))
  exact Nat.le_of_lt parts

theorem pow_le_roundUnits (precise : 1 ≤ f.precision) (pos : 0 < d) (whole : n / d ≠ 0) :
    2 ^ (n / d).log2 ≤ f.roundUnits n d := by
  apply le_roundUnits pos (spacing_dvd_pow (by omega))
  exact (Nat.le_div_iff_mul_le pos).mp (Nat.log2_self_le whole)

theorem represents_roundUnits (precise : 1 ≤ f.precision) (n : Nat) :
    f.Represents (f.roundUnits n 1) := by
  by_cases none : n = 0
  · subst none
    simp [Represents, roundUnits_eq, roundHalfEven]
  have low := pow_le_roundUnits (n := n) precise Nat.one_pos (by simpa using none)
  have high := roundUnits_le_pow (f := f) (n := n) Nat.one_pos
  rw [Nat.div_one] at low high
  rcases Nat.lt_or_eq_of_le high with less | same
  · -- The rounded number has the size of what was rounded, so the same spacing.
    have size : (f.roundUnits n 1).log2 = n.log2 :=
      (Nat.log2_eq_iff (by have := Nat.two_pow_pos n.log2; omega)).mpr ⟨low, less⟩
    have spacing_eq : f.spacing (f.roundUnits n 1) = f.spacing n := by
      simp only [spacing, shift, size]
    rw [Represents, spacing_eq, roundUnits_eq, Nat.div_one]
    exact Nat.dvd_mul_left _ _
  · rw [Represents, same]
    apply spacing_dvd_pow
    rw [Nat.log2_two_pow]
    omega

end BinaryFormat

section Range

variable {f : BinaryFormat} {n d : Nat}

theorem ofUnits_eq_finite (precise : 1 ≤ f.precision) (pos : 0 < d) (whole : n / d ≠ 0) {k : Nat}
    (small : n / d < 2 ^ k) (fits : 2 ^ k ≤ f.largest) (negative : Bool) :
    ∃ m, 2 ^ (n / d).log2 ≤ m ∧ m ≤ 2 ^ k ∧
      (Binary.ofUnits negative n d : Binary f) = .finite negative m := by
  have size : (n / d).log2 + 1 ≤ k := (Nat.log2_lt whole).mpr small
  have high : f.roundUnits n d ≤ 2 ^ k :=
    (BinaryFormat.roundUnits_le_pow pos).trans (Nat.pow_le_pow_right Nat.two_pos size)
  exact ⟨_, BinaryFormat.pow_le_roundUnits precise pos whole, high, if_pos (high.trans fits)⟩

theorem ofUnits_place_le (negative : Bool) (n d : Nat) :
    (Binary.ofUnits negative n d : Binary f).place ≤ f.largest := by
  unfold Binary.ofUnits
  dsimp only
  split
  next fits =>
    cases negative <;> simp only [Binary.place, Binary.signedUnits, if_true] <;> omega
  next => exact Int.natCast_nonneg _

theorem toBinary_place_le (numeral : Numeral) (negative : Bool) :
    (numeral.toBinary negative : Binary f).place ≤ f.largest := by
  have zero : (.finite negative 0 : Binary f).place ≤ f.largest := by
    cases negative <;> exact Int.natCast_nonneg _
  unfold Numeral.toBinary Binary.ofFraction
  dsimp only
  split_ifs
  · exact zero
  · exact Int.natCast_nonneg _
  · exact zero
  · exact ofUnits_place_le _ _ _
  · exact ofUnits_place_le _ _ _

theorem readBinary_place_le {cs : List Char} {x : Binary f} (read : readBinary cs = some x) :
    x.place ≤ f.largest := by
  have unsigned {negative : Bool} {cs : List Char}
      (read : readUnsignedBinary negative cs = some x) : x.place ≤ f.largest := by
    unfold readUnsignedBinary at read
    split_ifs at read
    · obtain rfl := Option.some.inj read
      exact Int.natCast_nonneg _
    · obtain rfl := Option.some.inj read
      exact Int.natCast_nonneg _
    · obtain ⟨numeral, _, rfl⟩ := Option.map_eq_some_iff.mp read
      exact toBinary_place_le numeral negative
  unfold readBinary at read
  split at read <;> exact unsigned read

end Range

end MapScript.Number
