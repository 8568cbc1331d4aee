import MapScript.Number.Binary

set_option autoImplicit false

namespace MapScript.Number.Binary

variable {f : BinaryFormat} {x y z : Binary f}

def region : Binary f → Int
  | .infinity negative => if negative then -1 else 1
  | _ => 0

def place : Binary f → Int
  | .finite negative units => signedUnits negative units
  | _ => 0

theorem lt_iff : x.lt y = true ↔ x ≠ .nan ∧ y ≠ .nan ∧
    (x.region < y.region ∨ x.region = y.region ∧ x.place < y.place) := by
  cases x with
  | nan => simp [lt]
  | infinity s =>
    cases y with
    | nan => simp [lt]
    | infinity t => cases s <;> cases t <;> simp [lt, region, place]
    | finite t n => cases s <;> simp [lt, region]
  | finite s m =>
    cases y with
    | nan => simp [lt]
    | infinity t => cases t <;> simp [lt, region]
    | finite t n => simp [lt, region, place]

theorem eq_iff : x.eq y = true ↔
    x ≠ .nan ∧ y ≠ .nan ∧ x.region = y.region ∧ x.place = y.place := by
  cases x with
  | nan => simp [eq]
  | infinity s =>
    cases y with
    | nan => simp [eq]
    | infinity t => cases s <;> cases t <;> simp [eq, region, place]
    | finite t n => cases s <;> simp [eq, region]
  | finite s m =>
    cases y with
    | nan => simp [eq]
    | infinity t => cases t <;> simp [eq, region]
    | finite t n => simp [eq, region, place]

theorem eq_self (number : x ≠ .nan) : x.eq x = true :=
  eq_iff.mpr ⟨number, number, rfl, rfl⟩

theorem eq_trans (first : x.eq y = true) (second : y.eq z = true) : x.eq z = true := by
  obtain ⟨left, _, same⟩ := eq_iff.mp first
  obtain ⟨_, right, same'⟩ := eq_iff.mp second
  exact eq_iff.mpr ⟨left, right, by omega⟩

theorem lt_trans (first : x.lt y = true) (second : y.lt z = true) : x.lt z = true := by
  obtain ⟨left, _, below⟩ := lt_iff.mp first
  obtain ⟨_, right, below'⟩ := lt_iff.mp second
  exact lt_iff.mpr ⟨left, right, by omega⟩

theorem lt_of_lt_of_eq (first : x.lt y = true) (second : y.eq z = true) : x.lt z = true := by
  obtain ⟨left, _, below⟩ := lt_iff.mp first
  obtain ⟨_, right, same⟩ := eq_iff.mp second
  exact lt_iff.mpr ⟨left, right, by omega⟩

theorem lt_of_eq_of_lt (first : x.eq y = true) (second : y.lt z = true) : x.lt z = true := by
  obtain ⟨left, _, same⟩ := eq_iff.mp first
  obtain ⟨_, right, below⟩ := lt_iff.mp second
  exact lt_iff.mpr ⟨left, right, by omega⟩

theorem not_lt_lowest (x : Binary f) : x.lt (.infinity true) = false := by
  cases x <;> simp [lt]

theorem eq_of_not_lt (left : x ≠ .nan) (right : y ≠ .nan) (above : x.lt y = false)
    (below : y.lt x = false) : x.eq y = true := by
  have above' := (not_congr lt_iff).mp (Bool.eq_false_iff.mp above)
  have below' := (not_congr lt_iff).mp (Bool.eq_false_iff.mp below)
  simp only [left, right, ne_eq, not_false_eq_true, true_and] at above' below'
  exact eq_iff.mpr ⟨left, right, by omega⟩

end MapScript.Number.Binary
