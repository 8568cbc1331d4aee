import MapScript.Text.NaturalOrder

/-!
Natural order is a total order of all texts. Two texts are compared at the same time, but each of
them can be cut on its own: into runs of digits and single characters. The comparison meets these
pieces one by one, and pieces compare by a place in a row: characters below the digits, then runs,
then the other characters.
-/

set_option autoImplicit false

namespace MapScript.Text

open Std

theorem zeros_append_significant (run : List Char) :
    List.replicate (run.length - (significant run).length) '0' ++ significant run = run := by
  induction run with
  | nil => rfl
  | cons c rest ih =>
    by_cases zero : c = '0'
    · subst zero
      have shorter : (significant rest).length ≤ rest.length :=
        (List.dropWhile_sublist _).length_le
      have unchanged : significant ('0' :: rest) = significant rest := rfl
      rw [unchanged, List.length_cons, Nat.succ_sub shorter, List.replicate_succ, List.cons_append,
        ih]
    · have unchanged : significant (c :: rest) = c :: rest :=
        List.dropWhile_cons_of_neg (by simpa using zero)
      simp [unchanged]

theorem compareRuns_eq : compareRuns =
    compareLex (compareOn fun run => (significant run).length)
      (compareLex (compareOn significant) (compareOn List.length)) := rfl

instance : TransCmp compareRuns := by
  rw [compareRuns_eq]
  infer_instance

instance : LawfulEqCmp compareRuns where
  compare_self := ReflCmp.compare_self
  eq_of_compare {a b} same := by
    simp only [compareRuns, Ordering.then_eq_eq, LawfulEqCmp.compare_eq_iff_eq] at same
    obtain ⟨_, digits, lengths⟩ := same
    -- The leading zeros are as many as the two lengths say.
    rw [← zeros_append_significant a, ← zeros_append_significant b, digits, lengths]

theorem isDigit_iff {c : Char} :
    c.isDigit = true ↔ '0'.toNat ≤ c.toNat ∧ c.toNat ≤ '9'.toNat := by
  simp [Char.isDigit, UInt32.le_iff_toNat_le]

inductive Piece where
  | run (digits : List Char)
  | letter (c : Char)
  deriving DecidableEq, Repr

namespace Piece

def place : Piece → Nat
  | .run _ => 2 * '0'.toNat
  | .letter c => 2 * c.toNat + 1

def digits : Piece → List Char
  | .run digits => digits
  | .letter _ => []

def compare (p q : Piece) : Ordering :=
  (Ord.compare p.place q.place).then (compareRuns p.digits q.digits)

def text : Piece → List Char
  | .run digits => digits
  | .letter c => [c]

theorem eq_of_place {p q : Piece} (place_eq : p.place = q.place)
    (digits_eq : p.digits = q.digits) : p = q := by
  cases p with
  | run a =>
    cases q with
    | run b => exact congrArg run digits_eq
    | letter d =>
      simp only [place] at place_eq
      omega
  | letter c =>
    cases q with
    | run b =>
      simp only [place] at place_eq
      omega
    | letter d =>
      have same : c.toNat = d.toNat := by
        simp only [place] at place_eq
        omega
      rw [Char.toNat_inj.mp same]

instance : TransCmp fun p q : Piece => compareRuns p.digits q.digits where
  eq_swap {p q} :=
    (OrientedCmp.eq_swap : compareRuns p.digits q.digits = (compareRuns q.digits p.digits).swap)
  isLE_trans {p _ r} first second :=
    (TransCmp.isLE_trans first second : (compareRuns p.digits r.digits).isLE = true)

instance : TransCmp compare :=
  inferInstanceAs (TransCmp (compareLex (compareOn place) fun p q => compareRuns p.digits q.digits))

instance : LawfulEqCmp compare where
  compare_self := ReflCmp.compare_self
  eq_of_compare {p q} same := by
    simp only [compare, Ordering.then_eq_eq, LawfulEqCmp.compare_eq_iff_eq] at same
    exact eq_of_place same.1 same.2

theorem compare_runs (a b : List Char) : (run a).compare (run b) = compareRuns a b := by
  have same : Ord.compare (run a).place (run b).place = .eq := Nat.compare_eq_eq.mpr rfl
  rw [compare, same]
  rfl

theorem compare_char (c d : Char) :
    Ord.compare c d = Ord.compare (letter c).place (letter d).place := by
  have below : c < d ↔ 2 * c.toNat + 1 < 2 * d.toNat + 1 :=
    Iff.trans (b := c.toNat < d.toNat) Iff.rfl (by omega)
  have same : c = d ↔ 2 * c.toNat + 1 = 2 * d.toNat + 1 :=
    Char.toNat_inj.symm.trans (by omega)
  simp only [Ord.compare, compareOfLessAndEq, place, below, same]
  congr

theorem compare_letters (c d : Char) : (letter c).compare (letter d) = Ord.compare c d := by
  have none : compareRuns (letter c).digits (letter d).digits = .eq := rfl
  rw [compare, none, Ordering.then_eq, compare_char]

theorem compare_run_letter {c d : Char} (digit : c.isDigit = true) (other : d.isDigit = false)
    (a : List Char) : Ord.compare c d ≠ .eq ∧ (run a).compare (letter d) = Ord.compare c d := by
  have inside : '0'.toNat ≤ c.toNat ∧ c.toNat ≤ '9'.toNat := isDigit_iff.mp digit
  have outside : ¬ ('0'.toNat ≤ d.toNat ∧ d.toNat ≤ '9'.toNat) :=
    mt isDigit_iff.mpr (by simp [other])
  have nine : '9'.toNat = '0'.toNat + 9 := rfl
  simp only [compare, compare_char, place]
  rcases Nat.lt_or_ge d.toNat '0'.toNat with below | above
  · rw [Nat.compare_eq_gt.mpr (by omega), Nat.compare_eq_gt.mpr (by omega)]
    exact ⟨by simp, rfl⟩
  · rw [Nat.compare_eq_lt.mpr (by omega), Nat.compare_eq_lt.mpr (by omega)]
    exact ⟨by simp, rfl⟩

theorem compare_letter_run {c d : Char} (other : c.isDigit = false) (digit : d.isDigit = true)
    (b : List Char) : Ord.compare c d ≠ .eq ∧ (letter c).compare (run b) = Ord.compare c d := by
  obtain ⟨decided, same⟩ := compare_run_letter digit other b
  have swapped : Ord.compare c d = (Ord.compare d c).swap := OrientedCmp.eq_swap
  rw [swapped, ← same]
  exact ⟨by simpa [same] using decided, OrientedCmp.eq_swap⟩

end Piece

def pieces : List Char → List Piece
  | [] => []
  | c :: rest =>
    if c.isDigit then
      .run (c :: rest.takeWhile Char.isDigit) :: pieces (rest.dropWhile Char.isDigit)
    else .letter c :: pieces rest
termination_by cs => cs.length
decreasing_by
  · exact Nat.lt_succ_of_le (List.dropWhile_sublist _).length_le
  · exact Nat.lt_succ_self _

theorem flatMap_pieces (cs : List Char) : (pieces cs).flatMap Piece.text = cs := by
  fun_induction pieces cs with
  | case1 => rfl
  | case2 c rest digit ih => simp [Piece.text, ih]
  | case3 c rest other ih => simp [Piece.text, ih]

theorem pieces_inj {cs ds : List Char} (same : pieces cs = pieces ds) : cs = ds := by
  rw [← flatMap_pieces cs, same, flatMap_pieces]

theorem then_of_ne {first : Ordering} (decided : first ≠ .eq) (second third : Ordering) :
    first.then second = first.then third := by
  cases first <;> simp at decided ⊢

theorem compareTexts_eq (a b : List Char) :
    compareTexts a b = List.compareLex Piece.compare (pieces a) (pieces b) := by
  fun_induction compareTexts a b with
  | case1 =>
    rw [pieces]
    rfl
  | case2 d b =>
    rw [pieces, pieces]
    split <;> rfl
  | case3 c a =>
    rw [pieces, pieces]
    split <;> rfl
  | case4 c a d b digits ih =>
    simp only [Bool.and_eq_true] at digits
    simp only [pieces, digits, if_true, List.compareLex_cons_cons, Piece.compare_runs, ih]
  | case5 c a d b digits ih =>
    rw [pieces, pieces]
    cases here : c.isDigit with
    | true =>
      have there : d.isDigit = false := by simpa [here] using digits
      obtain ⟨decided, same⟩ := Piece.compare_run_letter here there (c :: a.takeWhile Char.isDigit)
      simp only [there, if_true, Bool.false_eq_true, if_false, List.compareLex_cons_cons, same]
      exact then_of_ne decided _ _
    | false =>
      cases there : d.isDigit with
      | true =>
        obtain ⟨decided, same⟩ :=
          Piece.compare_letter_run here there (d :: b.takeWhile Char.isDigit)
        simp only [if_true, Bool.false_eq_true, if_false, List.compareLex_cons_cons, same]
        exact then_of_ne decided _ _
      | false =>
        simp only [Bool.false_eq_true, if_false, List.compareLex_cons_cons, Piece.compare_letters, ih]

theorem naturalCompare_eq (a b : String) : naturalCompare a b =
    List.compareLex Piece.compare (pieces a.toList) (pieces b.toList) :=
  compareTexts_eq a.toList b.toList

instance : TransCmp naturalCompare where
  eq_swap {a b} := by
    rw [naturalCompare_eq, naturalCompare_eq]
    exact OrientedCmp.eq_swap
  isLE_trans {a b c} first second := by
    rw [naturalCompare_eq] at *
    exact TransCmp.isLE_trans first second

instance : LawfulEqCmp naturalCompare where
  compare_self := ReflCmp.compare_self
  eq_of_compare {a b} same := by
    rw [naturalCompare_eq] at same
    exact String.toList_inj.mp (pieces_inj (LawfulEqCmp.eq_of_compare same))

theorem naturalCompare_totally_orders (a b c : String) :
    (naturalCompare a b = .eq ↔ a = b) ∧
      naturalCompare b a = (naturalCompare a b).swap ∧
      (naturalCompare a b = .lt → naturalCompare b c = .lt → naturalCompare a c = .lt) :=
  ⟨LawfulEqCmp.compare_eq_iff_eq, OrientedCmp.eq_swap, TransCmp.lt_trans⟩

-- Three rules in one chain: a leading zero, then the value of the run, then a letter behind it.
theorem naturalCompare_totally_orders_keys :
    naturalCompare "act2" "act02" = .lt ∧ naturalCompare "act02" "act10é" = .lt ∧
      naturalCompare "act2" "act10é" = .lt ∧ naturalCompare "act02" "act2" = .gt := by
  have first : naturalCompare "act2" "act02" = .lt := by decide +kernel
  have second : naturalCompare "act02" "act10é" = .lt := by decide +kernel
  obtain ⟨_, swapped, through⟩ := naturalCompare_totally_orders "act2" "act02" "act10é"
  exact ⟨first, second, through first second, by rw [swapped, first]; rfl⟩

theorem naturalLE_trans {a b c : String} (first : naturalLE a b = true)
    (second : naturalLE b c = true) : naturalLE a c = true :=
  TransCmp.isLE_trans first second

theorem naturalLE_total (a b : String) : (naturalLE a b || naturalLE b a) = true := by
  have swapped : naturalCompare a b = (naturalCompare b a).swap := OrientedCmp.eq_swap
  cases order : naturalCompare b a <;> simp [naturalLE, swapped, order]

theorem naturalCompare_lt_of_ne {a b : String} (le : naturalLE a b = true) (other : a ≠ b) :
    naturalCompare a b = .lt := by
  cases order : naturalCompare a b with
  | lt => rfl
  | eq => exact absurd (LawfulEqCmp.eq_of_compare order) other
  | gt => simp [naturalLE, order] at le

theorem ne_of_naturalCompare_lt {a b : String} (before : naturalCompare a b = .lt) : a ≠ b := by
  rintro rfl
  have same : naturalCompare a a = .eq := ReflCmp.compare_self
  simp [same] at before

end MapScript.Text
