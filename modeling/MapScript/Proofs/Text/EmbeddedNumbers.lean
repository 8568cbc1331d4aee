import Mathlib.Algebra.Group.Nat.Even
import Mathlib.Data.List.TakeWhile
import MapScript.Proofs.Text.NaturalOrder

set_option autoImplicit false

namespace MapScript.Text

open Std

def Numeric (run : List Char) : Prop :=
  ∀ c ∈ run, c.isDigit = true

instance (run : List Char) : Decidable (Numeric run) :=
  List.decidableBAll _ run

section Values

variable {a b run : List Char}

theorem toNat_sub_zero_lt {c : Char} (digit : c.isDigit = true) : c.toNat - '0'.toNat < 10 := by
  have bounds := isDigit_iff.mp digit
  have nine : '9'.toNat = '0'.toNat + 9 := rfl
  omega

theorem compare_digits {c d : Char} (first : c.isDigit = true) (second : d.isDigit = true) :
    Ord.compare c d = Ord.compare (c.toNat - '0'.toNat) (d.toNat - '0'.toNat) := by
  have low := (isDigit_iff.mp first).1
  have low' := (isDigit_iff.mp second).1
  rw [Piece.compare_char]
  simp only [Piece.place]
  rcases Nat.lt_trichotomy c.toNat d.toNat with less | same | more
  · rw [Nat.compare_eq_lt.mpr (by omega), Nat.compare_eq_lt.mpr (by omega)]
  · rw [same, Nat.compare_eq_eq.mpr rfl, Nat.compare_eq_eq.mpr rfl]
  · rw [Nat.compare_eq_gt.mpr (by omega), Nat.compare_eq_gt.mpr (by omega)]

theorem compare_ten_mul_add {d e : Nat} (small : d < 10) (small' : e < 10) (m n : Nat) :
    Ord.compare (10 * m + d) (10 * n + e) = (Ord.compare m n).then (Ord.compare d e) := by
  rcases Nat.lt_trichotomy m n with less | rfl | more
  · rw [Nat.compare_eq_lt.mpr less, Nat.compare_eq_lt.mpr (by omega), Ordering.lt_then]
  · rw [Nat.compare_eq_eq.mpr rfl, Ordering.eq_then]
    rcases Nat.lt_trichotomy d e with less | rfl | more
    · rw [Nat.compare_eq_lt.mpr less, Nat.compare_eq_lt.mpr (by omega)]
    · rw [Nat.compare_eq_eq.mpr rfl, Nat.compare_eq_eq.mpr rfl]
    · rw [Nat.compare_eq_gt.mpr more, Nat.compare_eq_gt.mpr (by omega)]
  · rw [Nat.compare_eq_gt.mpr more, Nat.compare_eq_gt.mpr (by omega), Ordering.gt_then]

theorem compare_ofDigitChars (same : a.length = b.length) (numeric : Numeric a)
    (numeric' : Numeric b) (m n : Nat) :
    Ord.compare (Nat.ofDigitChars 10 a m) (Nat.ofDigitChars 10 b n) =
      (Ord.compare m n).then (Ord.compare a b) := by
  -- The numbers grow digit by digit, so the induction is over whatever was read before.
  induction a generalizing b m n with
  | nil =>
    obtain rfl := List.length_eq_zero_iff.mp same.symm
    exact (Ordering.then_eq).symm
  | cons c a ih =>
    cases b with
    | nil => simp at same
    | cons d b =>
      obtain ⟨first, later⟩ := List.forall_mem_cons.mp numeric
      obtain ⟨second, later'⟩ := List.forall_mem_cons.mp numeric'
      have heads : Ord.compare (c :: a) (d :: b) =
          (Ord.compare c d).then (Ord.compare a b) := List.compareLex_cons_cons
      rw [Nat.ofDigitChars_cons, Nat.ofDigitChars_cons, ih (by simpa using same) later later',
        compare_ten_mul_add (toNat_sub_zero_lt first) (toNat_sub_zero_lt second), heads,
        compare_digits first second, Ordering.then_assoc]

theorem ofDigitChars_lt_pow (numeric : Numeric run) :
    Nat.ofDigitChars 10 run 0 < 10 ^ run.length := by
  induction run with
  | nil => decide
  | cons c rest ih =>
    obtain ⟨digit, later⟩ := List.forall_mem_cons.mp numeric
    have small : c.toNat - '0'.toNat ≤ 9 := Nat.le_of_lt_succ (toNat_sub_zero_lt digit)
    have bound := Nat.mul_le_mul_left (10 ^ rest.length) small
    have rest_lt := ih later
    rw [Nat.ofDigitChars_cons, Nat.mul_zero, Nat.zero_add, Nat.ofDigitChars_eq_ofDigitChars_zero,
      List.length_cons, Nat.pow_succ]
    omega

theorem pow_le_ofDigitChars {c : Char} {rest : List Char} (digit : c.isDigit = true)
    (leading : c ≠ '0') : 10 ^ rest.length ≤ Nat.ofDigitChars 10 (c :: rest) 0 := by
  have low := (isDigit_iff.mp digit).1
  have other : c.toNat ≠ '0'.toNat := mt Char.toNat_inj.mp leading
  have positive := Nat.mul_le_mul_left (10 ^ rest.length)
    (show 1 ≤ c.toNat - '0'.toNat by omega)
  rw [Nat.ofDigitChars_cons, Nat.mul_zero, Nat.zero_add, Nat.ofDigitChars_eq_ofDigitChars_zero]
  omega

theorem ofDigitChars_significant (run : List Char) :
    Nat.ofDigitChars 10 (significant run) 0 = Nat.ofDigitChars 10 run 0 := by
  conv_rhs => rw [← zeros_append_significant run]
  rw [Nat.ofDigitChars_append, Nat.ofDigitChars_replicate_zero, Nat.mul_zero]

theorem numeric_significant (numeric : Numeric run) : Numeric (significant run) :=
  fun c member => numeric c ((List.dropWhile_sublist _).mem member)

theorem ofDigitChars_lt_of_length_lt (numeric : Numeric a) (numeric' : Numeric b)
    (shorter : (significant a).length < (significant b).length) :
    Nat.ofDigitChars 10 a 0 < Nat.ofDigitChars 10 b 0 := by
  rw [← ofDigitChars_significant a, ← ofDigitChars_significant b]
  have inside := numeric_significant numeric'
  have head := List.head?_dropWhile_not (· == '0') b
  rw [show b.dropWhile (· == '0') = significant b from rfl] at head
  -- The longer run begins with a digit other than zero, and that is worth more than all the shorter.
  cases digits : significant b with
  | nil => simp [digits] at shorter
  | cons c rest =>
    rw [digits] at head inside shorter
    have leading : c ≠ '0' := by simpa using head
    have steps : (significant a).length ≤ rest.length := Nat.le_of_lt_succ shorter
    calc
      Nat.ofDigitChars 10 (significant a) 0 < 10 ^ (significant a).length :=
        ofDigitChars_lt_pow (numeric_significant numeric)
      _ ≤ 10 ^ rest.length := Nat.pow_le_pow_right (by decide) steps
      _ ≤ Nat.ofDigitChars 10 (c :: rest) 0 :=
        pow_le_ofDigitChars (inside c List.mem_cons_self) leading

theorem compareRuns_numeric (numeric : Numeric a) (numeric' : Numeric b) :
    compareRuns a b = (Ord.compare (Nat.ofDigitChars 10 a 0) (Nat.ofDigitChars 10 b 0)).then
      (Ord.compare a.length b.length) := by
  rw [compareRuns, ← Ordering.then_assoc]
  congr 1
  -- The digits decide only between runs of one length; otherwise the longer run is the greater number.
  rcases Nat.lt_trichotomy (significant a).length (significant b).length with less | same | more
  · rw [Nat.compare_eq_lt.mpr less, Ordering.lt_then,
      Nat.compare_eq_lt.mpr (ofDigitChars_lt_of_length_lt numeric numeric' less)]
  · rw [← ofDigitChars_significant a, ← ofDigitChars_significant b,
      compare_ofDigitChars same (numeric_significant numeric) (numeric_significant numeric'), same,
      Nat.compare_eq_eq.mpr rfl, Nat.compare_eq_eq.mpr rfl]
  · rw [Nat.compare_eq_gt.mpr more, Ordering.gt_then,
      Nat.compare_eq_gt.mpr (ofDigitChars_lt_of_length_lt numeric' numeric more)]

end Values

section Cuts

variable {front back run : List Char}

theorem pieces_run (present : run ≠ []) (numeric : Numeric run) : pieces run = [.run run] := by
  cases run with
  | nil => exact absurd rfl present
  | cons c rest =>
    obtain ⟨digit, later⟩ := List.forall_mem_cons.mp numeric
    have none : rest.dropWhile Char.isDigit = [] := List.dropWhile_eq_nil_iff.mpr later
    have all : rest.takeWhile Char.isDigit = rest := List.takeWhile_eq_self_iff.mpr later
    rw [pieces, if_pos digit, none, all, pieces]

def Apart (front back : List Char) : Prop :=
  (∀ c ∈ front.getLast?, c.isDigit = false) ∨ ∀ c ∈ back.head?, c.isDigit = false

theorem Apart.of_suffix {part : List Char} (apart : Apart front back) (suffix : part <:+ front) :
    Apart part back := by
  refine apart.imp_left fun clear c last => clear c ?_
  obtain ⟨before, rfl⟩ := suffix
  simp [List.getLast?_append, Option.mem_def.mp last]

theorem span_append {c : Char} {rest : List Char} (digit : c.isDigit = true)
    (apart : Apart (c :: rest) back) :
    (rest ++ back).takeWhile Char.isDigit = rest.takeWhile Char.isDigit ∧
      (rest ++ back).dropWhile Char.isDigit = rest.dropWhile Char.isDigit ++ back := by
  induction rest generalizing c with
  | nil =>
    -- The run reaches the cut, so what follows the cut is no digit.
    have stops : ∀ d ∈ back.head?, d.isDigit = false :=
      apart.resolve_left fun clear => by simpa [digit] using clear c rfl
    cases back with
    | nil => exact ⟨rfl, rfl⟩
    | cons d later => simp [stops d rfl]
  | cons d later ih =>
    by_cases inside : d.isDigit
    · simpa [inside] using ih inside (apart.of_suffix (List.suffix_cons c _))
    · simp [inside]

theorem pieces_append (apart : Apart front back) :
    pieces (front ++ back) = pieces front ++ pieces back := by
  fun_induction pieces front with
  | case1 => rfl
  | case2 c rest digit ih =>
    obtain ⟨run_eq, rest_eq⟩ := span_append digit apart
    have behind : Apart (rest.dropWhile Char.isDigit) back :=
      apart.of_suffix ((List.dropWhile_suffix _).trans (List.suffix_cons c rest))
    rw [List.cons_append, pieces, if_pos digit, run_eq, rest_eq, ih behind, List.cons_append]
  | case3 c rest other ih =>
    rw [List.cons_append, pieces, if_neg other, ih (apart.of_suffix (List.suffix_cons c rest)),
      List.cons_append]

theorem compareLex_append_left {A : Type} {cmp : A → A → Ordering} [ReflCmp cmp]
    (front first second : List A) :
    List.compareLex cmp (front ++ first) (front ++ second) = List.compareLex cmp first second := by
  induction front with
  | nil => rfl
  | cons x rest ih =>
    have same : cmp x x = .eq := ReflCmp.compare_self
    rw [List.cons_append, List.cons_append, List.compareLex_cons_cons, same, ih, Ordering.eq_then]

end Cuts

def runNumber (digits : String) : Nat :=
  Nat.ofDigitChars 10 digits.toList 0

/-- A text of digits that is a whole run when it stands between the two others. -/
structure Embedded (front digits back : String) : Prop where
  present : digits ≠ ""
  numeric : Numeric digits.toList
  before : ∀ c ∈ front.toList.getLast?, c.isDigit = false
  behind : ∀ c ∈ back.toList.head?, c.isDigit = false

theorem Embedded.pieces_eq {front digits back : String} (embedded : Embedded front digits back) :
    pieces (front ++ digits ++ back).toList =
      pieces front.toList ++ .run digits.toList :: pieces back.toList := by
  have present : digits.toList ≠ [] := by simpa using embedded.present
  rw [String.toList_append, String.toList_append, List.append_assoc,
    pieces_append (.inl embedded.before), pieces_append (.inr embedded.behind),
    pieces_run present embedded.numeric, List.singleton_append]

theorem naturalCompare_embedded {p m n s t : String} (first : Embedded p m s)
    (second : Embedded p n t) : naturalCompare (p ++ m ++ s) (p ++ n ++ t) =
      (Ord.compare (runNumber m) (runNumber n)).then
        ((Ord.compare m.length n.length).then (naturalCompare s t)) := by
  rw [naturalCompare_eq, first.pieces_eq, second.pieces_eq, compareLex_append_left,
    List.compareLex_cons_cons, Piece.compare_runs,
    compareRuns_numeric first.numeric second.numeric, Ordering.then_assoc, naturalCompare_eq]
  rfl

theorem embedded_numbers_compare_by_value {p m n s t : String} (first : Embedded p m s)
    (second : Embedded p n t) :
    (runNumber m < runNumber n → naturalCompare (p ++ m ++ s) (p ++ n ++ t) = .lt) ∧
      (runNumber m = runNumber n → m.length < n.length →
        naturalCompare (p ++ m ++ s) (p ++ n ++ t) = .lt) ∧
      (m = n → naturalCompare (p ++ m ++ s) (p ++ n ++ t) = naturalCompare s t) := by
  rw [naturalCompare_embedded first second]
  refine ⟨fun smaller => ?_, fun equal shorter => ?_, fun same => ?_⟩
  · rw [Nat.compare_eq_lt.mpr smaller, Ordering.lt_then]
  · rw [Nat.compare_eq_eq.mpr equal, Ordering.eq_then, Nat.compare_eq_lt.mpr shorter,
      Ordering.lt_then]
  · rw [same, Nat.compare_eq_eq.mpr rfl, Ordering.eq_then, Nat.compare_eq_eq.mpr rfl,
      Ordering.eq_then]

-- The numbers are 99 and 100, then 7 twice; the digits of the common front stay out of it.
theorem embedded_numbers_compare_by_value_floors :
    naturalCompare "map7 act0099é" "map7 act100" = .lt ∧
      naturalCompare "map7 act07x" "map7 act007a" = .lt ∧
      naturalCompare "map7 act007 b12" "map7 act007 b9" = naturalCompare " b12" " b9" := by
  have small : Embedded "map7 act" "0099" "é" :=
    ⟨by decide, by decide +kernel, by simp, by simp⟩
  have large : Embedded "map7 act" "100" "" :=
    ⟨by decide, by decide +kernel, by simp, by simp⟩
  have short : Embedded "map7 act" "07" "x" :=
    ⟨by decide, by decide +kernel, by simp, by simp⟩
  have long : Embedded "map7 act" "007" "a" :=
    ⟨by decide, by decide +kernel, by simp, by simp⟩
  have upper : Embedded "map7 act" "007" " b12" :=
    ⟨by decide, by decide +kernel, by simp, by simp⟩
  have lower : Embedded "map7 act" "007" " b9" :=
    ⟨by decide, by decide +kernel, by simp, by simp⟩
  exact ⟨(embedded_numbers_compare_by_value small large).1 (by decide),
    (embedded_numbers_compare_by_value short long).2.1 (by decide) (by decide),
    (embedded_numbers_compare_by_value upper lower).2.2 rfl⟩

end MapScript.Text
