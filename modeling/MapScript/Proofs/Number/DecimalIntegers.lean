import MapScript.Number.Integer
import MapScript.Proofs.Text.Trimming

set_option autoImplicit false

namespace MapScript.Number

open Text

/-- `Denotes cs n`: a decimal numeral of the integer `n`, with or without a sign. -/
inductive Denotes : List Char → Int → Prop
  | plain {digits : List Char} (present : digits ≠ []) (numeric : ∀ c ∈ digits, c.isDigit = true) :
      Denotes digits (Nat.ofDigitChars 10 digits 0)
  | plus {digits : List Char} (present : digits ≠ []) (numeric : ∀ c ∈ digits, c.isDigit = true) :
      Denotes ('+' :: digits) (Nat.ofDigitChars 10 digits 0)
  | minus {digits : List Char} (present : digits ≠ []) (numeric : ∀ c ∈ digits, c.isDigit = true) :
      Denotes ('-' :: digits) (-(Nat.ofDigitChars 10 digits 0 : Int))

section Reading

variable {bound value n : Nat} {outside : IntegerError} {cs : List Char} {low high m : Int}

theorem ofDigitChars_digit (c : Char) (rest : List Char) (value : Nat) :
    Nat.ofDigitChars 10 (c :: rest) value =
      Nat.ofDigitChars 10 rest (10 * value + digitValue c) :=
  Nat.ofDigitChars_cons

theorem le_ofDigitChars (cs : List Char) (value : Nat) : value ≤ Nat.ofDigitChars 10 cs value := by
  induction cs generalizing value with
  | nil => exact Nat.le_refl value
  | cons c rest ih =>
    rw [ofDigitChars_digit]
    have later := ih (10 * value + digitValue c)
    omega

theorem readDigits_eq_ok_iff (start : value ≤ bound) :
    readDigits bound outside value cs = .ok n ↔
      (∀ c ∈ cs, c.isDigit = true) ∧ Nat.ofDigitChars 10 cs value = n ∧ n ≤ bound := by
  induction cs generalizing value with
  | nil =>
    simp only [readDigits, Except.ok.injEq]
    constructor
    · rintro rfl
      exact ⟨by simp, rfl, start⟩
    · exact fun known => known.2.1
  | cons c rest ih =>
    rw [ofDigitChars_digit, List.forall_mem_cons]
    simp only [readDigits]
    split
    next digit =>
      split
      next within => simpa [digit] using ih within
      next beyond =>
        -- The reader refuses here already, and no later digit would make the value smaller.
        have later := le_ofDigitChars rest (10 * value + digitValue c)
        simp only [reduceCtorEq, false_iff]
        rintro ⟨_, rfl, within⟩
        exact beyond (Nat.le_trans later within)
    next other => simp [other]

theorem readMagnitude_eq_ok_iff : readMagnitude bound outside cs = .ok n ↔
    cs ≠ [] ∧ (∀ c ∈ cs, c.isDigit = true) ∧ Nat.ofDigitChars 10 cs 0 = n ∧ n ≤ bound := by
  unfold readMagnitude
  cases cs with
  | nil => simp
  | cons c rest =>
    rw [List.isEmpty_cons, if_neg Bool.false_ne_true, readDigits_eq_ok_iff (Nat.zero_le bound)]
    simp

theorem map_eq_ok_iff {A B E : Type} {x : Except E A} {f : A → B} {b : B} :
    x.map f = .ok b ↔ ∃ a, x = .ok a ∧ f a = b := by
  cases x <;> simp [Except.map]

theorem bind_pure_eq_ok_iff {A B E : Type} {x : Except E A} {f : A → B} {b : B} :
    (x >>= fun a => pure (f a)) = .ok b ↔ ∃ a, x = .ok a ∧ f a = b := by
  cases x <;> simp [bind, Except.bind, pure, Except.pure]

theorem not_denotes_nil : ¬ Denotes [] m := by
  intro denotes
  cases denotes with
  | plain present => exact present rfl

theorem denotes_plus : Denotes ('+' :: cs) m ↔
    cs ≠ [] ∧ (∀ c ∈ cs, c.isDigit = true) ∧ (Nat.ofDigitChars 10 cs 0 : Int) = m := by
  constructor
  · intro denotes
    cases denotes with
    | plain _ numeric => exact absurd (numeric '+' (by simp)) (by decide)
    | plus present numeric => exact ⟨present, numeric, rfl⟩
  · rintro ⟨present, numeric, rfl⟩
    exact .plus present numeric

theorem denotes_minus : Denotes ('-' :: cs) m ↔
    cs ≠ [] ∧ (∀ c ∈ cs, c.isDigit = true) ∧ -(Nat.ofDigitChars 10 cs 0 : Int) = m := by
  constructor
  · intro denotes
    cases denotes with
    | plain _ numeric => exact absurd (numeric '-' (by simp)) (by decide)
    | minus present numeric => exact ⟨present, numeric, rfl⟩
  · rintro ⟨present, numeric, rfl⟩
    exact .minus present numeric

theorem denotes_unsigned (plus : ∀ rest, cs ≠ '+' :: rest) (minus : ∀ rest, cs ≠ '-' :: rest) :
    Denotes cs m ↔
      cs ≠ [] ∧ (∀ c ∈ cs, c.isDigit = true) ∧ (Nat.ofDigitChars 10 cs 0 : Int) = m := by
  constructor
  · intro denotes
    cases denotes with
    | plain present numeric => exact ⟨present, numeric, rfl⟩
    | plus => exact absurd rfl (plus _)
    | minus => exact absurd rfl (minus _)
  · rintro ⟨present, numeric, rfl⟩
    exact .plain present numeric

theorem readNatural_eq_ok_iff (negative : low < 0) (positive : 0 ≤ high) :
    (readMagnitude high.toNat outside cs).map Int.ofNat = .ok m ↔
      (cs ≠ [] ∧ (∀ c ∈ cs, c.isDigit = true) ∧ (Nat.ofDigitChars 10 cs 0 : Int) = m) ∧
        low ≤ m ∧ m ≤ high := by
  simp only [map_eq_ok_iff, readMagnitude_eq_ok_iff, Int.ofNat_eq_natCast]
  constructor
  · rintro ⟨n, ⟨present, numeric, rfl, within⟩, rfl⟩
    exact ⟨⟨present, numeric, rfl⟩, by omega, by omega⟩
  · rintro ⟨⟨present, numeric, rfl⟩, _, within⟩
    exact ⟨_, ⟨present, numeric, rfl, by omega⟩, rfl⟩

theorem readInteger_eq_ok_iff (negative : low < 0) (positive : 0 ≤ high) :
    readInteger low high cs = .ok m ↔ Denotes cs m ∧ low ≤ m ∧ m ≤ high := by
  unfold readInteger
  split
  next => simp [not_denotes_nil]
  next rest =>
    rw [readNatural_eq_ok_iff negative positive, denotes_plus]
  next rest =>
    simp only [if_pos negative, map_eq_ok_iff, bind_pure_eq_ok_iff, readMagnitude_eq_ok_iff,
      denotes_minus]
    constructor
    · rintro ⟨_, ⟨n, ⟨present, numeric, rfl, within⟩, rfl⟩, rfl⟩
      exact ⟨⟨present, numeric, rfl⟩, by omega, by omega⟩
    · rintro ⟨⟨present, numeric, rfl⟩, within, _⟩
      exact ⟨_, ⟨_, ⟨present, numeric, rfl, by omega⟩, rfl⟩, rfl⟩
  next empty plus minus =>
    rw [readNatural_eq_ok_iff negative positive, denotes_unsigned plus minus]

end Reading

theorem isDigit_of_mem_toDigits (n : Nat) : ∀ c ∈ Nat.toDigits 10 n, c.isDigit = true :=
  fun _ member => Nat.isDigit_of_mem_toDigits (by decide) (by decide) member

theorem writeInteger_denotes (n : Int) : Denotes (writeInteger n) n := by
  have value_eq : Nat.ofDigitChars 10 (Nat.toDigits 10 n.natAbs) 0 = n.natAbs :=
    Nat.ofDigitChars_toDigits (by decide) (by decide)
  have numeric := isDigit_of_mem_toDigits n.natAbs
  unfold writeInteger
  split
  next negative => exact denotes_minus.mpr ⟨Nat.toDigits_ne_nil, numeric, by omega⟩
  next natural =>
    have denotes := Denotes.plain Nat.toDigits_ne_nil numeric
    rwa [value_eq, Int.natAbs_of_nonneg (by omega)] at denotes

theorem isBlank_of_isDigit {c : Char} (digit : c.isDigit = true) : isBlank c = false := by
  simp only [Char.isDigit, Bool.and_eq_true, decide_eq_true_eq, UInt32.le_iff_toNat_le] at digit
  have bounds : 48 ≤ c.toNat ∧ c.toNat ≤ 57 := digit
  simp only [isBlank, Bool.or_eq_false_iff, Bool.and_eq_false_iff, decide_eq_false_iff_not,
    beq_eq_false_iff_ne]
  omega

theorem Denotes.solid {cs : List Char} {n : Int} (denotes : Denotes cs n) : Solid cs := by
  cases denotes with
  | plain _ numeric => exact fun c member => isBlank_of_isDigit (numeric c member)
  | plus _ numeric | minus _ numeric =>
    refine List.forall_mem_cons.mpr ⟨by decide, fun c member => ?_⟩
    exact isBlank_of_isDigit (numeric c member)

def decimal (n : Int) : String :=
  String.ofList (writeInteger n)

theorem trim_decimal (n : Int) : trim (decimal n).toList = writeInteger n := by
  have solid := (writeInteger_denotes n).solid
  rw [decimal, String.toList_ofList]
  cases text : writeInteger n with
  | nil => rfl
  | cons c rest =>
    rw [text] at solid
    rw [trim_of_visible_head (solid c (by simp)), trimEnd_of_solid solid]

end MapScript.Number
