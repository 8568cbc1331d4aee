import MapScript.Catalog.Conditions

set_option autoImplicit false

namespace MapScript

open Number

theorem writeInteger_natCast (n : Nat) : writeInteger n = Nat.toDigits 10 n := by
  simp [writeInteger]

theorem toDigits_inj {m n : Nat} (same : Nat.toDigits 10 m = Nat.toDigits 10 n) : m = n := by
  have value_eq := congrArg (Nat.ofDigitChars 10 · 0) same
  simpa using value_eq

theorem slash_notMem_toDigits (n : Nat) : '/' ∉ Nat.toDigits 10 n := by
  intro member
  have digit := Nat.isDigit_of_mem_toDigits (by decide) (by decide) member
  cases digit

theorem cut_at_first {A : Type} {mark : A} {front front' back back' : List A}
    (absent : mark ∉ front) (absent' : mark ∉ front')
    (same : front ++ mark :: back = front' ++ mark :: back') : front = front' ∧ back = back' := by
  rcases List.append_eq_append_iff.mp same with ⟨rest, rfl, tail⟩ | ⟨rest, rfl, tail⟩ <;>
    cases rest <;> simp_all

theorem EventId.number_inj {id other : EventId}
    (same : id.number.toNat = other.number.toNat) : id = other := by
  obtain ⟨number⟩ := id
  obtain ⟨number'⟩ := other
  obtain rfl : number = number' := UInt32.toNat_inj.mp same
  rfl

namespace Conditions

def keyOf (id : EventId) (slot : String) : String :=
  id.render ++ "/" ++ slot

theorem memoryKey_eq (event : Event) (condition : Condition) :
    memoryKey event condition = keyOf event.id condition.slot := rfl

theorem keyOf_toList (id : EventId) (slot : String) :
    (keyOf id slot).toList = '#' :: (Nat.toDigits 10 id.number.toNat ++ '/' :: slot.toList) := by
  simp [keyOf, EventId.render, writeInteger_natCast]

theorem keyOf_inj {id other : EventId} {slot another : String} :
    keyOf id slot = keyOf other another ↔ id = other ∧ slot = another := by
  constructor
  · intro same
    have texts := congrArg String.toList same
    simp only [keyOf_toList, List.cons.injEq, true_and] at texts
    obtain ⟨digits, slots⟩ :=
      cut_at_first (slash_notMem_toDigits _) (slash_notMem_toDigits _) texts
    exact ⟨EventId.number_inj (toDigits_inj digits), String.toList_inj.mp slots⟩
  · rintro ⟨rfl, rfl⟩
    rfl

end Conditions

end MapScript
