import Mathlib.Data.List.TakeWhile
import MapScript.Text.Blank

set_option autoImplicit false

namespace MapScript.Text

def Blank (cs : List Char) : Prop :=
  ∀ c ∈ cs, isBlank c = true

def Solid (cs : List Char) : Prop :=
  ∀ c ∈ cs, isBlank c = false

-- Both by the characters of the text, not by all characters there are.
instance (cs : List Char) : Decidable (Blank cs) :=
  List.decidableBAll _ cs

instance (cs : List Char) : Decidable (Solid cs) :=
  List.decidableBAll _ cs

def Visible (cs : List Char) : Prop :=
  ∃ c ∈ cs, isBlank c = false

theorem blank_nil : Blank [] :=
  fun _ member => absurd member List.not_mem_nil

theorem visible_append {front back : List Char} :
    Visible (front ++ back) ↔ Visible front ∨ Visible back := by
  simp only [Visible, List.mem_append, or_and_right, exists_or]

theorem not_visible {cs : List Char} : ¬ Visible cs ↔ Blank cs := by
  simp [Visible, Blank]

theorem trimStart_eq_nil {cs : List Char} : trimStart cs = [] ↔ Blank cs :=
  List.dropWhile_eq_nil_iff

theorem trimEnd_eq_nil {cs : List Char} : trimEnd cs = [] ↔ Blank cs := by
  simp [trimEnd, Blank]

theorem trimStart_append (front back : List Char) : trimStart (front ++ back) =
    if (trimStart front).isEmpty then trimStart back else trimStart front ++ back :=
  List.dropWhile_append

theorem trimEnd_append (front back : List Char) : trimEnd (front ++ back) =
    if (trimEnd back).isEmpty then trimEnd front else front ++ trimEnd back := by
  simp only [trimEnd, List.reverse_append, List.dropWhile_append, List.isEmpty_reverse]
  split <;> simp

theorem trimEnd_append_of_blank (front : List Char) {back : List Char} (blank : Blank back) :
    trimEnd (front ++ back) = trimEnd front := by
  simp [trimEnd_append, trimEnd_eq_nil.mpr blank]

theorem trimEnd_append_of_visible (front : List Char) {back : List Char} (visible : Visible back) :
    trimEnd (front ++ back) = front ++ trimEnd back := by
  have seen : trimEnd back ≠ [] := fun none => not_visible.mpr (trimEnd_eq_nil.mp none) visible
  simp [trimEnd_append, seen]

theorem exists_eq_trimEnd_append (cs : List Char) :
    ∃ blanks, Blank blanks ∧ cs = trimEnd cs ++ blanks := by
  refine ⟨(cs.reverse.takeWhile isBlank).reverse, fun c member => ?_, ?_⟩
  · exact List.mem_takeWhile_imp (List.mem_reverse.mp member)
  · rw [trimEnd, ← List.reverse_append, List.takeWhile_append_dropWhile, List.reverse_reverse]

theorem trim_between {front back : List Char} (blank : Blank front) (blank' : Blank back)
    (cs : List Char) : trim (front ++ cs ++ back) = trim cs := by
  rw [List.append_assoc, trim, trimStart_append, trimStart_eq_nil.mpr blank, List.isEmpty_nil,
    if_pos rfl, trimStart_append]
  split
  next none =>
    rw [trimStart_eq_nil.mpr blank', trim, List.isEmpty_iff.mp none]
  next => rw [trimEnd_append_of_blank _ blank', trim]

theorem trim_of_visible_head {c : Char} (visible : isBlank c = false) (cs : List Char) :
    trim (c :: cs) = trimEnd (c :: cs) := by
  rw [trim, trimStart, List.dropWhile_cons_of_neg (by simp [visible])]

theorem trimEnd_of_solid {cs : List Char} (solid : Solid cs) : trimEnd cs = cs := by
  cases reversed : cs.reverse with
  | nil => rw [List.reverse_eq_nil_iff.mp reversed, trimEnd, List.reverse_nil, List.dropWhile_nil,
      List.reverse_nil]
  | cons last front =>
    have seen : isBlank last = false := solid last (List.mem_reverse.mp (by simp [reversed]))
    rw [trimEnd, reversed, List.dropWhile_cons_of_neg (by simp [seen]), ← reversed,
      List.reverse_reverse]

theorem isBlank_head_trim {cs rest : List Char} {c : Char} (front : trim cs = c :: rest) :
    isBlank c = false := by
  cases start : trimStart cs with
  | nil => simp [trim, start, trimEnd] at front
  | cons first later =>
    have seen : isBlank first = false := by
      have head := List.head?_dropWhile_not isBlank cs
      simpa [show cs.dropWhile isBlank = first :: later from start] using head
    obtain ⟨blanks, _, whole⟩ := exists_eq_trimEnd_append (first :: later)
    rw [trim, start] at front
    rw [front, List.cons_append] at whole
    exact (List.cons.inj whole).1 ▸ seen

theorem trim_eq_nil {cs : List Char} : trim cs = [] ↔ Blank cs := by
  constructor
  · intro none
    have blank : Blank (trimStart cs) := trimEnd_eq_nil.mp none
    cases start : trimStart cs with
    | nil => exact trimStart_eq_nil.mp start
    | cons first later =>
      have seen := blank first (by simp [start])
      have head := List.head?_dropWhile_not isBlank cs
      simp [show cs.dropWhile isBlank = first :: later from start, seen] at head
  · intro blank
    rw [trim, trimStart_eq_nil.mpr blank]
    rfl

theorem trim_of_trimmed {s : String} (same : trimmed s = s) : trim s.toList = s.toList := by
  simpa [trimmed] using congrArg String.toList same

theorem visible_of_trim {cs : List Char} (same : trim cs = cs) (present : cs ≠ []) : Visible cs := by
  refine Classical.byContradiction fun hidden => ?_
  have none : trimStart cs = [] := trimStart_eq_nil.mpr (not_visible.mp hidden)
  rw [trim, none] at same
  exact present same.symm

end MapScript.Text
