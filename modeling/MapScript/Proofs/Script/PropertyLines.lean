import MapScript.Proofs.Text.NaturalOrder
import MapScript.Script.Properties

set_option autoImplicit false

namespace MapScript.Script

open Text

def Unreadable (property : String × String) : Prop :=
  (isConditionKey property.1 = true ∧
      ∃ cause, parseCondition property.1 property.2 = .error cause) ∨
    (isActionKey property.1 = true ∧ ∃ cause, parseAction property.1 property.2 = .error cause)

theorem not_isActionKey {key : String} (condition : isConditionKey key = true) :
    isActionKey key = false := by
  obtain ⟨rest, chars⟩ := List.isPrefixOf_iff_prefix.mp condition
  rw [isActionKey, ← chars]
  rfl

theorem parseCondition_slot {slot line : String} {condition : Condition}
    (parsed : parseCondition slot line = .ok condition) : condition.slot = slot := by
  simp only [parseCondition] at parsed
  split at parsed
  next => cases parsed
  next =>
    split at parsed
    next => cases parsed
    next =>
      split at parsed
      next => cases parsed
      next =>
        obtain rfl := Except.ok.inj parsed
        rfl

theorem parseAction_slot {slot line : String} {action : Action}
    (parsed : parseAction slot line = .ok action) : action.slot = slot := by
  simp only [parseAction] at parsed
  split at parsed
  next => cases parsed
  next =>
    obtain rfl := Except.ok.inj parsed
    rfl

theorem readLines_error_iff (properties : List (String × String)) :
    (∃ cause, readLines properties = .error cause) ↔
      ∃ property ∈ properties, Unreadable property := by
  induction properties with
  | nil => simp [readLines]
  | cons property rest ih =>
    obtain ⟨key, line⟩ := property
    -- What is put in front of the later lines does not change whether they are read.
    have mapped (f : Lines → Lines) : (∃ cause, (readLines rest).map f = .error cause) ↔
        ∃ cause, readLines rest = .error cause := by
      cases readLines rest <;> simp [Except.map]
    simp only [List.mem_cons, exists_eq_or_imp, ← ih, readLines]
    cases condition : isConditionKey key with
    | true =>
      have other := not_isActionKey condition
      cases parsed : parseCondition key line with
      | error cause => simp [Unreadable, condition, parsed]
      | ok read => simp [Unreadable, condition, other, parsed, mapped]
    | false =>
      cases action : isActionKey key with
      | true =>
        cases parsed : parseAction key line with
        | error cause => simp [Unreadable, condition, action, parsed]
        | ok read => simp [Unreadable, condition, action, parsed, mapped]
      | false => simp [Unreadable, condition, action]

theorem readLines_lines {properties : List (String × String)} {lines : Lines}
    (read : readLines properties = .ok lines) :
    lines.conditions.map (fun condition => (condition.slot, Except.ok condition)) =
        (properties.filter fun property => isConditionKey property.1).map
          (fun property => (property.1, parseCondition property.1 property.2)) ∧
      lines.actions.map (fun action => (action.slot, Except.ok action)) =
        (properties.filter fun property => isActionKey property.1).map
          (fun property => (property.1, parseAction property.1 property.2)) := by
  induction properties generalizing lines with
  | nil =>
    obtain rfl := Except.ok.inj read
    exact ⟨rfl, rfl⟩
  | cons property rest ih =>
    obtain ⟨key, line⟩ := property
    simp only [readLines] at read
    cases condition : isConditionKey key with
    | true =>
      have other := not_isActionKey condition
      cases parsed : parseCondition key line with
      | error cause => simp [condition, parsed] at read
      | ok declared =>
        cases later : readLines rest with
        | error cause => simp [condition, parsed, later, Except.map] at read
        | ok behind =>
          obtain rfl : lines = { behind with conditions := declared :: behind.conditions } := by
            simpa [condition, parsed, later, Except.map] using read.symm
          simp [condition, other, parsed, parseCondition_slot parsed, ih later]
    | false =>
      cases action : isActionKey key with
      | true =>
        cases parsed : parseAction key line with
        | error cause => simp [condition, action, parsed] at read
        | ok declared =>
          cases later : readLines rest with
          | error cause => simp [condition, action, parsed, later, Except.map] at read
          | ok behind =>
            obtain rfl : lines = { behind with actions := declared :: behind.actions } := by
              simpa [condition, action, parsed, later, Except.map] using read.symm
            simp [condition, action, parsed, parseAction_slot parsed, ih later]
      | false =>
        have behind : readLines rest = .ok lines := by simpa [condition, action] using read
        simp [condition, action, ih behind]

theorem readLines_slots {properties : List (String × String)} {lines : Lines}
    (read : readLines properties = .ok lines) :
    lines.conditions.map Condition.slot = (properties.map Prod.fst).filter isConditionKey ∧
      lines.actions.map Action.slot = (properties.map Prod.fst).filter isActionKey := by
  obtain ⟨conditions, actions⟩ := readLines_lines read
  have condition_slots := congrArg (List.map Prod.fst) conditions
  have action_slots := congrArg (List.map Prod.fst) actions
  simp only [List.map_map, Function.comp_def] at condition_slots action_slots
  rw [List.filter_map, List.filter_map]
  exact ⟨condition_slots, action_slots⟩

theorem inNaturalOrder_perm (properties : List (String × String)) :
    (inNaturalOrder properties).Perm properties :=
  List.mergeSort_perm _ _

theorem inNaturalOrder_sorted (properties : List (String × String)) :
    (inNaturalOrder properties).Pairwise fun a b => naturalLE a.1 b.1 = true := by
  refine List.pairwise_mergeSort ?_ ?_ properties
  · exact fun a b c => naturalLE_trans
  · exact fun a b => naturalLE_total a.1 b.1

theorem inNaturalOrder_increasing {properties : List (String × String)}
    (distinct : (properties.map Prod.fst).Nodup) :
    ((inNaturalOrder properties).map Prod.fst).Pairwise fun a b => naturalCompare a b = .lt := by
  -- In natural order two keys are equal only if their texts are, so sorted is strictly sorted.
  have sorted := inNaturalOrder_sorted properties
  have apart := ((inNaturalOrder_perm properties).map Prod.fst).nodup_iff.mpr distinct
  exact (List.pairwise_map.mpr sorted).imp₂ (fun _ _ => naturalCompare_lt_of_ne) apart

theorem parseProperties_error_iff (properties : List (String × String)) :
    (∃ cause, parseProperties properties = .error cause) ↔
      ∃ property ∈ properties, Unreadable property := by
  have perm := inNaturalOrder_perm properties
  rw [parseProperties, readLines_error_iff]
  exact exists_congr fun property => and_congr_left fun _ => perm.mem_iff

theorem parseProperties_increasing {properties : List (String × String)} {lines : Lines}
    (distinct : (properties.map Prod.fst).Nodup)
    (parsed : parseProperties properties = .ok lines) :
    (lines.conditions.map Condition.slot).Pairwise (fun a b => naturalCompare a b = .lt) ∧
      (lines.actions.map Action.slot).Pairwise (fun a b => naturalCompare a b = .lt) := by
  obtain ⟨conditions, actions⟩ := readLines_slots parsed
  have increasing := inNaturalOrder_increasing distinct
  rw [conditions, actions]
  exact ⟨increasing.filter _, increasing.filter _⟩

end MapScript.Script
