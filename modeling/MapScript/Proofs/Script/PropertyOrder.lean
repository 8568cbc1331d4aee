import Mathlib.Data.List.Sort
import MapScript.Proofs.Script.PropertyLines

set_option autoImplicit false

namespace MapScript.Script

open Text

def entriesOf (key : String) (properties : List (String × String)) : List (String × String) :=
  properties.filter fun property => property.1 = key

theorem mem_entriesOf {key : String} {properties : List (String × String)}
    {property : String × String} :
    property ∈ entriesOf key properties ↔ property ∈ properties ∧ property.1 = key := by
  simp [entriesOf]

theorem naturalLE_refl (key : String) : naturalLE key key = true :=
  Std.ReflCmp.isLE_rfl

theorem naturalLE_antisymm {a b : String} (first : naturalLE a b = true)
    (second : naturalLE b a = true) : a = b :=
  Std.LawfulEqCmp.eq_of_compare (Std.OrientedCmp.isLE_antisymm first second)

theorem entriesOf_inNaturalOrder (key : String) (properties : List (String × String)) :
    entriesOf key (inNaturalOrder properties) = entriesOf key properties := by
  have together : (entriesOf key properties).Pairwise fun a b => naturalLE a.1 b.1 = true := by
    refine List.pairwise_of_forall_mem_list fun a first b second => ?_
    rw [(mem_entriesOf.mp first).2, (mem_entriesOf.mp second).2]
    exact naturalLE_refl key
  have kept : (entriesOf key properties).Sublist (inNaturalOrder properties) := by
    refine List.sublist_mergeSort ?_ ?_ together List.filter_sublist
    · exact fun a b c => naturalLE_trans
    · exact fun a b => naturalLE_total a.1 b.1
  have lengths : (entriesOf key (inNaturalOrder properties)).length =
      (entriesOf key properties).length :=
    ((inNaturalOrder_perm properties).filter _).length_eq
  have inside := kept.filter fun property => property.1 = key
  simp only [entriesOf, List.filter_filter, Bool.and_self] at inside
  exact (inside.eq_of_length lengths.symm).symm

theorem mem_iff_of_entriesOf {first second : List (String × String)}
    (same : ∀ key, entriesOf key first = entriesOf key second) (property : String × String) :
    property ∈ first ↔ property ∈ second := by
  have here := congrArg (property ∈ ·) (same property.1)
  simpa [mem_entriesOf] using here

theorem eq_of_entriesOf {first second : List (String × String)}
    (sorted : first.Pairwise fun a b => naturalLE a.1 b.1 = true)
    (sorted' : second.Pairwise fun a b => naturalLE a.1 b.1 = true)
    (same : ∀ key, entriesOf key first = entriesOf key second) : first = second := by
  have members := mem_iff_of_entriesOf same
  induction first generalizing second with
  | nil =>
    refine (List.eq_nil_iff_forall_not_mem.mpr fun property member => ?_).symm
    exact List.not_mem_nil ((members property).mpr member)
  | cons a rest ih =>
    cases second with
    | nil => simpa using (members a).mp List.mem_cons_self
    | cons b others =>
      obtain ⟨least, later⟩ := List.pairwise_cons.mp sorted
      obtain ⟨least', later'⟩ := List.pairwise_cons.mp sorted'
      -- Each of the two heads stands in the other list too, so neither has the greater key.
      have key_eq : a.1 = b.1 := by
        refine naturalLE_antisymm ?_ ?_
        · rcases List.mem_cons.mp ((members b).mpr List.mem_cons_self) with rfl | behind
          · exact naturalLE_refl _
          · exact least b behind
        · rcases List.mem_cons.mp ((members a).mp List.mem_cons_self) with rfl | behind
          · exact naturalLE_refl _
          · exact least' a behind
      have heads := same a.1
      simp only [entriesOf, List.filter_cons, key_eq, decide_true, if_true, List.cons.injEq] at heads
      obtain ⟨rfl, tails⟩ := heads
      have tails_same (key : String) : entriesOf key rest = entriesOf key others := by
        by_cases here : a.1 = key
        · rw [← here]
          exact tails
        · simpa [entriesOf, here] using same key
      rw [ih later later' tails_same (mem_iff_of_entriesOf tails_same)]

theorem inNaturalOrder_congr {first second : List (String × String)}
    (same : ∀ key, entriesOf key first = entriesOf key second) :
    inNaturalOrder first = inNaturalOrder second := by
  refine eq_of_entriesOf (inNaturalOrder_sorted first) (inNaturalOrder_sorted second) fun key => ?_
  rw [entriesOf_inNaturalOrder, entriesOf_inNaturalOrder, same]

theorem inNaturalOrder_filter (keep : String → Bool) (properties : List (String × String)) :
    inNaturalOrder (properties.filter fun property => keep property.1) =
      (inNaturalOrder properties).filter fun property => keep property.1 := by
  refine eq_of_entriesOf (inNaturalOrder_sorted _) ((inNaturalOrder_sorted properties).filter _)
    fun key => ?_
  have swapped (list : List (String × String)) :
      entriesOf key (list.filter fun property => keep property.1) =
        (entriesOf key list).filter fun property => keep property.1 := by
    simp only [entriesOf, List.filter_filter, Bool.and_comm]
  rw [entriesOf_inNaturalOrder, swapped, swapped, entriesOf_inNaturalOrder]

theorem inNaturalOrder_of_perm {first second : List (String × String)} (perm : first.Perm second)
    (distinct : (second.map Prod.fst).Nodup) : inNaturalOrder first = inNaturalOrder second := by
  have distinct' : (first.map Prod.fst).Nodup := (perm.map Prod.fst).nodup_iff.mpr distinct
  have sorted := List.pairwise_map.mp (inNaturalOrder_increasing distinct)
  have sorted' := List.pairwise_map.mp (inNaturalOrder_increasing distinct')
  have alike : (inNaturalOrder first).Perm (inNaturalOrder second) :=
    ((inNaturalOrder_perm first).trans perm).trans (inNaturalOrder_perm second).symm
  refine alike.eq_of_pairwise ?_ sorted' sorted
  intro a b _ _ before after
  exact absurd rfl (ne_of_naturalCompare_lt (Std.TransCmp.lt_trans before after))

def Refused (property : String × String) (cause : LineError) : Prop :=
  (isConditionKey property.1 = true ∧ parseCondition property.1 property.2 = .error cause) ∨
    (isActionKey property.1 = true ∧ parseAction property.1 property.2 = .error cause)

theorem unreadable_iff {property : String × String} :
    Unreadable property ↔ ∃ cause, Refused property cause := by
  simp only [Unreadable, Refused, exists_or, exists_and_left]

theorem not_unreadable_iff {property : String × String} :
    ¬ Unreadable property ↔
      (isConditionKey property.1 = true →
        ∃ condition, parseCondition property.1 property.2 = .ok condition) ∧
      (isActionKey property.1 = true →
        ∃ action, parseAction property.1 property.2 = .ok action) := by
  have read {D : Type} (parsed : Except LineError D) :
      (¬ ∃ cause, parsed = .error cause) ↔ ∃ declared, parsed = .ok declared := by
    cases parsed <;> simp
  simp only [Unreadable, not_or, not_and, read]

theorem readLines_of_refused {property : String × String} {cause : LineError}
    (refused : Refused property cause) (rest : List (String × String)) :
    readLines (property :: rest) = .error cause := by
  rcases refused with ⟨condition, parsed⟩ | ⟨action, parsed⟩
  · simp [readLines, condition, parsed]
  · have other : isConditionKey property.1 = false := by
      cases condition : isConditionKey property.1 with
      | true => simp [not_isActionKey condition] at action
      | false => rfl
    simp [readLines, other, action, parsed]

theorem readLines_of_readable {property : String × String} (readable : ¬ Unreadable property)
    {rest : List (String × String)} {cause : LineError}
    (stopped : readLines (property :: rest) = .error cause) : readLines rest = .error cause := by
  obtain ⟨conditions, actions⟩ := not_unreadable_iff.mp readable
  simp only [readLines] at stopped
  split at stopped
  next condition =>
    obtain ⟨declared, parsed⟩ := conditions condition
    cases later : readLines rest <;> simp_all [Except.map]
  next =>
    split at stopped
    next action =>
      obtain ⟨declared, parsed⟩ := actions action
      cases later : readLines rest <;> simp_all [Except.map]
    next => exact stopped

theorem readLines_stopped {properties : List (String × String)} {cause : LineError}
    (stopped : readLines properties = .error cause) :
    ∃ before property behind, properties = before ++ property :: behind ∧
      (∀ other ∈ before, ¬ Unreadable other) ∧ Refused property cause := by
  induction properties with
  | nil => cases stopped
  | cons property rest ih =>
    by_cases unreadable : Unreadable property
    · obtain ⟨reason, refused⟩ := unreadable_iff.mp unreadable
      rw [readLines_of_refused refused] at stopped
      obtain rfl := Except.error.inj stopped
      exact ⟨[], property, rest, rfl, by simp, refused⟩
    · obtain ⟨before, refusing, behind, rfl, readable, refused⟩ :=
        ih (readLines_of_readable unreadable stopped)
      refine ⟨property :: before, refusing, behind, rfl, ?_, refused⟩
      exact List.forall_mem_cons.mpr ⟨unreadable, readable⟩

/-- The property that a failure names: no unreadable line has a smaller key, and of its own key it
is the first one. -/
structure Reported (properties : List (String × String)) (property : String × String)
    (cause : LineError) : Prop where
  member : property ∈ properties
  refused : Refused property cause
  least : ∀ other ∈ properties, Unreadable other → naturalLE property.1 other.1 = true
  first : ∃ earlier later, entriesOf property.1 properties = earlier ++ property :: later ∧
    ∀ other ∈ earlier, ¬ Unreadable other

theorem parseProperties_reported {properties : List (String × String)} {cause : LineError}
    (failed : parseProperties properties = .error cause) :
    ∃ property, Reported properties property cause := by
  obtain ⟨before, property, behind, split, readable, refused⟩ := readLines_stopped failed
  have sorted := inNaturalOrder_sorted properties
  have members (other : String × String) : other ∈ properties ↔
      other ∈ before ++ property :: behind :=
    split ▸ (inNaturalOrder_perm properties).mem_iff.symm
  rw [split, List.pairwise_append, List.pairwise_cons] at sorted
  refine ⟨property, (members property).mpr (by simp), refused, fun other member unreadable => ?_, ?_⟩
  · rcases List.mem_append.mp ((members other).mp member) with earlier | later
    · exact absurd unreadable (readable other earlier)
    · rcases List.mem_cons.mp later with rfl | behind
      · exact naturalLE_refl _
      · exact sorted.2.1.1 other behind
  · refine ⟨entriesOf property.1 before, entriesOf property.1 behind, ?_, fun other member =>
      readable other (mem_entriesOf.mp member).1⟩
    rw [← entriesOf_inNaturalOrder, split]
    simp [entriesOf]

/-- What the properties declare: each of them once, with its key as the slot, in natural order of
the slots, and those of one slot in the order of the properties. -/
structure Arranged {D : Type} (slot : D → String) (parse : String → String → Except LineError D)
    (properties : List (String × String)) (declared : List D) : Prop where
  each : (declared.map fun d => (slot d, Except.ok d)).Perm
    (properties.map fun property => (property.1, parse property.1 property.2))
  sorted : declared.Pairwise fun a b => naturalLE (slot a) (slot b) = true
  together : ∀ key, (declared.filter fun d => slot d = key).map Except.ok =
    (entriesOf key properties).map fun property => parse property.1 property.2
  increasing : (properties.map Prod.fst).Nodup →
    declared.Pairwise fun a b => naturalCompare (slot a) (slot b) = .lt

theorem arranged_of_sorted {D : Type} {slot : D → String}
    {parse : String → String → Except LineError D} {properties : List (String × String)}
    {declared : List D}
    (read : declared.map (fun d => (slot d, Except.ok d)) =
      (inNaturalOrder properties).map fun property => (property.1, parse property.1 property.2)) :
    Arranged slot parse properties declared := by
  have slots : declared.map slot = (inNaturalOrder properties).map Prod.fst := by
    simpa [Function.comp_def] using congrArg (List.map Prod.fst) read
  refine ⟨?_, ?_, fun key => ?_, fun distinct => ?_⟩
  · rw [read]
    exact (inNaturalOrder_perm properties).map _
  · have sorted : (declared.map slot).Pairwise fun a b => naturalLE a b = true := by
      rw [slots]
      exact List.pairwise_map.mpr (inNaturalOrder_sorted properties)
    exact List.pairwise_map.mp sorted
  · have here := congrArg (fun list => (list.filter fun pair => pair.1 = key).map Prod.snd) read
    simp only [List.filter_map, List.map_map, Function.comp_def] at here
    rw [← entriesOf_inNaturalOrder]
    exact here
  · have increasing : (declared.map slot).Pairwise fun a b => naturalCompare a b = .lt := by
      rw [slots]
      exact inNaturalOrder_increasing distinct
    exact List.pairwise_map.mp increasing

theorem readLines_filter (properties : List (String × String)) :
    readLines (properties.filter fun property =>
      isConditionKey property.1 || isActionKey property.1) = readLines properties := by
  induction properties with
  | nil => rfl
  | cons property rest ih =>
    cases condition : isConditionKey property.1 with
    | true => simp [condition, readLines, ih]
    | false =>
      cases action : isActionKey property.1 with
      | true => simp [condition, action, readLines, ih]
      | false => simp [condition, action, readLines, ih]

theorem parseProperties_arranges (properties : List (String × String)) :
    ((properties.map Prod.fst).Nodup → ∀ permuted : List (String × String),
      permuted.Perm properties → parseProperties permuted = parseProperties properties) ∧
    (∀ others, (∀ key, entriesOf key others = entriesOf key properties) →
      parseProperties others = parseProperties properties) ∧
    parseProperties (properties.filter fun property =>
      isConditionKey property.1 || isActionKey property.1) = parseProperties properties ∧
    ((∃ lines, parseProperties properties = .ok lines) ↔
      ∀ property ∈ properties,
        (isConditionKey property.1 = true →
          ∃ condition, parseCondition property.1 property.2 = .ok condition) ∧
        (isActionKey property.1 = true →
          ∃ action, parseAction property.1 property.2 = .ok action)) ∧
    (∀ lines, parseProperties properties = .ok lines →
      Arranged Condition.slot parseCondition
        (properties.filter fun property => isConditionKey property.1) lines.conditions ∧
      Arranged Action.slot parseAction
        (properties.filter fun property => isActionKey property.1) lines.actions) ∧
    ∀ cause, parseProperties properties = .error cause →
      ∃ property, Reported properties property cause := by
  refine ⟨fun distinct permuted perm => ?_, fun others same => ?_, ?_, ?_, fun lines read => ?_,
    fun cause => parseProperties_reported⟩
  · rw [parseProperties, inNaturalOrder_of_perm perm distinct, parseProperties]
  · rw [parseProperties, inNaturalOrder_congr same, parseProperties]
  · rw [parseProperties, inNaturalOrder_filter fun key => isConditionKey key || isActionKey key,
      readLines_filter, parseProperties]
  · have failing := parseProperties_error_iff properties
    simp only [← not_unreadable_iff]
    cases outcome : parseProperties properties <;> simp_all
  · obtain ⟨conditions, actions⟩ := readLines_lines read
    rw [← inNaturalOrder_filter isConditionKey] at conditions
    rw [← inNaturalOrder_filter isActionKey] at actions
    exact ⟨arranged_of_sorted conditions, arranged_of_sorted actions⟩

def greeting : List (String × String) :=
  [("act10", "print"), ("cond1", "is variable_set met:yes"), ("act2", "wait 1"), ("name", "guard")]

theorem parseProperties_arranges_greeting :
    (greeting.map Prod.fst).Nodup ∧ greeting.reverse.Perm greeting ∧
      parseProperties greeting.reverse = parseProperties greeting ∧
      ∃ lines, parseProperties greeting = .ok lines ∧
        Arranged Condition.slot parseCondition [("cond1", "is variable_set met:yes")]
          lines.conditions ∧
        Arranged Action.slot parseAction [("act10", "print"), ("act2", "wait 1")] lines.actions := by
  have distinct : (greeting.map Prod.fst).Nodup := by decide
  have perm : greeting.reverse.Perm greeting := List.reverse_perm greeting
  obtain ⟨permuted, _, _, succeeds, read, _⟩ := parseProperties_arranges greeting
  obtain ⟨lines, parsed⟩ : ∃ lines, parseProperties greeting = .ok lines := by
    refine succeeds.mpr (List.forall_mem_cons.mpr ⟨⟨?_, fun _ => ?_⟩, ?_⟩)
    · exact fun condition => absurd condition (by decide)
    · exact ⟨⟨"print", [], "act10"⟩, by decide +kernel⟩
    refine List.forall_mem_cons.mpr ⟨⟨fun _ => ?_, ?_⟩, ?_⟩
    · exact ⟨⟨"variable_set", .is, ["met:yes"], "cond1"⟩, by decide +kernel⟩
    · exact fun action => absurd action (by decide)
    refine List.forall_mem_cons.mpr ⟨⟨?_, fun _ => ?_⟩, ?_⟩
    · exact fun condition => absurd condition (by decide)
    · exact ⟨⟨"wait", ["1"], "act2"⟩, by decide +kernel⟩
    refine List.forall_mem_singleton.mpr ⟨?_, ?_⟩
    · exact fun condition => absurd condition (by decide)
    · exact fun action => absurd action (by decide)
  obtain ⟨conditions, actions⟩ := read lines parsed
  exact ⟨distinct, perm, permuted distinct _ perm, lines, parsed, conditions, actions⟩

end MapScript.Script
