import Mathlib.Tactic.ByContra
import MapScript.Catalog.Conditions
import MapScript.Proofs.Number.BinaryOrder

set_option autoImplicit false

namespace MapScript.Conditions

open Number Text

def candidates (text : String) : List String :=
  ((text.toList.splitOn ':').filter (!·.isEmpty)).map String.ofList

theorem modifyHead_nil_append (parts : List (List Char)) : parts.modifyHead ([] ++ ·) = parts := by
  cases parts <;> rfl

theorem segmentsAfter_eq (piece cs : List Char) :
    Arguments.segmentsAfter piece cs = (cs.splitOn ':').modifyHead (piece.reverse ++ ·) := by
  induction cs generalizing piece with
  | nil => simp [Arguments.segmentsAfter]
  | cons c rest ih =>
    rw [List.splitOn, List.splitOnP_cons_eq_if_modifyHead, ← List.splitOn, Arguments.segmentsAfter]
    by_cases separator : c = ':'
    · rw [if_pos separator, if_pos (beq_iff_eq.mpr separator), ih, List.reverse_nil,
        modifyHead_nil_append]
      simp
    · rw [if_neg separator, if_neg (by simpa using separator), ih, List.modifyHead_modifyHead]
      simp [Function.comp_def]

theorem segments_eq (text : String) : Arguments.segments text = candidates text := by
  rw [Arguments.segments, segmentsAfter_eq, List.reverse_nil, modifyHead_nil_append, candidates]

variable {W : Type} [VariableStore W]

def numberOf (world : W) (name : String) : Option Real64 :=
  (VariableStore.lookup world name).bind fun raw => readBinary (trim raw.toList)

def Unreadable (world : W) (name : String) : Prop :=
  (VariableStore.lookup world name).isSome = true ∧ numberOf world name = none

/-- The key stands at a place of the list with a number that no variable of the list exceeds, and
that none but itself has at a place before. -/
def FirstHighest (world : W) (names : List String) (key : String) : Prop :=
  ∃ x front back, numberOf world key = some x ∧ x ≠ .nan ∧ names = front ++ key :: back ∧
    (∀ name ∈ names, ∀ y, numberOf world name = some y → x.lt y = false) ∧
    ∀ name ∈ front, ∀ y, numberOf world name = some y → y.eq x = true → name = key

def Lead.pass (world : W) (lead : Lead) (name : String) : Lead :=
  match numberOf world name with
  | .none => lead
  | some x => lead.compete name x

structure Lead.Tops (world : W) (seen : List String) (lead : Lead) : Prop where
  number : lead.highest ≠ .nan
  bound : ∀ name ∈ seen, ∀ y, numberOf world name = some y → lead.highest.lt y = false
  leaders : lead.leaders = seen.filter fun name => (numberOf world name).any (·.eq lead.highest)
  attained : lead.highest = .infinity true ∨
    ∃ name ∈ seen, numberOf world name = some lead.highest

section Leads

variable {world : W} {names seen : List String} {name key : String} {lead : Lead} {x : Real64}

theorem Lead.tops_none (world : W) : Lead.none.Tops world [] where
  number := by simp [Lead.none]
  bound := by simp
  leaders := rfl
  attained := .inl rfl

theorem Lead.Tops.overtaken (tops : lead.Tops world seen) (holds : numberOf world name = some x)
    (above : lead.highest.lt x = true) : Lead.Tops world (seen ++ [name]) ⟨x, [name]⟩ := by
  have number := (Binary.lt_iff.mp above).2.1
  refine ⟨number, fun other member y here => ?_, ?_, .inr ⟨name, by simp, holds⟩⟩
  · rcases List.mem_append.mp member with before | last
    · by_contra exceeds
      have first := Binary.lt_trans above (by simpa using exceeds : x.lt y = true)
      simp [tops.bound other before y here] at first
    · obtain rfl := List.mem_singleton.mp last
      obtain rfl : x = y := by simpa [holds] using here
      exact Binary.lt_irrefl x
  · -- A leader of the old maximum would be above it.
    have fallen : seen.filter (fun name => (numberOf world name).any (·.eq x)) = [] := by
      refine List.filter_eq_nil_iff.mpr fun other before level => ?_
      obtain ⟨y, here, same⟩ := (Option.any_eq_true _ _).mp level
      have first := Binary.lt_of_lt_of_eq above (by rwa [Binary.eq_comm] : x.eq y = true)
      simp [tops.bound other before y here] at first
    simp [fallen, holds, Binary.eq_self number]

theorem Lead.Tops.passed (tops : lead.Tops world seen) (name : String)
    (below : ∀ x, numberOf world name = some x → lead.highest.lt x = false) :
    Lead.Tops world (seen ++ [name]) ⟨lead.highest, lead.leaders ++
      [name].filter fun name => (numberOf world name).any (·.eq lead.highest)⟩ where
  number := tops.number
  bound := by
    intro other member y here
    rcases List.mem_append.mp member with before | last
    · exact tops.bound other before y here
    · obtain rfl := List.mem_singleton.mp last
      exact below y here
  leaders := by rw [tops.leaders, List.filter_append]
  attained := by
    obtain lowest | ⟨other, before, here⟩ := tops.attained
    · exact .inl lowest
    · exact .inr ⟨other, List.mem_append_left _ before, here⟩

theorem Lead.Tops.pass (tops : lead.Tops world seen) (name : String) :
    (lead.pass world name).Tops world (seen ++ [name]) := by
  unfold Lead.pass
  split
  next unset => simpa [unset] using tops.passed name (by simp [unset])
  next x holds =>
    unfold Lead.compete
    split
    next above => exact tops.overtaken holds above
    next not_above =>
      have passed := tops.passed name (by simpa [holds] using not_above)
      split
      next level => simpa [holds, level] using passed
      next other => simpa [holds, other] using passed

theorem Lead.Tops.passAll (tops : lead.Tops world seen) (names : List String) :
    (names.foldl (Lead.pass world) lead).Tops world (seen ++ names) := by
  induction names generalizing lead seen with
  | nil => simpa using tops
  | cons name rest ih => simpa using ih (tops.pass name)

theorem find_of_split {p : String → Bool} {front back : List String} (holds : p key = true)
    (alone : ∀ name ∈ front, p name = true → name = key) :
    (front ++ key :: back).find? p = some key := by
  rw [List.find?_append]
  cases found : front.find? p with
  | none => simp [holds]
  | some name =>
    have same := alone name (List.mem_of_find?_eq_some found) (List.find?_some found)
    simp [same]

theorem Lead.Tops.head_iff (tops : lead.Tops world names) :
    lead.leaders.head? = some key ↔ FirstHighest world names key := by
  rw [tops.leaders, List.head?_filter]
  constructor
  · intro found
    obtain ⟨level, front, back, split_eq, before⟩ := List.find?_eq_some_iff_append.mp found
    obtain ⟨x, holds, same⟩ := (Option.any_eq_true _ _).mp level
    refine ⟨x, front, back, holds, (Binary.eq_iff.mp same).1, split_eq, ?_, ?_⟩
    · intro name member y here
      by_contra exceeds
      rw [Binary.eq_comm] at same
      have first := Binary.lt_of_eq_of_lt same (by simpa using exceeds : x.lt y = true)
      simp [tops.bound name member y here] at first
    · intro name member y here tie
      have lower := before name member
      simp [here, Binary.eq_trans tie same] at lower
  · rintro ⟨x, front, back, holds, number, rfl, top, alone⟩
    -- A lead that has met no number is at minus infinity, which is above nothing either.
    have level : x.eq lead.highest = true := by
      refine Binary.eq_of_not_lt number tops.number ?_ (tops.bound key (by simp) x holds)
      obtain lowest | ⟨name, member, here⟩ := tops.attained
      · rw [lowest]
        exact Binary.not_lt_lowest x
      · exact top name member _ here
    -- The bound of the lead is the number of the key, so who ties with the key is a leader.
    refine find_of_split (by simp [holds, level]) fun name before tie => ?_
    obtain ⟨y, here, same⟩ := (Option.any_eq_true _ _).mp tie
    rw [Binary.eq_comm] at level
    exact alone name before y here (Binary.eq_trans same level)

theorem leadOf_step (readable : ¬ Unreadable world name) :
    leadOf world (name :: names) lead = leadOf world names (lead.pass world name) := by
  simp only [leadOf, Lead.pass, numberOf]
  cases here : VariableStore.lookup world name with
  | none => rfl
  | some raw =>
    cases read : readBinary (f := binary64) (trim raw.toList) with
    | none => exact absurd ⟨by simp [here], by simp [numberOf, here, read]⟩ readable
    | some x => simp [read]

theorem leadOf_readable (readable : ∀ name ∈ names, ¬ Unreadable world name) :
    leadOf world names lead = .ok (names.foldl (Lead.pass world) lead) := by
  induction names generalizing lead with
  | nil => rfl
  | cons name rest ih =>
    obtain ⟨first, later⟩ := List.forall_mem_cons.mp readable
    rw [leadOf_step first, ih later, List.foldl_cons]

theorem leadOf_unreadable (lead : Lead) (found : ∃ name ∈ names, Unreadable world name) :
    ∃ cause, leadOf world names lead = .error cause := by
  induction names generalizing lead with
  | nil => simp at found
  | cons name rest ih =>
    by_cases first : Unreadable world name
    · obtain ⟨set, unread⟩ := first
      obtain ⟨raw, here⟩ := Option.isSome_iff_exists.mp set
      have read : readBinary (f := binary64) (trim raw.toList) = none := by
        simpa [numberOf, here] using unread
      simp [leadOf, here, read]
    · rw [leadOf_step first]
      exact ih (lead.pass world name) (by simpa [first] using found)

def competes (world : W) (name : String) : Bool :=
  (VariableStore.lookup world name).any fun raw =>
    readBinary (f := binary64) (trim raw.toList) ≠ some .nan

theorem Lead.compete_nan (lead : Lead) (name : String) : lead.compete name .nan = lead := by
  cases lead with
  | mk highest leaders => cases highest <;> rfl

theorem leadOf_competing : leadOf world (names.filter (competes world)) lead =
    leadOf world names lead := by
  induction names generalizing lead with
  | nil => rfl
  | cons name rest ih =>
    cases here : VariableStore.lookup world name with
    | none => simp [competes, here, leadOf, ih]
    | some raw =>
      by_cases nan : readBinary (f := binary64) (trim raw.toList) = some .nan
      · simp [competes, here, leadOf, nan, ih, Lead.compete_nan]
      · simp [competes, here, leadOf, nan, ih]

theorem leadOf_congr {other : W}
    (same : ∀ name ∈ names, VariableStore.lookup world name = VariableStore.lookup other name) :
    leadOf world names lead = leadOf other names lead := by
  induction names generalizing lead with
  | nil => rfl
  | cons name rest ih =>
    obtain ⟨first, later⟩ := List.forall_mem_cons.mp same
    simp only [leadOf, first, ih later]

end Leads

section Verdicts

variable {inquiry : Inquiry W} {condition : Condition} {key text : String} {surplus : List String}

theorem variableHighest_eq (given : condition.parameters = key :: text :: surplus)
    (named : key ≠ "") (listed : text ≠ "") :
    variableHighest inquiry condition = highestVerdict inquiry key (candidates text) := by
  have arguments : Arguments.ofParameters condition.parameters = ⟨key :: text :: surplus⟩ := by
    rw [given]
    exact if_neg (by simp)
  have first : Arguments.text ⟨key :: text :: surplus⟩ 0 "key" = .ok key := if_neg named
  have second : Arguments.text ⟨key :: text :: surplus⟩ 1 "candidates" = .ok text := if_neg listed
  simp only [variableHighest, arguments, first, Arguments.list, second, Except.map, segments_eq]

theorem highestVerdict_unset (unset : VariableStore.lookup inquiry.world key = none)
    (names : List String) : (highestVerdict inquiry key names).result = .ok false := by
  simp [highestVerdict, unset]

theorem highestVerdict_set (set : VariableStore.lookup inquiry.world key ≠ none)
    (names : List String) :
    (highestVerdict inquiry key names).result =
      (leadOf inquiry.world names .none).map
        fun lead => decide (lead.leaders.head? = some key) := by
  have present : (VariableStore.lookup inquiry.world key).isNone = false := by
    simpa [Option.isSome_iff_ne_none] using set
  rw [highestVerdict, present, if_neg Bool.false_ne_true]
  cases leadOf inquiry.world names .none <;> rfl

theorem variableHighest_first_maximum (inquiry : Inquiry W) (condition : Condition)
    (given : condition.parameters = key :: text :: surplus)
    (named : key ≠ "") (listed : text ≠ "") :
    let world := inquiry.world
    let result := (variableHighest inquiry condition).result
    (VariableStore.lookup world key = none → result = .ok false) ∧
      (VariableStore.lookup world key ≠ none →
        ((∃ cause, result = .error cause) ↔ ∃ name ∈ candidates text, Unreadable world name) ∧
        ((∀ name ∈ candidates text, ¬ Unreadable world name) → ∃ answer, result = .ok answer ∧
          (answer = true ↔ FirstHighest world (candidates text) key)) ∧
        ∀ (other : Inquiry W) (condition' : Condition) (text' : String) (surplus' : List String),
          condition'.parameters = key :: text' :: surplus' → text' ≠ "" →
          VariableStore.lookup other.world key ≠ none →
          (candidates text').filter (competes other.world) =
            (candidates text).filter (competes world) →
          (∀ name ∈ (candidates text).filter (competes world),
            VariableStore.lookup other.world name = VariableStore.lookup world name) →
          (variableHighest other condition').result = result) := by
  intro world result
  have result_eq : result = (highestVerdict inquiry key (candidates text)).result :=
    congrArg Verdict.result (variableHighest_eq given named listed)
  refine ⟨fun unset => result_eq.trans (highestVerdict_unset unset _), fun set => ?_⟩
  have ran := result_eq.trans (highestVerdict_set set _)
  have answered (readable : ∀ name ∈ candidates text, ¬ Unreadable world name) :
      ∃ answer, result = .ok answer ∧
        (answer = true ↔ FirstHighest world (candidates text) key) := by
    have tops := (Lead.tops_none world).passAll (candidates text)
    rw [leadOf_readable readable] at ran
    exact ⟨_, ran, decide_eq_true_iff.trans tops.head_iff⟩
  refine ⟨⟨fun ⟨cause, failed⟩ => ?_, fun found => ?_⟩, answered, ?_⟩
  · by_contra none
    obtain ⟨answer, fine, _⟩ := answered fun name member bad => none ⟨name, member, bad⟩
    rw [failed] at fine
    cases fine
  · obtain ⟨cause, failed⟩ := leadOf_unreadable .none found
    exact ⟨cause, by rw [ran, failed]; rfl⟩
  · -- Both lists of candidates lead where their competitors lead.
    intro other condition' text' surplus' given' listed' set' same agree
    rw [variableHighest_eq given' named listed', highestVerdict_set set', ran]
    rw [← leadOf_competing, same, leadOf_congr agree, leadOf_competing]

end Verdicts

-- The two zeros tie behind what is no number.
theorem variableHighest_first_of_tied_zeros :
    let world : Variables :=
      [("low", "-inf"), ("odd", "NaN"), ("minus", " -0 "), ("plus", "0")].foldl
        (fun world (key, value) => world.insert key value) Dictionary.empty
    let inquiry : Inquiry Variables := ⟨world, Memory.empty, ⟨⟨1⟩, "", none, [], []⟩, .zero⟩
    let asks (key : String) : Condition :=
      ⟨"variable_highest", .is, [key, ":odd:low::none:minus:plus:minus"], "cond1"⟩
    (variableHighest inquiry (asks "minus")).result = .ok true ∧
      (variableHighest inquiry (asks "plus")).result = .ok false := by
  intro world inquiry asks
  obtain ⟨_, set⟩ := variableHighest_first_maximum inquiry (asks "minus") rfl
    (by decide) (by decide)
  obtain ⟨_, answered, _⟩ := set (by decide)
  have readable : ∀ name ∈ candidates ":odd:low::none:minus:plus:minus",
      (VariableStore.lookup world name).isSome = false ∨ numberOf world name ≠ none := by decide
  obtain ⟨answer, fine, first⟩ := answered fun name member (bad : Unreadable world name) => by
    simpa [bad.1, bad.2] using readable name member
  have top : ∀ name ∈ candidates ":odd:low::none:minus:plus:minus",
      (numberOf world name).all (fun y => !(Binary.finite true 0).lt y) = true := by decide
  have alone : ∀ name ∈ ["odd", "low", "none"],
      (numberOf world name).all (fun y => !y.eq (.finite true 0)) = true := by decide
  have won : answer = true := first.mpr ⟨.finite true 0, ["odd", "low", "none"],
    ["plus", "minus"], by decide, by decide, by decide,
    fun name member y (here : numberOf world name = some y) => by
      simpa [here] using top name member,
    fun name before y (here : numberOf world name = some y) tie => by
      simpa [here, tie] using alone name before⟩
  exact ⟨won ▸ fine, rfl⟩

end MapScript.Conditions
