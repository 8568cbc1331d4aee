import MapScript.Proofs.Script.Separators

set_option autoImplicit false

namespace MapScript.Script

open Text

structure ReadAs (text : List Char) (kind : String) (parameters : List String) : Prop where
  kind_ne : kind ≠ ""
  kind_eq : kind.toList = text.takeWhile (· != ' ')
  whole : ' ' ∉ kind.toList
  bare : parameters = [] ↔ ' ' ∉ text
  cut : ∀ rest, text = kind.toList ++ ' ' :: rest → parameters.length = separators rest + 1

section Cuts

variable {text word : List Char} {rest : Option (List Char)} {slot line : String}

theorem cutAtSpace_cases (text : List Char) :
    (' ' ∉ text ∧ cutAtSpace text = (text, none)) ∨
      ∃ word rest, ' ' ∉ word ∧ text = word ++ ' ' :: rest ∧
        cutAtSpace text = (word, some rest) := by
  by_cases spaced : ' ' ∈ text
  · obtain ⟨word, rest, rfl, whole⟩ := List.eq_append_cons_of_mem spaced
    exact .inr ⟨word, rest, whole, rfl, cutAtSpace_append whole rest⟩
  · exact .inl ⟨spaced, cutAtSpace_self spaced⟩

theorem cutAtSpace_fst (text : List Char) :
    (cutAtSpace text).1 = text.takeWhile (· != ' ') := by
  unfold cutAtSpace
  split <;> rfl

theorem word_eq_nil (cut : cutAtSpace text = (word, rest)) :
    word = [] ↔ text = [] ∨ text.head? = some ' ' := by
  have first : word = text.takeWhile (· != ' ') := by rw [← cutAtSpace_fst, cut]
  cases text with
  | nil => simp [first]
  | cons c later => by_cases same : c = ' ' <;> simp [first, same]

theorem ReadAs.of_cut (cut : cutAtSpace text = (word, rest)) (word_ne : word ≠ []) :
    ReadAs text (String.ofList word) (parameterList rest) := by
  have kind_ne : String.ofList word ≠ "" := by simpa using word_ne
  have kind_eq : (String.ofList word).toList = text.takeWhile (· != ' ') := by
    rw [String.toList_ofList, ← cutAtSpace_fst, cut]
  rcases cutAtSpace_cases text with ⟨whole, alone⟩ | ⟨front, behind, whole, rfl, parts⟩
  · obtain ⟨rfl, rfl⟩ := Prod.mk.inj (alone.symm.trans cut)
    refine ⟨kind_ne, kind_eq, by simpa using whole, by simp [parameterList, whole], ?_⟩
    intro rest same
    exact absurd (same ▸ by simp : ' ' ∈ text) whole
  · obtain ⟨rfl, rfl⟩ := Prod.mk.inj (parts.symm.trans cut)
    have length_eq : (parameterList (some behind)).length = separators behind + 1 :=
      length_splitArguments behind
    refine ⟨kind_ne, kind_eq, by simpa using whole, ?_, ?_⟩
    · have present : parameterList (some behind) ≠ [] :=
        List.ne_nil_of_length_pos (by omega)
      simp [present]
    · intro rest same
      rw [String.toList_ofList, List.append_cancel_left_eq] at same
      obtain rfl := (List.cons.inj same).2
      exact length_eq

theorem parseAction_eq (cut : cutAtSpace (trim line.toList) = (word, rest)) (word_ne : word ≠ []) :
    parseAction slot line = .ok ⟨String.ofList word, parameterList rest, slot⟩ := by
  simp [parseAction, cut, word_ne]

theorem parseAction_blank (blank : Blank line.toList) :
    parseAction slot line = .error (.actionTypeMissing slot line) := by
  rw [parseAction, trim_eq_nil.mpr blank]
  rfl

theorem exists_cut_of_visible (visible : ¬ Blank line.toList) :
    ∃ word rest, cutAtSpace (trim line.toList) = (word, rest) ∧ word ≠ [] := by
  rcases cut : cutAtSpace (trim line.toList) with ⟨word, rest⟩
  refine ⟨word, rest, rfl, fun none => ?_⟩
  rcases (word_eq_nil cut).mp none with empty | spaced
  · exact visible (trim_eq_nil.mp empty)
  · -- What is trimmed does not begin with a space.
    obtain ⟨later, text⟩ := List.head?_eq_some_iff.mp spaced
    exact absurd (isBlank_head_trim text) (by decide)

theorem toList_of_ofWord? {operator : Operator}
    (known : Operator.ofWord? (String.ofList word) = some operator) :
    word = operator.word.toList := by
  have same : String.ofList word = operator.word := by
    unfold Operator.ofWord? at known
    split at known
    next same =>
      obtain rfl := Option.some.inj known
      exact same
    next =>
      split at known
      next same =>
        obtain rfl := Option.some.inj known
        exact same
      next => cases known
  rw [← same, String.toList_ofList]

theorem parseCondition_eq {operator : Operator} {later kind : List Char}
    (text_eq : trim line.toList = operator.word.toList ++ ' ' :: later)
    (cut : cutAtSpace later = (kind, rest)) (kind_ne : kind ≠ []) :
    parseCondition slot line =
      .ok ⟨String.ofList kind, operator, parameterList rest, slot⟩ := by
  obtain ⟨c, letters, word, _, whole⟩ := operatorWord_begins operator
  rw [parseCondition, text_eq, cutAtSpace_append (word ▸ whole)]
  simp [ofWord?_word, cut, kind_ne]

theorem parseCondition_cut {condition : Condition}
    (parsed : parseCondition slot line = .ok condition) :
    ∃ later kind rest, trim line.toList = condition.operator.word.toList ++ ' ' :: later ∧
      cutAtSpace later = (kind, rest) ∧ kind ≠ [] ∧
      condition = ⟨String.ofList kind, condition.operator, parameterList rest, slot⟩ := by
  rcases cutAtSpace_cases (trim line.toList) with ⟨_, alone⟩ | ⟨word, later, _, text, parts⟩
  · rw [parseCondition, alone] at parsed
    dsimp only at parsed
    split at parsed <;> cases parsed
  · rw [parseCondition, parts] at parsed
    dsimp only at parsed
    split at parsed
    next => cases parsed
    next operator known =>
      obtain rfl := toList_of_ofWord? known
      rcases cut : cutAtSpace later with ⟨kind, rest⟩
      simp only [Option.map_some, cut] at parsed
      split at parsed
      next => cases parsed
      next kind_ne =>
        obtain rfl := Except.ok.inj parsed
        exact ⟨later, kind, rest, text, cut, by simpa using kind_ne, rfl⟩

end Cuts

theorem lines_follow_grammar (slot line : String) :
    let text := trim line.toList
    ((∃ action, parseAction slot line = .ok action) ↔ ¬ Blank line.toList) ∧
    ((∃ condition, parseCondition slot line = .ok condition) ↔
      ∃ (operator : Operator) (rest : List Char), text = operator.word.toList ++ ' ' :: rest ∧
        rest ≠ [] ∧ rest.head? ≠ some ' ') ∧
    (∀ action, parseAction slot line = .ok action →
      action.slot = slot ∧ ReadAs text action.kind action.parameters) ∧
    ∀ condition, parseCondition slot line = .ok condition →
      condition.slot = slot ∧ ∃ rest, text = condition.operator.word.toList ++ ' ' :: rest ∧
        ReadAs rest condition.kind condition.parameters := by
  intro text
  refine ⟨⟨?_, fun visible => ?_⟩, ⟨?_, ?_⟩, fun action parsed => ?_, fun condition parsed => ?_⟩
  · rintro ⟨action, parsed⟩ blank
    rw [parseAction_blank blank] at parsed
    cases parsed
  · obtain ⟨word, rest, cut, word_ne⟩ := exists_cut_of_visible visible
    exact ⟨_, parseAction_eq cut word_ne⟩
  · rintro ⟨condition, parsed⟩
    obtain ⟨later, kind, rest, text_eq, cut, kind_ne, _⟩ := parseCondition_cut parsed
    obtain ⟨present, unspaced⟩ := not_or.mp (mt (word_eq_nil cut).mpr kind_ne)
    exact ⟨condition.operator, later, text_eq, present, unspaced⟩
  · rintro ⟨operator, rest, text_eq, present, unspaced⟩
    rcases cut : cutAtSpace rest with ⟨kind, later⟩
    have kind_ne : kind ≠ [] := mt (word_eq_nil cut).mp (not_or.mpr ⟨present, unspaced⟩)
    exact ⟨_, parseCondition_eq text_eq cut kind_ne⟩
  · by_cases blank : Blank line.toList
    · rw [parseAction_blank blank] at parsed
      cases parsed
    · obtain ⟨word, rest, cut, word_ne⟩ := exists_cut_of_visible blank
      obtain rfl := Except.ok.inj ((parseAction_eq cut word_ne).symm.trans parsed)
      exact ⟨rfl, .of_cut cut word_ne⟩
  · obtain ⟨later, kind, rest, text_eq, cut, kind_ne, same⟩ := parseCondition_cut parsed
    rw [same]
    exact ⟨rfl, later, text_eq, .of_cut cut kind_ne⟩

-- Of the three commas the first one belongs to its argument.
theorem lines_follow_grammar_escaped :
    parseCondition "cond1" "\tnot say a\\,b,c\\\\, " =
        .ok ⟨"say", .not, ["a,b", "c\\\\", ""], "cond1"⟩ ∧
      separators "a\\,b,c\\\\,".toList = 2 ∧
      ∃ rest, trim "\tnot say a\\,b,c\\\\, ".toList = "not".toList ++ ' ' :: rest ∧
        ReadAs rest "say" ["a,b", "c\\\\", ""] := by
  have parsed : parseCondition "cond1" "\tnot say a\\,b,c\\\\, " =
      .ok ⟨"say", .not, ["a,b", "c\\\\", ""], "cond1"⟩ := by decide +kernel
  obtain ⟨_, _, _, described⟩ := lines_follow_grammar "cond1" "\tnot say a\\,b,c\\\\, "
  exact ⟨parsed, by decide +kernel, (described _ parsed).2⟩

example : parseCondition "cond1" "is  say" = .error (.conditionTypeMissing "cond1" "is  say") := by
  decide +kernel

end MapScript.Script
