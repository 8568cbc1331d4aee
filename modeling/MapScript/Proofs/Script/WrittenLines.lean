import MapScript.Proofs.Text.Trimming
import MapScript.Script.Line

set_option autoImplicit false

namespace MapScript.Script

open Text

def escaped (argument : String) : String :=
  String.ofList (argument.toList.flatMap fun c => if c = ',' then ['\\', ','] else [c])

def writeLine (kind : String) (arguments : List String) : String :=
  kind ++ joinParameters (arguments.map escaped)

/-- What a line can carry. One empty argument is written like none. -/
structure Writable (kind : String) (arguments : List String) : Prop where
  kind_ne : kind ≠ ""
  kind_solid : Solid kind.toList
  trimmed : ∀ argument ∈ arguments, Text.trimmed argument = argument
  unescaped : ∀ argument ∈ arguments, '\\' ∉ argument.toList
  not_lone : arguments ≠ [""]

/-- An argument in a line, with what stands around it. -/
structure Spaced where
  before : String
  argument : String
  after : String

namespace Spaced

def text (s : Spaced) : String :=
  s.before ++ escaped s.argument ++ s.after

def Around (s : Spaced) : Prop :=
  Blank s.before.toList ∧ Blank s.after.toList

instance (s : Spaced) : Decidable s.Around :=
  inferInstanceAs (Decidable (Blank s.before.toList ∧ Blank s.after.toList))

def untrimmed (s : Spaced) : List Char :=
  s.before.toList ++ s.argument.toList ++ s.after.toList

end Spaced

def spacedLine (kind : String) (spaced : List Spaced) : String :=
  kind ++ joinParameters (spaced.map Spaced.text)

theorem argumentsAfter_cons {c : Char} (backslash : c ≠ '\\') (comma : c ≠ ',')
    (piece rest : List Char) :
    argumentsAfter piece (c :: rest) = argumentsAfter (c :: piece) rest := by
  rw [argumentsAfter.eq_def]
  split <;> simp_all

theorem argumentsAfter_plain {plain : List Char} (backslash : '\\' ∉ plain) (comma : ',' ∉ plain)
    (piece rest : List Char) :
    argumentsAfter piece (plain ++ rest) = argumentsAfter (plain.reverse ++ piece) rest := by
  induction plain generalizing piece with
  | nil => rfl
  | cons c plain ih =>
    simp only [List.mem_cons, not_or] at backslash comma
    rw [List.cons_append, argumentsAfter_cons (Ne.symm backslash.1) (Ne.symm comma.1),
      ih backslash.2 comma.2, List.reverse_cons, List.append_assoc, List.singleton_append]

theorem argumentsAfter_escaped {argument : String} (backslash : '\\' ∉ argument.toList)
    (piece rest : List Char) : argumentsAfter piece ((escaped argument).toList ++ rest) =
      argumentsAfter (argument.toList.reverse ++ piece) rest := by
  rw [escaped, String.toList_ofList]
  generalize argument.toList = cs at backslash ⊢
  induction cs generalizing piece with
  | nil => rfl
  | cons c cs ih =>
    simp only [List.mem_cons, not_or] at backslash
    by_cases comma : c = ','
    · subst comma
      simp [argumentsAfter, ih _ backslash.2]
    · simp [comma, argumentsAfter_cons (Ne.symm backslash.1) comma, ih _ backslash.2]

theorem plain_of_blank {cs : List Char} (blank : Blank cs) : '\\' ∉ cs ∧ ',' ∉ cs :=
  ⟨fun member => absurd (blank _ member) (by decide),
    fun member => absurd (blank _ member) (by decide)⟩

theorem argumentsAfter_text {s : Spaced} (around : s.Around) (backslash : '\\' ∉ s.argument.toList)
    (piece rest : List Char) : argumentsAfter piece (s.text.toList ++ rest) =
      argumentsAfter (s.untrimmed.reverse ++ piece) rest := by
  obtain ⟨before, after⟩ := around
  simp only [Spaced.text, String.toList_append, List.append_assoc]
  rw [argumentsAfter_plain (plain_of_blank before).1 (plain_of_blank before).2,
    argumentsAfter_escaped backslash,
    argumentsAfter_plain (plain_of_blank after).1 (plain_of_blank after).2]
  simp [Spaced.untrimmed]

theorem trim_untrimmed {s : Spaced} (around : s.Around)
    (trimmed : Text.trimmed s.argument = s.argument) :
    String.ofList (trim s.untrimmed) = s.argument := by
  rw [Spaced.untrimmed, trim_between around.1 around.2]
  exact trimmed

theorem argumentsAfter_join (first : Spaced) (rest : List Spaced)
    (around : ∀ s ∈ first :: rest, s.Around)
    (unescaped : ∀ s ∈ first :: rest, '\\' ∉ s.argument.toList) :
    argumentsAfter [] (String.intercalate "," ((first :: rest).map Spaced.text)).toList =
      (first :: rest).map Spaced.untrimmed := by
  induction rest generalizing first with
  | nil =>
    have here := argumentsAfter_text (around first (by simp)) (unescaped first (by simp)) [] []
    simpa [argumentsAfter] using here
  | cons second rest ih =>
    have here := argumentsAfter_text (around first (by simp)) (unescaped first (by simp)) []
    have later := ih second (fun s member => around s (List.mem_cons_of_mem _ member))
      (fun s member => unescaped s (List.mem_cons_of_mem _ member))
    have cut : (String.intercalate "," ((first :: second :: rest).map Spaced.text)).toList =
        first.text.toList ++
          ',' :: (String.intercalate "," ((second :: rest).map Spaced.text)).toList := by
      simp [String.toList_intercalate]
    rw [cut, here, List.append_nil, argumentsAfter, later, List.reverse_reverse]
    rfl

theorem argumentsAfter_backslash {blanks : List Char} (blank : Blank blanks) (piece : List Char) :
    argumentsAfter piece ('\\' :: blanks) = argumentsAfter ('\\' :: piece) blanks := by
  cases blanks with
  | nil => rfl
  | cons b rest =>
    obtain ⟨backslash, comma⟩ := plain_of_blank blank
    simp only [List.mem_cons, not_or] at backslash comma
    rw [argumentsAfter_cons (Ne.symm backslash.1) (Ne.symm comma.1), argumentsAfter]
    exact Ne.symm comma.1

theorem argumentsAfter_blank {blanks : List Char} (blank : Blank blanks) (piece cs : List Char) :
    (argumentsAfter piece (cs ++ blanks)).map trim = (argumentsAfter piece cs).map trim := by
  fun_induction argumentsAfter piece cs with
  | case1 piece =>
    obtain ⟨backslash, comma⟩ := plain_of_blank blank
    have alone := argumentsAfter_plain backslash comma piece []
    rw [List.append_nil] at alone
    simpa [alone, argumentsAfter] using trim_between blank_nil blank piece.reverse
  | case2 piece rest ih => simpa [argumentsAfter] using ih
  | case3 piece c rest other ih => simpa [argumentsAfter, other] using ih
  | case4 piece rest ih => simpa [argumentsAfter] using ih
  | case5 piece c rest _ lone comma ih =>
    by_cases backslash : c = '\\'
    · have last : rest = [] := by
        cases rest with
        | nil => rfl
        | cons d rest => exact (lone d rest backslash rfl).elim
      subst last backslash
      rw [List.singleton_append, argumentsAfter_backslash blank]
      exact ih
    · rw [List.cons_append, argumentsAfter_cons backslash comma]
      exact ih

theorem splitArguments_trimEnd (cs : List Char) :
    splitArguments (trimEnd cs) = splitArguments cs := by
  obtain ⟨blanks, blank, whole⟩ := exists_eq_trimEnd_append cs
  have same := congrArg (List.map String.ofList) (argumentsAfter_blank blank [] (trimEnd cs))
  rw [← whole] at same
  simpa only [splitArguments, List.map_map, Function.comp_def] using same.symm

theorem bne_space_of_notMem {cs : List Char} (whole : ' ' ∉ cs) : ∀ c ∈ cs, (c != ' ') = true := by
  intro c member
  simpa using fun same : c = ' ' => whole (same ▸ member)

theorem cutAtSpace_self {cs : List Char} (whole : ' ' ∉ cs) : cutAtSpace cs = (cs, none) := by
  rw [cutAtSpace, List.dropWhile_eq_nil_iff.mpr (bne_space_of_notMem whole),
    List.takeWhile_eq_self_iff.mpr (bne_space_of_notMem whole)]

theorem cutAtSpace_append {cs : List Char} (whole : ' ' ∉ cs) (rest : List Char) :
    cutAtSpace (cs ++ ' ' :: rest) = (cs, some rest) := by
  rw [cutAtSpace, List.dropWhile_append_of_pos (bne_space_of_notMem whole),
    List.takeWhile_append_of_pos (bne_space_of_notMem whole)]
  simp

theorem visible_escaped {argument : String} (visible : Visible argument.toList) :
    Visible (escaped argument).toList := by
  obtain ⟨c, member, seen⟩ := visible
  refine ⟨c, ?_, seen⟩
  rw [escaped, String.toList_ofList, List.mem_flatMap]
  refine ⟨c, member, ?_⟩
  split <;> simp_all

theorem operatorWord_begins (operator : Operator) :
    ∃ c rest, operator.word.toList = c :: rest ∧ isBlank c = false ∧ ' ' ∉ c :: rest := by
  cases operator with
  | is => exact ⟨'i', ['s'], by decide⟩
  | not => exact ⟨'n', ['o', 't'], by decide⟩

theorem ofWord?_word (operator : Operator) :
    Operator.ofWord? operator.word = some operator := by
  cases operator <;> rfl

section Spacing

variable {kind : String} {spaced : List Spaced}
  (writable : Writable kind (spaced.map Spaced.argument)) (around : ∀ s ∈ spaced, s.Around)

include writable

theorem Writable.visible_join (present : spaced ≠ []) :
    Visible (String.intercalate "," (spaced.map Spaced.text)).toList := by
  rw [String.toList_intercalate]
  match spaced, present with
  | [s], _ =>
    have trim_eq := trim_of_trimmed (writable.trimmed s.argument (by simp))
    have argument_ne : s.argument.toList ≠ [] := fun none =>
      writable.not_lone (by simp [String.toList_eq_nil_iff.mp none])
    have seen := visible_escaped (visible_of_trim trim_eq argument_ne)
    simp [Spaced.text, visible_append, seen]
  | first :: second :: rest, _ => exact ⟨',', by simp, by decide⟩

theorem Writable.visible_line :
    ∃ c rest, (spacedLine kind spaced).toList = c :: rest ∧
      isBlank c = false := by
  cases chars : kind.toList with
  | nil => exact absurd (String.toList_eq_nil_iff.mp chars) writable.kind_ne
  | cons c rest =>
    have seen := writable.kind_solid c (by simp [chars])
    exact ⟨c, _, by rw [spacedLine, String.toList_append, chars, List.cons_append], seen⟩

include around

theorem Writable.splitArguments_join (present : spaced ≠ []) :
    splitArguments (String.intercalate "," (spaced.map Spaced.text)).toList =
      spaced.map Spaced.argument := by
  have unescaped (s : Spaced) (member : s ∈ spaced) : '\\' ∉ s.argument.toList :=
    writable.unescaped _ (List.mem_map_of_mem member)
  match spaced, present with
  | first :: rest, _ =>
    rw [splitArguments, argumentsAfter_join first rest around unescaped, List.map_map]
    refine List.map_congr_left fun s member => ?_
    exact trim_untrimmed (around s member) (writable.trimmed _ (List.mem_map_of_mem member))

theorem Writable.cut_line : ∃ rest,
    cutAtSpace (trimEnd (spacedLine kind spaced).toList) =
      (kind.toList, rest) ∧ parameterList rest = spaced.map Spaced.argument := by
  have whole : ' ' ∉ kind.toList := fun member =>
    absurd (writable.kind_solid _ member) (by decide)
  by_cases none : spaced = []
  · subst none
    refine ⟨Option.none, ?_, rfl⟩
    simp [spacedLine, joinParameters, trimEnd_of_solid writable.kind_solid, cutAtSpace_self whole]
  · have text : (spacedLine kind spaced).toList =
        kind.toList ++ ' ' :: (String.intercalate "," (spaced.map Spaced.text)).toList := by
      simp [spacedLine, joinParameters, none]
    have seen := writable.visible_join none
    refine ⟨some (trimEnd (String.intercalate "," (spaced.map Spaced.text)).toList), ?_, ?_⟩
    · rw [text, ← List.singleton_append, ← List.append_assoc, trimEnd_append_of_visible _ seen,
        List.append_assoc, List.singleton_append, cutAtSpace_append whole]
    · rw [parameterList, splitArguments_trimEnd, writable.splitArguments_join around none]

variable {front back : String} (blank : Blank front.toList) (blank' : Blank back.toList)
  (slot : String)

include blank blank'

theorem Writable.parseAction_spaced :
    parseAction slot (front ++ spacedLine kind spaced ++ back) =
      .ok ⟨kind, spaced.map Spaced.argument, slot⟩ := by
  obtain ⟨rest, cut, arguments⟩ := writable.cut_line around
  obtain ⟨c, behind, line, seen⟩ := writable.visible_line
  have trim_eq : trim (front ++ spacedLine kind spaced ++ back).toList =
      trimEnd (spacedLine kind spaced).toList := by
    rw [String.toList_append, String.toList_append, trim_between blank blank', line,
      trim_of_visible_head seen]
  have kind_ne : kind.toList.isEmpty = false := by
    simpa using writable.kind_ne
  rw [parseAction, trim_eq, cut]
  simp [kind_ne, arguments]

theorem Writable.parseCondition_spaced (operator : Operator) :
    parseCondition slot
      (front ++ (operator.word ++ " " ++ spacedLine kind spaced) ++ back) =
        .ok ⟨kind, operator, spaced.map Spaced.argument, slot⟩ := by
  obtain ⟨rest, cut, arguments⟩ := writable.cut_line around
  obtain ⟨c, behind, line, seen⟩ := writable.visible_line
  obtain ⟨w, letters, word, seen', whole⟩ := operatorWord_begins operator
  generalize spacedLine kind spaced = written at cut line ⊢
  have visible : Visible written.toList := ⟨c, by simp [line], seen⟩
  have trim_eq : trim (front ++ (operator.word ++ " " ++ written) ++ back).toList =
      w :: letters ++ ' ' :: trimEnd written.toList := by
    rw [String.toList_append, String.toList_append, trim_between blank blank']
    rw [String.toList_append, String.toList_append, word, List.cons_append, List.cons_append,
      trim_of_visible_head seen', ← List.cons_append, ← List.cons_append,
      trimEnd_append_of_visible _ visible]
    simp
  have kind_ne : kind.toList.isEmpty = false := by
    simpa using writable.kind_ne
  rw [parseCondition, trim_eq, cutAtSpace_append whole, ← word]
  simp [ofWord?_word, cut, kind_ne, arguments]

end Spacing

theorem escaped_of_plain {argument : String} (comma : ',' ∉ argument.toList) :
    escaped argument = argument := by
  have same : argument.toList.flatMap (fun c => if c = ',' then ['\\', ','] else [c]) =
      argument.toList := by
    generalize argument.toList = cs at comma
    induction cs with
    | nil => rfl
    | cons c cs ih =>
      simp only [List.mem_cons, not_or] at comma
      rw [List.flatMap_cons, if_neg (Ne.symm comma.1), ih comma.2, List.singleton_append]
  rw [escaped, same, String.ofList_toList]

theorem written_line_is_read {kind : String} {arguments : List String}
    (writable : Writable kind arguments) (slot : String) (operator : Operator) :
    (parseAction slot (writeLine kind arguments) = .ok ⟨kind, arguments, slot⟩ ∧
      parseCondition slot (operator.word ++ " " ++ writeLine kind arguments) =
        .ok ⟨kind, operator, arguments, slot⟩) ∧
    (∀ (front back : String) (spaced : List Spaced), Blank front.toList → Blank back.toList →
      (∀ s ∈ spaced, s.Around) → spaced.map Spaced.argument = arguments →
      parseAction slot (front ++ spacedLine kind spaced ++ back) = .ok ⟨kind, arguments, slot⟩ ∧
      parseCondition slot (front ++ (operator.word ++ " " ++ spacedLine kind spaced) ++ back) =
        .ok ⟨kind, operator, arguments, slot⟩) ∧
    ((∀ argument ∈ arguments, ',' ∉ argument.toList) →
      parseAction slot (Action.render ⟨kind, arguments, slot⟩) = .ok ⟨kind, arguments, slot⟩ ∧
      parseCondition slot (Condition.render ⟨kind, operator, arguments, slot⟩) =
        .ok ⟨kind, operator, arguments, slot⟩) := by
  have spacing (front back : String) (spaced : List Spaced) (blank : Blank front.toList)
      (blank' : Blank back.toList) (around : ∀ s ∈ spaced, s.Around)
      (same : spaced.map Spaced.argument = arguments) :
      parseAction slot (front ++ spacedLine kind spaced ++ back) = .ok ⟨kind, arguments, slot⟩ ∧
      parseCondition slot (front ++ (operator.word ++ " " ++ spacedLine kind spaced) ++ back) =
        .ok ⟨kind, operator, arguments, slot⟩ := by
    subst same
    exact ⟨writable.parseAction_spaced around blank blank' slot,
      writable.parseCondition_spaced around blank blank' slot operator⟩
  have written : parseAction slot (writeLine kind arguments) = .ok ⟨kind, arguments, slot⟩ ∧
      parseCondition slot (operator.word ++ " " ++ writeLine kind arguments) =
        .ok ⟨kind, operator, arguments, slot⟩ := by
    have close := spacing "" "" (arguments.map fun argument => ⟨"", argument, ""⟩) blank_nil
      blank_nil (by simp [Spaced.Around, blank_nil]) (by simp [Function.comp_def])
    have text_eq : (arguments.map fun argument => (⟨"", argument, ""⟩ : Spaced)).map Spaced.text =
        arguments.map escaped := by
      simp [Spaced.text, Function.comp_def]
    simpa [spacedLine, text_eq, writeLine] using close
  refine ⟨written, spacing, fun plain => ?_⟩
  have unchanged : arguments.map escaped = arguments := calc
    arguments.map escaped = arguments.map id :=
      List.map_congr_left fun argument member => escaped_of_plain (plain argument member)
    _ = arguments := List.map_id arguments
  simpa [writeLine, unchanged, Action.render, Condition.render, String.append_assoc] using written

def spacedGreeting : List Spaced :=
  [⟨"\t", "", ""⟩, ⟨" ", "hello, world", "\u00a0"⟩, ⟨"", ",", "\u2003"⟩]

-- The first argument is empty and the last one is a comma.
theorem written_line_is_read_greeting :
    Writable "say" ["", "hello, world", ","] ∧
      writeLine "say" ["", "hello, world", ","] = "say ,hello\\, world,\\," ∧
      spacedLine "say" spacedGreeting = "say \t, hello\\, world\u00a0,\\,\u2003" ∧
      parseAction "act1" "say ,hello\\, world,\\," =
        .ok ⟨"say", ["", "hello, world", ","], "act1"⟩ ∧
      parseCondition "act1" "\nnot say \t, hello\\, world\u00a0,\\,\u2003" =
        .ok ⟨"say", .not, ["", "hello, world", ","], "act1"⟩ := by
  have writable : Writable "say" ["", "hello, world", ","] :=
    ⟨by decide, by decide, by decide +kernel, by decide, by decide⟩
  have plain : writeLine "say" ["", "hello, world", ","] = "say ,hello\\, world,\\," := by
    decide +kernel
  have apart : spacedLine "say" spacedGreeting =
      "say \t, hello\\, world\u00a0,\\,\u2003" := by decide +kernel
  have around : ∀ s ∈ spacedGreeting, s.Around := by decide
  obtain ⟨⟨action, _⟩, spacing, _⟩ := written_line_is_read writable "act1" .not
  rw [plain] at action
  have condition := (spacing "\n" "" spacedGreeting (by decide) blank_nil around rfl).2
  rw [apart] at condition
  exact ⟨writable, plain, apart, action, condition⟩

end MapScript.Script
