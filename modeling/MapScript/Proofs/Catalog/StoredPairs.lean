import Mathlib.Data.List.TakeWhile
import MapScript.Proofs.Catalog.InstantActions
import MapScript.Proofs.Catalog.MemoryKey

set_option autoImplicit false

namespace MapScript

open Number

variable {W A : Type}

/-- The text is a key and a value. The value is any text, with colons of its own or empty. -/
structure Spells (text key value : String) : Prop where
  text_eq : text.toList = key.toList ++ ':' :: value.toList
  plain : ':' ∉ key.toList
  named : key ≠ ""

section Texts

variable {text text' key key' value value' : String}

theorem Spells.unique (spells : Spells text key value) (other : Spells text key' value') :
    key = key' ∧ value = value' := by
  obtain ⟨front, back⟩ :=
    cut_at_first spells.plain other.plain (spells.text_eq.symm.trans other.text_eq)
  exact ⟨String.toList_inj.mp front, String.toList_inj.mp back⟩

theorem cutAt_plain (plain : ':' ∉ text.toList) : Arguments.cutAt ':' text = none := by
  have all : ∀ c ∈ text.toList, (c != ':') = true := by
    intro c member
    simpa using fun same : c = ':' => plain (same ▸ member)
  rw [Arguments.cutAt, List.dropWhile_eq_nil_iff.mpr all]

theorem cutAt_spelled (text_eq : text.toList = key.toList ++ ':' :: value.toList)
    (plain : ':' ∉ key.toList) : Arguments.cutAt ':' text = some (key, value) := by
  have all : ∀ c ∈ key.toList, (c != ':') = true := by
    intro c member
    simpa using fun same : c = ':' => plain (same ▸ member)
  rw [Arguments.cutAt, text_eq, List.dropWhile_append_of_pos all, List.takeWhile_append_of_pos all]
  simp

theorem exists_spells : (∃ key value, Spells text key value) ↔
    ':' ∈ text.toList ∧ text.toList.head? ≠ some ':' := by
  constructor
  · rintro ⟨key, value, text_eq, plain, named⟩
    rw [text_eq]
    cases front : key.toList with
    | nil => exact absurd (String.toList_eq_nil_iff.mp front) named
    | cons c rest =>
      rw [front, List.mem_cons, not_or] at plain
      exact ⟨by simp, by simpa using Ne.symm plain.1⟩
  · rintro ⟨colon, headed⟩
    obtain ⟨front, back, text_eq, plain⟩ := List.eq_append_cons_of_mem colon
    refine ⟨String.ofList front, String.ofList back, by simpa using text_eq, by simpa using plain,
      fun none => headed ?_⟩
    obtain rfl : front = [] := by simpa using congrArg String.toList none
    simp [text_eq]

theorem pair_of_filled (filled : text ≠ "") (name : String) :
    (Arguments.ofParameters [text]).pair 0 name =
      match Arguments.cutAt ':' text with
      | some (key, value) =>
        if key = "" then .error (.invalid 0 name text "key:value") else .ok (key, value)
      | none => .error (.invalid 0 name text "key:value") := by
  have single : Arguments.ofParameters [text] = ⟨[text]⟩ := if_neg (by simpa using filled)
  have first : Arguments.text ⟨[text]⟩ 0 name = .ok text := if_neg filled
  cases cut : Arguments.cutAt ':' text with
  | none => simp only [Arguments.pair, single, first, cut]
  | some parts => simp only [Arguments.pair, single, first, cut]

theorem Spells.pair_eq (spells : Spells text key value) (name : String) :
    (Arguments.ofParameters [text]).pair 0 name = .ok (key, value) := by
  have filled : text ≠ "" := by
    rintro rfl
    simpa using spells.text_eq
  rw [pair_of_filled filled, cutAt_spelled spells.text_eq spells.plain]
  exact if_neg spells.named

theorem spells_of_pair {name : String}
    (read : (Arguments.ofParameters [text]).pair 0 name = .ok (key, value)) :
    Spells text key value := by
  have filled : text ≠ "" := by
    rintro rfl
    cases read
  by_cases colon : ':' ∈ text.toList
  · obtain ⟨front, back, text_eq, plain⟩ := List.eq_append_cons_of_mem colon
    have cut : Arguments.cutAt ':' text = some (String.ofList front, String.ofList back) :=
      cutAt_spelled (by simpa using text_eq) (by simpa using plain)
    simp only [pair_of_filled filled, cut] at read
    split at read
    next => cases read
    next named =>
      obtain ⟨rfl, rfl⟩ := Prod.mk.inj (Except.ok.inj read)
      exact ⟨by simpa using text_eq, by simpa using plain, named⟩
  · rw [pair_of_filled filled, cutAt_plain colon] at read
    cases read

theorem readSetVariable_eq_ok_iff {b : Builtin} :
    Builtin.readSetVariable (Arguments.ofParameters [text]) = .ok b ↔
      ∃ key value, Spells text key value ∧ b = .setVariable key value := by
  have few : (Arguments.ofParameters [text]).atMost 1 = .ok () := by
    unfold Arguments.ofParameters
    split <;> rfl
  have read : Builtin.readSetVariable (Arguments.ofParameters [text]) =
      ((Arguments.ofParameters [text]).pair 0 "key:value").map
        fun parts => .setVariable parts.1 parts.2 := by
    rw [Builtin.readSetVariable, few]
    cases (Arguments.ofParameters [text]).pair 0 "key:value" <;> rfl
  rw [read]
  constructor
  · intro built
    cases cut : (Arguments.ofParameters [text]).pair 0 "key:value" with
    | error cause => simp [cut, Except.map] at built
    | ok parts =>
      rw [cut] at built
      exact ⟨parts.1, parts.2, spells_of_pair cut, (Except.ok.inj built).symm⟩
  · rintro ⟨key, value, spells, rfl⟩
    rw [spells.pair_eq]
    rfl

end Texts

namespace Engine

def answer (engine : Engine W A) (world : W) (operator : Operator) (text : String) (event : Event)
    (slot : String) (dt : Seconds) : Except EngineError Bool :=
  (engine.checkCondition world event ⟨"variable_set", operator, [text], slot⟩ dt).result

variable [VariableStore W]

def KnowsVariableSet (engine : Engine W A) : Prop :=
  engine.conditions.find? "variable_set" = some Conditions.variableSet

theorem answer_spelled {engine : Engine W A} (known : engine.KnowsVariableSet)
    {text key value : String} (spells : Spells text key value) (world : W) (operator : Operator)
    (event : Event) (slot : String) (dt : Seconds) :
    engine.answer world operator text event slot dt =
      .ok (operator.apply (VariableStore.lookup world key = some value)) := by
  have known : engine.conditions.find? "variable_set" = some Conditions.variableSet := known
  simp only [answer, checkCondition, testCondition, known, Conditions.variableSet, spells.pair_eq,
    Conditions.verdict]

/-- How an engine answers in the world `after`, next to how it answered in the world `before`. -/
structure ReadsBack (engine engine' : Engine W A) (before after : W) (text key value : String) :
    Prop where
  holds : ∀ event slot dt, engine'.answer after .is text event slot dt = .ok true
  negated : ∀ event slot dt, engine'.answer after .not text event slot dt = .ok false
  same_key : ∀ {text' value'}, Spells text' key value' → ∀ event slot dt,
    engine'.answer after .is text' event slot dt = .ok (value' = value)
  other_key : ∀ {text' key' value'}, Spells text' key' value' → key' ≠ key → ∀ event slot dt,
    engine'.answer after .is text' event slot dt = engine.answer before .is text' event slot dt

theorem ReadsBack.of_assign [LawfulVariableStore W] {engine engine' : Engine W A}
    (known : engine.KnowsVariableSet) (known' : engine'.KnowsVariableSet)
    {text key value : String} (spells : Spells text key value) (before : W) :
    ReadsBack engine engine' before (VariableStore.assign before key value) text key value where
  holds event slot dt := by
    rw [answer_spelled known' spells, LawfulVariableStore.lookup_assign_self]
    simp [Operator.apply]
  negated event slot dt := by
    rw [answer_spelled known' spells, LawfulVariableStore.lookup_assign_self]
    simp [Operator.apply]
  same_key spells' event slot dt := by
    rw [answer_spelled known' spells', LawfulVariableStore.lookup_assign_self]
    simp [Operator.apply, eq_comm]
  other_key spells' other event slot dt := by
    rw [answer_spelled known' spells', answer_spelled known spells',
      LawfulVariableStore.lookup_assign_of_ne _ _ _ _ other]

section Setting

variable [ActionHandler W A] {embed : Builtin → A} {engine : Engine W A} {text key value : String}

omit [VariableStore W] [ActionHandler W A] in
theorem create_setVariable (known : engine.Knows embed "set_variable" Builtin.readSetVariable)
    (spells : Spells text key value) (owner : Option EventId) (slot : Nat) :
    createAction engine.actions owner slot "set_variable" [text] =
      (.ok (embed (.setVariable key value)), [.actionCreated owner slot "set_variable"]) := by
  rw [known.create_eq, readSetVariable_eq_ok_iff.mpr ⟨key, value, spells, rfl⟩]

omit [VariableStore W] [ActionHandler W A] in
theorem created_iff (known : engine.Knows embed "set_variable" Builtin.readSetVariable)
    (owner : Option EventId) (slot : Nat) :
    (∃ action notices,
      createAction engine.actions owner slot "set_variable" [text] = (.ok action, notices)) ↔
      ∃ key value, Spells text key value := by
  constructor
  · rintro ⟨action, notices, created⟩
    obtain ⟨b, read, _⟩ := known.of_created created
    obtain ⟨key, value, spells, _⟩ := readSetVariable_eq_ok_iff.mp read
    exact ⟨key, value, spells⟩
  · rintro ⟨key, value, spells⟩
    exact ⟨_, _, create_setVariable known spells owner slot⟩

theorem execute_setVariable (embeds : Builtin.Embeds W embed)
    (known : engine.Knows embed "set_variable" Builtin.readSetVariable)
    (spells : Spells text key value) (polls : Nat) (world : W) (skip : Bool) (step : Seconds) :
    let executed := engine.execute (polls + 1) world "set_variable" [text] skip step
    executed.ending = .finished ∧ executed.world = VariableStore.assign world key value := by
  have begun : Builtin.start (.setVariable key value) ⟨none, step⟩
      ⟨world, Dictionary.empty, engine.state⟩ =
        ⟨.setVariable key value, VariableStore.assign world key value, Dictionary.empty, [],
          .ok ()⟩ :=
    rfl
  obtain ⟨finished, left⟩ := instant_shot embeds rfl begun polls "set_variable" skip
  have executed := execute_created (create_setVariable known spells none 0) (polls + 1) world skip
    step
  exact ⟨executed.1.trans finished, executed.2.trans (congrArg Scene.world left)⟩

theorem visitSlot_setVariable (embeds : Builtin.Embeds W embed)
    (known : engine.Knows embed "set_variable" Builtin.readSetVariable)
    (spells : Spells text key value) {d : Drive W A} (idle : d.event.current = none) (dt : Seconds)
    (slot : String) :
    let visited := visitSlot engine.actions dt d.state.token ⟨"set_variable", [text], slot⟩ d
    visited.step = .next ∧ visited.drive.world = VariableStore.assign d.world key value := by
  have created : d.create engine.actions ⟨"set_variable", [text], slot⟩ = _ :=
    create_setVariable known spells (some d.event.id) d.event.cursor
  have begun : Builtin.start (.setVariable key value) ⟨some d.event.id, dt⟩ d.scene =
      ⟨.setVariable key value, VariableStore.assign d.world key value, d.event.context, [],
        .ok ()⟩ :=
    rfl
  obtain ⟨passed, left⟩ := instant_slot embeds rfl idle created begun
  exact ⟨passed, congrArg Drive.world left⟩

theorem set_variable_is_read_back [LawfulVariableStore W] (embeds : Builtin.Embeds W embed)
    (writes : engine.Knows embed "set_variable" Builtin.readSetVariable)
    (asks : engine.KnowsVariableSet) (text : String) :
    (∀ owner slot, (∃ action notices,
      createAction engine.actions owner slot "set_variable" [text] = (.ok action, notices)) ↔
        ':' ∈ text.toList ∧ text.toList.head? ≠ some ':') ∧
    (':' ∈ text.toList ∧ text.toList.head? ≠ some ':' → ∃ key value, Spells text key value ∧
      (∀ polls world skip step,
        let executed := engine.execute (polls + 1) world "set_variable" [text] skip step
        executed.ending = .finished ∧
          ReadsBack engine executed.engine world executed.world text key value) ∧
      ∀ (d : Drive W A) dt slot, d.event.current = none →
        let visited := visitSlot engine.actions dt d.state.token ⟨"set_variable", [text], slot⟩ d
        visited.step = .next ∧
          ReadsBack engine engine d.world visited.drive.world text key value) := by
  refine ⟨fun owner slot => (created_iff writes owner slot).trans exists_spells, fun cut => ?_⟩
  obtain ⟨key, value, spells⟩ := exists_spells.mpr cut
  refine ⟨key, value, spells, fun polls world skip step => ?_, fun d dt slot idle => ?_⟩
  · obtain ⟨finished, left⟩ := execute_setVariable embeds writes spells polls world skip step
    refine ⟨finished, ?_⟩
    rw [left]
    refine .of_assign asks ?_ spells world
    rw [KnowsVariableSet, execute_conditions]
    exact asks
  · obtain ⟨passed, left⟩ := visitSlot_setVariable embeds writes spells idle dt slot
    refine ⟨passed, ?_⟩
    rw [left]
    exact .of_assign asks asks spells d.world

end Setting

-- The value has colons of its own, in front and at the end.
theorem set_variable_is_read_back_door :
    let engine : Engine Variables Builtin := (Catalog.engine (fun b => b) .default).1
    let world : Variables := .ofList [("door", "shut"), ("gate", "")]
    let executed := engine.execute 1 world "set_variable" ["door::open:"] false .zero
    let asks (text : String) := executed.engine.answer executed.world .is text ⟨⟨1⟩, "", none, [], []⟩
      "cond1" .zero
    executed.ending = .finished ∧ asks "door::open:" = .ok true ∧ asks "door:open" = .ok false ∧
      asks "gate:" = .ok true := by
  intro engine world executed asks
  have spells : Spells "door::open:" "door" ":open:" := ⟨by decide, by decide, by decide⟩
  have knows : engine.Knows (fun b => b) "set_variable" Builtin.readSetVariable := rfl
  obtain ⟨_, agrees⟩ := set_variable_is_read_back Builtin.Embeds.id knows rfl "door::open:"
  obtain ⟨key, value, spelled, alone, _⟩ := agrees (by decide)
  obtain ⟨rfl, rfl⟩ := spelled.unique spells
  obtain ⟨finished, back⟩ := alone 0 world false .zero
  refine ⟨finished, back.holds _ _ _, ?_, ?_⟩
  · exact back.same_key (⟨by decide, by decide, by decide⟩ : Spells "door:open" "door" "open") _ _ _
  · have other := back.other_key
      (⟨by decide, by decide, by decide⟩ : Spells "gate:" "gate" "") (by decide)
    exact (other _ _ _).trans (by decide)

end Engine

end MapScript
