import MapScript.Engine.Update

set_option autoImplicit false

namespace MapScript

open Number

variable {W A B : Type}

@[simp] def Notice.call? : Notice → Option Call
  | .called call => some call
  | _ => none

namespace Journal

def calls (journal : Journal) : List Call :=
  journal.filterMap Notice.call?

@[simp] theorem calls_nil : calls [] = [] := rfl

@[simp] theorem calls_append (earlier later : Journal) :
    calls (earlier ++ later) = calls earlier ++ calls later :=
  List.filterMap_append

@[simp] theorem calls_cons (notice : Notice) (rest : Journal) :
    calls (notice :: rest) = notice.call?.toList ++ calls rest := by
  rw [calls, calls, List.filterMap_cons]
  cases notice.call? <;> rfl

@[simp] theorem calls_said (records : List Record) : calls (records.map Notice.said) = [] := by
  induction records with
  | nil => rfl
  | cons record rest ih => simp [ih]

def Only (kind : Notice → Bool) (journal : Journal) : Prop :=
  ∀ notice ∈ journal, kind notice = true

variable {kind wider : Notice → Bool}

@[simp] theorem only_nil : Only kind [] :=
  fun _ member => absurd member List.not_mem_nil

@[simp] theorem only_cons (notice : Notice) (rest : Journal) :
    Only kind (notice :: rest) ↔ kind notice = true ∧ Only kind rest :=
  List.forall_mem_cons

@[simp] theorem only_append (earlier later : Journal) :
    Only kind (earlier ++ later) ↔ Only kind earlier ∧ Only kind later :=
  List.forall_mem_append

@[simp] theorem only_said (records : List Record) :
    Only kind (records.map Notice.said) ↔ ∀ record ∈ records, kind (.said record) = true :=
  List.forall_mem_map

theorem Only.mono {journal : Journal} (only : Only kind journal)
    (wide : ∀ notice, kind notice = true → wider notice = true) : Only wider journal :=
  fun notice member => wide notice (only notice member)

theorem Only.calls_eq {journal : Journal} (only : Only kind journal)
    (silent : ∀ call, kind (.called call) = false) : calls journal = [] := by
  refine List.filterMap_eq_nil_iff.mpr fun notice member => ?_
  have known := only notice member
  cases notice <;> first | rfl | simp [silent] at known

end Journal

open Journal

@[simp] def Notice.tests : Notice → Bool
  | .said _ | .conditionMissing _ | .conditionTested _ _ _ | .conditionFailed _ _ _ => true
  | _ => false

@[simp] def Notice.admits : Notice → Bool
  | .eventStarted _ _ _ | .initRetired _ => true
  | notice => notice.tests

theorem Notice.admits_of_tests (notice : Notice) (tests : notice.tests = true) :
    notice.admits = true := by
  cases notice <;> first | exact tests | rfl

section Splits

variable {earlier later pre post : List B} {first item : B}

theorem split_cons (split : first :: later = pre ++ item :: post) :
    (first = item ∧ later = post) ∨ ∃ front, later = front ++ item :: post := by
  rcases List.cons_eq_append_iff.mp split with ⟨_, same⟩ | ⟨front, _, tail⟩
  · obtain ⟨rfl, rfl⟩ := List.cons.inj same
    exact .inl ⟨rfl, rfl⟩
  · exact .inr ⟨front, tail⟩

theorem split_sides (split : earlier ++ later = pre ++ item :: post) :
    (∃ rest, earlier = pre ++ item :: rest ∧ post = rest ++ later) ∨
      ∃ front, pre = earlier ++ front ∧ later = front ++ item :: post := by
  rcases List.append_eq_append_iff.mp split with ⟨front, head, tail⟩ | ⟨rest, head, tail⟩
  · exact .inr ⟨front, head, tail⟩
  · cases rest with
    | nil => exact .inr ⟨[], by simpa using head.symm, by simpa using tail.symm⟩
    | cons next rest =>
      obtain ⟨rfl, rfl⟩ := List.cons.inj tail
      exact .inl ⟨rest, head, rfl⟩

theorem split_append (split : earlier ++ later = pre ++ item :: post) :
    (∃ rest, earlier = pre ++ item :: rest ∧ post = rest ++ later) ∨
      ∃ front, later = front ++ item :: post :=
  (split_sides split).imp_right fun ⟨front, _, tail⟩ => ⟨front, tail⟩

theorem split_behind (split : earlier ++ later = pre ++ item :: post) (absent : item ∉ earlier) :
    ∃ front, pre = earlier ++ front ∧ later = front ++ item :: post :=
  (split_sides split).resolve_left fun ⟨_, inside, _⟩ => absent (by simp [inside])

theorem not_split_nil : ¬ [] = pre ++ item :: post := by
  simp

end Splits

def Call.cleanup (call : Call) (reply : Reply) (moved : Bool) : Call :=
  { call with hook := .cleanup, reply, moved }

@[simp] theorem ScopeState.apply_calls (s : ScopeState) (effect : Effect) :
    calls (s.apply effect).2 = [] := by
  cases effect <;> simp [apply, load, reset]

@[simp] theorem ScopeState.applyAll_calls (s : ScopeState) (effects : List Effect) :
    calls (s.applyAll effects).2 = [] := by
  induction effects generalizing s with
  | nil => rfl
  | cons effect rest ih => simp [applyAll, ih]

def replyTo [Replies B] : Except EngineError B → Reply
  | .ok value => Replies.reply value
  | .error _ => .failed

theorem replyTo_mapError [Replies B] (result : Except Failure B) (wrap : Failure → EngineError) :
    replyTo (result.mapError wrap) = replyOf result := by
  cases result <;> rfl

theorem callHook_calls [Replies B] (kind : String) (phase : Phase) (hook : Hook) (slot : Nat)
    (moment : Moment) (hookOf : A → Moment → Scene W → Outcome W A B) (action : A)
    (scene : Scene W) :
    calls (callHook kind phase hook slot moment hookOf action scene).journal =
      [⟨moment.event, slot, kind, hook,
        replyTo (callHook kind phase hook slot moment hookOf action scene).result,
        decide ((callHook kind phase hook slot moment hookOf action scene).scene.state.token ≠
          scene.state.token)⟩] := by
  simp only [callHook, calls_append, ScopeState.applyAll_calls, List.nil_append, replyTo_mapError]
  rfl

theorem createAction_calls (factories : Dictionary (ActionFactory A)) (owner : Option EventId)
    (slot : Nat) (name : String) (parameters : List String) :
    calls (createAction factories owner slot name parameters).2 = [] := by
  unfold createAction
  split
  next => rfl
  next => split <;> rfl

theorem testCondition_tests (tests : Dictionary (ConditionTest W)) (world : W) (dt : Seconds)
    (event : Event) (condition : Condition) (memory : Memory) :
    Only Notice.tests (testCondition tests world dt event condition memory).journal := by
  unfold testCondition
  split
  next => simp
  next =>
    dsimp only
    split <;> simp

theorem judgeCondition_tests (settings : Settings) (tests : Dictionary (ConditionTest W))
    (world : W) (dt : Seconds) (event : Event) (condition : Condition) (memory : Memory) :
    Only Notice.tests (judgeCondition settings tests world dt event condition memory).journal := by
  have tested := testCondition_tests tests world dt event condition memory
  unfold judgeCondition
  dsimp only
  split <;> simp [tested]

section Conditions

variable {judge : Condition → Memory → Tested Bool}
  (tests : ∀ condition memory, Only Notice.tests (judge condition memory).journal)

include tests

theorem allHold_tests (conditions : List Condition) (memory : Memory) :
    Only Notice.tests (allHold judge conditions memory).journal := by
  induction conditions generalizing memory with
  | nil => exact only_nil
  | cons condition rest ih =>
    simp only [allHold]
    split <;> simp [tests, ih]

theorem resultsFrom_tests (index : Nat) (conditions : List Condition) (memory : Memory) :
    Only Notice.tests (resultsFrom judge index conditions memory).journal := by
  induction conditions generalizing index memory with
  | nil => exact only_nil
  | cons condition rest ih =>
    simp only [resultsFrom]
    split <;> simp [tests, ih]

end Conditions

namespace Engine

theorem conditionsMet_tests (engine : Engine W A) (world : W) (dt : Seconds) (event : Event) :
    Only Notice.tests (engine.conditionsMet world dt event).journal := by
  have tests (condition : Condition) (memory : Memory) :
      Only Notice.tests (engine.judge world dt event condition memory).journal :=
    judgeCondition_tests _ _ _ _ _ _ _
  unfold conditionsMet
  split
  next =>
    dsimp only
    split <;> simp [resultsFrom_tests tests]
  next => simp [allHold_tests tests]

theorem retireInit_notices (state : ScopeState) (id : EventId) :
    (retireInit state id).2 = [] ∨ (retireInit state id).2 = [.initRetired id] := by
  unfold retireInit
  split
  next => exact .inl rfl
  next => split <;> simp

theorem startEvent_admits (engine : Engine W A) (event : Event) :
    Only Notice.admits (engine.startEvent event).2.2 := by
  unfold startEvent
  split
  next => exact only_nil
  next =>
    rcases retireInit_notices engine.state event.id with none | retired
    · simp [none]
    · simp [retired]

theorem startSatisfied_admits (world : W) (dt : Seconds) (events : List Event)
    (engine : Engine W A) : Only Notice.admits (startSatisfied world dt events engine).journal := by
  induction events generalizing engine with
  | nil => exact only_nil
  | cons event rest ih =>
    have tested : Only Notice.admits (engine.conditionsMet world dt event).journal :=
      (conditionsMet_tests engine world dt event).mono Notice.admits_of_tests
    simp only [startSatisfied]
    split
    next => exact tested
    next holds _ => cases holds <;> simp [tested, startEvent_admits, ih]

theorem intake_admits (engine : Engine W A) (world : W) (dt : Seconds) :
    Only Notice.admits (engine.intake world dt).journal :=
  startSatisfied_admits world dt _ engine

theorem startEvent_calls (engine : Engine W A) (event : Event) :
    calls (engine.startEvent event).2.2 = [] :=
  (startEvent_admits engine event).calls_eq fun _ => rfl

theorem intake_calls (engine : Engine W A) (world : W) (dt : Seconds) :
    calls (engine.intake world dt).journal = [] :=
  (intake_admits engine world dt).calls_eq fun _ => rfl

theorem checkCondition_calls (engine : Engine W A) (world : W) (event : Event)
    (condition : Condition) (dt : Seconds) :
    calls (engine.checkCondition world event condition dt).journal = [] :=
  (testCondition_tests _ world dt event condition _).calls_eq fun _ => rfl

end Engine

end MapScript
