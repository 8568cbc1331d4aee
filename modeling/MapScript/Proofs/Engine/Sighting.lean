import MapScript.Proofs.Engine.Remembering

set_option autoImplicit false

namespace MapScript

open Number Journal

variable {W A : Type}

structure Sighting (W : Type) where
  inquiry : Inquiry W
  condition : Condition
  verdict : Verdict

def sight (tests : Dictionary (ConditionTest W)) (world : W) (dt : Seconds) (event : Event)
    (condition : Condition) (memory : Memory) : List (Sighting W) :=
  match tests.find? condition.kind with
  | none => []
  | some test =>
    let inquiry : Inquiry W := ⟨world, memory, event, dt⟩
    [⟨inquiry, condition, test inquiry condition⟩]

/-- The tests of one declaration: all of them if `thorough`, otherwise up to the first condition
that does not hold. -/
def sightAll (sighted : Condition → Memory → List (Sighting W))
    (judge : Condition → Memory → Tested Bool) (thorough : Bool) :
    List Condition → Memory → List (Sighting W)
  | [], _ => []
  | condition :: rest, memory =>
    let tested := judge condition memory
    sighted condition memory ++
      match tested.result with
      | .error _ => []
      | .ok holds =>
        if holds || thorough then sightAll sighted judge thorough rest tested.memory else []

namespace Engine

def sightingsOf (engine : Engine W A) (world : W) (dt : Seconds) (event : Event) :
    List (Sighting W) :=
  sightAll (sight engine.conditions world dt event) (engine.judge world dt event)
    engine.settings.debugConditions event.conditions engine.state.memory

def sightingsFrom (world : W) (dt : Seconds) : List Event → Engine W A → List (Sighting W)
  | [], _ => []
  | event :: rest, engine =>
    let met := engine.conditionsMet world dt event
    engine.sightingsOf world dt event ++
      match met.result with
      | .error _ => []
      | .ok holds =>
        sightingsFrom world dt rest
          (if holds then (met.engine.startEvent event).2.1 else met.engine)

def sightingsIn (engine : Engine W A) : Operation W A → List (Sighting W)
  | .update world dt => sightingsFrom world dt engine.declarations { engine with trace := [] }
  | .checkCondition world event condition dt =>
    sight engine.conditions world dt event condition engine.state.memory
  | _ => []

def sightings [ActionHandler W A] (engine : Engine W A) : List (Operation W A) → List (Sighting W)
  | [] => []
  | operation :: rest =>
    engine.sightingsIn operation ++ (engine.perform operation).engine.sightings rest

end Engine

@[simp] def Notice.answer? : Notice → Option (EventId × Condition × Bool)
  | .conditionTested id condition result => some (id, condition, result)
  | _ => none

namespace Journal

def answers (journal : Journal) : List (EventId × Condition × Bool) :=
  journal.filterMap Notice.answer?

@[simp] theorem answers_nil : answers [] = [] := rfl

@[simp] theorem answers_append (earlier later : Journal) :
    answers (earlier ++ later) = answers earlier ++ answers later :=
  List.filterMap_append

@[simp] theorem answers_cons (notice : Notice) (rest : Journal) :
    answers (notice :: rest) = notice.answer?.toList ++ answers rest := by
  rw [answers, answers, List.filterMap_cons]
  cases notice.answer? <;> rfl

theorem answers_of_only {kind : Notice → Bool} {journal : Journal} (only : journal.Only kind)
    (other : ∀ id condition result, kind (.conditionTested id condition result) = false) :
    answers journal = [] := by
  refine List.filterMap_eq_nil_iff.mpr fun notice member => ?_
  have known := only notice member
  cases notice <;> first | rfl | simp [other] at known

theorem answers_of_undeclared {journal : Journal} (undeclared : journal.Only Notice.undeclared) :
    answers journal = [] :=
  answers_of_only undeclared fun _ _ _ => rfl

@[simp] theorem answers_said (records : List Record) : answers (records.map Notice.said) = [] := by
  simp [answers]

end Journal

def Sighting.answer? (s : Sighting W) : Option (EventId × Condition × Bool) :=
  match s.verdict.result with
  | .ok raw => some (s.inquiry.event.id, s.condition, s.condition.operator.apply raw)
  | .error _ => none

/-- `Watched tests memory seen journal memory'`: the tests seen are all that has used the memory,
each finds it as the one before it has left it, and the journal has their answers. -/
inductive Watched (tests : Dictionary (ConditionTest W)) :
    Memory → List (Sighting W) → Journal → Memory → Prop
  | unseen (memory : Memory) {notices : Journal} (silent : answers notices = []) :
      Watched tests memory [] notices memory
  | seen {s : Sighting W} {test : ConditionTest W} {notices : Journal}
      (known : tests.find? s.condition.kind = some test)
      (spoken : s.verdict = test s.inquiry s.condition)
      (answer : answers notices = s.answer?.toList) :
      Watched tests s.inquiry.memory [s] notices s.verdict.memory
  | trans {memory middle memory' : Memory} {first second : List (Sighting W)}
      {journal later : Journal} (before : Watched tests memory first journal middle)
      (behind : Watched tests middle second later memory') :
      Watched tests memory (first ++ second) (journal ++ later) memory'

namespace Watched

variable {tests : Dictionary (ConditionTest W)} {memory memory' : Memory}
  {seen : List (Sighting W)} {journal : Journal}

theorem silently (watched : Watched tests memory seen journal memory') {notices : Journal}
    (silent : answers notices = []) : Watched tests memory seen (journal ++ notices) memory' := by
  have behind := watched.trans (.unseen memory' silent)
  rwa [List.append_nil] at behind

theorem answers_eq (watched : Watched tests memory seen journal memory') :
    answers journal = seen.filterMap Sighting.answer? := by
  induction watched with
  | unseen _ silent => exact silent
  | @seen s _ _ _ _ answer =>
    rw [answer, List.filterMap_cons]
    cases s.answer? <;> rfl
  | trans _ _ first second => rw [answers_append, List.filterMap_append, first, second]

theorem verdict_eq (watched : Watched tests memory seen journal memory') {s : Sighting W}
    (member : s ∈ seen) :
    ∃ test, tests.find? s.condition.kind = some test ∧ s.verdict = test s.inquiry s.condition := by
  induction watched with
  | unseen => cases member
  | @seen _ test _ known spoken =>
    obtain rfl := List.mem_singleton.mp member
    exact ⟨test, known, spoken⟩
  | trans _ _ first second => exact (List.mem_append.mp member).elim first second

end Watched

section Conditions

variable (tests : Dictionary (ConditionTest W)) (world : W) (dt : Seconds) (event : Event)
  (condition : Condition) (memory : Memory)

theorem testCondition_watched :
    Watched tests memory (sight tests world dt event condition memory)
      (testCondition tests world dt event condition memory).journal
      (testCondition tests world dt event condition memory).memory := by
  unfold sight testCondition
  cases known : tests.find? condition.kind with
  | none => exact .unseen memory rfl
  | some test =>
    let seen : Sighting W :=
      ⟨⟨world, memory, event, dt⟩, condition, test ⟨world, memory, event, dt⟩ condition⟩
    dsimp only
    cases answer : (test ⟨world, memory, event, dt⟩ condition).result with
    | error cause | ok raw =>
      exact Watched.seen (s := seen) known rfl (by simp [seen, Sighting.answer?, answer])

theorem judgeCondition_watched (settings : Settings) :
    Watched tests memory (sight tests world dt event condition memory)
      (judgeCondition settings tests world dt event condition memory).journal
      (judgeCondition settings tests world dt event condition memory).memory := by
  have watched := testCondition_watched tests world dt event condition memory
  unfold judgeCondition
  dsimp only
  split
  · exact watched.silently (by simp)
  · exact watched

end Conditions

section Declarations

variable {tests : Dictionary (ConditionTest W)} {sighted : Condition → Memory → List (Sighting W)}
  {judge : Condition → Memory → Tested Bool}
  (watches : ∀ condition memory, Watched tests memory (sighted condition memory)
    (judge condition memory).journal (judge condition memory).memory)

include watches

theorem allHold_watched (conditions : List Condition) (memory : Memory) :
    Watched tests memory (sightAll sighted judge false conditions memory)
      (allHold judge conditions memory).journal (allHold judge conditions memory).memory := by
  induction conditions generalizing memory with
  | nil => exact .unseen memory rfl
  | cons condition rest ih =>
    have here := watches condition memory
    simp only [allHold, sightAll]
    generalize judge condition memory = tested at here ⊢
    obtain ⟨middle, journal, cause | _ | _⟩ := tested
    · simpa using here
    · simpa using here
    · exact here.trans (ih middle)

theorem resultsFrom_watched (index : Nat) (conditions : List Condition) (memory : Memory) :
    Watched tests memory (sightAll sighted judge true conditions memory)
      (resultsFrom judge index conditions memory).journal
      (resultsFrom judge index conditions memory).memory := by
  induction conditions generalizing index memory with
  | nil => exact .unseen memory rfl
  | cons condition rest ih =>
    have here := watches condition memory
    simp only [resultsFrom, sightAll]
    generalize judge condition memory = tested at here ⊢
    obtain ⟨middle, journal, cause | holds⟩ := tested
    · simpa using here
    · simpa using here.trans (ih (index + 1) middle)

end Declarations

namespace Engine

theorem conditionsMet_watched (engine : Engine W A) (world : W) (dt : Seconds) (event : Event) :
    Watched engine.conditions engine.state.memory (engine.sightingsOf world dt event)
      (engine.conditionsMet world dt event).journal
      (engine.conditionsMet world dt event).engine.state.memory := by
  have watches := judgeCondition_watched engine.conditions world dt event
  unfold sightingsOf conditionsMet
  cases engine.settings.debugConditions with
  | true =>
    have watched := resultsFrom_watched (fun condition memory => watches condition memory
      engine.settings) 0 event.conditions engine.state.memory
    simp only [if_true]
    split <;> exact watched
  | false =>
    exact allHold_watched (fun condition memory => watches condition memory engine.settings)
      event.conditions engine.state.memory

theorem startEvent_answers (engine : Engine W A) (event : Event) :
    answers (engine.startEvent event).2.2 = [] := by
  unfold startEvent
  split
  next => rfl
  next => rcases retireInit_notices engine.state event.id with none | retired <;> simp [*]

theorem startSatisfied_watched (world : W) (dt : Seconds) (events : List Event)
    (engine : Engine W A) :
    Watched engine.conditions engine.state.memory (sightingsFrom world dt events engine)
      (startSatisfied world dt events engine).journal
      (startSatisfied world dt events engine).engine.state.memory := by
  induction events generalizing engine with
  | nil => exact .unseen _ rfl
  | cons event rest ih =>
    have here := conditionsMet_watched engine world dt event
    have same := (conditionsMet_same world dt engine event).conditions
    simp only [startSatisfied, sightingsFrom]
    generalize engine.conditionsMet world dt event = met at here same ⊢
    obtain ⟨middle, journal, cause | holds⟩ := met
    · simpa using here
    · cases holds with
      | false =>
        have later := ih middle
        rw [same] at later
        simpa using here.trans later
      | true =>
        -- The start comes between two declarations: it tests nothing and keeps the memory.
        have later := ih (middle.startEvent event).2.1
        have silent : answers (middle.startEvent event).2.2 = [] := startEvent_answers middle event
        rw [(startEvent_same middle event).conditions, same, startEvent_memory] at later
        exact (here.silently silent).trans later

variable [ActionHandler W A]

theorem update_watched (engine : Engine W A) (world : W) (dt : Seconds) :
    Watched engine.conditions engine.state.memory (engine.sightingsIn (.update world dt))
      (engine.update world dt).journal (engine.beforeHooks (.update world dt)).state.memory := by
  have watched := startSatisfied_watched world dt engine.declarations { engine with trace := [] }
  rcases update_cases engine world dt with ⟨cause, _, ended⟩ | ⟨taken, journal, s', result, half,
    pass, ended⟩
  · rw [ended]
    exact watched
  · have cancels := (taken.sweepStart world).applyPending_cancels
    rw [ended]
    refine watched.silently (answers_of_undeclared ?_)
    simp [cancels.mono Notice.undeclared_of_cancels, pass.undeclared]

theorem perform_watched (engine : Engine W A) (operation : Operation W A) :
    Watched engine.conditions engine.state.memory (engine.sightingsIn operation)
      (engine.perform operation).journal (engine.afterTests operation).state.memory := by
  cases operation with
  | update world dt => exact update_watched engine world dt
  | checkCondition world event condition dt =>
    exact testCondition_watched engine.conditions world dt event condition engine.state.memory
  | execute polls world name parameters skip step =>
    have undeclared := (execute_undeclared engine polls world name parameters skip step).1
    exact .unseen _ (answers_of_undeclared undeclared)
  | startEvent event => exact .unseen _ (startEvent_answers engine event)
  | cancelEvent id => exact .unseen _ (answers_of_only (cancelById_cancels id engine.running).quiet
      fun _ _ _ => rfl)
  | cancelAllEvents => exact .unseen _ (answers_of_only (cancelAll_cancels engine.running).quiet
      fun _ _ _ => rfl)
  | cancelCurrentAction id =>
    exact .unseen _ (answers_of_only (cancelActionIn_cancels id engine.running).quiet
      fun _ _ _ => rfl)
  | _ => exact .unseen _ rfl

theorem run_answers (engine : Engine W A) (operations : List (Operation W A)) :
    answers (engine.run operations).2 =
      (engine.sightings operations).filterMap Sighting.answer? := by
  induction operations generalizing engine with
  | nil => rfl
  | cons operation rest ih =>
    have here := (engine.perform_watched operation).answers_eq
    rw [run, sightings, answers_append, List.filterMap_append, here, ih]

end Engine

end MapScript
