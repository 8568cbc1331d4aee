import MapScript.Proofs.Engine.Scripted
import MapScript.Proofs.Engine.Surveying

set_option autoImplicit false

namespace MapScript

open Number Journal

variable {W A : Type}

def ReadsOnly (test : ConditionTest W) : Prop :=
  ∀ inquiry condition, (test inquiry condition).memory = inquiry.memory

def Dictionary.ReadOnly (tests : Dictionary (ConditionTest W)) : Prop :=
  ∀ name test, tests.find? name = some test → ReadsOnly test

def Operation.ReadOnly : Operation W A → Prop
  | registerCondition _ test => ReadsOnly test
  | replaceConditions tests => tests.ReadOnly
  | _ => True

theorem Dictionary.ReadOnly.insert {tests : Dictionary (ConditionTest W)} (reads : tests.ReadOnly)
    (name : String) {test : ConditionTest W} (new : ReadsOnly test) :
    (tests.insert name test).ReadOnly := by
  intro other found known
  by_cases same : other = name
  · subst same
    rw [find?_insert_self] at known
    exact Option.some.inj known ▸ new
  · rw [find?_insert_of_ne _ _ same] at known
    exact reads other found known

section Conditions

theorem judgeCondition_memory {tests : Dictionary (ConditionTest W)} (reads : tests.ReadOnly)
    (settings : Settings) (world : W) (dt : Seconds) (event : Event) (condition : Condition)
    (memory : Memory) :
    (judgeCondition settings tests world dt event condition memory).memory = memory := by
  have found := judgeCondition_found settings tests world dt event condition memory
  generalize judgeCondition settings tests world dt event condition memory = tested at found ⊢
  obtain ⟨after, journal, result⟩ := tested
  cases found with
  | answered known | failed known | forgiven known => exact reads _ _ known _ _
  | missing | overlooked => rfl

variable {judge : Condition → Memory → Tested Bool}
  (reads : ∀ condition memory, (judge condition memory).memory = memory)

include reads

theorem allHold_memory (conditions : List Condition) (memory : Memory) :
    (allHold judge conditions memory).memory = memory := by
  induction conditions generalizing memory with
  | nil => rfl
  | cons condition rest ih =>
    have here := reads condition memory
    simp only [allHold]
    split
    next => exact here
    next => exact here
    next => exact (ih _).trans here

theorem resultsFrom_memory (index : Nat) (conditions : List Condition) (memory : Memory) :
    (resultsFrom judge index conditions memory).memory = memory := by
  induction conditions generalizing index memory with
  | nil => rfl
  | cons condition rest ih =>
    have here := reads condition memory
    simp only [resultsFrom]
    split
    next => exact here
    next => exact (ih _ _).trans here

theorem allHold_of_resultsFrom {index : Nat} {conditions : List Condition} {memory : Memory}
    {results : List ConditionResult}
    (fine : (resultsFrom judge index conditions memory).result = .ok results) :
    (allHold judge conditions memory).result = .ok (results.all ConditionResult.passed) := by
  induction conditions generalizing index results with
  | nil =>
    obtain rfl : [] = results := by simpa [resultsFrom] using fine
    rfl
  | cons condition rest ih =>
    have here := reads condition memory
    simp only [resultsFrom, allHold] at fine ⊢
    generalize judge condition memory = tested at here fine ⊢
    obtain ⟨after, journal, cause | passed⟩ := tested
    · cases fine
    · subst here
      dsimp only at fine ⊢
      cases later : (resultsFrom judge (index + 1) rest after).result with
      | error cause => simp [later, Except.map] at fine
      | ok others =>
        obtain rfl : ⟨index, passed⟩ :: others = results := by
          simpa [later, Except.map] using fine
        cases passed with
        -- The short test is over here; what the long one learns after this cannot undo it.
        | false => simp
        | true => simpa using ih later

end Conditions

namespace Engine

/-- The engines are the same but for their traces and for whether they trace at all. -/
structure Alike (engine other : Engine W A) : Prop where
  actions_eq : other.actions = engine.actions
  conditions_eq : other.conditions = engine.conditions
  policy_eq : other.settings.failurePolicy = engine.settings.failurePolicy
  state_eq : other.state = engine.state
  running_eq : other.running = engine.running

theorem Alike.exists_with {engine other : Engine W A} (alike : Alike engine other) :
    ∃ settings trace, settings.failurePolicy = engine.settings.failurePolicy ∧
      other = { engine with settings, trace } := by
  obtain ⟨actions, conditions, settings, state, running, trace⟩ := other
  obtain ⟨rfl, rfl, policy, rfl, rfl⟩ := alike
  exact ⟨settings, trace, policy, rfl⟩

/-- A frame in which no condition fails, or which only drops what fails; or no frame at all. -/
def Untroubled (engine : Engine W A) : Operation W A → Prop
  | .update world dt => engine.settings.failurePolicy = .dropEvent ∨ ∀ satisfied memory cause,
      ¬ engine.Surveys world dt engine.declarations engine.state.memory satisfied memory
        (.error cause)
  | _ => True

def RunsUntroubled [ActionHandler W A] (engine : Engine W A) : List (Operation W A) → Prop
  | [] => True
  | operation :: rest =>
    engine.Untroubled operation ∧ RunsUntroubled (engine.perform operation).engine rest

theorem intake_untroubled {engine : Engine W A} {world : W} {dt : Seconds}
    (untroubled : engine.Untroubled (.update world dt)) :
    ({ engine with trace := [] }.intake world dt).result = .ok () := by
  obtain ⟨satisfied, surveys, _⟩ := beforeHooks_surveys engine world dt
  rcases untroubled with lenient | strict
  · exact surveys_lenient engine world dt lenient surveys
  · cases ended : ({ engine with trace := [] }.intake world dt).result with
    | error cause => exact absurd (ended ▸ surveys) (strict _ _ cause)
    | ok => rfl

section Frames

variable {engine other : Engine W A} {world : W} {dt : Seconds}

theorem conditionsMet_reads (reads : engine.conditions.ReadOnly) {event : Event} {holds : Bool}
    (fine : (engine.conditionsMet world dt event).result = .ok holds) :
    (allHold (engine.judge world dt event) event.conditions engine.state.memory).result =
        .ok holds ∧
      (engine.conditionsMet world dt event).engine =
        { engine with trace := (engine.conditionsMet world dt event).engine.trace } := by
  have judged (condition : Condition) (memory : Memory) :
      (engine.judge world dt event condition memory).memory = memory :=
    judgeCondition_memory reads engine.settings world dt event condition memory
  unfold conditionsMet at fine ⊢
  cases traced : engine.settings.debugConditions with
  | false =>
    simp only [traced, Bool.false_eq_true, if_false, allHold_memory judged] at fine ⊢
    exact ⟨fine, rfl⟩
  | true =>
    have kept := resultsFrom_memory judged 0 event.conditions engine.state.memory
    have short (results : List ConditionResult)
        (fine : (resultsFrom (engine.judge world dt event) 0 event.conditions
          engine.state.memory).result = .ok results) := allHold_of_resultsFrom judged fine
    simp only [traced, if_true] at fine ⊢
    generalize resultsFrom (engine.judge world dt event) 0 event.conditions engine.state.memory =
      tested at kept short fine ⊢
    obtain ⟨memory, journal, cause | results⟩ := tested
    · cases fine
    · obtain rfl : (Evaluation.mk event results).passed = holds := by simpa using fine
      dsimp only at kept
      subst kept
      exact ⟨short results rfl, rfl⟩

theorem Alike.judge_eq (alike : Alike engine other) (event : Event) :
    other.judge world dt event = engine.judge world dt event := by
  unfold judge judgeCondition
  rw [alike.conditions_eq, alike.policy_eq]

theorem conditionsMet_alike (alike : Alike engine other) (reads : engine.conditions.ReadOnly)
    {event : Event} {holds holds' : Bool}
    (fine : (engine.conditionsMet world dt event).result = .ok holds)
    (fine' : (other.conditionsMet world dt event).result = .ok holds') :
    holds' = holds ∧
      Alike (engine.conditionsMet world dt event).engine
        (other.conditionsMet world dt event).engine := by
  have reads' : other.conditions.ReadOnly := by rwa [alike.conditions_eq]
  obtain ⟨short, kept⟩ := conditionsMet_reads reads fine
  obtain ⟨short', kept'⟩ := conditionsMet_reads reads' fine'
  rw [alike.judge_eq, alike.state_eq, short] at short'
  rw [kept, kept']
  exact ⟨(Except.ok.inj short').symm, alike.actions_eq, alike.conditions_eq, alike.policy_eq,
    alike.state_eq, alike.running_eq⟩

theorem startEvent_alike (alike : Alike engine other) (event : Event) :
    (other.startEvent event).1 = (engine.startEvent event).1 ∧
      Alike (engine.startEvent event).2.1 (other.startEvent event).2.1 := by
  obtain ⟨actions_eq, conditions_eq, policy_eq, state_eq, running_eq⟩ := alike
  unfold startEvent isRunning
  rw [running_eq, state_eq]
  split
  next => exact ⟨rfl, actions_eq, conditions_eq, policy_eq, state_eq, running_eq⟩
  next => exact ⟨rfl, actions_eq, conditions_eq, policy_eq, rfl, rfl⟩

theorem startSatisfied_alike {events : List Event} (alike : Alike engine other)
    (reads : engine.conditions.ReadOnly)
    (fine : (startSatisfied world dt events engine).result = .ok ())
    (fine' : (startSatisfied world dt events other).result = .ok ()) :
    Alike (startSatisfied world dt events engine).engine
      (startSatisfied world dt events other).engine := by
  induction events generalizing engine other with
  | nil => exact alike
  | cons event rest ih =>
    have same := conditionsMet_same world dt engine event
    simp only [startSatisfied] at fine fine' ⊢
    cases met : (engine.conditionsMet world dt event).result with
    | error cause => simp [met] at fine
    | ok holds =>
      cases met' : (other.conditionsMet world dt event).result with
      | error cause => simp [met'] at fine'
      | ok holds' =>
        obtain ⟨rfl, tested⟩ := conditionsMet_alike alike reads met met'
        simp only [met, met'] at fine fine' ⊢
        rw [← same.conditions] at reads
        cases holds' with
        | false => exact ih tested reads fine fine'
        | true =>
          have started := startEvent_same (engine.conditionsMet world dt event).engine event
          rw [← started.conditions] at reads
          exact ih (startEvent_alike tested event).2 reads fine fine'

variable [ActionHandler W A]

variable (world dt) in
theorem sweep_alike (alike : Alike engine other) :
    (other.sweep world dt).world = (engine.sweep world dt).world ∧
      (other.sweep world dt).result = (engine.sweep world dt).result ∧
      (other.sweep world dt).journal = (engine.sweep world dt).journal ∧
      Alike (engine.sweep world dt).engine (other.sweep world dt).engine := by
  obtain ⟨actions_eq, conditions_eq, policy_eq, state_eq, running_eq⟩ := alike
  unfold sweep
  rw [actions_eq, policy_eq, state_eq, running_eq]
  exact ⟨rfl, rfl, rfl, rfl, conditions_eq, policy_eq, rfl, rfl⟩

theorem update_alike (alike : Alike engine other) (reads : engine.conditions.ReadOnly)
    (untroubled : engine.Untroubled (.update world dt))
    (untroubled' : other.Untroubled (.update world dt)) :
    (other.update world dt).world = (engine.update world dt).world ∧
      (other.update world dt).result = (engine.update world dt).result ∧
      calls (other.update world dt).journal = calls (engine.update world dt).journal ∧
      Alike (engine.update world dt).engine (other.update world dt).engine := by
  have cleared : Alike { engine with trace := [] } { other with trace := [] } :=
    ⟨alike.actions_eq, alike.conditions_eq, alike.policy_eq, alike.state_eq, alike.running_eq⟩
  have fine := intake_untroubled untroubled
  have fine' := intake_untroubled untroubled'
  have silent := intake_calls { engine with trace := [] } world dt
  have silent' := intake_calls { other with trace := [] } world dt
  have declared : ({ other with trace := [] } : Engine W A).declarations =
      ({ engine with trace := [] } : Engine W A).declarations := by
    simp only [declarations, alike.state_eq]
  -- The two intakes test differently and leave the same; from there on the frames are equal.
  have begun : Alike ({ engine with trace := [] }.intake world dt).engine
      ({ other with trace := [] }.intake world dt).engine := by
    unfold intake at fine fine' ⊢
    rw [declared] at fine' ⊢
    exact startSatisfied_alike cleared reads fine fine'
  obtain ⟨world_eq, result_eq, journal_eq, swept⟩ := sweep_alike world dt begun
  simp only [update, fine, fine', calls_append, silent, silent', journal_eq, world_eq, result_eq]
  exact ⟨trivial, trivial, trivial, swept⟩

theorem execute_alike (alike : Alike engine other) (polls : Nat) (world : W) (name : String)
    (parameters : List String) (skip : Bool) (step : Seconds) :
    (other.execute polls world name parameters skip step).world =
        (engine.execute polls world name parameters skip step).world ∧
      (other.execute polls world name parameters skip step).ending =
        (engine.execute polls world name parameters skip step).ending ∧
      (other.execute polls world name parameters skip step).journal =
        (engine.execute polls world name parameters skip step).journal ∧
      Alike (engine.execute polls world name parameters skip step).engine
        (other.execute polls world name parameters skip step).engine := by
  obtain ⟨actions_eq, conditions_eq, policy_eq, state_eq, running_eq⟩ := alike
  unfold execute
  rw [actions_eq, state_eq, running_eq]
  split
  next => exact ⟨rfl, rfl, rfl, actions_eq, conditions_eq, policy_eq, state_eq, running_eq⟩
  next => exact ⟨rfl, rfl, rfl, rfl, conditions_eq, policy_eq, rfl, rfl⟩

end Frames

section Operations

variable [ActionHandler W A] {engine other : Engine W A}

theorem perform_alike (alike : Alike engine other) (reads : engine.conditions.ReadOnly)
    {operation : Operation W A} (untroubled : engine.Untroubled operation)
    (untroubled' : other.Untroubled operation) :
    (other.perform operation).answer = (engine.perform operation).answer ∧
      calls (other.perform operation).journal = calls (engine.perform operation).journal ∧
      Alike (engine.perform operation).engine (other.perform operation).engine := by
  obtain ⟨actions_eq, conditions_eq, policy_eq, state_eq, running_eq⟩ := id alike
  cases operation with
  | update world dt =>
    obtain ⟨world_eq, result_eq, calls_eq, same⟩ := update_alike alike reads untroubled untroubled'
    simp only [perform, world_eq, result_eq]
    exact ⟨trivial, calls_eq, same⟩
  | execute polls world name parameters skip step =>
    obtain ⟨world_eq, ending_eq, journal_eq, same⟩ :=
      execute_alike alike polls world name parameters skip step
    simp only [perform, world_eq, ending_eq, journal_eq]
    exact ⟨trivial, trivial, same⟩
  | startEvent event =>
    obtain ⟨started, same⟩ := startEvent_alike alike event
    simp only [perform, startEvent_calls, started]
    exact ⟨trivial, trivial, same⟩
  -- From here on both have the same settings, and still different traces.
  | configure settings => exact ⟨rfl, rfl, actions_eq, conditions_eq, rfl, state_eq, running_eq⟩
  | _ =>
    obtain ⟨settings, trace, policy, rfl⟩ := alike.exists_with
    exact ⟨rfl, rfl, rfl, rfl, policy, rfl, rfl⟩

theorem update_conditions (engine : Engine W A) (world : W) (dt : Seconds) :
    (engine.update world dt).engine.conditions = engine.conditions := by
  have same := intake_same world dt { engine with trace := [] }
  unfold update
  dsimp only
  split <;> exact same.conditions

theorem perform_reads (reads : engine.conditions.ReadOnly) {operation : Operation W A}
    (brought : operation.ReadOnly) : (engine.perform operation).engine.conditions.ReadOnly := by
  cases operation with
  | registerCondition name test => exact reads.insert name brought
  | replaceConditions tests => exact brought
  | update world dt => simpa only [perform, update_conditions] using reads
  | execute => simpa only [perform, execute_conditions] using reads
  | startEvent event => simpa only [perform, (startEvent_same engine event).conditions] using reads
  | _ => exact reads

theorem runsUntroubled_append {earlier later : List (Operation W A)}
    (untroubled : engine.RunsUntroubled (earlier ++ later)) :
    engine.RunsUntroubled earlier ∧ (engine.run earlier).1.RunsUntroubled later := by
  induction earlier generalizing engine with
  | nil => exact ⟨trivial, untroubled⟩
  | cons operation rest ih =>
    obtain ⟨here, there⟩ := untroubled
    exact ⟨⟨here, (ih there).1⟩, (ih there).2⟩

theorem run_alike {operations : List (Operation W A)} (alike : Alike engine other)
    (reads : engine.conditions.ReadOnly) (brought : ∀ operation ∈ operations, operation.ReadOnly)
    (untroubled : engine.RunsUntroubled operations)
    (untroubled' : other.RunsUntroubled operations) :
    Alike (engine.run operations).1 (other.run operations).1 ∧
      (engine.run operations).1.conditions.ReadOnly := by
  induction operations generalizing engine other with
  | nil => exact ⟨alike, reads⟩
  | cons operation rest ih =>
    obtain ⟨here, there⟩ := untroubled
    obtain ⟨here', there'⟩ := untroubled'
    have next := (perform_alike alike reads here here').2.2
    have kept := perform_reads reads (brought operation List.mem_cons_self)
    exact ih next kept (fun later member => brought later (List.mem_cons_of_mem _ member)) there
      there'

theorem tracing_changes_nothing (alike : Alike engine other) (reads : engine.conditions.ReadOnly)
    (before : List (Operation W A)) (operation : Operation W A)
    (brought : ∀ operation ∈ before, operation.ReadOnly)
    (untroubled : engine.RunsUntroubled (before ++ [operation]))
    (untroubled' : other.RunsUntroubled (before ++ [operation])) :
    ((other.run before).1.perform operation).answer =
        ((engine.run before).1.perform operation).answer ∧
      calls ((other.run before).1.perform operation).journal =
        calls ((engine.run before).1.perform operation).journal ∧
      Alike ((engine.run before).1.perform operation).engine
        ((other.run before).1.perform operation).engine := by
  obtain ⟨earlier, here, _⟩ := runsUntroubled_append untroubled
  obtain ⟨earlier', here', _⟩ := runsUntroubled_append untroubled'
  obtain ⟨same, kept⟩ := run_alike alike reads brought earlier earlier'
  exact perform_alike same kept here here'

end Operations

def glance : ConditionTest Unit := fun inquiry condition =>
  ⟨inquiry.memory, [],
    if condition.slot = "bad" then .error ⟨"", []⟩ else .ok (condition.slot = "good")⟩

def glancing (debugging : Bool) : Engine Unit Scripted :=
  new (Dictionary.empty.insert "act" fun _ => .ok Scripted.idle)
    (Dictionary.empty.insert "look" glance) ⟨debugging, .dropEvent⟩

def glancedAt : Operation Unit Scripted :=
  .loadScope ⟨"",
    [⟨⟨1⟩, "", none, [⟨"look", .not, [], "good"⟩, ⟨"look", .is, [], "bad"⟩], [⟨"act", [], ""⟩]⟩],
    [⟨⟨2⟩, "", none, [⟨"look", .is, [], "good"⟩], [⟨"act", [], ""⟩]⟩]⟩

theorem glancing_untroubled (debugging : Bool) :
    (glancing debugging).RunsUntroubled [glancedAt, .update () .zero] :=
  ⟨trivial, .inl rfl, trivial⟩

theorem tracing_changes_nothing_glancing :
    Alike (((glancing false).run [glancedAt]).1.perform (.update () .zero)).engine
        (((glancing true).run [glancedAt]).1.perform (.update () .zero)).engine ∧
      (((glancing false).run [glancedAt]).1.perform (.update () .zero)).engine.trace.length = 0 ∧
      (((glancing true).run [glancedAt]).1.perform (.update () .zero)).engine.trace.length = 2 ∧
      (calls (((glancing true).run [glancedAt]).1.perform (.update () .zero)).journal).length =
        3 := by
  have reads : (glancing false).conditions.ReadOnly := by
    refine Dictionary.ReadOnly.insert ?_ "look" fun _ _ => rfl
    intro name test known
    cases known
  obtain ⟨_, _, alike⟩ := tracing_changes_nothing
    (⟨rfl, rfl, rfl, rfl, rfl⟩ : Alike (glancing false) (glancing true)) reads [glancedAt]
    (.update () .zero) (fun operation member => by
      obtain rfl := List.mem_singleton.mp member
      trivial)
    (glancing_untroubled false) (glancing_untroubled true)
  exact ⟨alike, by decide, by decide, by decide⟩

end Engine

end MapScript
