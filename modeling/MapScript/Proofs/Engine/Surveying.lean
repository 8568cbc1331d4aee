import MapScript.Proofs.Engine.Starting

set_option autoImplicit false

namespace MapScript

open Number Journal

variable {W A : Type}

inductive Found (settings : Settings) (tests : Dictionary (ConditionTest W)) (world : W)
    (dt : Seconds) (event : Event) (condition : Condition) (memory : Memory) :
    Memory → Except EngineError Bool → Prop
  | answered {test : ConditionTest W} {raw : Bool} (known : tests.find? condition.kind = some test)
      (answer : (test ⟨world, memory, event, dt⟩ condition).result = .ok raw) :
      Found settings tests world dt event condition memory
        (test ⟨world, memory, event, dt⟩ condition).memory (.ok (condition.operator.apply raw))
  | failed {test : ConditionTest W} {cause : Failure}
      (known : tests.find? condition.kind = some test)
      (answer : (test ⟨world, memory, event, dt⟩ condition).result = .error cause)
      (strict : settings.failurePolicy = .abort) :
      Found settings tests world dt event condition memory
        (test ⟨world, memory, event, dt⟩ condition).memory
        (.error (.handler condition.kind .test (some event.id) cause))
  | forgiven {test : ConditionTest W} {cause : Failure}
      (known : tests.find? condition.kind = some test)
      (answer : (test ⟨world, memory, event, dt⟩ condition).result = .error cause)
      (lenient : settings.failurePolicy = .dropEvent) :
      Found settings tests world dt event condition memory
        (test ⟨world, memory, event, dt⟩ condition).memory (.ok false)
  | missing (unknown : tests.find? condition.kind = none)
      (strict : settings.failurePolicy = .abort) :
      Found settings tests world dt event condition memory memory
        (.error (.unregisteredCondition condition.kind))
  | overlooked (unknown : tests.find? condition.kind = none)
      (lenient : settings.failurePolicy = .dropEvent) :
      Found settings tests world dt event condition memory memory (.ok false)

/-- The conditions of one declaration, one after the other: all of them if `thorough`, otherwise up
to the first that does not hold. -/
inductive Tried (found : Condition → Memory → Memory → Except EngineError Bool → Prop)
    (thorough : Bool) : List Condition → Memory → Memory → Except EngineError Bool → Prop
  | satisfied (memory : Memory) : Tried found thorough [] memory memory (.ok true)
  | broken {condition : Condition} {rest : List Condition} {memory memory' : Memory}
      {cause : EngineError} (here : found condition memory memory' (.error cause)) :
      Tried found thorough (condition :: rest) memory memory' (.error cause)
  | met {condition : Condition} {rest : List Condition} {memory middle memory' : Memory}
      {result : Except EngineError Bool} (here : found condition memory middle (.ok true))
      (later : Tried found thorough rest middle memory' result) :
      Tried found thorough (condition :: rest) memory memory' result
  | unmet {condition : Condition} {rest : List Condition} {memory memory' : Memory}
      (here : found condition memory memory' (.ok false)) (short : thorough = false) :
      Tried found thorough (condition :: rest) memory memory' (.ok false)
  | noted {condition : Condition} {rest : List Condition} {memory middle memory' : Memory}
      {result : Except EngineError Bool} (here : found condition memory middle (.ok false))
      (long : thorough = true) (later : Tried found thorough rest middle memory' result) :
      Tried found thorough (condition :: rest) memory memory' (result.map fun _ => false)

/-- The declarations of a frame, one after the other, and those of them whose conditions all hold,
up to an error. -/
inductive Surveyed (tried : Event → Memory → Memory → Except EngineError Bool → Prop) :
    List Event → Memory → List Event → Memory → Except EngineError Unit → Prop
  | done (memory : Memory) : Surveyed tried [] memory [] memory (.ok ())
  | satisfied {event : Event} {rest satisfied : List Event} {memory middle memory' : Memory}
      {result : Except EngineError Unit} (here : tried event memory middle (.ok true))
      (later : Surveyed tried rest middle satisfied memory' result) :
      Surveyed tried (event :: rest) memory (event :: satisfied) memory' result
  | unsatisfied {event : Event} {rest satisfied : List Event} {memory middle memory' : Memory}
      {result : Except EngineError Unit} (here : tried event memory middle (.ok false))
      (later : Surveyed tried rest middle satisfied memory' result) :
      Surveyed tried (event :: rest) memory satisfied memory' result
  | broken {event : Event} {rest : List Event} {memory memory' : Memory} {cause : EngineError}
      (here : tried event memory memory' (.error cause)) :
      Surveyed tried (event :: rest) memory [] memory' (.error cause)

def Single {B : Type} (answers : Memory → Except EngineError B → Prop) : Prop :=
  ∀ memory result memory' result', answers memory result → answers memory' result' →
    memory' = memory ∧ result' = result

section Conditions

variable (settings : Settings) (tests : Dictionary (ConditionTest W)) (world : W) (dt : Seconds)
  (event : Event)

theorem judgeCondition_found (condition : Condition) (memory : Memory) :
    Found settings tests world dt event condition memory
      (judgeCondition settings tests world dt event condition memory).memory
      (judgeCondition settings tests world dt event condition memory).result := by
  unfold judgeCondition testCondition
  cases known : tests.find? condition.kind with
  | none =>
    cases policy : settings.failurePolicy with
    | abort => exact .missing known policy
    | dropEvent => exact .overlooked known policy
  | some test =>
    cases answer : (test ⟨world, memory, event, dt⟩ condition).result with
    | ok raw => simpa [answer] using Found.answered known answer
    | error cause =>
      cases policy : settings.failurePolicy with
      | abort => simpa [answer] using Found.failed known answer policy
      | dropEvent => simpa [answer] using Found.forgiven known answer policy

theorem found_lenient (lenient : settings.failurePolicy = .dropEvent) (condition : Condition)
    (memory memory' : Memory) (cause : EngineError) :
    ¬ Found settings tests world dt event condition memory memory' (.error cause) := by
  intro found
  cases found with
  | failed _ _ strict | missing _ strict => simp [lenient] at strict

theorem found_single (condition : Condition) (memory : Memory) :
    Single (Found settings tests world dt event condition memory) := by
  intro _ _ _ _ first second
  cases first <;> cases second <;> simp_all

end Conditions

section Tried

variable {found : Condition → Memory → Memory → Except EngineError Bool → Prop}

theorem tried_single (single : ∀ condition memory, Single (found condition memory))
    (thorough : Bool) (conditions : List Condition) (memory : Memory) :
    Single (Tried found thorough conditions memory) := by
  intro memory₁ result₁ memory₂ result₂ first
  induction first generalizing memory₂ result₂ with
  | satisfied =>
    intro second
    cases second
    exact ⟨rfl, rfl⟩
  | broken here =>
    intro second
    cases second with
    | broken again => simpa using single _ _ _ _ _ _ here again
    | met again | unmet again | noted again => simpa using (single _ _ _ _ _ _ here again).2
  | met here _ ih =>
    intro second
    cases second with
    | met again later =>
      obtain ⟨rfl, _⟩ := single _ _ _ _ _ _ here again
      exact ih _ _ later
    | broken again | unmet again | noted again => simpa using (single _ _ _ _ _ _ here again).2
  | unmet here short =>
    intro second
    cases second with
    | unmet again => simpa using single _ _ _ _ _ _ here again
    | noted _ long => simp [short] at long
    | broken again | met again => simpa using (single _ _ _ _ _ _ here again).2
  | noted here long _ ih =>
    intro second
    cases second with
    | noted again _ later =>
      obtain ⟨rfl, _⟩ := single _ _ _ _ _ _ here again
      obtain ⟨rfl, rfl⟩ := ih _ _ later
      exact ⟨rfl, rfl⟩
    | unmet _ short => simp [short] at long
    | broken again | met again => simpa using (single _ _ _ _ _ _ here again).2

theorem tried_lenient
    (lenient : ∀ condition memory memory' cause, ¬ found condition memory memory' (.error cause))
    {thorough : Bool} {conditions : List Condition} {memory memory' : Memory}
    {result : Except EngineError Bool}
    (tried : Tried found thorough conditions memory memory' result) :
    ∀ cause, result ≠ .error cause := by
  induction tried with
  | satisfied | unmet => simp
  | broken here => exact absurd here (lenient _ _ _ _)
  | met _ _ ih => exact ih
  | @noted _ _ _ _ _ result _ _ _ ih =>
    cases result with
    | error cause => exact absurd rfl (ih cause)
    | ok => simp [Except.map]

variable {judge : Condition → Memory → Tested Bool}
  (judged : ∀ condition memory,
    found condition memory (judge condition memory).memory (judge condition memory).result)

include judged

theorem allHold_tried (conditions : List Condition) (memory : Memory) :
    Tried found false conditions memory (allHold judge conditions memory).memory
      (allHold judge conditions memory).result := by
  induction conditions generalizing memory with
  | nil => exact .satisfied memory
  | cons condition rest ih =>
    have here := judged condition memory
    simp only [allHold]
    generalize judge condition memory = tested at here ⊢
    obtain ⟨middle, journal, result⟩ := tested
    rcases result with cause | (_ | _)
    · exact .broken here
    · exact .unmet here rfl
    · exact .met here (ih middle)

theorem resultsFrom_tried (index : Nat) (conditions : List Condition) (memory : Memory) :
    Tried found true conditions memory (resultsFrom judge index conditions memory).memory
      ((resultsFrom judge index conditions memory).result.map fun results =>
        results.all ConditionResult.passed) := by
  induction conditions generalizing index memory with
  | nil => exact .satisfied memory
  | cons condition rest ih =>
    have here := judged condition memory
    simp only [resultsFrom]
    generalize judge condition memory = tested at here ⊢
    obtain ⟨middle, journal, result⟩ := tested
    rcases result with cause | (_ | _)
    · exact .broken here
    · have later := Tried.noted here rfl (ih (index + 1) middle)
      cases answer : (resultsFrom judge (index + 1) rest middle).result <;>
        simpa [answer, Except.map] using later
    · have later := Tried.met here (ih (index + 1) middle)
      cases answer : (resultsFrom judge (index + 1) rest middle).result <;>
        simpa [answer, Except.map] using later

end Tried

theorem surveyed_single {tried : Event → Memory → Memory → Except EngineError Bool → Prop}
    (single : ∀ event memory, Single (tried event memory))
    {events satisfied satisfied' : List Event}
    {memory memory₁ memory₂ : Memory} {result₁ result₂ : Except EngineError Unit}
    (first : Surveyed tried events memory satisfied memory₁ result₁)
    (second : Surveyed tried events memory satisfied' memory₂ result₂) :
    satisfied' = satisfied ∧ memory₂ = memory₁ ∧ result₂ = result₁ := by
  induction first generalizing satisfied' memory₂ result₂ with
  | done =>
    cases second
    exact ⟨rfl, rfl, rfl⟩
  | satisfied here _ ih =>
    cases second with
    | satisfied again later =>
      obtain ⟨rfl, _⟩ := single _ _ _ _ _ _ here again
      obtain ⟨rfl, rest⟩ := ih later
      exact ⟨rfl, rest⟩
    | unsatisfied again | broken again => simpa using (single _ _ _ _ _ _ here again).2
  | unsatisfied here _ ih =>
    cases second with
    | unsatisfied again later =>
      obtain ⟨rfl, _⟩ := single _ _ _ _ _ _ here again
      exact ih later
    | satisfied again | broken again => simpa using (single _ _ _ _ _ _ here again).2
  | broken here =>
    cases second with
    | broken again => simpa using single _ _ _ _ _ _ here again
    | satisfied again | unsatisfied again => simpa using (single _ _ _ _ _ _ here again).2

theorem surveyed_lenient {tried : Event → Memory → Memory → Except EngineError Bool → Prop}
    (lenient : ∀ event memory memory' cause, ¬ tried event memory memory' (.error cause))
    {events satisfied : List Event} {memory memory' : Memory} {result : Except EngineError Unit}
    (surveyed : Surveyed tried events memory satisfied memory' result) : result = .ok () := by
  induction surveyed with
  | done => rfl
  | satisfied _ _ ih | unsatisfied _ _ ih => exact ih
  | broken here => exact absurd here (lenient _ _ _ _)

def firstOfEach : List Event → List Event
  | [] => []
  | event :: rest => event :: (firstOfEach rest).filter fun later => later.id ≠ event.id

theorem firstOfEach_filter (keep : EventId → Bool) (events : List Event) :
    firstOfEach (events.filter fun event => keep event.id) =
      (firstOfEach events).filter fun event => keep event.id := by
  induction events with
  | nil => rfl
  | cons event rest ih =>
    simp only [List.filter_cons, firstOfEach]
    split
    next => simp only [firstOfEach, ih, List.filter_filter, Bool.and_comm]
    next drop =>
      rw [ih, List.filter_filter]
      refine List.filter_congr fun later _ => ?_
      -- What is dropped for its id is not kept anyway.
      by_cases same : later.id = event.id
      · simp [same, drop]
      · simp [same]

theorem firstOfEach_nodup (events : List Event) : ((firstOfEach events).map Event.id).Nodup := by
  induction events with
  | nil => exact List.nodup_nil
  | cons event rest ih =>
    rw [firstOfEach, List.map_cons, List.nodup_cons]
    constructor
    · simp
    · exact ih.sublist (List.filter_sublist.map _)

theorem mem_firstOfEach {id : EventId} {events : List Event} :
    id ∈ (firstOfEach events).map Event.id ↔ id ∈ events.map Event.id := by
  induction events with
  | nil => exact Iff.rfl
  | cons event rest ih =>
    rw [firstOfEach, List.map_cons, List.map_cons, List.mem_cons, List.mem_cons, ← ih]
    by_cases same : id = event.id
    · simp [same]
    · simp only [same, false_or, List.mem_map, List.mem_filter, decide_eq_true_eq]
      constructor
      · rintro ⟨later, ⟨member, _⟩, rfl⟩
        exact ⟨later, member, rfl⟩
      · rintro ⟨later, member, rfl⟩
        exact ⟨later, ⟨member, same⟩, rfl⟩

theorem firstOfEach_sublist (events : List Event) : (firstOfEach events).Sublist events := by
  induction events with
  | nil => exact .slnil
  | cons event rest ih => exact (List.filter_sublist.trans ih).cons_cons event

namespace Engine

def Surveys (engine : Engine W A) (world : W) (dt : Seconds) :
    List Event → Memory → List Event → Memory → Except EngineError Unit → Prop :=
  Surveyed fun event => Tried (Found engine.settings engine.conditions world dt event)
    engine.settings.debugConditions event.conditions

/-- What is started of the satisfied declarations: the first one of each id that is not running. -/
def newcomers (engine : Engine W A) (satisfied : List Event) : List Event :=
  firstOfEach (satisfied.filter fun event => !engine.isRunning event.id)

variable (engine : Engine W A) (world : W) (dt : Seconds)

theorem surveys_congr {engine next : Engine W A} (same : SameBut engine next) :
    next.Surveys world dt = engine.Surveys world dt := by
  unfold Surveys
  rw [same.settings, same.conditions]

theorem surveys_single {events satisfied satisfied' : List Event} {memory memory₁ memory₂ : Memory}
    {result₁ result₂ : Except EngineError Unit}
    (first : engine.Surveys world dt events memory satisfied memory₁ result₁)
    (second : engine.Surveys world dt events memory satisfied' memory₂ result₂) :
    satisfied' = satisfied ∧ memory₂ = memory₁ ∧ result₂ = result₁ :=
  surveyed_single (fun event => tried_single (found_single _ _ _ _ event) _ _) first second

theorem surveys_lenient (lenient : engine.settings.failurePolicy = .dropEvent)
    {events satisfied : List Event} {memory memory' : Memory} {result : Except EngineError Unit}
    (surveys : engine.Surveys world dt events memory satisfied memory' result) :
    result = .ok () :=
  surveyed_lenient
    (fun event _ _ cause tried =>
      tried_lenient (found_lenient _ _ world dt event lenient) tried cause rfl) surveys

theorem conditionsMet_tried (event : Event) :
    Tried (Found engine.settings engine.conditions world dt event) engine.settings.debugConditions
      event.conditions engine.state.memory
      (engine.conditionsMet world dt event).engine.state.memory
      (engine.conditionsMet world dt event).result := by
  have judged := judgeCondition_found engine.settings engine.conditions world dt event
  unfold conditionsMet
  cases debugging : engine.settings.debugConditions with
  | false => exact allHold_tried judged event.conditions engine.state.memory
  | true =>
    have tried := resultsFrom_tried judged 0 event.conditions engine.state.memory
    simp only [if_true, judge]
    generalize resultsFrom _ 0 event.conditions engine.state.memory = tested at tried ⊢
    obtain ⟨memory, journal, cause | results⟩ := tested
    · exact tried
    · exact tried

theorem startEvent_memory (event : Event) :
    (engine.startEvent event).2.1.state.memory = engine.state.memory := by
  unfold startEvent retireInit
  split
  next => rfl
  next =>
    dsimp only
    split
    next => rfl
    next => split <;> rfl

theorem isRunning_started (state : ScopeState) (event : Event) (id : EventId) :
    isRunning { engine with state, running := engine.running ++ [.start event] } id =
      (engine.isRunning id || event.id = id) := by
  simp only [isRunning, List.any_append, List.any_cons, List.any_nil, Bool.or_false]
  rfl

theorem newcomers_congr {engine next : Engine W A} (same : next.running = engine.running)
    (satisfied : List Event) : next.newcomers satisfied = engine.newcomers satisfied := by
  unfold newcomers isRunning
  rw [same]

theorem startEvent_newcomers (event : Event) (rest : List Event) :
    (engine.startEvent event).2.1.running ++
        ((engine.startEvent event).2.1.newcomers rest).map RunningEvent.start =
      engine.running ++ (engine.newcomers (event :: rest)).map RunningEvent.start := by
  unfold startEvent
  split
  next running => simp [newcomers, running]
  next idle =>
    have apart : firstOfEach (rest.filter fun later =>
        !(engine.isRunning later.id || event.id = later.id)) =
        (firstOfEach (rest.filter fun later => !engine.isRunning later.id)).filter
          fun later => later.id ≠ event.id := by
      rw [← firstOfEach_filter fun id => decide (id ≠ event.id), List.filter_filter]
      congr 1
      refine List.filter_congr fun later _ => ?_
      simp [Bool.and_comm, eq_comm]
    simp only [newcomers, List.filter_cons, idle, Bool.not_false, if_true, firstOfEach,
      List.map_cons]
    rw [← apart]
    simp [isRunning_started]

theorem startSatisfied_surveys (events : List Event) :
    ∃ satisfied,
      engine.Surveys world dt events engine.state.memory satisfied
        (startSatisfied world dt events engine).engine.state.memory
        (startSatisfied world dt events engine).result ∧
      (startSatisfied world dt events engine).engine.running =
        engine.running ++ (engine.newcomers satisfied).map RunningEvent.start := by
  induction events generalizing engine with
  | nil => exact ⟨[], .done _, by simp [startSatisfied, newcomers, firstOfEach]⟩
  | cons event rest ih =>
    have tried := conditionsMet_tried engine world dt event
    have same := conditionsMet_same world dt engine event
    have still := conditionsMet_running world dt engine event
    simp only [startSatisfied]
    generalize engine.conditionsMet world dt event = met at tried same still ⊢
    obtain ⟨next, journal, result⟩ := met
    rcases result with cause | (_ | _)
    · exact ⟨[], .broken tried, by simpa [newcomers, firstOfEach] using still⟩
    · obtain ⟨satisfied, surveys, grown⟩ := ih next
      rw [surveys_congr world dt same] at surveys
      refine ⟨satisfied, .unsatisfied tried surveys, ?_⟩
      rw [newcomers_congr still, still] at grown
      exact grown
    · obtain ⟨satisfied, surveys, grown⟩ := ih (next.startEvent event).2.1
      rw [surveys_congr world dt (same.trans (startEvent_same next event)),
        startEvent_memory] at surveys
      refine ⟨event :: satisfied, .satisfied tried surveys, ?_⟩
      rw [startEvent_newcomers, newcomers_congr still, still] at grown
      exact grown

theorem newcomers_nodup (satisfied : List Event) :
    ((engine.newcomers satisfied).map Event.id).Nodup :=
  firstOfEach_nodup _

theorem mem_newcomers {satisfied : List Event} {id : EventId} :
    id ∈ (engine.newcomers satisfied).map Event.id ↔
      id ∈ satisfied.map Event.id ∧ id ∉ ids engine.running := by
  rw [newcomers, mem_firstOfEach, ← isRunning_iff]
  simp only [List.mem_map, List.mem_filter]
  constructor
  · rintro ⟨event, ⟨member, idle⟩, rfl⟩
    exact ⟨⟨event, member, rfl⟩, by simpa using idle⟩
  · rintro ⟨⟨event, member, rfl⟩, idle⟩
    exact ⟨event, ⟨member, by simpa using idle⟩, rfl⟩

theorem beforeHooks_surveys :
    ∃ satisfied,
      engine.Surveys world dt engine.declarations engine.state.memory satisfied
        (engine.beforeHooks (.update world dt)).state.memory
        ({ engine with trace := [] }.intake world dt).result ∧
      (engine.beforeHooks (.update world dt)).running =
        engine.running ++ (engine.newcomers satisfied).map RunningEvent.start :=
  startSatisfied_surveys { engine with trace := [] } world dt engine.declarations

/-- The declarations are tested and the satisfied ones among them that are not running, one for each
id, are started, all before the pass over the running events begins. -/
structure Begins [ActionHandler W A] (engine : Engine W A) (world : W) (dt : Seconds)
    (satisfied : List Event) (memory : Memory) : Prop where
  running_eq : (engine.beforeHooks (.update world dt)).running =
    engine.running ++ (engine.newcomers satisfied).map RunningEvent.start
  memory_eq : (engine.beforeHooks (.update world dt)).state.memory = memory
  starts_eq : starts (engine.update world dt).journal = (engine.newcomers satisfied).map Event.id
  sweeps : ∃ tested : Journal, tested.Only Notice.admits ∧
    engine.update world dt =
      { (engine.beforeHooks (.update world dt)).sweep world dt with
        journal := tested ++ ((engine.beforeHooks (.update world dt)).sweep world dt).journal }

variable [ActionHandler W A]

theorem begins_of_surveys {satisfied : List Event} {memory : Memory}
    (surveys : engine.Surveys world dt engine.declarations engine.state.memory satisfied memory
      (.ok ())) : engine.Begins world dt satisfied memory := by
  obtain ⟨found, surveyed, grown⟩ := beforeHooks_surveys engine world dt
  obtain ⟨rfl, same, fine⟩ := surveys_single engine world dt surveys surveyed
  have ids_eq : ids (engine.beforeHooks (.update world dt)).running =
      ids engine.running ++ starts (engine.update world dt).journal :=
    perform_starts engine (.update world dt)
  rw [grown, ids, List.map_append, List.map_map] at ids_eq
  refine ⟨grown, same, (List.append_cancel_left ids_eq).symm,
    ({ engine with trace := [] }.intake world dt).journal, intake_admits _ world dt, ?_⟩
  simp only [update, fine]
  rfl

theorem satisfied_declarations_start {scope : Scope} (current : engine.state.scope = some scope)
    (fine : engine.settings.failurePolicy = .dropEvent ∨ ∀ satisfied memory cause,
      ¬ engine.Surveys world dt (scope.inits ++ scope.events) engine.state.memory satisfied memory
        (.error cause)) :
    ∃ satisfied memory,
      engine.Surveys world dt (scope.inits ++ scope.events) engine.state.memory satisfied memory
        (.ok ()) ∧
      (∀ satisfied' memory' result,
        engine.Surveys world dt (scope.inits ++ scope.events) engine.state.memory satisfied' memory'
          result → satisfied' = satisfied ∧ memory' = memory ∧ result = .ok ()) ∧
      ((engine.newcomers satisfied).map Event.id).Nodup ∧
      (∀ id, id ∈ (engine.newcomers satisfied).map Event.id ↔
        id ∈ satisfied.map Event.id ∧ id ∉ ids engine.running) ∧
      engine.Begins world dt satisfied memory := by
  have declared : engine.declarations = scope.inits ++ scope.events := by
    simp [declarations, current]
  obtain ⟨satisfied, surveys, _⟩ := beforeHooks_surveys engine world dt
  rw [declared] at surveys
  have passed : ({ engine with trace := [] }.intake world dt).result = .ok () := by
    rcases fine with lenient | strict
    · exact surveys_lenient engine world dt lenient surveys
    · cases ended : ({ engine with trace := [] }.intake world dt).result with
      | error cause => exact absurd (ended ▸ surveys) (strict _ _ cause)
      | ok => rfl
  rw [passed] at surveys
  refine ⟨satisfied, _, surveys, fun _ _ _ => surveys_single engine world dt surveys,
    newcomers_nodup engine satisfied, fun id => mem_newcomers engine, ?_⟩
  exact begins_of_surveys engine world dt (declared ▸ surveys)

def choosyScope : Scope :=
  ⟨"", [Scripted.guarded 1 [("known", .is)], Scripted.guarded 2 [("broken", .is)]],
    [Scripted.guarded 3 [("yes", .is)], Scripted.guarded 2 [("none", .not)],
      Scripted.guarded 1 [("known", .is)], Scripted.guarded 4 [("yes", .not)],
      Scripted.guarded 1 [], Scripted.guarded 5 [("yes", .is), ("known", .is)]]⟩

def choosy : Engine Unit Scripted :=
  ((new Dictionary.empty Scripted.tests ⟨true, .dropEvent⟩).run
    [.loadScope choosyScope, .startEvent (Scripted.guarded 3 [])]).1

-- The second declaration of the first event is satisfied because a condition before it has been
-- tested, though on behalf of an event that is running.
theorem satisfied_declarations_start_choosy :
    choosy.state.scope = some choosyScope ∧ choosy.settings.failurePolicy = .dropEvent ∧
      (∃ satisfied memory,
        choosy.Surveys () .zero (choosyScope.inits ++ choosyScope.events) choosy.state.memory
          satisfied memory (.ok ()) ∧
        choosy.Begins () .zero satisfied memory) ∧
      (choosy.beforeHooks (.update () .zero)).running.map RunningEvent.declaration =
        [Scripted.guarded 3 [], Scripted.guarded 1 [("known", .is)],
          Scripted.guarded 5 [("yes", .is), ("known", .is)]] := by
  have current : choosy.state.scope = some choosyScope := rfl
  have lenient : choosy.settings.failurePolicy = .dropEvent := rfl
  obtain ⟨satisfied, memory, surveys, _, _, _, begins⟩ :=
    satisfied_declarations_start choosy () .zero current (.inl lenient)
  exact ⟨current, lenient, ⟨satisfied, memory, surveys, begins⟩, by decide +kernel⟩

end Engine

end MapScript
