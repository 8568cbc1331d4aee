import MapScript.Proofs.Engine.Scripted
import MapScript.Proofs.Engine.Surveying

set_option autoImplicit false

namespace MapScript

open Number Journal

variable {W A : Type}

/-- All conditions from a position on, one after the other with one memory, and a result for each
of them. -/
inductive Recorded (found : Condition → Memory → Memory → Except EngineError Bool → Prop) :
    Nat → List Condition → Memory → List ConditionResult → Memory → Prop
  | done (index : Nat) (memory : Memory) : Recorded found index [] memory [] memory
  | next {index : Nat} {condition : Condition} {rest : List Condition} {passed : Bool}
      {results : List ConditionResult} {memory middle memory' : Memory}
      (here : found condition memory middle (.ok passed))
      (later : Recorded found (index + 1) rest middle results memory') :
      Recorded found index (condition :: rest) memory (⟨index, passed⟩ :: results) memory'

section Records

variable {found : Condition → Memory → Memory → Except EngineError Bool → Prop} {index : Nat}
  {conditions : List Condition} {results : List ConditionResult} {memory memory' : Memory}

theorem resultsFrom_recorded {judge : Condition → Memory → Tested Bool}
    (judged : ∀ condition memory,
      found condition memory (judge condition memory).memory (judge condition memory).result)
    (fine : (resultsFrom judge index conditions memory).result = .ok results) :
    Recorded found index conditions memory results
      (resultsFrom judge index conditions memory).memory := by
  induction conditions generalizing index memory results with
  | nil =>
    obtain rfl : [] = results := by simpa [resultsFrom] using fine
    exact .done index memory
  | cons condition rest ih =>
    have here := judged condition memory
    simp only [resultsFrom] at fine ⊢
    generalize judge condition memory = tested at here fine ⊢
    obtain ⟨middle, journal, cause | passed⟩ := tested
    · cases fine
    · dsimp only at fine ⊢
      cases later : (resultsFrom judge (index + 1) rest middle).result with
      | error cause => simp [later, Except.map] at fine
      | ok others =>
        obtain rfl : ⟨index, passed⟩ :: others = results := by
          simpa [later, Except.map] using fine
        exact .next here (ih later)

theorem Recorded.indices_eq (recorded : Recorded found index conditions memory results memory') :
    results.map ConditionResult.index = List.range' index conditions.length := by
  induction recorded with
  | done => rfl
  | next _ _ ih => simp [List.range'_succ, ih]

end Records

namespace Evaluation

def unmet (e : Evaluation) : List Condition :=
  ((e.event.conditions.zip e.results).filter fun entry => !entry.2.passed).map Prod.fst

def Complete (e : Evaluation) : Prop :=
  e.results.map ConditionResult.index = List.range e.event.conditions.length

variable {e : Evaluation}

theorem Complete.length_eq (complete : e.Complete) :
    e.results.length = e.event.conditions.length := by
  simpa using congrArg List.length complete

theorem Complete.index_eq (complete : e.Complete) {position : Nat} {result : ConditionResult}
    (here : e.results[position]? = some result) : result.index = position := by
  have within : position < e.event.conditions.length := by
    rw [← complete.length_eq]
    exact (List.getElem?_eq_some_iff.mp here).1
  have indexed := congrArg (·[position]?) complete
  simpa [here, within] using indexed

theorem Complete.conditions_eq (complete : e.Complete) :
    e.results.map e.condition? = e.event.conditions.map some := by
  refine List.ext_getElem? fun position => ?_
  cases here : e.results[position]? with
  | none =>
    have past : e.event.conditions.length ≤ position := by
      rw [← complete.length_eq]
      exact List.getElem?_eq_none_iff.mp here
    simp [here, past]
  | some result =>
    have within := (List.getElem?_eq_some_iff.mp here).1
    rw [complete.length_eq] at within
    simp [here, condition?, complete.index_eq here, within]

theorem filterMap_eq_zip {B C : Type} {f : C → Option B} {keep : C → Bool} {items : List B}
    {results : List C} (names : results.map f = items.map some) :
    (results.filter keep).filterMap f =
      ((items.zip results).filter fun entry => keep entry.2).map Prod.fst := by
  induction results generalizing items with
  | nil =>
    obtain rfl : items = [] := by simpa using names.symm
    rfl
  | cons result rest ih =>
    cases items with
    | nil => cases names
    | cons item items =>
      obtain ⟨here, later⟩ := List.cons.inj names
      cases kept : keep result with
      | true => simp [kept, here, ih later]
      | false => simp [kept, ih later]

theorem Complete.blocking_eq (complete : e.Complete) : e.blocking = e.unmet :=
  filterMap_eq_zip complete.conditions_eq

theorem Complete.unmet_eq_nil_iff (complete : e.Complete) : e.unmet = [] ↔ e.passed = true := by
  have same : (e.event.conditions.zip e.results).map Prod.snd = e.results :=
    List.map_snd_zip (Nat.le_of_eq complete.length_eq)
  rw [passed, ← same, List.all_map, unmet, List.map_eq_nil_iff, List.filter_eq_nil_iff,
    List.all_eq_true]
  simp

end Evaluation

namespace ConditionTrace

variable {trace : ConditionTrace}

theorem ofEvent?_of_mem (distinct : (trace.map fun e => e.event.id).Nodup) {e : Evaluation}
    (member : e ∈ trace) : trace.ofEvent? e.event.id = some e := by
  induction trace with
  | nil => cases member
  | cons first rest ih =>
    rw [List.map_cons, List.nodup_cons] at distinct
    rcases List.mem_cons.mp member with rfl | later
    · simp [ofEvent?]
    · have other : first.event.id ≠ e.event.id := fun same =>
        distinct.1 (same ▸ List.mem_map_of_mem later)
      simpa [ofEvent?, other] using ih distinct.2 later

theorem blocking_of_mem (distinct : (trace.map fun e => e.event.id).Nodup) {e : Evaluation}
    (member : e ∈ trace) : trace.blocking e.event.id = e.blocking := by
  simp only [blocking, ofEvent?_of_mem distinct member]

theorem blocking_of_absent {id : EventId} (absent : id ∉ trace.map fun e => e.event.id) :
    trace.blocking id = [] := by
  have none : trace.ofEvent? id = none := by
    refine List.find?_eq_none.mpr fun e member same => absent ?_
    exact List.mem_map.mpr ⟨e, member, by simpa using same⟩
  simp only [blocking, none]

end ConditionTrace

namespace Engine

def atTurn (engine : Engine W A) (world : W) (dt : Seconds) (before : List Event) : Engine W A :=
  (startSatisfied world dt before { engine with trace := [] }).engine

/-- What an evaluation says of the turn of its declaration: each result is that of the condition at
its position, and the declaration starts if all of them hold and its id is not running. -/
structure Turned (engine : Engine W A) (world : W) (dt : Seconds) (before : List Event)
    (evaluation : Evaluation) : Prop where
  complete : evaluation.Complete
  conditions_eq : evaluation.results.map evaluation.condition? =
    evaluation.event.conditions.map some
  recorded : Recorded (Found engine.settings engine.conditions world dt evaluation.event) 0
    evaluation.event.conditions (engine.atTurn world dt before).state.memory evaluation.results
    (engine.atTurn world dt (before ++ [evaluation.event])).state.memory
  running_eq : (engine.atTurn world dt (before ++ [evaluation.event])).running =
    (engine.atTurn world dt before).running ++
      if evaluation.passed ∧ evaluation.event.id ∉ ids (engine.atTurn world dt before).running then
        [.start evaluation.event] else []

structure Explained (engine : Engine W A) (world : W) (dt : Seconds) (journal : Journal)
    (trace : ConditionTrace) : Prop where
  events_eq : trace.map Evaluation.event = engine.declarations
  turned : ∀ before evaluation after, trace = before ++ evaluation :: after →
    engine.Turned world dt (before.map Evaluation.event) evaluation
  begins_eq : engine.beforeHooks (.update world dt) = engine.atTurn world dt engine.declarations
  starts_eq : ids (engine.beforeHooks (.update world dt)).running =
    ids engine.running ++ starts journal
  blocking_iff : (engine.declarations.map Event.id).Nodup → ∀ id,
    trace.blocking id = [] ↔ id ∉ engine.declarations.map Event.id ∨
      ∃ evaluation ∈ trace, evaluation.event.id = id ∧ evaluation.passed
  blocking_eq : (engine.declarations.map Event.id).Nodup → ∀ evaluation ∈ trace,
    trace.blocking evaluation.event.id = evaluation.unmet

section Turns

variable {world : W} {dt : Seconds} {engine : Engine W A}

theorem conditionsMet_recorded (debugging : engine.settings.debugConditions = true) {event : Event}
    {holds : Bool} (fine : (engine.conditionsMet world dt event).result = .ok holds) :
    ∃ evaluation : Evaluation, evaluation.event = event ∧ evaluation.passed = holds ∧
      (engine.conditionsMet world dt event).engine.trace = engine.trace ++ [evaluation] ∧
      Recorded (Found engine.settings engine.conditions world dt event) 0 event.conditions
        engine.state.memory evaluation.results
        (engine.conditionsMet world dt event).engine.state.memory := by
  have judged := judgeCondition_found engine.settings engine.conditions world dt event
  unfold conditionsMet at fine ⊢
  simp only [debugging, if_true] at fine ⊢
  split at fine
  next => cases fine
  next results tested =>
    simp only
    exact ⟨⟨event, results⟩, rfl, Except.ok.inj fine, rfl, resultsFrom_recorded judged tested⟩

theorem startEvent_running (event : Event) :
    (engine.startEvent event).2.1.running =
      engine.running ++ if event.id ∉ ids engine.running then [.start event] else [] := by
  unfold startEvent
  by_cases running : event.id ∈ ids engine.running
  · simp [isRunning_iff.mpr running, running]
  · have idle : engine.isRunning event.id = false := by
      simpa using mt isRunning_iff.mp running
    simp [idle, running]

theorem startEvent_trace (event : Event) :
    (engine.startEvent event).2.1.trace = engine.trace := by
  unfold startEvent
  split <;> rfl

theorem startSatisfied_front (before : List Event) {after : List Event}
    (fine : (startSatisfied world dt (before ++ after) engine).result = .ok ()) :
    (startSatisfied world dt before engine).result = .ok () := by
  induction before generalizing engine with
  | nil => rfl
  | cons event rest ih =>
    simp only [List.cons_append, startSatisfied] at fine ⊢
    split at fine
    next => cases fine
    next holds met =>
      exact ih fine

theorem startSatisfied_append {before : List Event} (after : List Event)
    (front : (startSatisfied world dt before engine).result = .ok ()) :
    (startSatisfied world dt (before ++ after) engine).result =
        (startSatisfied world dt after (startSatisfied world dt before engine).engine).result ∧
      (startSatisfied world dt (before ++ after) engine).engine =
        (startSatisfied world dt after (startSatisfied world dt before engine).engine).engine := by
  induction before generalizing engine with
  | nil => exact ⟨rfl, rfl⟩
  | cons event rest ih =>
    simp only [List.cons_append, startSatisfied] at front ⊢
    split at front
    next => cases front
    next holds met => exact ih front

theorem startSatisfied_turn {event : Event} (debugging : engine.settings.debugConditions = true)
    (fine : (startSatisfied world dt [event] engine).result = .ok ()) :
    ∃ evaluation : Evaluation, evaluation.event = event ∧
      (startSatisfied world dt [event] engine).engine.trace = engine.trace ++ [evaluation] ∧
      Recorded (Found engine.settings engine.conditions world dt event) 0 event.conditions
        engine.state.memory evaluation.results
        (startSatisfied world dt [event] engine).engine.state.memory ∧
      (startSatisfied world dt [event] engine).engine.running = engine.running ++
        if evaluation.passed ∧ event.id ∉ ids engine.running then [.start event] else [] := by
  have still := conditionsMet_running world dt engine event
  simp only [startSatisfied] at fine ⊢
  split at fine
  next => cases fine
  next holds met =>
    obtain ⟨evaluation, rfl, rfl, traced, recorded⟩ := conditionsMet_recorded debugging met
    refine ⟨evaluation, rfl, ?_⟩
    cases passed : evaluation.passed with
    | false => simpa [traced, still] using recorded
    | true => simpa [startEvent_trace, startEvent_memory, startEvent_running, traced, still] using
        recorded

theorem startSatisfied_trace {events : List Event}
    (debugging : engine.settings.debugConditions = true)
    (fine : (startSatisfied world dt events engine).result = .ok ()) :
    ∃ evaluations, evaluations.map Evaluation.event = events ∧
      (startSatisfied world dt events engine).engine.trace = engine.trace ++ evaluations := by
  induction events generalizing engine with
  | nil => exact ⟨[], rfl, by simp [startSatisfied]⟩
  | cons event rest ih =>
    have front := startSatisfied_front [event] fine
    have same := startSatisfied_same world dt [event] engine
    obtain ⟨result_eq, engine_eq⟩ := startSatisfied_append rest front
    rw [List.singleton_append] at result_eq engine_eq
    obtain ⟨evaluation, rfl, traced, _⟩ := startSatisfied_turn debugging front
    obtain ⟨others, rfl, trace_eq⟩ := ih (same.settings ▸ debugging) (result_eq ▸ fine)
    exact ⟨evaluation :: others, rfl, by simp [engine_eq, trace_eq, traced]⟩

theorem startSatisfied_at {before after : List Event} {event : Event}
    (debugging : engine.settings.debugConditions = true)
    (fine : (startSatisfied world dt (before ++ event :: after) engine).result = .ok ()) :
    ∃ earlier evaluation later, earlier.map Evaluation.event = before ∧ evaluation.event = event ∧
      (startSatisfied world dt (before ++ event :: after) engine).engine.trace =
        engine.trace ++ (earlier ++ evaluation :: later) ∧
      Recorded (Found engine.settings engine.conditions world dt event) 0 event.conditions
        (startSatisfied world dt before engine).engine.state.memory evaluation.results
        (startSatisfied world dt (before ++ [event]) engine).engine.state.memory ∧
      (startSatisfied world dt (before ++ [event]) engine).engine.running =
        (startSatisfied world dt before engine).engine.running ++
          if evaluation.passed ∧
            event.id ∉ ids (startSatisfied world dt before engine).engine.running
          then [.start event] else [] := by
  have front := startSatisfied_front before fine
  have same := startSatisfied_same world dt before engine
  obtain ⟨earlier, earlier_eq, traced⟩ := startSatisfied_trace debugging front
  obtain ⟨result_eq, engine_eq⟩ := startSatisfied_append (event :: after) front
  have turn := (startSatisfied_append [event] front).2
  rw [result_eq] at fine
  rw [engine_eq, turn]
  generalize (startSatisfied world dt before engine).engine = next at same traced fine ⊢
  have tracing : next.settings.debugConditions = true := same.settings ▸ debugging
  -- What comes after the turn only adds to the trace.
  have here := startSatisfied_front [event] fine
  have still := startSatisfied_same world dt [event] next
  obtain ⟨rest_result, rest_engine⟩ := startSatisfied_append after here
  rw [List.singleton_append] at rest_result rest_engine
  obtain ⟨evaluation, rfl, noted, recorded, running_eq⟩ := startSatisfied_turn tracing here
  obtain ⟨later, _, ended⟩ :=
    startSatisfied_trace (still.settings ▸ tracing) (rest_result ▸ fine)
  rw [same.settings, same.conditions] at recorded
  refine ⟨earlier, evaluation, later, earlier_eq, rfl, ?_, recorded, running_eq⟩
  rw [rest_engine, ended, noted, traced]
  simp

theorem turned_of_split (debugging : engine.settings.debugConditions = true)
    (fine : (startSatisfied world dt engine.declarations { engine with trace := [] }).result =
      .ok ()) {before after : ConditionTrace} {evaluation : Evaluation}
    (events_eq : (before ++ evaluation :: after).map Evaluation.event = engine.declarations)
    (split : (engine.atTurn world dt engine.declarations).trace = before ++ evaluation :: after) :
    engine.Turned world dt (before.map Evaluation.event) evaluation := by
  rw [List.map_append, List.map_cons] at events_eq
  rw [← events_eq] at fine split
  have watching : ({ engine with trace := [] } : Engine W A).settings.debugConditions = true :=
    debugging
  obtain ⟨earlier, found, later, earlier_eq, event_eq, traced, recorded, running_eq⟩ :=
    startSatisfied_at watching fine
  -- Two splits of one trace with as many evaluations in front are the same split.
  have aligned : before ++ evaluation :: after = earlier ++ found :: later := by
    rw [← split]
    exact traced
  have length_eq : before.length = earlier.length := by
    simpa using (congrArg List.length earlier_eq).symm
  obtain ⟨_, same⟩ := List.append_inj aligned length_eq
  obtain ⟨rfl, _⟩ := List.cons.inj same
  have complete : evaluation.Complete := by
    simpa [Evaluation.Complete, List.range_eq_range'] using recorded.indices_eq
  exact ⟨complete, complete.conditions_eq, recorded, running_eq⟩

end Turns

section Update

variable [ActionHandler W A] {world : W} {dt : Seconds} {engine : Engine W A}

theorem update_tested (fine : (engine.update world dt).result = .ok ()) :
    (startSatisfied world dt engine.declarations { engine with trace := [] }).result = .ok () ∧
      (engine.update world dt).engine.trace =
        (engine.atTurn world dt engine.declarations).trace := by
  rcases update_cases engine world dt with ⟨cause, _, ended⟩ | ⟨taken, journal, s', result, half,
    pass, ended⟩
  · rw [ended] at fine
    cases fine
  · constructor
    · cases tested : ({ engine with trace := [] }.intake world dt).result with
      | ok => exact tested
      | error cause => simp [update, tested] at fine
    · have trace_eq := congrArg Engine.trace half
      rw [ended]
      exact trace_eq.symm

theorem trace_explains_frame (debugging : engine.settings.debugConditions = true)
    (fine : (engine.update world dt).result = .ok ()) :
    engine.Explained world dt (engine.update world dt).journal
      (engine.update world dt).engine.trace := by
  obtain ⟨tested, trace_eq⟩ := update_tested fine
  have watching : ({ engine with trace := [] } : Engine W A).settings.debugConditions = true :=
    debugging
  obtain ⟨evaluations, events_eq, traced⟩ := startSatisfied_trace watching tested
  have trace_eq : (engine.update world dt).engine.trace = evaluations := trace_eq.trans traced
  have turned (before : ConditionTrace) (evaluation : Evaluation) (after : ConditionTrace)
      (split : evaluations = before ++ evaluation :: after) :
      engine.Turned world dt (before.map Evaluation.event) evaluation :=
    turned_of_split debugging tested (split ▸ events_eq) (traced.trans split)
  have complete (evaluation : Evaluation) (member : evaluation ∈ evaluations) :
      evaluation.Complete := by
    obtain ⟨before, after, split⟩ := List.append_of_mem member
    exact (turned before evaluation after split).complete
  have ids_eq : (evaluations.map fun e => e.event.id) = engine.declarations.map Event.id := by
    rw [← events_eq, List.map_map]
    rfl
  rw [trace_eq]
  refine ⟨events_eq, turned, rfl, perform_starts engine (.update world dt), ?_, ?_⟩
  · intro distinct id
    rw [← ids_eq] at distinct ⊢
    constructor
    · intro clear
      refine or_iff_not_imp_left.mpr fun declared => ?_
      obtain ⟨evaluation, member, rfl⟩ := List.mem_map.mp (not_not.mp declared)
      rw [ConditionTrace.blocking_of_mem distinct member, (complete evaluation member).blocking_eq,
        (complete evaluation member).unmet_eq_nil_iff] at clear
      exact ⟨evaluation, member, rfl, clear⟩
    · rintro (absent | ⟨evaluation, member, rfl, passed⟩)
      · exact ConditionTrace.blocking_of_absent absent
      · rw [ConditionTrace.blocking_of_mem distinct member,
          (complete evaluation member).blocking_eq]
        exact (complete evaluation member).unmet_eq_nil_iff.mpr passed
  · intro distinct evaluation member
    rw [← ids_eq] at distinct
    rw [ConditionTrace.blocking_of_mem distinct member, (complete evaluation member).blocking_eq]

end Update

def watchedScope : Scope :=
  ⟨"", [Scripted.guarded 1 [("yes", .is), ("broken", .is), ("yes", .not)]],
    [Scripted.guarded 2 [], Scripted.guarded 3 [("known", .is)]]⟩

def watched : Engine Unit Scripted :=
  ((new Dictionary.empty Scripted.tests ⟨true, .dropEvent⟩).run
    [.loadScope watchedScope, .startEvent (Scripted.guarded 3 [])]).1

theorem trace_explains_frame_watched :
    watched.settings.debugConditions = true ∧ (watched.update () .zero).result = .ok () ∧
      watched.Explained () .zero (watched.update () .zero).journal
        (watched.update () .zero).engine.trace ∧
      (watched.declarations.map Event.id).Nodup ∧
      (watched.update () .zero).engine.trace.blocking ⟨1⟩ =
        [⟨"broken", .is, [], ""⟩, ⟨"yes", .not, [], ""⟩] ∧
      (watched.update () .zero).engine.trace.blocking ⟨3⟩ = [] ∧
      starts (watched.update () .zero).journal = [⟨2⟩] := by
  have debugging : watched.settings.debugConditions = true := rfl
  have fine : (watched.update () .zero).result = .ok () := by decide +kernel
  exact ⟨debugging, fine, trace_explains_frame debugging fine, by decide +kernel,
    by decide +kernel, by decide +kernel, by decide +kernel⟩

end Engine

end MapScript
