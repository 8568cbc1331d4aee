import Mathlib.Data.List.Dedup
import MapScript.Proofs.Engine.CancelledEvents

set_option autoImplicit false

namespace MapScript

open Number Journal

variable {W A : Type}

def Notice.started? : Notice → Option EventId
  | .eventStarted id _ _ => some id
  | _ => none

namespace Journal

def starts (journal : Journal) : List EventId :=
  journal.filterMap Notice.started?

@[simp] theorem starts_nil : starts [] = [] := rfl

@[simp] theorem starts_cons (notice : Notice) (rest : Journal) :
    starts (notice :: rest) = notice.started?.toList ++ starts rest := by
  rw [starts, starts, List.filterMap_cons]
  cases notice.started? <;> rfl

@[simp] theorem starts_append (earlier later : Journal) :
    starts (earlier ++ later) = starts earlier ++ starts later :=
  List.filterMap_append

theorem mem_starts {id : EventId} {journal : Journal} :
    id ∈ starts journal ↔ ∃ name slots, .eventStarted id name slots ∈ journal := by
  constructor
  · intro started
    obtain ⟨notice, member, named⟩ := List.mem_filterMap.mp started
    cases notice <;> simp [Notice.started?] at named
    subst named
    exact ⟨_, _, member⟩
  · rintro ⟨name, slots, member⟩
    exact List.mem_filterMap.mpr ⟨_, member, rfl⟩

theorem starts_of_undeclared {journal : Journal} (undeclared : journal.Only Notice.undeclared) :
    starts journal = [] := by
  refine List.filterMap_eq_nil_iff.mpr fun notice member => ?_
  have known := undeclared notice member
  cases notice <;> first | rfl | cases known

theorem starts_of_tests {journal : Journal} (tests : journal.Only Notice.tests) :
    starts journal = [] := by
  refine List.filterMap_eq_nil_iff.mpr fun notice member => ?_
  have known := tests notice member
  cases notice <;> first | rfl | cases known

end Journal

theorem Cancels.starts_eq {running running' : List (RunningEvent A)} {journal : Journal}
    (cancels : Cancels running journal running') : starts journal = [] :=
  starts_of_undeclared (cancels.cancels.mono Notice.undeclared_of_cancels)

/-- If the collection stands in the order of its latest starts before the journal, so it does
after it. Of a list with repetitions `List.dedup` keeps the last ones. -/
def Ranks (running : List (RunningEvent A)) (journal : Journal)
    (running' : List (RunningEvent A)) : Prop :=
  ∀ past : List EventId, (ids running).Sublist past.dedup →
    (ids running').Sublist (past ++ starts journal).dedup

theorem sublist_dedup_concat {before past : List EventId} {id : EventId}
    (ranked : before.Sublist past.dedup) (fresh : id ∉ before) :
    (before ++ [id]).Sublist (past ++ [id]).dedup := by
  induction past generalizing before with
  | nil =>
    obtain rfl := List.sublist_nil.mp ranked
    simp
  | cons first rest ih =>
    rw [List.cons_append]
    by_cases again : first ∈ rest
    · rw [List.dedup_cons_of_mem again] at ranked
      rw [List.dedup_cons_of_mem (List.mem_append_left _ again)]
      exact ih ranked fresh
    · rw [List.dedup_cons_of_notMem again] at ranked
      by_cases same : first = id
      -- The start that is repeated is none of the collection.
      · subst same
        rw [List.dedup_cons_of_mem (List.mem_append_right _ List.mem_cons_self)]
        refine ih ?_ fresh
        cases ranked with
        | cons _ ranked => exact ranked
        | cons_cons _ _ => exact absurd List.mem_cons_self fresh
      · rw [List.dedup_cons_of_notMem (by simp [again, same])]
        cases ranked with
        | cons _ ranked => exact (ih ranked fresh).cons first
        | cons_cons _ ranked =>
          exact (ih ranked fun member => fresh (List.mem_cons_of_mem _ member)).cons_cons first

namespace Ranks

variable {running middle running' : List (RunningEvent A)} {journal later : Journal}

theorem trans (first : Ranks running journal middle) (second : Ranks middle later running') :
    Ranks running (journal ++ later) running' := by
  intro past ranked
  rw [starts_append, ← List.append_assoc]
  exact second _ (first past ranked)

theorem dropped (kept : (ids running').Sublist (ids running)) (silent : starts journal = []) :
    Ranks running journal running' := by
  intro past ranked
  rw [silent, List.append_nil]
  exact kept.trans ranked

theorem started (event : Event) (fresh : event.id ∉ ids running) (silent : starts journal = []) :
    Ranks running (.eventStarted event.id event.name event.actions.length :: journal)
      (running ++ [.start event]) := by
  intro past ranked
  rw [starts_cons, silent]
  simpa [ids, Notice.started?, RunningEvent.id, RunningEvent.start] using
    sublist_dedup_concat ranked fresh

end Ranks

theorem Cancels.ranks {running running' : List (RunningEvent A)} {journal : Journal}
    (cancels : Cancels running journal running') : Ranks running journal running' := by
  refine .dropped ?_ cancels.starts_eq
  rw [ids_halted cancels.halted.1]

section Pass

variable [ActionHandler W A] {factories : Dictionary (ActionFactory A)} {policy : FailurePolicy}
  {dt : Seconds} {token : ScopeToken} {index : Nat} {s s' : Sweep W A} {journal : Journal}
  {result : Except EngineError Unit}

omit [ActionHandler W A] in
theorem Sweep.settle_ids (s : Sweep W A) : (ids s.settle.running).Sublist (ids s.running) :=
  List.Sublist.map _ List.filter_sublist

theorem Sweep.applyPending_ids (s : Sweep W A) : ids s.applyPending.1.running = ids s.running :=
  ids_halted s.applyPending_halted.1

theorem Sweep.close_ids (token : ScopeToken) (s : Sweep W A) :
    (ids (s.close token).1.running).Sublist (ids s.running) := by
  unfold Sweep.close
  split
  next =>
    rw [← s.applyPending_ids]
    exact s.applyPending.1.settle_ids
  next => exact List.nil_sublist _

theorem Pass.ids_sublist (pass : Pass factories policy dt token index s journal s' result) :
    (ids s'.running).Sublist (ids s.running) := by
  induction pass with
  | @closed index s past fresh =>
    rw [← s.applyPending_ids]
    exact s.applyPending.1.settle_ids
  | removed _ _ _ ih => exact ih
  | @passed index s s' event drained ended notices journal result drives settles same rest ih =>
    rw [← ids_afterVisit ended drives]
    exact ih
  | abandoned => exact List.nil_sublist _
  | @aborted index s event drained cause drives strict failed =>
    have same : ids (s.afterDrain index drained.drive).running = ids s.running :=
      ids_set drives.here drives.driven.id_eq
    rw [← same]
    exact (s.afterDrain index drained.drive).close_ids token

end Pass

def Operation.starts : Operation W A → Bool
  | startEvent _ | update _ _ => true
  | _ => false

namespace Engine

section Frame

variable (world : W) (dt : Seconds)

theorem startEvent_ids (engine : Engine W A) (event : Event) :
    ids (engine.startEvent event).2.1.running =
      ids engine.running ++ starts (engine.startEvent event).2.2 := by
  unfold startEvent
  split
  next => simp
  next =>
    rcases retireInit_notices engine.state event.id with none | retired
    · simp [none, ids, Notice.started?, RunningEvent.id, RunningEvent.start]
    · simp [retired, ids, Notice.started?, RunningEvent.id, RunningEvent.start]

theorem conditionsMet_starts (engine : Engine W A) (event : Event) :
    starts (engine.conditionsMet world dt event).journal = [] :=
  starts_of_tests (conditionsMet_tests engine world dt event)

theorem startSatisfied_ids (events : List Event) (engine : Engine W A) :
    ids (startSatisfied world dt events engine).engine.running =
      ids engine.running ++ starts (startSatisfied world dt events engine).journal := by
  induction events generalizing engine with
  | nil => simp [startSatisfied]
  | cons event rest ih =>
    have silent := conditionsMet_starts world dt engine event
    have same := conditionsMet_running world dt engine event
    simp only [startSatisfied]
    split
    next => simp [silent, same]
    next holds _ =>
      cases holds with
      | false => simp [silent, ih, same]
      | true => simp [silent, ih, startEvent_ids, same]

theorem startSatisfied_fresh (events : List Event) (engine : Engine W A) {id : EventId}
    (present : id ∈ ids engine.running) :
    id ∉ starts (startSatisfied world dt events engine).journal := by
  rw [mem_starts]
  rintro ⟨name, slots, member⟩
  exact startSatisfied_unstarted world dt events present member

theorem startEvent_nodup (engine : Engine W A) (event : Event) :
    (starts (engine.startEvent event).2.2).Nodup := by
  unfold startEvent
  split
  next => simp
  next =>
    rcases retireInit_notices engine.state event.id with none | retired
    · simp [none, Notice.started?]
    · simp [retired, Notice.started?]

theorem startSatisfied_nodup (events : List Event) (engine : Engine W A) :
    (starts (startSatisfied world dt events engine).journal).Nodup := by
  induction events generalizing engine with
  | nil => simp [startSatisfied]
  | cons event rest ih =>
    have silent := conditionsMet_starts world dt engine event
    simp only [startSatisfied]
    split
    next => simp [silent]
    next holds _ =>
      cases holds with
      | false => simp [silent, ih]
      | true =>
        simp only [if_true, starts_append, silent, List.nil_append]
        refine List.nodup_append.mpr ⟨startEvent_nodup _ event, ih _, ?_⟩
        rintro first started _ later rfl
        refine startSatisfied_fresh world dt rest _ ?_ later
        rw [startEvent_ids]
        exact List.mem_append_right _ started

theorem startEvent_ranks (engine : Engine W A) (event : Event) :
    Ranks engine.running (engine.startEvent event).2.2 (engine.startEvent event).2.1.running := by
  unfold startEvent
  split
  next => exact .dropped (.refl _) rfl
  next idle =>
    have fresh : event.id ∉ ids engine.running := fun running => idle (isRunning_iff.mpr running)
    refine .started event fresh ?_
    rcases retireInit_notices engine.state event.id with none | retired
    · rw [none, starts_nil]
    · rw [retired]
      rfl

theorem startSatisfied_ranks (events : List Event) (engine : Engine W A) :
    Ranks engine.running (startSatisfied world dt events engine).journal
      (startSatisfied world dt events engine).engine.running := by
  induction events generalizing engine with
  | nil => exact .dropped (.refl _) rfl
  | cons event rest ih =>
    have tested : Ranks engine.running (engine.conditionsMet world dt event).journal
        (engine.conditionsMet world dt event).engine.running := by
      rw [conditionsMet_running]
      exact .dropped (.refl _) (conditionsMet_starts world dt engine event)
    simp only [startSatisfied]
    split
    next => exact tested
    next holds _ =>
      cases holds with
      | false => exact (tested.trans (.dropped (.refl _) rfl)).trans (ih _)
      | true => exact (tested.trans (startEvent_ranks _ event)).trans (ih _)

theorem intake_ranks (engine : Engine W A) :
    Ranks engine.running (engine.intake world dt).journal (engine.intake world dt).engine.running :=
  startSatisfied_ranks world dt _ engine

end Frame

def afterStarts (engine : Engine W A) : Operation W A → Engine W A
  | .startEvent event => (engine.startEvent event).2.1
  | operation => engine.beforeHooks operation

variable [ActionHandler W A] (engine : Engine W A)

theorem update_starts (world : W) (dt : Seconds) :
    starts (engine.update world dt).journal =
      starts ({ engine with trace := [] }.intake world dt).journal := by
  rcases update_cases engine world dt with ⟨cause, _, ended⟩ | ⟨taken, journal, s', result, _,
    pass, ended⟩
  · rw [ended]
  · have pending : starts (taken.sweepStart world).applyPending.2 = [] :=
      (applyRequests_cancels _ _).starts_eq
    rw [ended]
    simp [pending, starts_of_undeclared pass.undeclared]

theorem starts_nothing (operation : Operation W A) (idle : operation.starts = false) :
    starts (engine.perform operation).journal = [] ∧ engine.afterStarts operation = engine := by
  cases operation with
  | startEvent | update => cases idle
  | execute polls world name parameters skip step =>
    exact ⟨starts_of_undeclared (execute_undeclared engine polls world name parameters skip step).1,
      rfl⟩
  | cancelEvent id => exact ⟨(cancelById_cancels id engine.running).starts_eq, rfl⟩
  | cancelAllEvents => exact ⟨(cancelAll_cancels engine.running).starts_eq, rfl⟩
  | cancelCurrentAction id => exact ⟨(cancelActionIn_cancels id engine.running).starts_eq, rfl⟩
  | checkCondition world event condition dt =>
    exact ⟨starts_of_tests (testCondition_tests _ world dt event condition _), rfl⟩
  | loadScope | reset | configure | registerAction | registerCondition | replaceActions
  | replaceConditions | remember => exact ⟨rfl, rfl⟩

theorem perform_starts (operation : Operation W A) :
    ids (engine.afterStarts operation).running =
      ids engine.running ++ starts (engine.perform operation).journal := by
  cases active : operation.starts with
  | false =>
    obtain ⟨none, same⟩ := starts_nothing engine operation active
    rw [none, same, List.append_nil]
  | true =>
    cases operation with
    | startEvent event => exact startEvent_ids engine event
    | update world dt =>
      simp only [perform, update_starts]
      exact startSatisfied_ids world dt _ { engine with trace := [] }
    | _ => cases active

theorem perform_starts_nodup (operation : Operation W A) :
    (starts (engine.perform operation).journal).Nodup := by
  cases active : operation.starts with
  | false =>
    rw [(starts_nothing engine operation active).1]
    exact List.nodup_nil
  | true =>
    cases operation with
    | startEvent event => exact startEvent_nodup engine event
    | update world dt =>
      simp only [perform, update_starts]
      exact startSatisfied_nodup world dt _ _
    | _ => cases active

theorem update_ranks (world : W) (dt : Seconds) :
    Ranks engine.running (engine.update world dt).journal
      (engine.update world dt).engine.running := by
  have begun := intake_ranks world dt { engine with trace := [] }
  rcases update_cases engine world dt with ⟨cause, _, ended⟩ | ⟨taken, journal, s', result, half,
    pass, ended⟩
  · rw [ended]
    exact begun
  · rw [half] at begun
    rw [ended]
    refine begun.trans (.trans (applyRequests_cancels _ _).ranks (.dropped pass.ids_sublist ?_))
    exact starts_of_undeclared pass.undeclared

theorem perform_ranks (operation : Operation W A) :
    Ranks engine.running (engine.perform operation).journal
      (engine.perform operation).engine.running := by
  cases operation with
  | startEvent event => exact startEvent_ranks engine event
  | update world dt => exact update_ranks engine world dt
  | execute polls world name parameters skip step =>
    obtain ⟨alone, cancels, ending, kept, journal_eq, own, ends, cancelled, sublist, _⟩ :=
      execute_parts engine polls world name parameters skip step
    have silent {notices : Journal} (alone : notices.Only Notice.alone) : starts notices = [] :=
      starts_of_undeclared (alone.mono Notice.undeclared_of_alone)
    simp only [perform, journal_eq]
    exact ((Ranks.dropped (sublist.map _) (silent own)).trans cancelled.ranks).trans
      (.dropped (.refl _) (silent ends))
  | cancelEvent id => exact (cancelById_cancels id engine.running).ranks
  | cancelAllEvents => exact (cancelAll_cancels engine.running).ranks
  | cancelCurrentAction id => exact (cancelActionIn_cancels id engine.running).ranks
  | checkCondition world event condition dt =>
    exact .dropped (.refl _) (starts_of_tests (testCondition_tests _ world dt event condition _))
  | loadScope | reset => exact .dropped (List.nil_sublist _) rfl
  | configure | registerAction | registerCondition | replaceActions | replaceConditions
  | remember => exact .dropped (.refl _) rfl

theorem run_ranks (operations : List (Operation W A)) :
    Ranks engine.running (engine.run operations).2 (engine.run operations).1.running := by
  induction operations generalizing engine with
  | nil => exact .dropped (.refl _) rfl
  | cons operation rest ih => exact (perform_ranks engine operation).trans (ih _)

theorem reached_ranked {actions : Dictionary (ActionFactory A)}
    {conditions : Dictionary (ConditionTest W)} {settings : Settings}
    {before : List (Operation W A)} {engine : Engine W A} {past : Journal}
    (reached : (new actions conditions settings).run before = (engine, past)) :
    (ids engine.running).Sublist (starts past).dedup := by
  have ranked := run_ranks (new actions conditions settings) before [] (.refl _)
  rwa [reached] at ranked

end Engine

end MapScript
