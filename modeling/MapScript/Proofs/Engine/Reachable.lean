import MapScript.Proofs.Engine.Collection

set_option autoImplicit false

namespace MapScript

open Number Journal

variable {W A : Type}

theorem Settles.silent {policy : FailurePolicy} {id : EventId} {ended : Bool}
    {result : Except EngineError Drain} {notices : Journal}
    (settles : Settles policy id result ended notices) : calls notices = [] := by
  cases settles <;> simp

theorem Abandons.silent {policy : FailurePolicy} {id : EventId} {ended : Bool}
    {result : Except EngineError Drain} {notices : Journal}
    (abandons : Abandons policy id result ended notices) : calls notices = [] := by
  cases abandons with
  | scopeChanged => simp
  | settles settles => exact settles.silent

def Ahead (index : Nat) (running : List (RunningEvent A)) (id : EventId) : Prop :=
  id ∈ (ids running).drop index

theorem ahead_of_succ {index : Nat} {running : List (RunningEvent A)} (id : EventId)
    (later : Ahead (index + 1) running id) : Ahead index running id := by
  unfold Ahead at *
  rw [← List.drop_drop] at later
  exact List.mem_of_mem_drop later

theorem ahead_self {index : Nat} {running : List (RunningEvent A)} {event : RunningEvent A}
    (here : running[index]? = some event) : Ahead index running event.id := by
  obtain ⟨within, rfl⟩ := List.getElem?_eq_some_iff.mp here
  have bound : index < (ids running).length := by simpa [ids] using within
  rw [Ahead, List.drop_eq_getElem_cons bound]
  simp [ids]

theorem settle_move (free : EventId → Prop) (s : Sweep W A) :
    Move free s.running [] s.settle.running :=
  .dropped List.filter_sublist

theorem abandon_move (free : EventId → Prop) (s : Sweep W A) :
    Move free s.running [] s.abandon.running :=
  .dropped (List.nil_sublist _)

section Pass

variable [ActionHandler W A] {factories : Dictionary (ActionFactory A)} {policy : FailurePolicy}
  {dt : Seconds} {token : ScopeToken} {index : Nat} {s s' : Sweep W A} {journal : Journal}
  {result : Except EngineError Unit}

theorem drain_move {event : RunningEvent A} {drained : Drained W A} (ended : Bool)
    (drives : s.Drives factories dt token index event drained) :
    Move (Ahead index s.running) s.running (calls drained.journal)
      (s.afterVisit index event drained.drive ended).running := by
  rw [Sweep.afterVisit_running]
  exact .driven drives.here drives.live (ahead_self drives.here) drives.driven

theorem applyPending_move (free : EventId → Prop) (s : Sweep W A) :
    Move free s.running (calls s.applyPending.2) s.applyPending.1.running :=
  .halted s.applyPending_halted.1 s.applyPending_halted.2

theorem close_moves (token : ScopeToken) (free : EventId → Prop) (s : Sweep W A) :
    Moves free s.running (calls (s.close token).2) (s.close token).1.running := by
  unfold Sweep.close
  split
  next =>
    rw [← List.append_nil (calls _)]
    exact .more (applyPending_move free s) (.once (settle_move free _))
  next => exact .once (abandon_move free s)

theorem ids_afterVisit {event : RunningEvent A} {drained : Drained W A} (ended : Bool)
    (drives : s.Drives factories dt token index event drained) :
    ids (s.afterVisit index event drained.drive ended).applyPending.1.running = ids s.running := by
  rw [ids_halted (Sweep.applyPending_halted _).1, Sweep.afterVisit_running,
    ids_set drives.here drives.driven.id_eq]

theorem Pass.moves (pass : Pass factories policy dt token index s journal s' result) :
    Moves (Ahead index s.running) s.running (calls journal) s'.running := by
  induction pass with
  | @closed index s past fresh =>
    rw [← List.append_nil (calls _)]
    exact .more (applyPending_move _ s) (.once (settle_move _ _))
  | removed here flagged rest ih => exact ih.mono ahead_of_succ
  | @passed index s s' event drained ended notices journal result drives settles same rest ih =>
    -- The collection keeps its ids, so what stands behind the next position stands behind this one.
    have narrower (id : EventId) (ahead : Ahead (index + 1)
        (s.afterVisit index event drained.drive ended).applyPending.1.running id) :
        Ahead index s.running id := by
      rw [Ahead, ids_afterVisit ended drives] at ahead
      exact ahead_of_succ id ahead
    have moves := Moves.more (drain_move ended drives)
      (.more (applyPending_move _ _) (ih.mono narrower))
    simpa [settles.silent] using moves
  | @abandoned index s event drained ended notices drives abandons away =>
    have moves := Moves.more (drain_move ended drives) (.once (abandon_move _ _))
    simpa only [calls_append, abandons.silent] using moves
  | @aborted index s event drained cause drives strict failed =>
    have moves := Moves.more (drain_move false drives)
      (close_moves token _ _)
    simpa [Sweep.afterVisit] using moves

end Pass

namespace Engine

theorem startEvent_moves (engine : Engine W A) (event : Event) (free : EventId → Prop)
    (mine : free event.id) :
    Moves free engine.running [] (engine.startEvent event).2.1.running := by
  unfold startEvent
  split
  next => exact .still
  next idle =>
    have fresh : event.id ∉ ids engine.running := fun running => idle (isRunning_iff.mpr running)
    exact .once (.started event fresh mine)

section Frame

variable (world : W) (dt : Seconds)

theorem conditionsMet_running (engine : Engine W A) (event : Event) :
    (engine.conditionsMet world dt event).engine.running = engine.running := by
  unfold conditionsMet
  dsimp only
  split
  next => split <;> rfl
  next => rfl

theorem startSatisfied_moves (events : List Event) (engine : Engine W A) :
    Moves (fun _ => True) engine.running []
      (startSatisfied world dt events engine).engine.running := by
  induction events generalizing engine with
  | nil => exact .still
  | cons event rest ih =>
    simp only [startSatisfied]
    rw [← conditionsMet_running world dt engine event]
    split
    next => exact .still
    next holds _ =>
      cases holds with
      | false => exact ih _
      | true => exact (startEvent_moves _ event _ trivial).trans (ih _)

theorem startEvent_grows (engine : Engine W A) (event : Event) :
    ∃ new, (engine.startEvent event).2.1.running = engine.running ++ new := by
  unfold startEvent
  split
  next => exact ⟨[], by simp⟩
  next => exact ⟨_, rfl⟩

theorem startSatisfied_grows (events : List Event) (engine : Engine W A) :
    ∃ new, (startSatisfied world dt events engine).engine.running = engine.running ++ new := by
  induction events generalizing engine with
  | nil => exact ⟨[], by simp [startSatisfied]⟩
  | cons event rest ih =>
    simp only [startSatisfied]
    rw [← conditionsMet_running world dt engine event]
    split
    next => exact ⟨[], by simp⟩
    next holds _ =>
      cases holds with
      | false => exact ih _
      | true =>
        obtain ⟨new, grown⟩ := startEvent_grows (engine.conditionsMet world dt event).engine event
        obtain ⟨more, later⟩ :=
          ih ((engine.conditionsMet world dt event).engine.startEvent event).2.1
        refine ⟨new ++ more, ?_⟩
        simpa [grown] using later

theorem intake_grows (engine : Engine W A) :
    ∃ new, (engine.intake world dt).engine.running = engine.running ++ new :=
  startSatisfied_grows world dt _ engine

theorem intake_moves (engine : Engine W A) :
    Moves (fun _ => True) engine.running [] (engine.intake world dt).engine.running :=
  startSatisfied_moves world dt _ engine

variable [ActionHandler W A]

theorem update_moves (engine : Engine W A) :
    Moves (fun _ => True) engine.running (calls (engine.update world dt).journal)
      (engine.update world dt).engine.running := by
  have begun := intake_moves world dt { engine with trace := [] }
  have silent := intake_calls { engine with trace := [] } world dt
  rcases update_cases engine world dt with ⟨cause, _, ended⟩ | ⟨taken, journal, s', result, half,
    pass, ended⟩
  · rw [ended]
    simpa [silent] using begun
  · rw [half] at begun
    have swept := begun.trans (.more (applyPending_move _ (taken.sweepStart world))
      (pass.moves.mono fun _ _ => trivial))
    rw [ended]
    simpa [silent] using swept

end Frame

theorem execute_moves [ActionHandler W A] (polls : Nat) (engine : Engine W A) (world : W)
    (name : String) (parameters : List String) (skip : Bool) (step : Seconds) :
    Moves (fun _ => True) engine.running
      (calls (engine.execute polls world name parameters skip step).journal)
      (engine.execute polls world name parameters skip step).engine.running := by
  obtain ⟨alone, cancels, kept, calls_eq, foreign, _, sublist, halted, hooks⟩ :=
    execute_calls polls engine world name parameters skip step
  rw [calls_eq]
  exact .more (.apart foreign) (.more (.dropped sublist) (.once (.halted halted hooks)))

theorem new_sound (actions : Dictionary (ActionFactory A))
    (conditions : Dictionary (ConditionTest W)) (settings : Settings) :
    Sound (new actions conditions settings : Engine W A).running where
  distinct := List.nodup_nil
  each _ member := absurd member List.not_mem_nil

variable [ActionHandler W A]

theorem perform_moves (engine : Engine W A) (operation : Operation W A) :
    Moves (fun _ => True) engine.running (calls (engine.perform operation).journal)
      (engine.perform operation).engine.running := by
  cases operation with
  | loadScope scope => exact .once (.dropped (List.nil_sublist _))
  | reset => exact .once (.dropped (List.nil_sublist _))
  | startEvent event =>
    have silent := startEvent_calls engine event
    simpa only [perform, silent] using startEvent_moves engine event _ trivial
  | update world dt => exact update_moves world dt engine
  | execute polls world name parameters skip step =>
    exact execute_moves polls engine world name parameters skip step
  | cancelEvent id =>
    obtain ⟨halted, hooks⟩ := (cancelById_cancels (W := W) id engine.running).halted
    exact .once (.halted halted hooks)
  | cancelAllEvents =>
    obtain ⟨halted, hooks⟩ := (cancelAll_cancels (W := W) engine.running).halted
    exact .once (.halted halted hooks)
  | cancelCurrentAction id =>
    obtain ⟨halted, hooks⟩ := (cancelActionIn_cancels (W := W) id engine.running).halted
    exact .once (.halted halted hooks)
  | checkCondition world event condition dt =>
    have silent := checkCondition_calls engine world event condition dt
    simp only [perform, silent]
    exact .still
  | configure | registerAction | registerCondition | replaceActions | replaceConditions
  | remember => exact .still

theorem perform_onlyCancels (engine : Engine W A) (operation : Operation W A)
    (idle : operation.drives = false) : OnlyCancels (calls (engine.perform operation).journal) := by
  cases operation with
  | update | execute => cases idle
  | cancelEvent id => exact (cancelById_cancels (W := W) id engine.running).halted.2
  | cancelAllEvents => exact (cancelAll_cancels (W := W) engine.running).halted.2
  | cancelCurrentAction id => exact (cancelActionIn_cancels (W := W) id engine.running).halted.2
  | startEvent event => simp [perform, startEvent_calls, OnlyCancels]
  | checkCondition => simp [perform, checkCondition_calls, OnlyCancels]
  | loadScope | reset | configure | registerAction | registerCondition | replaceActions
  | replaceConditions | remember => exact fun call member => absurd member List.not_mem_nil

theorem run_moves (engine : Engine W A) (operations : List (Operation W A)) :
    Moves (fun _ => True) engine.running (calls (engine.run operations).2)
      (engine.run operations).1.running := by
  induction operations generalizing engine with
  | nil => exact .still
  | cons operation rest ih =>
    simp only [run, calls_append]
    exact (perform_moves engine operation).trans (ih _)

theorem run_sound (engine : Engine W A) (operations : List (Operation W A))
    (before : Sound engine.running) : Sound (engine.run operations).1.running :=
  (run_moves engine operations).sound before

theorem reached_sound {actions : Dictionary (ActionFactory A)}
    {conditions : Dictionary (ConditionTest W)} {settings : Settings}
    {before : List (Operation W A)} {engine : Engine W A} {past : Journal}
    (reached : (new actions conditions settings).run before = (engine, past)) :
    Sound engine.running := by
  have sound := run_sound _ before (new_sound actions conditions settings)
  rwa [reached] at sound

theorem reachable_sound (actions : Dictionary (ActionFactory A))
    (conditions : Dictionary (ConditionTest W)) (settings : Settings)
    (operations : List (Operation W A)) :
    Sound ((new actions conditions settings).run operations).1.running :=
  run_sound _ operations (new_sound actions conditions settings)

end Engine

end MapScript
