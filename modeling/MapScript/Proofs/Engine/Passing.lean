import MapScript.Proofs.Engine.Cancelling
import MapScript.Proofs.Engine.Driving

set_option autoImplicit false

namespace MapScript

open Number Journal

variable {W A : Type}

/-- A drain after which a pass goes on if the scope is still there: whether the event is finished
then, and what is noted. -/
inductive Settles (policy : FailurePolicy) (id : EventId) :
    Except EngineError Drain → Bool → Journal → Prop
  | blocked : Settles policy id (.ok .blocked) false []
  | complete : Settles policy id (.ok .complete) true []
  | dropped (cause : EngineError) (lenient : policy = .dropEvent) :
      Settles policy id (.error cause) true [.eventDropped id cause]

inductive Abandons (policy : FailurePolicy) (id : EventId) :
    Except EngineError Drain → Bool → Journal → Prop
  | scopeChanged : Abandons policy id (.ok .scopeChanged) false [.scopeAbandoned id]
  | settles {result : Except EngineError Drain} {ended : Bool} {notices : Journal}
      (settles : Settles policy id result ended notices) : Abandons policy id result ended notices

def Sweep.afterVisit (s : Sweep W A) (index : Nat) (event : RunningEvent A) (drive : Drive W A)
    (ended : Bool) : Sweep W A :=
  if ended then (s.afterDrain index drive).finish event.id else s.afterDrain index drive

structure Sweep.Drives [ActionHandler W A] (factories : Dictionary (ActionFactory A)) (dt : Seconds)
    (token : ScopeToken) (index : Nat) (s : Sweep W A) (event : RunningEvent A)
    (drained : Drained W A) : Prop where
  here : s.running[index]? = some event
  live : event.cancelled = false
  fresh : s.state.token = token
  drain_eq : drain factories dt ⟨event, s.world, s.state⟩ = drained

theorem Sweep.Drives.driven [ActionHandler W A] {factories : Dictionary (ActionFactory A)}
    {dt : Seconds} {token : ScopeToken} {index : Nat} {s : Sweep W A} {event : RunningEvent A}
    {drained : Drained W A} (drives : s.Drives factories dt token index event drained) :
    Driven token event (calls drained.journal) drained.drive.event drained.drive.state.token
      drained.result := by
  rw [← drives.drain_eq, ← drives.fresh]
  exact drain_driven factories dt ⟨event, s.world, s.state⟩

/-- `Pass index s journal s' result`: the part of a pass from a position on. -/
inductive Pass [ActionHandler W A] (factories : Dictionary (ActionFactory A))
    (policy : FailurePolicy) (dt : Seconds) (token : ScopeToken) :
    Nat → Sweep W A → Journal → Sweep W A → Except EngineError Unit → Prop
  | closed {index : Nat} {s : Sweep W A} (past : s.running.length ≤ index)
      (fresh : s.state.token = token) :
      Pass factories policy dt token index s s.applyPending.2 s.applyPending.1.settle (.ok ())
  | removed {index : Nat} {s s' : Sweep W A} {event : RunningEvent A} {journal : Journal}
      {result : Except EngineError Unit} (here : s.running[index]? = some event)
      (flagged : event.cancelled = true)
      (rest : Pass factories policy dt token (index + 1) (s.finish event.id) journal s' result) :
      Pass factories policy dt token index s ([.cancelledRemoved event.id] ++ journal) s' result
  | passed {index : Nat} {s s' : Sweep W A} {event : RunningEvent A} {drained : Drained W A}
      {ended : Bool} {notices journal : Journal} {result : Except EngineError Unit}
      (drives : s.Drives factories dt token index event drained)
      (settles : Settles policy event.id drained.result ended notices)
      (same : drained.drive.state.token = token)
      (rest : Pass factories policy dt token (index + 1)
        (s.afterVisit index event drained.drive ended).applyPending.1 journal s' result) :
      Pass factories policy dt token index s
        (drained.journal ++ notices ++
          (s.afterVisit index event drained.drive ended).applyPending.2 ++ journal) s' result
  | abandoned {index : Nat} {s : Sweep W A} {event : RunningEvent A} {drained : Drained W A}
      {ended : Bool} {notices : Journal} (drives : s.Drives factories dt token index event drained)
      (abandons : Abandons policy event.id drained.result ended notices)
      (away : drained.drive.state.token ≠ token) :
      Pass factories policy dt token index s (drained.journal ++ notices)
        (s.afterVisit index event drained.drive ended).abandon (.ok ())
  | aborted {index : Nat} {s : Sweep W A} {event : RunningEvent A} {drained : Drained W A}
      {cause : EngineError} (drives : s.Drives factories dt token index event drained)
      (strict : policy = .abort) (failed : drained.result = .error cause) :
      Pass factories policy dt token index s
        (drained.journal ++ [.frameAborted event.id cause] ++
          ((s.afterDrain index drained.drive).close token).2)
        ((s.afterDrain index drained.drive).close token).1 (.error cause)

theorem Driven.token_ne {token token' : ScopeToken} {e e' : RunningEvent A} {calls : List Call}
    {result : Except EngineError Drain} (driven : Driven token e calls e' token' result)
    (changed : result = .ok .scopeChanged) : token' ≠ token := by
  induction driven with
  | complete | refused | startFailed | updateFailed | cleanupFailed => cases changed
  | startedAway _ _ _ _ away => exact away
  | finishedAway _ _ _ _ _ away => exact away
  | held =>
    intro same
    simp [same] at changed
  | started _ _ _ _ _ ih => exact ih changed
  | skipped _ _ _ ih => exact ih changed
  | finished _ _ _ _ _ _ ih => exact ih changed

namespace Sweep

theorem afterVisit_state (s : Sweep W A) (index : Nat) (event : RunningEvent A) (drive : Drive W A)
    (ended : Bool) : (s.afterVisit index event drive ended).state = drive.state := by
  cases ended <;> rfl

theorem afterVisit_running (s : Sweep W A) (index : Nat) (event : RunningEvent A)
    (drive : Drive W A) (ended : Bool) :
    (s.afterVisit index event drive ended).running = s.running.set index drive.event := by
  cases ended <;> rfl

theorem close_eq [ActionHandler W A] {token : ScopeToken} {s : Sweep W A}
    (fresh : s.state.token = token) : s.close token = (s.applyPending.1.settle, s.applyPending.2) :=
  if_pos fresh

theorem applyPending_halted [ActionHandler W A] (s : Sweep W A) :
    List.Forall₂ Halted s.running s.applyPending.1.running ∧
      OnlyCancels (calls s.applyPending.2) :=
  (applyRequests_cancels s.state.requests s.running).halted

inductive Visited [ActionHandler W A] (policy : FailurePolicy) (token : ScopeToken) (index : Nat)
    (event : RunningEvent A) (s : Sweep W A) (drained : Drained W A) :
    Sweep W A × Journal × Visit → Prop
  | next {ended : Bool} {notices : Journal}
      (settles : Settles policy event.id drained.result ended notices)
      (same : drained.drive.state.token = token) :
      Visited policy token index event s drained
        ((s.afterVisit index event drained.drive ended).applyPending.1,
          drained.journal ++ notices ++
            (s.afterVisit index event drained.drive ended).applyPending.2, .next)
  | abandoned {ended : Bool} {notices : Journal}
      (abandons : Abandons policy event.id drained.result ended notices)
      (away : drained.drive.state.token ≠ token) :
      Visited policy token index event s drained
        (s.afterVisit index event drained.drive ended, drained.journal ++ notices, .abandoned)
  | aborted {cause : EngineError} (strict : policy = .abort)
      (failed : drained.result = .error cause) :
      Visited policy token index event s drained
        (s.afterDrain index drained.drive, drained.journal ++ [.frameAborted event.id cause],
          .aborted cause)

section Visits

variable [ActionHandler W A] (factories : Dictionary (ActionFactory A)) (policy : FailurePolicy)
  (dt : Seconds) (token : ScopeToken)

theorem visited_settled (index : Nat) (event : RunningEvent A) (s : Sweep W A)
    (drained : Drained W A) {ended : Bool} {notices : Journal}
    (settles : Settles policy event.id drained.result ended notices) :
    Visited policy token index event s drained
      (if (s.afterVisit index event drained.drive ended).state.token = token then
        ((s.afterVisit index event drained.drive ended).applyPending.1,
          drained.journal ++ notices ++
            (s.afterVisit index event drained.drive ended).applyPending.2, .next)
      else (s.afterVisit index event drained.drive ended, drained.journal ++ notices,
        .abandoned)) := by
  rw [afterVisit_state]
  split
  next same => exact .next settles same
  next away => exact .abandoned (.settles settles) away

theorem visit_visited (index : Nat) (event : RunningEvent A) (s : Sweep W A)
    (live : event.cancelled = false) (fresh : s.state.token = token) :
    Visited policy token index event s (drain factories dt ⟨event, s.world, s.state⟩)
      (visit factories policy dt token index event s) := by
  have driven := drain_driven factories dt ⟨event, s.world, s.state⟩
  simp only [fresh] at driven
  simp only [visit, live, Bool.false_eq_true, if_false]
  generalize drain factories dt ⟨event, s.world, s.state⟩ = drained at driven ⊢
  obtain ⟨drive, journal, result⟩ := drained
  rcases result with cause | (_ | _ | _)
  · cases policy with
    | abort => exact .aborted rfl rfl
    | dropEvent =>
      exact visited_settled .dropEvent token index event s ⟨drive, journal, .error cause⟩
        (.dropped cause rfl)
  · exact visited_settled policy token index event s ⟨drive, journal, .ok .blocked⟩ .blocked
  · exact visited_settled policy token index event s ⟨drive, journal, .ok .complete⟩ .complete
  · exact .abandoned .scopeChanged (driven.token_ne rfl)

theorem visitFrom_pass (visits index : Nat) (s : Sweep W A) (fresh : s.state.token = token)
    (left : s.running.length = index + visits) :
    Pass factories policy dt token index s
      (visitFrom factories policy dt token visits index s).journal
      (visitFrom factories policy dt token visits index s).sweep
      (visitFrom factories policy dt token visits index s).result := by
  induction visits generalizing index s with
  | zero =>
    simp only [visitFrom, close, fresh, if_true]
    exact .closed (by omega) fresh
  | succ visits ih =>
    have within : index < s.running.length := by omega
    have here : s.running[index]? = some s.running[index] := List.getElem?_eq_getElem within
    simp only [visitFrom, here]
    generalize s.running[index] = event at here ⊢
    cases flag : event.cancelled with
    | true =>
      simp only [visit, flag, if_true]
      have length : (s.finish event.id).running.length = index + 1 + visits := by
        simp only [finish]
        omega
      exact .removed here flag (ih (index + 1) (s.finish event.id) fresh length)
    | false =>
      have drives : s.Drives factories dt token index event _ := ⟨here, flag, fresh, rfl⟩
      have visited := visit_visited factories policy dt token index event s flag fresh
      generalize visit factories policy dt token index event s = outcome at visited ⊢
      cases visited with
      | @next ended notices settles same =>
        -- The next position is there, for driving and cancelling keep the length.
        refine .passed drives settles same (ih (index + 1) _ ?_ ?_)
        · exact (congrArg ScopeState.token (s.afterVisit_state index event _ ended)).trans same
        · rw [← (applyPending_halted _).1.length_eq, afterVisit_running, List.length_set]
          omega
      | abandoned abandons away => exact .abandoned drives abandons away
      | aborted strict failed => exact .aborted drives strict failed

end Visits

end Sweep

namespace Engine

section Intake

variable (world : W) (dt : Seconds)

structure SameBut (engine next : Engine W A) : Prop where
  actions : next.actions = engine.actions
  conditions : next.conditions = engine.conditions
  settings : next.settings = engine.settings
  token : next.state.token = engine.state.token
  requests : next.state.requests = engine.state.requests

theorem SameBut.trans {engine middle next : Engine W A} (first : SameBut engine middle)
    (later : SameBut middle next) : SameBut engine next where
  actions := later.actions.trans first.actions
  conditions := later.conditions.trans first.conditions
  settings := later.settings.trans first.settings
  token := later.token.trans first.token
  requests := later.requests.trans first.requests

theorem conditionsMet_same (engine : Engine W A) (event : Event) :
    SameBut engine (engine.conditionsMet world dt event).engine := by
  unfold conditionsMet
  dsimp only
  split
  next => split <;> exact ⟨rfl, rfl, rfl, rfl, rfl⟩
  next => exact ⟨rfl, rfl, rfl, rfl, rfl⟩

theorem retireInit_same (state : ScopeState) (id : EventId) :
    (retireInit state id).1.token = state.token ∧
      (retireInit state id).1.requests = state.requests := by
  unfold retireInit
  split
  next => exact ⟨rfl, rfl⟩
  next => split <;> exact ⟨rfl, rfl⟩

theorem startEvent_same (engine : Engine W A) (event : Event) :
    SameBut engine (engine.startEvent event).2.1 := by
  have retired := retireInit_same engine.state event.id
  unfold startEvent
  split
  next => exact ⟨rfl, rfl, rfl, rfl, rfl⟩
  next => exact ⟨rfl, rfl, rfl, retired.1, retired.2⟩

theorem startSatisfied_same (events : List Event) (engine : Engine W A) :
    SameBut engine (startSatisfied world dt events engine).engine := by
  induction events generalizing engine with
  | nil => exact ⟨rfl, rfl, rfl, rfl, rfl⟩
  | cons event rest ih =>
    have met := conditionsMet_same world dt engine event
    simp only [startSatisfied]
    split
    next => exact met
    next holds _ =>
      cases holds with
      | false => exact met.trans (ih _)
      | true => exact (met.trans (startEvent_same _ event)).trans (ih _)

theorem intake_same (engine : Engine W A) : SameBut engine (engine.intake world dt).engine :=
  startSatisfied_same world dt _ engine

end Intake

def sweepStart (engine : Engine W A) (world : W) : Sweep W A :=
  ⟨engine.running, [], world, engine.state⟩

theorem update_cases [ActionHandler W A] (engine : Engine W A) (world : W) (dt : Seconds) :
    (∃ cause,
      ({ engine with trace := [] }.intake world dt).result = .error cause ∧
      engine.update world dt =
        ⟨({ engine with trace := [] }.intake world dt).engine, world,
          ({ engine with trace := [] }.intake world dt).journal, .error cause⟩) ∨
    ∃ taken : Engine W A, ∃ journal s' result,
      ({ engine with trace := [] }.intake world dt).engine = taken ∧
      Pass taken.actions taken.settings.failurePolicy dt taken.state.token 0
        (taken.sweepStart world).applyPending.1 journal s' result ∧
      engine.update world dt =
        ⟨{ taken with running := s'.running, state := s'.state }, s'.world,
          ({ engine with trace := [] }.intake world dt).journal ++
            ((taken.sweepStart world).applyPending.2 ++ journal), result⟩ := by
  unfold update
  dsimp only
  generalize ({ engine with trace := [] } : Engine W A).intake world dt = taken
  cases taken.result with
  | error cause => exact .inl ⟨cause, rfl, rfl⟩
  | ok _ =>
    refine .inr ⟨taken.engine, _, _, _, rfl, ?_, rfl⟩
    exact Sweep.visitFrom_pass _ _ dt _ _ 0 _ rfl (Nat.zero_add _).symm

end Engine

end MapScript
