import MapScript.Proofs.Engine.Noting
import MapScript.Proofs.Engine.Reachable
import MapScript.Proofs.Engine.Scripted

set_option autoImplicit false

namespace MapScript

open Number Journal

variable {W A : Type}

def Journal.Asks (id : EventId) (journal : Journal) : Prop :=
  .cancelRequested id ∈ journal ∨ .cancelAllRequested ∈ journal

def Aimed (id : EventId) (requests : List CancelRequest) : Prop :=
  .event id ∈ requests ∨ .all ∈ requests

def Flagged (id : EventId) (running : List (RunningEvent A)) : Prop :=
  ∃ e ∈ running, e.id = id ∧ e.cancelled = true

theorem asks_left {id : EventId} {earlier : Journal} (asks : earlier.Asks id) (later : Journal) :
    Asks id (earlier ++ later) :=
  asks.imp (List.mem_append_left later) (List.mem_append_left later)

theorem asks_right {id : EventId} (earlier : Journal) {later : Journal} (asks : later.Asks id) :
    Asks id (earlier ++ later) :=
  asks.imp (List.mem_append_right earlier) (List.mem_append_right earlier)

theorem aimed_pends {id : EventId} {before : List CancelRequest} {notice : Notice}
    (aimed : Aimed id (notice.pends before)) : Aimed id before ∨ Asks id [notice] := by
  cases notice with
  | scopeReset previous token => simp [Aimed, Notice.pends] at aimed
  | cancelRequested other =>
    rcases aimed with named | all
    · rcases List.mem_append.mp named with old | new
      · exact .inl (.inl old)
      · obtain rfl : id = other := by simpa using new
        exact .inr (.inl List.mem_cons_self)
    · exact .inl (.inr (by simpa [Notice.pends] using all))
  | cancelAllRequested => exact .inr (.inr List.mem_cons_self)
  | _ => exact .inl aimed

theorem aimed_pending {id : EventId} {before : List CancelRequest} {journal : Journal}
    (aimed : Aimed id (pending before journal)) : Aimed id before ∨ journal.Asks id := by
  induction journal generalizing before with
  | nil => exact .inl aimed
  | cons notice rest ih =>
    rcases ih aimed with now | asks
    · exact (aimed_pends now).imp_right fun asks => asks_left asks rest
    · exact .inr (asks_right [notice] asks)

@[simp] theorem flagged_cons {id : EventId} {e : RunningEvent A} {rest : List (RunningEvent A)} :
    Flagged id (e :: rest) ↔ (e.id = id ∧ e.cancelled = true) ∨ Flagged id rest := by
  simp [Flagged]

theorem flagged_mono {id : EventId} {running running' : List (RunningEvent A)}
    (kept : running'.Sublist running) (flagged : Flagged id running') : Flagged id running := by
  obtain ⟨e, standing, known⟩ := flagged
  exact ⟨e, kept.subset standing, known⟩

section Cancels

variable [ActionHandler W A] {id other : EventId} {running : List (RunningEvent A)}

theorem cancelById_flagged (flagged : Flagged id (cancelById W other running).2.1) :
    Flagged id running ∨ other = id := by
  induction running with
  | nil => exact .inl flagged
  | cons e rest ih =>
    simp only [cancelById] at flagged
    split at flagged
    next named =>
      rcases flagged_cons.mp flagged with ⟨same, _⟩ | later
      · exact .inr (named.symm.trans ((cancel_stops e).halted.1.id_eq.symm.trans same))
      · exact .inl (flagged_cons.mpr (.inr later))
    next =>
      rcases flagged_cons.mp flagged with here | later
      · exact .inl (flagged_cons.mpr (.inl here))
      · exact (ih later).imp_left fun before => flagged_cons.mpr (.inr before)

theorem applyRequests_flagged {requests : List CancelRequest}
    (flagged : Flagged id (applyRequests W requests running).1) :
    Flagged id running ∨ Aimed id requests := by
  induction requests generalizing running with
  | nil => exact .inl flagged
  | cons request rest ih =>
    cases request with
    | event other =>
      rcases ih flagged with now | aimed
      · rcases cancelById_flagged now with before | rfl
        · exact .inl before
        · exact .inr (.inl List.mem_cons_self)
      · exact .inr (aimed.imp (List.mem_cons_of_mem _) (List.mem_cons_of_mem _))
    | all => exact .inr (.inr List.mem_cons_self)

theorem cancelAction_cancelled (e : RunningEvent A) :
    (e.cancelAction W).2.1.cancelled = e.cancelled := by
  unfold RunningEvent.cancelAction RunningEvent.stopAction
  dsimp only
  split <;> rfl

theorem cancelActionIn_flagged (flagged : Flagged id (Engine.cancelActionIn W other running).2.1) :
    Flagged id running := by
  induction running with
  | nil => exact flagged
  | cons e rest ih =>
    simp only [Engine.cancelActionIn] at flagged
    split at flagged
    next =>
      rcases flagged_cons.mp flagged with ⟨same, set⟩ | later
      · rw [(cancelAction_stops e).halted.1.id_eq] at same
        rw [cancelAction_cancelled] at set
        exact flagged_cons.mpr (.inl ⟨same, set⟩)
      · exact flagged_cons.mpr (.inr later)
    next =>
      rcases flagged_cons.mp flagged with here | later
      · exact flagged_cons.mpr (.inl here)
      · exact flagged_cons.mpr (.inr (ih later))

end Cancels

theorem Settles.pending_eq {policy : FailurePolicy} {id : EventId} {ended : Bool}
    {result : Except EngineError Drain} {notices : Journal}
    (settles : Settles policy id result ended notices) (before : List CancelRequest) :
    pending before notices = before := by
  cases settles <;> rfl

theorem Abandons.pending_eq {policy : FailurePolicy} {id : EventId} {ended : Bool}
    {result : Except EngineError Drain} {notices : Journal}
    (abandons : Abandons policy id result ended notices) (before : List CancelRequest) :
    pending before notices = before := by
  cases abandons with
  | scopeChanged => rfl
  | settles settles => exact settles.pending_eq before

/-- The requests that a frame leaves: none in its own scope, otherwise those made after the last
reset. -/
inductive Leaves (token : ScopeToken) (journal : Journal) (s' : ScopeState) : Prop
  | settled (same : s'.token = token) (requests : s'.requests = [])
  | lost (away : s'.token ≠ token) (resets : Resets journal)
      (requests : s'.requests = pending [] journal)

theorem Leaves.behind {token : ScopeToken} {later : Journal} {s' : ScopeState}
    (leaves : Leaves token later s') (earlier : Journal) :
    Leaves token (earlier ++ later) s' := by
  cases leaves with
  | settled same requests => exact .settled same requests
  | lost away resets requests =>
    -- The reset is in the later part, so it hides whatever the earlier part has asked for.
    refine .lost away ?_ ?_
    · obtain ⟨previous, token, member⟩ := resets
      exact ⟨previous, token, List.mem_append_right earlier member⟩
    · rw [requests, pending_append]
      exact pending_eq_of_resets _ _ later resets

section Pass

variable [ActionHandler W A] {factories : Dictionary (ActionFactory A)} {policy : FailurePolicy}
  {dt : Seconds} {token : ScopeToken} {index : Nat} {s s' : Sweep W A} {journal : Journal}
  {result : Except EngineError Unit} {id : EventId}

theorem Sweep.Drives.noted {event : RunningEvent A} {drained : Drained W A}
    (drives : s.Drives factories dt token index event drained) :
    Noted s.state drained.journal drained.drive.state := by
  rw [← drives.drain_eq]
  exact drain_noted dt factories ⟨event, s.world, s.state⟩

theorem drain_leaves {event : RunningEvent A} {drained : Drained W A} {notices : Journal}
    (drives : s.Drives factories dt token index event drained) (idle : s.state.requests = [])
    (quiet : ∀ before, pending before notices = before)
    (away : drained.drive.state.token ≠ token) :
    Leaves token (drained.journal ++ notices) drained.drive.state := by
  have noted := drives.noted
  rcases noted.token with same | ⟨previous, next, member⟩
  · exact absurd (same.trans drives.fresh) away
  · refine .lost away ⟨previous, next, List.mem_append_left notices member⟩ ?_
    rw [pending_append, quiet, ← idle]
    exact noted.requests_eq

theorem Pass.leaves (pass : Pass factories policy dt token index s journal s' result)
    (idle : s.state.requests = []) : Leaves token journal s'.state := by
  induction pass with
  | closed past fresh => exact .settled fresh rfl
  | removed here flagged rest ih => exact (ih idle).behind _
  | passed drives settles same rest ih => exact (ih rfl).behind _
  | @abandoned index s event drained ended notices drives abandons away =>
    have leaves := drain_leaves drives idle abandons.pending_eq away
    rw [← s.afterVisit_state index event drained.drive ended] at leaves
    exact leaves
  | @aborted index s event drained cause drives strict failed =>
    by_cases same : drained.drive.state.token = token
    · simp only [Sweep.close, Sweep.afterDrain, same, if_true]
      exact .settled same rfl
    · simp only [Sweep.close, Sweep.afterDrain, same, if_false, List.append_nil]
      exact drain_leaves drives idle (fun _ => rfl) same

theorem applyPending_flagged (flagged : Flagged id s.applyPending.1.running) :
    Flagged id s.running ∨ Aimed id s.state.requests :=
  applyRequests_flagged flagged

theorem drain_flagged {event : RunningEvent A} {drained : Drained W A} (ended : Bool)
    (drives : s.Drives factories dt token index event drained)
    (flagged : Flagged id (s.afterVisit index event drained.drive ended).applyPending.1.running) :
    Flagged id s.running ∨ Aimed id s.state.requests ∨ Asks id drained.journal := by
  rcases applyPending_flagged flagged with ⟨e, standing, id_eq, set⟩ | aimed
  · rw [Sweep.afterVisit_running] at standing
    rcases List.mem_or_eq_of_mem_set standing with old | rfl
    · exact .inl ⟨e, old, id_eq, set⟩
    · rw [drives.driven.cancelled_eq, drives.live] at set
      cases set
  · rw [Sweep.afterVisit_state, drives.noted.requests_eq] at aimed
    exact .inr (aimed_pending aimed)

theorem Pass.flagged (pass : Pass factories policy dt token index s journal s' result)
    (flagged : Flagged id s'.running) :
    Flagged id s.running ∨ Aimed id s.state.requests ∨ Asks id journal := by
  induction pass with
  | closed =>
    exact (applyPending_flagged (flagged_mono List.filter_sublist flagged)).imp_right .inl
  | removed here cancelled rest ih =>
    exact (ih flagged).imp_right (Or.imp_right (asks_right _))
  | @passed index s s' event drained ended notices journal result drives settles same rest ih =>
    rcases ih flagged with between | aimed | asks
    · rcases drain_flagged ended drives between with before | aimed | asks
      · exact .inl before
      · exact .inr (.inl aimed)
      · exact .inr (.inr (asks_left (asks_left (asks_left asks _) _) _))
    · rcases aimed with named | all
      · cases named
      · cases all
    · exact .inr (.inr (asks_right _ asks))
  | abandoned =>
    obtain ⟨e, standing, _⟩ := flagged
    cases standing
  | @aborted index s event drained cause drives strict failed =>
    have closing : Flagged id (s.afterDrain index drained.drive).applyPending.1.running := by
      unfold Sweep.close at flagged
      split at flagged
      next => exact flagged_mono List.filter_sublist flagged
      next =>
        obtain ⟨e, standing, _⟩ := flagged
        cases standing
    rcases drain_flagged false drives closing with before | aimed | asks
    · exact .inl before
    · exact .inr (.inl aimed)
    · exact .inr (.inr (asks_left (asks_left asks _) _))

end Pass

namespace Engine

theorem startEvent_flagged {engine : Engine W A} {event : Event} {id : EventId}
    (flagged : Flagged id (engine.startEvent event).2.1.running) : Flagged id engine.running := by
  unfold startEvent at flagged
  split at flagged
  next => exact flagged
  next =>
    obtain ⟨e, standing, id_eq, set⟩ := flagged
    rcases List.mem_append.mp standing with old | new
    · exact ⟨e, old, id_eq, set⟩
    · obtain rfl := List.mem_singleton.mp new
      cases set

theorem startSatisfied_flagged {world : W} {dt : Seconds} {events : List Event}
    {engine : Engine W A} {id : EventId}
    (flagged : Flagged id (startSatisfied world dt events engine).engine.running) :
    Flagged id engine.running := by
  induction events generalizing engine with
  | nil => exact flagged
  | cons event rest ih =>
    have running := conditionsMet_running world dt engine event
    simp only [startSatisfied] at flagged
    split at flagged
    next => rwa [running] at flagged
    next holds _ =>
      rw [← running]
      cases holds with
      | false => exact ih flagged
      | true => exact startEvent_flagged (ih flagged)

theorem intake_flagged (world : W) (dt : Seconds) (engine : Engine W A) {id : EventId}
    (flagged : Flagged id (engine.intake world dt).engine.running) : Flagged id engine.running :=
  startSatisfied_flagged flagged

variable [ActionHandler W A]

theorem update_requests (world : W) (dt : Seconds) (engine : Engine W A)
    (idle : engine.state.requests = []) :
    Leaves engine.state.token (engine.update world dt).journal
        (engine.update world dt).engine.state ∧
      ∀ id, Flagged id (engine.update world dt).engine.running →
        Flagged id engine.running ∨ Asks id (engine.update world dt).journal := by
  have same := intake_same world dt { engine with trace := [] }
  have unflagged {id : EventId}
      (flagged : Flagged id ({ engine with trace := [] }.intake world dt).engine.running) :
      Flagged id engine.running := intake_flagged world dt { engine with trace := [] } flagged
  rcases update_cases engine world dt with ⟨cause, _, ended⟩ | ⟨taken, journal, s', result, half,
    pass, ended⟩
  · rw [ended]
    exact ⟨.settled same.token (same.requests.trans idle),
      fun id flagged => .inl (unflagged flagged)⟩
  · rw [half] at same unflagged
    rw [ended]
    constructor
    · have leaves := pass.leaves rfl
      rw [same.token] at leaves
      exact (leaves.behind _).behind _
    · intro id flagged
      rcases pass.flagged flagged with pending | aimed | asks
      · rcases applyPending_flagged pending with before | aimed
        · exact .inl (unflagged before)
        · simp [sweepStart, same.requests, idle, Aimed] at aimed
      · rcases aimed with named | all
        · cases named
        · cases all
      · exact .inr (asks_right _ (asks_right _ asks))

theorem execute_requests (polls : Nat) (engine : Engine W A) (world : W) (name : String)
    (parameters : List String) (skip : Bool) (step : Seconds)
    (idle : engine.state.requests = []) :
    (engine.execute polls world name parameters skip step).engine.state.requests = [] ∧
      ∀ id, Flagged id (engine.execute polls world name parameters skip step).engine.running →
        Flagged id engine.running ∨
          Asks id (engine.execute polls world name parameters skip step).journal := by
  unfold execute
  rcases createAction engine.actions none 0 name parameters with ⟨cause | action, notices⟩
  · exact ⟨idle, fun id flagged => .inl flagged⟩
  · have noted := OneShot.run_noted name step polls skip action
      ⟨world, Dictionary.empty, engine.state⟩
    dsimp only at noted ⊢
    generalize OneShot.run polls name skip step action ⟨world, Dictionary.empty, engine.state⟩ =
      finished at noted ⊢
    obtain ⟨shot, ending⟩ := finished
    refine ⟨rfl, fun id flagged => ?_⟩
    rcases applyRequests_flagged flagged with kept | aimed
    · refine .inl (flagged_mono ?_ kept)
      split <;> simp
    · rw [noted.requests_eq] at aimed
      rcases aimed_pending aimed with before | asks
      · simp [idle, Aimed] at before
      · exact .inr (asks_left (asks_left (asks_right notices asks) _) _)

/-- An operation leaves no request behind, except for those that a frame has taken down after it
lost its scope; and it flags no event but those that it cancels itself or that are asked for in its
own journal. -/
theorem perform_requests (engine : Engine W A) (operation : Operation W A)
    (idle : engine.state.requests = []) :
    (engine.perform operation).engine.state.requests =
        (if operation.isUpdate ∧
            (engine.perform operation).engine.state.token ≠ engine.state.token then
          pending [] (engine.perform operation).journal else []) ∧
      ∀ id, Flagged id (engine.perform operation).engine.running →
        Flagged id engine.running ∨ operation.cancels id ∨
          Asks id (engine.perform operation).journal := by
  have kept {operation : Operation W A} (other : operation.isUpdate = false)
      (requests : (engine.perform operation).engine.state.requests = []) :
      (engine.perform operation).engine.state.requests =
        if operation.isUpdate ∧
            (engine.perform operation).engine.state.token ≠ engine.state.token then
          pending [] (engine.perform operation).journal else [] := by
    simpa [other] using requests
  cases operation with
  | update world dt =>
    obtain ⟨leaves, flags⟩ := update_requests world dt engine idle
    refine ⟨?_, fun id flagged => (flags id flagged).imp_right .inr⟩
    cases leaves with
    | settled same requests => simp [perform, same, requests]
    | lost away _ requests => simp [perform, away, requests, Operation.isUpdate]
  | execute polls world name parameters skip step =>
    obtain ⟨requests, flags⟩ := execute_requests polls engine world name parameters skip step idle
    exact ⟨kept rfl requests, fun id flagged => (flags id flagged).imp_right .inr⟩
  | loadScope | reset =>
    refine ⟨kept rfl rfl, fun id flagged => ?_⟩
    obtain ⟨e, standing, _⟩ := flagged
    cases standing
  | startEvent event =>
    have requests := (startEvent_same engine event).requests.trans idle
    exact ⟨kept rfl requests, fun id flagged => .inl (startEvent_flagged flagged)⟩
  | cancelEvent other =>
    refine ⟨kept rfl idle, fun id flagged => ?_⟩
    rcases cancelById_flagged flagged with before | rfl
    · exact .inl before
    · exact .inr (.inl (decide_eq_true rfl))
  | cancelAllEvents => exact ⟨kept rfl idle, fun _ _ => .inr (.inl rfl)⟩
  | cancelCurrentAction other =>
    exact ⟨kept rfl idle, fun id flagged => .inl (cancelActionIn_flagged flagged)⟩
  | _ => exact ⟨kept rfl idle, fun id flagged => .inl flagged⟩

def departing : Engine Unit Scripted :=
  ((Scripted.engine
    { Scripted.idle with
      start := ⟨[.load (Scripted.scope [Scripted.event ⟨2⟩]), .cancelEvent ⟨2⟩], .ok ()⟩ }
    .abort).run [.loadScope (Scripted.scope [Scripted.event ⟨1⟩])]).1

theorem perform_requests_departing :
    let frame : Operation Unit Scripted := .update () .zero
    let updated := departing.perform frame
    departing.state.requests = [] ∧
      updated.engine.state.requests =
        (if frame.isUpdate ∧ updated.engine.state.token ≠ departing.state.token then
          pending [] updated.journal else []) ∧
      ∀ id, Flagged id updated.engine.running →
        Flagged id departing.running ∨ frame.cancels id ∨ Asks id updated.journal := by
  intro frame updated
  have idle : departing.state.requests = [] := rfl
  exact ⟨idle, perform_requests departing frame idle⟩

-- The next frame starts the event of the other scope and finds it cancelled.
theorem leftover_request_flags :
    let updated := departing.perform (.update () .zero)
    departing.state.requests = [] ∧ updated.engine.state.requests = [.event ⟨2⟩] ∧
      updated.engine.running = [] ∧
      .cancelledRemoved ⟨2⟩ ∈ (updated.engine.perform (.update () .zero)).journal :=
  ⟨rfl, rfl, rfl, by decide⟩

end Engine

end MapScript
