import Mathlib.Data.List.Forall2
import MapScript.Engine.Basic
import MapScript.Proofs.Engine.Calls

set_option autoImplicit false

namespace MapScript

open Journal

variable {W A : Type}

/-- `e'` is `e` after any number of cancellations of the event or of its action. -/
structure Halted (e e' : RunningEvent A) : Prop where
  declaration : e'.declaration = e.declaration
  cursor : e'.cursor = e.cursor
  context : e'.context = e.context
  flag : e.cancelled = true → e'.cancelled = true
  action : e'.current = e.current ∨
    ∃ action action', e.current = some ⟨action, .running⟩ ∧ e'.current = some ⟨action', .cancelled⟩
  stopped : e'.cancelled = true → e.cancelled = true ∨ e'.actionState? ≠ some .running

namespace Halted

theorem refl (e : RunningEvent A) : Halted e e where
  declaration := rfl
  cursor := rfl
  context := rfl
  flag := id
  action := .inl rfl
  stopped := .inl

theorem id_eq {e e' : RunningEvent A} (h : Halted e e') : e'.id = e.id :=
  congrArg Event.id h.declaration

theorem notRunning {e e' : RunningEvent A} (h : Halted e e')
    (quiet : e.actionState? ≠ some .running) : e'.actionState? ≠ some .running := by
  rcases h.action with same | ⟨action, action', flying, _⟩
  · simpa [RunningEvent.actionState?, same] using quiet
  · simp [RunningEvent.actionState?, flying] at quiet

theorem trans {e m e' : RunningEvent A} (first : Halted e m) (later : Halted m e') :
    Halted e e' where
  declaration := later.declaration.trans first.declaration
  cursor := later.cursor.trans first.cursor
  context := later.context.trans first.context
  flag set := later.flag (first.flag set)
  action := by
    -- An action is stopped at most once: what was cancelled is not running.
    rcases first.action with same | ⟨action, action', flying, stopped⟩
    · simpa [same] using later.action
    · rcases later.action with same | ⟨_, _, running, _⟩
      · exact .inr ⟨action, action', flying, same.trans stopped⟩
      · simp [stopped] at running
  stopped set := by
    rcases later.stopped set with before | quiet
    · exact (first.stopped before).imp_right later.notRunning
    · exact .inr quiet

end Halted

theorem halted_refl (running : List (RunningEvent A)) : List.Forall₂ Halted running running :=
  List.forall₂_same.mpr fun e _ => .refl e

theorem halted_trans {running middle last : List (RunningEvent A)}
    (first : List.Forall₂ Halted running middle) (later : List.Forall₂ Halted middle last) :
    List.Forall₂ Halted running last := by
  induction first generalizing last with
  | nil => exact later
  | cons head _ ih =>
    cases later with
    | cons next rest => exact .cons (head.trans next) (ih rest)

theorem halted_mem {running running' : List (RunningEvent A)}
    (halted : List.Forall₂ Halted running running') {e' : RunningEvent A} (member : e' ∈ running') :
    ∃ e ∈ running, Halted e e' := by
  induction halted with
  | nil => simp at member
  | @cons e _ rest _ head _ ih =>
    rcases List.mem_cons.mp member with rfl | later
    · exact ⟨e, List.mem_cons_self, head⟩
    · obtain ⟨other, standing, stopped⟩ := ih later
      exact ⟨other, List.mem_cons_of_mem e standing, stopped⟩

def OnlyCancels (calls : List Call) : Prop :=
  ∀ call ∈ calls, call.hook = .cancel

theorem onlyCancels_append {earlier later : List Call} (first : OnlyCancels earlier)
    (second : OnlyCancels later) : OnlyCancels (earlier ++ later) := by
  intro call member
  rcases List.mem_append.mp member with before | after
  · exact first call before
  · exact second call after

inductive Stops : RunningEvent A → Journal → RunningEvent A → Prop
  | spared (e : RunningEvent A) : Stops e [] e
  | flagged {e : RunningEvent A} (live : e.cancelled = false)
      (quiet : e.actionState? ≠ some .running) :
      Stops e [.eventCancelled e.id e.declaration.name e.cursor] { e with cancelled := true }
  | cancelled {e : RunningEvent A} {action : A} (live : e.cancelled = false)
      (flying : e.current = some ⟨action, .running⟩) (action' : A) (records : List Record) :
      Stops e
        (records.map Notice.said ++
          [.called ⟨some e.id, e.cursor, (e.kind?).getD "", .cancel, .finished, false⟩] ++
          [.eventCancelled e.id e.declaration.name e.cursor])
        { e with current := some ⟨action', .cancelled⟩, cancelled := true }
  | stopped {e : RunningEvent A} {action : A} (flying : e.current = some ⟨action, .running⟩)
      (action' : A) (records : List Record) :
      Stops e
        (records.map Notice.said ++
          [.called ⟨some e.id, e.cursor, (e.kind?).getD "", .cancel, .finished, false⟩] ++
          [.actionCancelled e.id e.kind?])
        { e with current := some ⟨action', .cancelled⟩ }

inductive Cancels : List (RunningEvent A) → Journal → List (RunningEvent A) → Prop
  | none : Cancels [] [] []
  | ignored (id : EventId) : Cancels [] [.cancelIgnored id] []
  | event {e e' : RunningEvent A} {rest rest' : List (RunningEvent A)} {journal later : Journal}
      (one : Stops e journal e') (others : Cancels rest later rest') :
      Cancels (e :: rest) (journal ++ later) (e' :: rest')
  | trans {running middle running' : List (RunningEvent A)} {journal later : Journal}
      (first : Cancels running journal middle) (second : Cancels middle later running') :
      Cancels running (journal ++ later) running'

theorem Cancels.refl (running : List (RunningEvent A)) : Cancels running [] running := by
  induction running with
  | nil => exact .none
  | cons e rest ih => exact .event (.spared e) ih

theorem Stops.halted {e e' : RunningEvent A} {journal : Journal} (stops : Stops e journal e') :
    Halted e e' ∧ OnlyCancels (calls journal) := by
  cases stops with
  | spared => exact ⟨.refl e, by simp [OnlyCancels]⟩
  | flagged live quiet =>
    exact ⟨⟨rfl, rfl, rfl, fun _ => rfl, .inl rfl, fun _ => .inr quiet⟩, by simp [OnlyCancels]⟩
  | cancelled live flying action' =>
    refine ⟨⟨rfl, rfl, rfl, fun _ => rfl, .inr ⟨_, action', flying, rfl⟩, fun _ => .inr ?_⟩, ?_⟩
    · simp [RunningEvent.actionState?]
    · simp [OnlyCancels]
  | stopped flying action' =>
    refine ⟨⟨rfl, rfl, rfl, id, .inr ⟨_, action', flying, rfl⟩, .inl⟩, ?_⟩
    simp [OnlyCancels]

theorem Cancels.halted {running running' : List (RunningEvent A)} {journal : Journal}
    (cancels : Cancels running journal running') :
    List.Forall₂ Halted running running' ∧ OnlyCancels (calls journal) := by
  induction cancels with
  | none | ignored => exact ⟨.nil, by simp [OnlyCancels]⟩
  | event one _ ih =>
    rw [calls_append]
    exact ⟨.cons one.halted.1 ih.1, onlyCancels_append one.halted.2 ih.2⟩
  | trans _ _ first second =>
    rw [calls_append]
    exact ⟨halted_trans first.1 second.1, onlyCancels_append first.2 second.2⟩

section Hooks

variable [ActionHandler W A]

theorem stopAction_of_quiet {e : RunningEvent A} (quiet : e.actionState? ≠ some .running) :
    e.stopAction W = (false, e, []) := by
  unfold RunningEvent.stopAction
  split
  next action flying => simp [RunningEvent.actionState?, flying] at quiet
  next => rfl

theorem cancel_stops (e : RunningEvent A) : Stops e (e.cancel W).2 (e.cancel W).1 := by
  unfold RunningEvent.cancel
  split
  next => exact .spared e
  next live =>
    have unflagged : e.cancelled = false := by simpa using live
    by_cases running : e.actionState? = some .running
    · obtain ⟨⟨action, state⟩, flying, rfl⟩ := Option.map_eq_some_iff.mp running
      simp only [RunningEvent.stopAction, flying]
      exact .cancelled unflagged flying _ _
    · rw [stopAction_of_quiet running]
      exact .flagged unflagged running

theorem cancelAction_stops (e : RunningEvent A) :
    Stops e (e.cancelAction W).2.2 (e.cancelAction W).2.1 := by
  unfold RunningEvent.cancelAction
  by_cases running : e.actionState? = some .running
  · obtain ⟨⟨action, state⟩, flying, rfl⟩ := Option.map_eq_some_iff.mp running
    simp only [RunningEvent.stopAction, flying]
    exact .stopped flying _ _
  · rw [stopAction_of_quiet running]
    exact .spared e

theorem cancelById_cancels (id : EventId) (running : List (RunningEvent A)) :
    Cancels running (cancelById W id running).2.2 (cancelById W id running).2.1 := by
  induction running with
  | nil => exact .ignored id
  | cons e rest ih =>
    simp only [cancelById]
    split
    next =>
      rw [← List.append_nil (e.cancel W).2]
      exact .event (cancel_stops e) (.refl rest)
    next => exact .event (.spared e) ih

theorem cancelAll_cancels (running : List (RunningEvent A)) :
    Cancels running (cancelAll W running).2 (cancelAll W running).1 := by
  induction running with
  | nil => exact .none
  | cons e rest ih => exact .event (cancel_stops e) ih

theorem applyRequests_cancels (requests : List CancelRequest) (running : List (RunningEvent A)) :
    Cancels running (applyRequests W requests running).2 (applyRequests W requests running).1 := by
  induction requests generalizing running with
  | nil => exact .refl running
  | cons request rest ih =>
    cases request with
    | event id => exact .trans (cancelById_cancels id running) (ih _)
    | all => exact .trans (cancelAll_cancels running) (ih _)

theorem cancelActionIn_cancels (id : EventId) (running : List (RunningEvent A)) :
    Cancels running (Engine.cancelActionIn W id running).2.2
      (Engine.cancelActionIn W id running).2.1 := by
  induction running with
  | nil => exact .none
  | cons e rest ih =>
    simp only [Engine.cancelActionIn]
    split
    next =>
      rw [← List.append_nil (e.cancelAction W).2.2]
      exact .event (cancelAction_stops e) (.refl rest)
    next => exact .event (.spared e) ih

end Hooks

end MapScript
