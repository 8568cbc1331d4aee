import MapScript.Proofs.Engine.Scripted
import MapScript.Proofs.Engine.Skipping

set_option autoImplicit false

namespace MapScript

open Number Journal

variable {W A : Type}

section Collections

variable [ActionHandler W A] {id : EventId} {e : RunningEvent A} {action : A}
  {running front back : List (RunningEvent A)}

def RunningEvent.stopped (W : Type) [ActionHandler W A] (e : RunningEvent A) (action : A) :
    RunningEvent A :=
  { e with current := some ⟨(@ActionHandler.cancel W A _ action).1, .cancelled⟩ }

def RunningEvent.stopNotices (W : Type) [ActionHandler W A] (e : RunningEvent A) (action : A) :
    Journal :=
  (@ActionHandler.cancel W A _ action).2.map Notice.said ++
    [.called ⟨some e.id, e.cursor, (e.kind?).getD "", .cancel, .finished, false⟩] ++
    [.actionCancelled e.id e.kind?]

theorem cancelAction_of_flying (flying : e.current = some ⟨action, .running⟩) :
    e.cancelAction W = (true, e.stopped W action, e.stopNotices W action) := by
  simp only [RunningEvent.cancelAction, RunningEvent.stopAction, flying]
  rfl

theorem cancelActionIn_of_quiet
    (quiet : ∀ e ∈ running, e.id = id → e.actionState? ≠ some .running) :
    Engine.cancelActionIn W id running = (false, running, []) := by
  induction running with
  | nil => rfl
  | cons e rest ih =>
    obtain ⟨here, later⟩ := List.forall_mem_cons.mp quiet
    by_cases own : e.id = id
    · simp [Engine.cancelActionIn, own, RunningEvent.cancelAction, stopAction_of_quiet (here own)]
    · simp [Engine.cancelActionIn, own, ih later]

theorem cancelActionIn_of_flying (apart : e.id ∉ ids front)
    (flying : e.current = some ⟨action, .running⟩) :
    Engine.cancelActionIn W e.id (front ++ e :: back) =
      (true, front ++ e.stopped W action :: back, e.stopNotices W action) := by
  induction front with
  | nil => simp [Engine.cancelActionIn, cancelAction_of_flying flying]
  | cons first front ih =>
    obtain ⟨other, apart⟩ := not_or.mp (mt List.mem_cons.mpr apart)
    simp [Engine.cancelActionIn, Ne.symm other, ih apart]

end Collections

theorem Journal.Orderly.started_of_running {id : EventId} {l l' : Life} {front rest : Journal}
    {call : Call} (orderly : Orderly id l (front ++ .called call :: rest) l')
    (owned : call.owner = some id) (cancels : call.hook = .cancel)
    (here : call.slot = l'.cursor) (running : l'.action = some .running) :
    ∃ name slots, .eventStarted id name slots ∈ rest := by
  by_contra unstarted
  obtain ⟨allowed, _, behind⟩ := (orderly_cons_of_some (mark_called owned)).mp orderly.behind
  rw [cancels] at allowed behind
  -- Behind its cancel hook the slot is spent, and a spent slot has no running action.
  have spent := behind.spent (.inr ⟨allowed.1, rfl⟩)
    fun name slots member => unstarted ⟨name, slots, member⟩
  rcases spent with past | ⟨_, stopped⟩
  · exact absurd here (Nat.ne_of_lt past)
  · simp [running] at stopped

namespace Engine

variable [ActionHandler W A]

/-- The cancellation of the action that the event `e` runs, from `engine` to `next`, with all notices
before it in `past`. The slot has had no cancel hook since the event was started, and no hook at all
is called for it before the event is started anew. Until a frame comes to the event it stands as it
was, with the cancelled action, and at most its flag is set. -/
structure StopsAction (engine next : Engine W A) (past : Journal) (e : RunningEvent A) (action : A) :
    Prop where
  live : e.cancelled = false
  flying : e.current = some ⟨action, .running⟩
  noted : engine.cancelCurrentAction e.id = (true, next, e.stopNotices W action)
  alone : ∃ front back, engine.running = front ++ e :: back ∧
    next = { engine with running := front ++ e.stopped W action :: back }
  first : ∀ front call rest, past = front ++ .called call :: rest → call.owner = some e.id →
    call.slot = e.cursor → call.hook = .cancel →
    ∃ name slots, .eventStarted e.id name slots ∈ rest
  last : ∀ later front call rest, (next.run later).2 = front ++ .called call :: rest →
    call.owner = some e.id →
    (∃ name slots, .eventStarted e.id name slots ∈ front) ∨ e.cursor < call.slot
  waits : ∀ later, next.KeepsScope later → (next.run later).2.Only (Notice.bypasses e.id) →
    ∃ f ∈ (next.run later).1.running, OnlyFlagged (next.run later).2 (e.stopped W action) f ∧
      ∀ world dt, (next.run later).1.Meets f world dt
  ends : ∀ later world dt,
    .eventFinished e.id ∈ ((next.run later).1.update world dt).journal →
    e.id ∉ ids ((next.run later).1.update world dt).engine.running

variable {engine : Engine W A} {past : Journal} {e : RunningEvent A} {action : A} {id : EventId}
  {l : Life}

theorem stopsAction_of_orderly (told : Orderly e.id .unborn past l)
    (agrees : Agrees e.id l engine.running) (standing : e ∈ engine.running)
    (flying : e.current = some ⟨action, .running⟩) :
    engine.StopsAction (engine.cancelCurrentAction e.id).2.1 past e action := by
  have running : e.actionState? = some .running := by simp [RunningEvent.actionState?, flying]
  have live : e.cancelled = false :=
    Bool.eq_false_iff.mpr fun set => (agrees.sound.each e standing).stopped set running
  obtain ⟨front, back, split⟩ := List.append_of_mem standing
  have apart : e.id ∉ ids front := by
    have distinct := agrees.sound.distinct
    rw [split, ids, List.map_append, List.map_cons] at distinct
    exact fun member => (List.nodup_append.mp distinct).2.2 _ member _ List.mem_cons_self rfl
  obtain ⟨l', _, after⟩ := perform_tells engine (.cancelCurrentAction e.id) l agrees
  simp only [perform] at after
  have stops : engine.cancelCurrentAction e.id =
      (true, { engine with running := front ++ e.stopped W action :: back },
        e.stopNotices W action) := by
    simp only [cancelCurrentAction, split, cancelActionIn_of_flying apart flying]
  rw [stops] at after ⊢
  have left : e.stopped W action ∈ front ++ e.stopped W action :: back := by simp
  -- Every later call of the event is told from this life on.
  have spent : l'.Spent e.cursor := by
    rw [← after.life_eq _ left rfl]
    exact .inr ⟨rfl, rfl⟩
  refine ⟨live, flying, stops, ⟨front, back, split, rfl⟩, ?_, ?_, ?_, ?_⟩
  · intro front call rest past_eq owned here cancels
    rw [past_eq] at told
    have life_eq := agrees.life_eq e standing rfl
    exact told.started_of_running owned cancels (life_eq ▸ here) (life_eq ▸ running)
  · intro later front call rest split owned
    obtain ⟨_, orderly, _⟩ := run_tells _ later l' after
    rw [split] at orderly
    exact orderly.called_of_spent spent owned
  · intro later keeps bypassed
    obtain ⟨f, there, flags⟩ := run_waits after.sound left rfl keeps bypassed
    exact ⟨f, there, flags,
      update_meets (run_sound _ later after.sound) there flags.current_eq⟩
  · intro later world dt finished
    exact perform_gone_of_removes _ (.update world dt) ⟨_, finished, by simp⟩

theorem cancelled_action_is_skipped (actions : Dictionary (ActionFactory A))
    (conditions : Dictionary (ConditionTest W)) (settings : Settings)
    (before : List (Operation W A)) {engine : Engine W A} {past : Journal}
    (reached : (new actions conditions settings).run before = (engine, past)) (id : EventId) :
    ((engine.cancelCurrentAction id).1 = true ↔
      ∃ e ∈ engine.running, e.id = id ∧ e.actionState? = some .running) ∧
    ((engine.cancelCurrentAction id).1 = false →
      (engine.cancelCurrentAction id).2 = (engine, [])) ∧
    ((engine.cancelCurrentAction id).1 = true →
      ∃ e action, e.id = id ∧
        engine.StopsAction (engine.cancelCurrentAction id).2.1 past e action) := by
  by_cases flying : ∃ e ∈ engine.running, e.id = id ∧ e.actionState? = some .running
  · obtain ⟨e, standing, rfl, running⟩ := flying
    obtain ⟨⟨action, state⟩, flying, rfl⟩ := Option.map_eq_some_iff.mp running
    obtain ⟨l, told, agrees⟩ := reached_tells e.id reached
    have stops := stopsAction_of_orderly told agrees standing flying
    have answer : (engine.cancelCurrentAction e.id).1 = true := by rw [stops.noted]
    refine ⟨iff_of_true answer ⟨e, standing, rfl, running⟩, fun refused => ?_,
      fun _ => ⟨e, action, rfl, stops⟩⟩
    simp [answer] at refused
  · have quiet : ∀ e ∈ engine.running, e.id = id → e.actionState? ≠ some .running :=
      fun e standing own running => flying ⟨e, standing, own, running⟩
    have unchanged : engine.cancelCurrentAction id = (false, engine, []) := by
      simp only [cancelCurrentAction, cancelActionIn_of_quiet quiet]
    simp [unchanged, flying]

def stroll : Engine Unit Scripted × Journal :=
  (Scripted.engine { Scripted.idle with update := ⟨[], .ok .running⟩ } .abort).run
    [.registerAction "talk" fun _ => .ok Scripted.idle,
      .loadScope (Scripted.scope
        [⟨⟨1⟩, "", none, [], [⟨"act", [], ""⟩, ⟨"talk", [], ""⟩]⟩]),
      .update () .zero]

theorem cancelled_action_is_skipped_stroll :
    (stroll.1.cancelCurrentAction ⟨1⟩).1 = true ∧
      ∃ e action, e.id = ⟨1⟩ ∧
        stroll.1.StopsAction (stroll.1.cancelCurrentAction ⟨1⟩).2.1 stroll.2 e action := by
  obtain ⟨_, _, stops⟩ := cancelled_action_is_skipped _ _ _ _
    (rfl : _ = (stroll.1, stroll.2)) ⟨1⟩
  exact ⟨by decide, stops (by decide)⟩

example : ((stroll.1.cancelCurrentAction ⟨1⟩).2.1.update () .zero).journal.take 2 =
    [.actionSkipped ⟨1⟩ ⟨"act", [], ""⟩, .actionCreated (some ⟨1⟩) 1 "talk"] := by
  decide

end Engine

end MapScript
