import MapScript.Proofs.Engine.Retrying
import MapScript.Proofs.Engine.Scripted

set_option autoImplicit false

namespace MapScript

open Number Journal

variable {W A : Type} [ActionHandler W A]

theorem Pass.requests_eq {factories : Dictionary (ActionFactory A)}
    {policy : FailurePolicy} {dt : Seconds} {token : ScopeToken} {index : Nat} {s s' : Sweep W A}
    {journal : Journal} {result : Except EngineError Unit}
    (pass : Pass factories policy dt token index s journal s' result) :
    s'.running = [] ∨ s'.state.requests = [] := by
  induction pass with
  | closed => exact .inr rfl
  | removed _ _ _ ih => exact ih
  | passed _ _ _ _ ih => exact ih
  | abandoned => exact .inl rfl
  | aborted =>
    unfold Sweep.close
    split
    next => exact .inr rfl
    next => exact .inl rfl

/-- What is known at the end of an operation in which an update reported that it is done. -/
structure Finishes (engine : Engine W A) (operation : Operation W A) (call : Call) (id : EventId)
    (reply : Reply) (rest : List Call) : Prop where
  elsewhere : ∀ other ∈ rest, other.At id call.slot → other.hook = .cancel
  remains : ∀ e ∈ (engine.perform operation).engine.running, e.id = id →
    e.Remains engine.settings.failurePolicy reply call.slot
  requests : (engine.perform operation).engine.running = [] ∨
    (engine.perform operation).engine.state.requests = []
  world : Nonempty W

namespace Engine

theorem update_finishing (engine : Engine W A) (world : W) (dt : Seconds)
    (sound : Sound engine.running) {pre post : List Call} {call : Call} {id : EventId}
    (split : calls (engine.update world dt).journal = pre ++ call :: post)
    (owned : call.owner = some id) (polled : call.hook = .update)
    (finished : call.reply = .finished) :
    ∃ reply moved rest, post = call.cleanup reply moved :: rest ∧
      Finishes engine (.update world dt) call id reply rest := by
  have silent := intake_calls { engine with trace := [] } world dt
  have same := intake_same world dt { engine with trace := [] }
  have started := (intake_moves world dt { engine with trace := [] }).sound sound
  rcases update_cases engine world dt with ⟨cause, _, ended⟩ | ⟨taken, journal, s', result, half,
    pass, ended⟩
  · rw [ended, silent] at split
    exact absurd split not_split_nil
  · rw [half] at same started
    obtain ⟨halted, hooks⟩ := (taken.sweepStart world).applyPending_halted
    have distinct : (ids (taken.sweepStart world).applyPending.1.running).Nodup := by
      rw [ids_halted halted]
      exact started.distinct
    rw [ended, calls_append, silent, List.nil_append, calls_append] at split
    rcases split_append split with ⟨_, cancelled, _⟩ | ⟨front, split⟩
    · exact (onlyCancels_not_split hooks cancelled polled).elim
    · obtain ⟨reply, moved, rest, rfl, elsewhere, remains⟩ :=
        pass.finishing distinct split owned polled finished
      refine ⟨reply, moved, rest, rfl, elsewhere, ?_, ?_, ⟨world⟩⟩
      · simp only [perform, ended]
        rw [← same.settings]
        exact remains
      · simp only [perform, ended]
        exact pass.requests_eq

-- Only a frame updates the actions of running events.
theorem perform_finishing (engine : Engine W A) (operation : Operation W A)
    (sound : Sound engine.running) {pre post : List Call} {call : Call} {id : EventId}
    (split : calls (engine.perform operation).journal = pre ++ call :: post)
    (owned : call.owner = some id) (polled : call.hook = .update)
    (finished : call.reply = .finished) :
    ∃ reply moved rest, post = call.cleanup reply moved :: rest ∧
      Finishes engine operation call id reply rest := by
  cases operation with
  | update world dt => exact update_finishing engine world dt sound split owned polled finished
  | execute polls world name parameters skip step =>
    obtain ⟨alone, cancels, _, calls_eq, foreign, _, _, _, hooks⟩ :=
      execute_calls polls engine world name parameters skip step
    simp only [perform] at split
    rw [calls_eq] at split
    rcases split_append split with ⟨rest, mine, _⟩ | ⟨front, cancelled⟩
    · have none := foreign call (by simp [mine])
      simp [none] at owned
    · exact (onlyCancels_not_split hooks cancelled polled).elim
  | _ => exact (onlyCancels_not_split (perform_onlyCancels engine _ rfl) split polled).elim

/-- After an update that is done the cleanup follows at once, and the slot is not driven again in
the same operation. It is not driven in any later one either, before it is started anew, unless the
cleanup has failed under the strict policy and has left the event standing without a flag. -/
theorem done_is_final (actions : Dictionary (ActionFactory A))
    (conditions : Dictionary (ConditionTest W)) (settings : Settings)
    (before : List (Operation W A)) (operation : Operation W A) {engine : Engine W A}
    (reached : ((new actions conditions settings).run before).1 = engine)
    {pre post : List Call} {call : Call} {id : EventId}
    (split : calls (engine.perform operation).journal = pre ++ call :: post)
    (owned : call.owner = some id) (polled : call.hook = .update)
    (finished : call.reply = .finished) :
    ∃ reply moved rest, post = call.cleanup reply moved :: rest ∧
      (∀ other ∈ rest, other.At id call.slot → other.hook = .cancel) ∧
      ((∀ after : List (Operation W A),
          Rests id call.slot (calls ((engine.perform operation).engine.run after).2)) ↔
        ¬ (reply = .failed ∧ engine.settings.failurePolicy = .abort ∧
          ∃ e ∈ (engine.perform operation).engine.running, e.id = id ∧ e.cancelled = false)) := by
  have sound := run_sound _ before (new_sound actions conditions settings)
  rw [reached] at sound
  obtain ⟨reply, moved, rest, rfl, finishes⟩ :=
    perform_finishing engine operation sound split owned polled finished
  refine ⟨reply, moved, rest, rfl, finishes.elsewhere, ?_, ?_⟩
  · rintro rests ⟨failed, strict, e, standing, rfl, live⟩
    have stuck := finishes.remains e standing rfl
    rw [RunningEvent.Remains, if_pos ⟨failed, strict⟩] at stuck
    have soundAfter := (perform_moves engine operation).sound sound
    obtain ⟨world⟩ := finishes.world
    rcases finishes.requests with gone | requests
    · simp [gone] at standing
    · obtain ⟨after, again⟩ := polled_again world _ soundAfter requests standing live stuck
      exact again (rests after)
  · intro other after
    refine run_rests _ after ?_
    rintro ⟨e, standing, rfl, live, here, _⟩
    have remains := finishes.remains e standing rfl
    unfold RunningEvent.Remains at remains
    split at remains
    next both => exact other ⟨both.1, both.2, e, standing, rfl, live⟩
    next => omega

def uncleanable (policy : FailurePolicy) : Engine Unit Scripted :=
  ((Scripted.engine { Scripted.idle with cleanup := ⟨[], .error ⟨"stuck", []⟩⟩ } policy).run
    [.loadScope (Scripted.scope [Scripted.event ⟨1⟩])]).1

theorem done_is_final_dropped :
    let updated := (uncleanable .dropEvent).perform (.update () .zero)
    let started : Call := ⟨some ⟨1⟩, 0, "act", .start, .finished, false⟩
    let call : Call := ⟨some ⟨1⟩, 0, "act", .update, .finished, false⟩
    let failed : Call := ⟨some ⟨1⟩, 0, "act", .cleanup, .failed, false⟩
    calls updated.journal = [started] ++ call :: [failed] ∧
      ∃ reply moved rest, [failed] = call.cleanup reply moved :: rest ∧
        (∀ other ∈ rest, other.At ⟨1⟩ call.slot → other.hook = .cancel) ∧
        ((∀ after : List (Operation Unit Scripted),
            Rests ⟨1⟩ call.slot (calls (updated.engine.run after).2)) ↔
          ¬ (reply = .failed ∧ (uncleanable .dropEvent).settings.failurePolicy = .abort ∧
            ∃ e ∈ updated.engine.running, e.id = ⟨1⟩ ∧ e.cancelled = false)) := by
  intro updated started call failed
  have split : calls updated.journal = [started] ++ call :: [failed] := rfl
  exact ⟨split, done_is_final _ _ _ _ _ rfl split rfl rfl rfl⟩

-- Under the strict policy the next frame updates the action once more.
theorem failed_cleanup_is_polled_again :
    let updated := (uncleanable .abort).perform (.update () .zero)
    calls updated.journal =
        [⟨some ⟨1⟩, 0, "act", .start, .finished, false⟩,
          ⟨some ⟨1⟩, 0, "act", .update, .finished, false⟩,
          ⟨some ⟨1⟩, 0, "act", .cleanup, .failed, false⟩] ∧
      ¬ Rests ⟨1⟩ 0 (calls (updated.engine.run [.update () .zero]).2) := by
  refine ⟨rfl, ?_⟩
  rintro ⟨still, _⟩
  exact still ⟨⟨rfl, rfl⟩, .inl rfl⟩

end Engine

end MapScript
