import MapScript.Proofs.Engine.Heeding
import MapScript.Proofs.Engine.InitPool
import MapScript.Proofs.Engine.Scripted
import MapScript.Proofs.Engine.Tokens

set_option autoImplicit false

namespace MapScript

open Number Journal

variable {W A : Type}

namespace Engine

variable [ActionHandler W A] {engine : Engine W A}

/-- What was run on its own has driven no running event and started none; they stay as they are, but
for the cancellations asked for before and in the run, or they all go with their scope. -/
structure StaysOutside (engine : Engine W A) (executed : Executed W A) : Prop where
  engine_eq : executed.engine =
    { engine with state := executed.engine.state, running := executed.engine.running }
  calls_eq : ∃ own cancels, calls executed.journal = own ++ cancels ∧
    (∀ call ∈ own, call.owner = none) ∧ OnlyCancels cancels
  running_eq : executed.engine.state.token = engine.state.token →
    executed.engine.running =
      engine.running.map (RunningEvent.heed W (pending engine.state.requests executed.journal))
  halted : executed.engine.state.token = engine.state.token →
    List.Forall₂ Halted engine.running executed.engine.running
  abandoned : executed.engine.state.token ≠ engine.state.token → executed.engine.running = []
  ids_sublist : (ids executed.engine.running).Sublist (ids engine.running)
  scope_eq : executed.engine.state.token = engine.state.token →
    executed.engine.state.scope = engine.state.scope ∨ UInt64.size ≤ changes executed.journal

section Executions

variable (engine) (polls : Nat) (world : W) (name : String) (parameters : List String) (skip : Bool)
  (step : Seconds)

theorem execute_token :
    (engine.execute polls world name parameters skip step).engine.state.token =
      engine.state.token.after
        (changes (engine.execute polls world name parameters skip step).journal) := by
  have quiet := createAction_quiet engine.actions none 0 name parameters
  rcases execute_cases polls engine world name parameters skip step with
    ⟨cause, notices, creation, ended⟩ |
    ⟨action, notices, shot, ending, kept, creation, ran, _, ended⟩
  · rw [creation] at quiet
    rw [ended, changes_of_quiet quiet, ScopeToken.after_zero]
  · have hands := OneShot.run_hands name step polls skip action
      ⟨world, Dictionary.empty, engine.state⟩
    have cancelled := (applyRequests_cancels (W := W) shot.scene.state.requests kept).quiet
    rw [creation] at quiet
    rw [ran] at hands
    rw [ended]
    simpa [changes_of_quiet quiet, changes_of_quiet cancelled,
      changes_of_quiet (ending.notices_quiet name)] using hands.token_eq

theorem execute_scope
    (kept : (engine.execute polls world name parameters skip step).engine.state.token =
      engine.state.token) :
    (engine.execute polls world name parameters skip step).engine.state.scope =
        engine.state.scope ∨
      UInt64.size ≤ changes (engine.execute polls world name parameters skip step).journal := by
  have accounts := execute_accounts engine polls world name parameters skip step
  have undeclared := (execute_undeclared engine polls world name parameters skip step).1
  rw [execute_token] at kept
  refine (ScopeToken.eq_zero_or_le_of_after_eq kept).imp_left fun none => ?_
  rw [accounts.steady (not_resets_of_changes none), starts_of_undeclared undeclared]
  simp

theorem execute_running (distinct : (ids engine.running).Nodup) {action : A} {notices : Journal}
    (created : createAction engine.actions none 0 name parameters = (.ok action, notices)) :
    (engine.execute polls world name parameters skip step).engine.running =
      (if (engine.execute polls world name parameters skip step).engine.state.token =
          engine.state.token then engine.running else []).map
        (RunningEvent.heed W (pending engine.state.requests
          (engine.execute polls world name parameters skip step).journal)) := by
  have quiet := createAction_quiet engine.actions none 0 name parameters
  rcases execute_cases polls engine world name parameters skip step with
    ⟨cause, _, creation, _⟩ | ⟨action, notices, shot, ending, kept, creation, ran, keeps, ended⟩
  · simp [created] at creation
  · -- What is applied in the end is what is pending then; a reset on the way has emptied the list.
    have noted := OneShot.run_noted name step polls skip action
      ⟨world, Dictionary.empty, engine.state⟩
    have cancelled := (applyRequests_cancels (W := W) shot.scene.state.requests kept).quiet
    rw [creation] at quiet
    rw [ran] at noted
    have asked : pending engine.state.requests
        (engine.execute polls world name parameters skip step).journal =
          shot.scene.state.requests := by
      rw [ended]
      simp [quiet_pending _ quiet, ← noted.requests_eq, quiet_pending _ cancelled,
        quiet_pending _ (ending.notices_quiet name)]
    have alone : (ids kept).Nodup := by
      rw [← keeps]
      split
      next => exact distinct
      next => exact List.nodup_nil
    rw [asked, ended, ← applyRequests_heed (keeps ▸ alone)]
    exact congrArg (fun kept => (applyRequests W shot.scene.state.requests kept).1) keeps.symm

theorem execute_outside (sound : Sound engine.running) {action : A} {notices : Journal}
    (created : createAction engine.actions none 0 name parameters = (.ok action, notices)) :
    engine.StaysOutside (engine.execute polls world name parameters skip step) := by
  obtain ⟨own, cancels, kept, calls_eq, foreign, _, sublist, halted, hooks⟩ :=
    execute_calls polls engine world name parameters skip step
  have running_eq := execute_running engine polls world name parameters skip step sound.distinct
    created
  refine ⟨?_, ⟨own, cancels, calls_eq, foreign, hooks⟩, fun kept => ?_, fun kept => ?_,
    fun away => ?_, ?_, execute_scope engine polls world name parameters skip step⟩
  · rcases execute_cases polls engine world name parameters skip step with
      ⟨_, _, _, ended⟩ | ⟨_, _, _, _, _, _, _, _, ended⟩ <;> rw [ended]
  · rw [running_eq, if_pos kept]
  · rw [running_eq, if_pos kept]
    exact halted_heed _ engine.running
  · rw [running_eq, if_neg away]
    rfl
  · rw [ids_halted halted]
    exact sublist.map _

end Executions

theorem execution_stays_outside (actions : Dictionary (ActionFactory A))
    (conditions : Dictionary (ConditionTest W)) (settings : Settings)
    (before : List (Operation W A)) {engine : Engine W A} {since : Journal}
    (reached : (new actions conditions settings).run before = (engine, since)) (polls : Nat)
    (world : W) (name : String) (parameters : List String) (skip : Bool) (step : Seconds) :
    (engine.actions.find? name = none →
      engine.execute polls world name parameters skip step =
        ⟨engine, world, [.actionMissing name], .failed (.unregisteredAction name)⟩) ∧
    ∀ factory, engine.actions.find? name = some factory →
      (∀ cause, factory (Arguments.ofParameters parameters) = .error cause →
        engine.execute polls world name parameters skip step =
          ⟨engine, world, [.argumentsRefused name parameters cause],
            .failed (.malformedArguments name cause)⟩) ∧
      ∀ action, factory (Arguments.ofParameters parameters) = .ok action →
        engine.StaysOutside (engine.execute polls world name parameters skip step) := by
  refine ⟨fun unknown => ?_, fun factory known => ⟨fun cause refused => ?_, fun action built => ?_⟩⟩
  · simp [execute, createAction, unknown]
  · simp [execute, createAction, known, refused]
  · have created : createAction engine.actions none 0 name parameters =
        (.ok action, [.actionCreated none 0 name]) := by
      simp [createAction, known, built]
    exact execute_outside engine polls world name parameters skip step (reached_sound reached)
      created

def bystanders : Engine Unit Scripted × Journal :=
  (Scripted.engine { Scripted.idle with update := ⟨[], .ok .running⟩ } .abort).run
    [.registerAction "stop" fun _ =>
        .ok { Scripted.idle with cleanup := ⟨[.cancelEvent ⟨1⟩], .error ⟨"", []⟩⟩ },
      .loadScope (Scripted.scope [Scripted.event ⟨1⟩, Scripted.event ⟨2⟩]), .update () .zero]

theorem execution_stays_outside_bystanders :
    let executed := bystanders.1.execute 1 () "stop" [] false .zero
    bystanders.1.StaysOutside executed ∧
      executed.ending = .failed (.handler "stop" .cleanup none ⟨"", []⟩) ∧
      bystanders.1.running.map (fun e => (e.id, e.cancelled)) = [(⟨1⟩, false), (⟨2⟩, false)] ∧
      executed.engine.running.map (fun e => (e.id, e.cancelled)) =
        [(⟨1⟩, true), (⟨2⟩, false)] := by
  intro executed
  obtain ⟨_, known⟩ := execution_stays_outside _ _ _ _ (rfl : _ = (bystanders.1, bystanders.2)) 1 ()
    "stop" [] false .zero
  exact ⟨(known _ rfl).2 _ rfl, by decide, by decide, by decide⟩

end Engine

end MapScript
