import MapScript.Proofs.Engine.Executing
import MapScript.Proofs.Engine.Walking

set_option autoImplicit false

namespace MapScript

open Number Journal

@[simp] def Notice.quiet : Notice → Bool
  | .scopeReset _ _ | .scopeLoaded _ _ _ _ | .cancelRequested _ | .cancelAllRequested => false
  | .conditionMissing _ | .conditionTested _ _ _ | .conditionFailed _ _ _ => false
  | .eventStarted _ _ _ | .initRetired _ => false
  | .called call => call.hook = .cancel
  | _ => true

inductive Acts (W A : Type) [ActionHandler W A] : ScopeState → Journal → ScopeState → Prop
  | start (kind : String) (slot : Nat) (moment : Moment) (action : A) (scene : Scene W) :
      Acts W A scene.state
        (callHook kind .start .start slot moment ActionHandler.start action scene).journal
        (callHook kind .start .start slot moment ActionHandler.start action scene).scene.state
  | update (kind : String) (slot : Nat) (moment : Moment) (action : A) (scene : Scene W) :
      Acts W A scene.state
        (callHook kind .update .update slot moment ActionHandler.update action scene).journal
        (callHook kind .update .update slot moment ActionHandler.update action scene).scene.state
  | cleanup (kind : String) (slot : Nat) (moment : Moment) (action : A) (scene : Scene W) :
      Acts W A scene.state
        (callHook kind .cleanup .cleanup slot moment ActionHandler.cleanup action scene).journal
        (callHook kind .cleanup .cleanup slot moment ActionHandler.cleanup action scene).scene.state

/-- Hooks one after the other: each finds the scope state as the one before it has left it. -/
inductive Hands (W A : Type) [ActionHandler W A] : ScopeState → Journal → ScopeState → Prop
  | still (s : ScopeState) {notices : Journal} (quiet : notices.Only Notice.quiet) :
      Hands W A s notices s
  | acts {s s' : ScopeState} {journal : Journal} (acts : Acts W A s journal s') :
      Hands W A s journal s'
  | trans {s m s' : ScopeState} {journal later : Journal} (first : Hands W A s journal m)
      (second : Hands W A m later s') : Hands W A s (journal ++ later) s'

variable {W A : Type}

theorem createAction_quiet (factories : Dictionary (ActionFactory A)) (owner : Option EventId)
    (slot : Nat) (name : String) (parameters : List String) :
    Only Notice.quiet (createAction factories owner slot name parameters).2 := by
  unfold createAction
  split
  next => simp
  next => split <;> simp

variable [ActionHandler W A]

section Walks

variable {factories : Dictionary (ActionFactory A)} {dt : Seconds} {token : ScopeToken}
  {d d' : Drive W A} {slot : Action} {journal : Journal} {result : Except EngineError Drain}

omit [ActionHandler W A] in
theorem create_quiet {created : Except EngineError A}
    (eq : d.create factories slot = (created, journal)) : journal.Only Notice.quiet := by
  have quiet := createAction_quiet factories (some d.event.id) d.event.cursor slot.kind
    slot.parameters
  unfold Drive.create at eq
  rwa [eq] at quiet

theorem startHook_hands (action : A) : Hands W A d.state (d.startHook dt slot action).journal
    (d.startHook dt slot action).scene.state :=
  .acts (.start slot.kind d.event.cursor ⟨some d.event.id, dt⟩ action d.scene)

theorem updateHook_hands (action : A) : Hands W A d.state (d.updateHook dt slot action).journal
    (d.updateHook dt slot action).scene.state :=
  .acts (.update slot.kind d.event.cursor ⟨some d.event.id, dt⟩ action d.scene)

theorem closing_hands (current : InFlight A) :
    Hands W A d.state
      ((d.updateHook dt slot current.action).journal ++ (d.closing dt slot current).journal)
      (d.closing dt slot current).scene.state :=
  .trans (updateHook_hands current.action)
    (.acts (.cleanup slot.kind d.event.cursor ⟨some d.event.id, dt⟩ _
      (d.polled dt slot current).scene))

theorem Walk.hands (walk : Walk factories dt token d journal d' result) :
    Hands W A d.state journal d'.state := by
  induction walk with
  | complete => exact .still _ (by simp)
  | refused _ _ created => exact .still _ (create_quiet created)
  | startFailed _ _ created => exact .trans (.still _ (create_quiet created)) (startHook_hands _)
  | startedAway _ _ created =>
    exact .trans (.trans (.still _ (create_quiet created)) (startHook_hands _))
      (.still _ (by simp))
  | started _ _ created _ _ _ ih =>
    exact .trans (.trans (.trans (.still _ (create_quiet created)) (startHook_hands _))
      (.still _ (by simp))) ih
  | skipped _ _ _ ih => exact .trans (.still _ (by simp)) ih
  | updateFailed | held => exact updateHook_hands _
  | cleanupFailed => exact closing_hands _
  | finishedAway => exact .trans (closing_hands _) (.still _ (by simp))
  | finished _ _ _ _ _ _ _ ih =>
    exact .trans (.trans (closing_hands _) (.still _ (by simp))) ih

end Walks

theorem OneShot.run_hands (name : String) (step : Seconds) (polls : Nat) (skip : Bool) (action : A)
    (scene : Scene W) :
    Hands W A scene.state (run polls name skip step action scene).1.journal
      (run polls name skip step action scene).1.scene.state := by
  refine run_along (P := fun s => Hands W A scene.state s.journal s.scene.state) name step
    (fun s hands => ?_) (fun s hands => ?_) (fun s hands => ?_) polls skip action scene ?_
  · rw [after_journal]
    exact .trans hands (.acts (.update name 0 ⟨none, step⟩ s.action s.scene))
  · rw [after_journal]
    exact .trans hands (.acts (.cleanup name 0 ⟨none, step⟩ s.action s.scene))
  · rw [stop_journal]
    exact .trans hands (.still _ (by simp))
  · rw [journal, List.reverse_reverse]
    exact .acts (.start name 0 ⟨none, step⟩ action scene)

end MapScript
