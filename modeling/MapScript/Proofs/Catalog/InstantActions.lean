import MapScript.Proofs.Catalog.ScopeReset

set_option autoImplicit false

namespace MapScript

open Number

variable {W A : Type}

def Builtin.instant : Builtin → Bool
  | .wait _ _ => false
  | _ => true

section Hooks

variable [VariableStore W] [ActionHandler W A] {embed : Builtin → A} {b : Builtin}
variable {moment : Moment} {scene : Scene W} {world : W} {locals : Dictionary Value}
variable {result : Except Failure Unit}

theorem quiet_start (embeds : Builtin.Embeds W embed)
    (begun : b.start moment scene = ⟨b, world, locals, [], result⟩) (name : String) (slot : Nat) :
    let called := callHook name .start .start slot moment ActionHandler.start (embed b) scene
    called.action = embed b ∧ called.result = result.mapError (.handler name .start moment.event) ∧
      called.scene = ⟨world, locals, scene.state⟩ := by
  simp only [callHook, embeds.start, begun]
  exact ⟨rfl, rfl, rfl⟩

theorem instant_update (embeds : Builtin.Embeds W embed) (instant : b.instant = true)
    (name : String) (slot : Nat) (moment : Moment) (scene : Scene W) :
    let called := callHook name .update .update slot moment ActionHandler.update (embed b) scene
    called.action = embed b ∧ called.result = .ok .done ∧ called.scene = scene := by
  have done : b.update moment scene = b.idle scene .done := by
    cases b with
    | wait => cases instant
    | _ => rfl
  simp only [callHook, embeds.update, done]
  exact ⟨rfl, rfl, rfl⟩

theorem builtin_cleanup (embeds : Builtin.Embeds W embed) (b : Builtin) (name : String)
    (slot : Nat) (moment : Moment) (scene : Scene W) :
    let called := callHook name .cleanup .cleanup slot moment ActionHandler.cleanup (embed b) scene
    called.action = embed b ∧ called.result = .ok () ∧ called.scene = scene := by
  simp only [callHook, embeds.cleanup]
  exact ⟨rfl, rfl, rfl⟩

end Hooks

section Runs

variable [VariableStore W] [ActionHandler W A] {embed : Builtin → A} {b : Builtin}
variable {scene : Scene W} {world : W} {locals : Dictionary Value} {step : Seconds}

theorem proceed_done (embeds : Builtin.Embeds W embed) (polls : Nat) (name : String)
    (step : Seconds) (b : Builtin) (scene : Scene W) (backlog : List Notice) :
    let shot := OneShot.proceed name step scene.state.token polls true ⟨embed b, scene, backlog⟩
    shot.2 = .finished ∧ shot.1.scene = scene := by
  obtain ⟨_, cleaned, left⟩ := builtin_cleanup embeds b name 0 ⟨none, step⟩ scene
  unfold OneShot.proceed
  simp only [ne_eq, not_true_eq_false, if_false, if_true, OneShot.cleanUp, cleaned, OneShot.after,
    left, and_self]

theorem instant_proceed (embeds : Builtin.Embeds W embed) (instant : b.instant = true) (polls : Nat)
    (name : String) (done : Bool) (step : Seconds) (scene : Scene W) (backlog : List Notice) :
    let shot := OneShot.proceed name step scene.state.token (polls + 1) done
      ⟨embed b, scene, backlog⟩
    shot.2 = .finished ∧ shot.1.scene = scene := by
  cases done with
  | true => exact proceed_done embeds (polls + 1) name step _ scene backlog
  | false =>
    obtain ⟨same, ready, left⟩ := instant_update embeds instant name 0 ⟨none, step⟩ scene
    unfold OneShot.proceed
    simp only [ne_eq, not_true_eq_false, if_false, Bool.false_eq_true, ready, OneShot.after, same,
      left, decide_true]
    exact proceed_done embeds polls name step _ scene _

theorem instant_shot (embeds : Builtin.Embeds W embed) (instant : b.instant = true)
    (begun : b.start ⟨none, step⟩ scene = ⟨b, world, locals, [], .ok ()⟩) (polls : Nat)
    (name : String) (skip : Bool) :
    let shot := OneShot.run (polls + 1) name skip step (embed b) scene
    shot.2 = .finished ∧ shot.1.scene = ⟨world, locals, scene.state⟩ := by
  obtain ⟨same, ready, left⟩ := quiet_start embeds begun name 0
  simp only [OneShot.run, ready, Except.mapError, same, left]
  exact instant_proceed embeds instant polls name skip step ⟨world, locals, scene.state⟩ _

theorem refused_shot {cause : Failure} (embeds : Builtin.Embeds W embed)
    (refused : b.start ⟨none, step⟩ scene = ⟨b, world, locals, [], .error cause⟩) (polls : Nat)
    (name : String) (skip : Bool) :
    let shot := OneShot.run polls name skip step (embed b) scene
    shot.2 = .failed (.handler name .start none cause) ∧
      shot.1.scene = ⟨world, locals, scene.state⟩ := by
  obtain ⟨_, failed, left⟩ := quiet_start embeds refused name 0
  simp only [OneShot.run, failed, Except.mapError, left, and_self]

theorem instant_poll (embeds : Builtin.Embeds W embed) (instant : b.instant = true) (dt : Seconds)
    (slot : Action) (d : Drive W A) :
    let visited := poll dt d.state.token slot ⟨embed b, .running⟩ d
    visited.step = .next ∧ visited.drive = d.advanced := by
  obtain ⟨same, done, left⟩ := instant_update embeds instant slot.kind d.event.cursor
    ⟨some d.event.id, dt⟩ d.scene
  have polled : d.polled dt slot ⟨embed b, .running⟩ =
      { d with event := { d.event with current := some ⟨embed b, .running⟩ } } := by
    simp only [Drive.polled, Drive.after, Drive.updateHook, same, left]
    rfl
  have closing : d.closing dt slot ⟨embed b, .running⟩ =
      callHook slot.kind .cleanup .cleanup d.event.cursor ⟨some d.event.id, dt⟩
        ActionHandler.cleanup (embed b) d.scene := by
    simp only [Drive.closing, Drive.cleanupHook, Drive.updateHook, polled, same]
    rfl
  obtain ⟨_, cleaned, last⟩ := builtin_cleanup embeds b slot.kind d.event.cursor
    ⟨some d.event.id, dt⟩ d.scene
  rw [← closing] at cleaned last
  have closed : (d.closed dt slot ⟨embed b, .running⟩).state = d.state ∧
      (d.closed dt slot ⟨embed b, .running⟩).advanced = d.advanced := by
    simp only [Drive.closed, polled, Drive.after, last]
    exact ⟨rfl, rfl⟩
  have cleanup_eq : cleanUp dt d.state.token slot (d.updateHook dt slot (embed b)).action
      (d.polled dt slot ⟨embed b, .running⟩) = _ :=
    cleanUp_eq dt d.state.token ⟨embed b, .running⟩
  have done : (d.updateHook dt slot (embed b)).result = .ok .done := done
  simp only [poll_eq, done, cleanup_eq, cleaned, closed, if_true, Stepped.after, and_self]

theorem instant_slot (embeds : Builtin.Embeds W embed) (instant : b.instant = true)
    {factories : Dictionary (ActionFactory A)} {dt : Seconds} {slot : Action} {d : Drive W A}
    {notices : Journal} (idle : d.event.current = none)
    (created : d.create factories slot = (.ok (embed b), notices))
    (begun : b.start ⟨some d.event.id, dt⟩ d.scene = ⟨b, world, locals, [], .ok ()⟩) :
    let visited := visitSlot factories dt d.state.token slot d
    visited.step = .next ∧
      visited.drive = ⟨{ d.event with context := locals }.advance, world, d.state⟩ := by
  obtain ⟨same, ready, left⟩ := quiet_start embeds begun slot.kind d.event.cursor
  -- The drive between the hooks, with the action in flight.
  let flying : Drive W A :=
    ⟨{ d.event with current := some ⟨embed b, .running⟩, context := locals }, world, d.state⟩
  have started : d.started dt slot (embed b) = flying := by
    simp only [Drive.started, Drive.after, Drive.startHook, same, left]
    rfl
  have token : flying.state.token = d.state.token := rfl
  obtain ⟨passed, ended⟩ := instant_poll embeds instant dt slot flying
  have ready : (d.startHook dt slot (embed b)).result = .ok () := ready
  have same : (d.startHook dt slot (embed b)).action = embed b := same
  simp only [visitSlot, idle, enter_eq, created, ready, started, same, token, if_true,
    Stepped.after]
  exact ⟨passed, ended⟩

end Runs

end MapScript
