import MapScript.Proofs.Engine.Executing
import MapScript.Proofs.Engine.Operation
import MapScript.Proofs.Engine.Passing

set_option autoImplicit false

namespace MapScript

open Number Journal

@[simp] def Notice.drives : Notice → Bool
  | .said _ | .scopeReset _ _ | .scopeLoaded _ _ _ _ | .cancelRequested _ => true
  | .cancelAllRequested | .actionCreated _ _ _ | .actionMissing _ => true
  | .argumentsRefused _ _ _ | .called _ | .actionStarted _ _ | .actionSkipped _ _ => true
  | .actionFinished _ _ | .eventFinished _ | .oneShotAbandoned _ => true
  | _ => false

@[simp] def Notice.effects : Notice → Bool
  | .said _ | .scopeReset _ _ | .scopeLoaded _ _ _ _ => true
  | .cancelRequested _ | .cancelAllRequested => true
  | _ => false

@[simp] def Notice.alone : Notice → Bool
  | .called call => call.owner = none
  | .actionCreated _ _ _ | .actionMissing _ | .argumentsRefused _ _ _ => true
  | .oneShotAbandoned _ | .oneShotFailed _ _ => true
  | notice => notice.effects

@[simp] def Notice.cancels : Notice → Bool
  | .said _ | .called _ | .cancelIgnored _ | .eventCancelled _ _ _ | .actionCancelled _ _ => true
  | _ => false

@[simp] def Notice.idles : Notice → Bool
  | .scopeReset _ _ | .scopeLoaded _ _ _ _ | .actionRegistered _ | .conditionRegistered _ => true
  | notice => notice.admits || notice.cancels

@[simp] def Notice.undeclared : Notice → Bool
  | .conditionMissing _ | .conditionTested _ _ _ | .conditionFailed _ _ _ => false
  | .eventStarted _ _ _ | .initRetired _ => false
  | _ => true

@[simp] def Notice.steady : Notice → Bool
  | .scopeAbandoned _ => false
  | _ => true

theorem Notice.idles_of_admits (notice : Notice) (admits : notice.admits = true) :
    notice.idles = true := by
  cases notice <;> first | rfl | cases admits

theorem Notice.idles_of_cancels (notice : Notice) (cancels : notice.cancels = true) :
    notice.idles = true := by
  cases notice <;> first | rfl | cases cancels

theorem Notice.drives_of_effects (notice : Notice) (effects : notice.effects = true) :
    notice.drives = true := by
  cases notice <;> first | rfl | cases effects

theorem Notice.alone_of_effects (notice : Notice) (effects : notice.effects = true) :
    notice.alone = true := by
  cases notice <;> first | rfl | cases effects

theorem Notice.undeclared_of_alone (notice : Notice) (alone : notice.alone = true) :
    notice.undeclared = true := by
  cases notice <;> first | rfl | cases alone

theorem Notice.steady_of_alone (notice : Notice) (alone : notice.alone = true) :
    notice.steady = true := by
  cases notice <;> first | rfl | cases alone

theorem Notice.undeclared_of_drives (notice : Notice) (drives : notice.drives = true) :
    notice.undeclared = true := by
  cases notice <;> first | rfl | cases drives

theorem Notice.undeclared_of_cancels (notice : Notice) (cancels : notice.cancels = true) :
    notice.undeclared = true := by
  cases notice <;> first | rfl | cases cancels

theorem Notice.steady_of_drives (notice : Notice) (drives : notice.drives = true) :
    notice.steady = true := by
  cases notice <;> first | rfl | cases drives

theorem Notice.steady_of_cancels (notice : Notice) (cancels : notice.cancels = true) :
    notice.steady = true := by
  cases notice <;> first | rfl | cases cancels

theorem Notice.steady_of_admits (notice : Notice) (admits : notice.admits = true) :
    notice.steady = true := by
  cases notice <;> first | rfl | cases admits

variable {W A : Type}

theorem ScopeState.apply_effects (s : ScopeState) (effect : Effect) :
    (s.apply effect).2.Only Notice.effects := by
  cases effect <;> simp [apply, load, reset]

theorem ScopeState.applyAll_effects (s : ScopeState) (effects : List Effect) :
    (s.applyAll effects).2.Only Notice.effects := by
  induction effects generalizing s with
  | nil => exact only_nil
  | cons effect rest ih => exact (only_append _ _).mpr ⟨s.apply_effects effect, ih _⟩

theorem callHook_drives {B : Type} [Replies B] (kind : String) (phase : Phase) (hook : Hook)
    (slot : Nat) (moment : Moment) (hookOf : A → Moment → Scene W → Outcome W A B) (action : A)
    (scene : Scene W) :
    (callHook kind phase hook slot moment hookOf action scene).journal.Only Notice.drives := by
  have effects := scene.state.applyAll_effects (hookOf action moment scene).effects
  exact (only_append _ _).mpr ⟨effects.mono Notice.drives_of_effects, by simp⟩

theorem callHook_alone {B : Type} [Replies B] (kind : String) (phase : Phase) (hook : Hook)
    (slot : Nat) (step : Seconds) (hookOf : A → Moment → Scene W → Outcome W A B) (action : A)
    (scene : Scene W) :
    (callHook kind phase hook slot ⟨none, step⟩ hookOf action scene).journal.Only
      Notice.alone := by
  have effects := scene.state.applyAll_effects (hookOf action ⟨none, step⟩ scene).effects
  exact (only_append _ _).mpr ⟨effects.mono Notice.alone_of_effects, by simp⟩

theorem createAction_alone (factories : Dictionary (ActionFactory A)) (owner : Option EventId)
    (slot : Nat) (name : String) (parameters : List String) :
    Only Notice.alone (createAction factories owner slot name parameters).2 := by
  unfold createAction
  split
  next => simp
  next => split <;> simp

theorem createAction_drives (factories : Dictionary (ActionFactory A)) (owner : Option EventId)
    (slot : Nat) (name : String) (parameters : List String) :
    Only Notice.drives (createAction factories owner slot name parameters).2 := by
  unfold createAction
  split
  next => simp
  next => split <;> simp

theorem Stops.cancels {e e' : RunningEvent A} {journal : Journal} (stops : Stops e journal e') :
    journal.Only Notice.cancels := by
  cases stops <;> simp

theorem Cancels.cancels {running running' : List (RunningEvent A)} {journal : Journal}
    (cancels : Cancels running journal running') : journal.Only Notice.cancels := by
  induction cancels with
  | none | ignored => simp
  | event one _ ih => exact (only_append _ _).mpr ⟨one.cancels, ih⟩
  | trans _ _ first second => exact (only_append _ _).mpr ⟨first, second⟩

theorem Ending.notices_alone (name : String) (ending : Ending) :
    (ending.notices name).Only Notice.alone := by
  cases ending <;> simp [notices]

section Hooks

variable [ActionHandler W A] {factories : Dictionary (ActionFactory A)} {dt : Seconds}
  {token : ScopeToken} {d d' : Drive W A} {slot : Action} {journal : Journal}
  {result : Except EngineError Drain}

omit [ActionHandler W A] in
theorem create_drives {created : Except EngineError A}
    (eq : d.create factories slot = (created, journal)) : journal.Only Notice.drives := by
  have known := createAction_drives factories (some d.event.id) d.event.cursor slot.kind
    slot.parameters
  unfold Drive.create at eq
  rwa [eq] at known

theorem Walk.drives (walk : Walk factories dt token d journal d' result) :
    journal.Only Notice.drives := by
  have start {d : Drive W A} (slot : Action) (action : A) :
      (d.startHook dt slot action).journal.Only Notice.drives := callHook_drives _ _ _ _ _ _ _ _
  have update {d : Drive W A} (slot : Action) (action : A) :
      (d.updateHook dt slot action).journal.Only Notice.drives := callHook_drives _ _ _ _ _ _ _ _
  have cleanup {d : Drive W A} (slot : Action) (current : InFlight A) :
      (d.closing dt slot current).journal.Only Notice.drives := callHook_drives _ _ _ _ _ _ _ _
  induction walk with
  | complete => simp
  | refused _ _ created => exact create_drives created
  | startFailed _ _ created => simp [create_drives created, start]
  | startedAway _ _ created => simp [create_drives created, start]
  | started _ _ created _ _ _ ih => simp [create_drives created, start, ih]
  | skipped _ _ _ ih => simp [ih]
  | updateFailed | held => exact update _ _
  | cleanupFailed | finishedAway => simp [update, cleanup]
  | finished _ _ _ _ _ _ _ ih => simp [update, cleanup, ih]

theorem OneShot.run_alone (name : String) (step : Seconds) (polls : Nat) (skip : Bool) (action : A)
    (scene : Scene W) : (run polls name skip step action scene).1.journal.Only Notice.alone := by
  refine run_along (P := fun s => s.journal.Only Notice.alone) name step (fun s alone => ?_)
    (fun s alone => ?_) (fun s alone => ?_) polls skip action scene ?_
  · simp [alone, callHook_alone]
  · simp [alone, callHook_alone]
  · simp [stop_journal, alone]
  · simp [journal, callHook_alone]

end Hooks

section Pass

variable [ActionHandler W A] {factories : Dictionary (ActionFactory A)} {policy : FailurePolicy}
  {dt : Seconds} {token : ScopeToken} {index : Nat} {s s' : Sweep W A} {journal : Journal}
  {result : Except EngineError Unit} {event : RunningEvent A} {drained : Drained W A}

theorem Sweep.Drives.walk (drives : s.Drives factories dt token index event drained) :
    Walk factories dt token ⟨event, s.world, s.state⟩ drained.journal drained.drive
      drained.result := by
  rw [← drives.drain_eq, ← drives.fresh]
  exact drain_walk factories dt ⟨event, s.world, s.state⟩

theorem Sweep.applyPending_cancels (s : Sweep W A) : s.applyPending.2.Only Notice.cancels :=
  (applyRequests_cancels s.state.requests s.running).cancels

theorem Sweep.close_cancels (token : ScopeToken) (s : Sweep W A) :
    (s.close token).2.Only Notice.cancels := by
  unfold close
  split
  next => exact s.applyPending_cancels
  next => exact only_nil

theorem Settles.undeclared {policy : FailurePolicy} {id : EventId} {ended : Bool}
    {result : Except EngineError Drain} {notices : Journal}
    (settles : Settles policy id result ended notices) :
    notices.Only Notice.undeclared ∧ notices.Only Notice.steady := by
  cases settles <;> simp

theorem Abandons.undeclared {policy : FailurePolicy} {id : EventId} {ended : Bool}
    {result : Except EngineError Drain} {notices : Journal}
    (abandons : Abandons policy id result ended notices) : notices.Only Notice.undeclared := by
  cases abandons with
  | scopeChanged => simp
  | settles settles => exact settles.undeclared.1

theorem Pass.undeclared (pass : Pass factories policy dt token index s journal s' result) :
    journal.Only Notice.undeclared := by
  have drain {index : Nat} {s : Sweep W A} {event : RunningEvent A} {drained : Drained W A}
      (drives : s.Drives factories dt token index event drained) :
      drained.journal.Only Notice.undeclared :=
    drives.walk.drives.mono Notice.undeclared_of_drives
  induction pass with
  | closed => exact (Sweep.applyPending_cancels _).mono Notice.undeclared_of_cancels
  | removed _ _ _ ih => simp [ih]
  | passed drives settles _ _ ih =>
    simp [drain drives, settles.undeclared.1, ih,
      (Sweep.applyPending_cancels _).mono Notice.undeclared_of_cancels]
  | abandoned drives abandons _ => simp [drain drives, abandons.undeclared]
  | aborted drives =>
    simp [drain drives, (Sweep.close_cancels token _).mono Notice.undeclared_of_cancels]

theorem Pass.steady (pass : Pass factories policy dt token index s journal s' result)
    (same : s'.state.token = token) : journal.Only Notice.steady := by
  have drain {index : Nat} {s : Sweep W A} {event : RunningEvent A} {drained : Drained W A}
      (drives : s.Drives factories dt token index event drained) :
      drained.journal.Only Notice.steady :=
    drives.walk.drives.mono Notice.steady_of_drives
  induction pass with
  | closed => exact (Sweep.applyPending_cancels _).mono Notice.steady_of_cancels
  | removed _ _ _ ih => simp [ih same]
  | passed drives settles _ _ ih =>
    simp [drain drives, settles.undeclared.2, ih same,
      (Sweep.applyPending_cancels _).mono Notice.steady_of_cancels]
  | @abandoned index s event drained ended notices drives abandons away =>
    rw [Sweep.abandon, Sweep.afterVisit_state] at same
    exact absurd same away
  | aborted drives =>
    simp [drain drives, (Sweep.close_cancels token _).mono Notice.steady_of_cancels]

end Pass

structure Parted (token token' : ScopeToken) (journal : Journal) : Prop where
  halves : ∃ tested hooks, journal = tested ++ hooks ∧ tested.Only Notice.admits ∧
    hooks.Only Notice.undeclared
  steady : token' = token → journal.Only Notice.steady

namespace Parted

variable {token token' : ScopeToken} {journal : Journal}

theorem tests (admits : journal.Only Notice.admits) : Parted token token' journal where
  halves := ⟨journal, [], by simp, admits, only_nil⟩
  steady _ := admits.mono Notice.steady_of_admits

theorem hooks (undeclared : journal.Only Notice.undeclared) (steady : journal.Only Notice.steady) :
    Parted token token' journal where
  halves := ⟨[], journal, rfl, only_nil, undeclared⟩
  steady _ := steady

theorem cancels {running running' : List (RunningEvent A)}
    (cancels : Cancels running journal running') : Parted token token' journal :=
  hooks (cancels.cancels.mono Notice.undeclared_of_cancels)
    (cancels.cancels.mono Notice.steady_of_cancels)

theorem behind {earlier later : Journal} {notice : Notice} (parted : Parted token token' journal)
    (split : journal = earlier ++ notice :: later) (other : notice.admits = false) :
    later.Only Notice.undeclared := by
  obtain ⟨tested, hooks, rfl, admits, undeclared⟩ := parted.halves
  rcases split_append split with ⟨rest, inside, _⟩ | ⟨front, rfl⟩
  · have known := admits notice (by simp [inside])
    rw [other] at known
    cases known
  · exact ((only_cons _ _).mp ((only_append _ _).mp undeclared).2).2

end Parted

namespace Engine

def beforeHooks (engine : Engine W A) : Operation W A → Engine W A
  | .update world dt => ({ engine with trace := [] }.intake world dt).engine
  | _ => engine

variable [ActionHandler W A] (engine : Engine W A)

theorem update_parted (world : W) (dt : Seconds) :
    Parted engine.state.token (engine.update world dt).engine.state.token
      (engine.update world dt).journal := by
  have same := intake_same world dt { engine with trace := [] }
  have admits := intake_admits { engine with trace := [] } world dt
  rcases update_cases engine world dt with ⟨cause, _, ended⟩ | ⟨taken, journal, s', result, half,
    pass, ended⟩
  · rw [ended]
    exact .tests admits
  · have cancels := (taken.sweepStart world).applyPending_cancels
    rw [half] at same
    rw [ended]
    refine ⟨⟨_, _, rfl, admits, ?_⟩, fun kept => ?_⟩
    · simp [cancels.mono Notice.undeclared_of_cancels, pass.undeclared]
    · simp [admits.mono Notice.steady_of_admits, cancels.mono Notice.steady_of_cancels,
        pass.steady (kept.trans same.token.symm)]

theorem execute_parts (polls : Nat) (world : W) (name : String) (parameters : List String)
    (skip : Bool) (step : Seconds) :
    ∃ alone cancels ending kept,
      (engine.execute polls world name parameters skip step).journal = alone ++ cancels ++ ending ∧
      alone.Only Notice.alone ∧ ending.Only Notice.alone ∧
      Cancels kept cancels
        (engine.execute polls world name parameters skip step).engine.running ∧
      kept.Sublist engine.running ∧
      ((engine.execute polls world name parameters skip step).engine.state.token =
        engine.state.token → kept = engine.running) := by
  have created := createAction_alone engine.actions none 0 name parameters
  rcases execute_cases polls engine world name parameters skip step with
    ⟨cause, notices, creation, ended⟩ |
    ⟨action, notices, shot, ending, kept, creation, ran, keeps, ended⟩
  · rw [creation] at created
    rw [ended]
    exact ⟨notices, [], [], engine.running, by simp, created, only_nil, .refl _, .refl _,
      fun _ => rfl⟩
  · have alone := OneShot.run_alone name step polls skip action
      ⟨world, Dictionary.empty, engine.state⟩
    rw [creation] at created
    rw [ran] at alone
    rw [ended]
    refine ⟨notices ++ shot.journal, _, _, kept, rfl, (only_append _ _).mpr ⟨created, alone⟩,
      ending.notices_alone name, applyRequests_cancels _ _, ?_, fun same => ?_⟩
    · rw [← keeps]
      split <;> simp
    · rw [← keeps, if_pos same]

theorem execute_undeclared (polls : Nat) (world : W) (name : String) (parameters : List String)
    (skip : Bool) (step : Seconds) :
    (engine.execute polls world name parameters skip step).journal.Only Notice.undeclared ∧
      (engine.execute polls world name parameters skip step).journal.Only Notice.steady := by
  obtain ⟨alone, cancels, ending, kept, journal_eq, own, ends, cancelled, _⟩ :=
    execute_parts engine polls world name parameters skip step
  rw [journal_eq]
  constructor
  · simp [own.mono Notice.undeclared_of_alone, ends.mono Notice.undeclared_of_alone,
      cancelled.cancels.mono Notice.undeclared_of_cancels]
  · simp [own.mono Notice.steady_of_alone, ends.mono Notice.steady_of_alone,
      cancelled.cancels.mono Notice.steady_of_cancels]

theorem perform_parted (operation : Operation W A) :
    Parted engine.state.token (engine.perform operation).engine.state.token
      (engine.perform operation).journal := by
  cases operation with
  | update world dt => exact update_parted engine world dt
  | execute polls world name parameters skip step =>
    obtain ⟨undeclared, steady⟩ := execute_undeclared engine polls world name parameters skip step
    exact .hooks undeclared steady
  | cancelEvent id => exact .cancels (cancelById_cancels id engine.running)
  | cancelAllEvents => exact .cancels (cancelAll_cancels engine.running)
  | cancelCurrentAction id => exact .cancels (cancelActionIn_cancels id engine.running)
  | startEvent event => exact .tests (startEvent_admits engine event)
  | checkCondition world event condition dt =>
    have tests := testCondition_tests engine.conditions world dt event condition engine.state.memory
    exact .tests (tests.mono Notice.admits_of_tests)
  | loadScope scope =>
    apply Parted.hooks <;> simp [perform, loadScope, ScopeState.load, ScopeState.reset]
  | reset => apply Parted.hooks <;> simp [perform, reset, ScopeState.reset]
  | registerAction => apply Parted.hooks <;> simp [perform, registerAction]
  | registerCondition => apply Parted.hooks <;> simp [perform, registerCondition]
  | configure | replaceActions | replaceConditions | remember =>
    apply Parted.hooks <;> simp [perform]

theorem perform_idles (operation : Operation W A) (idle : operation.drives = false) :
    (engine.perform operation).journal.Only Notice.idles := by
  have cancelled {running running' : List (RunningEvent A)} {journal : Journal}
      (cancels : Cancels running journal running') : journal.Only Notice.idles :=
    cancels.cancels.mono Notice.idles_of_cancels
  cases operation with
  | update | execute => cases idle
  | cancelEvent id => exact cancelled (cancelById_cancels id engine.running)
  | cancelAllEvents => exact cancelled (cancelAll_cancels engine.running)
  | cancelCurrentAction id => exact cancelled (cancelActionIn_cancels id engine.running)
  | startEvent event => exact (startEvent_admits engine event).mono Notice.idles_of_admits
  | checkCondition world event condition dt =>
    have tests := testCondition_tests engine.conditions world dt event condition engine.state.memory
    exact (tests.mono Notice.admits_of_tests).mono Notice.idles_of_admits
  | loadScope | reset => simp [perform, loadScope, reset, ScopeState.load, ScopeState.reset]
  | registerAction | registerCondition => simp [perform, registerAction, registerCondition]
  | configure | replaceActions | replaceConditions | remember => simp [perform]

end Engine

end MapScript
