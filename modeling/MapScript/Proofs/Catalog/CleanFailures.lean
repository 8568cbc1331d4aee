import MapScript.Proofs.Catalog.InstantActions

set_option autoImplicit false

namespace MapScript

open Number

variable {W A : Type}

namespace Builtin

variable [VariableStore W] {b : Builtin} {moment : Moment} {scene : Scene W} {cause : Failure}

theorem start_of_error (failed : (b.start moment scene).result = .error cause) :
    b.start moment scene = ⟨b, scene.world, scene.locals, [], .error cause⟩ := by
  cases b with
  | incrementVariable key amount =>
    cases sum : incremented key amount (VariableStore.lookup scene.world key) with
    | ok value => simp [start, idle, sum] at failed
    | error refusal =>
      obtain rfl : refusal = cause := by simpa [start, idle, sum] using failed
      simp only [start, idle, sum]
  | copyContext key target =>
    cases entry : scene.locals.find? key with
    | some value => simp [start, idle, entry] at failed
    | none =>
      obtain rfl : _ = cause := by simpa [start, idle, entry] using failed
      simp only [start, idle, entry]
  | _ => cases failed

omit [VariableStore W] in
theorem update_eq_ok (b : Builtin) (moment : Moment) (scene : Scene W) :
    ∃ b' status, b.update moment scene = ⟨b', scene.world, scene.locals, [], .ok status⟩ := by
  cases b <;> exact ⟨_, _, rfl⟩

end Builtin

namespace Conditions

variable [VariableStore W]

theorem highestVerdict_memory (inquiry : Inquiry W) (key : String) (candidates : List String) :
    (highestVerdict inquiry key candidates).memory = inquiry.memory := by
  unfold highestVerdict
  split
  · rfl
  · split <;> rfl

theorem memory_of_error {test : ConditionTest W} (builtIn : test ∈ tests.map Prod.snd)
    {inquiry : Inquiry W} {condition : Condition} {cause : Failure}
    (failed : (test inquiry condition).result = .error cause) :
    (test inquiry condition).memory = inquiry.memory := by
  simp only [tests, List.map_cons, List.map_nil, List.mem_cons, List.not_mem_nil, or_false]
    at builtIn
  rcases builtIn with rfl | rfl | rfl
  · unfold variableSet
    split <;> rfl
  · unfold variableHighest
    dsimp only
    split
    · rfl
    · rfl
    · exact highestVerdict_memory inquiry _ _
  · unfold variableChanged at failed ⊢
    split at failed
    next refused => rfl
    next => cases failed

end Conditions

section Hooks

variable [VariableStore W] [ActionHandler W A] {embed : Builtin → A}

theorem builtin_start (embeds : Builtin.Embeds W embed) (b : Builtin) (name : String) (slot : Nat)
    (moment : Moment) (scene : Scene W) :
    let called := callHook name .start .start slot moment ActionHandler.start (embed b) scene
    (∃ b', called.action = embed b') ∧
      ∀ cause, called.result = .error cause → called.action = embed b ∧ called.scene = scene := by
  intro called
  have action : called.action = embed (b.start moment scene).action := by
    simp only [called, callHook, embeds.start, Outcome.mapAction]
  refine ⟨⟨_, action⟩, fun cause failed => ?_⟩
  have result : called.result =
      (b.start moment scene).result.mapError (.handler name .start moment.event) := by
    simp only [called, callHook, embeds.start, Outcome.mapAction]
  cases ended : (b.start moment scene).result with
  | ok =>
    rw [result, ended] at failed
    cases failed
  | error refusal =>
    obtain ⟨same, _, left⟩ := quiet_start embeds (Builtin.start_of_error ended) name slot
    exact ⟨same, left⟩

theorem builtin_update (embeds : Builtin.Embeds W embed) (b : Builtin) (name : String) (slot : Nat)
    (moment : Moment) (scene : Scene W) :
    let called := callHook name .update .update slot moment ActionHandler.update (embed b) scene
    ∃ b' status, called.action = embed b' ∧ called.result = .ok status ∧
      called.scene = scene := by
  obtain ⟨b', status, updated⟩ := b.update_eq_ok moment scene
  refine ⟨b', status, ?_⟩
  simp only [callHook, embeds.update, updated, Outcome.mapAction]
  exact ⟨trivial, rfl, rfl⟩

end Hooks

section Alone

variable [VariableStore W] [ActionHandler W A] {embed : Builtin → A}

theorem proceed_ne_failed (embeds : Builtin.Embeds W embed) (name : String) (step : Seconds)
    (token : ScopeToken) (cause : EngineError) (polls : Nat) (finished : Bool) (b : Builtin)
    (scene : Scene W) (backlog : List Notice) :
    (OneShot.proceed name step token polls finished ⟨embed b, scene, backlog⟩).2 ≠
      .failed cause := by
  induction polls generalizing finished b backlog with
  | zero =>
    obtain ⟨_, cleaned, _⟩ := builtin_cleanup embeds b name 0 ⟨none, step⟩ scene
    unfold OneShot.proceed
    by_cases away : scene.state.token ≠ token
    · simp [away]
    · cases finished <;> simp [away, OneShot.cleanUp, cleaned]
  | succ polls ih =>
    obtain ⟨_, cleaned, _⟩ := builtin_cleanup embeds b name 0 ⟨none, step⟩ scene
    obtain ⟨b', status, action, ready, left⟩ := builtin_update embeds b name 0 ⟨none, step⟩ scene
    unfold OneShot.proceed
    by_cases away : scene.state.token ≠ token
    · simp [away]
    · cases finished with
      | true => simp [away, OneShot.cleanUp, cleaned]
      | false =>
        simp only [if_neg away, Bool.false_eq_true, if_false, ready, OneShot.after, action, left]
        exact ih _ b' _

theorem shot_scene_of_failed (embeds : Builtin.Embeds W embed) {b : Builtin} {polls : Nat}
    {name : String} {skip : Bool} {step : Seconds} {scene : Scene W} {cause : EngineError}
    (failed : (OneShot.run polls name skip step (embed b) scene).2 = .failed cause) :
    (OneShot.run polls name skip step (embed b) scene).1.scene = scene := by
  obtain ⟨⟨b', action⟩, clean⟩ := builtin_start embeds b name 0 ⟨none, step⟩ scene
  unfold OneShot.run at failed ⊢
  dsimp only at action failed ⊢
  cases ready : (callHook name .start .start 0 ⟨none, step⟩ ActionHandler.start (embed b)
    scene).result with
  | error refusal => exact (clean refusal ready).2
  | ok =>
    rw [action, ready] at failed
    exact absurd failed (proceed_ne_failed embeds _ _ _ _ _ _ _ _ _)

end Alone

section Slots

variable [VariableStore W] [ActionHandler W A] {embed : Builtin → A} {dt : Seconds}
  {token : ScopeToken} {slot : Action} {d : Drive W A} {cause : EngineError}

theorem poll_ne_failed (embeds : Builtin.Embeds W embed) (b : Builtin) (state : ActionState) :
    (poll dt token slot ⟨embed b, state⟩ d).step ≠ .stop (.error cause) := by
  obtain ⟨b', status, action, ready, _⟩ := builtin_update embeds b slot.kind d.event.cursor
    ⟨some d.event.id, dt⟩ d.scene
  have ready : (d.updateHook dt slot (embed b)).result = .ok status := ready
  have action : (d.updateHook dt slot (embed b)).action = embed b' := action
  rw [poll_eq, ready]
  cases status with
  | running => simp
  | done =>
    dsimp only
    rw [action]
    generalize d.polled dt slot ⟨embed b, state⟩ = polled
    obtain ⟨_, cleaned, _⟩ := builtin_cleanup embeds b' slot.kind polled.event.cursor
      ⟨some polled.event.id, dt⟩ polled.scene
    simp only [cleanUp, cleaned, Stepped.after]
    split <;> simp

theorem enter_of_failed (embeds : Builtin.Embeds W embed)
    {factories : Dictionary (ActionFactory A)}
    (built : ∀ action notices, d.create factories slot = (.ok action, notices) →
      ∃ b, action = embed b)
    (idle : d.event.current = none)
    (failed : (enter factories dt token slot d).step = .stop (.error cause)) :
    (enter factories dt token slot d).drive = d := by
  rw [enter_eq] at failed ⊢
  rcases created : d.create factories slot with ⟨refusal | action, notices⟩
  · rfl
  · obtain ⟨b, rfl⟩ := built _ _ created
    obtain ⟨⟨b', action⟩, clean⟩ := builtin_start embeds b slot.kind d.event.cursor
      ⟨some d.event.id, dt⟩ d.scene
    have action : (d.startHook dt slot (embed b)).action = embed b' := action
    simp only [created] at failed ⊢
    cases ready : (d.startHook dt slot (embed b)).result with
    | error refusal =>
      have left : (d.startHook dt slot (embed b)).scene = d.scene := (clean refusal ready).2
      -- The drive is left without an action, as it came.
      simp only [Drive.after, left]
      simp only [Drive.scene, ← idle]
    | ok =>
      simp only [ready, action] at failed
      split at failed
      · exact absurd failed (poll_ne_failed embeds b' .running)
      · cases failed

theorem visitSlot_of_failed (embeds : Builtin.Embeds W embed)
    {factories : Dictionary (ActionFactory A)}
    (built : ∀ action notices, d.create factories slot = (.ok action, notices) →
      ∃ b, action = embed b)
    (own : ∀ current, d.event.current = some current → ∃ b, current.action = embed b)
    (failed : (visitSlot factories dt token slot d).step = .stop (.error cause)) :
    (visitSlot factories dt token slot d).drive = d := by
  unfold visitSlot at failed ⊢
  cases flying : d.event.current with
  | none =>
    simp only [flying] at failed
    exact enter_of_failed embeds built flying failed
  | some current =>
    obtain ⟨action, state⟩ := current
    obtain ⟨b, rfl⟩ := own _ flying
    simp only [flying] at failed
    by_cases stopped : state = .cancelled
    · simp [stopped] at failed
    · rw [if_neg stopped] at failed
      exact absurd failed (poll_ne_failed embeds b state)

end Slots

namespace Engine

variable [VariableStore W]

theorem testCondition_memory_of_error {tests : Dictionary (ConditionTest W)}
    {test : ConditionTest W} {condition : Condition} (known : tests.find? condition.kind = some test)
    (builtIn : test ∈ Conditions.tests.map Prod.snd) {world : W} {dt : Seconds} {event : Event}
    {memory : Memory} {cause : EngineError}
    (failed : (testCondition tests world dt event condition memory).result = .error cause) :
    (testCondition tests world dt event condition memory).memory = memory := by
  simp only [testCondition, known] at failed ⊢
  cases ended : (test ⟨world, memory, event, dt⟩ condition).result with
  | ok =>
    rw [ended] at failed
    cases failed
  | error refusal => exact Conditions.memory_of_error builtIn ended

variable [ActionHandler W A]

/-- In this engine a built-in handler that fails has done nothing. -/
structure FailsCleanly (embed : Builtin → A) (engine : Engine W A) : Prop where
  start : ∀ b name slot moment (scene : Scene W) cause,
    let called := callHook name .start .start slot moment ActionHandler.start (embed b) scene
    called.result = .error cause → called.action = embed b ∧ called.scene = scene
  update : ∀ b name slot moment (scene : Scene W), ∃ status,
    (callHook name .update .update slot moment ActionHandler.update (embed b) scene).result =
      .ok status
  cleanup : ∀ b name slot moment (scene : Scene W),
    (callHook name .cleanup .cleanup slot moment ActionHandler.cleanup (embed b) scene).result =
      .ok ()
  /-- The action may be built by this visit, or be in flight since an earlier one. -/
  slot : ∀ slot read, engine.Knows embed slot.kind read → ∀ dt token cause (d : Drive W A),
    (∀ current, d.event.current = some current → ∃ b, current.action = embed b) →
    let visited := visitSlot engine.actions dt token slot d
    visited.step = .stop (.error cause) → visited.drive = d
  alone : ∀ b polls name skip step (scene : Scene W) cause,
    let shot := OneShot.run polls name skip step (embed b) scene
    shot.2 = .failed cause → shot.1.scene = scene
  execute : ∀ name read, engine.Knows embed name read →
    ∀ polls world parameters skip step cause,
    let executed := engine.execute polls world name parameters skip step
    executed.ending = .failed cause →
      executed.world = world ∧ (engine.state.requests = [] → executed.engine = engine)
  test : ∀ condition test, engine.conditions.find? condition.kind = some test →
    test ∈ Conditions.tests.map Prod.snd → ∀ world dt event memory cause,
    let tested := testCondition engine.conditions world dt event condition memory
    tested.result = .error cause → tested.memory = memory
  check : ∀ condition test, engine.conditions.find? condition.kind = some test →
    test ∈ Conditions.tests.map Prod.snd → ∀ world event dt cause,
    let checked := engine.checkCondition world event condition dt
    checked.result = .error cause → checked.engine = engine

variable {embed : Builtin → A} {engine : Engine W A}

theorem Knows.execute_of_failed (embeds : Builtin.Embeds W embed) {name : String}
    {read : Arguments → Except ArgumentError Builtin} (known : engine.Knows embed name read)
    {polls : Nat} {world : W} {parameters : List String} {skip : Bool} {step : Seconds}
    {cause : EngineError}
    (failed : (engine.execute polls world name parameters skip step).ending = .failed cause) :
    let executed := engine.execute polls world name parameters skip step
    executed.world = world ∧ (engine.state.requests = [] → executed.engine = engine) := by
  rcases execute_cases polls engine world name parameters skip step with
    ⟨refusal, notices, _, ended⟩ | ⟨action, notices, shot, ending, kept, created, ran, keeps, ended⟩
  · rw [ended]
    exact ⟨rfl, fun _ => rfl⟩
  · obtain ⟨b, _, rfl⟩ := known.of_created created
    rw [ended] at failed ⊢
    have left : shot.scene = ⟨world, Dictionary.empty, engine.state⟩ := by
      have left := shot_scene_of_failed embeds (congrArg Prod.snd ran |>.trans failed)
      rwa [ran] at left
    rw [left] at keeps
    obtain rfl : engine.running = kept := by simpa using keeps
    refine ⟨congrArg Scene.world left, fun idle => ?_⟩
    simp only [left, idle, applyRequests]
    rw [← idle]

theorem builtin_fails_cleanly (embeds : Builtin.Embeds W embed) (engine : Engine W A) :
    engine.FailsCleanly embed where
  start b name slot moment scene cause failed :=
    (builtin_start embeds b name slot moment scene).2 cause failed
  update b name slot moment scene := by
    obtain ⟨_, status, _, ready, _⟩ := builtin_update embeds b name slot moment scene
    exact ⟨status, ready⟩
  cleanup b name slot moment scene := (builtin_cleanup embeds b name slot moment scene).2.1
  slot slot read known dt token cause d own failed := by
    refine visitSlot_of_failed embeds (fun action notices created => ?_) own failed
    obtain ⟨b, _, same⟩ := known.of_created created
    exact ⟨b, same⟩
  alone b polls name skip step scene cause failed := shot_scene_of_failed embeds failed
  execute name read known polls world parameters skip step cause failed :=
    known.execute_of_failed embeds failed
  test condition test known builtIn world dt event memory cause failed :=
    testCondition_memory_of_error known builtIn failed
  check condition test known builtIn world event dt cause failed := by
    have memory := testCondition_memory_of_error known builtIn failed
    simp only [checkCondition, memory]
    rfl

-- The variable to copy to is set, and a cancellation has been asked for.
theorem builtin_fails_cleanly_copy :
    let engine : Engine Variables Builtin := (Catalog.engine (fun b => b) .default).1
    let d : Drive Variables Builtin :=
      ⟨.start ⟨⟨1⟩, "sit", none, [], [⟨"copy_context", ["pose", "seat"], "act1"⟩]⟩,
        .ofList [("seat", "3")], ⟨none, ⟨1⟩, Memory.empty, [.event ⟨4⟩]⟩⟩
    let visited := visitSlot engine.actions .zero ⟨1⟩ ⟨"copy_context", ["pose", "seat"], "act1"⟩ d
    let checked := engine.checkCondition d.world d.event.declaration
      ⟨"variable_changed", .is, [], "cond1"⟩ .zero
    visited.step = .stop (.error (.handler "copy_context" .start (some ⟨1⟩)
        ⟨"context entry `pose` is not set", []⟩)) ∧
      visited.drive = d ∧
      checked.result = .error (.handler "variable_changed" .test (some ⟨1⟩)
        (.ofArgument (.missing 0 "key"))) ∧
      checked.engine = engine := by
  intro engine d visited checked
  have clean := builtin_fails_cleanly Builtin.Embeds.id engine
  have stopped : visited.step = .stop (.error (.handler "copy_context" .start (some ⟨1⟩)
      ⟨"context entry `pose` is not set", []⟩)) := rfl
  have refused : checked.result = .error (.handler "variable_changed" .test (some ⟨1⟩)
      (.ofArgument (.missing 0 "key"))) := rfl
  refine ⟨stopped, ?_, refused, ?_⟩
  · have known : engine.Knows (fun b => b) "copy_context" Builtin.readCopyContext := rfl
    have idle : d.event.current = none := rfl
    refine clean.slot ⟨"copy_context", ["pose", "seat"], "act1"⟩ _ known _ _ _ d ?_ stopped
    simp [idle]
  · exact clean.check _ Conditions.variableChanged rfl (by simp [Conditions.tests]) _ _ _ _ refused

end Engine

end MapScript
