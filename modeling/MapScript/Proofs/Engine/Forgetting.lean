import MapScript.Catalog.Actions
import MapScript.Proofs.Engine.Shifting

set_option autoImplicit false

namespace MapScript

open Number Journal

variable {W A B : Type}

namespace Engine

def shifted (shift : Nat) (engine : Engine W A) : Engine W A :=
  { engine with state := engine.state.shifted shift }

theorem loadScope_shifted (shift : Nat) (engine : Engine W A) (scope : Scope) :
    (engine.shifted shift).loadScope scope =
      ((engine.loadScope scope).1.shifted shift, (engine.loadScope scope).2.shifted shift) := by
  simp [loadScope, shifted, ScopeState.shifted, ScopeState.load, ScopeState.reset, Notice.shifted,
    ScopeToken.next_after]

theorem reset_shifted (shift : Nat) (engine : Engine W A) :
    (engine.shifted shift).reset =
      (engine.reset.1.shifted shift, engine.reset.2.shifted shift) := by
  simp [reset, shifted, ScopeState.shifted, ScopeState.reset, Notice.shifted,
    ScopeToken.next_after]

theorem startEvent_shifted (shift : Nat) (engine : Engine W A) (event : Event) :
    (engine.shifted shift).startEvent event =
      ((engine.startEvent event).1, (engine.startEvent event).2.1.shifted shift,
        (engine.startEvent event).2.2) := by
  have running_eq : (engine.shifted shift).isRunning = engine.isRunning := rfl
  have retired : retireInit (engine.shifted shift).state event.id =
      ((retireInit engine.state event.id).1.shifted shift,
        (retireInit engine.state event.id).2) := by
    unfold retireInit
    cases scope_eq : engine.state.scope with
    | none => simp [shifted, ScopeState.shifted, scope_eq]
    | some scope =>
      simp only [shifted, ScopeState.shifted, scope_eq]
      split <;> simp [scope_eq]
  unfold startEvent
  rw [running_eq, retired]
  split <;> rfl

section Conditions

variable (shift : Nat) (world : W) (dt : Seconds)

def Advanced.shifted (shift : Nat) (advanced : Advanced W A B) : Advanced W A B :=
  { advanced with engine := advanced.engine.shifted shift }

theorem conditionsMet_shifted (engine : Engine W A) (event : Event) :
    (engine.shifted shift).conditionsMet world dt event =
      (engine.conditionsMet world dt event).shifted shift := by
  have judge_eq : (engine.shifted shift).judge world dt event = engine.judge world dt event := rfl
  have memory_eq : (engine.shifted shift).state.memory = engine.state.memory := rfl
  have settings_eq : (engine.shifted shift).settings = engine.settings := rfl
  unfold conditionsMet
  rw [judge_eq, memory_eq, settings_eq]
  cases engine.settings.debugConditions with
  | true =>
    simp only [if_true]
    generalize resultsFrom (engine.judge world dt event) 0 event.conditions engine.state.memory =
      tested
    obtain ⟨memory, journal, cause | results⟩ := tested <;> rfl
  | false => rfl

theorem startSatisfied_shifted (events : List Event) (engine : Engine W A) :
    startSatisfied world dt events (engine.shifted shift) =
      (startSatisfied world dt events engine).shifted shift := by
  induction events generalizing engine with
  | nil => rfl
  | cons event rest ih =>
    simp only [startSatisfied, conditionsMet_shifted]
    generalize engine.conditionsMet world dt event = met
    obtain ⟨next, journal, cause | _ | _⟩ := met
    · rfl
    · simp [Advanced.shifted, ih]
    · simp [Advanced.shifted, ih, startEvent_shifted]

theorem intake_shifted (engine : Engine W A) :
    (engine.shifted shift).intake world dt = (engine.intake world dt).shifted shift :=
  startSatisfied_shifted shift world dt engine.declarations engine

theorem intake_tokenless (engine : Engine W A) :
    (engine.intake world dt).journal.shifted shift = (engine.intake world dt).journal :=
  shifted_of_tokenless ((intake_admits engine world dt).mono Notice.tokenless_of_admits) shift

end Conditions

end Engine

def Updated.shifted (shift : Nat) (updated : Updated W A) : Updated W A :=
  { updated with
    engine := updated.engine.shifted shift
    journal := updated.journal.shifted shift }

def Executed.shifted (shift : Nat) (executed : Executed W A) : Executed W A :=
  { executed with
    engine := executed.engine.shifted shift
    journal := executed.journal.shifted shift }

def Performed.shifted (shift : Nat) (performed : Performed W A) : Performed W A :=
  { performed with
    engine := performed.engine.shifted shift
    journal := performed.journal.shifted shift }

namespace OneShot

def shifted (shift : Nat) (s : OneShot W A) : OneShot W A :=
  { s with
    scene := s.scene.shifted shift
    backlog := Journal.shifted shift s.backlog }

@[simp] theorem shifted_action (shift : Nat) (s : OneShot W A) :
    (s.shifted shift).action = s.action := rfl

@[simp] theorem shifted_scene (shift : Nat) (s : OneShot W A) :
    (s.shifted shift).scene = s.scene.shifted shift := rfl

theorem after_shifted (shift : Nat) (s : OneShot W A) (called : Called W A B) :
    (s.shifted shift).after (called.shifted shift) = (s.after called).shifted shift := by
  simp [after, shifted, Called.shifted, shifted_reverse]

variable [ActionHandler W A] (shift : Nat) (name : String) (step : Seconds)

theorem stop_shifted (s : OneShot W A) :
    (s.shifted shift).stop name = (s.stop name).shifted shift := by
  have said (records : List Record) :
      Journal.shifted shift (records.map Notice.said) = records.map Notice.said :=
    shifted_of_tokenless (by simp) shift
  simp [stop, shifted, Notice.shifted, said, ← List.map_reverse]

variable (blind : TokenBlind W A)

include blind

theorem cleanUp_shifted (s : OneShot W A) :
    (s.shifted shift).cleanUp name step =
      ((s.cleanUp name step).1.shifted shift, (s.cleanUp name step).2) := by
  have hook := callHook_shifted shift name .cleanup .cleanup 0 ⟨none, step⟩ s.action s.scene
    (blind.cleanup_eq _ _ _ _)
  simp only [cleanUp, shifted_action, shifted_scene, hook, after_shifted]
  generalize callHook name .cleanup .cleanup 0 ⟨none, step⟩ ActionHandler.cleanup s.action s.scene =
    called
  obtain ⟨action, scene, journal, cause | _⟩ := called <;> rfl

theorem proceed_shifted (token : ScopeToken) (polls : Nat) (done : Bool) (s : OneShot W A) :
    proceed name step (token.after shift) polls done (s.shifted shift) =
      ((proceed name step token polls done s).1.shifted shift,
        (proceed name step token polls done s).2) := by
  -- Whether the run is stale is seen by comparing two tokens, and both are shifted.
  induction polls generalizing done s with
  | zero =>
    simp only [proceed, shifted_scene, Scene.shifted_token, ne_eq, ScopeToken.after_inj,
      stop_shifted, cleanUp_shifted shift name step blind]
    split
    · rfl
    · split <;> rfl
  | succ polls ih =>
    have hook := callHook_shifted shift name .update .update 0 ⟨none, step⟩ s.action s.scene
      (blind.update_eq _ _ _ _)
    simp only [proceed, shifted_scene, Scene.shifted_token, ne_eq, ScopeToken.after_inj,
      stop_shifted, cleanUp_shifted shift name step blind, shifted_action, hook, after_shifted]
    generalize callHook name .update .update 0 ⟨none, step⟩ ActionHandler.update s.action s.scene =
      called
    split
    · rfl
    · split
      · rfl
      · obtain ⟨action, scene, journal, cause | status⟩ := called
        · rfl
        · exact ih (status = .done) _

theorem run_shifted (polls : Nat) (skip : Bool) (action : A) (scene : Scene W) :
    run polls name skip step action (scene.shifted shift) =
      ((run polls name skip step action scene).1.shifted shift,
        (run polls name skip step action scene).2) := by
  have hook := callHook_shifted shift name .start .start 0 ⟨none, step⟩ action scene
    (blind.start_eq _ _ _ _)
  simp only [run, hook, Scene.shifted_token]
  generalize callHook name .start .start 0 ⟨none, step⟩ ActionHandler.start action scene = called
  have begun : (⟨(called.shifted shift).action, (called.shifted shift).scene,
      (called.shifted shift).journal.reverse⟩ : OneShot W A) =
      shifted shift ⟨called.action, called.scene, called.journal.reverse⟩ := by
    simp [shifted, Called.shifted, shifted_reverse]
  rw [begun]
  obtain ⟨action, scene, journal, cause | _⟩ := called
  · rfl
  · exact proceed_shifted shift name step blind _ polls skip _

end OneShot

namespace Engine

variable [ActionHandler W A] (blind : TokenBlind W A) (shift : Nat)

include blind

theorem update_shifted (engine : Engine W A) (world : W) (dt : Seconds) :
    (engine.shifted shift).update world dt = (engine.update world dt).shifted shift := by
  have start : { engine.shifted shift with trace := [] } =
    Engine.shifted shift { engine with trace := [] } := rfl
  have written := intake_tokenless shift world dt { engine with trace := [] }
  simp only [update, start, intake_shifted]
  generalize intake { engine with trace := [] } world dt = taken at written ⊢
  obtain ⟨next, journal, cause | _⟩ := taken
  -- The tests show no token, so a frame that ends in them has the same journal.
  · simp [Advanced.shifted, Updated.shifted, written]
  · have begin : (⟨next.running, [], world, next.state.shifted shift⟩ : Sweep W A) =
      Sweep.shifted shift ⟨next.running, [], world, next.state⟩ := rfl
    simp only [Advanced.shifted, sweep, shifted, begin, Sweep.run_shifted shift _ blind]
    simp [Updated.shifted, shifted, Swept.shifted, written]

theorem execute_shifted (polls : Nat) (engine : Engine W A) (world : W) (name : String)
    (parameters : List String) (skip : Bool) (step : Seconds) :
    (engine.shifted shift).execute polls world name parameters skip step =
      (engine.execute polls world name parameters skip step).shifted shift := by
  have written := createAction_shifted shift engine.actions none 0 name parameters
  have actions_eq : (engine.shifted shift).actions = engine.actions := rfl
  simp only [execute, actions_eq]
  rcases created : createAction engine.actions none 0 name parameters with
    ⟨cause | action, notices⟩ <;> rw [created] at written
  · simp [Executed.shifted, written]
  · have begin : (⟨world, Dictionary.empty, (engine.shifted shift).state⟩ : Scene W) =
      Scene.shifted shift ⟨world, Dictionary.empty, engine.state⟩ := rfl
    have token_eq : (engine.shifted shift).state.token = engine.state.token.after shift := rfl
    simp only [begin, OneShot.run_shifted shift name step blind, token_eq,
      OneShot.shifted_scene, Scene.shifted_token, ScopeToken.after_inj]
    generalize OneShot.run polls name skip step action ⟨world, Dictionary.empty, engine.state⟩ =
      ran
    obtain ⟨shot, ending⟩ := ran
    have cancels (running : List (RunningEvent A)) :=
      (applyRequests_cancels (W := W) shot.scene.state.requests running).shifted shift
    have requests_eq : (shot.scene.shifted shift).state.requests = shot.scene.state.requests := rfl
    have running_eq : (engine.shifted shift).running = engine.running := rfl
    have backlog_eq : (shot.shifted shift).backlog = Journal.shifted shift shot.backlog := rfl
    simp only [requests_eq, running_eq, backlog_eq, Executed.shifted]
    cases ending <;>
      simp [cancels, written, shifted_reverse, Notice.shifted, Scene.shifted, ScopeState.shifted,
        shifted]

theorem perform_shifted (engine : Engine W A) (operation : Operation W A) :
    (engine.shifted shift).perform operation = (engine.perform operation).shifted shift := by
  cases operation with
  | loadScope scope => simp [perform, loadScope_shifted, Performed.shifted]
  | reset => simp [perform, reset_shifted, Performed.shifted]
  | startEvent event =>
    have written : Journal.shifted shift (engine.startEvent event).2.2 =
        (engine.startEvent event).2.2 :=
      shifted_of_tokenless ((startEvent_admits engine event).mono Notice.tokenless_of_admits) shift
    simp [perform, startEvent_shifted, Performed.shifted, written]
  | update world dt => simp [perform, update_shifted blind, Performed.shifted, Updated.shifted]
  | execute polls world name parameters skip step =>
    simp [perform, execute_shifted blind, Performed.shifted, Executed.shifted]
  | cancelEvent id =>
    have written := (cancelById_cancels (W := W) id engine.running).shifted shift
    simp [perform, cancelEvent, shifted, Performed.shifted, written]
  | cancelAllEvents =>
    have written := (cancelAll_cancels (W := W) engine.running).shifted shift
    simp [perform, cancelAllEvents, shifted, Performed.shifted, written]
  | cancelCurrentAction id =>
    have written := (cancelActionIn_cancels (W := W) id engine.running).shifted shift
    simp [perform, cancelCurrentAction, shifted, Performed.shifted, written]
  | checkCondition world event condition dt =>
    have written : Journal.shifted shift (engine.checkCondition world event condition dt).journal =
        (engine.checkCondition world event condition dt).journal :=
      shifted_of_tokenless ((testCondition_tests _ world dt event condition _).mono
        fun notice tests => notice.tokenless_of_admits (notice.admits_of_tests tests)) shift
    have checked : (engine.shifted shift).checkCondition world event condition dt =
      (engine.checkCondition world event condition dt).shifted shift := rfl
    simp [perform, checked, Advanced.shifted, Performed.shifted, written]
  | _ => rfl

theorem run_shifted (engine : Engine W A) (operations : List (Operation W A)) :
    (engine.shifted shift).run operations =
      ((engine.run operations).1.shifted shift, (engine.run operations).2.shifted shift) := by
  induction operations generalizing engine with
  | nil => rfl
  | cons operation rest ih =>
    simp [run, perform_shifted blind, Performed.shifted, ih]

omit blind [ActionHandler W A] in
theorem loadScope_eq_fresh (engine : Engine W A) (scope : Scope) :
    (engine.loadScope scope).1 =
      ((new engine.actions engine.conditions engine.settings).loadScope scope).1.shifted
        engine.state.token.number.toNat := by
  have token_eq : engine.state.token.next =
      (ScopeToken.next ⟨0⟩).after engine.state.token.number.toNat := by
    simp [ScopeToken.next, ScopeToken.after, UInt64.add_comm]
  simp [loadScope, new, ScopeState.load, ScopeState.reset, ScopeState.initial, shifted,
    ScopeState.shifted, token_eq]

theorem load_forgets_past (engine : Engine W A) (scope : Scope) (before : List (Operation W A))
    (operation : Operation W A) :
    let loaded := (engine.loadScope scope).1
    let fresh := ((new engine.actions engine.conditions engine.settings).loadScope scope).1
    let past := engine.state.token.number.toNat
    loaded = fresh.shifted past ∧
      (loaded.run before).1.perform operation =
        ((fresh.run before).1.perform operation).shifted past := by
  intro loaded fresh past
  have start : loaded = fresh.shifted past := engine.loadScope_eq_fresh scope
  refine ⟨start, ?_⟩
  rw [start, run_shifted blind, perform_shifted blind]

end Engine

theorem Builtin.tokenBlind [VariableStore W] : TokenBlind W Builtin where
  start_eq action _ _ _ := by cases action <;> rfl
  update_eq action _ _ _ := by cases action <;> rfl
  cleanup_eq _ _ _ _ := rfl

theorem Scripted.tokenBlind : TokenBlind Unit Scripted where
  start_eq _ _ _ _ := rfl
  update_eq _ _ _ _ := rfl
  cleanup_eq _ _ _ _ := rfl

def Engine.haunted : Engine Unit Scripted :=
  let asking : Scripted := ⟨⟨[.reset, .cancelAll], .ok ()⟩, ⟨[], .ok .running⟩, ⟨[], .ok ()⟩⟩
  ((Scripted.engine asking .dropEvent).run
    [.loadScope (Scripted.scope [Scripted.event ⟨1⟩]), .update () .zero,
      .startEvent (Scripted.event ⟨1⟩), .cancelEvent ⟨1⟩,
      .remember (Memory.empty.touch "seen")]).1

theorem Engine.load_forgets_past_haunted :
    let scope := Scripted.scope [Scripted.event ⟨1⟩]
    let engine := Engine.haunted
    let fresh := (new engine.actions engine.conditions engine.settings).loadScope scope
    TokenBlind Unit Scripted ∧ engine.state.token = ⟨2⟩ ∧ engine.running.length = 1 ∧
      engine.state.requests = [.all] ∧ engine.state.memory.isEmpty = false ∧
      (engine.loadScope scope).1 = fresh.1.shifted 2 ∧
      ((engine.loadScope scope).1.run [.update () .zero]).1.perform (.update () .zero) =
        ((fresh.1.run [.update () .zero]).1.perform (.update () .zero)).shifted 2 :=
  ⟨Scripted.tokenBlind, rfl, rfl, rfl, rfl,
    load_forgets_past Scripted.tokenBlind Engine.haunted (Scripted.scope [Scripted.event ⟨1⟩])
      [.update () .zero] (.update () .zero)⟩

end MapScript
