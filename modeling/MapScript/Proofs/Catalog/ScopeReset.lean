import MapScript.Catalog.Basic
import MapScript.Proofs.Engine.Scripted
import MapScript.Proofs.Engine.Sparing

set_option autoImplicit false

namespace MapScript

open Number Journal

variable {W A : Type}

/-- Each hook of an embedded action is the hook of the built-in one. -/
structure Builtin.Embeds (W : Type) [VariableStore W] [ActionHandler W A] (embed : Builtin → A) :
    Prop where
  start : ∀ (b : Builtin) (moment : Moment) (scene : Scene W),
    ActionHandler.start (embed b) moment scene = (b.start moment scene).mapAction embed
  update : ∀ (b : Builtin) (moment : Moment) (scene : Scene W),
    ActionHandler.update (embed b) moment scene = (b.update moment scene).mapAction embed
  cleanup : ∀ (b : Builtin) (moment : Moment) (scene : Scene W),
    ActionHandler.cleanup (embed b) moment scene = (b.idle scene ()).mapAction embed
  cancel : ∀ b : Builtin, ActionHandler.cancel W (embed b) = (embed b, [])

namespace Builtin.Embeds

variable [VariableStore W]

theorem id : Embeds W (fun b => b) :=
  ⟨fun _ _ _ => rfl, fun _ _ _ => rfl, fun _ _ _ => rfl, fun _ => rfl⟩

theorem inl [ActionHandler W A] : Embeds W (Sum.inl : Builtin → Builtin ⊕ A) :=
  ⟨fun _ _ _ => rfl, fun _ _ _ => rfl, fun _ _ _ => rfl, fun _ => rfl⟩

end Builtin.Embeds

namespace Engine

/-- The engine without the results of its last frame's conditions. -/
def untraced (engine : Engine W A) : Engine W A :=
  { engine with trace := [] }

def Knows (embed : Builtin → A) (name : String)
    (read : Arguments → Except ArgumentError Builtin) (engine : Engine W A) : Prop :=
  engine.actions.find? name = some fun arguments => (read arguments).map embed

theorem Knows.create_eq {embed : Builtin → A} {name : String}
    {read : Arguments → Except ArgumentError Builtin} {engine : Engine W A}
    (known : engine.Knows embed name read) (owner : Option EventId) (slot : Nat)
    (parameters : List String) :
    createAction engine.actions owner slot name parameters =
      match read (Arguments.ofParameters parameters) with
      | .ok b => (.ok (embed b), [.actionCreated owner slot name])
      | .error cause =>
        (.error (.malformedArguments name cause), [.argumentsRefused name parameters cause]) := by
  simp only [createAction, show engine.actions.find? name = _ from known]
  cases read (Arguments.ofParameters parameters) <;> rfl

theorem Knows.of_created {embed : Builtin → A} {name : String}
    {read : Arguments → Except ArgumentError Builtin} {engine : Engine W A}
    (known : engine.Knows embed name read) {owner : Option EventId} {slot : Nat}
    {parameters : List String} {action : A} {notices : Journal}
    (created : createAction engine.actions owner slot name parameters = (.ok action, notices)) :
    ∃ b, read (Arguments.ofParameters parameters) = .ok b ∧ action = embed b := by
  rw [known.create_eq] at created
  cases built : read (Arguments.ofParameters parameters) with
  | error refusal =>
    rw [built] at created
    cases created
  | ok b =>
    rw [built] at created
    exact ⟨b, rfl, (Except.ok.inj (Prod.mk.inj created).1).symm⟩

def KnowsReset (embed : Builtin → A) (engine : Engine W A) : Prop :=
  engine.actions.find? "reset_scope" =
    some fun arguments => (Builtin.readResetScope arguments).map embed

section Traces

variable [ActionHandler W A] {engine other : Engine W A}

theorem perform_untraced (engine : Engine W A) (operation : Operation W A) :
    (engine.untraced.perform operation).journal = (engine.perform operation).journal ∧
      (engine.untraced.perform operation).answer = (engine.perform operation).answer ∧
      (engine.untraced.perform operation).engine.untraced =
        (engine.perform operation).engine.untraced := by
  cases operation with
  | startEvent event =>
    have same : engine.untraced.isRunning event.id = engine.isRunning event.id := rfl
    simp only [perform, startEvent, same]
    cases engine.isRunning event.id <;> exact ⟨rfl, rfl, rfl⟩
  | execute polls world name parameters skip step =>
    simp only [perform, execute, untraced]
    split <;> exact ⟨rfl, rfl, rfl⟩
  | _ => exact ⟨rfl, rfl, rfl⟩

theorem update_untraced (engine : Engine W A) (world : W) (dt : Seconds) :
    engine.untraced.update world dt = engine.update world dt :=
  rfl

theorem run_of_untraced_eq (same : engine.untraced = other.untraced)
    (operations : List (Operation W A)) :
    (engine.run operations).2 = (other.run operations).2 ∧
      (engine.run operations).1.untraced = (other.run operations).1.untraced ∧
      (operations.any Operation.isUpdate = true →
        (engine.run operations).1 = (other.run operations).1) := by
  induction operations generalizing engine other with
  | nil => exact ⟨rfl, same, by simp⟩
  | cons operation rest ih =>
    obtain ⟨journal_eq, _, engine_eq⟩ := perform_untraced engine operation
    obtain ⟨journal_eq', _, engine_eq'⟩ := perform_untraced other operation
    rw [same] at journal_eq engine_eq
    obtain ⟨later, kept, framed⟩ := ih (engine_eq.symm.trans engine_eq')
    refine ⟨?_, kept, fun update => ?_⟩
    · simp only [run, later, ← journal_eq, journal_eq']
    · cases frame : operation.isUpdate with
      | false => exact framed (by simpa [frame] using update)
      | true =>
        cases operation with
        | update world dt =>
          have next := congrArg (fun engine => (engine.update world dt).engine) same
          simp only [update_untraced] at next
          simp only [run, perform, next]
        | _ => cases frame

end Traces

section Reset

variable [VariableStore W] [ActionHandler W A] {embed : Builtin → A} {engine : Engine W A}

theorem reset_start (embeds : Builtin.Embeds W embed) (name : String) (step : Seconds)
    (scene : Scene W) :
    let called := callHook name .start .start 0 ⟨none, step⟩ ActionHandler.start
      (embed .resetScope) scene
    called.result = .ok () ∧ called.scene = { scene with state := scene.state.reset.1 } := by
  simp only [callHook, embeds.start]
  exact ⟨rfl, rfl⟩

theorem reset_shot (embeds : Builtin.Embeds W embed) (polls : Nat) (name : String) (skip : Bool)
    (step : Seconds) (scene : Scene W) :
    (OneShot.run polls name skip step (embed .resetScope) scene).2 = .finished ∧
      (OneShot.run polls name skip step (embed .resetScope) scene).1.scene =
        { scene with state := scene.state.reset.1 } := by
  obtain ⟨ready, left⟩ := reset_start embeds name step scene
  have away : scene.state.reset.1.token ≠ scene.state.token := scene.state.token.next_ne
  simp only [OneShot.run, ready]
  unfold OneShot.proceed
  simp only [left, if_pos away, OneShot.stop, and_self]

theorem execute_reset (embeds : Builtin.Embeds W embed) (known : engine.KnowsReset embed)
    (polls : Nat) (world : W) (skip : Bool) (step : Seconds) :
    let executed := engine.execute polls world "reset_scope" [] skip step
    executed.ending = .finished ∧ executed.world = world ∧
      executed.engine = { engine.reset.1 with trace := engine.trace } := by
  have known : engine.Knows embed "reset_scope" Builtin.readResetScope := known
  have created : createAction engine.actions none 0 "reset_scope" [] =
      (.ok (embed .resetScope), [.actionCreated none 0 "reset_scope"]) := known.create_eq none 0 []
  obtain ⟨ending, left⟩ := reset_shot embeds polls "reset_scope" skip step
    ⟨world, Dictionary.empty, engine.state⟩
  have away : engine.state.reset.1.token ≠ engine.state.token := engine.state.token.next_ne
  simp only [execute, created, left, ending, if_neg away]
  exact ⟨trivial, trivial, rfl⟩

/-- Resetting by the action is resetting by the host, but for the trace of the last frame: the
action leaves it, the host clears it. Nothing that is done afterwards can tell the two apart, and
after a frame they are the same. -/
theorem reset_action_resets (embeds : Builtin.Embeds W embed) (known : engine.KnowsReset embed)
    (polls : Nat) (world : W) (skip : Bool) (step : Seconds) :
    let executed := engine.execute polls world "reset_scope" [] skip step
    executed.ending = .finished ∧ executed.world = world ∧
      engine.reset.1 = { engine with
        state := ⟨none, engine.state.token.next, Memory.empty, []⟩, running := [], trace := [] } ∧
      executed.engine = { engine.reset.1 with trace := engine.trace } ∧
      (executed.engine = engine.reset.1 ↔ engine.trace = []) ∧
      ∀ later : List (Operation W A),
        (executed.engine.run later).2 = (engine.reset.1.run later).2 ∧
        (executed.engine.run later).1.untraced = (engine.reset.1.run later).1.untraced ∧
        (later.any Operation.isUpdate = true →
          (executed.engine.run later).1 = (engine.reset.1.run later).1) := by
  intro executed
  obtain ⟨ending, same, engine_eq⟩ := execute_reset embeds known polls world skip step
  refine ⟨ending, same, rfl, engine_eq, ?_, run_of_untraced_eq ?_⟩
  · rw [show executed.engine = _ from engine_eq]
    exact ⟨congrArg Engine.trace, fun none => by rw [none]; rfl⟩
  · rw [show executed.engine = _ from engine_eq]
    rfl

end Reset

def explained : Engine Variables Builtin × Journal :=
  (Catalog.engine (fun b => b) ⟨true, .abort⟩).1.run
    [.loadScope ⟨"", [], [Scripted.guarded 1 []]⟩, .update Dictionary.empty .zero]

theorem explained_knowsReset : explained.1.KnowsReset fun b => b :=
  rfl

theorem reset_action_resets_explained :
    let executed := explained.1.execute 0 Dictionary.empty "reset_scope" [] false .zero
    executed.engine.state.token = ⟨2⟩ ∧ executed.engine.untraced = explained.1.reset.1.untraced ∧
      (executed.engine = explained.1.reset.1 ↔ explained.1.trace = []) := by
  obtain ⟨_, _, _, engine_eq, exactly, later⟩ := reset_action_resets (W := Variables)
    Builtin.Embeds.id explained_knowsReset 0 Dictionary.empty false .zero
  exact ⟨by decide, (later []).2.1, exactly⟩

theorem reset_action_keeps_trace :
    (explained.1.execute 0 Dictionary.empty "reset_scope" [] false .zero).engine ≠
      explained.1.reset.1 := by
  have kept : (explained.1.execute 0 Dictionary.empty "reset_scope" [] false .zero).engine.trace =
      [⟨Scripted.guarded 1 [], []⟩] := rfl
  have cleared : explained.1.reset.1.trace = [] := rfl
  intro same
  rw [same, cleared] at kept
  cases kept

end Engine

end MapScript
