import MapScript.Proofs.Engine.InitPool
import MapScript.Proofs.Engine.Surveying

set_option autoImplicit false

namespace MapScript

open Number Journal

variable {W A B : Type}

/-- Effects one after the other, each of them allowed where it is applied. What stands between them
leaves the memory alone and resets nothing. -/
inductive Applies (allowed : ScopeState → Effect → Prop) :
    ScopeState → Journal → ScopeState → Prop
  | still {s s' : ScopeState} {notices : Journal} (same : s'.memory = s.memory)
      (kept : ¬ Resets notices) : Applies allowed s notices s'
  | effect {s : ScopeState} {effect : Effect} (permitted : allowed s effect) :
      Applies allowed s (s.apply effect).2 (s.apply effect).1
  | trans {s m s' : ScopeState} {journal later : Journal} (first : Applies allowed s journal m)
      (second : Applies allowed m later s') : Applies allowed s (journal ++ later) s'

/-- The effect does not write the mapping of the name, except that it may clear the memory. -/
def Effect.Spares (name : String) (s : ScopeState) : Effect → Prop
  | .remember memory => memory.mapping name = s.memory.mapping name
  | _ => True

abbrev Sparing (name : String) : ScopeState → Journal → ScopeState → Prop :=
  Applies (Effect.Spares name)

theorem Applies.quiet {allowed : ScopeState → Effect → Prop} {s s' : ScopeState}
    {notices : Journal} (same : s'.memory = s.memory) (quiet : notices.Only Notice.quiet) :
    Applies allowed s notices s' :=
  .still same (not_resets_of_only quiet fun _ _ => rfl)

namespace Sparing

variable {name : String} {s s' : ScopeState} {journal : Journal}

theorem mapping_eq (sparing : Sparing name s journal s') :
    (¬ Resets journal → s'.memory.mapping name = s.memory.mapping name) ∧
      (Resets journal → s'.memory.mapping name = Dictionary.empty) := by
  induction sparing with
  | still same kept => exact ⟨fun _ => by rw [same], fun resets => absurd resets kept⟩
  | @effect s effect spares =>
    cases effect with
    | remember memory => exact ⟨fun _ => spares, fun resets => absurd resets not_resets_nil⟩
    | reset | load => exact ⟨fun kept => absurd ⟨_, _, List.mem_cons_self⟩ kept, fun _ => rfl⟩
    | say | cancelEvent | cancelAll =>
      refine ⟨fun _ => rfl, fun resets => absurd resets ?_⟩
      simp [ScopeState.apply, Resets]
  | @trans s m s' journal later _ _ first second =>
    simp only [resets_append, not_or]
    constructor
    · intro kept
      rw [second.1 kept.2, first.1 kept.1]
    · intro resets
      -- if the later half resets, what the earlier one does is forgotten
      by_cases again : later.Resets
      · exact second.2 again
      · rw [second.1 again, first.2 (resets.resolve_right again)]

end Sparing

def Permitted (allowed : ScopeState → Effect → Prop) : ScopeState → List Effect → Prop
  | _, [] => True
  | s, effect :: rest => allowed s effect ∧ Permitted allowed (s.apply effect).1 rest

structure PermittedHooks (W A : Type) [ActionHandler W A]
    (allowed : ScopeState → Effect → Prop) : Prop where
  start : ∀ (action : A) (moment : Moment) (scene : Scene W),
    Permitted allowed scene.state (ActionHandler.start action moment scene).effects
  update : ∀ (action : A) (moment : Moment) (scene : Scene W),
    Permitted allowed scene.state (ActionHandler.update action moment scene).effects
  cleanup : ∀ (action : A) (moment : Moment) (scene : Scene W),
    Permitted allowed scene.state (ActionHandler.cleanup action moment scene).effects

variable {allowed : ScopeState → Effect → Prop}

theorem Permitted.of_forall {effects : List Effect}
    (each : ∀ effect ∈ effects, ∀ s, allowed s effect) (s : ScopeState) :
    Permitted allowed s effects := by
  induction effects generalizing s with
  | nil => trivial
  | cons effect rest ih =>
    exact ⟨each effect List.mem_cons_self s,
      ih (fun other member => each other (List.mem_cons_of_mem effect member)) _⟩

theorem applyAll_applies {s : ScopeState} {effects : List Effect}
    (permitted : Permitted allowed s effects) :
    Applies allowed s (s.applyAll effects).2 (s.applyAll effects).1 := by
  induction effects generalizing s with
  | nil => exact .quiet rfl only_nil
  | cons effect rest ih => exact .trans (.effect permitted.1) (ih permitted.2)

theorem callHook_applies [Replies B] (kind : String) (phase : Phase) (hook : Hook) (slot : Nat)
    (moment : Moment) {hookOf : A → Moment → Scene W → Outcome W A B} {action : A}
    {scene : Scene W}
    (permitted : Permitted allowed scene.state (hookOf action moment scene).effects) :
    Applies allowed scene.state (callHook kind phase hook slot moment hookOf action scene).journal
      (callHook kind phase hook slot moment hookOf action scene).scene.state :=
  .trans (applyAll_applies permitted) (.still rfl (by simp [Resets]))

section Hooks

variable [ActionHandler W A] (hooks : PermittedHooks W A allowed) {s s' : ScopeState}
  {journal : Journal}

include hooks

theorem Hands.applies (hands : Hands W A s journal s') : Applies allowed s journal s' := by
  induction hands with
  | still s quiet => exact .quiet rfl quiet
  | acts acts =>
    cases acts with
    | start kind slot moment action scene =>
      exact callHook_applies kind .start .start slot moment (hooks.start action moment scene)
    | update kind slot moment action scene =>
      exact callHook_applies kind .update .update slot moment (hooks.update action moment scene)
    | cleanup kind slot moment action scene =>
      exact callHook_applies kind .cleanup .cleanup slot moment (hooks.cleanup action moment scene)
  | trans _ _ first second => exact .trans first second

theorem Acted.applies (acted : Acted W A s journal s') : Applies allowed s journal s' := by
  induction acted with
  | hands hands => exact hands.applies hooks
  | taken s quiet => exact .quiet rfl quiet
  | trans _ _ first second => exact .trans first second

end Hooks

def Operation.effect? : Operation W A → Option Effect
  | loadScope scope => some (.load scope)
  | reset => some .reset
  | remember memory => some (.remember memory)
  | _ => none

namespace Engine

def afterTests (engine : Engine W A) : Operation W A → Engine W A
  | .checkCondition world event condition dt =>
    (engine.checkCondition world event condition dt).engine
  | operation => engine.beforeHooks operation

variable [ActionHandler W A] (hooks : PermittedHooks W A allowed) (engine : Engine W A)

include hooks

theorem update_applies (world : W) (dt : Seconds) :
    Applies allowed (engine.beforeHooks (.update world dt)).state (engine.update world dt).journal
      (engine.update world dt).engine.state := by
  have tested := not_resets_of_only (intake_admits { engine with trace := [] } world dt)
    fun _ _ => rfl
  rcases update_cases engine world dt with ⟨cause, _, ended⟩ | ⟨taken, journal, s', result, half,
    pass, ended⟩
  · rw [ended]
    exact .still rfl tested
  · rw [ended, beforeHooks, half]
    have swept : Acted W A taken.state _ s'.state :=
      (taken.sweepStart world).applyPending_acted.trans pass.acted
    exact .trans (.still rfl tested) (swept.applies hooks)

theorem execute_applies (polls : Nat) (world : W) (name : String) (parameters : List String)
    (skip : Bool) (step : Seconds) :
    Applies allowed engine.state
      (engine.execute polls world name parameters skip step).journal
      (engine.execute polls world name parameters skip step).engine.state := by
  have quiet := createAction_quiet engine.actions none 0 name parameters
  rcases execute_cases polls engine world name parameters skip step with
    ⟨cause, notices, creation, ended⟩ |
    ⟨action, notices, shot, ending, kept, creation, ran, _, ended⟩
  · rw [creation] at quiet
    rw [ended]
    exact .quiet rfl quiet
  · have hands := OneShot.run_hands name step polls skip action
      ⟨world, Dictionary.empty, engine.state⟩
    have cancelled := (applyRequests_cancels (W := W) shot.scene.state.requests kept).quiet
    rw [creation] at quiet
    rw [ran] at hands
    rw [ended]
    have begun : Applies allowed engine.state notices engine.state := .quiet rfl quiet
    exact .trans (.trans (.trans begun (hands.applies hooks)) (.quiet rfl cancelled))
      (.quiet rfl (ending.notices_quiet name))

theorem perform_applies (operation : Operation W A)
    (host : ∀ effect, operation.effect? = some effect → allowed engine.state effect) :
    Applies allowed (engine.afterTests operation).state (engine.perform operation).journal
      (engine.perform operation).engine.state := by
  cases operation with
  | loadScope scope => exact .effect (host _ rfl)
  | reset => exact .effect (host _ rfl)
  | remember memory => exact .effect (host _ rfl)
  | update world dt => exact update_applies hooks engine world dt
  | execute polls world name parameters skip step =>
    exact execute_applies hooks engine polls world name parameters skip step
  | startEvent event =>
    exact .still (startEvent_memory engine event)
      (not_resets_of_only (startEvent_admits engine event) fun _ _ => rfl)
  | checkCondition world event condition dt =>
    have tests := testCondition_tests engine.conditions world dt event condition engine.state.memory
    exact .still rfl (not_resets_of_only tests fun _ _ => rfl)
  | cancelEvent id =>
    exact .quiet rfl (cancelById_cancels id engine.running).quiet
  | cancelAllEvents =>
    exact .quiet rfl (cancelAll_cancels engine.running).quiet
  | cancelCurrentAction id =>
    exact .quiet rfl (cancelActionIn_cancels id engine.running).quiet
  | registerAction | registerCondition =>
    exact .quiet rfl (by simp [perform, registerAction, registerCondition])
  | configure | replaceActions | replaceConditions => exact .quiet rfl only_nil

end Engine

end MapScript
