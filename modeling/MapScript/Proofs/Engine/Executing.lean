import MapScript.Engine.OneShot
import MapScript.Proofs.Engine.Cancelling

set_option autoImplicit false

namespace MapScript

open Number Journal

variable {W A : Type}

/-- The calls that drive an action, as against the ones that only tell it to stop. -/
def lifecycle (calls : List Call) : List Call :=
  calls.filter fun call => call.hook ≠ .cancel

@[simp] theorem lifecycle_append (earlier later : List Call) :
    lifecycle (earlier ++ later) = lifecycle earlier ++ lifecycle later :=
  List.filter_append earlier later

/-- A start, update or cleanup that has another one behind it has left the scope as it was. -/
def NeverStale (calls : List Call) : Prop :=
  (lifecycle calls).Pairwise fun earlier _ => earlier.moved = false

theorem neverStale_cons {call : Call} {later : List Call} (steady : NeverStale later)
    (last : call.moved = true → lifecycle later = []) : NeverStale (call :: later) := by
  unfold NeverStale lifecycle at *
  rw [List.filter_cons]
  split
  next =>
    refine List.pairwise_cons.mpr ⟨?_, steady⟩
    intro other member
    by_contra moved
    rw [last (by simpa using moved)] at member
    exact absurd member List.not_mem_nil
  next => exact steady

namespace OneShot

def journal (s : OneShot W A) : Journal :=
  s.backlog.reverse

@[simp] theorem after_journal {B : Type} (s : OneShot W A) (called : Called W A B) :
    (s.after called).journal = s.journal ++ called.journal := by
  simp [journal, after]

variable [ActionHandler W A] (name : String) (step : Seconds)

theorem stop_journal (s : OneShot W A) : (s.stop name).journal =
    s.journal ++ (.oneShotAbandoned name :: (ActionHandler.cancel W s.action).2.map Notice.said ++
      [.called ⟨none, 0, name, .cancel, .finished, false⟩]) := by
  simp [stop, journal]

section Along

-- What a start brings about and no later hook undoes holds at the end.
variable {P : OneShot W A → Prop}
  (updates : ∀ s, P s → P (s.after (callHook name .update .update 0 ⟨none, step⟩
    ActionHandler.update s.action s.scene)))
  (cleans : ∀ s, P s → P (s.after (callHook name .cleanup .cleanup 0 ⟨none, step⟩
    ActionHandler.cleanup s.action s.scene)))
  (stops : ∀ s, P s → P (s.stop name))

include updates cleans stops

theorem proceed_along (token : ScopeToken) (polls : Nat) (done : Bool) {s : OneShot W A}
    (before : P s) : P (proceed name step token polls done s).1 := by
  fun_induction proceed name step token polls done s with
  | case1 _ _ s => exact stops s before
  | case2 _ s =>
    have cleaned := cleans s before
    unfold cleanUp
    dsimp only
    split <;> exact cleaned
  | case3 => exact before
  | case4 _ s _ _ _ _ _ _ ih => exact ih (updates s before)
  | case5 _ s => exact updates s before

theorem run_along (polls : Nat) (skip : Bool) (action : A) (scene : Scene W)
    (starts : P ⟨(callHook name .start .start 0 ⟨none, step⟩ ActionHandler.start action scene).action,
      (callHook name .start .start 0 ⟨none, step⟩ ActionHandler.start action scene).scene,
      (callHook name .start .start 0 ⟨none, step⟩ ActionHandler.start action scene).journal.reverse⟩) :
    P (run polls name skip step action scene).1 := by
  unfold run
  dsimp only
  split
  next => exact proceed_along name step updates cleans stops _ polls skip starts
  next => exact starts

end Along

structure Goes (token : ScopeToken) (s s' : OneShot W A) (later : List Call) : Prop where
  calls_eq : calls s'.journal = calls s.journal ++ later
  foreign : ∀ call ∈ later, call.owner = none
  steady : NeverStale later
  stale : s.scene.state.token ≠ token → lifecycle later = []

theorem stop_goes (token : ScopeToken) (s : OneShot W A) :
    ∃ later, Goes token s (s.stop name) later := by
  refine ⟨[⟨none, 0, name, .cancel, .finished, false⟩], ?_, by simp, ?_, ?_⟩
  · simp [stop_journal]
  · simp [NeverStale, lifecycle]
  · simp [lifecycle]

theorem cleanUp_goes (s : OneShot W A) :
    ∃ later, Goes s.scene.state.token s (s.cleanUp name step).1 later := by
  have called := callHook_calls name .cleanup .cleanup 0 ⟨none, step⟩ ActionHandler.cleanup s.action
    s.scene
  unfold cleanUp
  dsimp only
  generalize callHook name .cleanup .cleanup 0 ⟨none, step⟩ ActionHandler.cleanup s.action
    s.scene = cleaned at called ⊢
  refine ⟨calls cleaned.journal, ?_, by simp [called], ?_, by simp⟩
  · cases cleaned.result <;> simp
  · simp [called, NeverStale, lifecycle]

theorem proceed_goes (token : ScopeToken) (polls : Nat) (done : Bool) (s : OneShot W A) :
    ∃ later, Goes token s (proceed name step token polls done s).1 later := by
  fun_induction proceed name step token polls done s with
  | case1 => exact stop_goes name token _
  | case2 polls s same => exact Decidable.not_not.mp same ▸ cleanUp_goes name step s
  | case3 => exact ⟨[], by simp, by simp, .nil, fun _ => rfl⟩
  | case4 done s same _ polls polled status _ ih =>
    have fresh : s.scene.state.token = token := Decidable.not_not.mp same
    have called := callHook_calls name .update .update 0 ⟨none, step⟩ ActionHandler.update
      s.action s.scene
    obtain ⟨later, goes⟩ := ih
    refine ⟨calls polled.journal ++ later, ?_, ?_, ?_, fun away => (away fresh).elim⟩
    · rw [goes.calls_eq, after_journal, calls_append, List.append_assoc]
    · intro call member
      rcases List.mem_append.mp member with first | rest
      · rw [called, List.mem_singleton] at first
        rw [first]
      · exact goes.foreign call rest
    · rw [called]
      apply neverStale_cons goes.steady
      intro moved
      apply goes.stale
      simpa [after, fresh] using moved
  | case5 done s same _ polls polled cause _ =>
    have fresh : s.scene.state.token = token := Decidable.not_not.mp same
    have called := callHook_calls name .update .update 0 ⟨none, step⟩ ActionHandler.update
      s.action s.scene
    refine ⟨calls polled.journal, by simp, ?_, ?_, fun away => (away fresh).elim⟩
    · rw [called]
      simp
    · rw [called]
      exact neverStale_cons .nil fun _ => rfl

theorem run_steady (polls : Nat) (skip : Bool) (action : A) (scene : Scene W) :
    (∀ call ∈ calls (run polls name skip step action scene).1.journal, call.owner = none) ∧
      NeverStale (calls (run polls name skip step action scene).1.journal) := by
  have called := callHook_calls name .start .start 0 ⟨none, step⟩ ActionHandler.start action scene
  unfold run
  dsimp only
  generalize callHook name .start .start 0 ⟨none, step⟩ ActionHandler.start action scene =
    begun at called ⊢
  cases begun.result with
  | error cause =>
    simp only [journal, List.reverse_reverse, called]
    exact ⟨by simp, neverStale_cons .nil fun _ => rfl⟩
  | ok _ =>
    obtain ⟨later, goes⟩ := proceed_goes name step scene.state.token polls skip
      ⟨begun.action, begun.scene, begun.journal.reverse⟩
    rw [goes.calls_eq]
    simp only [journal, List.reverse_reverse, called]
    constructor
    · intro call member
      rcases List.mem_append.mp member with first | rest
      · rw [List.mem_singleton] at first
        rw [first]
      · exact goes.foreign call rest
    · apply neverStale_cons goes.steady
      intro moved
      apply goes.stale
      simpa using moved

end OneShot

def Ending.notices (name : String) : Ending → Journal
  | .failed cause => [.oneShotFailed name cause]
  | _ => []

theorem Ending.notices_calls (name : String) (ending : Ending) :
    calls (ending.notices name) = [] := by
  cases ending <;> rfl

namespace Engine

variable [ActionHandler W A] (polls : Nat) (engine : Engine W A) (world : W) (name : String)
  (parameters : List String) (skip : Bool) (step : Seconds)

theorem execute_cases :
    (∃ cause notices,
      createAction engine.actions none 0 name parameters = (.error cause, notices) ∧
      engine.execute polls world name parameters skip step =
        ⟨engine, world, notices, .failed cause⟩) ∨
    ∃ action notices shot ending kept,
      createAction engine.actions none 0 name parameters = (.ok action, notices) ∧
      OneShot.run polls name skip step action ⟨world, Dictionary.empty, engine.state⟩ =
        (shot, ending) ∧
      (if shot.scene.state.token = engine.state.token then engine.running else []) = kept ∧
      engine.execute polls world name parameters skip step =
        ⟨{ engine with
            state := { shot.scene.state with requests := [] }
            running := (applyRequests W shot.scene.state.requests kept).1 }, shot.scene.world,
          notices ++ shot.journal ++ (applyRequests W shot.scene.state.requests kept).2 ++
            ending.notices name, ending⟩ := by
  unfold execute
  rcases creation : createAction engine.actions none 0 name parameters with
    ⟨cause | action, notices⟩
  · exact .inl ⟨cause, notices, rfl, rfl⟩
  · dsimp only
    rcases ran : OneShot.run polls name skip step action ⟨world, Dictionary.empty, engine.state⟩
      with ⟨shot, ending⟩
    refine .inr ⟨action, notices, shot, ending, _, rfl, ran, rfl, ?_⟩
    cases ending <;> rfl

theorem execute_actions :
    (engine.execute polls world name parameters skip step).engine.actions = engine.actions := by
  unfold execute
  split <;> rfl

theorem execute_conditions :
    (engine.execute polls world name parameters skip step).engine.conditions =
      engine.conditions := by
  unfold execute
  split <;> rfl

theorem execute_created {engine : Engine W A} {name : String} {parameters : List String}
    {action : A} {notices : Journal}
    (created : createAction engine.actions none 0 name parameters = (.ok action, notices))
    (polls : Nat) (world : W) (skip : Bool) (step : Seconds) :
    let executed := engine.execute polls world name parameters skip step
    let shot := OneShot.run polls name skip step action ⟨world, Dictionary.empty, engine.state⟩
    executed.ending = shot.2 ∧ executed.world = shot.1.scene.world := by
  simp only [execute, created, and_self]

theorem execute_calls :
    ∃ alone cancels kept,
      calls (engine.execute polls world name parameters skip step).journal = alone ++ cancels ∧
        (∀ call ∈ alone, call.owner = none) ∧ NeverStale alone ∧
        kept.Sublist engine.running ∧
        List.Forall₂ Halted kept
          (engine.execute polls world name parameters skip step).engine.running ∧
        OnlyCancels cancels := by
  have created := createAction_calls engine.actions none 0 name parameters
  rcases execute_cases polls engine world name parameters skip step with
    ⟨cause, notices, creation, ended⟩ |
    ⟨action, notices, shot, ending, kept, creation, ran, keeps, ended⟩
  · rw [creation] at created
    rw [ended]
    exact ⟨[], [], engine.running, by simp [created], by simp, .nil, .refl _, halted_refl _,
      by simp [OnlyCancels]⟩
  · rw [creation] at created
    have steady := OneShot.run_steady name step polls skip action
      ⟨world, Dictionary.empty, engine.state⟩
    rw [ran] at steady
    have sublist : kept.Sublist engine.running := by
      rw [← keeps]
      split <;> simp
    obtain ⟨halted, hooks⟩ := (applyRequests_cancels (W := W) shot.scene.state.requests kept).halted
    rw [ended]
    refine ⟨_, _, kept, ?_, steady.1, steady.2, sublist, halted, hooks⟩
    simp [created, ending.notices_calls name]

end Engine

end MapScript
