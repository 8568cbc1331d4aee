import MapScript.Proofs.Engine.Executing
import MapScript.Proofs.Engine.Walking

set_option autoImplicit false

namespace MapScript

open Number Journal

variable {W A B : Type}

def Effect.mild : Effect → Bool
  | .say _ => true
  | .remember _ => true
  | _ => false

structure ScopeState.Bare (token : ScopeToken) (s : ScopeState) : Prop where
  unscoped : s.scope = none
  token_eq : s.token = token
  idle : s.requests = []

theorem ScopeState.Bare.applyAll {token : ScopeToken} {s : ScopeState} (bare : s.Bare token)
    {effects : List Effect} (mild : ∀ effect ∈ effects, effect.mild = true) :
    (s.applyAll effects).1.Bare token := by
  induction effects generalizing s with
  | nil => exact bare
  | cons effect rest ih =>
    obtain ⟨here, later⟩ := List.forall_mem_cons.mp mild
    refine ih ?_ later
    cases effect with
    | say => exact bare
    | remember => exact ⟨bare.unscoped, bare.token_eq, bare.idle⟩
    | reset | load | cancelEvent | cancelAll => cases here

def Outcome.scene (state : ScopeState) (outcome : Outcome W A B) : Scene W :=
  ⟨outcome.world, outcome.locals, (state.applyAll outcome.effects).1⟩

/-- Where `P` holds of an action and its scene, the hook does the same for every owner, has mild
effects only, and leaves `P`. -/
structure DiscreetHook (dt : Seconds) (P : A → Scene W → Prop)
    (hookOf : A → Moment → Scene W → Outcome W A B) : Prop where
  same : ∀ action scene, P action scene → ∀ owner,
    hookOf action ⟨owner, dt⟩ scene = hookOf action ⟨none, dt⟩ scene
  mild : ∀ action scene, P action scene → ∀ effect ∈ (hookOf action ⟨none, dt⟩ scene).effects,
    effect.mild = true
  keeps : ∀ action scene, P action scene →
    P (hookOf action ⟨none, dt⟩ scene).action
      ((hookOf action ⟨none, dt⟩ scene).scene scene.state)

structure Discreet [ActionHandler W A] (dt : Seconds) (P : A → Scene W → Prop) : Prop where
  start : DiscreetHook dt P (ActionHandler.start (W := W) (A := A))
  update : DiscreetHook dt P (ActionHandler.update (W := W) (A := A))
  cleanup : DiscreetHook dt P (ActionHandler.cleanup (W := W) (A := A))

/-- `Lasts W dt n action scene`: the action is still running after `n - 1` polls, and the next one
finishes it or fails. -/
inductive Lasts (W : Type) [ActionHandler W A] (dt : Seconds) : Nat → A → Scene W → Prop
  | last {action : A} {scene : Scene W}
      (ended : (ActionHandler.update action ⟨none, dt⟩ scene).result ≠ .ok .running) :
      Lasts W dt 1 action scene
  | more {n : Nat} {action : A} {scene : Scene W}
      (busy : (ActionHandler.update action ⟨none, dt⟩ scene).result = .ok .running)
      (later : Lasts W dt n (ActionHandler.update action ⟨none, dt⟩ scene).action
        ((ActionHandler.update action ⟨none, dt⟩ scene).scene scene.state)) :
      Lasts W dt (n + 1) action scene

def EngineError.reportedBy (id : EventId) : EngineError → EngineError
  | .handler name phase _ cause => .handler name phase (some id) cause
  | other => other

def Call.ownedBy (id : EventId) (call : Call) : Call :=
  { call with owner := some id }

structure Called.Echoes (id : EventId) (alone owned : Called W A B) : Prop where
  action_eq : owned.action = alone.action
  scene_eq : owned.scene = alone.scene
  result_eq : owned.result = alone.result.mapError (EngineError.reportedBy id)
  calls_eq : calls owned.journal = (calls alone.journal).map (Call.ownedBy id)

structure Meets (token : ScopeToken) (P : A → Scene W → Prop) (d : Drive W A) (s : OneShot W A) :
    Prop where
  scene_eq : d.scene = s.scene
  cursor : d.event.cursor = 0
  bare : s.scene.state.Bare token
  allowed : P s.action s.scene

section Hooks

variable [Replies B] {token : ScopeToken} {dt : Seconds} {P : A → Scene W → Prop}
  {hookOf : A → Moment → Scene W → Outcome W A B} {d : Drive W A} {s : OneShot W A}
  (meets : Meets token P d s) (discreet : DiscreetHook dt P hookOf) (kind : String) (phase : Phase)
  (hook : Hook)

include meets discreet

theorem Meets.call_echoes :
    Called.Echoes d.event.id (callHook kind phase hook 0 ⟨none, dt⟩ hookOf s.action s.scene)
      (callHook kind phase hook d.event.cursor ⟨some d.event.id, dt⟩ hookOf s.action d.scene) := by
  -- The hook itself does the same; its owner shows only in the call and in the error around it.
  have same := discreet.same s.action s.scene meets.allowed (some d.event.id)
  rw [meets.scene_eq, meets.cursor]
  refine ⟨?_, ?_, ?_, ?_⟩
  · simp only [callHook, same]
  · simp only [callHook, same]
  · simp only [callHook, same]
    cases (hookOf s.action ⟨none, dt⟩ s.scene).result <;> rfl
  · simp [callHook, same, Call.ownedBy]

theorem Meets.after (current : Option (InFlight A)) :
    Meets token P
      (d.after (callHook kind phase hook d.event.cursor ⟨some d.event.id, dt⟩ hookOf s.action
        d.scene) current)
      (s.after (callHook kind phase hook 0 ⟨none, dt⟩ hookOf s.action s.scene)) where
  scene_eq := (meets.call_echoes discreet kind phase hook).scene_eq
  cursor := meets.cursor
  bare := meets.bare.applyAll (discreet.mild s.action s.scene meets.allowed)
  allowed := discreet.keeps s.action s.scene meets.allowed

end Hooks

theorem createAction_echoes (factories : Dictionary (ActionFactory A)) (id : EventId)
    (name : String) (parameters : List String) :
    (createAction factories (some id) 0 name parameters).1 =
      (createAction factories none 0 name parameters).1.mapError (EngineError.reportedBy id) := by
  unfold createAction
  split
  next => rfl
  next => split <;> rfl

theorem createAction_built {factories : Dictionary (ActionFactory A)} {owner : Option EventId}
    {slot : Nat} {name : String} {parameters : List String} {action : A} {notices : Journal}
    (created : createAction factories owner slot name parameters = (.ok action, notices)) :
    ∃ factory, factories.find? name = some factory ∧
      factory (Arguments.ofParameters parameters) = .ok action := by
  unfold createAction at created
  split at created
  next => simp at created
  next factory known =>
    split at created
    next built => exact ⟨factory, known, by simp_all⟩
    next => simp at created

section Echoes

variable {token : ScopeToken} {P : A → Scene W → Prop} {d : Drive W A} {s s' : OneShot W A}
  {ended : Option Ending} {visited : Stepped W A}

theorem Meets.world_eq (meets : Meets token P d s) : d.world = s.scene.world :=
  congrArg Scene.world meets.scene_eq

theorem Meets.state_eq (meets : Meets token P d s) : d.state = s.scene.state :=
  congrArg Scene.state meets.scene_eq

theorem Meets.fresh (meets : Meets token P d s) : d.state.token = token :=
  (congrArg (fun scene => scene.state.token) meets.scene_eq).trans meets.bare.token_eq

inductive Turned (id : EventId) (s : OneShot W A) (visited : Stepped W A) : Option Ending → Prop
  | finished (passes : visited.step = .next) : Turned id s visited (some .finished)
  | failed {cause : EngineError} (stops : visited.step = .stop (.error (cause.reportedBy id))) :
      Turned id s visited (some (.failed cause))
  | waits (blocked : visited.step = .stop (.ok .blocked))
      (flying : visited.drive.event.current = some ⟨s.action, .running⟩)
      (here : visited.drive.event.cursor = 0) : Turned id s visited none

structure PollEchoes (token : ScopeToken) (P : A → Scene W → Prop) (d : Drive W A)
    (s s' : OneShot W A) (ended : Option Ending) (visited : Stepped W A) : Prop where
  scene_eq : visited.drive.scene = s'.scene
  bare : s'.scene.state.Bare token
  allowed : P s'.action s'.scene
  declaration_eq : visited.drive.event.declaration = d.event.declaration
  live : visited.drive.event.cancelled = d.event.cancelled
  calls_eq : ∃ own, calls s'.journal = calls s.journal ++ own ∧
    calls visited.journal = own.map (Call.ownedBy d.event.id)
  turned : Turned d.event.id s' visited ended

theorem PollEchoes.world_eq (echoes : PollEchoes token P d s s' ended visited) :
    visited.drive.world = s'.scene.world :=
  congrArg Scene.world echoes.scene_eq

theorem PollEchoes.state_eq (echoes : PollEchoes token P d s s' ended visited) :
    visited.drive.state = s'.scene.state :=
  congrArg Scene.state echoes.scene_eq

end Echoes

section Turns

variable [ActionHandler W A]

namespace OneShot

variable (name : String) (dt : Seconds) (s : OneShot W A)

def starting : Called W A Unit :=
  callHook name .start .start 0 ⟨none, dt⟩ ActionHandler.start s.action s.scene

def started : OneShot W A :=
  s.after (s.starting name dt)

def polling : Called W A Status :=
  callHook name .update .update 0 ⟨none, dt⟩ ActionHandler.update s.action s.scene

def polled : OneShot W A :=
  s.after (s.polling name dt)

def cleaning : Called W A Unit :=
  callHook name .cleanup .cleanup 0 ⟨none, dt⟩ ActionHandler.cleanup s.action s.scene

def cleaned : OneShot W A :=
  s.after (s.cleaning name dt)

def turn : OneShot W A × Option Ending :=
  match (s.polling name dt).result with
  | .error cause => (s.polled name dt, some (.failed cause))
  | .ok .running => (s.polled name dt, none)
  | .ok .done =>
    (((s.polled name dt).cleanUp name dt).1, some ((s.polled name dt).cleanUp name dt).2)

theorem cleanUp_eq : s.cleanUp name dt =
    match (s.cleaning name dt).result with
    | .ok _ => (s.cleaned name dt, .finished)
    | .error cause => (s.cleaned name dt, .failed cause) :=
  rfl

variable {name dt s}

theorem start_ok (ready : (s.starting name dt).result = .ok ()) :
    (ActionHandler.start s.action ⟨none, dt⟩ s.scene).result = .ok () := by
  simp only [starting, callHook] at ready
  cases started : (ActionHandler.start s.action ⟨none, dt⟩ s.scene).result with
  | error => simp [started, Except.mapError] at ready
  | ok => rfl

theorem run_eq (unsaid : s.backlog = []) (polls : Nat) (skip : Bool) :
    run polls name skip dt s.action s.scene =
      match (s.starting name dt).result with
      | .ok _ => proceed name dt s.scene.state.token polls skip (s.started name dt)
      | .error cause => (s.started name dt, .failed cause) := by
  rw [started, after, unsaid, List.append_nil]
  rfl

theorem proceed_turn {token : ScopeToken} (fresh : s.scene.state.token = token)
    (kept : (s.polled name dt).scene.state.token = token) (polls : Nat) :
    proceed name dt token (polls + 1) false s =
      match (s.turn name dt).2 with
      | some ending => ((s.turn name dt).1, ending)
      | none => proceed name dt token polls false (s.turn name dt).1 := by
  -- An action that is done is cleaned up without another poll, however many are left.
  have done : proceed name dt token polls true (s.polled name dt) =
      (s.polled name dt).cleanUp name dt := by
    cases polls <;> simp [proceed, kept]
  rw [proceed, if_neg (not_not_intro fresh), if_neg Bool.false_ne_true]
  have polling_eq : callHook name .update .update 0 ⟨none, dt⟩ ActionHandler.update s.action
      s.scene = s.polling name dt := rfl
  simp only [polling_eq, turn]
  rcases (s.polling name dt).result with cause | _ | _
  · rfl
  · rfl
  · exact done

end OneShot

section Polls

variable {token : ScopeToken} {dt : Seconds} {P : A → Scene W → Prop} {d : Drive W A}
  {s : OneShot W A}

namespace Meets

variable (meets : Meets token P d s) (discreet : Discreet dt P) (slot : Action)

include meets discreet

theorem start_echoes :
    Called.Echoes d.event.id (s.starting slot.kind dt) (d.startHook dt slot s.action) :=
  meets.call_echoes discreet.start slot.kind .start .start

theorem started (current : Option (InFlight A)) :
    Meets token P (d.after (d.startHook dt slot s.action) current) (s.started slot.kind dt) :=
  meets.after discreet.start slot.kind .start .start current

theorem enter_eq {factories : Dictionary (ActionFactory A)} {notices : Journal}
    (created : d.create factories slot = (.ok s.action, notices)) :
    enter factories dt token slot d =
      match (s.starting slot.kind dt).result with
      | .error cause =>
        ⟨d.after (d.startHook dt slot s.action) none,
          notices ++ (d.startHook dt slot s.action).journal,
          .stop (.error (cause.reportedBy d.event.id))⟩
      | .ok _ =>
        (poll dt token slot ⟨(s.started slot.kind dt).action, .running⟩
          (d.started dt slot s.action)).after
            (notices ++ (d.startHook dt slot s.action).journal ++
              [.actionStarted d.event.id slot]) := by
  have echoes := meets.start_echoes discreet slot
  have fresh : (d.started dt slot s.action).state.token = token :=
    (meets.started discreet slot _).fresh
  rw [MapScript.enter_eq, created]
  dsimp only
  rw [echoes.result_eq]
  cases (s.starting slot.kind dt).result with
  | error => rfl
  | ok =>
    simp only [Except.mapError, fresh, if_true, echoes.action_eq]
    rfl

theorem update_echoes :
    Called.Echoes d.event.id (s.polling slot.kind dt) (d.updateHook dt slot s.action) :=
  meets.call_echoes discreet.update slot.kind .update .update

theorem polled : Meets token P (d.polled dt slot ⟨s.action, .running⟩) (s.polled slot.kind dt) :=
  meets.after discreet.update slot.kind .update .update _

theorem closing_eq : d.closing dt slot ⟨s.action, .running⟩ =
    (d.polled dt slot ⟨s.action, .running⟩).cleanupHook dt slot (s.polled slot.kind dt).action := by
  rw [Drive.closing, (meets.update_echoes discreet slot).action_eq]
  rfl

theorem cleanup_echoes :
    Called.Echoes d.event.id ((s.polled slot.kind dt).cleaning slot.kind dt)
      (d.closing dt slot ⟨s.action, .running⟩) := by
  rw [meets.closing_eq discreet slot]
  exact (meets.polled discreet slot).call_echoes discreet.cleanup slot.kind .cleanup .cleanup

theorem closed : Meets token P (d.closed dt slot ⟨s.action, .running⟩)
    ((s.polled slot.kind dt).cleaned slot.kind dt) := by
  rw [Drive.closed, meets.closing_eq discreet slot]
  exact (meets.polled discreet slot).after discreet.cleanup slot.kind .cleanup .cleanup _

theorem poll_echoes :
    PollEchoes token P d s (s.turn slot.kind dt).1 (s.turn slot.kind dt).2
      (poll dt token slot ⟨s.action, .running⟩ d) := by
  have updated := meets.update_echoes discreet slot
  have polled := meets.polled discreet slot
  have cleaned := meets.cleanup_echoes discreet slot
  have closed := meets.closed discreet slot
  have polls_eq : calls (s.polled slot.kind dt).journal =
      calls s.journal ++ calls (s.polling slot.kind dt).journal := by
    rw [OneShot.polled, OneShot.after_journal, calls_append]
  rw [poll_eq, updated.result_eq]
  unfold OneShot.turn
  rcases (s.polling slot.kind dt).result with cause | _ | _
  · exact ⟨polled.scene_eq, polled.bare, polled.allowed, rfl, rfl,
      ⟨_, polls_eq, updated.calls_eq⟩, .failed rfl⟩
  · refine ⟨polled.scene_eq, polled.bare, polled.allowed, rfl, rfl,
      ⟨_, polls_eq, updated.calls_eq⟩, ?_⟩
    refine .waits (by simp [Except.mapError, polled.fresh]) ?_ polled.cursor
    exact congrArg (fun action => some (⟨action, .running⟩ : InFlight A)) updated.action_eq
  · -- The cleanup comes in the same frame, and its scene is the one that the poll has left.
    have closes : cleanUp dt token slot (d.updateHook dt slot s.action).action
        (d.polled dt slot ⟨s.action, .running⟩) = _ := cleanUp_eq dt token ⟨s.action, .running⟩
    have calls_eq : calls ((s.polled slot.kind dt).cleaned slot.kind dt).journal =
        calls s.journal ++ (calls (s.polling slot.kind dt).journal ++
          calls ((s.polled slot.kind dt).cleaning slot.kind dt).journal) := by
      rw [OneShot.cleaned, OneShot.after_journal, calls_append, polls_eq, List.append_assoc]
    dsimp only [Except.mapError]
    rw [closes, cleaned.result_eq, OneShot.cleanUp_eq]
    rcases ((s.polled slot.kind dt).cleaning slot.kind dt).result with cause | _
    · refine ⟨closed.scene_eq, closed.bare, closed.allowed, rfl, rfl, ⟨_, calls_eq, ?_⟩,
        .failed rfl⟩
      simp [Except.mapError, Stepped.after, updated.calls_eq, cleaned.calls_eq]
    · refine ⟨closed.scene_eq, closed.bare, closed.allowed, rfl, rfl, ⟨_, calls_eq, ?_⟩,
        .finished (if_pos closed.fresh)⟩
      simp [Except.mapError, Stepped.after, updated.calls_eq, cleaned.calls_eq]

end Meets

end Polls

theorem Lasts.turn {dt : Seconds} {n : Nat} {s : OneShot W A}
    (lasts : Lasts W dt n s.action s.scene) (name : String) :
    match (s.turn name dt).2 with
    | some _ => n = 1
    | none => ∃ m, n = m + 1 ∧
        Lasts W dt m (s.turn name dt).1.action (s.turn name dt).1.scene := by
  have result_eq : (s.polling name dt).result =
      (ActionHandler.update s.action ⟨none, dt⟩ s.scene).result.mapError _ := rfl
  unfold OneShot.turn
  cases lasts with
  | last ended =>
    rcases polled : (ActionHandler.update s.action ⟨none, dt⟩ s.scene).result with cause | _ | _
    · simp [result_eq, polled, Except.mapError]
    · exact absurd polled ended
    · simp [result_eq, polled, Except.mapError]
  | more busy later =>
    simp only [result_eq, busy, Except.mapError]
    exact ⟨_, rfl, later⟩

end Turns

end MapScript
