import MapScript.Proofs.Engine.OneShotFrame

set_option autoImplicit false

namespace MapScript

open Number Journal

variable {W A B : Type}

theorem ScopeToken.after_inj {token other : ScopeToken} {shift : Nat} :
    token.after shift = other.after shift ↔ token = other := by
  obtain ⟨number⟩ := token
  obtain ⟨number'⟩ := other
  simp [after]

theorem ScopeToken.next_after (token : ScopeToken) (shift : Nat) :
    (token.after shift).next = token.next.after shift := by
  simp [after, next, UInt64.add_assoc, UInt64.add_comm 1]

def Notice.shifted (shift : Nat) : Notice → Notice
  | .scopeReset previous token => .scopeReset previous (token.after shift)
  | .scopeLoaded name inits events token => .scopeLoaded name inits events (token.after shift)
  | notice => notice

@[simp] def Notice.tokenless : Notice → Bool
  | .scopeReset _ _ | .scopeLoaded _ _ _ _ => false
  | _ => true

namespace Journal

def shifted (shift : Nat) (journal : Journal) : Journal :=
  journal.map (Notice.shifted shift)

@[simp] theorem shifted_nil (shift : Nat) : shifted shift [] = [] := rfl

@[simp] theorem shifted_cons (shift : Nat) (notice : Notice) (rest : Journal) :
    shifted shift (notice :: rest) = notice.shifted shift :: shifted shift rest := rfl

@[simp] theorem shifted_append (shift : Nat) (earlier later : Journal) :
    shifted shift (earlier ++ later) = shifted shift earlier ++ shifted shift later :=
  List.map_append

theorem shifted_reverse (shift : Nat) (journal : Journal) :
    shifted shift journal.reverse = (shifted shift journal).reverse :=
  List.map_reverse

theorem shifted_of_tokenless {journal : Journal} (tokenless : journal.Only Notice.tokenless)
    (shift : Nat) : shifted shift journal = journal := by
  refine (List.map_congr_left fun notice member => ?_).trans (List.map_id _)
  have known := tokenless notice member
  cases notice <;> first | rfl | cases known

end Journal

theorem Notice.tokenless_of_quiet (notice : Notice) (quiet : notice.quiet = true) :
    notice.tokenless = true := by
  cases notice <;> first | rfl | cases quiet

theorem Notice.tokenless_of_admits (notice : Notice) (admits : notice.admits = true) :
    notice.tokenless = true := by
  cases notice <;> first | rfl | cases admits

theorem Cancels.shifted {running running' : List (RunningEvent A)} {journal : Journal}
    (cancels : Cancels running journal running') (shift : Nat) : journal.shifted shift = journal :=
  shifted_of_tokenless (cancels.quiet.mono Notice.tokenless_of_quiet) shift

namespace ScopeState

def shifted (shift : Nat) (s : ScopeState) : ScopeState :=
  { s with token := s.token.after shift }

theorem apply_shifted (shift : Nat) (s : ScopeState) (effect : Effect) :
    (s.shifted shift).apply effect =
      ((s.apply effect).1.shifted shift, (s.apply effect).2.shifted shift) := by
  cases effect <;> simp [apply, load, reset, shifted, ScopeToken.next_after, Notice.shifted]

theorem applyAll_shifted (shift : Nat) (s : ScopeState) (effects : List Effect) :
    (s.shifted shift).applyAll effects =
      ((s.applyAll effects).1.shifted shift, (s.applyAll effects).2.shifted shift) := by
  induction effects generalizing s with
  | nil => rfl
  | cons effect rest ih => simp [applyAll, apply_shifted, ih]

end ScopeState

def Scene.shifted (shift : Nat) (scene : Scene W) : Scene W :=
  { scene with state := scene.state.shifted shift }

@[simp] theorem Scene.shifted_token (shift : Nat) (scene : Scene W) :
    (scene.shifted shift).state.token = scene.state.token.after shift := rfl

def Called.shifted (shift : Nat) (called : Called W A B) : Called W A B :=
  { called with
    scene := called.scene.shifted shift
    journal := called.journal.shifted shift }

/-- No hook looks at the number of the scope token. -/
structure TokenBlind (W A : Type) [ActionHandler W A] : Prop where
  start_eq : ∀ (action : A) (moment : Moment) (scene : Scene W) (token : ScopeToken),
    ActionHandler.start action moment { scene with state := { scene.state with token } } =
      ActionHandler.start action moment scene
  update_eq : ∀ (action : A) (moment : Moment) (scene : Scene W) (token : ScopeToken),
    ActionHandler.update action moment { scene with state := { scene.state with token } } =
      ActionHandler.update action moment scene
  cleanup_eq : ∀ (action : A) (moment : Moment) (scene : Scene W) (token : ScopeToken),
    ActionHandler.cleanup action moment { scene with state := { scene.state with token } } =
      ActionHandler.cleanup action moment scene

theorem callHook_shifted [Replies B] (shift : Nat) (kind : String) (phase : Phase) (hook : Hook)
    (slot : Nat) (moment : Moment) {hookOf : A → Moment → Scene W → Outcome W A B} (action : A)
    (scene : Scene W) (blind : hookOf action moment (scene.shifted shift) =
      hookOf action moment scene) :
    callHook kind phase hook slot moment hookOf action (scene.shifted shift) =
      (callHook kind phase hook slot moment hookOf action scene).shifted shift := by
  have moved : (scene.state.applyAll (hookOf action moment scene).effects).1.token.after shift =
      scene.state.token.after shift ↔
        (scene.state.applyAll (hookOf action moment scene).effects).1.token = scene.state.token :=
    ScopeToken.after_inj
  unfold callHook
  rw [blind]
  simp only [Scene.shifted, ScopeState.applyAll_shifted]
  simp [Called.shifted, Scene.shifted, ScopeState.shifted, moved, Notice.shifted]

def Drive.shifted (shift : Nat) (d : Drive W A) : Drive W A :=
  { d with state := d.state.shifted shift }

def Stepped.shifted (shift : Nat) (s : Stepped W A) : Stepped W A :=
  { s with
    drive := s.drive.shifted shift
    journal := s.journal.shifted shift }

def Drained.shifted (shift : Nat) (s : Drained W A) : Drained W A :=
  { s with
    drive := s.drive.shifted shift
    journal := s.journal.shifted shift }

@[simp] theorem Drive.shifted_event (shift : Nat) (d : Drive W A) :
    (d.shifted shift).event = d.event := rfl

@[simp] theorem Drive.shifted_scene (shift : Nat) (d : Drive W A) :
    (d.shifted shift).scene = d.scene.shifted shift := rfl

theorem Drive.after_shifted (shift : Nat) (d : Drive W A) (called : Called W A B)
    (current : Option (InFlight A)) :
    (d.shifted shift).after (called.shifted shift) current =
      (d.after called current).shifted shift := rfl

@[simp] theorem Drive.shifted_token (shift : Nat) (d : Drive W A) :
    (d.shifted shift).state.token = d.state.token.after shift := rfl

theorem Stepped.after_shifted (shift : Nat) (notices : Journal) (s : Stepped W A) :
    (s.shifted shift).after (notices.shifted shift) = (s.after notices).shifted shift := by
  simp [after, shifted]

theorem createAction_shifted (shift : Nat) (factories : Dictionary (ActionFactory A))
    (owner : Option EventId) (slot : Nat) (name : String) (parameters : List String) :
    shifted shift (createAction factories owner slot name parameters).2 =
      (createAction factories owner slot name parameters).2 :=
  shifted_of_tokenless
    ((createAction_quiet factories owner slot name parameters).mono Notice.tokenless_of_quiet) shift

section Hooks

variable [ActionHandler W A] (blind : TokenBlind W A) (shift : Nat)
  (factories : Dictionary (ActionFactory A)) (dt : Seconds) (token : ScopeToken) (slot : Action)
  (d : Drive W A)

include blind

theorem cleanUp_shifted (action : A) :
    cleanUp dt (token.after shift) slot action (d.shifted shift) =
      (cleanUp dt token slot action d).shifted shift := by
  have hook := callHook_shifted shift slot.kind .cleanup .cleanup d.event.cursor
    ⟨some d.event.id, dt⟩ action d.scene (blind.cleanup_eq _ _ _ _)
  simp only [cleanUp, Drive.shifted_event, Drive.shifted_scene, hook, Drive.after_shifted]
  generalize callHook slot.kind .cleanup .cleanup d.event.cursor ⟨some d.event.id, dt⟩
    ActionHandler.cleanup action d.scene = called
  obtain ⟨action, scene, journal, cause | _⟩ := called
  · rfl
  · by_cases same : scene.state.token = token <;>
      simp [Called.shifted, Stepped.shifted, Drive.after, Drive.shifted, ScopeState.shifted,
        ScopeToken.after_inj, Notice.shifted, same]

theorem poll_shifted (current : InFlight A) :
    poll dt (token.after shift) slot current (d.shifted shift) =
      (poll dt token slot current d).shifted shift := by
  have hook := callHook_shifted shift slot.kind .update .update d.event.cursor
    ⟨some d.event.id, dt⟩ current.action d.scene (blind.update_eq _ _ _ _)
  simp only [poll, Drive.shifted_event, Drive.shifted_scene, hook, Drive.after_shifted,
    Drive.shifted_token, ScopeToken.after_inj]
  generalize callHook slot.kind .update .update d.event.cursor ⟨some d.event.id, dt⟩
    ActionHandler.update current.action d.scene = called
  obtain ⟨action, scene, journal, cause | _ | _⟩ := called
  · rfl
  · rfl
  · simp only [Called.shifted]
    rw [cleanUp_shifted blind, Stepped.after_shifted]

theorem enter_shifted :
    enter factories dt (token.after shift) slot (d.shifted shift) =
      (enter factories dt token slot d).shifted shift := by
  have written := createAction_shifted shift factories (some d.event.id) d.event.cursor slot.kind
    slot.parameters
  simp only [enter, Drive.shifted_event, Drive.shifted_scene]
  rcases created : createAction factories (some d.event.id) d.event.cursor slot.kind
    slot.parameters with ⟨cause | action, notices⟩ <;> rw [created] at written
  · simp [Stepped.shifted, written]
  · have hook := callHook_shifted shift slot.kind .start .start d.event.cursor
      ⟨some d.event.id, dt⟩ action d.scene (blind.start_eq _ _ _ _)
    simp only [hook, Drive.after_shifted, Drive.shifted_token, ScopeToken.after_inj]
    generalize callHook slot.kind .start .start d.event.cursor ⟨some d.event.id, dt⟩
      ActionHandler.start action d.scene = called
    obtain ⟨action, scene, journal, cause | _⟩ := called
    · simp [Called.shifted, Stepped.shifted, written]
    · have started : notices ++ shifted shift journal ++ [.actionStarted d.event.id slot] =
          shifted shift (notices ++ journal ++ [.actionStarted d.event.id slot]) := by
        simp [written, Notice.shifted]
      simp only [Called.shifted, started]
      split
      · rw [poll_shifted blind, Stepped.after_shifted]
      · rfl

theorem visitSlot_shifted :
    visitSlot factories dt (token.after shift) slot (d.shifted shift) =
      (visitSlot factories dt token slot d).shifted shift := by
  simp only [visitSlot, Drive.shifted_event]
  cases d.event.current with
  | none => exact enter_shifted blind shift factories dt token slot d
  | some current =>
    dsimp only
    split
    · rfl
    · exact poll_shifted blind shift dt token slot d current

theorem drainSlots_shifted (slots : List Action) :
    drainSlots factories dt (token.after shift) slots (d.shifted shift) =
      (drainSlots factories dt token slots d).shifted shift := by
  induction slots generalizing d with
  | nil => rfl
  | cons slot rest ih =>
    simp only [drainSlots, visitSlot_shifted blind]
    generalize visitSlot factories dt token slot d = visited
    obtain ⟨drive, journal, result | _⟩ := visited
    · rfl
    · simp [Stepped.shifted, ih, Drained.shifted]

theorem drain_shifted :
    drain factories dt (d.shifted shift) = (drain factories dt d).shifted shift :=
  drainSlots_shifted blind shift factories dt d.state.token d _

end Hooks

def Sweep.shifted (shift : Nat) (s : Sweep W A) : Sweep W A :=
  { s with state := s.state.shifted shift }

def Swept.shifted (shift : Nat) (s : Swept W A) : Swept W A :=
  { s with
    sweep := s.sweep.shifted shift
    journal := s.journal.shifted shift }

namespace Sweep

@[simp] theorem shifted_running (shift : Nat) (s : Sweep W A) :
    (s.shifted shift).running = s.running := rfl

@[simp] theorem shifted_world (shift : Nat) (s : Sweep W A) :
    (s.shifted shift).world = s.world := rfl

@[simp] theorem shifted_state (shift : Nat) (s : Sweep W A) :
    (s.shifted shift).state = s.state.shifted shift := rfl

theorem afterDrain_shifted (shift : Nat) (s : Sweep W A) (index : Nat) (drive : Drive W A) :
    (s.shifted shift).afterDrain index (drive.shifted shift) =
      (s.afterDrain index drive).shifted shift := rfl

def Visit.shifted (shift : Nat) (visited : Sweep W A × Journal × Visit) :
    Sweep W A × Journal × Visit :=
  (visited.1.shifted shift, visited.2.1.shifted shift, visited.2.2)

variable [ActionHandler W A] (shift : Nat) (token : ScopeToken) (s : Sweep W A)

theorem applyPending_shifted :
    (s.shifted shift).applyPending =
      (s.applyPending.1.shifted shift, s.applyPending.2.shifted shift) := by
  have written := (applyRequests_cancels (W := W) s.state.requests s.running).shifted shift
  simp [applyPending, shifted, ScopeState.shifted, written]

theorem close_shifted :
    (s.shifted shift).close (token.after shift) =
      ((s.close token).1.shifted shift, (s.close token).2.shifted shift) := by
  have token_eq : (s.shifted shift).state.token = s.state.token.after shift := rfl
  simp only [close, token_eq, ScopeToken.after_inj, applyPending_shifted]
  split <;> rfl

theorem settled_shifted (journal notices : Journal) :
    (if (s.shifted shift).state.token = token.after shift then
      ((s.shifted shift).applyPending.1,
        journal.shifted shift ++ notices.shifted shift ++ (s.shifted shift).applyPending.2,
        Visit.next)
    else (s.shifted shift, journal.shifted shift ++ notices.shifted shift, .abandoned)) =
      Visit.shifted shift (if s.state.token = token then
        (s.applyPending.1, journal ++ notices ++ s.applyPending.2, .next)
      else (s, journal ++ notices, .abandoned)) := by
  have token_eq : (s.shifted shift).state.token = s.state.token.after shift := rfl
  simp only [token_eq, ScopeToken.after_inj, applyPending_shifted]
  split <;> simp [Visit.shifted]

variable (blind : TokenBlind W A) (factories : Dictionary (ActionFactory A))
  (policy : FailurePolicy) (dt : Seconds)

include blind

theorem visit_shifted (index : Nat) (event : RunningEvent A) :
    visit factories policy dt (token.after shift) index event (s.shifted shift) =
      Visit.shifted shift (visit factories policy dt token index event s) := by
  unfold visit
  split
  · rfl
  · have drained := drain_shifted blind shift factories dt ⟨event, s.world, s.state⟩
    have start : (⟨event, s.world, s.state.shifted shift⟩ : Drive W A) =
      Drive.shifted shift ⟨event, s.world, s.state⟩ := rfl
    simp only [shifted_world, shifted_state, start, drained]
    generalize drain factories dt ⟨event, s.world, s.state⟩ = drained
    obtain ⟨drive, journal, cause | _ | _ | _⟩ := drained
    · cases policy with
      | abort => simp [Drained.shifted, Visit.shifted, Notice.shifted, afterDrain_shifted]
      | dropEvent =>
        exact settled_shifted shift token ((s.afterDrain index drive).finish event.id) journal
          [.eventDropped event.id cause]
    · exact settled_shifted shift token (s.afterDrain index drive) journal []
    · exact settled_shifted shift token ((s.afterDrain index drive).finish event.id) journal []
    · simp [Drained.shifted, Visit.shifted, Notice.shifted, afterDrain_shifted]

theorem visitFrom_shifted (visits index : Nat) :
    visitFrom factories policy dt (token.after shift) visits index (s.shifted shift) =
      (visitFrom factories policy dt token visits index s).shifted shift := by
  induction visits generalizing index s with
  | zero => simp only [visitFrom, close_shifted, Swept.shifted]
  | succ visits ih =>
    simp only [visitFrom, shifted_running]
    cases s.running[index]? with
    | none => exact ih s (index + 1)
    | some event =>
      simp only [visit_shifted shift token s blind]
      generalize visit factories policy dt token index event s = visited
      obtain ⟨next, notices, _ | _ | cause⟩ := visited
      · simp only [Visit.shifted, ih, Swept.shifted, shifted_append]
      · rfl
      · simp only [Visit.shifted, close_shifted, Swept.shifted, shifted_append]

theorem run_shifted :
    run factories policy dt (s.shifted shift) = (run factories policy dt s).shifted shift := by
  have token_eq : (s.shifted shift).state.token = s.state.token.after shift := rfl
  simp only [run, applyPending_shifted, token_eq, shifted_running,
    visitFrom_shifted shift _ _ blind]
  simp [Swept.shifted]

end Sweep

end MapScript
