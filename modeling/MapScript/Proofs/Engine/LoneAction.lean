import MapScript.Proofs.Engine.DiscreetHooks
import MapScript.Proofs.Engine.FrameTiming

set_option autoImplicit false

namespace MapScript

open Number Journal

variable {W A : Type}

namespace Engine

def afterVisit (engine : Engine W A) (id : EventId) (visited : Stepped W A) : Updated W A :=
  let after (running : List (RunningEvent A)) : Engine W A :=
    { engine with trace := [], running, state := visited.drive.state }
  match visited.step with
  | .next =>
    ⟨after [], visited.drive.world, visited.journal ++ [.eventFinished id], .ok ()⟩
  | .stop (.ok .blocked) =>
    ⟨after [visited.drive.event], visited.drive.world, visited.journal, .ok ()⟩
  | .stop (.ok .complete) => ⟨after [], visited.drive.world, visited.journal, .ok ()⟩
  | .stop (.ok .scopeChanged) =>
    ⟨after [], visited.drive.world, visited.journal ++ [.scopeAbandoned id], .ok ()⟩
  | .stop (.error cause) =>
    ⟨after [visited.drive.event], visited.drive.world,
      visited.journal ++ [.frameAborted id cause], .error cause⟩

variable (engine : Engine W A) (id : EventId) (visited : Stepped W A)

@[simp] theorem afterVisit_state :
    (engine.afterVisit id visited).engine.state = visited.drive.state := by
  unfold afterVisit
  split <;> rfl

@[simp] theorem afterVisit_world : (engine.afterVisit id visited).world = visited.drive.world := by
  unfold afterVisit
  split <;> rfl

@[simp] theorem afterVisit_calls :
    calls (engine.afterVisit id visited).journal = calls visited.journal := by
  unfold afterVisit
  split <;> simp

end Engine

section Frames

variable [ActionHandler W A]

namespace Engine

/-- `engine.PlaysOut dt id world frames journal last world' result`: updates one after the other,
until one fails or the event has gone. -/
inductive PlaysOut (dt : Seconds) (id : EventId) :
    Engine W A → W → Nat → Journal → Engine W A → W → Except EngineError Unit → Prop
  | gone {engine : Engine W A} {world : W} {updated : Updated W A}
      (update_eq : engine.update world dt = updated) (fine : updated.result = .ok ())
      (gone : updated.engine.isRunning id = false) :
      PlaysOut dt id engine world 1 updated.journal updated.engine updated.world (.ok ())
  | failed {engine : Engine W A} {world : W} {updated : Updated W A} {cause : EngineError}
      (update_eq : engine.update world dt = updated) (failed : updated.result = .error cause) :
      PlaysOut dt id engine world 1 updated.journal updated.engine updated.world (.error cause)
  | again {engine last : Engine W A} {world world' : W} {updated : Updated W A} {frames : Nat}
      {later : Journal} {result : Except EngineError Unit}
      (update_eq : engine.update world dt = updated) (fine : updated.result = .ok ())
      (stays : updated.engine.isRunning id = true)
      (rest : PlaysOut dt id updated.engine updated.world frames later last world' result) :
      PlaysOut dt id engine world (frames + 1) (updated.journal ++ later) last world' result

/-- An engine in which nothing runs but one event, with a script of one action. -/
structure Lone (token : ScopeToken) (slot : Action) (e : RunningEvent A) (engine : Engine W A) :
    Prop where
  running_eq : engine.running = [e]
  bare : engine.state.Bare token
  strict : engine.settings.failurePolicy = .abort
  live : e.cancelled = false
  script : e.declaration.actions = [slot]
  cursor : e.cursor = 0

structure Faces (token : ScopeToken) (slot : Action) (e : RunningEvent A) (world : W) (dt : Seconds)
    (notices : Journal) (d : Drive W A) (action : A) (engine : Engine W A) : Prop where
  lone : engine.Lone token slot e
  visit_eq : visitSlot engine.actions dt token slot ⟨e, world, engine.state⟩ =
    (poll dt token slot ⟨action, .running⟩ d).after notices
  declaration_eq : d.event.declaration = e.declaration
  live : d.event.cancelled = false

def Repeats (engine : Engine W A) (world : W) (dt : Seconds) (id : EventId) (n : Nat)
    (notices : Journal) (s : OneShot W A) (ran : OneShot W A × Ending) : Prop :=
  ∃ own frames journal last world' result,
    calls ran.1.journal = calls s.journal ++ own ∧
    engine.PlaysOut dt id world frames journal last world' result ∧
    calls journal = calls notices ++ own.map (Call.ownedBy id) ∧
    world' = ran.1.scene.world ∧ last.state = ran.1.scene.state ∧
    ran.1.scene.state.requests = [] ∧
    (ran.2 = .finished ∧ result = .ok () ∧ frames = n ∨
      ∃ cause, ran.2 = .failed cause ∧ result = .error (cause.reportedBy id))

variable {engine : Engine W A} {token : ScopeToken} {slot : Action} {e : RunningEvent A} {world : W}
  {dt : Seconds}

namespace Lone

theorem drain_eq (lone : engine.Lone token slot e) {visited : Stepped W A}
    (visit_eq : visitSlot engine.actions dt token slot ⟨e, world, engine.state⟩ = visited) :
    drain engine.actions dt ⟨e, world, engine.state⟩ =
      match visited.step with
      | .stop result => ⟨visited.drive, visited.journal, result⟩
      | .next =>
        ⟨visited.drive, visited.journal ++ [.eventFinished visited.drive.event.id],
          .ok .complete⟩ := by
  obtain ⟨drive, journal, _ | _⟩ := visited <;>
    simp [drain, lone.script, lone.cursor, lone.bare.token_eq, drainSlots, visit_eq]

theorem update_eq (lone : engine.Lone token slot e) {visited : Stepped W A}
    (visit_eq : visitSlot engine.actions dt token slot ⟨e, world, engine.state⟩ = visited)
    (bare : visited.drive.state.Bare token) (same : visited.drive.event.id = e.id) :
    engine.update world dt = engine.afterVisit e.id visited := by
  have drained := lone.drain_eq visit_eq
  -- With the fields in place of the records the frame computes, up to what the visit has led to.
  obtain ⟨actions, conditions, settings, ⟨scope, _, memory, requests⟩, running, trace⟩ := engine
  obtain ⟨⟨event, after, scope', _, memory', requests'⟩, journal, step⟩ := visited
  obtain ⟨running_eq, ⟨unscoped, fresh, idle⟩, strict, live, script, cursor⟩ := lone
  obtain ⟨unscoped', fresh', idle'⟩ := bare
  dsimp only at *
  subst running_eq unscoped idle fresh unscoped' idle' fresh'
  rcases step with (cause | _ | _ | _) | _ <;>
    simp [update, intake, declarations, startSatisfied, sweep, Sweep.run, Sweep.applyPending,
      applyRequests, Sweep.visitFrom, Sweep.visit, Sweep.afterDrain, Sweep.close, Sweep.settle,
      Sweep.finish, Sweep.abandon, live, strict, same, drained, afterVisit]

end Lone

namespace Faces

variable {P : A → Scene W → Prop} {notices : Journal} {d : Drive W A} {action : A}
  {s s' : OneShot W A} {ended : Option Ending} {visited : Stepped W A}
  (faces : engine.Faces token slot e world dt notices d action)
  (echoes : PollEchoes token P d s s' ended visited)

include faces echoes

theorem id_eq : visited.drive.event.id = e.id :=
  congrArg Event.id (echoes.declaration_eq.trans faces.declaration_eq)

theorem update_eq (polled : poll dt token slot ⟨action, .running⟩ d = visited) :
    engine.update world dt = engine.afterVisit e.id (visited.after notices) :=
  have same := faces.id_eq echoes
  faces.lone.update_eq (polled ▸ faces.visit_eq) (echoes.state_eq ▸ echoes.bare) same

theorem next (blocked : visited.step = .stop (.ok .blocked))
    (flying : visited.drive.event.current = some ⟨s'.action, .running⟩)
    (here : visited.drive.event.cursor = 0) :
    let updated := engine.afterVisit e.id (visited.after notices)
    updated.engine.Faces token slot visited.drive.event updated.world dt [] visited.drive
      s'.action := by
  have declaration_eq := echoes.declaration_eq.trans faces.declaration_eq
  simp only [afterVisit, Stepped.after, blocked]
  refine ⟨⟨rfl, echoes.state_eq ▸ echoes.bare, faces.lone.strict, echoes.live.trans faces.live,
    declaration_eq ▸ faces.lone.script, here⟩, ?_, rfl, echoes.live.trans faces.live⟩
  simp [visitSlot, flying, Stepped.after]

end Faces

theorem Repeats.again {id : EventId} {n : Nat} {notices : Journal} {updated : Updated W A}
    {s s' : OneShot W A} {ran : OneShot W A × Ending} {own : List Call}
    (update_eq : engine.update world dt = updated) (fine : updated.result = .ok ())
    (stays : updated.engine.isRunning id = true)
    (own_eq : calls s'.journal = calls s.journal ++ own)
    (calls_eq : calls updated.journal = calls notices ++ own.map (Call.ownedBy id))
    (later : updated.engine.Repeats updated.world dt id n [] s' ran) :
    engine.Repeats world dt id (n + 1) notices s ran := by
  obtain ⟨own', frames, journal, last, world', result, own_eq', plays, calls_eq', world_eq,
    state_eq, idle, ends⟩ := later
  refine ⟨own ++ own', frames + 1, _, last, world', result, ?_, .again update_eq fine stays plays,
    ?_, world_eq, state_eq, idle, by simpa using ends⟩
  · rw [own_eq', own_eq, List.append_assoc]
  · simp [calls_eq, calls_eq']

theorem Faces.repeats {P : A → Scene W → Prop} (discreet : Discreet dt P) {n polls : Nat}
    (enough : n ≤ polls) {notices : Journal} {d : Drive W A} {s : OneShot W A}
    (faces : engine.Faces token slot e world dt notices d s.action) (meets : Meets token P d s)
    (lasts : Lasts W dt n s.action s.scene) :
    engine.Repeats world dt e.id n notices s
      (OneShot.proceed slot.kind dt token polls false s) := by
  -- Each frame uses up one poll, and the run goes on as often as the action lasts.
  induction n generalizing engine e world notices d s polls with
  | zero => cases lasts
  | succ n ih =>
    obtain ⟨polls, rfl⟩ : ∃ more, polls = more + 1 := ⟨polls - 1, by omega⟩
    have echoes := meets.poll_echoes discreet slot
    have turns := lasts.turn slot.kind
    rw [OneShot.proceed_turn meets.bare.token_eq (meets.polled discreet slot).bare.token_eq]
    generalize s.turn slot.kind dt = turn at echoes turns ⊢
    generalize polled : poll dt token slot ⟨s.action, .running⟩ d = visited at echoes
    obtain ⟨s', ended⟩ := turn
    obtain ⟨own, own_eq, calls_eq⟩ := echoes.calls_eq
    have id_eq : d.event.id = e.id := congrArg Event.id faces.declaration_eq
    have update_eq := faces.update_eq echoes polled
    have turned := echoes.turned
    rw [id_eq] at calls_eq turned
    have calls_eq' : calls (engine.afterVisit e.id (visited.after notices)).journal =
        calls notices ++ own.map (Call.ownedBy e.id) := by
      simp [Stepped.after, calls_eq]
    have world_eq := (engine.afterVisit_world e.id (visited.after notices)).trans echoes.world_eq
    have state_eq := (engine.afterVisit_state e.id (visited.after notices)).trans echoes.state_eq
    cases turned with
    | finished passes =>
      refine ⟨own, 1, _, _, _, _, own_eq, .gone update_eq ?_ ?_, calls_eq', world_eq, state_eq,
        echoes.bare.idle, .inl ⟨rfl, rfl, turns.symm⟩⟩
      · simp [afterVisit, Stepped.after, passes]
      · simp [afterVisit, Stepped.after, passes, isRunning]
    | failed stops =>
      refine ⟨own, 1, _, _, _, _, own_eq, .failed update_eq ?_, calls_eq', world_eq, state_eq,
        echoes.bare.idle, .inr ⟨_, rfl, rfl⟩⟩
      simp [afterVisit, Stepped.after, stops]
    | waits blocked flying here =>
      -- The event is now in flight, so the next frame polls it without a start.
      obtain ⟨m, same, later⟩ := turns
      obtain rfl : n = m := by omega
      have next := ih (show n ≤ polls by omega) (faces.next echoes blocked flying here)
        ⟨echoes.scene_eq, here, echoes.bare, echoes.allowed⟩ later
      rw [faces.id_eq echoes] at next
      refine Repeats.again update_eq ?_ ?_ own_eq calls_eq' next
      · simp [afterVisit, Stepped.after, blocked]
      · simp [afterVisit, Stepped.after, blocked, isRunning, faces.id_eq echoes]

theorem Repeats.since {id : EventId} {n : Nat} {notices notices' : Journal} {s s' : OneShot W A}
    {ran : OneShot W A × Ending} {own : List Call}
    (own_eq : calls s'.journal = calls s.journal ++ own)
    (calls_eq : calls notices' = calls notices ++ own.map (Call.ownedBy id))
    (later : engine.Repeats world dt id n notices' s' ran) :
    engine.Repeats world dt id n notices s ran := by
  obtain ⟨own', frames, journal, last, world', result, own_eq', plays, calls_eq', ends⟩ := later
  refine ⟨own ++ own', frames, journal, last, world', result, ?_, plays, ?_, ends⟩
  · rw [own_eq', own_eq, List.append_assoc]
  · simp [calls_eq, calls_eq']

theorem Lone.repeats {P : A → Scene W → Prop} (discreet : Discreet dt P) {n polls : Nat}
    (enough : n ≤ polls) (lone : engine.Lone token slot e) (idle : e.current = none)
    {s : OneShot W A} {notices : Journal} (unsaid : s.backlog = [])
    (meets : Meets token P ⟨e, world, engine.state⟩ s)
    (created : createAction engine.actions (some e.id) 0 slot.kind slot.parameters =
      (.ok s.action, notices))
    (lasts : (s.starting slot.kind dt).result = .ok () →
      Lasts W dt n (s.started slot.kind dt).action (s.started slot.kind dt).scene) :
    engine.Repeats world dt e.id n [] s
      (OneShot.run polls slot.kind false dt s.action s.scene) := by
  have created' : Drive.create engine.actions slot (⟨e, world, engine.state⟩ : Drive W A) =
      (.ok s.action, notices) := by
    rw [Drive.create, meets.cursor]
    exact created
  have silent : calls notices = [] := by
    have silent := createAction_calls engine.actions (some e.id) 0 slot.kind slot.parameters
    rwa [created] at silent
  have echoes := meets.start_echoes discreet slot
  have own_eq : calls (s.started slot.kind dt).journal =
      calls s.journal ++ calls (s.starting slot.kind dt).journal := by
    rw [OneShot.started, OneShot.after_journal, calls_append]
  have visit_eq : visitSlot engine.actions dt token slot ⟨e, world, engine.state⟩ =
      enter engine.actions dt token slot ⟨e, world, engine.state⟩ := by
    simp [visitSlot, idle]
  rw [meets.enter_eq discreet slot created'] at visit_eq
  rw [OneShot.run_eq unsaid, meets.bare.token_eq]
  rcases ready : (s.starting slot.kind dt).result with cause | _
  · -- A failed start is the whole frame: the action is not polled, and the error ends it.
    have left := meets.started discreet slot none
    rw [ready] at visit_eq
    have update_eq := lone.update_eq visit_eq (left.state_eq ▸ left.bare) rfl
    refine ⟨_, 1, _, _, _, _, own_eq, .failed update_eq rfl, ?_, left.world_eq, left.state_eq,
      left.bare.idle, .inr ⟨cause, rfl, rfl⟩⟩
    simp [silent, echoes.calls_eq]
  · have begun := meets.started discreet slot
      (some ⟨((⟨e, world, engine.state⟩ : Drive W A).startHook dt slot s.action).action, .running⟩)
    rw [ready] at visit_eq
    have faces : engine.Faces token slot e world dt _ _ _ := ⟨lone, visit_eq, rfl, lone.live⟩
    refine Repeats.since own_eq ?_ (faces.repeats discreet enough begun (lasts ready))
    simp [silent, echoes.calls_eq]

theorem Lone.plays_out_refused (lone : engine.Lone token slot e) (idle : e.current = none)
    {cause : EngineError} {notices : Journal}
    (created : createAction engine.actions (some e.id) 0 slot.kind slot.parameters =
      (.error cause, notices)) :
    ∃ journal last, engine.PlaysOut dt e.id world 1 journal last world (.error cause) ∧
      calls journal = [] ∧ last.state = engine.state := by
  have silent := createAction_calls engine.actions (some e.id) 0 slot.kind slot.parameters
  rw [created] at silent
  have visit_eq : visitSlot engine.actions dt token slot ⟨e, world, engine.state⟩ =
      ⟨⟨e, world, engine.state⟩, notices, .stop (.error cause)⟩ := by
    simp only [visitSlot, idle, enter, lone.cursor]
    rw [show (⟨e, world, engine.state⟩ : Drive W A).event.id = e.id from rfl, created]
  refine ⟨_, _, .failed (lone.update_eq visit_eq lone.bare rfl) rfl, ?_, rfl⟩
  simpa using silent

omit [ActionHandler W A] in
theorem startEvent_alone {event : Event} (unscoped : engine.state.scope = none)
    (resting : engine.running = []) :
    engine.startEvent event =
      (true, { engine with running := [.start event] },
        [.eventStarted event.id event.name event.actions.length]) := by
  simp [startEvent, isRunning, retireInit, unscoped, resting]

theorem execute_alone (resting : engine.running = []) {polls : Nat} {name : String}
    {parameters : List String} {skip : Bool} {action : A} {notices : Journal} {shot : OneShot W A}
    {ending : Ending}
    (created : createAction engine.actions none 0 name parameters = (.ok action, notices))
    (ran : OneShot.run polls name skip dt action ⟨world, Dictionary.empty, engine.state⟩ =
      (shot, ending))
    (quiet : shot.scene.state.requests = []) :
    engine.execute polls world name parameters skip dt =
      ⟨{ engine with state := shot.scene.state }, shot.scene.world,
        notices ++ shot.journal ++ ending.notices name, ending⟩ := by
  obtain ⟨action', ⟨world', locals, scope, token, memory, requests⟩, backlog⟩ := shot
  dsimp only at quiet
  subst quiet
  cases ending <;>
    simp [execute, created, ran, resting, applyRequests, OneShot.journal, Ending.notices]

theorem lone_action_agrees {dt : Seconds} {P : A → Scene W → Prop} (discreet : Discreet dt P)
    (engine : Engine W A) (world : W) (event : Event) (name comment : String)
    (parameters : List String) (n polls : Nat)
    (script : event.actions = [⟨name, parameters, comment⟩])
    (unscoped : engine.state.scope = none) (resting : engine.running = [])
    (idle : engine.state.requests = []) (strict : engine.settings.failurePolicy = .abort)
    (enough : n ≤ polls)
    (lasts : ∀ factory action, engine.actions.find? name = some factory →
      factory (Arguments.ofParameters parameters) = .ok action →
      let scene : Scene W := ⟨world, Dictionary.empty, engine.state⟩
      let started := ActionHandler.start action ⟨none, dt⟩ scene
      P action scene ∧ (started.result = .ok () →
        Lasts W dt n started.action (started.scene engine.state))) :
    let started := engine.startEvent event
    let executed := engine.execute polls world name parameters false dt
    started.1 = true ∧ calls started.2.2 = [] ∧ ∃ frames journal last result,
      started.2.1.PlaysOut dt event.id world frames journal last executed.world result ∧
      calls journal = (calls executed.journal).map (Call.ownedBy event.id) ∧
      last.state = executed.engine.state ∧
      (executed.ending = .finished ∧ result = .ok () ∧ frames = n ∨
        ∃ cause, executed.ending = .failed cause ∧ result = .error (cause.reportedBy event.id)) := by
  intro started executed
  have lone : ({ engine with running := [.start event] } : Engine W A).Lone engine.state.token
      ⟨name, parameters, comment⟩ (.start event) :=
    ⟨rfl, ⟨unscoped, rfl, idle⟩, strict, rfl, script, rfl⟩
  have started_eq : started = _ := startEvent_alone unscoped resting
  rw [started_eq]
  refine ⟨rfl, rfl, ?_⟩
  have owned := createAction_echoes engine.actions event.id name parameters
  have silent := createAction_calls engine.actions none 0 name parameters
  rcases asked : createAction engine.actions (some event.id) 0 name parameters with
    ⟨answer, notices'⟩
  rcases created : createAction engine.actions none 0 name parameters with
    ⟨cause | action, notices⟩
  -- An action that cannot be built is refused by both, and nothing else happens.
  · rw [asked, created] at owned
    rw [created] at silent
    obtain rfl : answer = .error (cause.reportedBy event.id) := owned
    have executed_eq : executed = ⟨engine, world, notices, .failed cause⟩ := by
      simp only [executed, execute, created]
    obtain ⟨journal, last, plays, none, state_eq⟩ := lone.plays_out_refused rfl asked
    rw [executed_eq]
    refine ⟨1, journal, last, _, plays, ?_, state_eq, .inr ⟨cause, rfl, rfl⟩⟩
    rw [none, silent, List.map_nil]
  · rw [asked, created] at owned
    rw [created] at silent
    obtain rfl : answer = .ok action := owned
    obtain ⟨factory, known, built⟩ := createAction_built created
    obtain ⟨allowed, later⟩ := lasts factory action known built
    rcases ran : OneShot.run polls name false dt action ⟨world, Dictionary.empty, engine.state⟩ with
      ⟨shot, ending⟩
    have meets : Meets engine.state.token P ⟨.start event, world, engine.state⟩
        ⟨action, ⟨world, Dictionary.empty, engine.state⟩, []⟩ := ⟨rfl, rfl, lone.bare, allowed⟩
    have repeats := lone.repeats discreet enough rfl rfl meets asked fun ready =>
      later (OneShot.start_ok ready)
    obtain ⟨own, frames, journal, last, _, result, own_eq, plays, calls_eq, rfl, state_eq, quiet,
      ends⟩ := ran ▸ repeats
    have own_eq' : calls shot.journal = own := own_eq.trans (List.nil_append own)
    have calls_eq' : calls journal = own.map (Call.ownedBy event.id) := calls_eq
    have executed_eq : executed = _ := execute_alone resting created ran quiet
    rw [executed_eq]
    refine ⟨frames, journal, last, result, plays, ?_, state_eq, ends⟩
    simp [silent, own_eq', calls_eq', ending.notices_calls name]

end Engine

end Frames

namespace Countdown

def resting : Engine Unit Countdown :=
  Engine.new (Dictionary.empty.insert "wait" fun arguments => .ok ⟨arguments.values.length⟩)
    Dictionary.empty ⟨false, .abort⟩

def patient : Event :=
  ⟨⟨1⟩, "", none, [], [⟨"wait", ["", "", ""], ""⟩]⟩

theorem discreet (dt : Seconds) : Discreet (W := Unit) dt fun (_ : Countdown) _ => True where
  start := ⟨fun _ _ _ _ => rfl, by simp [ActionHandler.start], fun _ _ _ => trivial⟩
  update := ⟨fun _ _ _ _ => rfl, by simp [ActionHandler.update], fun _ _ _ => trivial⟩
  cleanup := ⟨fun _ _ _ _ => rfl, by simp [ActionHandler.cleanup], fun _ _ _ => trivial⟩

theorem lasts_three (scene : Scene Unit) : Lasts Unit .zero 3 (⟨3⟩ : Countdown) scene :=
  .more rfl (.more rfl (.last (by simp [ActionHandler.update])))

theorem lone_action_agrees_patient :
    let started := resting.startEvent patient
    let executed := resting.execute 3 () "wait" ["", "", ""] false .zero
    executed.ending = .finished ∧ (calls executed.journal).length = 5 ∧
      ∃ journal last, started.2.1.PlaysOut .zero ⟨1⟩ () 3 journal last () (.ok ()) ∧
        calls journal = (calls executed.journal).map (Call.ownedBy ⟨1⟩) := by
  intro started executed
  have finished : executed.ending = .finished := by decide
  obtain ⟨_, _, frames, journal, last, result, plays, calls_eq, _, ends⟩ :=
    Engine.lone_action_agrees (discreet .zero) resting () patient "wait" "" ["", "", ""] 3 3 rfl rfl
      rfl rfl rfl (Nat.le_refl 3) fun factory action known built => by
        obtain rfl := Option.some.inj (known.symm.trans rfl)
        obtain rfl : (⟨3⟩ : Countdown) = action := Except.ok.inj built
        exact ⟨trivial, fun _ => lasts_three _⟩
  rcases ends with ⟨_, rfl, rfl⟩ | ⟨cause, failed, _⟩
  · exact ⟨finished, by decide, journal, last, plays, calls_eq⟩
  · exact absurd (finished.symm.trans failed) (by simp)

end Countdown

end MapScript
