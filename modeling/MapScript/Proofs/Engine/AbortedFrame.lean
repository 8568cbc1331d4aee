import MapScript.Proofs.Engine.Rounds
import MapScript.Proofs.Engine.Scripted
import MapScript.Proofs.Engine.Surveying

set_option autoImplicit false

namespace MapScript

open Number Journal

variable {W A : Type}

/-- The error is about the slot that the event has come to, and it names no other event. -/
structure EngineError.Blames (cause : EngineError) (e : RunningEvent A) : Prop where
  kind_eq : e.kind? = some cause.handlerName
  owner_eq : ∀ handler phase owner failure, cause = .handler handler phase owner failure →
    owner = some e.id

theorem callHook_failed {B : Type} [Replies B] {kind : String} {phase : Phase} {hook : Hook}
    {slot : Nat} {moment : Moment} {hookOf : A → Moment → Scene W → Outcome W A B} {action : A}
    {scene : Scene W} {cause : EngineError}
    (failed : (callHook kind phase hook slot moment hookOf action scene).result = .error cause) :
    ∃ failure, cause = .handler kind phase moment.event failure := by
  simp only [callHook] at failed
  cases outcome : (hookOf action moment scene).result with
  | ok value => simp [outcome, Except.mapError] at failed
  | error failure =>
    simp only [outcome, Except.mapError, Except.error.injEq] at failed
    exact ⟨failure, failed.symm⟩

theorem createAction_failed {factories : Dictionary (ActionFactory A)} {owner : Option EventId}
    {slot : Nat} {name : String} {parameters : List String} {cause : EngineError}
    {notices : Journal}
    (failed : createAction factories owner slot name parameters = (.error cause, notices)) :
    cause.handlerName = name ∧
      ∀ handler phase owner failure, cause ≠ .handler handler phase owner failure := by
  unfold createAction at failed
  split at failed
  next =>
    obtain ⟨rfl, _⟩ := by simpa using failed
    simp [EngineError.handlerName]
  next =>
    split at failed
    next => simp at failed
    next =>
      obtain ⟨rfl, _⟩ := by simpa using failed
      simp [EngineError.handlerName]

theorem blames_of_hook {e e' : RunningEvent A} {slot : Action} {phase : Phase} {failure : Failure}
    (here : e.slot? = some slot) (declaration : e'.declaration = e.declaration)
    (cursor : e'.cursor = e.cursor) :
    (EngineError.handler slot.kind phase (some e.id) failure).Blames e' where
  kind_eq := by
    rw [RunningEvent.slot?, ← declaration, ← cursor] at here
    simp [RunningEvent.kind?, RunningEvent.slot?, here, EngineError.handlerName]
  owner_eq := by
    rintro handler phase owner failure same
    obtain ⟨_, _, rfl, _⟩ := EngineError.handler.inj same
    rw [RunningEvent.id, RunningEvent.id, declaration]

theorem EngineError.Blames.heeded [ActionHandler W A] {cause : EngineError} {e : RunningEvent A}
    (blames : cause.Blames e) (requests : List CancelRequest) :
    cause.Blames (e.heed W requests) where
  kind_eq := (e.heed_kind? requests).trans blames.kind_eq
  owner_eq handler phase owner failure same := by
    rw [e.heed_id requests]
    exact blames.owner_eq handler phase owner failure same

section Drains

variable [ActionHandler W A] {factories : Dictionary (ActionFactory A)} {policy : FailurePolicy}
  {dt : Seconds} {token : ScopeToken} {world world' : W} {state state' : ScopeState}
  {todo left : List (RunningEvent A)} {t : Turn A} {turns : List (Turn A)} {cause : EngineError}
  {result : Except EngineError Unit}

theorem Walk.blames {d d' : Drive W A} {journal : Journal} {result : Except EngineError Drain}
    (walk : Walk factories dt token d journal d' result) (failed : result = .error cause) :
    cause.Blames d'.event := by
  induction walk with
  | complete | startedAway | finishedAway => cases failed
  | held => cases failed
  | @refused d slot notices cause here idle created =>
    cases failed
    obtain ⟨named, other⟩ := createAction_failed created
    refine ⟨by simp [RunningEvent.kind?, here, named], ?_⟩
    exact fun handler phase owner failure same => absurd same (other _ _ _ _)
  | startFailed here idle created refused =>
    cases failed
    obtain ⟨failure, rfl⟩ := callHook_failed refused
    exact blames_of_hook here rfl rfl
  | updateFailed here flying live refused =>
    cases failed
    obtain ⟨failure, rfl⟩ := callHook_failed refused
    exact blames_of_hook here rfl rfl
  | cleanupFailed here flying live done refused =>
    cases failed
    obtain ⟨failure, rfl⟩ := callHook_failed refused
    exact blames_of_hook here rfl rfl
  | started _ _ _ _ _ _ ih => exact ih failed
  | skipped _ _ _ ih => exact ih failed
  | finished _ _ _ _ _ _ _ ih => exact ih failed

omit [ActionHandler W A] in
theorem Settles.silent_of_abort {id : EventId} {result : Except EngineError Drain} {ended : Bool}
    {notices : Journal} (settles : Settles policy id result ended notices)
    (strict : policy = .abort) : notices = [] := by
  cases settles with
  | blocked | complete => rfl
  | dropped cause lenient => simp [strict] at lenient

theorem Turn.Goes.removed_iff (strict : policy = .abort)
    (goes : t.Goes factories policy dt token world state world' state') :
    t.removed = true ↔ t.found.cancelled = true ∨ .eventFinished t.found.id ∈ t.own := by
  rw [goes.taken.removed_iff]
  cases goes with
  | flagged set => simp [set]
  | @driven e drained ended notices after drains settles =>
    obtain rfl := settles.silent_of_abort strict
    have finishes : Removes e.id drained.journal ↔ .eventFinished e.id ∈ drained.journal := by
      constructor
      · intro removes
        have complete := (drains.walk.removes_iff.mp removes).2
        exact eventFinished_of_ended (drains.walk.ended_iff.mpr complete)
      · exact fun finished => ⟨_, finished, by simp⟩
    simp [finishes, drains.live]

theorem Turn.Ends.aborts (kept : state'.token = token)
    (ends : t.Ends factories policy dt token world state world' state' (.error cause)) :
    policy = .abort ∧ t.removed = false ∧ .frameAborted t.found.id cause ∈ t.own ∧
      cause.Blames t.left ∧ state'.requests = [] := by
  cases ends with
  | aborted drains strict failed =>
    exact ⟨strict, rfl, by simp, drains.walk.blames failed, rfl⟩
  | lost _ _ _ away => exact absurd kept away

theorem Round.failed
    (round : Round factories policy dt token world state todo turns left world' state'
      (.error cause)) :
    ∃ earlier last front k behind,
      turns = earlier ++ [last] ∧ todo = front ++ k :: behind ∧ front.length = earlier.length ∧
      last.found = k.heed W (requestsOf earlier) ∧
      left = behind.map (RunningEvent.heed W (requestsOf earlier ++ last.requests)) ∧
      (∀ t ∈ earlier, ∃ (world : W) (state : ScopeState) (world' : W) (state' : ScopeState),
        t.Goes factories policy dt token world state world' state') ∧
      ∃ (world : W) (state : ScopeState),
        last.Ends factories policy dt token world state world' state' (.error cause) := by
  generalize result_eq : (Except.error cause : Except EngineError Unit) = result at round
  induction round with
  | closed => cases result_eq
  | @goes _ _ _ _ _ _ t rest left turns _ goes _ ih =>
    obtain ⟨earlier, last, front, k, behind, rfl, order, place, found, left_eq, went, ends⟩ :=
      ih result_eq
    -- The events that waited are those of `rest`, after the requests of the turn.
    obtain ⟨front, tail, rfl, rfl, tail_eq⟩ := List.map_eq_append_iff.mp order
    obtain ⟨k, behind, rfl, rfl, rfl⟩ := List.map_eq_cons_iff.mp tail_eq
    refine ⟨t :: earlier, last, t.found :: front, k, behind, rfl, rfl, by simpa using place, ?_, ?_,
      ?_, ends⟩
    · simp [found, requestsOf]
    · simp [left_eq, requestsOf, Function.comp_def]
    · intro other member
      rcases List.mem_cons.mp member with rfl | later
      · exact ⟨_, _, _, _, goes⟩
      · exact went other later
  | @ends _ _ _ _ t rest _ ends =>
    subst result_eq
    exact ⟨[], t, [], t.found, rest, rfl, rfl, rfl, by simp [requestsOf], by simp [requestsOf],
      by simp, _, _, ends⟩

theorem remaining_concat {last : Turn A} (stays : last.removed = false) (turns : List (Turn A)) :
    remaining W [] (turns ++ [last]) =
      remaining W last.requests turns ++ [last.left.heed W last.requests] := by
  induction turns with
  | nil => simp [remaining, stays, requestsOf]
  | cons t rest ih =>
    cases gone : t.removed with
    | true => simp [remaining, gone, ih]
    | false => simp [remaining, gone, ih, requestsOf]

end Drains

namespace Engine

variable [ActionHandler W A]

/-- The frame has failed in a condition: what was started before it stays, and no hook was
called. -/
structure FailsTesting (engine : Engine W A) (world : W) (dt : Seconds) (cause : EngineError)
    (satisfied : List Event) (memory : Memory) : Prop where
  surveys : engine.Surveys world dt engine.declarations engine.state.memory satisfied memory
    (.error cause)
  world_eq : (engine.update world dt).world = world
  silent : calls (engine.update world dt).journal = []
  running_eq : (engine.update world dt).engine.running =
    engine.running ++ (engine.newcomers satisfied).map RunningEvent.start
  distinct : (ids (engine.update world dt).engine.running).Nodup

/-- The frame has failed in the turn `last` of the event `k`: the events `front` have had their
turns, and those behind `k` have only heeded the requests made before the frame and in it. -/
structure FailsDriving (engine : Engine W A) (world : W) (dt : Seconds) (cause : EngineError)
    (satisfied : List Event) (memory : Memory) (front : List (RunningEvent A)) (k : RunningEvent A)
    (behind : List (RunningEvent A)) (turns : List (Turn A)) (last : Turn A) : Prop where
  surveys : engine.Surveys world dt engine.declarations engine.state.memory satisfied memory
    (.ok ())
  order : engine.running ++ (engine.newcomers satisfied).map RunningEvent.start =
    front ++ k :: behind
  once : (ids (front ++ k :: behind)).Nodup
  rounds : ∃ (tested pending : Journal) (left : List (RunningEvent A)),
    tested.Only Notice.admits ∧ engine.Rounds world dt tested pending (turns ++ [last]) left
  each : turns.length = front.length
  found : ∀ earlier t later, turns = earlier ++ t :: later →
    ∃ e, front[earlier.length]? = some e ∧
      t.found = e.heed W (engine.state.requests ++ requestsOf earlier)
  taken : ∀ t ∈ turns, t.Taken W engine.actions dt engine.state.token
  over_iff : ∀ t ∈ turns,
    t.removed = true ↔ t.found.cancelled = true ∨ .eventFinished t.found.id ∈ t.own
  reached : last.found = k.heed W (engine.state.requests ++ requestsOf turns)
  driven : last.Taken W engine.actions dt engine.state.token
  aborted : .frameAborted k.id cause ∈ last.own
  stays : (last.left.heed W last.requests).declaration = k.declaration
  blames : cause.Blames (last.left.heed W last.requests)
  running_eq : (engine.update world dt).engine.running =
    remaining W last.requests turns ++ last.left.heed W last.requests ::
      behind.map (RunningEvent.heed W (engine.state.requests ++ requestsOf turns ++ last.requests))
  idle : (engine.update world dt).engine.state.requests = []
  distinct : (ids (engine.update world dt).engine.running).Nodup

section Failing

variable {engine : Engine W A} {world : W} {dt : Seconds} {cause : EngineError}

theorem failsTesting_of_error (sound : Sound engine.running)
    (failed : ({ engine with trace := [] }.intake world dt).result = .error cause)
    (ended : engine.update world dt =
      ⟨engine.beforeHooks (.update world dt), world,
        ({ engine with trace := [] }.intake world dt).journal, .error cause⟩) :
    ∃ satisfied memory, engine.FailsTesting world dt cause satisfied memory := by
  obtain ⟨satisfied, surveys, grown⟩ := beforeHooks_surveys engine world dt
  rw [failed] at surveys
  refine ⟨satisfied, _, surveys, ?_, ?_, ?_, ?_⟩ <;> rw [ended]
  · exact intake_calls _ world dt
  · exact grown
  · exact ((intake_moves world dt { engine with trace := [] }).sound sound).distinct

theorem failsDriving_of_rounds (sound : Sound engine.running) {tested pending : Journal}
    {turns : List (Turn A)} {left : List (RunningEvent A)}
    (passed : ({ engine with trace := [] }.intake world dt).result = .ok ())
    (admits : tested.Only Notice.admits)
    (rounds : engine.Rounds world dt tested pending turns left)
    (failed : (engine.update world dt).result = .error cause)
    (kept : (engine.update world dt).engine.state.token = engine.state.token) :
    ∃ satisfied memory front k behind turns last,
      engine.FailsDriving world dt cause satisfied memory front k behind turns last := by
  obtain ⟨satisfied, surveys, grown⟩ := beforeHooks_surveys engine world dt
  rw [passed] at surveys
  have round := rounds.round
  have taken := round.taken
  rw [failed] at round
  obtain ⟨turns, last, front, k, behind, rfl, order, place, reached, left_eq, went, _, _, ends⟩ :=
    round.failed
  rw [order] at round
  -- The round began with the collection of the frame, after the requests from before it.
  obtain ⟨front, tail, begun, rfl, tail_eq⟩ := List.map_eq_append_iff.mp order
  obtain ⟨k, behind, rfl, rfl, rfl⟩ := List.map_eq_cons_iff.mp tail_eq
  obtain ⟨strict, stays, aborted, blames, idle⟩ := ends.aborts kept
  rw [RunningEvent.heed_heed] at reached
  rw [reached, RunningEvent.heed_id] at aborted
  have driven := taken last (by simp)
  have once := ((intake_moves world dt { engine with trace := [] }).sound sound).distinct
  have distinct := ((update_moves world dt engine).sound sound).distinct
  refine ⟨satisfied, _, front, k, behind, turns, last, surveys, grown ▸ begun,
    begun ▸ once, ⟨tested, pending, left, admits, rounds⟩, by simpa using place.symm,
    fun earlier t later split => ?_, fun t had => taken t (by simp [had]), fun t had => ?_, reached,
    driven, aborted, ?_, blames.heeded _, ?_, idle, distinct⟩
  · have inside : earlier.length < front.length := by
      have total := congrArg List.length split
      simp only [List.length_map, List.length_append, List.length_cons] at place total
      omega
    obtain ⟨heeded, there, found⟩ := round.found_at
      (show turns ++ [last] = earlier ++ t :: (later ++ [last]) by simp [split])
    rw [List.getElem?_append_left (by simpa using inside), List.getElem?_map,
      Option.map_eq_some_iff] at there
    obtain ⟨e, there, rfl⟩ := there
    exact ⟨e, there, by simp [found]⟩
  · obtain ⟨_, _, _, _, goes⟩ := went t had
    exact goes.removed_iff strict
  · rw [RunningEvent.heed_declaration, driven.declaration_eq, reached,
      RunningEvent.heed_declaration]
  · rw [rounds.running_eq kept, remaining_concat stays, left_eq]
    simp [Function.comp_def]

end Failing

theorem aborted_frame_is_exact (actions : Dictionary (ActionFactory A))
    (conditions : Dictionary (ConditionTest W)) (settings : Settings)
    (before : List (Operation W A)) {engine : Engine W A} {since : Journal}
    (reached : (new actions conditions settings).run before = (engine, since)) (world : W)
    (dt : Seconds) {cause : EngineError} (failed : (engine.update world dt).result = .error cause)
    (kept : (engine.update world dt).engine.state.token = engine.state.token) :
    (∃ satisfied memory, engine.FailsTesting world dt cause satisfied memory) ∨
      ∃ satisfied memory front k behind turns last,
        engine.FailsDriving world dt cause satisfied memory front k behind turns last := by
  have sound := reached_sound reached
  rcases update_rounds engine world dt sound with ⟨other, tested, ended⟩ |
    ⟨passed, pending, turns, left, rounds⟩
  · obtain rfl : other = cause := by simpa [ended] using failed
    exact .inl (failsTesting_of_error sound tested ended)
  · exact .inr (failsDriving_of_rounds sound passed (intake_admits _ world dt) rounds failed kept)

def breaking : Engine Unit Scripted × Journal :=
  (Scripted.engine Scripted.idle .abort).run
    [.registerAction "bad" fun _ =>
        .ok { Scripted.idle with update := ⟨[.cancelEvent ⟨4⟩], .error ⟨"", []⟩⟩ },
      .loadScope ⟨"", [], [Scripted.event ⟨1⟩, ⟨⟨2⟩, "", none, [], [⟨"bad", [], ""⟩]⟩,
        Scripted.event ⟨3⟩, Scripted.event ⟨4⟩]⟩]

theorem aborted_frame_is_exact_breaking :
    ((∃ satisfied memory, breaking.1.FailsTesting () .zero
        (.handler "bad" .update (some ⟨2⟩) ⟨"", []⟩) satisfied memory) ∨
      ∃ satisfied memory front k behind turns last, breaking.1.FailsDriving () .zero
        (.handler "bad" .update (some ⟨2⟩) ⟨"", []⟩) satisfied memory front k behind turns last) ∧
      (breaking.1.update () .zero).engine.running.map (fun e => (e.id, e.cancelled)) =
        [(⟨2⟩, false), (⟨3⟩, false), (⟨4⟩, true)] :=
  ⟨aborted_frame_is_exact _ _ _ _ (rfl : _ = (breaking.1, breaking.2)) () .zero rfl rfl, by decide⟩

end Engine

end MapScript
