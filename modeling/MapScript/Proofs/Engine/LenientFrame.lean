import MapScript.Proofs.Engine.Rounds
import MapScript.Proofs.Engine.Scripted
import MapScript.Proofs.Engine.Surveying

set_option autoImplicit false

namespace MapScript

open Number Journal

variable {W A : Type}

/-- How an event has fared in its turn: it was found cancelled, its script is finished or has
failed, or it waits as its own drain has left it. -/
inductive Turn.Fares (W : Type) [ActionHandler W A] (factories : Dictionary (ActionFactory A))
    (dt : Seconds) (token : ScopeToken) (t : Turn A) : Prop
  | cancelled (set : t.found.cancelled = true) (removed : t.removed = true)
  | finished {world : W} {state : ScopeState} {drained : Drained W A}
      (drains : Drains factories dt token world state t.found drained)
      (complete : drained.result = .ok .complete) (removed : t.removed = true)
  | failed {world : W} {state : ScopeState} {drained : Drained W A} {cause : EngineError}
      (drains : Drains factories dt token world state t.found drained)
      (failed : drained.result = .error cause) (dropped : .eventDropped t.found.id cause ∈ t.own)
      (removed : t.removed = true)
  | waits {world : W} {state : ScopeState} {drained : Drained W A}
      (drains : Drains factories dt token world state t.found drained)
      (blocked : drained.result = .ok .blocked) (left_eq : t.left = drained.drive.event)
      (stays : t.removed = false)

section Rounds

variable [ActionHandler W A] {factories : Dictionary (ActionFactory A)} {policy : FailurePolicy}
  {dt : Seconds} {token : ScopeToken} {world world' : W} {state state' : ScopeState}
  {todo left : List (RunningEvent A)} {t : Turn A} {turns : List (Turn A)}
  {result : Except EngineError Unit}

theorem Turn.Goes.fares (goes : t.Goes factories policy dt token world state world' state') :
    t.Fares W factories dt token := by
  cases goes with
  | flagged set => exact .cancelled set rfl
  | @driven e drained ended notices after drains settles =>
    generalize result_eq : drained.result = result at settles
    cases settles with
    | blocked => exact .waits drains result_eq rfl rfl
    | complete => exact .finished drains result_eq rfl
    | dropped cause => exact .failed drains result_eq (by simp) rfl

theorem Round.fine_of_lenient (lenient : policy = .dropEvent)
    (round : Round factories policy dt token world state todo turns left world' state' result) :
    result = .ok () := by
  induction round with
  | closed => rfl
  | goes _ _ ih => exact ih
  | ends rest ends =>
    cases ends with
    | abandoned => rfl
    | aborted _ strict | lost _ strict => simp [lenient] at strict

theorem Round.fares
    (round : Round factories policy dt token world state todo turns left world' state' result)
    (kept : state'.token = token) (fine : result = .ok ()) :
    ∀ t ∈ turns, t.Fares W factories dt token := by
  induction round with
  | closed => simp
  | goes goes _ ih =>
    intro t member
    rcases List.mem_cons.mp member with rfl | later
    · exact goes.fares
    · exact ih kept fine t later
  | ends rest ends =>
    cases ends with
    | abandoned _ _ away => exact absurd kept away
    | aborted | lost => cases fine

end Rounds

namespace Engine

variable [ActionHandler W A]

/-- The collection `begun` of the frame has had its turns, one for each event and each from the
world and the scope state that the one before has left. An event comes to its turn after the
requests from before the frame and from the turns before, and what stays has heeded those of its own
turn and of the later ones. -/
structure Isolates (engine : Engine W A) (world : W) (dt : Seconds) (satisfied : List Event)
    (memory : Memory) (begun : List (RunningEvent A)) (turns : List (Turn A)) : Prop where
  surveys : engine.Surveys world dt engine.declarations engine.state.memory satisfied memory
    (.ok ())
  begun_eq : begun = engine.running ++ (engine.newcomers satisfied).map RunningEvent.start
  once : (ids begun).Nodup
  rounds : ∃ tested pending : Journal, tested.Only Notice.admits ∧
    engine.Rounds world dt tested pending turns []
  each : turns.length = begun.length
  found : ∀ earlier t later, turns = earlier ++ t :: later →
    ∃ e, begun[earlier.length]? = some e ∧
      t.found = e.heed W (engine.state.requests ++ requestsOf earlier)
  fares : ∀ t ∈ turns, t.Fares W engine.actions dt engine.state.token
  running_eq : (engine.update world dt).engine.running = remaining W [] turns
  declarations_eq : (engine.update world dt).engine.running.map RunningEvent.declaration =
    (begun.filter fun e => e.id ∉ removedOf turns).map RunningEvent.declaration

theorem isolates_of_rounds {engine : Engine W A} {world : W} {dt : Seconds}
    (sound : Sound engine.running) {tested pending : Journal} {turns : List (Turn A)}
    {left : List (RunningEvent A)} (lenient : engine.settings.failurePolicy = .dropEvent)
    (admits : tested.Only Notice.admits) (rounds : engine.Rounds world dt tested pending turns left)
    (kept : (engine.update world dt).engine.state.token = engine.state.token) :
    ∃ satisfied memory begun, engine.Isolates world dt satisfied memory begun turns := by
  obtain ⟨satisfied, surveys, grown⟩ := beforeHooks_surveys engine world dt
  rw [surveys_lenient engine world dt lenient surveys] at surveys
  have once := ((intake_moves world dt { engine with trace := [] }).sound sound).distinct
  have fine := rounds.round.fine_of_lenient lenient
  obtain ⟨each, rfl⟩ := rounds.round.complete kept fine
  have running_eq := rounds.running_eq kept
  refine ⟨satisfied, _, _, surveys, grown, once, ⟨tested, pending, admits, rounds⟩,
    by simpa using each, fun earlier t later split => ?_, rounds.round.fares kept fine,
    by simpa using running_eq, ?_⟩
  · obtain ⟨heeded, there, found⟩ := rounds.round.found_at split
    rw [List.getElem?_map, Option.map_eq_some_iff] at there
    obtain ⟨e, there, rfl⟩ := there
    exact ⟨e, there, by simp [found]⟩
  · rw [running_eq, rounds.round.declarations [] (by rwa [ids_heed]), declarations_heed]

theorem failures_are_isolated (actions : Dictionary (ActionFactory A))
    (conditions : Dictionary (ConditionTest W)) (settings : Settings)
    (before : List (Operation W A)) {engine : Engine W A} {since : Journal}
    (reached : (new actions conditions settings).run before = (engine, since))
    (lenient : engine.settings.failurePolicy = .dropEvent) (world : W) (dt : Seconds) :
    (engine.update world dt).result = .ok () ∧
      ((engine.update world dt).engine.state.token = engine.state.token →
        ∃ satisfied memory begun turns,
          engine.Isolates world dt satisfied memory begun turns) := by
  have sound := reached_sound reached
  rcases update_rounds engine world dt sound with ⟨cause, tested, ended⟩ |
    ⟨passed, pending, turns, left, rounds⟩
  · obtain ⟨satisfied, surveys, _⟩ := beforeHooks_surveys engine world dt
    have fine := surveys_lenient engine world dt lenient surveys
    rw [tested] at fine
    cases fine
  · refine ⟨rounds.round.fine_of_lenient lenient, fun kept => ?_⟩
    obtain ⟨satisfied, memory, begun, isolates⟩ :=
      isolates_of_rounds sound lenient (intake_admits _ world dt) rounds kept
    exact ⟨satisfied, memory, begun, turns, isolates⟩

def faulty : Engine Unit Scripted × Journal :=
  (Scripted.engine Scripted.idle .dropEvent).run
    [.replaceConditions Scripted.tests,
      .registerAction "bad" fun _ =>
        .ok { Scripted.idle with update := ⟨[.cancelEvent ⟨5⟩], .error ⟨"", []⟩⟩ },
      .registerAction "wait" fun _ => .ok { Scripted.idle with update := ⟨[], .ok .running⟩ },
      .loadScope ⟨"", [], [Scripted.event ⟨1⟩, ⟨⟨2⟩, "", none, [], [⟨"bad", [], ""⟩]⟩,
        ⟨⟨3⟩, "", none, [], [⟨"nobody", [], ""⟩]⟩, ⟨⟨4⟩, "", none, [], [⟨"wait", [], ""⟩]⟩,
        ⟨⟨5⟩, "", none, [], [⟨"wait", [], ""⟩]⟩, Scripted.guarded 6 [("broken", .is)]]⟩]

theorem failures_are_isolated_faulty :
    faulty.1.settings.failurePolicy = .dropEvent ∧
      (faulty.1.update () .zero).engine.state.token = faulty.1.state.token ∧
      (faulty.1.update () .zero).result = .ok () ∧
      (∃ satisfied memory begun turns,
        faulty.1.Isolates () .zero satisfied memory begun turns) ∧
      (faulty.1.update () .zero).engine.running.map RunningEvent.id = [⟨4⟩] := by
  have kept : (faulty.1.update () .zero).engine.state.token = faulty.1.state.token := by decide
  obtain ⟨fine, isolates⟩ :=
    failures_are_isolated _ _ _ _ (rfl : _ = (faulty.1, faulty.2)) rfl () .zero
  exact ⟨rfl, kept, fine, isolates kept, by decide⟩

end Engine

end MapScript
