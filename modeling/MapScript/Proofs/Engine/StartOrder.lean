import MapScript.Proofs.Engine.Rounds
import MapScript.Proofs.Engine.StaleScope
import MapScript.Proofs.Engine.Surveying

set_option autoImplicit false

namespace MapScript

open Number Journal

variable {W A : Type}

theorem surveyed_sublist {tried : Event → Memory → Memory → Except EngineError Bool → Prop}
    {events satisfied : List Event} {memory memory' : Memory} {result : Except EngineError Unit}
    (surveyed : Surveyed tried events memory satisfied memory' result) :
    satisfied.Sublist events := by
  induction surveyed with
  | done => exact .slnil
  | satisfied _ _ ih => exact ih.cons_cons _
  | unsatisfied _ _ ih => exact ih.cons _
  | broken => exact List.nil_sublist _

theorem newcomers_sublist (engine : Engine W A) (satisfied : List Event) :
    (engine.newcomers satisfied).Sublist satisfied :=
  (firstOfEach_sublist _).trans List.filter_sublist

section Turns

variable [ActionHandler W A] {factories : Dictionary (ActionFactory A)} {dt : Seconds}
  {token : ScopeToken} {turns : List (Turn A)}

theorem lifecycle_turns (taken : ∀ t ∈ turns, t.Taken W factories dt token) :
    lifecycle (calls (turns.flatMap Turn.journal)) = turns.flatMap fun t => calls t.own := by
  induction turns with
  | nil => rfl
  | cons t rest ih =>
    have first := taken t List.mem_cons_self
    have own : lifecycle (calls t.own) = calls t.own :=
      List.filter_eq_self.mpr fun call member => by simpa using (first.own_calls call member).2
    rw [List.flatMap_cons, List.flatMap_cons, calls_append, lifecycle_append, Turn.journal,
      calls_append, lifecycle_append, own, lifecycle_onlyCancels first.hooks, List.append_nil,
      ih fun t member => taken t (List.mem_cons_of_mem _ member)]

end Turns

namespace Engine

variable [ActionHandler W A]

/-- A frame in which the declarations `new` are started, behind the events that are running, and in
which the events of the collection `begun` then have their turns, each from the world and the scope
state that the turn before has left. All that was noted before the frame is in `since`. -/
structure InStartOrder (engine : Engine W A) (since : Journal) (world : W) (dt : Seconds)
    (begun : List (RunningEvent A)) (new : List Event) (tested pending : Journal)
    (turns : List (Turn A)) : Prop where
  begun_eq : begun = engine.running ++ new.map RunningEvent.start
  declared : new.Sublist engine.declarations
  ranked : (ids begun).Sublist (starts (since ++ (engine.update world dt).journal)).dedup
  journal_eq : (engine.update world dt).journal = tested ++ pending ++ turns.flatMap Turn.journal
  rounds : (∃ left, engine.Rounds world dt tested pending turns left) ∨
    turns = [] ∧ (engine.update world dt).world = world ∧
      ∃ cause, (engine.update world dt).result = .error cause
  tested : tested.Only Notice.admits
  pending : OnlyCancels (calls pending)
  found : List.Forall₂ Halted (begun.take turns.length) (turns.map Turn.found)
  once : (ids (turns.map Turn.found)).Nodup
  taken : ∀ t ∈ turns, t.Taken W engine.actions dt engine.state.token
  owned : ∀ t ∈ turns, ∀ call ∈ calls t.own, call.owner = some t.found.id
  lifecycle_eq : lifecycle (calls (engine.update world dt).journal) =
    turns.flatMap fun t => calls t.own
  complete : (engine.update world dt).result = .ok () →
    (engine.update world dt).engine.state.token = engine.state.token →
    turns.length = begun.length
  kept : (engine.update world dt).engine.state.token = engine.state.token →
    (engine.update world dt).engine.running.map RunningEvent.declaration =
      (begun.filter fun e => e.id ∉ removedOf turns).map RunningEvent.declaration

theorem begun_ranked (engine : Engine W A) {since : Journal} (world : W) (dt : Seconds)
    (ranked : (ids engine.running).Sublist (starts since).dedup) :
    (∃ new : List Event, new.Sublist engine.declarations ∧
      (engine.beforeHooks (.update world dt)).running =
        engine.running ++ new.map RunningEvent.start) ∧
    (ids (engine.beforeHooks (.update world dt)).running).Sublist
      (starts (since ++ (engine.update world dt).journal)).dedup := by
  obtain ⟨satisfied, surveyed, grown⟩ := beforeHooks_surveys engine world dt
  refine ⟨⟨_, (newcomers_sublist engine satisfied).trans (surveyed_sublist surveyed), grown⟩, ?_⟩
  rw [starts_append, update_starts]
  exact intake_ranks world dt { engine with trace := [] } _ ranked

theorem effects_in_start_order (actions : Dictionary (ActionFactory A))
    (conditions : Dictionary (ConditionTest W)) (settings : Settings)
    (before : List (Operation W A)) {engine : Engine W A} {since : Journal}
    (reached : (new actions conditions settings).run before = (engine, since)) (world : W)
    (dt : Seconds) :
    ∃ new tested pending turns,
      engine.InStartOrder since world dt (engine.beforeHooks (.update world dt)).running new tested
        pending turns := by
  have sound := reached_sound reached
  obtain ⟨⟨new, declared, grown⟩, ranked⟩ :=
    begun_ranked engine world dt (reached_ranked reached)
  have admits := intake_admits { engine with trace := [] } world dt
  have distinct : (ids (engine.beforeHooks (.update world dt)).running).Nodup :=
    ((intake_moves world dt { engine with trace := [] }).sound sound).distinct
  have silent := intake_calls { engine with trace := [] } world dt
  rcases update_rounds engine world dt sound with ⟨cause, _, ended⟩ |
    ⟨_, pending, turns, left, rounds⟩
  · refine ⟨new, _, [], [], grown, declared, ranked, by simp [ended],
      .inr ⟨rfl, by simp [ended], cause, by simp [ended]⟩, admits, by simp [OnlyCancels], .nil,
      List.nodup_nil, by simp, by simp, ?_, ?_, ?_⟩
    · simp [ended, silent, lifecycle]
    · simp [ended]
    · simp [ended, removedOf]
  · have heeded := halted_heed (W := W) engine.state.requests
      (engine.beforeHooks (.update world dt)).running
    have taken := rounds.round.taken
    refine ⟨new, _, pending, turns, grown, declared, ranked, rounds.journal_eq,
      .inl ⟨left, rounds⟩, admits, rounds.hooks, ?_, ?_, taken,
      fun t member call own => ((taken t member).own_calls call own).1, ?_, fun fine kept => ?_,
      fun kept => ?_⟩
    · have waited := List.forall₂_take turns.length heeded
      exact halted_trans waited rounds.round.found
    · rw [rounds.round.found_ids, ids_heed]
      exact distinct.sublist (List.take_sublist _ _)
    · rw [rounds.journal_eq, calls_append, calls_append, silent, List.nil_append, lifecycle_append,
        lifecycle_onlyCancels rounds.hooks, List.nil_append, lifecycle_turns taken]
    · simpa using (rounds.round.complete kept fine).1
    · rw [rounds.running_eq kept, rounds.round.declarations [] (by rwa [ids_heed]),
        declarations_heed]

def queued : Engine Unit Scripted × Journal :=
  (Scripted.engine { Scripted.idle with update := ⟨[], .ok .running⟩ } .abort).run
    [.loadScope ⟨"", [Scripted.event ⟨3⟩], [Scripted.event ⟨2⟩, Scripted.event ⟨4⟩]⟩,
      .startEvent (Scripted.event ⟨9⟩)]

theorem effects_in_start_order_queued :
    (∃ new tested pending turns,
      queued.1.InStartOrder queued.2 () .zero (queued.1.beforeHooks (.update () .zero)).running new
        tested pending turns) ∧
      (lifecycle (calls (queued.1.update () .zero).journal)).map Call.owner =
        [some ⟨9⟩, some ⟨9⟩, some ⟨3⟩, some ⟨3⟩, some ⟨2⟩, some ⟨2⟩, some ⟨4⟩, some ⟨4⟩] :=
  ⟨effects_in_start_order _ _ _ _ (rfl : _ = (queued.1, queued.2)) () .zero, by decide⟩

end Engine

end MapScript
