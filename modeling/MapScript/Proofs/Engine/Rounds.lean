import MapScript.Proofs.Engine.Removing
import MapScript.Proofs.Engine.Turns

set_option autoImplicit false

namespace MapScript

open Number Journal

variable {W A : Type}

def removedOf (turns : List (Turn A)) : List EventId :=
  (turns.filter Turn.removed).map fun t => t.found.id

theorem Abandons.removes_iff {policy : FailurePolicy} {id other : EventId} {ended : Bool}
    {result : Except EngineError Drain} {notices : Journal}
    (abandons : Abandons policy other result ended notices) :
    (other = id ∧ result = .ok .complete) ∨ Removes id notices ↔ other = id ∧ ended = true := by
  cases abandons with
  | scopeChanged => simp
  | settles settles => exact settles.removes_iff

section Taken

variable [ActionHandler W A] {factories : Dictionary (ActionFactory A)} {policy : FailurePolicy}
  {dt : Seconds} {token : ScopeToken} {world world' : W} {state state' : ScopeState}
  {todo left : List (RunningEvent A)} {t : Turn A} {turns : List (Turn A)}
  {result : Except EngineError Unit}

namespace Drains

variable {e : RunningEvent A} {drained : Drained W A}
  (drains : Drains factories dt token world state e drained)

include drains

theorem walk : Walk factories dt token ⟨e, world, state⟩ drained.journal drained.drive
    drained.result := by
  rw [← drains.drain_eq, ← drains.fresh]
  exact drain_walk factories dt ⟨e, world, state⟩

theorem driven : Driven token e (calls drained.journal) drained.drive.event
    drained.drive.state.token drained.result :=
  drains.walk.driven drains.fresh

end Drains

inductive Turn.Visits (W : Type) [ActionHandler W A] (factories : Dictionary (ActionFactory A))
    (dt : Seconds) (token : ScopeToken) (t : Turn A) : Prop
  | flagged (set : t.found.cancelled = true) (same : t.left = t.found)
      (own_eq : t.own = [.cancelledRemoved t.found.id])
  | driven {world : W} {state : ScopeState} {drained : Drained W A} {notices : Journal}
      (drains : Drains factories dt token world state t.found drained)
      (left_eq : t.left = drained.drive.event) (own_eq : t.own = drained.journal ++ notices)
      (silent : calls notices = [])

structure Turn.Taken (W : Type) [ActionHandler W A] (factories : Dictionary (ActionFactory A))
    (dt : Seconds) (token : ScopeToken) (t : Turn A) : Prop where
  visits : t.Visits W factories dt token
  removed_iff : t.removed = true ↔ Removes t.found.id t.own
  hooks : OnlyCancels (calls t.after)

theorem Turn.Goes.taken (goes : t.Goes factories policy dt token world state world' state') :
    t.Taken W factories dt token := by
  cases goes with
  | flagged set => exact ⟨.flagged set rfl rfl, by simp, by simp [OnlyCancels]⟩
  | driven drains settles same cancels hooks =>
    refine ⟨.driven drains rfl rfl settles.silent, ?_, hooks⟩
    dsimp only
    rw [removes_append, drains.walk.removes_iff, settles.removes_iff]
    simp

theorem Turn.Ends.taken (ends : t.Ends factories policy dt token world state world' state' result) :
    t.Taken W factories dt token := by
  cases ends with
  | abandoned drains abandons away =>
    refine ⟨.driven drains rfl rfl abandons.silent, ?_, by simp [OnlyCancels]⟩
    dsimp only
    rw [removes_append, drains.walk.removes_iff, abandons.removes_iff]
    simp
  | aborted drains strict failed same cancels hooks =>
    refine ⟨.driven drains rfl rfl (by simp), ?_, hooks⟩
    dsimp only
    simp [drains.walk.removes_iff, failed]
  | lost drains strict failed away =>
    refine ⟨.driven drains rfl rfl (by simp), ?_, by simp [OnlyCancels]⟩
    dsimp only
    simp [drains.walk.removes_iff, failed]

theorem Turn.Taken.declaration_eq (taken : t.Taken W factories dt token) :
    t.left.declaration = t.found.declaration := by
  cases taken.visits with
  | flagged _ same => rw [same]
  | driven drains left_eq => rw [left_eq, drains.driven.declaration_eq]

theorem Turn.Taken.own_calls (taken : t.Taken W factories dt token) :
    ∀ call ∈ calls t.own, call.owner = some t.found.id ∧ call.hook ≠ .cancel := by
  cases taken.visits with
  | flagged _ _ own_eq => simp [own_eq]
  | driven drains _ own_eq silent =>
    intro call member
    rw [own_eq, calls_append, silent, List.append_nil] at member
    obtain ⟨owner, _, other⟩ := drains.driven.own call member
    exact ⟨owner, other⟩

theorem Round.taken
    (round : Round factories policy dt token world state todo turns left world' state' result) :
    ∀ t ∈ turns, t.Taken W factories dt token := by
  induction round with
  | closed => simp
  | goes goes _ ih =>
    intro t member
    rcases List.mem_cons.mp member with rfl | later
    · exact goes.taken
    · exact ih t later
  | ends rest ends =>
    intro t member
    obtain rfl := List.mem_singleton.mp member
    exact ends.taken

theorem Round.found
    (round : Round factories policy dt token world state todo turns left world' state' result) :
    List.Forall₂ Halted (todo.take turns.length) (turns.map Turn.found) := by
  induction round with
  | closed => exact .nil
  | @goes _ _ _ _ _ _ t rest _ turns _ _ _ ih =>
    have waited := halted_heed (W := W) t.requests (rest.take turns.length)
    rw [List.map_take] at waited
    exact .cons (.refl _) (halted_trans waited ih)
  | ends rest ends => exact .cons (.refl _) .nil

theorem Round.found_ids
    (round : Round factories policy dt token world state todo turns left world' state' result) :
    ids (turns.map Turn.found) = (ids todo).take turns.length := by
  rw [ids_halted round.found, ids, ids, List.map_take]

theorem Round.found_at
    (round : Round factories policy dt token world state todo turns left world' state' result)
    {earlier later : List (Turn A)} (split : turns = earlier ++ t :: later) :
    ∃ e, todo[earlier.length]? = some e ∧ t.found = e.heed W (requestsOf earlier) := by
  induction round generalizing earlier with
  | closed => exact absurd split not_split_nil
  | @goes _ _ _ _ _ _ first rest _ turns _ _ _ ih =>
    cases earlier with
    | nil =>
      obtain ⟨rfl, _⟩ := List.cons.inj split
      exact ⟨first.found, rfl, by simp [requestsOf]⟩
    | cons other earlier =>
      obtain ⟨rfl, behind⟩ := List.cons.inj split
      obtain ⟨waited, there, found⟩ := ih behind
      rw [List.getElem?_map, Option.map_eq_some_iff] at there
      obtain ⟨e, there, rfl⟩ := there
      exact ⟨e, there, by simp [found, requestsOf]⟩
  | ends rest ends =>
    cases earlier with
    | nil =>
      obtain ⟨rfl, _⟩ := List.cons.inj split
      exact ⟨_, rfl, by simp [requestsOf]⟩
    | cons other earlier => exact absurd (List.cons.inj split).2 not_split_nil

theorem Round.complete
    (round : Round factories policy dt token world state todo turns left world' state' result)
    (kept : state'.token = token) (fine : result = .ok ()) :
    turns.length = todo.length ∧ left = [] := by
  induction round with
  | closed => exact ⟨rfl, rfl⟩
  | goes _ _ ih =>
    obtain ⟨length_eq, nobody⟩ := ih kept fine
    exact ⟨by simpa using length_eq, nobody⟩
  | ends rest ends =>
    cases ends with
    | abandoned _ _ away => exact absurd kept away
    | aborted | lost => cases fine

theorem Turn.Taken.declarations {rest : List (RunningEvent A)} {later : List CancelRequest}
    (taken : t.Taken W factories dt token) (apart : t.found.id ∉ ids rest)
    (inside : ∀ id ∈ removedOf turns, id ∈ ids rest)
    (behind : (remaining W later turns ++ left).map RunningEvent.declaration =
      (rest.filter fun e => e.id ∉ removedOf turns).map RunningEvent.declaration) :
    (remaining W later (t :: turns) ++ left).map RunningEvent.declaration =
      ((t.found :: rest).filter fun e => e.id ∉ removedOf (t :: turns)).map
        RunningEvent.declaration := by
  cases gone : t.removed with
  | true =>
    have others : (rest.filter fun e => e.id ∉ t.found.id :: removedOf turns) =
        rest.filter fun e => e.id ∉ removedOf turns := by
      refine List.filter_congr fun e standing => ?_
      have different : e.id ≠ t.found.id := fun same => apart (same ▸ List.mem_map_of_mem standing)
      simp [different]
    have removed : removedOf (t :: turns) = t.found.id :: removedOf turns := by
      simp [removedOf, gone]
    rw [removed, List.filter_cons_of_neg (by simp), others, ← behind]
    simp [remaining, gone]
  | false =>
    have removed : removedOf (t :: turns) = removedOf turns := by
      simp [removedOf, gone]
    have stays : t.found.id ∉ removedOf turns := fun member => apart (inside _ member)
    rw [removed, List.filter_cons_of_pos (by simpa using stays), List.map_cons, ← behind]
    simp [remaining, gone, taken.declaration_eq]

theorem removedOf_subset : ∀ id ∈ removedOf turns, id ∈ ids (turns.map Turn.found) := by
  intro id member
  obtain ⟨t, removed, rfl⟩ := List.mem_map.mp member
  exact List.mem_map_of_mem (List.mem_map_of_mem (List.mem_of_mem_filter removed))

theorem Round.declarations
    (round : Round factories policy dt token world state todo turns left world' state' result)
    (later : List CancelRequest) (distinct : (ids todo).Nodup) :
    (remaining W later turns ++ left).map RunningEvent.declaration =
      (todo.filter fun e => e.id ∉ removedOf turns).map RunningEvent.declaration := by
  induction round with
  | closed => rfl
  | @goes _ _ _ _ _ _ t rest left turns _ goes round ih =>
    obtain ⟨apart, distinct⟩ := List.nodup_cons.mp distinct
    have behind := ih (by rwa [ids_heed])
    rw [declarations_heed] at behind
    refine goes.taken.declarations apart (fun id removed => ?_) behind
    have visited := removedOf_subset id removed
    rw [round.found_ids, ids_heed] at visited
    exact List.mem_of_mem_take visited
  | @ends _ _ _ _ t rest _ ends =>
    refine ends.taken.declarations (List.nodup_cons.mp distinct).1 (by simp [removedOf]) ?_
    simp [remaining, removedOf, Function.comp_def]

end Taken

namespace Engine

variable [ActionHandler W A] (engine : Engine W A)

/-- The second half of a frame as a round of turns, behind the tests and the cancellations that were
asked for before. -/
structure Rounds (world : W) (dt : Seconds) (tested pending : Journal) (turns : List (Turn A))
    (left : List (RunningEvent A)) : Prop where
  journal_eq : (engine.update world dt).journal = tested ++ pending ++ turns.flatMap Turn.journal
  cancels : pending.Only Notice.cancels
  hooks : OnlyCancels (calls pending)
  round : Round engine.actions engine.settings.failurePolicy dt engine.state.token world
    { (engine.beforeHooks (.update world dt)).state with requests := [] }
    ((engine.beforeHooks (.update world dt)).running.map
      (RunningEvent.heed W engine.state.requests)) turns left (engine.update world dt).world
    (engine.update world dt).engine.state (engine.update world dt).result
  running_eq : (engine.update world dt).engine.state.token = engine.state.token →
    (engine.update world dt).engine.running = remaining W [] turns ++ left

theorem update_rounds (world : W) (dt : Seconds) (sound : Sound engine.running) :
    (∃ cause, ({ engine with trace := [] }.intake world dt).result = .error cause ∧
      engine.update world dt =
        ⟨engine.beforeHooks (.update world dt), world,
          ({ engine with trace := [] }.intake world dt).journal, .error cause⟩) ∨
    (({ engine with trace := [] }.intake world dt).result = .ok () ∧
      ∃ pending turns left,
        engine.Rounds world dt ({ engine with trace := [] }.intake world dt).journal pending turns
          left) := by
  have same := intake_same world dt { engine with trace := [] }
  have begun := (intake_moves world dt { engine with trace := [] }).sound sound
  rcases update_cases engine world dt with failed | ⟨taken, journal, s', result, half, pass, ended⟩
  · exact .inl failed
  rcases tested : ({ engine with trace := [] }.intake world dt).result with cause | _
  · exact .inl ⟨cause, tested, by simp only [update, tested]; rfl⟩
  · rw [half] at same begun
    have heeded : (taken.sweepStart world).applyPending.1.running =
        [] ++ taken.running.map (RunningEvent.heed W engine.state.requests) := by
      simp only [Sweep.applyPending, sweepStart, same.requests, applyRequests_heed begun.distinct,
        List.nil_append]
    have distinct : (ids (taken.sweepStart world).applyPending.1.running).Nodup := by
      rw [heeded, List.nil_append, ids_heed]
      exact begun.distinct
    obtain ⟨turns, left, plays⟩ := pass.plays heeded rfl distinct rfl (by
      simp [Sweep.applyPending, sweepStart])
    refine .inr ⟨tested, (taken.sweepStart world).applyPending.2, turns, left, ?_,
      Sweep.applyPending_cancels _, (Sweep.applyPending_halted _).2, ?_, fun kept => ?_⟩
    · rw [ended, plays.journal_eq, List.append_assoc]
    · have round := plays.round
      rw [same.actions, same.settings, same.token] at round
      rw [ended, beforeHooks, half]
      exact round
    · rw [ended] at kept ⊢
      have running := plays.running_eq (kept.trans same.token.symm)
      simpa [unfinished] using running

end Engine

end MapScript
