import MapScript.Proofs.Engine.Asking
import MapScript.Proofs.Engine.LenientFrame
import MapScript.Proofs.Engine.OneShotFrame

set_option autoImplicit false

namespace MapScript

open Number Journal

variable {W A : Type}

theorem Driven.blocked_last {token token' : ScopeToken} {e e' : RunningEvent A} {calls : List Call}
    {result : Except EngineError Drain} (driven : Driven token e calls e' token' result)
    (blocked : result = .ok .blocked) :
    ∃ front call, calls = front ++ [call] ∧ call.hook = .update ∧ call.reply = .running ∧
      call.slot = e'.cursor := by
  induction driven with
  | complete | refused | startFailed | startedAway | updateFailed | cleanupFailed
  | finishedAway => cases blocked
  | held => exact ⟨[], _, rfl, rfl, rfl, rfl⟩
  | started _ _ _ _ _ ih =>
    obtain ⟨front, call, rfl, last⟩ := ih blocked
    exact ⟨_ :: front, call, rfl, last⟩
  | skipped _ _ _ ih => exact ih blocked
  | finished _ _ _ _ _ _ ih =>
    obtain ⟨front, call, rfl, last⟩ := ih blocked
    exact ⟨_ :: _ :: front, call, rfl, last⟩

theorem Driven.complete_past {token token' : ScopeToken} {e e' : RunningEvent A} {calls : List Call}
    {result : Except EngineError Drain} (driven : Driven token e calls e' token' result)
    (complete : result = .ok .complete) : e'.slot? = none := by
  induction driven with
  | complete past => exact past
  | refused | startFailed | startedAway | updateFailed | cleanupFailed | finishedAway =>
    cases complete
  | held =>
    split at complete <;> cases complete
  | started _ _ _ _ _ ih => exact ih complete
  | skipped _ _ _ ih => exact ih complete
  | finished _ _ _ _ _ _ ih => exact ih complete

/-- The event was driven in its turn until it was blocked, its script was finished, or it failed. -/
inductive Turn.RunsOut (t : Turn A) : Prop
  | blocks {front : List Call} {call : Call} (calls_eq : calls t.own = front ++ [call])
      (polled : call.hook = .update) (busy : call.reply = .running)
      (slot_eq : call.slot = t.left.cursor) (stays : t.removed = false)
  | completes (past : t.left.slot? = none) (noted : .eventFinished t.found.id ∈ t.own)
      (removed : t.removed = true)
  | fails {cause : EngineError} (noted : .eventDropped t.found.id cause ∈ t.own)
      (removed : t.removed = true)

section Rounds

variable [ActionHandler W A] {factories : Dictionary (ActionFactory A)} {policy : FailurePolicy}
  {dt : Seconds} {token : ScopeToken} {world world' : W} {state state' : ScopeState}
  {todo left : List (RunningEvent A)} {t : Turn A} {turns : List (Turn A)}
  {result : Except EngineError Unit}

theorem Round.each_goes
    (round : Round factories policy dt token world state todo turns left world' state' result)
    (kept : state'.token = token) (fine : result = .ok ()) :
    ∀ t ∈ turns, ∃ world₁ state₁ world₂ state₂,
      t.Goes factories policy dt token (W := W) world₁ state₁ world₂ state₂ := by
  induction round with
  | closed => exact fun t member => absurd member List.not_mem_nil
  | goes goes _ ih =>
    intro t member
    rcases List.mem_cons.mp member with rfl | later
    · exact ⟨_, _, _, _, goes⟩
    · exact ih kept fine t later
  | ends rest ends =>
    cases ends with
    | abandoned _ _ away => exact absurd kept away
    | aborted | lost => cases fine

theorem Turn.Goes.runsOut (goes : t.Goes factories policy dt token world state world' state')
    (live : t.found.cancelled = false) : t.RunsOut := by
  cases goes with
  | flagged set => exact absurd (set.symm.trans live) (by decide)
  | @driven e drained ended notices after drains settles =>
    have driven := drains.driven
    generalize result_eq : drained.result = outcome at settles
    cases settles with
    | blocked =>
      obtain ⟨front, call, calls_eq, polled, busy, slot_eq⟩ := driven.blocked_last result_eq
      exact .blocks (by simpa using calls_eq) polled busy slot_eq rfl
    | complete =>
      have noted := eventFinished_of_ended (drains.walk.ended_iff.mpr result_eq)
      exact .completes (driven.complete_past result_eq) (by simpa using noted) rfl
    | dropped cause =>
      have noted : Notice.eventDropped e.id cause ∈ drained.journal ++ [.eventDropped e.id cause] :=
        List.mem_append_right _ List.mem_cons_self
      exact .fails noted rfl

theorem Turn.Taken.flagged (taken : t.Taken W factories dt token)
    (set : t.found.cancelled = true) :
    t.left = t.found ∧ t.own = [.cancelledRemoved t.found.id] ∧ t.removed = true := by
  cases taken.visits with
  | flagged _ same own_eq => exact ⟨same, own_eq, taken.removed_iff.mpr (by simp [own_eq])⟩
  | driven drains => simp [drains.live] at set

theorem Turn.Taken.left_live (taken : t.Taken W factories dt token)
    (live : t.found.cancelled = false) : t.left.cancelled = false := by
  cases taken.visits with
  | flagged set => simp [live] at set
  | driven drains left_eq => rw [left_eq, drains.driven.cancelled_eq, live]

theorem Turn.Taken.left_id (taken : t.Taken W factories dt token) : t.left.id = t.found.id :=
  congrArg Event.id taken.declaration_eq

omit [ActionHandler W A] in
theorem split_at {j : Nat} (here : turns[j]? = some t) :
    turns = turns.take j ++ t :: turns.drop (j + 1) := by
  obtain ⟨within, rfl⟩ := List.getElem?_eq_some_iff.mp here
  rw [← List.drop_eq_getElem_cons within, List.take_append_drop]

theorem mem_remaining (last : List CancelRequest) {earlier later : List (Turn A)}
    (split : turns = earlier ++ t :: later) (stays : t.removed = false) :
    t.left.heed W (t.requests ++ requestsOf later ++ last) ∈ remaining W last turns := by
  subst split
  induction earlier with
  | nil => simp [remaining, stays]
  | cons first earlier ih =>
    rw [List.cons_append, remaining]
    split
    next => exact ih
    next => exact List.mem_cons_of_mem _ ih

omit [ActionHandler W A] in
theorem Turn.aimed_iff {id : EventId} (kept : ¬ Resets t.own) :
    Aimed id t.requests ↔ Asks id t.own := by
  rw [requests, aimed_pending_iff kept]
  simp [Aimed]

omit [ActionHandler W A] in
theorem aimed_requestsOf {id : EventId} :
    Aimed id (requestsOf turns) ↔ ∃ t ∈ turns, Aimed id t.requests := by
  simp only [Aimed, requestsOf, List.mem_flatMap]
  constructor
  · rintro (⟨t, member, named⟩ | ⟨t, member, all⟩)
    · exact ⟨t, member, .inl named⟩
    · exact ⟨t, member, .inr all⟩
  · rintro ⟨t, member, named | all⟩
    · exact .inl ⟨t, member, named⟩
    · exact .inr ⟨t, member, all⟩

theorem applyRequests_absent {running : List (RunningEvent A)} (distinct : (ids running).Nodup)
    {id : EventId} (absent : id ∉ ids running) (earlier later : List CancelRequest) :
    (applyRequests W (earlier ++ .event id :: later) running).1 =
      (applyRequests W (earlier ++ later) running).1 := by
  rw [applyRequests_heed distinct, applyRequests_heed distinct]
  refine List.map_congr_left fun e standing => ?_
  have apart : e.id ≠ id := by
    rintro rfl
    exact absent (List.mem_map_of_mem standing)
  have same : Aimed e.id (earlier ++ .event id :: later) ↔ Aimed e.id (earlier ++ later) := by
    simp [Aimed, apart]
  simp only [RunningEvent.heed, same]

end Rounds

namespace Engine

variable [ActionHandler W A]

/-- A pass over the collection that comes to its end, as a round with one turn for each event. -/
structure Passes (engine : Engine W A) (world : W) (dt : Seconds) (turns : List (Turn A)) :
    Prop where
  fine : (engine.sweep world dt).result = .ok ()
  kept : (engine.sweep world dt).engine.state.token = engine.state.token
  round : Round engine.actions engine.settings.failurePolicy dt engine.state.token world
    { engine.state with requests := [] }
    (engine.running.map (RunningEvent.heed W engine.state.requests)) turns []
    (engine.sweep world dt).world (engine.sweep world dt).engine.state
    (engine.sweep world dt).result
  journal_eq : ∃ pending : Journal, pending.Only Notice.cancels ∧ OnlyCancels (calls pending) ∧
    (engine.sweep world dt).journal = pending ++ turns.flatMap Turn.journal
  running_eq : (engine.sweep world dt).engine.running = remaining W [] turns

/-- An event that is asked for before its turn: the turn removes it. Of all hooks only the cancel hook
of its action can be called in the pass. -/
structure CutOff (engine : Engine W A) (world : W) (dt : Seconds) (t : Turn A) : Prop where
  own_eq : t.own = [.cancelledRemoved t.found.id]
  hushed : ∃ e ∈ engine.running, e.id = t.found.id ∧
    Hushed e.life (callsOf t.found.id (engine.sweep world dt).journal)
  gone : t.found.id ∉ ids (engine.sweep world dt).engine.running

/-- Where the requests of a pass find their events, by the places of the turn that asks and of the
turn of the event that is asked for. -/
structure HeedsInOrder (engine : Engine W A) (world : W) (dt : Seconds) (turns : List (Turn A)) :
    Prop where
  passes : engine.Passes world dt turns
  each : turns.map (fun t => t.found.id) = ids engine.running
  fares : ∀ t ∈ turns, t.Fares W engine.actions dt engine.state.token
  runsOut : ∀ t ∈ turns, t.found.cancelled = false → t.RunsOut
  ahead : ∀ (i j : Nat) (asking target : Turn A), turns[i]? = some asking →
    turns[j]? = some target → i < j → Asks target.found.id asking.own →
    engine.CutOff world dt target
  behind : ∀ (i j : Nat) (asking target : Turn A), turns[i]? = some asking →
    turns[j]? = some target → j ≤ i → Asks target.found.id asking.own → target.removed = false →
    ∃ e ∈ (engine.sweep world dt).engine.running, Halted target.left e ∧ e.cancelled = true
  spared : ∀ e ∈ engine.running, e.cancelled = false → ¬ Aimed e.id engine.state.requests →
    ¬ Asks e.id (engine.sweep world dt).journal →
    ∃ t ∈ turns, t.found = e ∧ t.RunsOut ∧ (t.removed = false →
      t.left ∈ (engine.sweep world dt).engine.running ∧ t.left.cancelled = false)
  absent : ∀ id ∉ ids engine.running, ∀ running : List (RunningEvent A),
    ids running = ids engine.running → ∀ earlier later,
    (applyRequests W (earlier ++ .event id :: later) running).1 =
      (applyRequests W (earlier ++ later) running).1

variable {engine : Engine W A} {world : W} {dt : Seconds} {turns : List (Turn A)}

theorem sweep_pass (engine : Engine W A) (world : W) (dt : Seconds) :
    ∃ journal s' result,
      Pass engine.actions engine.settings.failurePolicy dt engine.state.token 0
        (engine.sweepStart world).applyPending.1 journal s' result ∧
      engine.sweep world dt =
        ⟨{ engine with running := s'.running, state := s'.state }, s'.world,
          (engine.sweepStart world).applyPending.2 ++ journal, result⟩ :=
  ⟨_, _, _, Sweep.visitFrom_pass _ _ dt _ _ 0 _ rfl (Nat.zero_add _).symm, rfl⟩

theorem sweep_tells (engine : Engine W A) (world : W) (dt : Seconds) (id : EventId) :
    Tells id engine.running (engine.sweep world dt).journal
      (engine.sweep world dt).engine.running := by
  obtain ⟨journal, s', result, pass, ended⟩ := sweep_pass engine world dt
  rw [ended]
  exact (engine.sweepStart world).applyPending_tells.trans pass.tells

theorem sweep_undeclared (engine : Engine W A) (world : W) (dt : Seconds) :
    (engine.sweep world dt).journal.Only Notice.undeclared := by
  obtain ⟨journal, s', result, pass, ended⟩ := sweep_pass engine world dt
  rw [ended]
  refine (only_append _ _).mpr ⟨?_, pass.undeclared⟩
  exact (Sweep.applyPending_cancels _).mono Notice.undeclared_of_cancels

theorem sweep_passes (sound : Sound engine.running)
    (fine : (engine.sweep world dt).result = .ok ())
    (kept : ¬ Resets (engine.sweep world dt).journal) :
    ∃ turns, engine.Passes world dt turns := by
  have heeded : (engine.sweepStart world).applyPending.1.running =
      [] ++ engine.running.map (RunningEvent.heed W engine.state.requests) := by
    simp only [Sweep.applyPending, sweepStart, applyRequests_heed sound.distinct, List.nil_append]
  have distinct : (ids (engine.sweepStart world).applyPending.1.running).Nodup := by
    rw [heeded, List.nil_append, ids_heed]
    exact sound.distinct
  obtain ⟨journal, s', result, pass, ended⟩ := sweep_pass engine world dt
  obtain ⟨turns, left, plays⟩ := pass.plays heeded rfl distinct rfl (by
    simp [Sweep.applyPending, sweepStart])
  rw [ended] at fine kept
  have same : s'.state.token = engine.state.token := by
    cases pass.leaves rfl with
    | settled same => exact same
    | lost _ resets => exact absurd (resets_append.mpr (.inr resets)) kept
  obtain ⟨_, rfl⟩ := plays.round.complete same fine
  refine ⟨turns, ?_⟩
  constructor <;> rw [ended]
  · exact fine
  · exact same
  · exact plays.round
  · exact ⟨_, Sweep.applyPending_cancels _, (Sweep.applyPending_halted _).2,
      by rw [plays.journal_eq]⟩
  · have running := plays.running_eq same
    simpa [unfinished] using running

namespace Passes

variable (passes : engine.Passes world dt turns)

include passes

theorem taken : ∀ t ∈ turns, t.Taken W engine.actions dt engine.state.token :=
  passes.round.taken

theorem each : turns.map (fun t => t.found.id) = ids engine.running := by
  obtain ⟨length_eq, _⟩ := passes.round.complete passes.kept passes.fine
  have visited := passes.round.found_ids
  rw [length_eq, List.take_of_length_le (by simp [ids]), ids_heed] at visited
  rw [← visited, ids, List.map_map]
  rfl

theorem found_at {earlier later : List (Turn A)} {t : Turn A}
    (split : turns = earlier ++ t :: later) :
    ∃ e, engine.running[earlier.length]? = some e ∧
      t.found = e.heed W (engine.state.requests ++ requestsOf earlier) := by
  obtain ⟨heeded, there, found⟩ := passes.round.found_at split
  rw [List.getElem?_map, Option.map_eq_some_iff] at there
  obtain ⟨e, there, rfl⟩ := there
  exact ⟨e, there, by rw [found, RunningEvent.heed_heed]⟩

theorem own_subset {t : Turn A} (member : t ∈ turns) :
    ∀ notice ∈ t.own, notice ∈ (engine.sweep world dt).journal := by
  intro notice noted
  obtain ⟨pending, _, _, journal_eq⟩ := passes.journal_eq
  rw [journal_eq]
  exact List.mem_append_right _ (List.mem_flatMap.mpr
    ⟨t, member, List.mem_append_left _ noted⟩)

theorem aimed_iff {id : EventId} {t : Turn A} (member : t ∈ turns)
    (kept : ¬ Resets (engine.sweep world dt).journal) :
    Aimed id t.requests ↔ Asks id t.own := by
  refine t.aimed_iff fun ⟨previous, token, noted⟩ => kept ⟨previous, token, ?_⟩
  exact passes.own_subset member _ noted

theorem gone {t : Turn A} (sound : Sound engine.running) (member : t ∈ turns)
    (removed : t.removed = true) :
    t.found.id ∉ ids (engine.sweep world dt).engine.running := by
  have distinct : (ids (engine.running.map
      (RunningEvent.heed W engine.state.requests))).Nodup := by
    rw [ids_heed]
    exact sound.distinct
  have declarations := passes.round.declarations [] distinct
  rw [List.append_nil, ← passes.running_eq] at declarations
  have listed : t.found.id ∈ removedOf turns :=
    List.mem_map_of_mem (List.mem_filter.mpr ⟨member, removed⟩)
  intro standing
  have ids_eq := congrArg (List.map Event.id) declarations
  rw [List.map_map, List.map_map] at ids_eq
  have still : t.found.id ∈ (engine.sweep world dt).engine.running.map
      (Event.id ∘ RunningEvent.declaration) := standing
  rw [ids_eq] at still
  obtain ⟨e, unremoved, same⟩ := List.mem_map.mp still
  have kept := (List.mem_filter.mp unremoved).2
  rw [show e.id = t.found.id from same] at kept
  simp [listed] at kept

theorem eq_of_id {t u : Turn A} (sound : Sound engine.running) (member : t ∈ turns)
    (other : u ∈ turns) (same : t.found.id = u.found.id) : t = u := by
  have distinct : (turns.map fun t => t.found.id).Nodup := by
    rw [passes.each]
    exact sound.distinct
  exact List.inj_on_of_nodup_map distinct member other same

theorem aside {t : Turn A} (sound : Sound engine.running) (member : t ∈ turns)
    (undriven : calls t.own = []) :
    Aside t.found.id (calls (engine.sweep world dt).journal) := by
  obtain ⟨pending, _, hooks, journal_eq⟩ := passes.journal_eq
  rw [journal_eq, calls_append]
  refine aside_append.mpr ⟨aside_of_onlyCancels hooks, fun call called owned => ?_⟩
  obtain ⟨notice, noted, rfl⟩ : ∃ notice ∈ turns.flatMap Turn.journal, notice = .called call := by
    obtain ⟨notice, noted, heard⟩ := List.mem_filterMap.mp called
    exact ⟨notice, noted, by cases notice <;> simp_all⟩
  obtain ⟨u, other, here⟩ := List.mem_flatMap.mp noted
  rcases List.mem_append.mp here with own | after
  · have called : call ∈ calls u.own := List.mem_filterMap.mpr ⟨_, own, rfl⟩
    have owner := ((passes.taken u other).own_calls call called).1
    have same : u = t :=
      passes.eq_of_id sound other member (Option.some.inj (owner.symm.trans owned))
    rw [same, undriven] at called
    cases called
  · exact (passes.taken u other).hooks call (List.mem_filterMap.mpr ⟨_, after, rfl⟩)

theorem cutOff {t : Turn A} (sound : Sound engine.running) (member : t ∈ turns)
    (flagged : t.found.cancelled = true) : engine.CutOff world dt t := by
  obtain ⟨_, own_eq, removed⟩ := (passes.taken t member).flagged flagged
  refine ⟨own_eq, ?_, passes.gone sound member removed⟩
  obtain ⟨earlier, later, split⟩ := List.append_of_mem member
  obtain ⟨e, there, found⟩ := passes.found_at split
  have same : e.id = t.found.id := by rw [found, RunningEvent.heed_id]
  have standing := List.mem_of_getElem? there
  have agrees : Agrees t.found.id e.life engine.running := by
    refine ⟨sound, fun f running mine => ?_⟩
    rw [List.inj_on_of_nodup_map sound.distinct running standing (mine.trans same.symm)]
  obtain ⟨l', orderly, _⟩ := sweep_tells engine world dt t.found.id e.life agrees
  refine ⟨e, standing, same, orderly.hushed (passes.aside sound member (by simp [own_eq])) ?_⟩
  exact fun name slots started => absurd (sweep_undeclared engine world dt _ started) (by simp)

theorem spared {e : RunningEvent A} (sound : Sound engine.running)
    (kept : ¬ Resets (engine.sweep world dt).journal) (standing : e ∈ engine.running)
    (live : e.cancelled = false) (unaimed : ¬ Aimed e.id engine.state.requests)
    (unasked : ¬ Asks e.id (engine.sweep world dt).journal) :
    ∃ t ∈ turns, t.found = e ∧ (t.removed = false →
      t.left ∈ (engine.sweep world dt).engine.running ∧ t.left.cancelled = false) := by
  have unheard {t : Turn A} (member : t ∈ turns) : ¬ Aimed e.id t.requests := by
    rw [passes.aimed_iff member kept]
    exact fun asks => unasked (asks.imp (passes.own_subset member _) (passes.own_subset member _))
  have untouched {part : List (Turn A)} (inside : ∀ t ∈ part, t ∈ turns) :
      ¬ Aimed e.id (requestsOf part) := by
    rw [aimed_requestsOf]
    exact fun ⟨t, member, aimed⟩ => unheard (inside t member) aimed
  have listed : e.id ∈ turns.map fun t => t.found.id := by
    rw [passes.each]
    exact List.mem_map_of_mem standing
  obtain ⟨t, member, same⟩ := List.mem_map.mp listed
  obtain ⟨earlier, later, split⟩ := List.append_of_mem member
  obtain ⟨f, there, found⟩ := passes.found_at split
  have same_id : f.id = e.id := by rw [← same, found, RunningEvent.heed_id]
  obtain rfl : f = e :=
    List.inj_on_of_nodup_map sound.distinct (List.mem_of_getElem? there) standing same_id
  have found_eq : t.found = f := by
    rw [found, heed_of_not_aimed]
    rw [aimed_append, not_or]
    exact ⟨unaimed, untouched fun u before => by simp [split, before]⟩
  refine ⟨t, member, found_eq, fun stays => ⟨?_, ?_⟩⟩
  · have waits := mem_remaining (W := W) [] split stays
    rw [← passes.running_eq, heed_of_not_aimed] at waits
    · exact waits
    · rw [(passes.taken t member).left_id, same, List.append_nil, aimed_append, not_or]
      exact ⟨unheard member, untouched fun u after => by simp [split, after]⟩
  · exact (passes.taken t member).left_live (found_eq ▸ live)

variable {i j : Nat} {asking target : Turn A}

theorem ahead (sound : Sound engine.running) (kept : ¬ Resets (engine.sweep world dt).journal)
    (asker : turns[i]? = some asking) (asked : turns[j]? = some target) (lt : i < j)
    (asks : Asks target.found.id asking.own) : engine.CutOff world dt target := by
  refine passes.cutOff sound (List.mem_of_getElem? asked) ?_
  obtain ⟨e, _, found⟩ := passes.found_at (split_at asked)
  have before : asking ∈ turns.take j :=
    List.mem_of_getElem? ((List.getElem?_take_of_lt lt).trans asker)
  have aimed := (passes.aimed_iff (List.mem_of_getElem? asker) kept).mpr asks
  rw [found] at aimed ⊢
  rw [RunningEvent.heed_id] at aimed
  refine heed_cancelled (aimed_append.mpr (.inr ?_))
  exact aimed_requestsOf.mpr ⟨asking, before, aimed⟩

theorem behind (kept : ¬ Resets (engine.sweep world dt).journal)
    (asker : turns[i]? = some asking) (asked : turns[j]? = some target) (le : j ≤ i)
    (asks : Asks target.found.id asking.own) (stays : target.removed = false) :
    ∃ e ∈ (engine.sweep world dt).engine.running, Halted target.left e ∧ e.cancelled = true := by
  have aimed := (passes.aimed_iff (List.mem_of_getElem? asker) kept).mpr asks
  rw [← (passes.taken target (List.mem_of_getElem? asked)).left_id] at aimed
  have waits := mem_remaining (W := W) [] (split_at asked) stays
  rw [← passes.running_eq] at waits
  refine ⟨_, waits, RunningEvent.heed_halted _ _, heed_cancelled ?_⟩
  rw [List.append_nil]
  rcases Nat.lt_or_eq_of_le le with lt | rfl
  · have after : asking ∈ turns.drop (j + 1) := by
      refine List.mem_of_getElem? (i := i - (j + 1)) ?_
      rw [List.getElem?_drop, Nat.add_sub_cancel' lt, asker]
    exact aimed_append.mpr (.inr (aimed_requestsOf.mpr ⟨asking, after, aimed⟩))
  · obtain rfl : asking = target := Option.some.inj (asker.symm.trans asked)
    exact aimed_append.mpr (.inl aimed)

end Passes

theorem requests_heeded_in_order (sound : Sound engine.running)
    (fine : (engine.sweep world dt).result = .ok ())
    (kept : ¬ Resets (engine.sweep world dt).journal) :
    ∃ turns, engine.HeedsInOrder world dt turns := by
  obtain ⟨turns, passes⟩ := sweep_passes sound fine kept
  have runsOut : ∀ t ∈ turns, t.found.cancelled = false → t.RunsOut := by
    intro t member live
    obtain ⟨_, _, _, _, goes⟩ := passes.round.each_goes passes.kept passes.fine t member
    exact goes.runsOut live
  refine ⟨turns, passes, passes.each, passes.round.fares passes.kept passes.fine, runsOut, ?_, ?_, ?_,
    ?_⟩
  · exact fun i j asking target asker asked lt asks => passes.ahead sound kept asker asked lt asks
  · exact fun i j asking target asker asked le asks stays =>
      passes.behind kept asker asked le asks stays
  · intro e standing live unaimed unasked
    obtain ⟨t, member, found, stays⟩ := passes.spared sound kept standing live unaimed unasked
    exact ⟨t, member, found, runsOut t member (found ▸ live), stays⟩
  · intro id absent running same earlier later
    refine applyRequests_absent ?_ ?_ earlier later
    · rw [same]
      exact sound.distinct
    · rwa [same]

def quarrel : Engine Unit Scripted × Journal :=
  (Scripted.engine { Scripted.idle with update := ⟨[], .ok .running⟩ } .abort).run
    [.registerAction "quarrel" fun _ => .ok
        ⟨⟨[.cancelEvent ⟨4⟩, .cancelEvent ⟨9⟩, .cancelEvent ⟨2⟩, .cancelEvent ⟨1⟩], .ok ()⟩,
          ⟨[], .ok .running⟩, ⟨[], .ok ()⟩⟩,
      .startEvent (Scripted.event ⟨1⟩), .startEvent ⟨⟨2⟩, "", none, [], [⟨"quarrel", [], ""⟩]⟩,
      .startEvent (Scripted.event ⟨3⟩), .startEvent (Scripted.event ⟨4⟩)]

theorem requests_heeded_in_order_quarrel :
    Sound quarrel.1.running ∧ (quarrel.1.sweep () .zero).result = .ok () ∧
      ¬ Resets (quarrel.1.sweep () .zero).journal ∧
      (∃ turns, quarrel.1.HeedsInOrder () .zero turns) ∧
      (quarrel.1.sweep () .zero).engine.running.map (fun e => (e.id, e.cancelled)) =
        [(⟨1⟩, true), (⟨2⟩, true), (⟨3⟩, false)] := by
  have sound : Sound quarrel.1.running := reachable_sound _ _ _ _
  have kept : ¬ Resets (quarrel.1.sweep () .zero).journal := not_resets_of_changes (by decide)
  exact ⟨sound, rfl, kept, requests_heeded_in_order sound rfl kept, by decide⟩

end Engine

end MapScript
