import MapScript.Proofs.Engine.Asking
import MapScript.Proofs.Engine.Failing

set_option autoImplicit false

namespace MapScript

open Number Journal

variable {W A : Type}

section Pass

variable [ActionHandler W A] {factories : Dictionary (ActionFactory A)} {policy : FailurePolicy}
  {dt : Seconds} {token : ScopeToken} {index place : Nat} {s s' : Sweep W A}
  {journal pre post : Journal} {result : Except EngineError Unit} {id : EventId}
  {e event : RunningEvent A} {drained : Drained W A} {ended : Bool} {notices : Journal}

theorem Sweep.applyPending_hooks (distinct : (ids s.running).Nodup)
    (here : s.running[place]? = some e) (live : e.cancelled = false)
    (flying : e.actionState? = some .running) :
    callsOf e.id s.applyPending.2 ≠ [] ∨
      (¬ Aimed e.id s.state.requests ∧ s.applyPending.1.running[place]? = some e) := by
  by_cases aimed : Aimed e.id s.state.requests
  · exact .inl (applyRequests_hooks distinct here live flying aimed)
  · have heeded := heed_at (W := W) s.state.requests distinct here
    rw [heed_of_not_aimed aimed] at heeded
    exact .inr ⟨aimed, heeded⟩

theorem Sweep.Drives.asked (drives : s.Drives factories dt token index event drained)
    (idle : s.state.requests = [])
    (called : callsOf id (s.afterVisit index event drained.drive ended).applyPending.2 ≠ []) :
    Asks id drained.journal := by
  have aimed := applyRequests_aimed called
  rw [afterVisit_state, (drives.drains idle).requests_eq] at aimed
  rcases aimed_pending aimed with before | asks
  · simp [Aimed] at before
  · exact asks

theorem Pass.hooks (pass : Pass factories policy dt token index s journal s' result)
    (lenient : policy = .dropEvent) (distinct : (ids s.running).Nodup)
    (idle : s.state.requests = []) (here : s.running[place]? = some e) (behind : place < index)
    (live : e.cancelled = false) (flying : e.actionState? = some .running)
    (asks : Asks e.id journal) (kept : ¬ Resets journal) : callsOf e.id journal ≠ [] := by
  induction pass with
  | closed => exact absurd asks (not_asks_of_cancels (Sweep.applyPending_cancels _))
  | removed _ _ _ ih =>
    have later := ih distinct idle here (Nat.lt_succ_of_lt behind) (by simpa [Asks] using asks)
      (by simpa [Resets] using kept)
    rw [callsOf_append]
    exact List.append_ne_nil_of_right_ne_nil _ later
  | @passed index s s' event drained ended notices journal result drives settles same rest ih =>
    simp only [asks_append, (Abandons.settles settles).not_asks, or_false,
      not_asks_of_cancels (Sweep.applyPending_cancels _)] at asks
    simp only [resets_append, not_or] at kept
    simp only [callsOf_append]
    have standing : (s.afterVisit index event drained.drive ended).running[place]? = some e := by
      rw [Sweep.afterVisit_running, List.getElem?_set_ne (Nat.ne_of_gt behind)]
      exact here
    have distinct' : (ids (s.afterVisit index event drained.drive ended).running).Nodup := by
      rw [Sweep.afterVisit_running, ids_set drives.here drives.driven.id_eq]
      exact distinct
    rcases Sweep.applyPending_hooks distinct' standing live flying with now | ⟨unaimed, still⟩
    · exact List.append_ne_nil_of_left_ne_nil (List.append_ne_nil_of_right_ne_nil _ now) _
    · rw [Sweep.afterVisit_state, drives.aimed_iff idle kept.1.1.1] at unaimed
      rw [← ids_afterVisit ended drives] at distinct
      refine List.append_ne_nil_of_right_ne_nil _ ?_
      exact ih distinct rfl still (Nat.lt_succ_of_lt behind) (asks.resolve_left unaimed) kept.2
  | abandoned drives _ away =>
    rw [resets_append, not_or] at kept
    exact absurd (drives.resets_of_away away) kept.1
  | aborted _ strict => simp [lenient] at strict

theorem Pass.asked (pass : Pass factories policy dt token index s journal s' result)
    (lenient : policy = .dropEvent) (idle : s.state.requests = []) {call : Call}
    (called : call ∈ callsOf id journal) (cancels : call.hook = .cancel) : Asks id journal := by
  have undriven {index : Nat} {s : Sweep W A} {event : RunningEvent A} {drained : Drained W A}
      (drives : s.Drives factories dt token index event drained) :
      call ∉ callsOf id drained.journal := fun member =>
    absurd cancels (drives.driven.own call (mem_callsOf.mp member).1).2.2
  have unnoted {notices : Journal} (silent : calls notices = []) : call ∉ callsOf id notices := by
    simp [mem_callsOf, silent]
  induction pass with
  | @closed index s past fresh =>
    have aimed := applyRequests_aimed (List.ne_nil_of_mem called)
    simp [idle, Aimed] at aimed
  | removed _ _ _ ih => exact asks_right _ (ih idle (by simpa [mem_callsOf] using called))
  | @passed index s s' event drained ended notices journal result drives settles same rest ih =>
    simp only [callsOf_append, List.mem_append, undriven drives, unnoted settles.silent,
      false_or] at called
    rcases called with now | later
    · exact asks_left (asks_left (asks_left (drives.asked idle (List.ne_nil_of_mem now)) _) _) _
    · exact asks_right _ (ih rfl later)
  | abandoned drives abandons =>
    simp [undriven drives, unnoted abandons.silent] at called
  | aborted _ strict => simp [lenient] at strict

structure FollowsDrop (id : EventId) (running : List (RunningEvent A)) (pre post : Journal) :
    Prop where
  live : ∃ e ∈ running, e.id = id ∧ e.cancelled = false
  aside : Aside id (calls post)
  asked : callsOf id post ≠ [] → Asks id (pre ++ post)
  hooked : ∀ l, Agrees id l running → (replay id l pre).action = some .running →
    Asks id (pre ++ post) → ¬ Resets (pre ++ post) → callsOf id post ≠ []

theorem Sweep.Drives.followsDrop {cause : EngineError}
    (drives : s.Drives factories dt token index event drained) (lenient : policy = .dropEvent)
    (failed : drained.result = .error cause) (distinct : (ids s.running).Nodup)
    (idle : s.state.requests = [])
    (rest : Pass factories policy dt token (index + 1)
      (s.afterVisit index event drained.drive true).applyPending.1 journal s' result) :
    FollowsDrop event.id s.running drained.journal
      ((s.afterVisit index event drained.drive true).applyPending.2 ++ journal) := by
  have within : index < s.running.length := (List.getElem?_eq_some_iff.mp drives.here).1
  have same_id : drained.drive.event.id = event.id := drives.driven.id_eq
  have left : (s.afterVisit index event drained.drive true).running[index]? =
      some drained.drive.event := by
    rw [Sweep.afterVisit_running, List.getElem?_set_self within]
  have cancels := Sweep.applyPending_cancels (s.afterVisit index event drained.drive true)
  refine ⟨⟨event, List.mem_of_getElem? drives.here, rfl, drives.live⟩, ?_, fun called => ?_,
    fun l agrees flying asks kept => ?_⟩
  · rw [calls_append]
    exact aside_append.mpr ⟨aside_of_onlyCancels (Sweep.applyPending_halted _).2,
      (drives.untouched distinct rest).1⟩
  · rw [callsOf_append, ne_eq, List.append_eq_nil_iff, not_and_or] at called
    rcases called with now | later
    · exact asks_left (drives.asked idle now) _
    · obtain ⟨call, member⟩ := List.exists_mem_of_ne_nil _ later
      obtain ⟨listed, owned⟩ := mem_callsOf.mp member
      have cancels := (drives.untouched distinct rest).1 call listed owned
      exact asks_right _ (asks_right _ (rest.asked lenient rfl member cancels))
  · have told : Tells event.id s.running (drained.journal ++ [])
        (s.afterVisit index event drained.drive true).running :=
      drives.tells true (fun _ => rfl) (by simp [failed])
    rw [List.append_nil] at told
    obtain ⟨l', orderly, after⟩ := told l agrees
    have running : drained.drive.event.actionState? = some .running := by
      rw [orderly.replay_eq, ← after.life_eq _ (List.mem_of_getElem? left) same_id] at flying
      exact flying
    have live : drained.drive.event.cancelled = false :=
      drives.driven.cancelled_eq.trans drives.live
    simp only [asks_append, not_asks_of_cancels cancels, false_or] at asks
    simp only [resets_append, not_or] at kept
    rw [callsOf_append, ← same_id]
    rcases Sweep.applyPending_hooks after.sound.distinct left live running with now | ⟨unaimed, still⟩
    · exact List.append_ne_nil_of_left_ne_nil now _
    · rw [Sweep.afterVisit_state, same_id, drives.aimed_iff idle kept.1] at unaimed
      have later := asks.resolve_left unaimed
      rw [← same_id] at later
      rw [← ids_afterVisit true drives] at distinct
      refine List.append_ne_nil_of_right_ne_nil _ ?_
      exact rest.hooks lenient distinct rfl still (Nat.lt_succ_self index) live running later
        kept.2.2

theorem FollowsDrop.behind (drives : s.Drives factories dt token index event drained)
    (settles : Settles policy event.id drained.result ended notices)
    (distinct : (ids s.running).Nodup) (idle : s.state.requests = [])
    (follows : FollowsDrop id (s.afterVisit index event drained.drive ended).applyPending.1.running
      pre post) :
    FollowsDrop id s.running
      (drained.journal ++ notices ++
        (s.afterVisit index event drained.drive ended).applyPending.2 ++ pre) post := by
  have cancels := Sweep.applyPending_cancels (s.afterVisit index event drained.drive ended)
  have heeded : (s.afterVisit index event drained.drive ended).applyPending.1.running =
      (s.running.set index drained.drive.event).map
        (RunningEvent.heed W drained.drive.state.requests) := by
    rw [← ids_set drives.here drives.driven.id_eq] at distinct
    simp only [Sweep.applyPending, Sweep.afterVisit_running, Sweep.afterVisit_state,
      applyRequests_heed distinct]
  obtain ⟨f, standing, rfl, unflagged⟩ := follows.live
  rw [heeded] at standing
  obtain ⟨m, member, rfl⟩ := List.mem_map.mp standing
  have live : m.cancelled = false :=
    Bool.eq_false_iff.mpr fun set => by simp [(m.heed_halted _).flag set] at unflagged
  refine ⟨?_, follows.aside, fun called => ?_, fun l agrees flying asks kept => ?_⟩
  · rcases List.mem_or_eq_of_mem_set member with old | rfl
    · exact ⟨m, old, by simp, live⟩
    · refine ⟨event, List.mem_of_getElem? drives.here, ?_, drives.live⟩
      simp [drives.driven.id_eq]
  · rw [List.append_assoc]
    exact asks_right _ (follows.asked called)
  · rw [List.append_assoc] at asks kept
    rw [resets_append, not_or] at kept
    obtain ⟨l', orderly, after⟩ := ((drives.tells ended (fun _ => settles.unmarked)
      fun changed => absurd changed settles.kept).trans (Sweep.applyPending_tells _)) l agrees
    rw [replay_append, orderly.replay_eq] at flying
    refine follows.hooked l' after flying ?_ kept.2
    -- A request from before would have flagged the event, and it could not have been driven.
    have unasked : ¬ Asks (m.heed W drained.drive.state.requests).id drained.journal := by
      have still : ¬ Resets drained.journal := by
        simp only [resets_append, not_or] at kept
        exact kept.1.1.1
      rw [RunningEvent.heed_id, ← drives.aimed_iff idle still]
      exact fun aimed => by simp [heed_cancelled aimed] at unflagged
    simpa only [asks_append, unasked, (Abandons.settles settles).not_asks,
      not_asks_of_cancels cancels, false_or] using asks

theorem Settles.dropped_here {outcome : Except EngineError Drain} {cause : EngineError}
    (settles : Settles policy event.id outcome ended notices)
    (here : notices = pre ++ .eventDropped id cause :: post) :
    event.id = id ∧ pre = [] ∧ post = [] ∧ outcome = .error cause ∧ ended = true := by
  cases settles with
  | blocked | complete => exact absurd here not_split_nil
  | dropped cause =>
    rcases split_cons here with ⟨same, rfl⟩ | ⟨_, beyond⟩
    · obtain ⟨rfl, rfl⟩ := Notice.eventDropped.inj same
      simpa using here
    · exact absurd beyond not_split_nil

theorem Abandons.dropped_here {outcome : Except EngineError Drain} {cause : EngineError}
    (abandons : Abandons policy event.id outcome ended notices)
    (here : notices = pre ++ .eventDropped id cause :: post) :
    event.id = id ∧ pre = [] ∧ post = [] ∧ outcome = .error cause := by
  cases abandons with
  | scopeChanged =>
    rcases split_cons here with ⟨same, _⟩ | ⟨_, beyond⟩
    · cases same
    · exact absurd beyond not_split_nil
  | settles settles =>
    obtain ⟨same, front, behind, failed, _⟩ := settles.dropped_here here
    exact ⟨same, front, behind, failed⟩

theorem Pass.dropped (pass : Pass factories policy dt token index s journal s' result)
    (lenient : policy = .dropEvent) (distinct : (ids s.running).Nodup)
    (idle : s.state.requests = []) {cause : EngineError}
    (split : journal = pre ++ .eventDropped id cause :: post) :
    FollowsDrop id s.running pre post := by
  have driving {index : Nat} {s : Sweep W A} {event : RunningEvent A} {drained : Drained W A}
      (drives : s.Drives factories dt token index event drained) :
      .eventDropped id cause ∉ drained.journal :=
    fun member => absurd (drives.walk.drives _ member) (by simp)
  have cancelling (s : Sweep W A) : .eventDropped id cause ∉ s.applyPending.2 :=
    fun member => absurd (s.applyPending_cancels _ member) (by simp)
  induction pass generalizing pre with
  | @closed index s _ _ => exact absurd (by simp [split]) (cancelling s)
  | removed _ _ _ ih =>
    obtain ⟨front, rfl, later⟩ := split_behind split (by simp)
    obtain ⟨live, aside, asked, hooked⟩ := ih distinct idle later
    refine ⟨live, aside, fun called => ?_, fun l agrees flying asks kept => ?_⟩
    · rw [List.append_assoc]
      exact asks_right _ (asked called)
    · refine hooked l agrees ?_ (by simpa [Asks] using asks) (by simpa [Resets] using kept)
      simpa [replay, Notice.mark?] using flying
  | @passed index s s' event drained ended notices journal result drives settles same rest ih =>
    simp only [List.append_assoc] at split
    obtain ⟨front, rfl, noted⟩ := split_behind split (driving drives)
    rcases split_sides noted with ⟨later, now, rfl⟩ | ⟨front, rfl, behind⟩
    · obtain ⟨rfl, rfl, rfl, failed, rfl⟩ := settles.dropped_here now
      rw [List.append_nil, List.nil_append]
      exact drives.followsDrop lenient failed distinct idle rest
    · obtain ⟨front, rfl, later⟩ := split_behind behind (cancelling _)
      have still := ids_afterVisit ended drives ▸ distinct
      have follows := (ih still rfl later).behind drives settles distinct idle
      simpa only [List.append_assoc] using follows
  | @abandoned index s event drained ended notices drives abandons away =>
    obtain ⟨front, rfl, noted⟩ := split_behind split (driving drives)
    obtain ⟨rfl, rfl, rfl, failed⟩ := abandons.dropped_here noted
    rw [List.append_nil]
    refine ⟨⟨event, List.mem_of_getElem? drives.here, rfl, drives.live⟩, by simp [Aside],
      fun called => absurd rfl called, fun _ _ _ _ kept => absurd ?_ kept⟩
    simpa using drives.resets_of_away away
  | aborted _ strict => simp [lenient] at strict

end Pass

namespace Engine

variable [ActionHandler W A]

/-- The rest of a frame, and what comes after it, for an event that the frame drops, with all notices
before the drop in `past` and `pre`. The one hook that can still be called is the cancel hook of an
action that was running; it is called exactly if the cancellation is asked for in the frame, as long
as the scope stays. -/
structure Drops (engine : Engine W A) (world : W) (dt : Seconds) (past pre post : Journal)
    (id : EventId) : Prop where
  hushed : Hushed (replay id .unborn (past ++ pre)) (callsOf id post)
  asked : callsOf id post ≠ [] → Asks id (engine.update world dt).journal
  hooked : (replay id .unborn (past ++ pre)).action = some .running →
    Asks id (engine.update world dt).journal → ¬ Resets (engine.update world dt).journal →
    callsOf id post ≠ []
  gone : id ∉ ids (engine.update world dt).engine.running
  silent : ∀ later front call rest,
    ((engine.update world dt).engine.run later).2 = front ++ .called call :: rest →
    call.owner = some id → ∃ name slots, .eventStarted id name slots ∈ front

variable {engine : Engine W A} {world : W} {dt : Seconds} {past pre post : Journal} {id : EventId}
  {cause : EngineError} {l : Life}

theorem update_followsDrop (lenient : engine.settings.failurePolicy = .dropEvent)
    (agrees : Agrees id l engine.running)
    (moment : (engine.update world dt).journal = pre ++ .eventDropped id cause :: post) :
    Aside id (calls post) ∧
      (callsOf id post ≠ [] → Asks id (engine.update world dt).journal) ∧
      ((replay id l pre).action = some .running → Asks id (engine.update world dt).journal →
        ¬ Resets (engine.update world dt).journal → callsOf id post ≠ []) := by
  have admits := intake_admits { engine with trace := [] } world dt
  have tested : .eventDropped id cause ∉ ({ engine with trace := [] }.intake world dt).journal :=
    fun member => absurd (admits _ member) (by simp)
  have same := intake_same world dt { engine with trace := [] }
  have begun : Tells id engine.running ({ engine with trace := [] }.intake world dt).journal
      ({ engine with trace := [] }.intake world dt).engine.running :=
    startSatisfied_tells world dt _ { engine with trace := [] }
  rcases update_cases engine world dt with ⟨failure, _, ended⟩ | ⟨taken, journal, s', result, half,
    pass, ended⟩
  · simp only [ended] at moment
    refine absurd ?_ tested
    simp [moment]
  rw [half] at same begun
  simp only [ended] at moment ⊢
  have cancels := (taken.sweepStart world).applyPending_cancels
  obtain ⟨front, rfl, swept⟩ := split_behind moment tested
  obtain ⟨front, rfl, later⟩ := split_behind swept
    fun member => absurd (cancels _ member) (by simp)
  obtain ⟨l', orderly, between⟩ :=
    (begun.trans (taken.sweepStart world).applyPending_tells) l agrees
  have follows := pass.dropped (same.settings ▸ lenient) between.sound.distinct rfl later
  rw [moment, ← List.append_assoc]
  refine ⟨follows.aside, fun called => ?_, fun flying asks kept => ?_⟩
  · rcases asks_append.mp (follows.asked called) with before | after
    · exact asks_left (asks_right _ before) _
    · exact asks_right _ (by simpa [Asks] using after)
  · rw [replay_append, orderly.replay_eq] at flying
    refine follows.hooked l' between flying ?_ ?_
    · have unasked : ¬ Asks id ({ engine with trace := [] }.intake world dt).journal :=
        not_asks_of_only admits (fun _ => rfl) rfl
      have unnoted : ¬ Asks id [.eventDropped id cause] := by simp [Asks]
      rw [← List.singleton_append] at asks
      simpa only [asks_append, unasked, not_asks_of_cancels cancels, unnoted, false_or] using asks
    · intro resets
      refine kept ?_
      rcases resets_append.mp resets with before | ⟨previous, token, member⟩
      · simp [before]
      · exact ⟨previous, token, by simp [member]⟩

theorem drops_of_orderly (lenient : engine.settings.failurePolicy = .dropEvent)
    (told : Orderly id .unborn past l) (agrees : Agrees id l engine.running)
    (moment : (engine.update world dt).journal = pre ++ .eventDropped id cause :: post) :
    engine.Drops world dt past pre post id := by
  obtain ⟨aside, asked, hooked⟩ := update_followsDrop lenient agrees moment
  obtain ⟨l', latest, after⟩ := update_tells engine world dt l agrees
  have gone : id ∉ ids (engine.update world dt).engine.running :=
    perform_gone_of_removes engine (.update world dt)
      ⟨.eventDropped id cause, by simp [perform, moment], by simp⟩
  refine ⟨?_, asked, fun flying => hooked ?_, gone, fun later front call rest split owned => ?_⟩
  · have orderly := told.append latest
    rw [moment, ← List.append_assoc] at orderly
    have behind := (orderly_cons_of_none rfl).mp orderly.behind
    refine behind.hushed aside fun name slots member => ?_
    exact absurd ((update_parted engine world dt).behind moment rfl _ member) (by simp)
  · rwa [replay_append, told.replay_eq] at flying
  -- Nobody has the id any more, so its life is as good as that of one that was never started.
  · have vacant : Agrees id .unborn (engine.update world dt).engine.running :=
      ⟨after.sound, fun e standing same => absurd same (not_mem_ids.mp gone e standing)⟩
    obtain ⟨_, further, _⟩ := run_tells (engine.update world dt).engine later _ vacant
    rw [split] at further
    exact further.started_of_quiet ⟨rfl, by simp [Life.unborn]⟩ (mark_called owned) (by simp)

/-- Where failing events are dropped, each failure in a frame is followed at once by the drop of its
event. From then on nothing is called for the event, but for the cancel hook of an action that was
running, if the frame is asked to cancel the event while it still stands in the collection. -/
theorem dropped_event_is_only_cancelled (actions : Dictionary (ActionFactory A))
    (conditions : Dictionary (ConditionTest W)) (settings : Settings)
    (before : List (Operation W A)) {engine : Engine W A} {past : Journal}
    (reached : (new actions conditions settings).run before = (engine, past))
    (lenient : engine.settings.failurePolicy = .dropEvent) (world : W) (dt : Seconds) :
    (∀ pre notice post, (engine.update world dt).journal = pre ++ notice :: post →
      notice.works = false → ∃ id cause rest, post = .eventDropped id cause :: rest ∧
        ∀ call, notice = .called call → call.owner = some id) ∧
    ∀ id pre cause post, (engine.update world dt).journal = pre ++ .eventDropped id cause :: post →
      engine.Drops world dt past pre post id := by
  refine ⟨fun pre notice post split fails => update_fails_dropped engine lenient world dt split fails,
    fun id pre cause post moment => ?_⟩
  obtain ⟨l, told, agrees⟩ := reached_tells id reached
  exact drops_of_orderly lenient told agrees moment

def ambush : Engine Unit Scripted × Journal :=
  (Scripted.engine { Scripted.idle with update := ⟨[], .error ⟨"", []⟩⟩ } .dropEvent).run
    [.registerAction "hunt" fun _ =>
        .ok { Scripted.idle with start := ⟨[.cancelEvent ⟨1⟩], .ok ()⟩ },
      .loadScope ⟨"", [], [Scripted.event ⟨1⟩, ⟨⟨2⟩, "", none, [], [⟨"hunt", [], ""⟩]⟩]⟩]

def ambushed : Journal × Journal :=
  let journal := (ambush.1.update () .zero).journal
  (journal.take 6, journal.drop 7)

theorem ambush_moment : (ambush.1.update () .zero).journal =
    ambushed.1 ++ .eventDropped ⟨1⟩ (.handler "act" .update (some ⟨1⟩) ⟨"", []⟩) :: ambushed.2 := by
  decide

theorem dropped_event_is_only_cancelled_ambush :
    ambush.1.settings.failurePolicy = .dropEvent ∧
      ambush.1.Drops () .zero ambush.2 ambushed.1 ambushed.2 ⟨1⟩ := by
  obtain ⟨_, drops⟩ := dropped_event_is_only_cancelled _ _ _ _
    (rfl : _ = (ambush.1, ambush.2)) rfl () .zero
  exact ⟨rfl, drops _ _ _ _ ambush_moment⟩

theorem dropped_event_gets_cancel_hook :
    ∃ pre cause post call, (ambush.1.update () .zero).journal =
        pre ++ .eventDropped ⟨1⟩ cause :: post ∧
      .called call ∈ post ∧ call.owner = some ⟨1⟩ ∧ call.hook = .cancel :=
  ⟨_, _, _, ⟨some ⟨1⟩, 0, "act", .cancel, .finished, false⟩, ambush_moment, by decide, rfl, rfl⟩

end Engine

end MapScript
