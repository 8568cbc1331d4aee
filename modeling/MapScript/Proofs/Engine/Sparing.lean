import MapScript.Proofs.Engine.Removing

set_option autoImplicit false

namespace MapScript

open Number Journal

variable {W A : Type}

@[simp] def Notice.spares (id : EventId) : Notice → Bool
  | .eventCancelled other _ _ | .actionCancelled other _ => other ≠ id
  | _ => true

def Calm (e : RunningEvent A) (journal : Journal) : Prop :=
  (e.cancelled = true ∧ e.actionState? ≠ some .running) ∨
    journal.Only (Notice.spares e.id)

section Lists

variable {running running' : List (RunningEvent A)} {index place : Nat} {e e' : RunningEvent A}
  {journal earlier later : Journal}

theorem calm_append :
    Calm e (earlier ++ later) ↔ Calm e earlier ∧ Calm e later := by
  unfold Calm
  rw [only_append]
  tauto

theorem Stops.spares (stops : Stops e journal e') (calm : Calm e journal) : e' = e := by
  rcases calm with ⟨flagged, quiet⟩ | calm
  · cases stops with
    | spared => rfl
    | flagged live | cancelled live => simp [live] at flagged
    | stopped flying => simp [RunningEvent.actionState?, flying] at quiet
  · cases stops with
    | spared => rfl
    | _ => simp at calm

theorem Cancels.spares (cancels : Cancels running journal running')
    (here : running[place]? = some e) (calm : Calm e journal) : running'[place]? = some e := by
  induction cancels generalizing place with
  | none | ignored => simp at here
  | @event f f' rest rest' journal later one others ih =>
    obtain ⟨mine, behind⟩ := calm_append.mp calm
    cases place with
    | zero =>
      obtain rfl : f = e := by simpa using here
      simp [one.spares mine]
    | succ place => exact ih here behind
  | trans _ _ first second =>
    obtain ⟨mine, behind⟩ := calm_append.mp calm
    exact second (first here mine) behind

theorem id_ne_of_distinct (distinct : (ids running).Nodup) {event : RunningEvent A}
    (here : running[place]? = some e) (other : running[index]? = some event)
    (apart : place ≠ index) : event.id ≠ e.id := by
  intro same
  obtain ⟨within, rfl⟩ := List.getElem?_eq_some_iff.mp here
  obtain ⟨bound, rfl⟩ := List.getElem?_eq_some_iff.mp other
  have placed : place < (ids running).length := by simpa [ids] using within
  have indexed : index < (ids running).length := by simpa [ids] using bound
  have equal : (ids running)[place] = (ids running)[index] := by simp [ids, same]
  exact apart (distinct.getElem_inj_iff.mp equal)

end Lists

def Aside (id : EventId) (calls : List Call) : Prop :=
  ∀ call ∈ calls, call.owner = some id → call.hook = .cancel

theorem aside_append {id : EventId} {earlier later : List Call} :
    Aside id (earlier ++ later) ↔ Aside id earlier ∧ Aside id later :=
  List.forall_mem_append

theorem aside_of_onlyCancels {id : EventId} {calls : List Call} (cancels : OnlyCancels calls) :
    Aside id calls :=
  fun call member _ => cancels call member

inductive WalkedOnce (W : Type) [ActionHandler W A] (factories : Dictionary (ActionFactory A))
    (dt : Seconds) (token : ScopeToken) (e : RunningEvent A) (journal : Journal)
    (running' : List (RunningEvent A)) : Prop
  | intro {world : W} {state : ScopeState} {front mine behind : Journal} {d' : Drive W A}
      {result : Except EngineError Drain} (fresh : state.token = token)
      (kept : d'.state.token = token) (journal_eq : journal = front ++ mine ++ behind)
      (walk : Walk factories dt token ⟨e, world, state⟩ mine d' result)
      (before : Aside e.id (calls front)) (after : Aside e.id (calls behind))
      (outcome : (result = .ok .blocked ∧ d'.event ∈ running') ∨ result = .ok .complete ∨
        ∃ cause, result = .error cause ∧ .eventDropped e.id cause ∈ journal)

theorem WalkedOnce.behind [ActionHandler W A] {factories : Dictionary (ActionFactory A)}
    {dt : Seconds} {token : ScopeToken} {e : RunningEvent A} {earlier later : Journal}
    {running' : List (RunningEvent A)}
    (once : WalkedOnce W factories dt token e later running')
    (aside : Aside e.id (calls earlier)) :
    WalkedOnce W factories dt token e (earlier ++ later) running' := by
  cases once with
  | @intro _ _ front mine behind _ _ fresh kept journal_eq walk before after outcome =>
    have whole : earlier ++ later = earlier ++ front ++ mine ++ behind := by
      simp [journal_eq]
    refine .intro fresh kept whole walk ?_ after (outcome.imp_right (.imp_right ?_))
    · rw [calls_append]
      exact aside_append.mpr ⟨aside, before⟩
    · exact fun ⟨cause, failed, noted⟩ => ⟨cause, failed, List.mem_append_right _ noted⟩

inductive DrivenOnce (token : ScopeToken) (e : RunningEvent A) (journal : Journal)
    (running' : List (RunningEvent A)) : Prop
  | blocked {front mine behind : List Call} {e' : RunningEvent A}
      (calls_eq : calls journal = front ++ mine ++ behind)
      (driven : Driven token e mine e' token (.ok .blocked)) (before : Aside e.id front)
      (after : Aside e.id behind) (standing : e' ∈ running')
  | complete {front mine behind : List Call} {e' : RunningEvent A}
      (calls_eq : calls journal = front ++ mine ++ behind)
      (driven : Driven token e mine e' token (.ok .complete)) (before : Aside e.id front)
      (after : Aside e.id behind) (finished : .eventFinished e.id ∈ journal)

theorem WalkedOnce.drivenOnce [ActionHandler W A] {factories : Dictionary (ActionFactory A)}
    {dt : Seconds} {token : ScopeToken} {e : RunningEvent A} {journal : Journal}
    {running' : List (RunningEvent A)}
    (once : WalkedOnce W factories dt token e journal running')
    (undropped : ∀ cause, .eventDropped e.id cause ∉ journal) :
    DrivenOnce token e journal running' := by
  obtain ⟨fresh, kept, rfl, walk, before, after, outcome⟩ := once
  have driven := walk.driven fresh
  rw [kept] at driven
  obtain ⟨rfl, standing⟩ | rfl | ⟨cause, _, noted⟩ := outcome
  · exact .blocked (by simp only [calls_append]) driven before after standing
  · have finished := eventFinished_of_ended (walk.ended_iff.mpr rfl)
    exact .complete (by simp only [calls_append]) driven before after (by simp [finished])
  · exact absurd noted (undropped cause)

theorem Settles.outcome {policy : FailurePolicy} {id : EventId} {ended : Bool}
    {result : Except EngineError Drain} {notices : Journal}
    (settles : Settles policy id result ended notices) :
    (result = .ok .blocked ∧ ended = false ∧ notices = []) ∨
      (result = .ok .complete ∧ ended = true ∧ notices = []) ∨
      ∃ cause, result = .error cause ∧ notices = [.eventDropped id cause] := by
  cases settles with
  | blocked => exact .inl ⟨rfl, rfl, rfl⟩
  | complete => exact .inr (.inl ⟨rfl, rfl, rfl⟩)
  | dropped cause => exact .inr (.inr ⟨cause, rfl, rfl⟩)

section Pass

variable [ActionHandler W A] {factories : Dictionary (ActionFactory A)} {policy : FailurePolicy}
  {dt : Seconds} {token : ScopeToken} {index place : Nat} {s s' : Sweep W A} {journal : Journal}
  {result : Except EngineError Unit} {e : RunningEvent A}

theorem Sweep.applyPending_spares (here : s.running[place]? = some e)
    (calm : Calm e s.applyPending.2) : s.applyPending.1.running[place]? = some e :=
  (applyRequests_cancels s.state.requests s.running).spares here calm

theorem Sweep.close_stays (token : ScopeToken) (here : s.running[place]? = some e)
    (unfinished : e.id ∉ s.finished) (calm : Calm e (s.close token).2) :
    (s.close token).1.state.token ≠ token ∨ e ∈ (s.close token).1.running := by
  unfold close at calm ⊢
  split at calm
  next same =>
    rw [if_pos same]
    have standing := List.mem_of_getElem? (s.applyPending_spares here calm)
    exact .inr (List.mem_filter.mpr ⟨standing, by simpa using unfinished⟩)
  next away =>
    rw [if_neg away]
    exact .inl away

theorem Sweep.visit_spares {event : RunningEvent A} {drained : Drained W A} {ended : Bool}
    (here : s.running[place]? = some e) (apart : place ≠ index)
    (calm : Calm e (s.afterVisit index event drained.drive ended).applyPending.2) :
    (s.afterVisit index event drained.drive ended).applyPending.1.running[place]? = some e := by
  refine Sweep.applyPending_spares ?_ calm
  rw [afterVisit_running, List.getElem?_set_ne apart.symm]
  exact here

omit [ActionHandler W A] in
theorem Sweep.not_finished {id other : EventId} (apart : other ≠ id)
    (unfinished : id ∉ s.finished) :
    id ∉ (s.finish other).finished := by
  simpa [finish, apart.symm] using unfinished

theorem Sweep.visit_unfinished {event : RunningEvent A} (drive : Drive W A) (ended : Bool)
    (other : event.id ≠ e.id) (unfinished : e.id ∉ s.finished) :
    e.id ∉ (s.afterVisit index event drive ended).applyPending.1.finished := by
  cases ended with
  | false => exact unfinished
  | true => exact Sweep.not_finished other unfinished

theorem Pass.stays (pass : Pass factories policy dt token index s journal s' result)
    (here : s.running[place]? = some e) (behind : place < index) (distinct : (ids s.running).Nodup)
    (unfinished : e.id ∉ s.finished) (calm : Calm e journal) :
    s'.state.token ≠ token ∨ e ∈ s'.running := by
  induction pass with
  | @closed index s past fresh =>
    have closing := Sweep.close_stays token here unfinished
    rw [Sweep.close_eq fresh] at closing
    exact closing calm
  | @removed index s s' event journal result standing flagged rest ih =>
    have other := id_ne_of_distinct distinct here standing (Nat.ne_of_lt behind)
    exact ih here (Nat.lt_succ_of_lt behind) distinct (Sweep.not_finished other unfinished)
      (calm_append.mp calm).2
  | @passed index s s' event drained ended notices journal result drives settles same rest ih =>
    obtain ⟨calm, later⟩ := calm_append.mp calm
    have other := id_ne_of_distinct distinct here drives.here (Nat.ne_of_lt behind)
    refine ih (Sweep.visit_spares here (Nat.ne_of_lt behind) (calm_append.mp calm).2)
      (Nat.lt_succ_of_lt behind) ?_ (Sweep.visit_unfinished _ ended other unfinished) later
    rw [ids_afterVisit ended drives]
    exact distinct
  | @abandoned index s event drained ended notices drives abandons away =>
    rw [Sweep.abandon, Sweep.afterVisit_state]
    exact .inl away
  | @aborted index s event drained cause drives strict failed =>
    have standing : (s.afterDrain index drained.drive).running[place]? = some e := by
      rw [Sweep.afterDrain, List.getElem?_set_ne (Nat.ne_of_gt behind)]
      exact here
    exact Sweep.close_stays token standing unfinished (calm_append.mp calm).2

theorem Pass.finds_flagged (pass : Pass factories policy dt token index s journal s' result)
    (here : s.running[place]? = some e) (ahead : index ≤ place) (distinct : (ids s.running).Nodup)
    (unfinished : e.id ∉ s.finished) (flagged : e.cancelled = true)
    (quiet : e.actionState? ≠ some .running) :
    s'.state.token ≠ token ∨ .cancelledRemoved e.id ∈ journal ∨
      (e ∈ s'.running ∧ ∃ cause, result = .error cause) := by
  have calm (journal : Journal) : Calm e journal := .inl ⟨flagged, quiet⟩
  -- A flagged event is not the one that is driven.
  have before {index : Nat} {s : Sweep W A} {event : RunningEvent A} {drained : Drained W A}
      (here : s.running[place]? = some e) (ahead : index ≤ place)
      (drives : s.Drives factories dt token index event drained) : index < place := by
    refine Nat.lt_of_le_of_ne ahead ?_
    rintro rfl
    obtain rfl : event = e := Option.some.inj (drives.here.symm.trans here)
    simp [drives.live] at flagged
  induction pass with
  | closed past =>
    have within := (List.getElem?_eq_some_iff.mp here).1
    omega
  | @removed index s s' event journal result standing _ rest ih =>
    rcases Nat.lt_or_eq_of_le ahead with later | rfl
    · have other := id_ne_of_distinct distinct here standing (Nat.ne_of_gt later)
      rcases ih here later distinct (Sweep.not_finished other unfinished) with away | noted | kept
      · exact .inl away
      · exact .inr (.inl (List.mem_append_right _ noted))
      · exact .inr (.inr kept)
    · obtain rfl : event = e := Option.some.inj (standing.symm.trans here)
      exact .inr (.inl List.mem_cons_self)
  | @passed index s s' event drained ended notices journal result drives settles same rest ih =>
    have later := before here ahead drives
    have other := id_ne_of_distinct distinct here drives.here (Nat.ne_of_gt later)
    have standing : (s.afterVisit index event drained.drive ended).applyPending.1.running[place]? =
        some e := Sweep.visit_spares here (Nat.ne_of_gt later) (calm _)
    rw [← ids_afterVisit ended drives] at distinct
    rcases ih standing later distinct (Sweep.visit_unfinished _ ended other unfinished) with
      away | noted | kept
    · exact .inl away
    · exact .inr (.inl (List.mem_append_right _ noted))
    · exact .inr (.inr kept)
  | @abandoned index s event drained ended notices drives abandons away =>
    rw [Sweep.abandon, Sweep.afterVisit_state]
    exact .inl away
  | @aborted index s event drained cause drives strict failed =>
    have later := before here ahead drives
    have standing : (s.afterDrain index drained.drive).running[place]? = some e := by
      rw [Sweep.afterDrain, List.getElem?_set_ne (Nat.ne_of_lt later)]
      exact here
    rcases Sweep.close_stays token standing unfinished (calm _) with away | kept
    · exact .inl away
    · exact .inr (.inr ⟨kept, cause, rfl⟩)

theorem Sweep.Drives.aside {event : RunningEvent A} {drained : Drained W A}
    (drives : s.Drives factories dt token index event drained) (other : event.id ≠ e.id) :
    Aside e.id (calls drained.journal) := by
  intro call member owned
  have owner := (drives.driven.own call member).1
  exact absurd (Option.some.inj (owner.symm.trans owned)) other

theorem Sweep.Drives.walkedOnce {event : RunningEvent A} {drained : Drained W A} {ended : Bool}
    {notices : Journal} (drives : s.Drives factories dt token index event drained)
    (settles : Settles policy event.id drained.result ended notices)
    (same : drained.drive.state.token = token)
    (rest : Pass factories policy dt token (index + 1)
      (s.afterVisit index event drained.drive ended).applyPending.1 journal s' result)
    (distinct : (ids s.running).Nodup) (unfinished : event.id ∉ s.finished)
    (spared : ((s.afterVisit index event drained.drive ended).applyPending.2 ++ journal).Only
      (Notice.spares event.id)) (kept : s'.state.token = token) :
    WalkedOnce W factories dt token event (drained.journal ++ notices ++
      ((s.afterVisit index event drained.drive ended).applyPending.2 ++ journal)) s'.running := by
  have cancels := (s.afterVisit index event drained.drive ended).applyPending_halted.2
  obtain ⟨untouched, _⟩ := drives.untouched distinct rest
  obtain ⟨first, later⟩ := (only_append _ _).mp spared
  have journal_eq : drained.journal ++ notices ++
      ((s.afterVisit index event drained.drive ended).applyPending.2 ++ journal) =
      [] ++ drained.journal ++
        (notices ++ ((s.afterVisit index event drained.drive ended).applyPending.2 ++ journal)) := by
    simp
  refine .intro drives.fresh same journal_eq drives.walk (by simp [Aside]) ?_ ?_
  · simp only [calls_append, settles.silent, List.nil_append]
    exact aside_append.mpr ⟨aside_of_onlyCancels cancels, untouched⟩
  · rcases settles.outcome with ⟨blocked, rfl, rfl⟩ | ⟨complete, _, _⟩ | ⟨cause, failed, rfl⟩
    · have same_id : drained.drive.event.id = event.id := drives.driven.id_eq
      have within : index < s.running.length := (List.getElem?_eq_some_iff.mp drives.here).1
      have left : (s.afterVisit index event drained.drive false).running[index]? =
          some drained.drive.event := by
        rw [Sweep.afterVisit_running, List.getElem?_set_self within]
      have standing := Sweep.applyPending_spares left (.inr (same_id ▸ first))
      rw [← ids_afterVisit false drives] at distinct
      -- Its place is behind the position from now on.
      have stays := rest.stays standing (Nat.lt_succ_self index) distinct (same_id ▸ unfinished)
        (.inr (same_id ▸ later))
      exact .inl ⟨blocked, stays.resolve_left (not_not_intro kept)⟩
    · exact .inr (.inl complete)
    · exact .inr (.inr ⟨cause, failed, by simp⟩)

theorem Pass.walks_once (pass : Pass factories policy dt token index s journal s' result)
    (here : s.running[place]? = some e) (ahead : index ≤ place) (distinct : (ids s.running).Nodup)
    (unfinished : e.id ∉ s.finished) (live : e.cancelled = false)
    (spared : journal.Only (Notice.spares e.id)) (kept : s'.state.token = token)
    (fine : result = .ok ()) :
    WalkedOnce W factories dt token e journal s'.running := by
  induction pass with
  | closed past =>
    have within := (List.getElem?_eq_some_iff.mp here).1
    omega
  | @removed index s s' event journal result standing flagged rest ih =>
    have apart : index ≠ place := by
      rintro rfl
      obtain rfl : event = e := Option.some.inj (standing.symm.trans here)
      simp [live] at flagged
    have other := id_ne_of_distinct distinct here standing apart.symm
    have once := ih here (Nat.lt_of_le_of_ne ahead apart) distinct
      (Sweep.not_finished other unfinished) ((only_append _ _).mp spared).2 kept fine
    exact once.behind (by simp [Aside])
  | @passed index s s' event drained ended notices journal result drives settles same rest ih =>
    obtain ⟨spared, later⟩ := (only_append _ _).mp spared
    have cancels := (Sweep.applyPending_halted (s.afterVisit index event drained.drive ended)).2
    rcases Nat.lt_or_eq_of_le ahead with before | rfl
    · have other := id_ne_of_distinct distinct here drives.here (Nat.ne_of_gt before)
      have calm : Calm e (s.afterVisit index event drained.drive ended).applyPending.2 :=
        .inr ((only_append _ _).mp spared).2
      have standing := Sweep.visit_spares here (Nat.ne_of_gt before) calm
      rw [← ids_afterVisit ended drives] at distinct
      have once := ih standing before distinct (Sweep.visit_unfinished _ ended other unfinished)
        later kept fine
      refine once.behind ?_
      simp only [calls_append, settles.silent, List.append_nil]
      exact aside_append.mpr ⟨drives.aside other, aside_of_onlyCancels cancels⟩
    · obtain rfl : event = e := Option.some.inj (drives.here.symm.trans here)
      rw [List.append_assoc]
      refine drives.walkedOnce settles same rest distinct unfinished ?_ kept
      exact (only_append _ _).mpr ⟨((only_append _ _).mp spared).2, later⟩
  | @abandoned index s event drained ended notices drives abandons away =>
    rw [Sweep.abandon, Sweep.afterVisit_state] at kept
    exact absurd kept away
  | aborted => cases fine

end Pass

theorem ScopeToken.next_ne (token : ScopeToken) : token.next ≠ token := by
  intro same
  have number : token.number + 1 = token.number := congrArg ScopeToken.number same
  simp at number

namespace Engine

variable [ActionHandler W A] {e : RunningEvent A} (engine : Engine W A)

theorem sweepStart_finds (world : W) (sound : Sound engine.running) (standing : e ∈ engine.running)
    (calm : Calm e (engine.sweepStart world).applyPending.2) :
    (ids (engine.sweepStart world).applyPending.1.running).Nodup ∧
      ∃ place : Nat, (engine.sweepStart world).applyPending.1.running[place]? = some e := by
  obtain ⟨place, here⟩ := List.mem_iff_getElem?.mp standing
  rw [ids_halted (engine.sweepStart world).applyPending_halted.1]
  exact ⟨sound.distinct, place, (engine.sweepStart world).applyPending_spares here calm⟩

theorem update_fine {world : W} {dt : Seconds}
    (fine : ∀ after cause,
      (engine.perform (.update world dt)).answer ≠ .updated after (.error cause)) :
    (engine.update world dt).result = .ok () := by
  cases result : (engine.update world dt).result with
  | ok => rfl
  | error cause => exact absurd (congrArg (Answer.updated _) result) (fine _ cause)

theorem fine_of_update {world : W} {dt : Seconds}
    (fine : (engine.update world dt).result.toBool = true) (after : W) (cause : EngineError) :
    (engine.perform (.update world dt)).answer ≠ .updated after (.error cause) := by
  intro same
  have failed : (engine.update world dt).result = .error cause := (Answer.updated.inj same).2
  rw [failed] at fine
  cases fine

omit [ActionHandler W A] in
theorem mem_beforeHooks (world : W) (dt : Seconds) (standing : e ∈ engine.running) :
    e ∈ (engine.beforeHooks (.update world dt)).running := by
  obtain ⟨new, grown⟩ := intake_grows world dt { engine with trace := [] }
  rw [beforeHooks, grown]
  exact List.mem_append_left new standing

theorem update_walks {world : W} {dt : Seconds} (sound : Sound engine.running)
    (fine : (engine.update world dt).result = .ok ())
    (kept : (engine.update world dt).engine.state.token = engine.state.token)
    (spared : (engine.update world dt).journal.Only (Notice.spares e.id))
    (standing : e ∈ (engine.beforeHooks (.update world dt)).running) (live : e.cancelled = false) :
    WalkedOnce W engine.actions dt engine.state.token e (engine.update world dt).journal
      (engine.update world dt).engine.running := by
  have silent := intake_calls { engine with trace := [] } world dt
  have same := intake_same world dt { engine with trace := [] }
  have begun := (intake_moves world dt { engine with trace := [] }).sound sound
  simp only [beforeHooks] at standing
  rcases update_cases engine world dt with ⟨cause, _, ended⟩ | ⟨taken, journal, s', result, half,
    pass, ended⟩
  · rw [ended] at fine
    cases fine
  · rw [half] at begun standing same
    rw [ended] at fine kept spared ⊢
    obtain ⟨_, spared⟩ := (only_append _ _).mp spared
    obtain ⟨first, later⟩ := (only_append _ _).mp spared
    obtain ⟨distinct, place, here⟩ := sweepStart_finds taken world begun standing (.inr first)
    have once := pass.walks_once here (Nat.zero_le place) distinct List.not_mem_nil live later
      (kept.trans same.token.symm) fine
    rw [same.token, same.actions] at once
    have pending : Aside e.id (calls (taken.sweepStart world).applyPending.2) :=
      aside_of_onlyCancels (taken.sweepStart world).applyPending_halted.2
    exact (once.behind pending).behind (by simp [silent, Aside])

theorem perform_stays (operation : Operation W A) (idle : operation.isUpdate = false)
    (standing : e ∈ engine.running) (calm : Calm e (engine.perform operation).journal) :
    (engine.perform operation).engine.state.token ≠ engine.state.token ∨
      e ∈ (engine.perform operation).engine.running := by
  obtain ⟨place, here⟩ := List.mem_iff_getElem?.mp standing
  have spared {running : List (RunningEvent A)} {journal : Journal}
      (cancels : Cancels engine.running journal running) (calm : Calm e journal) : e ∈ running :=
    List.mem_of_getElem? (cancels.spares here calm)
  cases operation with
  | update => cases idle
  | loadScope | reset => exact .inl (ScopeToken.next_ne engine.state.token)
  | startEvent event =>
    obtain ⟨new, grown⟩ := startEvent_grows engine event
    refine .inr ?_
    simp only [perform, grown]
    exact List.mem_append_left _ standing
  | execute polls world name parameters skip step =>
    obtain ⟨alone, cancels, ending, kept, journal_eq, _, _, cancelled, _, keeps⟩ :=
      execute_parts engine polls world name parameters skip step
    simp only [perform] at calm ⊢
    rw [journal_eq] at calm
    refine or_iff_not_imp_left.mpr fun same => ?_
    rw [keeps (not_not.mp same)] at cancelled
    exact spared cancelled (calm_append.mp (calm_append.mp calm).1).2
  | cancelEvent id => exact .inr (spared (cancelById_cancels id _) calm)
  | cancelAllEvents => exact .inr (spared (cancelAll_cancels _) calm)
  | cancelCurrentAction id => exact .inr (spared (cancelActionIn_cancels id _) calm)
  | checkCondition | configure | registerAction | registerCondition | replaceActions
  | replaceConditions | remember => exact .inr standing

theorem perform_aside {id : EventId} (operation : Operation W A)
    (idle : operation.isUpdate = false) : Aside id (calls (engine.perform operation).journal) := by
  cases operation with
  | update => cases idle
  | execute polls world name parameters skip step =>
    obtain ⟨alone, cancels, _, calls_eq, foreign, _, _, _, hooks⟩ :=
      execute_calls polls engine world name parameters skip step
    simp only [perform, calls_eq]
    refine aside_append.mpr ⟨fun call member owned => ?_, aside_of_onlyCancels hooks⟩
    rw [foreign call member] at owned
    cases owned
  | _ => exact aside_of_onlyCancels (perform_onlyCancels engine _ rfl)

end Engine

end MapScript
