import MapScript.Proofs.Engine.ScopeChange
import MapScript.Proofs.Engine.Sparing

set_option autoImplicit false

namespace MapScript

open Number Journal

variable {W A : Type}

namespace Life

def Quiet (l : Life) : Prop :=
  l.cancelled = true ∧ l.action ≠ some .running

theorem begun_of_quiet {l : Life} {mark : Mark} (quiet : l.Quiet) (allowed : l.Allows mark) :
    ∃ slots, mark = .begun slots := by
  obtain ⟨flagged, idle⟩ := quiet
  cases mark with
  | begun slots => exact ⟨slots, rfl⟩
  | called slot hook => cases hook <;> simp_all [Allows]
  | skipped | flagged | ended => simp_all [Allows]

end Life

section Lives

variable {id : EventId} {l l' : Life} {front rest journal : Journal} {notice : Notice} {mark : Mark}

theorem Journal.Orderly.started_of_quiet (orderly : Orderly id l (front ++ notice :: rest) l')
    (quiet : l.Quiet) (marked : notice.mark? id = some mark)
    (other : ∀ slots, mark ≠ .begun slots) : ∃ name slots, .eventStarted id name slots ∈ front := by
  induction front with
  | nil =>
    obtain ⟨slots, begun⟩ := Life.begun_of_quiet quiet ((orderly_cons_of_some marked).mp orderly).1
    exact absurd begun (other slots)
  | cons first front ih =>
    rw [List.cons_append] at orderly
    cases heard : first.mark? id with
    | none =>
      obtain ⟨name, slots, member⟩ := ih ((orderly_cons_of_none heard).mp orderly)
      exact ⟨name, slots, List.mem_cons_of_mem first member⟩
    | some own =>
      obtain ⟨slots, rfl⟩ := Life.begun_of_quiet quiet ((orderly_cons_of_some heard).mp orderly).1
      obtain ⟨name, rfl⟩ := begun_of_mark heard
      exact ⟨name, slots, List.mem_cons_self⟩

theorem Journal.Orderly.life_of_quiet (orderly : Orderly id l journal l') (quiet : l.Quiet)
    (unstarted : ∀ name slots, .eventStarted id name slots ∉ journal) : l' = l := by
  induction journal with
  | nil => exact Eq.symm orderly
  | cons first journal ih =>
    cases heard : first.mark? id with
    | none =>
      refine ih ((orderly_cons_of_none heard).mp orderly) fun name slots member => ?_
      exact unstarted name slots (List.mem_cons_of_mem first member)
    | some own =>
      obtain ⟨slots, rfl⟩ := Life.begun_of_quiet quiet ((orderly_cons_of_some heard).mp orderly).1
      obtain ⟨name, rfl⟩ := begun_of_mark heard
      exact absurd List.mem_cons_self (unstarted name slots)

theorem Journal.Orderly.replay_eq (orderly : Orderly id l journal l') :
    replay id l journal = l' := by
  rw [← List.append_nil journal] at orderly
  exact orderly.behind

theorem eventCancelled_of_mark (marked : notice.mark? id = some .flagged) :
    ∃ name cursor, notice = .eventCancelled id name cursor := by
  cases notice <;> simp [Notice.mark?] at marked
  subst marked
  exact ⟨_, _, rfl⟩

theorem Life.follow_live (live : l.cancelled = false) (other : mark ≠ .flagged) :
    (l.follow mark).cancelled = false := by
  cases mark with
  | called slot hook reply => cases hook <;> cases reply <;> exact live
  | begun => rfl
  | skipped | ended => exact live
  | flagged => exact absurd rfl other

theorem replay_live (live : l.cancelled = false)
    (unflagged : ∀ name cursor, .eventCancelled id name cursor ∉ journal) :
    (replay id l journal).cancelled = false := by
  induction journal generalizing l with
  | nil => exact live
  | cons first journal ih =>
    have later (name : String) (cursor : Nat) : .eventCancelled id name cursor ∉ journal :=
      fun member => unflagged name cursor (List.mem_cons_of_mem first member)
    cases heard : first.mark? id with
    | none => simpa [replay, heard] using ih live later
    | some mark =>
      have other : mark ≠ .flagged := by
        rintro rfl
        obtain ⟨name, cursor, rfl⟩ := eventCancelled_of_mark heard
        exact unflagged name cursor List.mem_cons_self
      simpa [replay, heard] using ih (Life.follow_live live other) later

end Lives

section Presence

variable {id : EventId} {name : String} {cursor : Nat} {running running' : List (RunningEvent A)}
  {journal : Journal}

theorem Stops.flags {e e' : RunningEvent A} (stops : Stops e journal e')
    (flagged : .eventCancelled id name cursor ∈ journal) : e.id = id := by
  cases stops <;> simp at flagged <;> exact flagged.1.symm

theorem Cancels.flags (cancels : Cancels running journal running')
    (flagged : .eventCancelled id name cursor ∈ journal) : id ∈ ids running := by
  induction cancels with
  | none | ignored => simp at flagged
  | @event e e' rest rest' journal later one others ih =>
    rcases List.mem_append.mp flagged with here | later
    · exact List.mem_map.mpr ⟨e, List.mem_cons_self, one.flags here⟩
    · exact List.mem_cons_of_mem e.id (ih later)
  | @trans running middle running' journal later one others first second =>
    rcases List.mem_append.mp flagged with here | later
    · exact first here
    · rw [← ids_halted one.halted.1]
      exact second later

theorem Cancels.flags_after (cancels : Cancels running journal running')
    (flagged : .eventCancelled id name cursor ∈ journal) : id ∈ ids running' := by
  rw [ids_halted cancels.halted.1]
  exact cancels.flags flagged

theorem Abandons.flags {policy : FailurePolicy} {other : EventId} {ended : Bool}
    {result : Except EngineError Drain} {notices : Journal}
    (abandons : Abandons policy other result ended notices) :
    .eventCancelled id name cursor ∉ notices := by
  cases abandons with
  | scopeChanged => simp
  | settles settles => cases settles <;> simp

variable [ActionHandler W A] {factories : Dictionary (ActionFactory A)} {policy : FailurePolicy}
  {dt : Seconds} {token : ScopeToken} {index : Nat} {s s' : Sweep W A}
  {result : Except EngineError Unit}

theorem Sweep.close_flags (flagged : .eventCancelled id name cursor ∈ (s.close token).2) :
    id ∈ ids s.running := by
  unfold close at flagged
  split at flagged
  next => exact (applyRequests_cancels _ _).flags flagged
  next => exact absurd flagged List.not_mem_nil

theorem Pass.flags (pass : Pass factories policy dt token index s journal s' result)
    (flagged : .eventCancelled id name cursor ∈ journal) : id ∈ ids s.running := by
  have drain {index : Nat} {s : Sweep W A} {event : RunningEvent A} {drained : Drained W A}
      (drives : s.Drives factories dt token index event drained) :
      .eventCancelled id name cursor ∉ drained.journal :=
    fun member => absurd (drives.walk.drives _ member) (by simp)
  induction pass with
  | closed => exact (applyRequests_cancels _ _).flags flagged
  | removed _ _ _ ih => exact ih (by simpa using flagged)
  | @passed index s s' event drained ended notices journal result drives settles same rest ih =>
    have visited : .eventCancelled id name cursor ∉ drained.journal ++ notices := by
      simp [drain drives, (Abandons.settles settles).flags]
    have same := ids_afterVisit ended drives
    rcases List.mem_append.mp flagged with before | later
    · rcases List.mem_append.mp before with here | cancelled
      · exact absurd here visited
      · exact same ▸ (applyRequests_cancels _ _).flags_after cancelled
    · exact same ▸ ih later
  | @abandoned index s event drained ended notices drives abandons away =>
    rcases List.mem_append.mp flagged with driven | noted
    · exact absurd driven (drain drives)
    · exact absurd noted abandons.flags
  | @aborted index s event drained cause drives strict failed =>
    have same : ids (s.afterDrain index drained.drive).running = ids s.running :=
      ids_set drives.here drives.driven.id_eq
    rw [← same]
    rcases List.mem_append.mp flagged with driven | closing
    · simp [drain drives] at driven
    · exact Sweep.close_flags closing

end Presence

inductive Stopped (id : EventId) (past pre : Journal) : Prop
  | hook {earlier : Journal} {call : Call} (last : pre = earlier ++ [.called call])
      (owned : call.owner = some id) (cancels : call.hook = .cancel)
      (running : (replay id .unborn (past ++ earlier)).action = some .running)
  | nothing (silent : ∀ earlier call, pre = earlier ++ [.called call] → call.owner = some id →
      call.hook ≠ .cancel)
      (idle : (replay id .unborn (past ++ pre)).action ≠ some .running)

theorem stopped_of_orderly {id : EventId} {name : String} {cursor : Nat} {past pre post : Journal}
    {l : Life}
    (orderly : Orderly id .unborn (past ++ pre ++ .eventCancelled id name cursor :: post) l) :
    Stopped id past pre := by
  by_cases stopped : ∃ earlier call, pre = earlier ++ [.called call] ∧ call.owner = some id ∧
      call.hook = .cancel
  · obtain ⟨earlier, call, rfl, owned, cancels⟩ := stopped
    rw [← List.append_assoc, List.append_assoc] at orderly
    obtain ⟨allowed, _⟩ := (orderly_cons_of_some (mark_called owned)).mp orderly.behind
    rw [cancels] at allowed
    exact .hook rfl owned cancels allowed.2
  · obtain ⟨allowed, _⟩ :=
      (orderly_cons_of_some (mark_eventCancelled id name cursor)).mp orderly.behind
    exact .nothing (fun earlier call split owned cancels =>
      stopped ⟨earlier, call, split, owned, cancels⟩) allowed.1

namespace Engine

variable {id : EventId} {name : String} {slots cursor : Nat}

theorem startEvent_unstarted {engine : Engine W A} (present : id ∈ ids engine.running)
    (event : Event) : .eventStarted id name slots ∉ (engine.startEvent event).2.2 := by
  unfold startEvent
  split
  next => exact List.not_mem_nil
  next idle =>
    have other : id ≠ event.id := by
      rintro rfl
      exact idle (isRunning_iff.mpr present)
    rcases retireInit_notices engine.state event.id with none | retired
    · simp [none, other]
    · simp [retired, other]

theorem startSatisfied_unstarted (world : W) (dt : Seconds) (events : List Event)
    {engine : Engine W A} (present : id ∈ ids engine.running) :
    .eventStarted id name slots ∉ (startSatisfied world dt events engine).journal := by
  induction events generalizing engine with
  | nil => exact List.not_mem_nil
  | cons event rest ih =>
    have tested : .eventStarted id name slots ∉ (engine.conditionsMet world dt event).journal :=
      fun member => absurd (conditionsMet_tests engine world dt event _ member) (by simp)
    simp only [startSatisfied]
    rw [← conditionsMet_running world dt engine event] at present
    split
    next => exact tested
    next holds _ =>
      cases holds with
      | false => simp [tested, ih present]
      | true =>
        obtain ⟨new, grown⟩ := startEvent_grows (engine.conditionsMet world dt event).engine event
        have still : id ∈
            ids ((engine.conditionsMet world dt event).engine.startEvent event).2.1.running := by
          rw [grown, ids, List.map_append]
          exact List.mem_append_left _ present
        simp [tested, startEvent_unstarted present, ih still]

theorem intake_unstarted (world : W) (dt : Seconds) {engine : Engine W A}
    (present : id ∈ ids engine.running) :
    .eventStarted id name slots ∉ (engine.intake world dt).journal :=
  startSatisfied_unstarted world dt _ present

variable [ActionHandler W A] (engine : Engine W A)

theorem perform_unstarted (operation : Operation W A) (present : id ∈ ids engine.running) :
    .eventStarted id name slots ∉ (engine.perform operation).journal := by
  have quiet {journal : Journal} (undeclared : journal.Only Notice.undeclared) :
      .eventStarted id name slots ∉ journal :=
    fun member => absurd (undeclared _ member) (by simp)
  have cancelled {running running' : List (RunningEvent A)} {journal : Journal}
      (cancels : Cancels running journal running') : .eventStarted id name slots ∉ journal :=
    quiet (cancels.cancels.mono Notice.undeclared_of_cancels)
  cases operation with
  | startEvent event => exact startEvent_unstarted present event
  | update world dt =>
    have tested : .eventStarted id name slots ∉
        ({ engine with trace := [] }.intake world dt).journal := intake_unstarted world dt present
    simp only [perform]
    rcases update_cases engine world dt with ⟨cause, _, ended⟩ | ⟨taken, journal, s', result, _,
      pass, ended⟩
    · rw [ended]
      exact tested
    · have pending := (taken.sweepStart world).applyPending_cancels.mono
        Notice.undeclared_of_cancels
      rw [ended]
      simp [tested, quiet pending, quiet pass.undeclared]
  | execute polls world name parameters skip step =>
    exact quiet (execute_undeclared engine polls world name parameters skip step).1
  | cancelEvent other => exact cancelled (cancelById_cancels other engine.running)
  | cancelAllEvents => exact cancelled (cancelAll_cancels engine.running)
  | cancelCurrentAction other => exact cancelled (cancelActionIn_cancels other engine.running)
  | checkCondition world event condition dt =>
    have tests := testCondition_tests engine.conditions world dt event condition engine.state.memory
    exact fun member => absurd (tests _ member) (by simp)
  | loadScope | reset => simp [perform, loadScope, reset, ScopeState.load, ScopeState.reset]
  | registerAction | registerCondition => simp [perform, registerAction, registerCondition]
  | configure | replaceActions | replaceConditions | remember => simp [perform]

theorem update_flags {event : String} (world : W) (dt : Seconds)
    (flagged : .eventCancelled id event cursor ∈ (engine.update world dt).journal) :
    (engine.update world dt).engine.state.token ≠ engine.state.token ∨
      Removes id (engine.update world dt).journal ∨
      id ∈ ids (engine.update world dt).engine.running := by
  have tested : .eventCancelled id event cursor ∉
      ({ engine with trace := [] }.intake world dt).journal :=
    fun member => absurd (intake_admits _ world dt _ member) (by simp)
  have same := intake_same world dt { engine with trace := [] }
  rcases update_cases engine world dt with ⟨cause, _, ended⟩ | ⟨taken, journal, s', result, half,
    pass, ended⟩
  · rw [ended] at flagged
    exact absurd flagged tested
  -- The event is in the collection of the pass, so its removal is noted if it is gone at the end.
  · have present : id ∈ ids (taken.sweepStart world).applyPending.1.running := by
      rw [ended] at flagged
      have swept := (List.mem_append.mp flagged).resolve_left tested
      rcases List.mem_append.mp swept with pending | later
      · exact (applyRequests_cancels _ _).flags_after pending
      · exact pass.flags later
    rw [half] at same
    rw [ended, ← same.token]
    by_cases standing : id ∈ ids s'.running
    · exact .inr (.inr standing)
    · rcases pass.removes_of_gone present standing with away | finished | removes
      · exact .inl away
      · exact absurd finished List.not_mem_nil
      · exact .inr (.inl (by simp [removes]))

theorem execute_flags {event : String} (polls : Nat) (world : W) (name : String)
    (parameters : List String) (skip : Bool) (step : Seconds)
    (flagged : .eventCancelled id event cursor ∈
      (engine.execute polls world name parameters skip step).journal) :
    id ∈ ids (engine.execute polls world name parameters skip step).engine.running := by
  obtain ⟨alone, cancels, ending, kept, journal_eq, own, ends, cancelled, _⟩ :=
    execute_parts engine polls world name parameters skip step
  have unowned {journal : Journal} (own : journal.Only Notice.alone) :
      .eventCancelled id event cursor ∉ journal := fun member => absurd (own _ member) (by simp)
  rw [journal_eq] at flagged
  simp only [List.mem_append, unowned own, unowned ends, false_or, or_false] at flagged
  exact cancelled.flags_after flagged

theorem perform_flags {event : String} (operation : Operation W A)
    (flagged : .eventCancelled id event cursor ∈ (engine.perform operation).journal) :
    (engine.perform operation).engine.state.token ≠ engine.state.token ∨
      (operation.isUpdate = true ∧ Removes id (engine.perform operation).journal) ∨
      id ∈ ids (engine.perform operation).engine.running := by
  cases operation with
  | update world dt =>
    rcases update_flags engine world dt flagged with away | removes | standing
    · exact .inl away
    · exact .inr (.inl ⟨rfl, removes⟩)
    · exact .inr (.inr standing)
  | execute polls world name parameters skip step =>
    exact .inr (.inr (execute_flags engine polls world name parameters skip step flagged))
  | cancelEvent other => exact .inr (.inr ((cancelById_cancels other _).flags_after flagged))
  | cancelAllEvents => exact .inr (.inr ((cancelAll_cancels _).flags_after flagged))
  | cancelCurrentAction other =>
    exact .inr (.inr ((cancelActionIn_cancels other _).flags_after flagged))
  | startEvent event => exact absurd (startEvent_admits engine event _ flagged) (by simp)
  | checkCondition world event condition dt =>
    have tests := testCondition_tests engine.conditions world dt event condition engine.state.memory
    exact absurd (tests _ flagged) (by simp)
  | loadScope | reset =>
    simp [perform, loadScope, reset, ScopeState.load, ScopeState.reset] at flagged
  | registerAction | registerCondition =>
    simp [perform, registerAction, registerCondition] at flagged
  | configure | replaceActions | replaceConditions | remember => simp [perform] at flagged

section Flagged

variable {engine} {e : RunningEvent A} (sound : Sound engine.running)
  (standing : e ∈ engine.running) (flagged : e.cancelled = true)

include sound standing flagged

theorem update_finds (world : W) (dt : Seconds) :
    (engine.update world dt).engine.state.token ≠ engine.state.token ∨
      .cancelledRemoved e.id ∈ (engine.update world dt).journal ∨
      (e ∈ (engine.update world dt).engine.running ∧
        ∃ cause, (engine.update world dt).result = .error cause) := by
  have quiet := (sound.each e standing).stopped flagged
  have same := intake_same world dt { engine with trace := [] }
  have begun := (intake_moves world dt { engine with trace := [] }).sound sound
  have still : e ∈ ({ engine with trace := [] }.intake world dt).engine.running := by
    obtain ⟨new, grown⟩ := intake_grows world dt { engine with trace := [] }
    rw [grown]
    exact List.mem_append_left new standing
  rcases update_cases engine world dt with ⟨cause, _, ended⟩ | ⟨taken, journal, s', result, half,
    pass, ended⟩
  · rw [ended]
    exact .inr (.inr ⟨still, cause, rfl⟩)
  · rw [half] at begun still same
    rw [ended, ← same.token]
    obtain ⟨distinct, place, here⟩ :=
      sweepStart_finds taken world begun still (.inl ⟨flagged, quiet⟩)
    rcases pass.finds_flagged here (Nat.zero_le place) distinct List.not_mem_nil flagged quiet with
      away | removed | kept
    · exact .inl away
    · exact .inr (.inl (by simp [removed]))
    · exact .inr (.inr kept)

theorem perform_lingers (operation : Operation W A) :
    (engine.perform operation).engine.state.token ≠ engine.state.token ∨
      .cancelledRemoved e.id ∈ (engine.perform operation).journal ∨
      e ∈ (engine.perform operation).engine.running := by
  cases frame : operation.isUpdate with
  | false =>
    have quiet := (sound.each e standing).stopped flagged
    exact (perform_stays engine operation frame standing (.inl ⟨flagged, quiet⟩)).imp_right .inr
  | true =>
    cases operation with
    | update world dt =>
      have finds := update_finds sound standing flagged world dt
      exact finds.imp_right fun found => found.imp_right And.left
    | _ => cases frame

theorem update_frees (world : W) (dt : Seconds)
    (come : .cancelledRemoved e.id ∈ (engine.update world dt).journal ∨
      (engine.update world dt).result = .ok ()) :
    e.id ∉ ids (engine.update world dt).engine.running := by
  have removed (noted : .cancelledRemoved e.id ∈ (engine.update world dt).journal) :
      e.id ∉ ids (engine.update world dt).engine.running :=
    perform_gone_of_removes engine (.update world dt) ⟨_, noted, by simp⟩
  rcases come with noted | fine
  · exact removed noted
  · rcases update_finds sound standing flagged world dt with changed | noted | ⟨_, cause, failed⟩
    · obtain ⟨_, _, _, departed⟩ := update_departed engine world dt changed
      obtain ⟨requests, engine_eq⟩ := departed.engine_eq
      simp only [perform] at engine_eq
      simp [engine_eq, ids]
    · exact removed noted
    · simp [failed] at fine

end Flagged

def KeepsScope (engine : Engine W A) : List (Operation W A) → Prop
  | [] => True
  | operation :: rest =>
    (engine.perform operation).engine.state.token = engine.state.token ∧
      (engine.perform operation).engine.KeepsScope rest

theorem run_lingers {engine : Engine W A} {e : RunningEvent A} {operations : List (Operation W A)}
    (sound : Sound engine.running) (standing : e ∈ engine.running) (flagged : e.cancelled = true)
    (keeps : engine.KeepsScope operations)
    (unvisited : .cancelledRemoved e.id ∉ (engine.run operations).2) :
    e ∈ (engine.run operations).1.running := by
  induction operations generalizing engine with
  | nil => exact standing
  | cons operation rest ih =>
    obtain ⟨kept, keeps⟩ := keeps
    simp only [run, List.mem_append, not_or] at unvisited
    rcases perform_lingers sound standing flagged operation with away | removed | still
    · exact absurd kept away
    · exact absurd removed unvisited.1
    · exact ih ((perform_moves engine operation).sound sound) still keeps unvisited.2

/-- An event that waits for its removal: its id is taken, nothing starts it anew, and the first
frame that comes to it, or that does not fail, takes it away. -/
structure Lingers (engine : Engine W A) (e : RunningEvent A) : Prop where
  standing : e ∈ engine.running
  refused : ∀ declaration : Event, declaration.id = e.id → (engine.startEvent declaration).1 = false
  unstarted : ∀ operation name slots,
    .eventStarted e.id name slots ∉ (engine.perform operation).journal
  freed : ∀ world dt, .cancelledRemoved e.id ∈ (engine.update world dt).journal ∨
    (engine.update world dt).result = .ok () → e.id ∉ ids (engine.update world dt).engine.running

theorem lingers_of_flagged {engine : Engine W A} {e : RunningEvent A} (sound : Sound engine.running)
    (standing : e ∈ engine.running) (flagged : e.cancelled = true) : engine.Lingers e := by
  have present : e.id ∈ ids engine.running := List.mem_map_of_mem standing
  refine ⟨standing, fun declaration same => ?_, fun operation name slots => ?_, ?_⟩
  · rw [startEvent, if_pos (isRunning_iff.mpr (same ▸ present))]
  · exact perform_unstarted engine operation present
  · exact update_frees sound standing flagged

/-- The moment at which an operation flags an event, with all that was noted before it in `past` and
`pre`: the hook of that moment, the silence behind it, and the event at the end. -/
structure Flags (engine : Engine W A) (operation : Operation W A) (past pre post : Journal)
    (id : EventId) : Prop where
  hook : Stopped id past pre
  silent : ∀ later front call rest,
    post ++ ((engine.perform operation).engine.run later).2 = front ++ .called call :: rest →
    call.owner = some id → ∃ name slots, .eventStarted id name slots ∈ front
  outcome : (engine.perform operation).engine.state.token ≠ engine.state.token ∨
    (operation.isUpdate = true ∧ Removes id (engine.perform operation).journal ∧
      id ∉ ids (engine.perform operation).engine.running) ∨
    ∃ e ∈ (engine.perform operation).engine.running, e.id = id ∧ e.cancelled = true ∧
      ∀ later, (engine.perform operation).engine.KeepsScope later →
        .cancelledRemoved id ∉ ((engine.perform operation).engine.run later).2 →
        ((engine.perform operation).engine.run later).1.Lingers e

theorem flagged_noted {engine : Engine W A} {operation : Operation W A} {e : RunningEvent A}
    (sound : Sound engine.running) (standing : e ∈ (engine.perform operation).engine.running)
    (flagged : e.cancelled = true) : (∃ f ∈ engine.running, f.id = e.id ∧ f.cancelled = true) ∨
      ∃ name cursor, .eventCancelled e.id name cursor ∈ (engine.perform operation).journal := by
  by_contra unnoted
  obtain ⟨unflagged, unnoted⟩ := not_or.mp unnoted
  -- An id that is not running agrees with every life, so also with a live one.
  have agrees : ∃ l, Agrees e.id l engine.running ∧ l.cancelled = false := by
    by_cases present : e.id ∈ ids engine.running
    · obtain ⟨f, running, same⟩ := List.mem_map.mp present
      have life_eq (g : RunningEvent A) (other : g ∈ engine.running) (mine : g.id = e.id) :
          g.life = f.life :=
        congrArg _ (List.inj_on_of_nodup_map sound.distinct other running (mine.trans same.symm))
      refine ⟨f.life, ⟨sound, life_eq⟩, ?_⟩
      exact Bool.eq_false_iff.mpr fun set => unflagged ⟨f, running, same, set⟩
    · exact ⟨⟨0, 0, none, false⟩,
        ⟨sound, fun f running same => absurd same (not_mem_ids.mp present f running)⟩, rfl⟩
  obtain ⟨l, agrees, live⟩ := agrees
  obtain ⟨l', orderly, after⟩ := perform_tells engine operation l agrees
  have still := replay_live live fun name cursor member => unnoted ⟨name, cursor, member⟩
  rw [orderly.replay_eq, ← after.life_eq e standing rfl] at still
  exact absurd (flagged.symm.trans still) (by decide)

theorem flags_of_orderly {engine : Engine W A} {operation : Operation W A} {past pre post : Journal}
    {l : Life} {cursor : Nat} (between : Agrees id l engine.running)
    (told : Orderly id .unborn past l)
    (moment : (engine.perform operation).journal =
      pre ++ .eventCancelled id name cursor :: post) :
    engine.Flags operation past pre post id := by
  obtain ⟨l', latest, agrees⟩ := perform_tells engine operation l between
  have orderly := told.append latest
  rw [moment, ← List.append_assoc] at orderly
  obtain ⟨⟨idle, live⟩, _, behind⟩ :=
    (orderly_cons_of_some (mark_eventCancelled id name cursor)).mp orderly.behind
  have quiet : ((replay id .unborn (past ++ pre)).follow .flagged).Quiet := ⟨rfl, idle⟩
  constructor
  case hook => exact stopped_of_orderly orderly
  case silent =>
    intro later front call rest split owned
    obtain ⟨_, further, _⟩ := run_tells (engine.perform operation).engine later l' agrees
    have whole := behind.append further
    rw [split] at whole
    exact whole.started_of_quiet quiet (mark_called owned) nofun
  case outcome =>
    have unstarted (name : String) (slots : Nat) : .eventStarted id name slots ∉ post :=
      fun member => absurd ((perform_parted engine operation).behind moment rfl _ member) (by simp)
    -- So the event that has the id at the end is the one that was flagged.
    have still := behind.life_of_quiet quiet unstarted
    have flagged : .eventCancelled id name cursor ∈ (engine.perform operation).journal := by
      simp [moment]
    rcases perform_flags engine operation flagged with away | ⟨frame, removes⟩ | present
    · exact .inl away
    · exact .inr (.inl ⟨frame, removes, perform_gone_of_removes engine operation removes⟩)
    · obtain ⟨e, standing, rfl⟩ := List.mem_map.mp present
      have cancelled : e.life.cancelled = true := by
        rw [agrees.life_eq e standing rfl, still]
        rfl
      refine .inr (.inr ⟨e, standing, rfl, cancelled, fun later keeps unvisited => ?_⟩)
      exact lingers_of_flagged (run_sound _ later agrees.sound)
        (run_lingers agrees.sound standing cancelled keeps unvisited) cancelled

theorem cancelled_event_is_final (actions : Dictionary (ActionFactory A))
    (conditions : Dictionary (ConditionTest W)) (settings : Settings)
    (before : List (Operation W A)) (operation : Operation W A) (id : EventId)
    {engine : Engine W A} {past : Journal}
    (reached : (new actions conditions settings).run before = (engine, past)) :
    (∀ e ∈ engine.running, e.id = id → e.life = replay id .unborn past) ∧
    (∀ e ∈ (engine.perform operation).engine.running, e.id = id → e.cancelled = true →
      (∃ f ∈ engine.running, f.id = id ∧ f.cancelled = true) ∨
      ∃ name cursor, .eventCancelled id name cursor ∈ (engine.perform operation).journal) ∧
    ∀ pre name cursor post,
      (engine.perform operation).journal = pre ++ .eventCancelled id name cursor :: post →
      engine.Flags operation past pre post id := by
  obtain ⟨l, told, between⟩ := reached_tells id reached
  refine ⟨fun e standing mine => ?_, fun e standing mine flagged => ?_,
    fun pre name cursor post moment => flags_of_orderly between told moment⟩
  · rw [told.replay_eq]
    exact between.life_eq e standing mine
  · subst mine
    exact flagged_noted between.sound standing flagged

def endless : Engine Unit Scripted × Journal :=
  (Scripted.engine { Scripted.idle with update := ⟨[], .ok .running⟩ } .abort).run
    [.loadScope ⟨"", [], [Scripted.event ⟨1⟩]⟩, .update () .zero]

theorem cancelled_event_is_final_endless :
    let hook : Call := ⟨some ⟨1⟩, 0, "act", .cancel, .finished, false⟩
    (endless.1.perform (.cancelEvent ⟨1⟩)).journal =
        [.called hook] ++ .eventCancelled ⟨1⟩ "" 0 :: [] ∧
      endless.1.Flags (.cancelEvent ⟨1⟩) endless.2 [.called hook] [] ⟨1⟩ := by
  intro hook
  have moment : (endless.1.perform (.cancelEvent ⟨1⟩)).journal =
      [.called hook] ++ .eventCancelled ⟨1⟩ "" 0 :: [] := rfl
  obtain ⟨_, _, flags⟩ := cancelled_event_is_final _ _ _ _ (.cancelEvent ⟨1⟩) ⟨1⟩
    (rfl : _ = (endless.1, endless.2))
  exact ⟨moment, flags _ _ _ _ moment⟩

-- The failing frame has come to the flagged event first, so the frame after it starts a new one.
theorem flagged_event_returns :
    let flagged := (endless.1.run
      [.cancelEvent ⟨1⟩, .startEvent ⟨⟨2⟩, "", none, [], [⟨"none", [], ""⟩]⟩]).1
    let failed := flagged.update () .zero
    let next := (failed.engine.perform (.cancelEvent ⟨2⟩)).engine.update () .zero
    (∃ e ∈ flagged.running, e.id = ⟨1⟩ ∧ e.cancelled = true) ∧
      failed.result = .error (.unregisteredAction "none") ∧
      next.result = .ok () ∧ next.engine.state.token = flagged.state.token ∧
      .eventStarted ⟨1⟩ "" 1 ∈ next.journal ∧ ⟨1⟩ ∈ ids next.engine.running := by
  intro flagged failed next
  refine ⟨⟨_, List.mem_cons_self, rfl, rfl⟩, ?_, ?_, ?_, ?_, ?_⟩ <;> decide +kernel

end Engine

end MapScript
