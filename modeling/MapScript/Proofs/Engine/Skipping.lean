import MapScript.Proofs.Engine.Hushing

set_option autoImplicit false

namespace MapScript

open Number Journal

variable {W A : Type}

@[simp] def Notice.bypasses (id : EventId) : Notice → Bool
  | .cancelledRemoved other | .actionSkipped other _ => other ≠ id
  | _ => true

theorem Notice.bypasses_of_cancels (id : EventId) (notice : Notice)
    (cancels : notice.cancels = true) : notice.bypasses id = true := by
  cases notice <;> first | rfl | cases cancels

theorem Notice.bypasses_of_admits (id : EventId) (notice : Notice)
    (admits : notice.admits = true) : notice.bypasses id = true := by
  cases notice <;> first | rfl | cases admits

inductive OnlyFlagged (journal : Journal) (e : RunningEvent A) : RunningEvent A → Prop
  | same : OnlyFlagged journal e e
  | flagged {name : String} {cursor : Nat} (noted : .eventCancelled e.id name cursor ∈ journal) :
      OnlyFlagged journal e { e with cancelled := true }

namespace OnlyFlagged

variable {e f g : RunningEvent A} {earlier later journal : Journal}

theorem id_eq (flags : OnlyFlagged journal e f) : f.id = e.id := by
  cases flags <;> rfl

theorem current_eq (flags : OnlyFlagged journal e f) : f.current = e.current := by
  cases flags <;> rfl

theorem before (flags : OnlyFlagged earlier e f) (later : Journal) :
    OnlyFlagged (earlier ++ later) e f := by
  cases flags with
  | same => exact .same
  | flagged noted => exact .flagged (List.mem_append_left later noted)

theorem behind (flags : OnlyFlagged later e f) (earlier : Journal) :
    OnlyFlagged (earlier ++ later) e f := by
  cases flags with
  | same => exact .same
  | flagged noted => exact .flagged (List.mem_append_right earlier noted)

theorem trans (first : OnlyFlagged earlier e f) (second : OnlyFlagged later f g) :
    OnlyFlagged (earlier ++ later) e g := by
  cases first with
  | same => exact second.behind earlier
  | flagged noted => cases second <;> exact .flagged (List.mem_append_left later noted)

theorem noted (flags : OnlyFlagged journal e f) (set : f.cancelled = true) :
    e.cancelled = true ∨ ∃ name cursor, .eventCancelled e.id name cursor ∈ journal := by
  cases flags with
  | same => exact .inl set
  | flagged noted => exact .inr ⟨_, _, noted⟩

end OnlyFlagged

theorem HaltedBy.onlyFlagged {e f : RunningEvent A} {journal : Journal}
    (halted : HaltedBy journal e f) (quiet : e.actionState? ≠ some .running) :
    OnlyFlagged journal e f := by
  obtain ⟨⟨declaration, cursor, context, flag, action, _⟩, noted, _⟩ := halted
  have current : f.current = e.current := by
    rcases action with same | ⟨_, _, flying, _⟩
    · exact same
    · simp [RunningEvent.actionState?, flying] at quiet
  have parts (set : f.cancelled = e.cancelled) : f = e := by
    cases e
    cases f
    simp_all
  -- The flag is the one thing that can differ, and a flag that was set stays.
  cases before : e.cancelled with
  | true =>
    rw [parts ((flag before).trans before.symm)]
    exact .same
  | false =>
    cases after : f.cancelled with
    | false =>
      rw [parts (after.trans before.symm)]
      exact .same
    | true =>
      obtain ⟨name, place, member⟩ := (noted after).resolve_left (by simp [before])
      have flagged : f = { e with cancelled := true } := by
        cases e
        cases f
        simp_all
      rw [flagged]
      exact .flagged member

def Proceeds (factories : Dictionary (ActionFactory A)) (e : RunningEvent A) (journal : Journal) :
    Prop :=
  match e.slot? with
  | none => journal = [.eventFinished e.id]
  | some slot => ∃ rest, journal =
      (createAction factories (some e.id) e.cursor slot.kind slot.parameters).2 ++ rest

section Drain

variable [ActionHandler W A] {factories : Dictionary (ActionFactory A)} {dt : Seconds}
  {token : ScopeToken} {d : Drive W A} {slot : Action} {action : A}

theorem Walk.proceeds {d' : Drive W A} {journal : Journal} {result : Except EngineError Drain}
    (walk : Walk factories dt token d journal d' result) (idle : d.event.current = none) :
    Proceeds factories d.event journal := by
  have made {slot : Action} {notices rest : Journal} {created : Except EngineError A}
      (here : d.event.slot? = some slot) (creation : d.create factories slot = (created, notices)) :
      Proceeds factories d.event (notices ++ rest) := by
    simp only [Proceeds, here]
    exact ⟨rest, congrArg (·.2 ++ rest) creation.symm⟩
  cases walk with
  | complete past => simp [Proceeds, past]
  | refused here _ created =>
    rw [← List.append_nil journal]
    exact made here created
  | startFailed here _ created => exact made here created
  | startedAway here _ created | started here _ created =>
    simp only [List.append_assoc]
    exact made here created
  | skipped _ flying | updateFailed _ flying | held _ flying | cleanupFailed _ flying
  | finishedAway _ flying | finished _ flying => simp [idle] at flying

theorem drain_of_cancelled (here : d.event.slot? = some slot)
    (stopped : d.event.current = some ⟨action, .cancelled⟩) :
    (drain factories dt d).journal =
      .actionSkipped d.event.id slot :: (drain factories dt d.advanced).journal := by
  obtain ⟨within, slot_eq⟩ := List.getElem?_eq_some_iff.mp here
  have left : d.event.declaration.actions.drop d.event.cursor =
      slot :: d.event.declaration.actions.drop (d.event.cursor + 1) := by
    rw [List.drop_eq_getElem_cons within, slot_eq]
  simp only [drain, left, drainSlots, visitSlot, stopped]
  rfl

end Drain

section Frames

variable [ActionHandler W A] {factories : Dictionary (ActionFactory A)} {policy : FailurePolicy}
  {dt : Seconds} {token token' : ScopeToken} {index place : Nat} {s s' : Sweep W A}
  {journal earlier later : Journal} {result : Except EngineError Unit}
  {running' : List (RunningEvent A)} {e f event : RunningEvent A} {drained : Drained W A}
  {action : A}

inductive Comes (W : Type) [ActionHandler W A] (factories : Dictionary (ActionFactory A))
    (dt : Seconds) (e : RunningEvent A) : Journal → Prop
  | removed {pre post : Journal}
      (flagged : e.cancelled = true ∨ ∃ name cursor, .eventCancelled e.id name cursor ∈ pre) :
      Comes W factories dt e (pre ++ .cancelledRemoved e.id :: post)
  | resumed {pre post : Journal} {slot : Action} {drained : Drained W A} (world : W)
      (state : ScopeState) (live : e.cancelled = false) (here : e.slot? = some slot)
      (drain_eq : drain factories dt ⟨e.advance, world, state⟩ = drained)
      (proceeds : Proceeds factories e.advance drained.journal) :
      Comes W factories dt e (pre ++ .actionSkipped e.id slot :: (drained.journal ++ post))

namespace Comes

theorem removed_first (flagged : e.cancelled = true) :
    Comes W factories dt e (.cancelledRemoved e.id :: later) := by
  rw [← List.nil_append (_ :: later)]
  exact .removed (.inl flagged)

theorem behind (comes : Comes W factories dt f later) (flags : OnlyFlagged earlier e f) :
    Comes W factories dt e (earlier ++ later) := by
  cases comes with
  | @removed pre post flagged =>
    rw [← List.append_assoc, flags.id_eq]
    refine .removed ?_
    rcases flagged with set | ⟨name, cursor, member⟩
    · exact (flags.before pre).noted set
    · exact .inr ⟨name, cursor, List.mem_append_right earlier (flags.id_eq ▸ member)⟩
  | resumed world state live here drain_eq proceeds =>
    cases flags with
    | same =>
      rw [← List.append_assoc]
      exact .resumed world state live here drain_eq proceeds
    | flagged => cases live

theorem not_bypasses (comes : Comes W factories dt e journal)
    (bypassed : journal.Only (Notice.bypasses e.id)) : False := by
  cases comes <;> simp at bypassed

end Comes

inductive Met (W : Type) [ActionHandler W A] (factories : Dictionary (ActionFactory A))
    (dt : Seconds) (token : ScopeToken) (e : RunningEvent A) (journal : Journal)
    (running' : List (RunningEvent A)) (token' : ScopeToken) (result : Except EngineError Unit) :
    Prop
  | come (comes : Comes W factories dt e journal)
  | abandoned (bypassed : journal.Only (Notice.bypasses e.id)) (away : token' ≠ token)
  | failed {f : RunningEvent A} {cause : EngineError}
      (bypassed : journal.Only (Notice.bypasses e.id)) (failed : result = .error cause)
      (standing : f ∈ running') (flags : OnlyFlagged journal e f)

theorem Met.behind (met : Met W factories dt token f later running' token' result)
    (flags : OnlyFlagged earlier e f) (bypassed : earlier.Only (Notice.bypasses e.id)) :
    Met W factories dt token e (earlier ++ later) running' token' result := by
  cases met with
  | come comes => exact .come (comes.behind flags)
  | abandoned rest away => exact .abandoned (by simp [bypassed, flags.id_eq ▸ rest]) away
  | failed rest failed standing further =>
    exact .failed (by simp [bypassed, flags.id_eq ▸ rest]) failed standing (flags.trans further)

omit [ActionHandler W A] in
theorem Cancels.onlyFlagged {running running' : List (RunningEvent A)}
    (cancels : Cancels running journal running') (here : running[place]? = some e)
    (stopped : e.current = some ⟨action, .cancelled⟩) :
    ∃ f, running'[place]? = some f ∧ OnlyFlagged journal e f := by
  obtain ⟨f, there, halted⟩ := cancels.haltedBy here
  exact ⟨f, there, halted.onlyFlagged (by simp [RunningEvent.actionState?, stopped])⟩

theorem Sweep.applyPending_onlyFlagged (here : s.running[place]? = some e)
    (stopped : e.current = some ⟨action, .cancelled⟩) :
    ∃ f, s.applyPending.1.running[place]? = some f ∧ OnlyFlagged s.applyPending.2 e f :=
  (applyRequests_cancels s.state.requests s.running).onlyFlagged here stopped

theorem Sweep.close_onlyFlagged (token : ScopeToken) (here : s.running[place]? = some e)
    (stopped : e.current = some ⟨action, .cancelled⟩) (unfinished : e.id ∉ s.finished) :
    (s.close token).1.state.token ≠ token ∨
      ∃ f ∈ (s.close token).1.running, OnlyFlagged (s.close token).2 e f := by
  unfold close
  split
  next =>
    obtain ⟨f, there, flags⟩ := s.applyPending_onlyFlagged here stopped
    refine .inr ⟨f, List.mem_filter.mpr ⟨List.mem_of_getElem? there, ?_⟩, flags⟩
    simpa [flags.id_eq] using unfinished
  next away => exact .inl away

theorem Sweep.Drives.bypasses (drives : s.Drives factories dt token index event drained)
    (other : event.id ≠ e.id) : drained.journal.Only (Notice.bypasses e.id) := by
  intro notice member
  have known := drives.walk.drives notice member
  have foreign := drives.walk.foreign other
  cases notice with
  | actionSkipped id slot =>
    have apart : id ≠ e.id := by
      rintro rfl
      have marked := mem_marks member (mark_actionSkipped e.id slot)
      rw [foreign] at marked
      cases marked
    simpa using apart
  | cancelledRemoved => cases known
  | _ => rfl

omit [ActionHandler W A] in
theorem Abandons.bypasses {outcome : Except EngineError Drain} {ended : Bool} {notices : Journal}
    {id : EventId} (abandons : Abandons policy event.id outcome ended notices) :
    notices.Only (Notice.bypasses id) := by
  cases abandons with
  | scopeChanged => simp
  | settles settles => cases settles <;> simp

theorem Sweep.Drives.comes (drives : s.Drives factories dt token index e drained)
    {slot : Action} (slotted : e.slot? = some slot)
    (stopped : e.current = some ⟨action, .cancelled⟩) (later : Journal) :
    Comes W factories dt e (drained.journal ++ later) := by
  have skipped : drained.journal = .actionSkipped e.id slot ::
      (drain factories dt ⟨e.advance, s.world, s.state⟩).journal := by
    rw [← drives.drain_eq]
    exact drain_of_cancelled slotted stopped
  have proceeds := (drain_walk factories dt ⟨e.advance, s.world, s.state⟩).proceeds rfl
  rw [skipped, ← List.nil_append (_ :: _ ++ later)]
  exact .resumed s.world s.state drives.live slotted rfl proceeds

theorem Pass.met (pass : Pass factories policy dt token index s journal s' result)
    (here : s.running[place]? = some e) (ahead : index ≤ place) (distinct : (ids s.running).Nodup)
    (unfinished : e.id ∉ s.finished) {slot : Action} (slotted : e.slot? = some slot)
    (stopped : e.current = some ⟨action, .cancelled⟩) :
    Met W factories dt token e journal s'.running s'.state.token result := by
  induction pass generalizing e with
  | closed past =>
    have within := (List.getElem?_eq_some_iff.mp here).1
    omega
  | @removed index s s' event journal result standing flagged rest ih =>
    rcases Nat.lt_or_eq_of_le ahead with before | rfl
    · have other := id_ne_of_distinct distinct here standing (Nat.ne_of_gt before)
      have met := ih here before distinct (Sweep.not_finished other unfinished) slotted stopped
      exact met.behind .same (by simp [other])
    · obtain rfl : event = e := Option.some.inj (standing.symm.trans here)
      exact .come (.removed_first flagged)
  | @passed index s s' event drained ended notices journal result drives settles same rest ih =>
    rcases Nat.lt_or_eq_of_le ahead with before | rfl
    · have other := id_ne_of_distinct distinct here drives.here (Nat.ne_of_gt before)
      have still : (s.afterVisit index event drained.drive ended).running[place]? = some e := by
        rw [Sweep.afterVisit_running, List.getElem?_set_ne (Nat.ne_of_lt before)]
        exact here
      obtain ⟨f, there, flags⟩ := Sweep.applyPending_onlyFlagged still stopped
      have open' :
          f.id ∉ (s.afterVisit index event drained.drive ended).applyPending.1.finished := by
        rw [flags.id_eq]
        exact Sweep.visit_unfinished drained.drive ended other unfinished
      rw [← ids_afterVisit ended drives] at distinct
      have slotted' : f.slot? = some slot := by cases flags <;> exact slotted
      -- The rest of the pass meets the event as this visit has left it.
      have met := ih there before distinct open' slotted' (flags.current_eq.trans stopped)
      refine met.behind (flags.behind _) ?_
      have cancels := (s.afterVisit index event drained.drive ended).applyPending_cancels
      simp [drives.bypasses other, (Abandons.settles settles).bypasses,
        cancels.mono (Notice.bypasses_of_cancels e.id)]
    · obtain rfl : event = e := Option.some.inj (drives.here.symm.trans here)
      simp only [List.append_assoc]
      exact .come (drives.comes slotted stopped _)
  | @abandoned index s event drained ended notices drives abandons away =>
    rcases Nat.lt_or_eq_of_le ahead with before | rfl
    · have other := id_ne_of_distinct distinct here drives.here (Nat.ne_of_gt before)
      rw [← s.afterVisit_state index event drained.drive ended] at away
      exact .abandoned (by simp [drives.bypasses other, abandons.bypasses]) away
    · obtain rfl : event = e := Option.some.inj (drives.here.symm.trans here)
      exact .come (drives.comes slotted stopped _)
  | @aborted index s event drained cause drives strict failed =>
    rcases Nat.lt_or_eq_of_le ahead with before | rfl
    · have other := id_ne_of_distinct distinct here drives.here (Nat.ne_of_gt before)
      have cancels := Sweep.close_cancels token (s.afterDrain index drained.drive)
      have bypassed : Only (Notice.bypasses e.id) (drained.journal ++
          [.frameAborted event.id cause] ++
            ((s.afterDrain index drained.drive).close token).2) := by
        simp [drives.bypasses other, cancels.mono (Notice.bypasses_of_cancels e.id)]
      have still : (s.afterDrain index drained.drive).running[place]? = some e := by
        rw [Sweep.afterDrain, List.getElem?_set_ne (Nat.ne_of_lt before)]
        exact here
      rcases Sweep.close_onlyFlagged token still stopped unfinished with away | ⟨f, there, flags⟩
      · exact .abandoned bypassed away
      · exact .failed bypassed rfl there (flags.behind _)
    · obtain rfl : event = e := Option.some.inj (drives.here.symm.trans here)
      simp only [List.append_assoc]
      exact .come (drives.comes slotted stopped _)

end Frames

namespace Engine

variable [ActionHandler W A] {engine : Engine W A} {e : RunningEvent A} {action : A}

def Meets (engine : Engine W A) (e : RunningEvent A) (world : W) (dt : Seconds) : Prop :=
  Met W engine.actions dt engine.state.token e (engine.update world dt).journal
    (engine.update world dt).engine.running (engine.update world dt).engine.state.token
    (engine.update world dt).result

theorem update_meets (sound : Sound engine.running) (standing : e ∈ engine.running)
    (stopped : e.current = some ⟨action, .cancelled⟩) (world : W) (dt : Seconds) :
    engine.Meets e world dt := by
  have admits := (intake_admits { engine with trace := [] } world dt).mono
    (Notice.bypasses_of_admits e.id)
  have same := intake_same world dt { engine with trace := [] }
  have begun := (intake_moves world dt { engine with trace := [] }).sound sound
  have still : e ∈ ({ engine with trace := [] }.intake world dt).engine.running := by
    obtain ⟨new, grown⟩ := intake_grows world dt { engine with trace := [] }
    rw [grown]
    exact List.mem_append_left new standing
  rcases update_cases engine world dt with ⟨cause, _, ended⟩ | ⟨taken, journal, s', result, half,
    pass, ended⟩
  · rw [Meets, ended]
    exact .failed admits rfl still .same
  · rw [half] at begun still same
    have wf := begun.each e still
    have within := wf.cursor_lt (by simp [stopped])
    have slotted : e.slot? = some e.declaration.actions[e.cursor] := List.getElem?_eq_getElem within
    obtain ⟨place, here⟩ := List.mem_iff_getElem?.mp still
    obtain ⟨f, there, flags⟩ :=
      Sweep.applyPending_onlyFlagged (s := taken.sweepStart world) here stopped
    have distinct : (ids (taken.sweepStart world).applyPending.1.running).Nodup := by
      rw [ids_halted (taken.sweepStart world).applyPending_halted.1]
      exact begun.distinct
    have slotted' : f.slot? = some e.declaration.actions[e.cursor] := by
      cases flags <;> exact slotted
    have met := pass.met there (Nat.zero_le place) distinct List.not_mem_nil slotted'
      (flags.current_eq.trans stopped)
    have cancels := (taken.sweepStart world).applyPending_cancels.mono
      (Notice.bypasses_of_cancels e.id)
    rw [Meets, ended]
    have actions : taken.actions = engine.actions := same.actions
    have token : taken.state.token = engine.state.token := same.token
    rw [actions, token] at met
    exact (met.behind flags cancels).behind .same admits

theorem perform_onlyFlagged (operation : Operation W A) (idle : operation.isUpdate = false)
    (standing : e ∈ engine.running) (stopped : e.current = some ⟨action, .cancelled⟩) :
    (engine.perform operation).engine.state.token ≠ engine.state.token ∨
      ∃ f ∈ (engine.perform operation).engine.running,
        OnlyFlagged (engine.perform operation).journal e f := by
  obtain ⟨place, here⟩ := List.mem_iff_getElem?.mp standing
  have flagged {running : List (RunningEvent A)} {journal : Journal}
      (cancels : Cancels engine.running journal running) :
      ∃ f ∈ running, OnlyFlagged journal e f := by
    obtain ⟨f, there, flags⟩ := cancels.onlyFlagged here stopped
    exact ⟨f, List.mem_of_getElem? there, flags⟩
  cases operation with
  | update => cases idle
  | loadScope | reset => exact .inl (ScopeToken.next_ne engine.state.token)
  | startEvent event =>
    obtain ⟨new, grown⟩ := startEvent_grows engine event
    refine .inr ⟨e, ?_, .same⟩
    simp only [perform, grown]
    exact List.mem_append_left _ standing
  | execute polls world name parameters skip step =>
    obtain ⟨alone, cancels, ending, kept, journal_eq, _, _, cancelled, _, keeps⟩ :=
      execute_parts engine polls world name parameters skip step
    simp only [perform]
    refine or_iff_not_imp_left.mpr fun same => ?_
    rw [keeps (not_not.mp same)] at cancelled
    obtain ⟨f, there, flags⟩ := flagged cancelled
    rw [journal_eq]
    exact ⟨f, there, (flags.behind alone).before ending⟩
  | cancelEvent id => exact .inr (flagged (cancelById_cancels id _))
  | cancelAllEvents => exact .inr (flagged (cancelAll_cancels _))
  | cancelCurrentAction id => exact .inr (flagged (cancelActionIn_cancels id _))
  | checkCondition | configure | registerAction | registerCondition | replaceActions
  | replaceConditions | remember => exact .inr ⟨e, standing, .same⟩

theorem perform_waits (operation : Operation W A) (sound : Sound engine.running)
    (standing : e ∈ engine.running) (stopped : e.current = some ⟨action, .cancelled⟩)
    (kept : (engine.perform operation).engine.state.token = engine.state.token)
    (bypassed : (engine.perform operation).journal.Only (Notice.bypasses e.id)) :
    ∃ f ∈ (engine.perform operation).engine.running,
      OnlyFlagged (engine.perform operation).journal e f := by
  cases frame : operation.isUpdate with
  | false =>
    exact (perform_onlyFlagged operation frame standing stopped).resolve_left (not_not_intro kept)
  | true =>
    cases operation with
    | update world dt =>
      cases update_meets sound standing stopped world dt with
      | come comes => exact (comes.not_bypasses bypassed).elim
      | abandoned _ away => exact absurd kept away
      | failed _ _ there flags => exact ⟨_, there, flags⟩
    | _ => cases frame

theorem run_waits {operations : List (Operation W A)} (sound : Sound engine.running)
    (standing : e ∈ engine.running) (stopped : e.current = some ⟨action, .cancelled⟩)
    (keeps : engine.KeepsScope operations)
    (bypassed : (engine.run operations).2.Only (Notice.bypasses e.id)) :
    ∃ f ∈ (engine.run operations).1.running, OnlyFlagged (engine.run operations).2 e f := by
  induction operations generalizing engine e with
  | nil => exact ⟨e, standing, .same⟩
  | cons operation rest ih =>
    obtain ⟨kept, keeps⟩ := keeps
    obtain ⟨first, later⟩ := (only_append _ _).mp bypassed
    obtain ⟨f, there, flags⟩ := perform_waits operation sound standing stopped kept first
    rw [← flags.id_eq] at later
    obtain ⟨g, last, further⟩ := ih ((perform_moves engine operation).sound sound) there
      (flags.current_eq.trans stopped) keeps later
    exact ⟨g, last, flags.trans further⟩

end Engine

end MapScript
