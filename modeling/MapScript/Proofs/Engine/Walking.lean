import MapScript.Engine.Drain

set_option autoImplicit false

namespace MapScript

open Number

variable {W A : Type}

namespace Drive

def create (factories : Dictionary (ActionFactory A)) (slot : Action) (d : Drive W A) :
    Except EngineError A × Journal :=
  createAction factories (some d.event.id) d.event.cursor slot.kind slot.parameters

variable [ActionHandler W A] (dt : Seconds) (slot : Action)

def startHook (action : A) (d : Drive W A) : Called W A Unit :=
  callHook slot.kind .start .start d.event.cursor ⟨some d.event.id, dt⟩ ActionHandler.start action
    d.scene

def updateHook (action : A) (d : Drive W A) : Called W A Status :=
  callHook slot.kind .update .update d.event.cursor ⟨some d.event.id, dt⟩ ActionHandler.update
    action d.scene

def cleanupHook (action : A) (d : Drive W A) : Called W A Unit :=
  callHook slot.kind .cleanup .cleanup d.event.cursor ⟨some d.event.id, dt⟩ ActionHandler.cleanup
    action d.scene

def started (action : A) (d : Drive W A) : Drive W A :=
  d.after (d.startHook dt slot action) (some ⟨(d.startHook dt slot action).action, .running⟩)

def polled (current : InFlight A) (d : Drive W A) : Drive W A :=
  d.after (d.updateHook dt slot current.action)
    (some ⟨(d.updateHook dt slot current.action).action, current.state⟩)

def closing (current : InFlight A) (d : Drive W A) : Called W A Unit :=
  (d.polled dt slot current).cleanupHook dt slot (d.updateHook dt slot current.action).action

def closed (current : InFlight A) (d : Drive W A) : Drive W A :=
  (d.polled dt slot current).after (d.closing dt slot current)
    (some ⟨(d.closing dt slot current).action, .done⟩)

omit [ActionHandler W A] in
def advanced (d : Drive W A) : Drive W A :=
  { d with event := d.event.advance }

end Drive

section Walks

variable [ActionHandler W A]

/-- `Walk factories dt token d journal d' result`: a drain in the scope `token`. -/
inductive Walk (factories : Dictionary (ActionFactory A)) (dt : Seconds) (token : ScopeToken) :
    Drive W A → Journal → Drive W A → Except EngineError Drain → Prop
  | complete {d : Drive W A} (past : d.event.slot? = none) :
      Walk factories dt token d [.eventFinished d.event.id] d (.ok .complete)
  | refused {d : Drive W A} {slot : Action} {notices : Journal} {cause : EngineError}
      (here : d.event.slot? = some slot) (idle : d.event.current = none)
      (created : d.create factories slot = (.error cause, notices)) :
      Walk factories dt token d notices d (.error cause)
  | startFailed {d : Drive W A} {slot : Action} {notices : Journal} {action : A}
      {cause : EngineError} (here : d.event.slot? = some slot) (idle : d.event.current = none)
      (created : d.create factories slot = (.ok action, notices))
      (failed : (d.startHook dt slot action).result = .error cause) :
      Walk factories dt token d (notices ++ (d.startHook dt slot action).journal)
        (d.after (d.startHook dt slot action) none) (.error cause)
  | startedAway {d : Drive W A} {slot : Action} {notices : Journal} {action : A}
      (here : d.event.slot? = some slot) (idle : d.event.current = none)
      (created : d.create factories slot = (.ok action, notices))
      (ready : (d.startHook dt slot action).result = .ok ())
      (away : (d.started dt slot action).state.token ≠ token) :
      Walk factories dt token d
        (notices ++ (d.startHook dt slot action).journal ++ [.actionStarted d.event.id slot])
        (d.started dt slot action) (.ok .scopeChanged)
  | started {d d' : Drive W A} {slot : Action} {notices later : Journal} {action : A}
      {result : Except EngineError Drain} (here : d.event.slot? = some slot)
      (idle : d.event.current = none) (created : d.create factories slot = (.ok action, notices))
      (ready : (d.startHook dt slot action).result = .ok ())
      (same : (d.started dt slot action).state.token = token)
      (rest : Walk factories dt token (d.started dt slot action) later d' result) :
      Walk factories dt token d
        (notices ++ (d.startHook dt slot action).journal ++ [.actionStarted d.event.id slot] ++
          later) d' result
  | skipped {d d' : Drive W A} {slot : Action} {later : Journal} {action : A}
      {result : Except EngineError Drain} (here : d.event.slot? = some slot)
      (flying : d.event.current = some ⟨action, .cancelled⟩)
      (rest : Walk factories dt token d.advanced later d' result) :
      Walk factories dt token d ([.actionSkipped d.event.id slot] ++ later) d' result
  | updateFailed {d : Drive W A} {slot : Action} {current : InFlight A} {cause : EngineError}
      (here : d.event.slot? = some slot) (flying : d.event.current = some current)
      (live : current.state ≠ .cancelled)
      (failed : (d.updateHook dt slot current.action).result = .error cause) :
      Walk factories dt token d (d.updateHook dt slot current.action).journal
        (d.polled dt slot current) (.error cause)
  | held {d : Drive W A} {slot : Action} {current : InFlight A}
      (here : d.event.slot? = some slot) (flying : d.event.current = some current)
      (live : current.state ≠ .cancelled)
      (busy : (d.updateHook dt slot current.action).result = .ok .running) :
      Walk factories dt token d (d.updateHook dt slot current.action).journal
        (d.polled dt slot current)
        (.ok (if (d.polled dt slot current).state.token = token then .blocked else .scopeChanged))
  | cleanupFailed {d : Drive W A} {slot : Action} {current : InFlight A} {cause : EngineError}
      (here : d.event.slot? = some slot) (flying : d.event.current = some current)
      (live : current.state ≠ .cancelled)
      (done : (d.updateHook dt slot current.action).result = .ok .done)
      (failed : (d.closing dt slot current).result = .error cause) :
      Walk factories dt token d
        ((d.updateHook dt slot current.action).journal ++ (d.closing dt slot current).journal)
        (d.closed dt slot current) (.error cause)
  | finishedAway {d : Drive W A} {slot : Action} {current : InFlight A}
      (here : d.event.slot? = some slot) (flying : d.event.current = some current)
      (live : current.state ≠ .cancelled)
      (done : (d.updateHook dt slot current.action).result = .ok .done)
      (cleaned : (d.closing dt slot current).result = .ok ())
      (away : (d.closed dt slot current).state.token ≠ token) :
      Walk factories dt token d
        ((d.updateHook dt slot current.action).journal ++ (d.closing dt slot current).journal ++
          [.actionFinished d.event.id slot])
        (d.closed dt slot current).advanced (.ok .scopeChanged)
  | finished {d d' : Drive W A} {slot : Action} {later : Journal} {current : InFlight A}
      {result : Except EngineError Drain} (here : d.event.slot? = some slot)
      (flying : d.event.current = some current) (live : current.state ≠ .cancelled)
      (done : (d.updateHook dt slot current.action).result = .ok .done)
      (cleaned : (d.closing dt slot current).result = .ok ())
      (same : (d.closed dt slot current).state.token = token)
      (rest : Walk factories dt token (d.closed dt slot current).advanced later d' result) :
      Walk factories dt token d
        ((d.updateHook dt slot current.action).journal ++ (d.closing dt slot current).journal ++
          [.actionFinished d.event.id slot] ++ later) d' result

variable (factories : Dictionary (ActionFactory A)) (dt : Seconds) (token : ScopeToken)

def Stepped.Leads (d : Drive W A) (visited : Stepped W A) : Prop :=
  match visited.step with
  | .stop result => Walk factories dt token d visited.journal visited.drive result
  | .next =>
    visited.drive.state.token = token ∧
      visited.drive.event.declaration = d.event.declaration ∧
      visited.drive.event.cursor = d.event.cursor + 1 ∧
      ∀ later d' result, Walk factories dt token visited.drive later d' result →
        Walk factories dt token d (visited.journal ++ later) d' result

variable {slot : Action} {d : Drive W A}

theorem Stepped.Leads.begun {notices : Journal} {action : A} {visited : Stepped W A}
    (here : d.event.slot? = some slot) (idle : d.event.current = none)
    (created : d.create factories slot = (.ok action, notices))
    (ready : (d.startHook dt slot action).result = .ok ())
    (same : (d.started dt slot action).state.token = token)
    (leads : visited.Leads factories dt token (d.started dt slot action)) :
    (visited.after (notices ++ (d.startHook dt slot action).journal ++
      [.actionStarted d.event.id slot])).Leads factories dt token d := by
  obtain ⟨drive, journal, result | _⟩ := visited
  · exact .started here idle created ready same leads
  · obtain ⟨fresh, declaration, cursor, later⟩ := leads
    refine ⟨fresh, declaration, cursor, ?_⟩
    intro journal' d' result rest
    rw [after, List.append_assoc]
    exact .started here idle created ready same (later journal' d' result rest)

theorem poll_eq (current : InFlight A) : poll dt token slot current d =
    match (d.updateHook dt slot current.action).result with
    | .error cause =>
      ⟨d.polled dt slot current, (d.updateHook dt slot current.action).journal,
        .stop (.error cause)⟩
    | .ok .done =>
      (cleanUp dt token slot (d.updateHook dt slot current.action).action
        (d.polled dt slot current)).after (d.updateHook dt slot current.action).journal
    | .ok .running =>
      ⟨d.polled dt slot current, (d.updateHook dt slot current.action).journal,
        .stop (.ok (if (d.polled dt slot current).state.token = token then .blocked
          else .scopeChanged))⟩ :=
  rfl

theorem cleanUp_eq (current : InFlight A) :
    cleanUp dt token slot (d.updateHook dt slot current.action).action (d.polled dt slot current) =
    match (d.closing dt slot current).result with
    | .error cause =>
      ⟨d.closed dt slot current, (d.closing dt slot current).journal, .stop (.error cause)⟩
    | .ok _ =>
      ⟨(d.closed dt slot current).advanced,
        (d.closing dt slot current).journal ++ [.actionFinished d.event.id slot],
        if (d.closed dt slot current).state.token = token then .next
          else .stop (.ok .scopeChanged)⟩ :=
  rfl

theorem enter_eq : enter factories dt token slot d =
    match d.create factories slot with
    | (.error cause, notices) => ⟨d, notices, .stop (.error cause)⟩
    | (.ok action, notices) =>
      match (d.startHook dt slot action).result with
      | .error cause =>
        ⟨d.after (d.startHook dt slot action) none,
          notices ++ (d.startHook dt slot action).journal, .stop (.error cause)⟩
      | .ok _ =>
        if (d.started dt slot action).state.token = token then
          (poll dt token slot ⟨(d.startHook dt slot action).action, .running⟩
            (d.started dt slot action)).after
              (notices ++ (d.startHook dt slot action).journal ++
                [.actionStarted d.event.id slot])
        else
          ⟨d.started dt slot action,
            notices ++ (d.startHook dt slot action).journal ++ [.actionStarted d.event.id slot],
            .stop (.ok .scopeChanged)⟩ :=
  rfl

theorem poll_leads {current : InFlight A} (here : d.event.slot? = some slot)
    (flying : d.event.current = some current) (live : current.state ≠ .cancelled) :
    (poll dt token slot current d).Leads factories dt token d := by
  rw [poll_eq]
  rcases updated : (d.updateHook dt slot current.action).result with cause | (_ | _)
  · exact .updateFailed here flying live updated
  · exact .held here flying live updated
  · dsimp only
    rw [cleanUp_eq]
    rcases cleaned : (d.closing dt slot current).result with cause | _
    · exact .cleanupFailed here flying live updated cleaned
    · by_cases same : (d.closed dt slot current).state.token = token
      · simp only [same, if_true]
        refine ⟨same, rfl, rfl, ?_⟩
        intro later d' result rest
        rw [Stepped.after, ← List.append_assoc]
        exact .finished here flying live updated cleaned same rest
      · simp only [same, if_false, Stepped.after, ← List.append_assoc]
        exact .finishedAway here flying live updated cleaned same

theorem enter_leads (here : d.event.slot? = some slot) (idle : d.event.current = none) :
    (enter factories dt token slot d).Leads factories dt token d := by
  rw [enter_eq]
  rcases created : d.create factories slot with ⟨cause | action, notices⟩
  · exact .refused here idle created
  · dsimp only
    rcases ready : (d.startHook dt slot action).result with cause | _
    · exact .startFailed here idle created ready
    · by_cases same : (d.started dt slot action).state.token = token
      · simp only [same, if_true]
        refine Stepped.Leads.begun factories dt token here idle created ready same ?_
        exact poll_leads factories dt token here rfl (by simp)
      · simp only [same, if_false]
        exact .startedAway here idle created ready same

theorem visitSlot_leads (here : d.event.slot? = some slot) (fresh : d.state.token = token) :
    (visitSlot factories dt token slot d).Leads factories dt token d := by
  unfold visitSlot
  cases flying : d.event.current with
  | none => exact enter_leads factories dt token here flying
  | some current =>
    by_cases stopped : current.state = .cancelled
    · obtain ⟨action, state⟩ := current
      dsimp only at stopped
      subst stopped
      refine ⟨fresh, rfl, rfl, ?_⟩
      intro later d' result rest
      exact .skipped here flying rest
    · simp only [stopped, if_false]
      exact poll_leads factories dt token here flying stopped

theorem drainSlots_walk (slots : List Action) (d : Drive W A)
    (left : slots = d.event.declaration.actions.drop d.event.cursor)
    (fresh : d.state.token = token) :
    Walk factories dt token d (drainSlots factories dt token slots d).journal
      (drainSlots factories dt token slots d).drive
      (drainSlots factories dt token slots d).result := by
  -- The slots that remain are those of the declaration from the cursor on, so the list and the
  -- event lose one together.
  induction slots generalizing d with
  | nil =>
    have past : d.event.slot? = none := by
      simpa [RunningEvent.slot?] using left.symm
    exact .complete past
  | cons slot rest ih =>
    have here : d.event.slot? = some slot := by
      simp [RunningEvent.slot?, ← List.head?_drop, ← left]
    have leads := visitSlot_leads factories dt token here fresh
    simp only [drainSlots]
    generalize visitSlot factories dt token slot d = visited at leads ⊢
    obtain ⟨drive, journal, result | _⟩ := visited
    · exact leads
    · obtain ⟨same, declaration, cursor, later⟩ := leads
      dsimp only at same declaration cursor later ⊢
      apply later
      apply ih drive _ same
      rw [declaration, cursor, ← List.drop_drop, ← left]
      rfl

theorem drain_walk (d : Drive W A) :
    Walk factories dt d.state.token d (drain factories dt d).journal (drain factories dt d).drive
      (drain factories dt d).result :=
  drainSlots_walk factories dt d.state.token _ d rfl rfl

end Walks

end MapScript
