import MapScript.Proofs.Engine.Removing

set_option autoImplicit false

namespace MapScript

open Number Journal

variable {W A B : Type}

@[simp] def Notice.works : Notice → Bool
  | .called call => call.reply ≠ .failed
  | .actionMissing _ | .argumentsRefused _ _ _ => false
  | _ => true

theorem Notice.works_of_effects (notice : Notice) (effects : notice.effects = true) :
    notice.works = true := by
  cases notice <;> first | rfl | cases effects

theorem Notice.works_of_admits (notice : Notice) (admits : notice.admits = true) :
    notice.works = true := by
  cases notice <;> first | rfl | cases admits

theorem Stops.works {e e' : RunningEvent A} {journal : Journal} (stops : Stops e journal e') :
    journal.Only Notice.works := by
  cases stops <;> simp

theorem Cancels.works {running running' : List (RunningEvent A)} {journal : Journal}
    (cancels : Cancels running journal running') : journal.Only Notice.works := by
  induction cancels with
  | none | ignored => simp
  | event one _ ih => simp [one.works, ih]
  | trans _ _ first second => simp [first, second]

inductive Works (id : EventId) : Journal → Except EngineError Drain → Prop
  | fine {journal : Journal} {ended : Drain} (works : journal.Only Notice.works) :
      Works id journal (.ok ended)
  | failed {front : Journal} {notice : Notice} {cause : EngineError}
      (works : front.Only Notice.works) (fails : notice.works = false)
      (owned : ∀ call, notice = .called call → call.owner = some id) :
      Works id (front ++ [notice]) (.error cause)

namespace Works

variable {id : EventId} {earlier journal later : Journal} {result : Except EngineError Drain}
  {notice : Notice}

theorem behind (works : earlier.Only Notice.works) (rest : Works id later result) :
    Works id (earlier ++ later) result := by
  cases rest with
  | fine fine => exact .fine ((only_append _ _).mpr ⟨works, fine⟩)
  | failed front fails owned =>
    rw [← List.append_assoc]
    exact .failed ((only_append _ _).mpr ⟨works, front⟩) fails owned

theorem split (works : Works id journal result) (split : journal = earlier ++ notice :: later)
    (fails : notice.works = false) :
    later = [] ∧ (∃ cause, result = .error cause) ∧
      ∀ call, notice = .called call → call.owner = some id := by
  have clash {front : Journal} (fine : front.Only Notice.works) (member : notice ∈ front) :
      False := by
    rw [fine notice member] at fails
    cases fails
  cases works with
  | fine fine => exact (clash fine (by simp [split])).elim
  | @failed front last cause fine _ owned =>
    rcases split_append split with ⟨rest, inside, _⟩ | ⟨front', final⟩
    · exact (clash fine (by simp [inside])).elim
    · rcases split_cons final with ⟨rfl, rfl⟩ | ⟨_, beyond⟩
      · exact ⟨rfl, ⟨cause, rfl⟩, owned⟩
      · exact absurd beyond not_split_nil

end Works

section Hooks

variable (kind : String) (phase : Phase) (hook : Hook) (slot : Nat) (owner : EventId)
  (dt : Seconds) (hookOf : A → Moment → Scene W → Outcome W A B) (action : A) (scene : Scene W)

theorem callHook_works [Replies B] (answers : ∀ value : B, Replies.reply value ≠ .failed)
    {value : B}
    (fine : (callHook kind phase hook slot ⟨some owner, dt⟩ hookOf action scene).result =
      .ok value) :
    (callHook kind phase hook slot ⟨some owner, dt⟩ hookOf action scene).journal.Only
      Notice.works := by
  have effects := scene.state.applyAll_effects (hookOf action ⟨some owner, dt⟩ scene).effects
  have reply := replyTo_mapError (hookOf action ⟨some owner, dt⟩ scene).result
    (EngineError.handler kind phase (some owner))
  refine (only_append _ _).mpr ⟨effects.mono Notice.works_of_effects, ?_⟩
  simp only [callHook] at fine
  rw [fine] at reply
  simpa [← reply, replyTo] using answers value

theorem callHook_fails [Replies B] {cause : EngineError}
    (failed : (callHook kind phase hook slot ⟨some owner, dt⟩ hookOf action scene).result =
      .error cause) :
    Works owner (callHook kind phase hook slot ⟨some owner, dt⟩ hookOf action scene).journal
      (.error cause) := by
  have effects := scene.state.applyAll_effects (hookOf action ⟨some owner, dt⟩ scene).effects
  have reply := replyTo_mapError (hookOf action ⟨some owner, dt⟩ scene).result
    (EngineError.handler kind phase (some owner))
  simp only [callHook] at failed
  rw [failed] at reply
  refine .failed (effects.mono Notice.works_of_effects) (by simp [← reply, replyTo]) ?_
  rintro call same
  obtain rfl := Notice.called.inj same
  rfl

theorem Status.reply_works : ∀ status : Status, Replies.reply status ≠ .failed := by
  intro status
  cases status <;> simp [Replies.reply]

theorem unit_reply_works : ∀ value : Unit, Replies.reply value ≠ .failed := by
  simp [Replies.reply]

end Hooks

theorem createAction_works {factories : Dictionary (ActionFactory A)} {owner : Option EventId}
    {slot : Nat} {name : String} {parameters : List String} {created : Except EngineError A}
    {notices : Journal}
    (creation : createAction factories owner slot name parameters = (created, notices)) :
    (∀ action, created = .ok action → notices.Only Notice.works) ∧
      ∀ (id : EventId) (cause : EngineError), created = .error cause →
        Works id notices (.error cause) := by
  have alone (id : EventId) (cause : EngineError) {notice : Notice}
      (fails : notice.works = false) (uncalled : ∀ call, notice ≠ .called call) :
      Works id [notice] (.error cause) := by
    rw [← List.nil_append [notice]]
    exact .failed only_nil fails fun call same => absurd same (uncalled call)
  unfold createAction at creation
  split at creation
  next =>
    obtain ⟨rfl, rfl⟩ := Prod.mk.inj creation
    exact ⟨nofun, fun id cause _ => alone id cause rfl nofun⟩
  next =>
    split at creation
    next =>
      obtain ⟨rfl, rfl⟩ := Prod.mk.inj creation
      exact ⟨fun _ _ => by simp, nofun⟩
    next =>
      obtain ⟨rfl, rfl⟩ := Prod.mk.inj creation
      exact ⟨nofun, fun id cause _ => alone id cause rfl nofun⟩

section Walks

variable [ActionHandler W A] {factories : Dictionary (ActionFactory A)} {dt : Seconds}
  {token : ScopeToken} {d d' : Drive W A} {slot : Action} {journal : Journal}
  {result : Except EngineError Drain}

theorem startHook_works {action : A} (ready : (d.startHook dt slot action).result = .ok ()) :
    (d.startHook dt slot action).journal.Only Notice.works :=
  callHook_works _ _ _ _ _ _ _ _ _ unit_reply_works ready

theorem updateHook_works {action : A} {status : Status}
    (answered : (d.updateHook dt slot action).result = .ok status) :
    (d.updateHook dt slot action).journal.Only Notice.works :=
  callHook_works _ _ _ _ _ _ _ _ _ Status.reply_works answered

theorem closing_works {current : InFlight A} (cleaned : (d.closing dt slot current).result = .ok ()) :
    (d.closing dt slot current).journal.Only Notice.works :=
  callHook_works _ _ _ _ _ _ _ _ _ unit_reply_works cleaned

theorem Walk.works (walk : Walk factories dt token d journal d' result) :
    Works d.event.id journal result := by
  induction walk with
  | complete => exact .fine (by simp)
  | refused _ _ created => exact (createAction_works created).2 _ _ rfl
  | startFailed _ _ created failed =>
    exact .behind ((createAction_works created).1 _ rfl) (callHook_fails _ _ _ _ _ _ _ _ _ failed)
  | startedAway _ _ created ready =>
    exact .fine (by simp [(createAction_works created).1 _ rfl, startHook_works ready])
  | started _ _ created ready _ _ ih =>
    exact .behind (by simp [(createAction_works created).1 _ rfl, startHook_works ready]) ih
  | skipped _ _ _ ih => exact .behind (by simp) ih
  | updateFailed _ _ _ failed => exact callHook_fails _ _ _ _ _ _ _ _ _ failed
  | held _ _ _ busy => exact .fine (updateHook_works busy)
  | cleanupFailed _ _ _ done failed =>
    exact .behind (updateHook_works done) (callHook_fails _ _ _ _ _ _ _ _ _ failed)
  | finishedAway _ _ _ done cleaned =>
    exact .fine (by simp [updateHook_works done, closing_works cleaned])
  | finished _ _ _ done cleaned _ _ ih =>
    exact .behind (by simp [updateHook_works done, closing_works cleaned]) ih

end Walks

section Pass

variable [ActionHandler W A] {factories : Dictionary (ActionFactory A)} {policy : FailurePolicy}
  {dt : Seconds} {token : ScopeToken} {index : Nat} {s s' : Sweep W A}
  {journal pre post : Journal} {result : Except EngineError Unit} {notice : Notice}

theorem not_split_of_works (works : journal.Only Notice.works) (fails : notice.works = false) :
    journal ≠ pre ++ notice :: post := by
  rintro rfl
  rw [works notice (by simp)] at fails
  cases fails

theorem Abandons.dropped {id : EventId} {cause : EngineError} {ended : Bool} {notices : Journal}
    (abandons : Abandons policy id (.error cause) ended notices) :
    notices = [.eventDropped id cause] := by
  cases abandons with
  | settles settles => cases settles with | dropped => rfl

theorem Abandons.works {id : EventId} {drained : Except EngineError Drain} {ended : Bool}
    {notices : Journal} (abandons : Abandons policy id drained ended notices) :
    notices.Only Notice.works := by
  cases abandons with
  | scopeChanged => simp
  | settles settles => cases settles <;> simp

theorem drain_dropped {event : RunningEvent A} {drained : Drained W A} {ended : Bool}
    {notices later : Journal} (drives : s.Drives factories dt token index event drained)
    (abandons : Abandons policy event.id drained.result ended notices)
    (split : drained.journal ++ (notices ++ later) = pre ++ notice :: post)
    (fails : notice.works = false) :
    (∃ id cause rest, post = .eventDropped id cause :: rest ∧
      ∀ call, notice = .called call → call.owner = some id) ∨
      ∃ front, later = front ++ notice :: post := by
  rcases split_append split with ⟨rest, inside, rfl⟩ | ⟨front, outside⟩
  · obtain ⟨rfl, ⟨cause, failed⟩, owned⟩ := drives.walk.works.split inside fails
    rw [failed] at abandons
    exact .inl ⟨event.id, cause, later, by simp [abandons.dropped], owned⟩
  · rcases split_append outside with ⟨_, inside, _⟩ | behind
    · exact absurd inside (not_split_of_works abandons.works fails)
    · exact .inr behind

theorem Pass.fails_dropped (pass : Pass factories policy dt token index s journal s' result)
    (lenient : policy = .dropEvent) (split : journal = pre ++ notice :: post)
    (fails : notice.works = false) :
    ∃ id cause rest, post = .eventDropped id cause :: rest ∧
      ∀ call, notice = .called call → call.owner = some id := by
  induction pass generalizing pre with
  | closed => exact absurd split (not_split_of_works (applyRequests_cancels _ _).works fails)
  | removed _ _ _ ih =>
    rcases split_cons split with ⟨rfl, _⟩ | ⟨front, later⟩
    · cases fails
    · exact ih later
  | passed drives settles _ _ ih =>
    rw [List.append_assoc, List.append_assoc] at split
    rcases drain_dropped drives (.settles settles) split fails with dropped | ⟨front, behind⟩
    · exact dropped
    · rcases split_append behind with ⟨_, cancelled, _⟩ | ⟨front, later⟩
      · exact absurd cancelled (not_split_of_works (applyRequests_cancels _ _).works fails)
      · exact ih later
  | @abandoned _ _ _ drained _ notices drives abandons _ =>
    rw [← List.append_nil notices] at split
    exact (drain_dropped drives abandons split fails).resolve_right fun ⟨_, beyond⟩ =>
      not_split_nil beyond
  | aborted _ strict => simp [lenient] at strict

end Pass

theorem Engine.update_fails_dropped [ActionHandler W A] (engine : Engine W A)
    (lenient : engine.settings.failurePolicy = .dropEvent) (world : W) (dt : Seconds)
    {pre post : Journal} {notice : Notice}
    (split : (engine.update world dt).journal = pre ++ notice :: post)
    (fails : notice.works = false) :
    ∃ id cause rest, post = .eventDropped id cause :: rest ∧
      ∀ call, notice = .called call → call.owner = some id := by
  have admits := intake_admits { engine with trace := [] } world dt
  have tested := admits.mono Notice.works_of_admits
  have same := intake_same world dt { engine with trace := [] }
  rcases update_cases engine world dt with ⟨cause, _, ended⟩ | ⟨taken, journal, s', result, half,
    pass, ended⟩
  · rw [ended] at split
    exact absurd split (not_split_of_works tested fails)
  · rw [half] at same
    rw [ended] at split
    rcases split_append split with ⟨_, early, _⟩ | ⟨_, swept⟩
    · exact absurd early (not_split_of_works tested fails)
    · rcases split_append swept with ⟨_, cancelled, _⟩ | ⟨_, later⟩
      · exact absurd cancelled (not_split_of_works (applyRequests_cancels _ _).works fails)
      · exact pass.fails_dropped (same.settings ▸ lenient) later fails

end MapScript
