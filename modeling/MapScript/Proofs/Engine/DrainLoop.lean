import MapScript.Proofs.Engine.Collection
import MapScript.Proofs.Engine.Scripted

set_option autoImplicit false

namespace MapScript

open Number

variable {W A : Type}

inductive Look (W A : Type) where
  | stop (drained : Drained W A)
  | again (drive : Drive W A) (journal : Journal)

/-- Two looks for each slot that remains, and one less if its action is there. -/
def RunningEvent.looksLeft (e : RunningEvent A) : Nat :=
  2 * (e.declaration.actions.length - e.cursor) - if e.current.isSome then 1 else 0

section Loop

variable [ActionHandler W A] (factories : Dictionary (ActionFactory A)) (dt : Seconds)
  (token : ScopeToken)

def Look.within (d : Drive W A) (journal : Journal) : Look W A :=
  if d.state.token = token then .again d journal else .stop ⟨d, journal, .ok .scopeChanged⟩

def lookAtIdle (slot : Action) (d : Drive W A) : Look W A :=
  match d.create factories slot with
  | (.error cause, notices) => .stop ⟨d, notices, .error cause⟩
  | (.ok action, notices) =>
    let started := d.startHook dt slot action
    match started.result with
    | .error cause => .stop ⟨d.after started none, notices ++ started.journal, .error cause⟩
    | .ok _ =>
      .within token (d.started dt slot action)
        (notices ++ started.journal ++ [.actionStarted d.event.id slot])

def lookAtFlying (slot : Action) (current : InFlight A) (d : Drive W A) : Look W A :=
  let updated := d.updateHook dt slot current.action
  let polled := d.polled dt slot current
  match updated.result with
  | .error cause => .stop ⟨polled, updated.journal, .error cause⟩
  | .ok .running =>
    .stop ⟨polled, updated.journal,
      .ok (if polled.state.token = token then .blocked else .scopeChanged)⟩
  | .ok .done =>
    let cleaned := d.closing dt slot current
    let closed := d.closed dt slot current
    match cleaned.result with
    | .error cause => .stop ⟨closed, updated.journal ++ cleaned.journal, .error cause⟩
    | .ok _ =>
      .within token closed.advanced
        (updated.journal ++ cleaned.journal ++ [.actionFinished d.event.id slot])

def look (d : Drive W A) : Look W A :=
  match d.event.slot? with
  | none => .stop ⟨d, [.eventFinished d.event.id], .ok .complete⟩
  | some slot =>
    match d.event.current with
    | none => lookAtIdle factories dt token slot d
    | some current =>
      if current.state = .cancelled then .again d.advanced [.actionSkipped d.event.id slot]
      else lookAtFlying dt token slot current d

def loopWithin : Nat → Drive W A → Option (Drained W A)
  | 0, _ => none
  | looks + 1, d =>
    match look factories dt token d with
    | .stop drained => some drained
    | .again next journal =>
      (loopWithin looks next).map fun drained => { drained with journal := journal ++ drained.journal }

end Loop

section Descent

variable {e : RunningEvent A} {slot : Action}

theorem looksLeft_started (here : e.slot? = some slot) (idle : e.current = none)
    (current : InFlight A) (context : Dictionary Value) :
    { e with current := some current, context }.looksLeft < e.looksLeft := by
  have within := RunningEvent.cursor_lt_of_slot here
  have before : e.looksLeft = 2 * (e.declaration.actions.length - e.cursor) := by
    simp [RunningEvent.looksLeft, idle]
  have after : { e with current := some current, context }.looksLeft =
      2 * (e.declaration.actions.length - e.cursor) - 1 := rfl
  omega

theorem looksLeft_advanced (here : e.slot? = some slot) (context : Dictionary Value) :
    { e.advance with context }.looksLeft < e.looksLeft := by
  have within := RunningEvent.cursor_lt_of_slot here
  have after : { e.advance with context }.looksLeft =
      2 * (e.declaration.actions.length - (e.cursor + 1)) := rfl
  rw [after, RunningEvent.looksLeft]
  split <;> omega

variable [ActionHandler W A] {factories : Dictionary (ActionFactory A)} {dt : Seconds}
  {token : ScopeToken} {d next : Drive W A} {journal noted : Journal} {current : InFlight A}

omit [ActionHandler W A] in
theorem Look.eq_of_within (goes : Look.within token d noted = .again next journal) : next = d := by
  unfold Look.within at goes
  split at goes <;> cases goes
  rfl

theorem lookAtIdle_again (goes : lookAtIdle factories dt token slot d = .again next journal) :
    ∃ action, next = d.started dt slot action := by
  unfold lookAtIdle at goes
  split at goes
  · cases goes
  next action _ _ =>
    dsimp only at goes
    split at goes
    · cases goes
    · exact ⟨action, Look.eq_of_within goes⟩

theorem lookAtFlying_again (goes : lookAtFlying dt token slot current d = .again next journal) :
    next = (d.closed dt slot current).advanced := by
  unfold lookAtFlying at goes
  dsimp only at goes
  split at goes
  · cases goes
  · cases goes
  · split at goes
    · cases goes
    · exact Look.eq_of_within goes

theorem look_descends (goes : look factories dt token d = .again next journal) :
    next.event.looksLeft < d.event.looksLeft := by
  unfold look at goes
  split at goes
  · cases goes
  next slot here =>
    split at goes
    next idle =>
      obtain ⟨action, rfl⟩ := lookAtIdle_again goes
      exact looksLeft_started here idle _ _
    next current flying =>
      split at goes
      · cases goes
        exact looksLeft_advanced here _
      · obtain rfl := lookAtFlying_again goes
        exact looksLeft_advanced here _

section Looks

variable {d' : Drive W A} {result : Except EngineError Drain} {looks : Nat}

theorem loopWithin_stop {drained : Drained W A} (stops : look factories dt token d = .stop drained)
    (enough : d.event.looksLeft < looks) :
    loopWithin factories dt token looks d = some drained := by
  cases looks with
  | zero => exact absurd enough (Nat.not_lt_zero _)
  | succ looks => rw [loopWithin, stops]

theorem loopWithin_again (goes : look factories dt token d = .again next noted)
    (later : ∀ {looks : Nat}, next.event.looksLeft < looks →
      loopWithin factories dt token looks next = some ⟨d', journal, result⟩)
    (enough : d.event.looksLeft < looks) :
    loopWithin factories dt token looks d = some ⟨d', noted ++ journal, result⟩ := by
  cases looks with
  | zero => exact absurd enough (Nat.not_lt_zero _)
  | succ looks =>
    have less := look_descends goes
    have rest : loopWithin factories dt token looks next = some ⟨d', journal, result⟩ :=
      later (by omega)
    simp [loopWithin, goes, rest]

theorem Walk.loops (walk : Walk factories dt token d journal d' result)
    (enough : d.event.looksLeft < looks) :
    loopWithin factories dt token looks d = some ⟨d', journal, result⟩ := by
  induction walk generalizing looks with
  | complete past => exact loopWithin_stop (by simp [look, past]) enough
  | refused here idle created =>
    exact loopWithin_stop (by simp [look, lookAtIdle, here, idle, created]) enough
  | startFailed here idle created failed =>
    exact loopWithin_stop (by simp [look, lookAtIdle, here, idle, created, failed]) enough
  | startedAway here idle created ready away =>
    exact loopWithin_stop
      (by simp [look, lookAtIdle, Look.within, here, idle, created, ready, away]) enough
  | started here idle created ready same _ ih =>
    exact loopWithin_again
      (by simp [look, lookAtIdle, Look.within, here, idle, created, ready, same]) ih enough
  | skipped here flying _ ih => exact loopWithin_again (by simp [look, here, flying]) ih enough
  | updateFailed here flying live failed =>
    exact loopWithin_stop (by simp [look, lookAtFlying, here, flying, live, failed]) enough
  | held here flying live busy =>
    exact loopWithin_stop (by simp [look, lookAtFlying, here, flying, live, busy]) enough
  | cleanupFailed here flying live done failed =>
    exact loopWithin_stop (by simp [look, lookAtFlying, here, flying, live, done, failed]) enough
  | finishedAway here flying live done cleaned away =>
    refine loopWithin_stop ?_ enough
    simp [look, lookAtFlying, Look.within, here, flying, live, done, cleaned, Drive.advanced, away]
  | finished here flying live done cleaned same _ ih =>
    refine loopWithin_again ?_ ih enough
    simp [look, lookAtFlying, Look.within, here, flying, live, done, cleaned, Drive.advanced, same]

end Looks

theorem looksLeft_le (e : RunningEvent A) :
    e.looksLeft ≤ 2 * (e.declaration.actions.length - e.cursor) :=
  Nat.sub_le _ _

theorem drain_loops (factories : Dictionary (ActionFactory A)) (dt : Seconds) (d : Drive W A)
    (spare : Nat) :
    loopWithin factories dt d.state.token
        (2 * (d.event.declaration.actions.length - d.event.cursor) + 1 + spare) d =
      some (drain factories dt d) := by
  have bound := looksLeft_le d.event
  exact (drain_walk factories dt d).loops (by omega)

end Descent

-- No look can be spared: one slot takes two, and a third one sees that the script has ended.
example :
    let d : Drive Unit Scripted := ⟨.start (Scripted.event ⟨1⟩), (), .initial⟩
    let actions := (Scripted.engine Scripted.idle .abort).actions
    (loopWithin actions .zero d.state.token 2 d).isNone = true ∧
      (loopWithin actions .zero d.state.token 3 d).isSome = true :=
  ⟨rfl, rfl⟩

end MapScript
