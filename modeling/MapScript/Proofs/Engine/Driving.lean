import MapScript.Proofs.Engine.Calls
import MapScript.Proofs.Engine.Walking

set_option autoImplicit false

namespace MapScript

open Number Journal

variable {W A : Type}

def RunningEvent.call (e : RunningEvent A) (slot : Action) (hook : Hook) (reply : Reply)
    (moved : Bool) : Call :=
  ⟨some e.id, e.cursor, slot.kind, hook, reply, moved⟩

/-- `Driven token e calls e' token' result`: a drain of `e` that began with the scope `token`. -/
inductive Driven (token : ScopeToken) : RunningEvent A → List Call → RunningEvent A → ScopeToken →
    Except EngineError Drain → Prop
  | complete {e : RunningEvent A} (past : e.slot? = none) :
      Driven token e [] e token (.ok .complete)
  | refused {e : RunningEvent A} (cause : EngineError) (idle : e.current = none) :
      Driven token e [] e token (.error cause)
  | startFailed {e : RunningEvent A} {slot : Action} {token' : ScopeToken}
      (context : Dictionary Value) (cause : EngineError)
      (here : e.slot? = some slot) (idle : e.current = none) :
      Driven token e [e.call slot .start .failed (decide (token' ≠ token))]
        { e with current := none, context } token' (.error cause)
  | startedAway {e : RunningEvent A} {slot : Action} {token' : ScopeToken} (action : A)
      (context : Dictionary Value) (here : e.slot? = some slot) (idle : e.current = none)
      (away : token' ≠ token) :
      Driven token e [e.call slot .start .finished true]
        { e with current := some ⟨action, .running⟩, context } token' (.ok .scopeChanged)
  | started {e e' : RunningEvent A} {slot : Action} {calls : List Call} {token' : ScopeToken}
      {result : Except EngineError Drain} (action : A) (context : Dictionary Value)
      (here : e.slot? = some slot) (idle : e.current = none)
      (rest : Driven token { e with current := some ⟨action, .running⟩, context } calls e' token'
        result) :
      Driven token e (e.call slot .start .finished false :: calls) e' token' result
  | skipped {e e' : RunningEvent A} {slot : Action} {calls : List Call} {token' : ScopeToken}
      {result : Except EngineError Drain} {action : A} (here : e.slot? = some slot)
      (flying : e.current = some ⟨action, .cancelled⟩)
      (rest : Driven token e.advance calls e' token' result) :
      Driven token e calls e' token' result
  | updateFailed {e : RunningEvent A} {slot : Action} {token' : ScopeToken} {current : InFlight A}
      (action : A) (context : Dictionary Value) (cause : EngineError) (here : e.slot? = some slot)
      (flying : e.current = some current) (live : current.state ≠ .cancelled) :
      Driven token e [e.call slot .update .failed (decide (token' ≠ token))]
        { e with current := some ⟨action, current.state⟩, context } token' (.error cause)
  | held {e : RunningEvent A} {slot : Action} {token' : ScopeToken} {current : InFlight A}
      (action : A) (context : Dictionary Value) (here : e.slot? = some slot)
      (flying : e.current = some current) (live : current.state ≠ .cancelled) :
      Driven token e [e.call slot .update .running (decide (token' ≠ token))]
        { e with current := some ⟨action, current.state⟩, context } token'
        (.ok (if token' = token then .blocked else .scopeChanged))
  | cleanupFailed {e : RunningEvent A} {slot : Action} {token' : ScopeToken} {current : InFlight A}
      (between : ScopeToken) (action : A) (context : Dictionary Value) (cause : EngineError)
      (here : e.slot? = some slot) (flying : e.current = some current)
      (live : current.state ≠ .cancelled) :
      Driven token e
        [e.call slot .update .finished (decide (between ≠ token)),
          e.call slot .cleanup .failed (decide (token' ≠ between))]
        { e with current := some ⟨action, .done⟩, context } token' (.error cause)
  | finishedAway {e : RunningEvent A} {slot : Action} {token' : ScopeToken} {current : InFlight A}
      (between : ScopeToken) (context : Dictionary Value) (here : e.slot? = some slot)
      (flying : e.current = some current) (live : current.state ≠ .cancelled)
      (away : token' ≠ token) :
      Driven token e
        [e.call slot .update .finished (decide (between ≠ token)),
          e.call slot .cleanup .finished (decide (token' ≠ between))]
        { e.advance with context } token' (.ok .scopeChanged)
  | finished {e e' : RunningEvent A} {slot : Action} {calls : List Call} {token' : ScopeToken}
      {result : Except EngineError Drain} {current : InFlight A} (between : ScopeToken)
      (context : Dictionary Value) (here : e.slot? = some slot) (flying : e.current = some current)
      (live : current.state ≠ .cancelled)
      (rest : Driven token { e.advance with context } calls e' token' result) :
      Driven token e
        (e.call slot .update .finished (decide (between ≠ token)) ::
          e.call slot .cleanup .finished (decide (token ≠ between)) :: calls) e' token' result

section Walks

variable [ActionHandler W A] {factories : Dictionary (ActionFactory A)} {dt : Seconds}
  {token : ScopeToken} {d d' : Drive W A} {slot : Action} {journal : Journal}
  {result : Except EngineError Drain}

omit [ActionHandler W A] in
theorem create_calls {created : Except EngineError A}
    (eq : d.create factories slot = (created, journal)) : calls journal = [] := by
  have silent := createAction_calls factories (some d.event.id) d.event.cursor slot.kind
    slot.parameters
  unfold Drive.create at eq
  rwa [eq] at silent

theorem startHook_calls (action : A) : calls (d.startHook dt slot action).journal =
    [d.event.call slot .start (replyTo (d.startHook dt slot action).result)
      (decide ((d.started dt slot action).state.token ≠ d.state.token))] :=
  callHook_calls _ _ _ _ _ _ _ _

theorem updateHook_calls (current : InFlight A) :
    calls (d.updateHook dt slot current.action).journal =
      [d.event.call slot .update (replyTo (d.updateHook dt slot current.action).result)
        (decide ((d.polled dt slot current).state.token ≠ d.state.token))] :=
  callHook_calls _ _ _ _ _ _ _ _

theorem closing_calls (current : InFlight A) : calls (d.closing dt slot current).journal =
    [d.event.call slot .cleanup (replyTo (d.closing dt slot current).result)
      (decide ((d.closed dt slot current).state.token ≠ (d.polled dt slot current).state.token))] :=
  callHook_calls _ _ _ _ _ _ _ _

theorem Walk.driven (walk : Walk factories dt token d journal d' result)
    (fresh : d.state.token = token) :
    Driven token d.event (calls journal) d'.event d'.state.token result := by
  induction walk with
  | complete past =>
    subst fresh
    exact .complete past
  | refused here idle created =>
    subst fresh
    rw [create_calls created]
    exact .refused _ idle
  | startFailed here idle created failed =>
    rw [calls_append, create_calls created, startHook_calls, failed, fresh]
    exact .startFailed _ _ here idle
  | startedAway here idle created ready away =>
    rw [calls_append, calls_append, create_calls created, startHook_calls, ready, fresh,
      decide_eq_true away]
    exact .startedAway _ _ here idle away
  | started here idle created ready same rest ih =>
    rw [calls_append, calls_append, calls_append, create_calls created, startHook_calls, ready, fresh,
      same]
    simpa [replyTo, Replies.reply] using Driven.started _ _ here idle (ih same)
  | skipped here flying rest ih => exact .skipped here flying (ih fresh)
  | updateFailed here flying live failed =>
    rw [updateHook_calls, failed, fresh]
    exact .updateFailed _ _ _ here flying live
  | held here flying live busy =>
    rw [updateHook_calls, busy, fresh]
    exact .held _ _ here flying live
  | @cleanupFailed d slot current _ here flying live done failed =>
    rw [calls_append, updateHook_calls, closing_calls, done, failed, fresh]
    exact .cleanupFailed (d.polled dt slot current).state.token _ _ _ here flying live
  | @finishedAway d slot current here flying live done cleaned away =>
    rw [calls_append, calls_append, updateHook_calls, closing_calls, done, cleaned, fresh]
    exact .finishedAway (d.polled dt slot current).state.token _ here flying live away
  | @finished d _ slot _ current _ here flying live done cleaned same rest ih =>
    rw [calls_append, calls_append, calls_append, updateHook_calls, closing_calls, done, cleaned,
      fresh, same]
    exact .finished (d.polled dt slot current).state.token _ here flying live (ih same)

end Walks

theorem drain_driven [ActionHandler W A] (factories : Dictionary (ActionFactory A)) (dt : Seconds)
    (d : Drive W A) :
    Driven d.state.token d.event (calls (drain factories dt d).journal)
      (drain factories dt d).drive.event (drain factories dt d).drive.state.token
      (drain factories dt d).result :=
  (drain_walk factories dt d).driven rfl

end MapScript
