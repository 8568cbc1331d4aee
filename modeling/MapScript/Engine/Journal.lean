import MapScript.Engine.Failure
import MapScript.Settings

set_option autoImplicit false

namespace MapScript

open Number Text

inductive Level where
  | error
  | warn
  | info
  | debug
  | trace
  deriving DecidableEq, Repr

namespace Level

def word : Level → String
  | .error => "ERROR"
  | .warn => "WARN"
  | .info => "INFO"
  | .debug => "DEBUG"
  | .trace => "TRACE"

def rank : Level → Nat
  | .error => 0
  | .warn => 1
  | .info => 2
  | .debug => 3
  | .trace => 4

def reaches (level least : Level) : Bool :=
  level.rank ≤ least.rank

end Level

structure Record where
  level : Level
  target : String
  message : String
  fields : List (String × String)
  deriving DecidableEq, Repr

def Record.render (r : Record) : String :=
  r.level.word ++ " " ++ r.target ++ ": " ++ r.message ++
    String.join (r.fields.map fun (name, value) => " " ++ name ++ "=" ++ value)

inductive Hook where
  | start
  | update
  | cleanup
  | cancel
  deriving DecidableEq, Repr

inductive Reply where
  | finished
  | running
  | failed
  deriving DecidableEq, Repr

/-- One call of a hook. The owner is the running event, if any; `moved` says that the scope token
after the call is not the one before it. -/
structure Call where
  owner : Option EventId
  slot : Nat
  kind : String
  hook : Hook
  reply : Reply
  moved : Bool
  deriving DecidableEq, Repr

inductive Notice where
  | said (record : Record)
  | actionCreated (owner : Option EventId) (slot : Nat) (kind : String)
  | called (call : Call)
  | actionRegistered (name : String)
  | conditionRegistered (name : String)
  | actionMissing (name : String)
  | conditionMissing (name : String)
  | argumentsRefused (name : String) (parameters : List String) (cause : ArgumentError)
  | scopeReset (previous : Option String) (token : ScopeToken)
  | scopeLoaded (name : String) (inits events : Nat) (token : ScopeToken)
  | cancelRequested (id : EventId)
  | cancelAllRequested
  | conditionTested (id : EventId) (condition : Condition) (result : Bool)
  | conditionFailed (id : EventId) (condition : Condition) (cause : EngineError)
  | eventStarted (id : EventId) (name : String) (actions : Nat)
  | initRetired (id : EventId)
  | cancelledRemoved (id : EventId)
  | scopeAbandoned (id : EventId)
  | frameAborted (id : EventId) (cause : EngineError)
  | eventDropped (id : EventId) (cause : EngineError)
  | cancelIgnored (id : EventId)
  | eventCancelled (id : EventId) (name : String) (cursor : Nat)
  | actionCancelled (id : EventId) (kind : Option String)
  | actionStarted (id : EventId) (action : Action)
  | actionSkipped (id : EventId) (action : Action)
  | actionFinished (id : EventId) (action : Action)
  | eventFinished (id : EventId)
  | oneShotAbandoned (name : String)
  | oneShotFailed (name : String) (cause : EngineError)
  deriving DecidableEq, Repr

abbrev Journal := List Notice

namespace Notice

def number (n : Nat) : String :=
  String.ofList (writeInteger n)

def registryRecord (level : Level) (message : String) (fields : List (String × String)) : Record :=
  ⟨level, "events::registry", message, fields⟩

def scopeRecord (message : String) (fields : List (String × String)) : Record :=
  ⟨.info, "events::scope", message, fields⟩

def engineRecord (level : Level) (message : String) (fields : List (String × String)) : Record :=
  ⟨level, "events::engine", message, fields⟩

def eventRecord (level : Level) (message : String) (fields : List (String × String)) : Record :=
  ⟨level, "events::running", message, fields⟩

def record? : Notice → Option Record
  | .said record => some record
  | .actionCreated _ _ _ => none
  | .called _ => none
  | .actionRegistered name =>
    some (registryRecord .trace "registered action" [("action", name)])
  | .conditionRegistered name =>
    some (registryRecord .trace "registered condition" [("condition", name)])
  | .actionMissing name =>
    some (registryRecord .warn "action is not registered" [("action", name)])
  | .conditionMissing name =>
    some (registryRecord .warn "condition is not registered" [("condition", name)])
  | .argumentsRefused name parameters cause =>
    some (registryRecord .warn "malformed action parameters"
      [("action", name), ("parameters", quotedList parameters), ("error", cause.message)])
  | .scopeReset previous token =>
    some (scopeRecord "scope reset"
      ((previous.map fun name => ("scope", name)).toList ++
        [("token", number token.number.toNat)]))
  | .scopeLoaded name inits events token =>
    some (scopeRecord "scope loaded"
      [("scope", name), ("inits", number inits), ("events", number events),
        ("token", number token.number.toNat)])
  | .cancelRequested id => some (scopeRecord "cancellation requested" [("event", id.render)])
  | .cancelAllRequested => some (scopeRecord "cancellation of all events requested" [])
  | .conditionTested id condition result =>
    some (engineRecord .trace "condition evaluated"
      [("event", id.render), ("condition", condition.render),
        ("result", if result then "true" else "false")])
  | .conditionFailed id condition cause =>
    some (engineRecord .error "condition failed, treating as unsatisfied"
      [("event", id.render), ("condition", condition.render), ("error", cause.message)])
  | .eventStarted id name actions =>
    some (engineRecord .debug "starting event"
      [("event", id.render), ("name", name), ("actions", number actions)])
  | .initRetired id => some (engineRecord .debug "init event retired" [("event", id.render)])
  | .cancelledRemoved id =>
    some (engineRecord .debug "removing cancelled event" [("event", id.render)])
  | .scopeAbandoned id =>
    some (engineRecord .debug "scope changed during drain, abandoning stale events"
      [("event", id.render)])
  | .frameAborted id cause =>
    some (engineRecord .error "event failed, aborting tick"
      [("event", id.render), ("error", cause.message), ("policy", FailurePolicy.abort.word)])
  | .eventDropped id cause =>
    some (engineRecord .error "event failed, dropping it"
      [("event", id.render), ("error", cause.message), ("policy", FailurePolicy.dropEvent.word)])
  | .cancelIgnored id =>
    some (engineRecord .debug "cancel ignored, event not running" [("event", id.render)])
  | .eventCancelled id name cursor =>
    some (eventRecord .info "event cancelled"
      [("event", id.render), ("name", name), ("cursor", number cursor)])
  | .actionCancelled id kind =>
    some (eventRecord .info "action cancelled"
      (("event", id.render) :: (kind.map fun kind => ("action", kind)).toList))
  | .actionStarted id action =>
    some (eventRecord .debug "action started" [("event", id.render), ("action", action.render)])
  | .actionSkipped id action =>
    some (eventRecord .debug "action is cancelled, advancing to the next one"
      [("event", id.render), ("action", action.render)])
  | .actionFinished id action =>
    some (eventRecord .debug "action finished" [("event", id.render), ("action", action.render)])
  | .eventFinished id => some (eventRecord .debug "event actions finished" [("event", id.render)])
  | .oneShotAbandoned name =>
    some (engineRecord .debug "scope changed, action cancelled" [("action", name)])
  | .oneShotFailed name cause =>
    some (engineRecord .error "error executing action"
      [("action", name), ("error", cause.message)])

end Notice

end MapScript
