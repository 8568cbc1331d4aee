import MapScript.Engine.Journal
import MapScript.Engine.Memory

set_option autoImplicit false

namespace MapScript

inductive CancelRequest where
  | event (id : EventId)
  | all
  deriving DecidableEq, Repr

structure ScopeState where
  scope : Option Scope
  token : ScopeToken
  memory : Memory
  requests : List CancelRequest

inductive Effect where
  | say (record : Record)
  | reset
  | load (scope : Scope)
  | cancelEvent (id : EventId)
  | cancelAll
  | remember (memory : Memory)

namespace ScopeState

def initial : ScopeState := ⟨none, ⟨0⟩, Memory.empty, []⟩

instance : Inhabited ScopeState := ⟨initial⟩

def reset (s : ScopeState) : ScopeState × Journal :=
  (⟨none, s.token.next, Memory.empty, []⟩, [.scopeReset (s.scope.map Scope.name) s.token.next])

def load (s : ScopeState) (scope : Scope) : ScopeState × Journal :=
  let (fresh, notices) := s.reset
  ({ fresh with scope := some scope },
    notices ++ [.scopeLoaded scope.name scope.inits.length scope.events.length fresh.token])

def apply (s : ScopeState) : Effect → ScopeState × Journal
  | .say record => (s, [.said record])
  | .reset => s.reset
  | .load scope => s.load scope
  | .cancelEvent id => ({ s with requests := s.requests ++ [.event id] }, [.cancelRequested id])
  | .cancelAll => ({ s with requests := s.requests ++ [.all] }, [.cancelAllRequested])
  | .remember memory => ({ s with memory }, [])

def applyAll (s : ScopeState) : List Effect → ScopeState × Journal
  | [] => (s, [])
  | effect :: rest =>
    let (next, notices) := s.apply effect
    let (last, later) := applyAll next rest
    (last, notices ++ later)

end ScopeState

end MapScript
