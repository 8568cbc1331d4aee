import MapScript.Argument

set_option autoImplicit false

namespace MapScript

open Text

/-- After a failure the frame ends with the error, or only the failing event is dropped. -/
inductive FailurePolicy where
  | abort
  | dropEvent
  deriving DecidableEq, Repr

namespace FailurePolicy

def word : FailurePolicy → String
  | .abort => "abort"
  | .dropEvent => "drop_event"

def ofWord? (s : String) : Option FailurePolicy :=
  if s = "abort" then some .abort else if s = "drop_event" then some .dropEvent else none

end FailurePolicy

instance : Readable FailurePolicy := ⟨"FailurePolicy", FailurePolicy.ofWord?⟩

structure Settings where
  debugConditions : Bool
  failurePolicy : FailurePolicy
  deriving DecidableEq, Repr

namespace Settings

def default : Settings := ⟨false, .abort⟩

instance : Inhabited Settings := ⟨default⟩

def readFlag (raw : String) : Option Bool :=
  let word := String.ofList ((trim raw.toList).map Char.toLower)
  if ["", "1", "true", "yes", "on"].contains word then some true
  else if ["0", "false", "no", "off"].contains word then some false
  else none

def ofEnvironment (lookup : String → Option String) : Settings :=
  ⟨((lookup "EVENT_DEBUG_CONDITIONS").bind readFlag).getD default.debugConditions,
    ((lookup "EVENT_FAILURE_POLICY").bind FailurePolicy.ofWord?).getD default.failurePolicy⟩

end Settings

end MapScript
