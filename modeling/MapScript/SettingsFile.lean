import MapScript.Settings
import MapScript.Toml.Document

set_option autoImplicit false

namespace MapScript.SettingsFile

open Toml

def flagOf : Item → Option Bool
  | .bool b => some b
  | _ => none

def variantOf : Item → Option String
  | .text s => some s
  | .table _ [(name, .table _ [])] => some name
  | .table _ [(name, .array [])] => some name
  | _ => none

def fieldOr {A : Type} (entries : Entries) (name : String) (decode : Item → Option A)
    (default : A) : Option A :=
  match entries.lookup name with
  | none => some default
  | some item => decode item

def ofEntries (entries : Entries) : Option Settings := do
  let debug ← fieldOr entries "debug_conditions" flagOf Settings.default.debugConditions
  let policy ← fieldOr entries "failure_policy"
    (fun item => (variantOf item).bind FailurePolicy.ofWord?) Settings.default.failurePolicy
  return ⟨debug, policy⟩

def parse (text : String) : Option Settings :=
  (readDocument text).bind ofEntries

def unreadable : String := "Failed to parse config TOML"

end MapScript.SettingsFile
