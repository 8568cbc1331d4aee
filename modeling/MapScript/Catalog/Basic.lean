import MapScript.Catalog.Actions
import MapScript.Catalog.Conditions
import MapScript.Engine.Basic

set_option autoImplicit false

namespace MapScript.Catalog

variable {W A : Type} [VariableStore W]

def registerActions (embed : Builtin → A) (engine : Engine W A) :
    List (String × ActionFactory Builtin) → Engine W A × Journal
  | [] => (engine, [])
  | (name, factory) :: rest =>
    let (next, notices) := engine.registerAction name fun arguments =>
      (factory arguments).map embed
    let (last, later) := registerActions embed next rest
    (last, notices ++ later)

def registerConditions (engine : Engine W A) :
    List (String × ConditionTest W) → Engine W A × Journal
  | [] => (engine, [])
  | (name, test) :: rest =>
    let (next, notices) := engine.registerCondition name test
    let (last, later) := registerConditions next rest
    (last, notices ++ later)

def engine (embed : Builtin → A) (settings : Settings) : Engine W A × Journal :=
  let bare : Engine W A := .new Dictionary.empty Dictionary.empty settings
  let (acting, notices) := registerActions embed bare Builtin.factories
  let (testing, later) := registerConditions acting Conditions.tests
  (testing, notices ++ later)

end MapScript.Catalog
