import ScriptBridge.Script.Store

/-!
# ScriptBridge.Script.ConvertError

Why a script value cannot be converted to a native one.

A failure deep inside an object is wrapped once per property on the way to it, so the path to the culprit can be read
off.
-/

namespace ScriptBridge.Script

/-- Why a script value is not converted. -/
inductive ConvertError where
  /-- The value has another dynamic type than expected; `value` shows it. -/
  | wrongType (expected actual value : String)
  /-- The value of a property is not converted. -/
  | inProperty (name : String) (cause : ConvertError)
  /-- In somebody's own words, or without any. -/
  | custom (message : Option String)
  deriving DecidableEq, Repr

namespace ConvertError

/-- The error for a value of the wrong type. -/
def ofValue (s : Store) (expected : String) (v : Value) : ConvertError :=
  wrongType expected (s.typeName v) (s.text v)

/-- The properties on the way to the culprit, the outermost first. -/
def path : ConvertError → List String
  | inProperty name cause => name :: cause.path
  | _ => []

/-- The words for the culprit, if it was recorded. -/
def value? : ConvertError → Option String
  | wrongType _ _ value => some value
  | _ => none

/-- The error of the property that this one is wrapped around. -/
def cause? : ConvertError → Option ConvertError
  | inProperty _ cause => some cause
  | _ => none

/-- The words for an error. -/
def message : ConvertError → String
  | wrongType expected actual value => "expected " ++ expected ++ ", got " ++ actual ++ ": " ++ value
  | inProperty name cause => "property `" ++ name ++ "`: " ++ cause.message
  | custom (some message) => message
  | custom none => "custom error"

end ConvertError

end ScriptBridge.Script
