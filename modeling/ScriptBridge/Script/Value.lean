import ScriptBridge.Numeric.Shortest

/-!
# ScriptBridge.Script.Value

The values of the script language.

Everything but an object is its own content.  An object value only names its object; what the object holds is in the
store, so values that name one object all see its changes.
-/

namespace ScriptBridge.Script

open ScriptBridge.Numeric

/-- The identity of an object: its number in the store. -/
structure ObjectId where
  index : Nat
  deriving DecidableEq, Repr

/-- A script value. -/
inductive Value where
  | undefined
  | bool (value : Bool)
  | number (value : Double)
  | string (value : String)
  | object (id : ObjectId)
  deriving DecidableEq, Inhabited

namespace Value

/-- The truth value, if it is one. -/
def asBool? : Value → Option Bool
  | bool b => some b
  | _ => none

/-- The number, if it is one. -/
def asNumber? : Value → Option Double
  | number n => some n
  | _ => none

/-- The text, if it is one. -/
def asString? : Value → Option String
  | string s => some s
  | _ => none

/-- The object, if it is one. -/
def asObject? : Value → Option ObjectId
  | object id => some id
  | _ => none

/-- Whether there is no value. -/
def isUndefined : Value → Bool
  | undefined => true
  | _ => false

/-- Equality as scripts see it: objects by identity, all else by content, numbers numerically. -/
def equal : Value → Value → Bool
  | undefined, undefined => true
  | bool a, bool b => a == b
  | number a, number b => a.equal b
  | string a, string b => a == b
  | object a, object b => a == b
  | _, _ => false

/-- A count as a script number. -/
def count (n : Nat) : Value :=
  number (.ofInt .double n)

end Value

end ScriptBridge.Script
