import ScriptBridge.Script.ConvertError

/-!
# ScriptBridge.Script.InvocationError

Why a call into native code fails.
-/

namespace ScriptBridge.Script

/-- What went wrong in a call. -/
inductive Failure where
  /-- The number of arguments differs from that of the parameters. -/
  | argumentCount (arguments parameters : Nat)
  /-- An argument cannot be converted to the type of its parameter. -/
  | parameter (index : Nat) (type : String) (cause : ConvertError)
  /-- The receiver is no instance of the class. -/
  | receiver (className : String) (cause : ConvertError)
  /-- No overload accepts arguments of these types; `constructs` names the class whose constructor was meant. -/
  | noOverload (types : List String) (constructs : Option String) (backtrace : List String)
  /-- The value is no function. -/
  | notCallable (type : String)
  deriving DecidableEq, Repr

/-- The failure of a function. -/
structure InvocationError where
  function : String
  failure : Failure
  deriving DecidableEq, Repr

namespace InvocationError

/-- What turns a word into its plural. -/
def plural (n : Nat) : String :=
  if n = 1 then "" else "s"

/-- The failure in a few words. -/
def reason (e : InvocationError) : String :=
  match e.failure with
  | .argumentCount arguments parameters =>
    "function has " ++ toString parameters ++ " parameter" ++ plural parameters ++ ", but received " ++
      toString arguments ++ " argument" ++ plural arguments
  | .parameter index type _ => "parameter #" ++ toString index ++ " (" ++ type ++ ") conversion"
  | .receiver className _ => "cannot convert 'this' to " ++ className
  | .noOverload types _ _ => "no overload accepts the arguments (" ++ ", ".intercalate types ++ ")"
  | .notCallable type => "value of type " ++ type ++ " is not a function"

/-- Advice for the author of the script. -/
def hint? (e : InvocationError) : Option String :=
  match e.failure with
  | .noOverload _ (some className) _ =>
    some ("Did you use 'var x = " ++ className ++ "();' instead of 'var x = new " ++ className ++ "();'?")
  | _ => none

/-- The calls under way, the innermost first, where they were recorded. -/
def backtrace (e : InvocationError) : List String :=
  match e.failure with
  | .noOverload _ _ backtrace => backtrace
  | _ => []

/-- The failed conversion behind the failure. -/
def source? (e : InvocationError) : Option ConvertError :=
  match e.failure with
  | .parameter _ _ cause | .receiver _ cause => some cause
  | _ => none

/-- The lines of a backtrace, numbered. -/
def backtraceLines (frames : List String) : List String :=
  frames.mapIdx (fun i frame => "    #" ++ toString i ++ " " ++ frame)

/-- The lines that describe the error; those of the failed conversion may be left out. -/
def lines (e : InvocationError) (withSource : Bool) : List String :=
  [e.function ++ "()", "    Reason: " ++ e.reason] ++
    (e.hint?.map ("    Hint: " ++ ·)).toList ++
    (if withSource then (e.source?.map (fun cause => "  Source: " ++ cause.message)).toList else []) ++
    (if e.backtrace.isEmpty then [] else "  Backtrace:" :: backtraceLines e.backtrace)

/-- The error described. -/
def describe (e : InvocationError) (withSource : Bool) : String :=
  "\n".intercalate (e.lines withSource)

/-- The words for the error. -/
def message (e : InvocationError) : String :=
  "script call failed: " ++ e.describe true

end InvocationError

/-- What a call comes to. -/
abbrev CallResult := Except InvocationError Value

end ScriptBridge.Script
