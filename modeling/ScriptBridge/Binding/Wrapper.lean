import ScriptBridge.Binding.Callables
import ScriptBridge.Token.Compose

/-!
# ScriptBridge.Binding.Wrapper

The wrapper of a callable: the function that scripts reach, which converts receiver and arguments, calls the native
function and converts its result.

A wrapper of an instance method reads its receiver from the handle it was called on and, unless the method is
constant, writes the changed receiver back.  A method that describes its receiver may also find it in the first
argument, and does not insist on a number of arguments.
-/

namespace ScriptBridge.Binding

open ScriptBridge.Symbol ScriptBridge.Declared ScriptBridge.Token

/-! ## §1. What a wrapper consists of. -/

/-- How a wrapper gets its receiver. -/
structure Receiver where
  /-- The receiver may also be the first argument. -/
  describes : Bool
  /-- The method leaves the receiver as it is. -/
  isConst : Bool
  deriving Repr, DecidableEq

/-- One argument of a wrapper. -/
structure Argument where
  type : List Token
  passing : Passing
  deriving Repr

/-- What a wrapper answers. -/
inductive Outcome where
  /-- The new native value as a handle. -/
  | constructed
  /-- Nothing. -/
  | nothing
  /-- The result of the native function, converted. -/
  | converted
  deriving Repr, DecidableEq

/-- A function around one native function. -/
structure Wrapper where
  name : Identifier
  /-- The name under which the wrapper reports errors. -/
  label : String
  receiver : Option Receiver
  arguments : List Argument
  target : Identifier
  outcome : Outcome
  deriving Repr

namespace Wrapper

/-- How a callable gets its receiver; constructors and static functions have none. -/
def receiverOf (c : Callable) : Option Receiver :=
  if c.isConstructor || c.declaration.isStatic then none
  else some ⟨c.declaration.isToString, c.declaration.isConst⟩

/-- What a callable answers. -/
def outcomeOf (c : Callable) : Outcome :=
  if c.isConstructor then .constructed
  else if c.declaration.returnsVoid then .nothing
  else .converted

/-- The argument for a parameter. -/
def argumentOf (p : Parameter) : Except IdentifierError Argument := do
  return ⟨← typeTokens p.target, p.passing⟩

/-- The wrapper of a callable. -/
def ofCallable (c : Callable) : Except IdentifierError Wrapper := do
  let name ← Identifier.ofText c.wrapper
  let arguments ← c.declaration.parameters.mapM argumentOf
  let target ← Identifier.escaped (nativeTarget c.declaration c.isConstructor)
  return ⟨name, c.wrapper, receiverOf c, arguments, target, outcomeOf c⟩

/-! ## §2. Its code. -/

/-- The parameters of every function that scripts call: the call and the engine. -/
def callParameters : List (List Token) :=
  [typed (expr "ctx") (borrowMut (expr "CallContext")), typed (expr "engine") (borrowMut (expr "ScriptEngine"))]

/-- The name of an argument. -/
def argumentName (index : Nat) : Token :=
  fixed ("arg" ++ toString index)

/-- The conversion of a receiver or an argument, with its type written out. -/
def conversion (method : String) (type : List Token) (arguments : List (List Token)) : List Token :=
  orFail (call (withType (member (expr "ctx") (fixed method)) type) (expr "FN" :: arguments))

/-- A local name, which may be writable. -/
def localName (writable : Bool) (name : Token) : List Token :=
  if writable then [fixed "mut", name] else [name]

/-- Checks the number of arguments. -/
def countCheck (w : Wrapper) : List Token :=
  match w.receiver with
  | some r =>
    if r.describes then []
    else statement (orFail (send (expr "ctx") "check_arg_count" [expr "FN", [number w.arguments.length]]))
  | none => []

/-- Reads the receiver. -/
def receiverTokens (owner : List Token) (w : Wrapper) : List Token :=
  match w.receiver with
  | some r =>
    let method := if r.describes then "this_or_first_argument_as" else "this_as"
    bind (typed (localName (!r.isConst) (fixed "this")) owner) (conversion method owner [])
  | none => []

/-- Reads one argument. -/
def argumentTokens (index : Nat) (a : Argument) : List Token :=
  bind (typed (localName (a.passing == .exclusive) (argumentName index)) a.type)
    (conversion "argument_as" a.type [[number index]])

/-- Hands one argument to the native function. -/
def passedTokens (index : Nat) (a : Argument) : List Token :=
  match a.passing with
  | .value => [argumentName index]
  | .shared => borrow [argumentName index]
  | .exclusive => borrowMut [argumentName index]

/-- The call of the native function. -/
def nativeCall (owner : List Token) (w : Wrapper) : List Token :=
  let function :=
    if w.receiver.isSome then member (expr "this") (.word w.target)
    else angled owner ++ scope ++ [.word w.target]
  call function (w.arguments.mapIdx passedTokens)

/-- Calls the native function and keeps what is needed of its result. -/
def invocation (owner : List Token) (w : Wrapper) : List Token :=
  match w.outcome with
  | .constructed => bind (typed (expr "ret") owner) (w.nativeCall owner)
  | .nothing => statement (w.nativeCall owner)
  | .converted => bind (expr "ret") (send (w.nativeCall owner) "to_script" [expr "engine"])

/-- Writes a changed receiver back to the handle. -/
def writeBack (owner : List Token) (w : Wrapper) : List Token :=
  match w.receiver with
  | some r =>
    if r.isConst then []
    else statement (call (withType (member (expr "ctx") (fixed "write_back")) owner)
      [expr "engine", borrow (expr "this")])
  | none => []

/-- The answer. -/
def answer (owner : List Token) (w : Wrapper) : List Token :=
  match w.outcome with
  | .constructed =>
    call (expr "Ok") [call (asInterface owner "ScriptClass" ++ scope ++ [fixed "to_script_value"])
      [expr "engine", borrow (expr "ret")]]
  | .nothing => call (expr "Ok") [fixedPath ["ScriptValue", "Undefined"]]
  | .converted => call (expr "Ok") [expr "ret"]

/-- The code of the wrapper in the file of the class `owner`. -/
def tokens (owner : List Token) (w : Wrapper) : List Token :=
  function (.word w.name) callParameters (returning (expr "CallResult"))
    (constant "FN" (borrow (expr "str")) [text w.label] ++ w.countCheck ++ w.receiverTokens owner ++
      (w.arguments.mapIdx argumentTokens).flatten ++ w.invocation owner ++ w.writeBack owner ++ w.answer owner)

end Wrapper

end ScriptBridge.Binding
