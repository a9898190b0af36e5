import ScriptBridge.Script.Engine

/-!
# ScriptBridge.Script.Method

Native methods as scripts call them, and selectors among overloaded ones.

A method is a native operation with the types of its parameters.  Its wrapper reads the receiver and the arguments,
runs the operation, writes a changed receiver back, and converts the result.  Methods check the number of their
arguments; constructors, static functions and descriptions do not.
-/

namespace ScriptBridge.Script

open ScriptBridge.Native

/-! ## §1. Operations. -/

/-- Native arguments for parameters. -/
abbrev Arguments : List ValueType → Type
  | [] => Unit
  | τ :: rest => τ.Data × Arguments rest

/-- What a method does, in native terms. -/
inductive Operation (c : ClassName) (parameters : List ValueType) where
  /-- Makes an instance. -/
  | construct (make : Arguments parameters → c.Instance)
  /-- Computes something without a receiver. -/
  | static (result : ValueType) (compute : Arguments parameters → result.Data)
  /-- Computes something from the receiver. -/
  | inspect (result : ValueType) (compute : c.Instance → Arguments parameters → result.Data)
  /-- Puts the receiver into words; it may come as the first argument. -/
  | describe (words : c.Instance → Arguments parameters → String)
  /-- Changes the receiver. -/
  | change (next : c.Instance → Arguments parameters → c.Instance)

/-- A method of a class. -/
structure Method (c : ClassName) where
  /-- The name under which errors are reported. -/
  label : String
  parameters : List ValueType
  operation : Operation c parameters

/-! ## §2. Wrappers. -/

/-- Reads the arguments from a position on. -/
def readArguments (s : Store) (call : CallContext) (function : String) (index : Nat) :
    (parameters : List ValueType) → Except InvocationError (Arguments parameters)
  | [] => .ok ()
  | τ :: rest =>
    match call.argumentAs s τ function index with
    | .error e => .error e
    | .ok argument =>
      match readArguments s call function (index + 1) rest with
      | .error e => .error e
      | .ok arguments => .ok (argument, arguments)

namespace Method

variable {c : ClassName}

/-- What a call comes to in native terms: the instance to write back, and how to make the answer. -/
structure Effect (c : ClassName) where
  changed : Option c.Instance
  answer : StoreM Value

/-- Reads a call and runs the operation. -/
def evaluate (m : Method c) (s : Store) (call : CallContext) : Except InvocationError (Effect c) := do
  match m.operation with
  | .construct make =>
    let arguments ← readArguments s call m.label 0 m.parameters
    return ⟨none, (Layout.ofClass c).toScript (make arguments)⟩
  | .static result compute =>
    let arguments ← readArguments s call m.label 0 m.parameters
    return ⟨none, (marshalOf result).toScript (compute arguments)⟩
  | .inspect result compute =>
    call.checkCount m.label m.parameters.length
    let receiver ← call.receiverAs s c m.label
    let arguments ← readArguments s call m.label 0 m.parameters
    return ⟨none, (marshalOf result).toScript (compute receiver arguments)⟩
  | .describe words =>
    let receiver ← call.firstOrReceiverAs s c m.label
    let arguments ← readArguments s call m.label 0 m.parameters
    return ⟨none, Marshal.toScript (words receiver arguments)⟩
  | .change next =>
    call.checkCount m.label m.parameters.length
    let receiver ← call.receiverAs s c m.label
    let arguments ← readArguments s call m.label 0 m.parameters
    return ⟨some (next receiver arguments), return .undefined⟩

/-- Makes the changes that a call comes to, and the answer. -/
def Effect.commit (e : Effect c) (call : CallContext) : StoreM Value := do
  if let some a := e.changed then call.writeBack c a
  e.answer

/-- The native function that scripts reach for a method. -/
def wrapper (m : Method c) : NativeFunction := fun call =>
  .read (fun s =>
    match m.evaluate s call with
    | .error e => .done (.error e)
    | .ok effect => do
      let value ← Body.ofStore (effect.commit call)
      return .ok value)

end Method

/-! ## §3. Selectors. -/

/-- A native function with the types that tell it apart from others of its name. -/
structure Overload where
  parameters : List NativeType
  function : NativeFunction

namespace Overload

/-- Whether arguments have the number and the types of the parameters. -/
def accepts (o : Overload) (s : Store) (arguments : List Value) : Bool :=
  arguments.length == o.parameters.length &&
    (o.parameters.zip arguments).all (fun (τ, v) => Convert.accepts τ s v)

/-- A method among others of its name. -/
def ofMethod {c : ClassName} (m : Method c) : Overload :=
  ⟨m.parameters.map .value, m.wrapper⟩

end Overload

/-- What stands in front of overloaded functions. -/
structure Selector where
  /-- The name under which errors are reported. -/
  label : String
  /-- For constructors, the class they construct. -/
  constructs : Option String
  overloads : List Overload

namespace Selector

/-- The first function that accepts the arguments. -/
def select? (sel : Selector) (s : Store) (arguments : List Value) : Option Overload :=
  sel.overloads.find? (·.accepts s arguments)

/-- The native function that runs the selected one. -/
def dispatch (sel : Selector) : NativeFunction := fun call =>
  .read (fun s =>
    match sel.select? s call.arguments with
    | some o => o.function call
    | none => .done (.error ⟨sel.label, .noOverload (call.arguments.map s.typeName) sel.constructs call.backtrace⟩))

end Selector

end ScriptBridge.Script
