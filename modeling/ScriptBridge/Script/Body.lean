import ScriptBridge.Script.Bound
import ScriptBridge.Script.InvocationError

/-!
# ScriptBridge.Script.Body

Native functions, as seen by an engine: what a function does with its call is a tree of steps.

A step reads the store, replaces it, or calls back into the engine and goes on with the result.  Nothing else of the
engine is within reach of a native function, neither its call stack nor its reports.
-/

namespace ScriptBridge.Script

open ScriptBridge.Native

/-! ## §1. Calls. -/

/-- What a native function gets to know about its call. -/
structure CallContext where
  receiver : Value
  arguments : List Value
  /-- The calls under way when this one started, this one first. -/
  backtrace : List String
  /-- Whether the call constructs an object. -/
  constructs : Bool
  deriving DecidableEq

/-- A call that is to be made. -/
structure Invocation where
  /-- What the call is named in backtraces. -/
  label : String
  function : Value
  receiver : Value
  arguments : List Value
  constructs : Bool
  deriving DecidableEq

namespace CallContext

/-- The argument at a position; there is nothing beyond the last one. -/
def argument (c : CallContext) (index : Nat) : Value :=
  c.arguments[index]?.getD .undefined

end CallContext

/-! ## §2. Bodies. -/

/-- What a native function does. -/
inductive Body (α : Type) where
  | done (result : α)
  /-- Looks at the store. -/
  | read (next : Store → Body α)
  /-- Replaces the store. -/
  | write (store : Store) (next : Body α)
  /-- Calls a function. -/
  | invoke (call : Invocation) (next : CallResult → Body α)

namespace Body

/-- One body after the other. -/
protected def bind {α β : Type} : Body α → (α → Body β) → Body β
  | done a, f => f a
  | read next, f => read (fun s => (next s).bind f)
  | write s next, f => write s (next.bind f)
  | invoke call next, f => invoke call (fun r => (next r).bind f)

instance : Monad Body where
  pure := done
  bind := Body.bind

theorem bind_done {α : Type} (b : Body α) : b.bind done = b := by
  induction b with
  | done a => rfl
  | read next ih => simp only [Body.bind, ih]
  | write s next ih => simp only [Body.bind, ih]
  | invoke call next ih => simp only [Body.bind, ih]

theorem bind_assoc {α β γ : Type} (b : Body α) (f : α → Body β) (g : β → Body γ) :
    (b.bind f).bind g = b.bind (fun a => (f a).bind g) := by
  induction b with
  | done a => rfl
  | read next ih => simp only [Body.bind, ih]
  | write s next ih => simp only [Body.bind, ih]
  | invoke call next ih => simp only [Body.bind, ih]

instance : LawfulMonad Body :=
  LawfulMonad.mk' Body (fun b => bind_done b) (fun _ _ => rfl) (fun b f g => bind_assoc b f g)

/-- A computation on the store. -/
def ofStore {α : Type} (action : StoreM α) : Body α :=
  read (fun s => let (a, next) := action s; write next (done a))

instance : MonadLift StoreM Body where
  monadLift := ofStore

/-- The name under which a function value shows in backtraces. -/
def labelOf (s : Store) (function : Value) : String :=
  match s.propertyOf function "name" with
  | .string name => name
  | _ => "<anonymous>"

/-- Calls a function on a receiver. -/
def call (function receiver : Value) (arguments : List Value) : Body CallResult :=
  read (fun s => invoke ⟨labelOf s function, function, receiver, arguments, false⟩ done)

/-- Calls a constructor: the receiver is a new object with the constructor's prototype. -/
def construct (constructor : Value) (arguments : List Value) : Body CallResult :=
  read (fun s =>
    let (id, allocated) := s.alloc (.ofKind .plain)
    let prepared := match s.propertyOf constructor "prototype" with
      | .object prototype => allocated.setPrototype id (some prototype)
      | _ => allocated
    write prepared
      (invoke ⟨"new " ++ labelOf s constructor, constructor, .object id, arguments, true⟩ done))

/-- Calls the method of a receiver. -/
def invokeMethod (receiver : Value) (name : String) (arguments : List Value) : Body CallResult :=
  read (fun s => invoke ⟨name, s.propertyOf receiver name, receiver, arguments, false⟩ done)

/-- Calls a function; a failed call gives nothing. -/
def callOrUndefined (function receiver : Value) (arguments : List Value) : Body Value := do
  match ← call function receiver arguments with
  | .ok value => return value
  | .error _ => return .undefined

end Body

/-- A native function. -/
abbrev NativeFunction := CallContext → Body CallResult

/-- A body that may fail. -/
abbrev Action := ExceptT InvocationError Body

namespace Action

/-- An action as the body of a function. -/
def toBody (a : Action Value) : Body CallResult :=
  a.run

/-- Does something with the store. -/
def useStore {α : Type} (action : StoreM α) : Action α :=
  ExceptT.lift (Body.ofStore action)

/-- Calls back into the engine. -/
def calling (b : Body CallResult) : Action Value :=
  ExceptT.mk b

/-- Fails with an error of the named function. -/
def fail {α : Type} (function : String) (failure : Failure) : Action α :=
  throw ⟨function, failure⟩

end Action

/-! ## §3. Reading the call. -/

namespace CallContext

/-- Fails unless the number of arguments is that of the parameters. -/
def checkCount (c : CallContext) (function : String) (parameters : Nat) : Except InvocationError Unit :=
  if c.arguments.length = parameters then .ok ()
  else .error ⟨function, .argumentCount c.arguments.length parameters⟩

/-- The instance that a receiver stands for. -/
def receiverFrom (s : Store) {α : Type} [Marshal α] (className function : String) (v : Value) :
    Except InvocationError α :=
  (Marshal.ofScript s v).mapError (fun e => ⟨function, .receiver className e⟩)

/-- The receiver of the call as an instance of a class. -/
def receiverAs (c : CallContext) (s : Store) (owner : ClassName) (function : String) :
    Except InvocationError owner.Instance :=
  let _ := (Layout.ofClass owner).marshal
  receiverFrom s owner.name function c.receiver

/-- The first argument as an instance of a class, or the receiver if there are no arguments. -/
def firstOrReceiverAs (c : CallContext) (s : Store) (owner : ClassName) (function : String) :
    Except InvocationError owner.Instance :=
  let _ := (Layout.ofClass owner).marshal
  receiverFrom s owner.name function (c.arguments.head?.getD c.receiver)

/-- An argument as a value of a native type. -/
def argumentAs (c : CallContext) (s : Store) (τ : ValueType) (function : String) (index : Nat) :
    Except InvocationError τ.Data :=
  (Marshal.ofScript s (c.argument index)).mapError
    (fun e => ⟨function, .parameter index τ.qualified.text e⟩)

/-- Writes a changed instance back to the receiver, if that is a mutable handle. -/
def writeBack (c : CallContext) (owner : ClassName) (a : owner.Instance) : StoreM Unit := do
  match c.receiver with
  | .object id =>
    if (((← get).object? id).map (·.isMutable)).getD false then (Layout.ofClass owner).write a id
  | _ => return ()

end CallContext

end ScriptBridge.Script
