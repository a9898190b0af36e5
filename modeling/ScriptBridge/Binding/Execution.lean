import ScriptBridge.Binding.ClassFile
import ScriptBridge.Script.Body

/-!
# ScriptBridge.Binding.Execution

What a wrapper does when scripts call it.

The code of a wrapper is a series of statements over three local variables: the receiver, the arguments and the
result.  `Wrapper.statements` lists them, `Statement.tokens` is the code of each, and `Statement.run` says what it does
to the local variables and to the objects of scripts.  Of native code only the interface is known: the fields of the
class, the conversions of their types, and the native function with the types of its parameters.
-/

namespace ScriptBridge.Binding

open ScriptBridge.Native ScriptBridge.Declared ScriptBridge.Token
open ScriptBridge.Script (Value Object ObjectId Store StoreM Layout ConvertError InvocationError CallContext CallResult)

/-! ## §1. Native code. -/

/-- How the values of a native type cross the script boundary. -/
structure Crossing (α : Type) where
  /-- The script value for a native one. -/
  toScript : α → StoreM Value
  /-- The same, but nothing in it can be changed by scripts. -/
  toConst : α → StoreM Value
  /-- The native value for a script value. -/
  ofScript : Value → StoreM (Except ConvertError α)

/-- A field of a native class. -/
structure NativeField (α : Type) where
  Data : Type
  crossing : Crossing Data
  get : α → Data
  set : α → Data → α

/-- A native class whose values are of type `α`. -/
structure NativeClass (α : Type) where
  /-- The value that reading starts from. -/
  fresh : α
  /-- The field of a name. -/
  field : Identifier → NativeField α
  /-- Attaches a value to an object, out of sight of scripts. -/
  attach : α → Object → Object
  /-- The value that is attached to an object. -/
  attached? : Object → Option α

/-- The native function that a wrapper calls.  A function without a receiver leaves alone what it is given for one. -/
structure NativeItem (α : Type) where
  /-- The values that arguments can have, whatever their parameter. -/
  Argument : Type
  Result : Type
  /-- The type of a parameter, in messages. -/
  typeName : Nat → String
  /-- Converts the argument for a parameter. -/
  ofScript : Nat → Value → StoreM (Except ConvertError Argument)
  /-- Runs on a receiver, which may be changed, and on arguments. -/
  run : α → List Argument → StoreM (α × Result)
  /-- Converts the result. -/
  toScript : Result → StoreM Value

/-! ## §2. Reading and writing values. -/

section

variable {α : Type}

namespace Field

/-- The value of a property that cannot be changed: a snapshot, unless the field is plain. -/
def convertConst (f : Field) (n : NativeClass α) (a : α) : StoreM Value :=
  let native := n.field f.name
  if f.type.isPlain then native.crossing.toScript (native.get a) else native.crossing.toConst (native.get a)

/-- Puts the field onto a handle as a property that cannot be changed. -/
def writeConst (f : Field) (n : NativeClass α) (a : α) (handle : ObjectId) : StoreM Unit := do
  let value ← f.convertConst n a
  modify (·.define handle f.label value .fixed)

/-- Puts the field onto a mutable handle. -/
def write (f : Field) (n : NativeClass α) (a : α) (handle : ObjectId) : StoreM Unit :=
  if f.isConst then f.writeConst n a handle
  else do
    let native := n.field f.name
    let value ← native.crossing.toScript (native.get a)
    modify (·.define handle f.label value .kept)

/-- Reads the field off a handle. -/
def read (f : Field) (n : NativeClass α) (handle : ObjectId) (a : α) : StoreM (Except ConvertError α) := do
  let native := n.field f.name
  let result ← native.crossing.ofScript ((← get).property handle f.label)
  return (result.map (native.set a)).mapError (.inProperty f.label)

/-- Reads fields one after the other, up to the first that cannot be read. -/
def readAll (n : NativeClass α) (handle : ObjectId) : List Field → α → StoreM (Except ConvertError α)
  | [], a => return .ok a
  | f :: rest, a => do
    match ← f.read n handle a with
    | .error e => return .error e
    | .ok next => readAll n handle rest next

end Field

namespace ClassFile

/-- Attaches a value to a handle, if the class is marshalled whole. -/
def carry (f : ClassFile) (n : NativeClass α) (a : α) (handle : ObjectId) : StoreM Unit :=
  if f.marshalling.whole then modify (·.update handle (n.attach a)) else return ()

/-- Writes a value onto an existing handle. -/
def write (f : ClassFile) (n : NativeClass α) (a : α) (handle : ObjectId) : StoreM Unit := do
  f.marshalling.fields.forM (fun field => field.1.write n a handle)
  f.carry n a handle

/-- Reads a value into a native one. -/
def read (f : ClassFile) (n : NativeClass α) (v : Value) (a : α) : StoreM (Except ConvertError α) := do
  let s ← get
  match v with
  | .object handle =>
    let start := if f.marshalling.whole then ((s.object? handle).bind n.attached?).getD a else a
    Field.readAll n handle (f.marshalling.fields.map (·.1)) start
  | other => return .error (.ofValue s f.label other)

/-- The conversions of the class itself; `type` is what the engine knows it as. -/
def crossing (f : ClassFile) (n : NativeClass α) (type : NativeType) : Crossing α where
  toScript a := do
    let handle ← Layout.newHandle type .mutable
    f.write n a handle
    return .object handle
  toConst a := do
    let handle ← Layout.newHandle type .snapshot
    f.marshalling.fields.forM (fun field => field.1.writeConst n a handle)
    f.carry n a handle
    return .object handle
  ofScript v := f.read n v n.fresh

/-- Writes a value back to the receiver of a call, if that is a mutable handle. -/
def writeBack (f : ClassFile) (n : NativeClass α) (call : CallContext) (a : α) : StoreM Unit := do
  match call.receiver with
  | .object id => if (((← get).object? id).map (·.isMutable)).getD false then f.write n a id
  | _ => return ()

end ClassFile

end

/-! ## §3. Statements. -/

/-- A statement of a wrapper. -/
inductive Statement where
  /-- Fails unless the call has this number of arguments. -/
  | checkCount (parameters : Nat)
  /-- Reads the receiver. -/
  | receive (receiver : Receiver)
  /-- Reads the argument for a parameter. -/
  | argument (index : Nat) (a : Argument)
  /-- Calls the native function and converts the result. -/
  | invoke
  /-- Writes the receiver back. -/
  | writeBack
  deriving Repr

/-- The statements of a wrapper. -/
def Wrapper.statements (w : Wrapper) : List Statement :=
  let before := match w.receiver with
    | some r => (if r.describes then [] else [.checkCount w.arguments.length]) ++ [.receive r]
    | none => []
  let after := match w.receiver with
    | some r => if r.isConst then [] else [.writeBack]
    | none => []
  before ++ w.arguments.mapIdx .argument ++ [.invoke] ++ after

/-- The code of a statement of a wrapper in the file of the class `owner`. -/
def Statement.tokens (owner : List Token) (w : Wrapper) : Statement → List Token
  | checkCount parameters =>
    statement (orFail (send (expr "ctx") "check_arg_count" [expr "FN", [number parameters]]))
  | receive r =>
    bind (typed (Wrapper.localName (!r.isConst) (fixed "this")) owner)
      (Wrapper.conversion (if r.describes then "this_or_first_argument_as" else "this_as") owner [])
  | argument index a => Wrapper.argumentTokens index a
  | invoke => w.invocation owner
  | writeBack =>
    statement (call (withType (member (expr "ctx") (fixed "write_back")) owner) [expr "engine", borrow (expr "this")])

/-! ## §4. Running. -/

/-- The local variables of a wrapper. -/
structure Locals {α : Type} (m : NativeItem α) where
  this : α
  arguments : List m.Argument
  ret : Value

/-- Computations that use a store and may fail. -/
abbrev Attempt := ExceptT InvocationError StoreM

namespace Attempt

/-- Fails with the error of a conversion, put into words for the call. -/
def converting {α : Type} (describe : ConvertError → InvocationError) (conversion : StoreM (Except ConvertError α)) :
    Attempt α :=
  ExceptT.mk (do return (← conversion).mapError describe)

end Attempt

/-- The value that the receiver of a call is read from. -/
def Receiver.source (r : Receiver) (call : CallContext) : Value :=
  if r.describes then call.arguments.head?.getD call.receiver else call.receiver

section

variable {α : Type} (f : ClassFile) (n : NativeClass α) (w : Wrapper) (m : NativeItem α) (call : CallContext)

/-- Runs a statement of a wrapper in a class file. -/
def Statement.run (locals : Locals m) : Statement → Attempt (Locals m)
  | checkCount parameters => do
    ExceptT.mk (return call.checkCount w.label parameters)
    return locals
  | receive r => do
    let this ← Attempt.converting (fun e => ⟨w.label, .receiver f.label e⟩) (f.read n (r.source call) n.fresh)
    return { locals with this := this }
  | argument index _ => do
    let argument ← Attempt.converting (fun e => ⟨w.label, .parameter index (m.typeName index) e⟩)
      (m.ofScript index (call.argument index))
    return { locals with arguments := locals.arguments ++ [argument] }
  | invoke => do
    let (this, result) ← m.run locals.this locals.arguments
    match w.outcome with
    | .nothing => return { locals with this := this, ret := .undefined }
    | .constructed | .converted => return { locals with this := this, ret := ← m.toScript result }
  | writeBack => do
    f.writeBack n call locals.this
    return locals

/-- Runs statements one after the other, up to the first that fails. -/
def Statement.runAll (locals : Locals m) (statements : List Statement) : Attempt (Locals m) :=
  statements.foldlM (fun locals statement => statement.run f n w m call locals) locals

/-- Runs a wrapper. -/
def Wrapper.run : StoreM CallResult := do
  return (← Statement.runAll f n w m call ⟨n.fresh, [], .undefined⟩ w.statements).map (·.ret)

end

end ScriptBridge.Binding
