import ScriptBridge.Script.Marshal

/-!
# ScriptBridge.Script.Layout

How instances of a class are laid out on handles.

Each public field becomes a property of the handle that scripts cannot delete.  On a mutable handle only constant
fields are read-only; on a snapshot all are, and their values are constants in turn.  A class may also put the whole
instance onto the handle, out of sight of scripts; reading then starts from it, and else from what it is given.
-/

namespace ScriptBridge.Script

open ScriptBridge.Native

/-- A public field of a class. -/
structure Field (α : Type) where
  Data : Type
  marshal : Marshal Data
  name : String
  isConst : Bool
  get : α → Data
  set : α → Data → α

/-- How instances of a class are laid out on handles. -/
structure Layout (c : ClassName) where
  fields : List (Field c.Instance)
  /-- Whether handles carry the whole instance. -/
  whole : Bool
  /-- The instance that reading starts from. -/
  fresh : c.Instance

namespace Field

variable {α : Type}

/-- Puts the field onto a handle as a property that cannot be changed. -/
def writeConst (f : Field α) (a : α) (handle : ObjectId) : StoreM Unit := do
  let value ← f.marshal.toConst (f.get a)
  modify (·.define handle f.name value .fixed)

/-- Puts the field onto a mutable handle. -/
def write (f : Field α) (a : α) (handle : ObjectId) : StoreM Unit :=
  if f.isConst then f.writeConst a handle
  else do
    let value ← f.marshal.toScript (f.get a)
    modify (·.define handle f.name value .kept)

/-- Reads the field off a handle. -/
def read (f : Field α) (s : Store) (handle : ObjectId) (a : α) : Except ConvertError α :=
  (@Store.propertyAs s f.Data f.marshal handle f.name).map (f.set a)

/-- Reads fields one after the other.  The answer is how far this got, and what ended it. -/
def readAll (s : Store) (handle : ObjectId) (a : α) : List (Field α) → α × Option ConvertError
  | [] => (a, none)
  | f :: rest =>
    match f.read s handle a with
    | .error e => (a, some e)
    | .ok next => readAll s handle next rest

end Field

namespace Layout

variable {c : ClassName}

/-- The type of the class. -/
def type (_ : Layout c) : NativeType :=
  .value (.object c)

/-- Makes a handle for a native type, with the default prototype of the type. -/
def newHandle (type : NativeType) (kind : HandleKind) : StoreM ObjectId := do
  modify (·.enlist type)
  let s ← get
  modifyGet (·.alloc { Object.ofKind (.handle kind) with
    nativeType := some type, prototype := s.defaultPrototype? type })

/-- Puts the whole instance onto a handle, if the class does so. -/
def carry (l : Layout c) (a : c.Instance) (handle : ObjectId) : StoreM Unit :=
  if l.whole then modify (·.attach handle ⟨l.type, a⟩) else return ()

/-- Puts an instance onto an existing handle. -/
def write (l : Layout c) (a : c.Instance) (handle : ObjectId) : StoreM Unit := do
  l.fields.forM (fun f => f.write a handle)
  l.carry a handle

/-- Makes a mutable handle for an instance. -/
def toScript (l : Layout c) (a : c.Instance) : StoreM Value := do
  let handle ← newHandle l.type .mutable
  l.write a handle
  return .object handle

/-- Makes a read-only snapshot of an instance. -/
def toConst (l : Layout c) (a : c.Instance) : StoreM Value := do
  let handle ← newHandle l.type .snapshot
  l.fields.forM (fun f => f.writeConst a handle)
  l.carry a handle
  return .object handle

/-- The instance that reading a handle starts from. -/
def start (l : Layout c) (s : Store) (handle : ObjectId) (a : c.Instance) : c.Instance :=
  if l.whole then (s.data? handle l.type).getD a else a

/-- Reads a value into an instance.  The answer is the instance as far as it got, and what ended it. -/
def readInto (l : Layout c) (s : Store) (v : Value) (a : c.Instance) : c.Instance × Option ConvertError :=
  match v with
  | .object handle => Field.readAll s handle (l.start s handle a) l.fields
  | other => (a, some (.ofValue s c.name other))

/-- The instance that a value stands for. -/
def read (l : Layout c) (s : Store) (v : Value) (a : c.Instance) : Except ConvertError c.Instance :=
  match l.readInto s v a with
  | (next, none) => .ok next
  | (_, some e) => .error e

/-- The conversions of the class. -/
@[reducible]
def marshal (l : Layout c) : Marshal c.Instance where
  toScript := l.toScript
  toConst := l.toConst
  ofScript s v := l.read s v l.fresh
  accepts s v := s.isInstanceOf v l.type

end Layout

end ScriptBridge.Script
