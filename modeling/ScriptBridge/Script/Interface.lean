import ScriptBridge.Script.Method

/-!
# ScriptBridge.Script.Interface

What each bound class offers to scripts, and how it is published on an engine.

Publishing a class makes a prototype with the methods, makes it the prototype of new handles of the class, and puts
a constructor object with the static methods and fields onto the global object.  All of that is fixed: scripts can
neither change nor delete it.
-/

namespace ScriptBridge.Script

open ScriptBridge.Native ScriptBridge.Numeric

/-! ## §1. Interfaces. -/

/-- The methods of one name. -/
structure MethodSet (c : ClassName) where
  name : String
  isStatic : Bool
  /-- The declared number of parameters. -/
  length : Nat
  first : Method c
  others : List (Method c)

/-- A field of the constructor object. -/
structure StaticField where
  name : String
  type : ValueType
  value : type.Data
  isConst : Bool

/-- What a class offers. -/
structure Interface (c : ClassName) where
  constructors : List (Method c)
  methods : List (MethodSet c)
  staticFields : List StaticField

/-- A set of one method. -/
def MethodSet.single {c : ClassName} (name : String) (isStatic : Bool) (m : Method c) : MethodSet c :=
  ⟨name, isStatic, m.parameters.length, m, []⟩

/-- The methods of vectors. -/
def vector3Interface : Interface .vector3 where
  constructors := [
    ⟨"Vector3_Vector3", [], .construct (fun _ => Vector3.zero)⟩,
    ⟨"Vector3_Vector3_float_float_float", [.single, .single, .single],
      .construct (fun (x, y, z, ()) => (⟨x, y, z⟩ : Vector3))⟩]
  methods := [
    .single "Length" false ⟨"Vector3_Length_const", [], .inspect .single (fun v _ => Vector3.length v)⟩,
    .single "Normalize" false ⟨"Vector3_Normalize", [], .change (fun v _ => Vector3.normalize v)⟩,
    ⟨"Scale", false, 1,
      ⟨"Vector3_Scale_float", [.single], .change (fun v (factor, ()) => Vector3.scale v factor)⟩,
      [⟨"Vector3_Scale_Vector3", [.object .vector3], .change (fun v (factors, ()) => Vector3.scaleBy v factors)⟩]⟩,
    .single "Dot" true ⟨"Vector3_Dot_Vector3_Vector3", [.object .vector3, .object .vector3],
      .static .single (fun (a, b, ()) => Vector3.dot a b)⟩,
    .single "toString" false ⟨"Vector3_toString_const", [], .describe (fun v _ => Vector3.text v)⟩]
  staticFields := [⟨"zero", .object .vector3, Vector3.zero, true⟩]

/-- The methods of placements. -/
def transformInterface : Interface .transform where
  constructors := [⟨"Transform_Transform", [], .construct (fun _ => Transform.fresh)⟩]
  methods := [
    .single "Translate" false ⟨"Transform_Translate_Vector3", [.object .vector3],
      .change (fun t (offset, ()) => Transform.translate t offset)⟩]
  staticFields := []

/-- The methods of entities. -/
def entityInterface : Interface .entity where
  constructors := [
    ⟨"Entity_Entity", [], .construct (fun _ => Entity.fresh)⟩,
    ⟨"Entity_Entity_u32_QString", [.whole .u32, .string], .construct (fun (id, name, ()) => Entity.named id name)⟩]
  methods := [
    .single "Rename" false ⟨"Entity_Rename_QString", [.string], .change (fun e (name, ()) => Entity.rename e name)⟩,
    .single "Describe" false ⟨"Entity_Describe_const", [], .inspect .string (fun e _ => Entity.describe e)⟩]
  staticFields := []

/-- The methods of buffers. -/
def payloadInterface : Interface .payload where
  constructors := [⟨"Payload_Payload", [], .construct (fun _ => Payload.fresh)⟩]
  methods := [
    .single "Fill" false ⟨"Payload_Fill_int", [.whole .i32], .change (fun p (count, ()) => Payload.fill p count)⟩,
    .single "Checksum" false
      ⟨"Payload_Checksum_const", [], .inspect (.whole .i32) (fun p _ => Payload.checksum p)⟩]
  staticFields := []

/-- The methods of markers. -/
def markerInterface : Interface .marker where
  constructors := [⟨"Marker_Marker", [], .construct (fun _ => Marker.mk)⟩]
  methods := [.single "Kind" false ⟨"Marker_Kind_const", [], .inspect .string (fun m _ => Marker.kind m)⟩]
  staticFields := []

/-- What a class offers. -/
def Interface.ofClass : (c : ClassName) → Interface c
  | .vector3 => vector3Interface
  | .transform => transformInterface
  | .entity => entityInterface
  | .payload => payloadInterface
  | .marker => markerInterface

/-! ## §2. Functions. -/

namespace MethodSet

variable {c : ClassName}

/-- All methods of the set. -/
def all (set : MethodSet c) : List (Method c) :=
  set.first :: set.others

/-- The function behind the name of the set: a selector, unless there is only one method. -/
def function (set : MethodSet c) : NativeFunction :=
  if set.others.isEmpty then set.first.wrapper
  else (Selector.mk (c.name ++ "_" ++ set.name ++ "_selector") none (set.all.map .ofMethod)).dispatch

end MethodSet

namespace Interface

variable {c : ClassName}

/-- The function behind the constructor object. -/
def constructor (i : Interface c) : NativeFunction :=
  (Selector.mk (c.name ++ "_ctor") (some c.name) (i.constructors.map .ofMethod)).dispatch

/-- The declared number of parameters of the constructor object. -/
def constructorLength (i : Interface c) : Nat :=
  (i.constructors.map (·.parameters.length)).foldl max 0

/-- The methods of a name. -/
def methods? (i : Interface c) (name : String) : Option (MethodSet c) :=
  i.methods.find? (·.name == name)

end Interface

/-- The functions of the bound classes, with those that the host brings along. -/
def library (host : String → Option NativeFunction) : Library
  | .constructor c => some (Interface.ofClass c).constructor
  | .method c name => ((Interface.ofClass c).methods? name).map (·.function)
  | .hosted name => host name

/-! ## §3. Publishing. -/

/-- Puts a method onto an object. -/
def publishMethod {c : ClassName} (target : ObjectId) (set : MethodSet c) : StoreM Unit := do
  let function ← Engine.newFunction set.name (.method c set.name) set.length
  modify (·.define target set.name (.object function) .fixed)

/-- Puts a static field onto the constructor object. -/
def publishField (target : ObjectId) (field : StaticField) : StoreM Unit := do
  let value ← (marshalOf field.type).toScript field.value
  modify (·.define target field.name value (if field.isConst then .fixed else .kept))

/-- Publishes a class, and answers with its constructor. -/
def register (c : ClassName) : StoreM Value := do
  let interface := Interface.ofClass c
  let type : NativeType := .value (.object c)
  let prototype ← modifyGet (·.alloc (.ofKind .plain))
  (interface.methods.filter (!·.isStatic)).forM (publishMethod prototype)
  let number ← modifyGet (·.typeNumber type)
  modify (·.define prototype "metaTypeId" (.count number) .none)
  modify (·.setDefaultPrototype type prototype)
  modify (·.setDefaultPrototype (.shared c) prototype)
  let constructor ← Engine.newConstructor c.name (.constructor c) prototype interface.constructorLength
  (interface.methods.filter (·.isStatic)).forM (publishMethod constructor)
  interface.staticFields.forM (publishField constructor)
  modify (fun s => s.define s.global c.name (.object constructor) .fixed)
  return .object constructor

/-- Publishes several classes. -/
def registerAll (classes : List ClassName) : StoreM Unit :=
  classes.forM (fun c => do let _ ← register c)

end ScriptBridge.Script
