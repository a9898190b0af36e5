import ScriptBridge.Native.Classes

/-!
# ScriptBridge.Native.Type

The native types that values can have on their way to and from scripts, and the data of each type.

Values of the *value types* are copied when they cross: numbers, truth values, texts, lists of such, and instances
of the bound classes.  Beside them stand shared cells, each holding an instance that several owners see.
-/

namespace ScriptBridge.Native

open ScriptBridge.Numeric

/-! ## §1. Types. -/

/-- The classes that are bound. -/
inductive ClassName where
  | vector3 | transform | entity | payload | marker
  deriving DecidableEq, Repr

/-- The types of values that are copied when they cross. -/
inductive ValueType where
  | whole (type : IntegerType)
  | single
  | double
  | bool
  | string
  | list (element : ValueType)
  | object (className : ClassName)
  deriving DecidableEq, Repr

/-- All types that values can have. -/
inductive NativeType where
  | value (type : ValueType)
  /-- A cell that several owners share. -/
  | shared (className : ClassName)
  deriving DecidableEq, Repr

/-- A shared cell, by its number among the cells of its class. -/
structure Cell (className : ClassName) where
  index : Nat
  deriving DecidableEq, Repr

namespace ClassName

/-- All bound classes, in the order in which they are registered together. -/
def all : List ClassName :=
  [vector3, transform, entity, payload, marker]

/-- The name of the class, which is also that of its constructor. -/
def name : ClassName → String
  | vector3 => "Vector3"
  | transform => "Transform"
  | entity => "Entity"
  | payload => "Payload"
  | marker => "Marker"

/-- The instances of a class. -/
abbrev Instance : ClassName → Type
  | vector3 => Vector3
  | transform => Transform
  | entity => Entity
  | payload => Payload
  | marker => Marker

end ClassName

/-- The data of a value type. -/
abbrev ValueType.Data : ValueType → Type
  | whole t => Whole t
  | single => Single
  | double => Double
  | bool => Bool
  | string => String
  | list element => List element.Data
  | object c => c.Instance

/-- The data of a type. -/
abbrev NativeType.Data : NativeType → Type
  | value t => t.Data
  | shared c => Cell c

/-! ## §2. Names. -/

/-- A type name with its scope, in pieces: the scopes, the name and the type arguments. -/
structure QualifiedName where
  scopes : List String
  name : String
  arguments : List String
  deriving DecidableEq, Repr

namespace QualifiedName

/-- The name in full. -/
def text (n : QualifiedName) : String :=
  "::".intercalate (n.scopes ++ [n.name]) ++
    (if n.arguments.isEmpty then "" else "<" ++ ", ".intercalate n.arguments ++ ">")

/-- The name by which handles show their type: without scopes, unless there are type arguments. -/
def short (n : QualifiedName) : String :=
  if n.arguments.isEmpty then n.name else n.text

end QualifiedName

/-- The qualified name of a class. -/
def ClassName.qualified (c : ClassName) : QualifiedName :=
  ⟨["itest_script", "natives"], c.name, []⟩

/-- The qualified name of a value type. -/
def ValueType.qualified : ValueType → QualifiedName
  | whole t => ⟨[], t.name, []⟩
  | single => ⟨[], "f32", []⟩
  | double => ⟨[], "f64", []⟩
  | bool => ⟨[], "bool", []⟩
  | string => ⟨["alloc", "string"], "String", []⟩
  | list element => ⟨["alloc", "vec"], "Vec", [element.qualified.text]⟩
  | object c => c.qualified

/-- The qualified name of a type. -/
def NativeType.qualified : NativeType → QualifiedName
  | value t => t.qualified
  | shared c => ⟨["alloc", "rc"], "Rc", [(QualifiedName.mk ["core", "cell"] "RefCell" [c.qualified.text]).text]⟩

/-- A value together with its type. -/
structure Datum where
  type : NativeType
  data : type.Data

/-- The value, if it has the given type. -/
def Datum.get? (d : Datum) (type : NativeType) : Option type.Data :=
  if h : d.type = type then some (h ▸ d.data) else none

end ScriptBridge.Native
