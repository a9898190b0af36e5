import ScriptBridge.Symbol.Declaration

/-!
# ScriptBridge.Symbol.Exposure

Which members scripts get to see, and why the others are left out.

A member is *scriptable* unless it is annotated otherwise, or a type in its declaration has no script
representation.  Of the scriptable members the public ones are exposed: functions other than operators as methods
and constructors, variables as fields of the handle or, if static, of the constructor object.
-/

namespace ScriptBridge.Symbol

open ScriptBridge.Declared ScriptBridge.Text

/-! ## §1. Rejection. -/

/-- Why a declaration is not scriptable. -/
inductive Rejection where
  | noScript
  | bannedType (type : String) (category : BannedType)
  | arrayArguments
  deriving DecidableEq, Repr

/-- The words for a rejection. -/
def Rejection.message : Rejection → String
  | noScript => "annotated with " ++ noScriptTag
  | bannedType type category => "type `" ++ type ++ "` is a " ++ category.text
  | arrayArguments => "parameter list contains an array"

namespace Declaration

/-- The types that a declaration mentions, in the order in which they are checked: its own, and of each parameter
the declared and the basic one. -/
def mentionedTypes (d : Declaration) : List String :=
  d.type :: d.parameters.flatMap (fun p => [p.type, p.basicType])

/-- Why the declaration is not scriptable, if it is not. -/
def rejection? (d : Declaration) : Option Rejection :=
  if d.isNoScript then some .noScript
  else match d.mentionedTypes.findSome? (fun type => (bannedType? type.toList).map (Rejection.bannedType type)) with
    | some rejection => some rejection
    | none => if d.argList.toList.contains '[' then some .arrayArguments else none

/-- Whether the declaration can cross the script boundary. -/
def isScriptable (d : Declaration) : Bool := d.rejection?.isNone

/-! ## §2. Roles. -/

/-- Whether the name is that of an operator. -/
def isOperator (d : Declaration) : Bool := "operator".toList.isPrefixOf d.name.toList

/-- Whether the declaration is a constructor of the class with the given name. -/
def isConstructorOf (className : String) (d : Declaration) : Bool :=
  d.isFunction && d.name == constructorName className

/-- Whether the function describes its receiver; it may get the receiver as its first argument. -/
def isToString (d : Declaration) : Bool := d.name == "toString"

/-- Functions that scripts can call. -/
def isExposedFunction (d : Declaration) : Bool :=
  d.isFunction && d.isPublic && !d.isOperator && d.isScriptable

/-- Variables that become properties of a handle. -/
def isExposedField (d : Declaration) : Bool :=
  d.isVariable && d.isPublic && !d.isStatic && d.isScriptable

/-- Variables that become properties of the constructor object. -/
def isExposedStaticField (d : Declaration) : Bool :=
  d.isVariable && d.isPublic && d.isStatic && d.isScriptable

end Declaration

/-! ## §3. Classes with their members. -/

/-- A declaration together with the declarations of its members. -/
structure Scope where
  owner : Declaration
  members : List Declaration
  deriving Repr

namespace Scope

/-- The functions that construct the class. -/
def constructors (s : Scope) : List Declaration :=
  s.members.filter (·.isConstructorOf s.owner.name)

/-- Whether handles carry the whole native value: the comments of the first constructor decide. -/
def marshalsWholeValue (s : Scope) : Bool :=
  match s.constructors.head? with
  | some constructor => constructor.comments.any (holdsText wholeValueTag)
  | none => false

end Scope

/-! ## §4. Names of generated functions. -/

/-- The name of the wrapper of a function: class, function, parameter types and constness.  The fragments are
escaped, so the name tells all these apart. -/
def wrapperName (className : String) (d : Declaration) : String :=
  let fragments := (Declared.canonicalIdText d.name) :: d.parameters.map (·.canonicalId)
  "_".intercalate (classId className :: fragments) ++ (if d.isConst then "_const" else "")

/-- The name of the selector for all functions of one name. -/
def selectorName (className method : String) : String :=
  if method = constructorName className then classId className ++ "_ctor"
  else classId className ++ "_" ++ method ++ "_selector"

/-- The native function behind a member: as the declaration says, else the snake-case form of its name. -/
def nativeMethodName (d : Declaration) : String :=
  d.native.getD (snakeCase d.name)

end ScriptBridge.Symbol
