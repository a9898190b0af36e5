import ScriptBridge.Binding.Callables
import ScriptBridge.Binding.Marshalling

/-!
# ScriptBridge.Binding.Registration

What a class publishes on an engine: a prototype with the instance methods, and a constructor object with the static
methods and static fields, which goes onto the global object under the name of the class.

Functions of one name and one number of parameters share a definition, since they are bound to the same function.
-/

namespace ScriptBridge.Binding

open ScriptBridge.Symbol ScriptBridge.Token

/-! ## §1. What is published. -/

/-- A method: the name that scripts use, the function behind it and the declared number of parameters. -/
structure MethodBinding where
  label : String
  function : Identifier
  length : Nat
  deriving Repr, DecidableEq

/-- A static field: the name that scripts use and the native item. -/
structure StaticField where
  label : String
  name : Identifier
  isConst : Bool
  deriving Repr, DecidableEq

/-- Everything a class publishes. -/
structure Registration where
  /-- The name of the class on the global object. -/
  label : String
  constructor : Identifier
  /-- The declared number of parameters of the constructor object. -/
  length : Nat
  instanceMethods : List MethodBinding
  staticMethods : List MethodBinding
  staticFields : List StaticField
  deriving Repr

/-- The callables that get a definition: the first of each name and number of parameters. -/
def distinctMethods (seen : List (String × Nat)) : List Callable → List Callable
  | [] => []
  | c :: rest =>
    let key := (c.declaration.name, c.declaration.parameters.length)
    if seen.contains key then distinctMethods seen rest else c :: distinctMethods (key :: seen) rest

namespace Registration

/-- The definitions for some of the callables of a class. -/
def methodBindings (className : String) (callables : Callables) (methods : List Callable) :
    Except IdentifierError (List MethodBinding) :=
  (distinctMethods [] methods).mapM (fun c => do
    let function ← Identifier.ofText (callables.bindingName className c)
    return ⟨c.declaration.name, function, c.declaration.parameters.length⟩)

/-- A static field of a class. -/
def staticField (d : Declaration) : Except IdentifierError StaticField := do
  let name ← fieldIdentifier d
  return ⟨d.name, name, d.isConst⟩

/-- The largest number of parameters of a constructor, exposed or not. -/
def constructorLength (s : Scope) : Nat :=
  (s.constructors.map (·.parameters.length)).foldl max 0

/-- What a class publishes. -/
def ofScope (s : Scope) (callables : Callables) : Except IdentifierError Registration := do
  let label := constructorName s.owner.name
  let constructor ← Identifier.ofText (selectorName s.owner.name label)
  let methods := callables.callables.filter (fun c => !c.isConstructor)
  let instanceMethods ← methodBindings s.owner.name callables (methods.filter (fun c => !c.declaration.isStatic))
  let staticMethods ← methodBindings s.owner.name callables (methods.filter (·.declaration.isStatic))
  let staticFields ← (s.members.filter (·.isExposedStaticField)).mapM staticField
  return ⟨label, constructor, constructorLength s, instanceMethods, staticMethods, staticFields⟩

/-! ## §2. Its code. -/

/-- Defines a property of one of the objects. -/
def definition (object : List Token) (label : String) (value flags : List Token) : List Token :=
  statement (send object "define_property" [[text label], value, flags])

/-- Defines a method. -/
def methodTokens (object : String) (m : MethodBinding) : List Token :=
  definition (expr object) m.label
    (send (expr "engine") "new_function" [[text m.label], [.word m.function], [number m.length]]) (expr "fixed")

/-- Defines a static field. -/
def staticFieldTokens (f : StaticField) : List Token :=
  definition (expr "ctor") f.label
    (send (expr "Self" ++ scope ++ [.word f.name]) "to_script" [expr "engine"])
    (if f.isConst then unchangeable else undeletable)

/-- Makes the prototype the default one of a type; `type` includes its brackets. -/
def defaultPrototype (type : List Token) : List Token :=
  statement (call (member (expr "engine") (fixed "set_default_prototype") ++ scope ++ type)
    [send (expr "proto") "clone" []])

/-- Shared values of the class, in the brackets of a type argument, whose closing pair is one operator. -/
def sharedArgument : List Token :=
  [mark '<', fixed "Shared", mark '<', fixed "Self"] ++ operator ['>', '>']

/-- Makes the prototype and puts the instance methods on it. -/
def prototypeTokens (r : Registration) : List Token :=
  bind (expr "proto") (send (expr "engine") "new_object" []) ++
    (r.instanceMethods.map (methodTokens "proto")).flatten ++
    bind (expr "meta_type_id") (call (withType (member (expr "engine") (fixed "meta_type_id")) (expr "Self")) []) ++
    definition (expr "proto") "metaTypeId" (expr "meta_type_id") (fixedPath ["PropertyFlags", "NONE"]) ++
    defaultPrototype (angled (expr "Self")) ++ defaultPrototype sharedArgument

/-- Makes the constructor object and publishes it. -/
def constructorTokens (r : Registration) : List Token :=
  bind (expr "ctor") (send (expr "engine") "new_constructor"
      [[text r.label], [.word r.constructor], borrow (expr "proto"), [number r.length]]) ++
    (r.staticMethods.map (methodTokens "ctor")).flatten ++
    (r.staticFields.map staticFieldTokens).flatten ++
    definition (send (expr "engine") "global_object" []) r.label (send (expr "ctor") "clone" []) (expr "fixed") ++
    call (fixedPath ["ScriptValue", "Object"]) [expr "ctor"]

/-- The code that publishes the class. -/
def tokens (r : Registration) : List Token :=
  function (fixed "register_prototype") [typed (expr "engine") (borrowMut (expr "ScriptEngine"))]
    (returning (expr "ScriptValue"))
    (bind (expr "fixed") unchangeable ++ r.prototypeTokens ++ r.constructorTokens)

end Registration

end ScriptBridge.Binding
