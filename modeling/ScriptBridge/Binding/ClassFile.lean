import ScriptBridge.Binding.Registration
import ScriptBridge.Binding.Selector

/-!
# ScriptBridge.Binding.ClassFile

The generated file of a class, and the module file that ties the files of a run together.

`ClassFile.ofScope` settles everything that code is composed of; `ClassFile.tokens` writes it down and cannot fail.
A file depends on the entry of its class and on the options, and on nothing else.
-/

namespace ScriptBridge.Binding

open ScriptBridge.Symbol ScriptBridge.Declared ScriptBridge.Token

/-- The paths that generated code refers to. -/
structure Paths where
  /-- The crate with the script engine. -/
  runtime : String
  /-- The module whose items are the native classes. -/
  natives : String
  deriving Repr, DecidableEq

/-- The paths that hold unless others are given. -/
def Paths.standard : Paths :=
  ⟨"script_core", "super::super"⟩

/-! ## §1. The file of a class. -/

/-- Everything that the file of a class consists of. -/
structure ClassFile where
  runtime : List Token
  natives : List Token
  /-- The class as a type. -/
  type : List Token
  /-- The class in messages. -/
  label : String
  wrappers : List Wrapper
  selectors : List Selector
  marshalling : Marshalling
  registration : Registration
  deriving Repr

namespace ClassFile

/-- The file of a class with the given fields, once the paths are known.  Names are checked in this order: types of
fields, published names, the class itself, wrappers, selectors. -/
def compose (runtime natives : List Token) (s : Scope) (fields : List Field) : Except IdentifierError ClassFile := do
  let callables := Callables.ofScope s
  let className := s.owner.name
  let marshalling ← Marshalling.ofFields fields s.marshalsWholeValue
  let registration ← Registration.ofScope s callables
  let type ← typeTokens (.ofBasicText className)
  let wrappers ← callables.callables.mapM Wrapper.ofCallable
  let selectors ← (callables.sets.filter (·.needsSelector)).mapM (Selector.ofSet className callables)
  return ⟨runtime, natives, type, constructorName className, wrappers, selectors, marshalling, registration⟩

/-- The file of a class, with what is reported while it is made.  A bad name ends the making, and no more is
reported. -/
def ofScope (paths : Paths) (s : Scope) : List Log.Entry × Except IdentifierError ClassFile :=
  match pathOf paths.runtime with
  | .error e => ([], .error e)
  | .ok runtime =>
    match pathOf paths.natives with
    | .error e => ([], .error e)
    | .ok natives =>
      let (fieldLog, fields) := fieldsOf s.owner.name s.members
      (callableReports s ++ fieldLog, fields >>= compose runtime natives s)

/-- The compiler warnings that generated code may give rise to. -/
def allowances : List Token :=
  [mark '#', mark '!', brackets (call (expr "allow")
    [expr "non_snake_case", expr "unused_variables", expr "unused_mut", expr "dead_code", fixedPath ["clippy", "all"]])]

/-- Imports everything below a path. -/
def useAll (path : List Token) : List Token :=
  statement (fixed "use" :: path ++ scope ++ [mark '*'])

/-- The code of the file. -/
def tokens (f : ClassFile) : List Token :=
  allowances ++ useAll (f.runtime ++ scope ++ [fixed "prelude"]) ++ useAll f.natives ++
    (f.wrappers.map (·.tokens f.type)).flatten ++ (f.selectors.map (·.tokens)).flatten ++
    implementation "ScriptClass" f.type
      (constant "CLASS_NAME" (borrow (lifetime "static" ++ expr "str")) [text f.label] ++
        f.marshalling.tokens ++ f.registration.tokens) ++
    conversionImplementations f.type ++
    documentation "Publishes the constructor on the engine's global object." ++
    fixed "pub" :: function (fixed "register_prototype") [typed (expr "engine") (borrowMut (expr "ScriptEngine"))]
      (returning (expr "ScriptValue"))
      (call (asInterface f.type "ScriptClass" ++ scope ++ [fixed "register_prototype"]) [expr "engine"])

end ClassFile

/-! ## §2. The module file. -/

/-- The file that declares the modules of all classes and registers them. -/
structure ModuleFile where
  runtime : List Token
  modules : List Identifier
  deriving Repr

namespace ModuleFile

/-- The module file for classes with the given modules. -/
def ofModules (paths : Paths) (modules : List String) : Except IdentifierError ModuleFile := do
  let runtime ← pathOf paths.runtime
  let modules ← modules.mapM Identifier.escaped
  return ⟨runtime, modules⟩

/-- The code of the file. -/
def tokens (f : ModuleFile) : List Token :=
  (f.modules.map (fun m => statement [fixed "pub", fixed "mod", .word m])).flatten ++
    documentation "Registers every generated class, in generation order." ++
    fixed "pub" :: function (fixed "register_all_prototypes")
      [typed (expr "engine") (borrowMut (f.runtime ++ scope ++ fixedPath ["prelude", "ScriptEngine"]))] []
      ((f.modules.map (fun m =>
        statement (call (Token.word m :: scope ++ [fixed "register_prototype"]) [expr "engine"]))).flatten)

end ModuleFile

end ScriptBridge.Binding
