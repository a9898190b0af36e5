import ScriptBridge.Database.Entry
import ScriptBridge.Declared.Banned
import ScriptBridge.Declared.Target
import ScriptBridge.Symbol.Naming

/-!
# ScriptBridge.Symbol.Declaration

What a symbol database declares: classes, structs, functions and variables, each with its types, its flags and its
annotations, independent of where in the database it stands.

A declaration is made from a database entry by `Declaration.ofEntry`; everything that has no default in the entry
gets one here.  A variable whose type starts with `const` is constant even without the flag.
-/

namespace ScriptBridge.Symbol

open ScriptBridge.Text

/-! ## §1. Kinds and visibility. -/

/-- What a declaration declares. -/
inductive Kind where
  | classType
  | structType
  | function
  /-- A variable: a field of a class, or a global one. -/
  | field
  deriving DecidableEq, Repr, Inhabited

namespace Kind

/-- The word for a kind, in databases and in messages. -/
def name : Kind → String
  | classType => "class"
  | structType => "struct"
  | function => "function"
  | field => "variable"

/-- Whether bindings can be made for declarations of this kind. -/
def isClassLike : Kind → Bool
  | classType | structType => true
  | function | field => false

/-- The kind with the given name. -/
def ofName? (name : String) : Option Kind :=
  [classType, structType, function, field].find? (fun kind => kind.name == name)

end Kind

/-- Who may use a member. -/
inductive Visibility where
  /-- Public members. -/
  | everyone
  /-- Protected members. -/
  | heirs
  /-- Private members. -/
  | owner
  deriving DecidableEq, Repr, Inhabited

namespace Visibility

/-- The word for a visibility. -/
def name : Visibility → String
  | everyone => "public"
  | heirs => "protected"
  | owner => "private"

/-- The visibility with the given name. -/
def ofName? (name : String) : Option Visibility :=
  [everyone, heirs, owner].find? (fun visibility => visibility.name == name)

end Visibility

/-! ## §2. Declarations. -/

/-- A declared parameter. -/
structure Parameter where
  name : String
  type : String
  deriving DecidableEq, Repr, Inhabited

namespace Parameter

/-- The declared type without qualifiers, references and pointers. -/
def basicType (p : Parameter) : String :=
  Declared.basicTypeText p.type

/-- The basic type as part of an identifier. -/
def canonicalId (p : Parameter) : String :=
  Declared.canonicalIdText p.basicType

/-- How the native function takes the argument. -/
def passing (p : Parameter) : Declared.Passing :=
  Declared.passing p.type.toList

/-- The type of the argument in generated code. -/
def target (p : Parameter) : Declared.TargetType :=
  .ofBasicText p.basicType

end Parameter

/-- A class, struct, function or variable. -/
structure Declaration where
  kind : Kind
  name : String
  /-- The declared type; of a function the result type, which constructors leave empty. -/
  type : String
  isStatic : Bool
  isConst : Bool
  visibility : Visibility
  parameters : List Parameter
  /-- The parameter list as it was written. -/
  argList : String
  comments : List String
  returnComment : String
  /-- The native item behind a member, where it differs from the derived one. -/
  native : Option String
  deriving DecidableEq, Repr, Inhabited

/-- Keeps a member away from scripts. -/
def noScriptTag : String := "[noscript]"

/-- On the first constructor of a class: handles carry the whole native value beside its public fields. -/
def wholeValueTag : String := "[opaque-qtscript]"

namespace Declaration

/-- Whether the declaration is a function. -/
def isFunction (d : Declaration) : Bool := d.kind == .function

/-- Whether the declaration is a variable. -/
def isVariable (d : Declaration) : Bool := d.kind == .field

/-- Whether everyone may use the member. -/
def isPublic (d : Declaration) : Bool := d.visibility == .everyone

/-- Whether a comment or the comment on the result holds the tag. -/
def carriesTag (d : Declaration) (tag : String) : Bool :=
  d.comments.any (holdsText tag) || holdsText tag d.returnComment

/-- Whether the member is kept away from scripts. -/
def isNoScript (d : Declaration) : Bool := d.carriesTag noScriptTag

/-- The declared type in generated code. -/
def target (d : Declaration) : Declared.TargetType := .ofDeclared d.type

/-- Whether a function has no result: its type is `void`, or there is none. -/
def returnsVoid (d : Declaration) : Bool := d.target.isUnit

/-- The basic types of the parameters. -/
def basicTypes (d : Declaration) : List String := d.parameters.map (·.basicType)

/-- What a script can tell functions apart by: name, basic parameter types and constness. -/
def signature (d : Declaration) : String × List String × Bool := (d.name, d.basicTypes, d.isConst)

/-- The declaration as messages show it. -/
def text (d : Declaration) : String :=
  let head := d.kind.name ++ " " ++ d.name
  if d.isFunction then head ++ "(" ++ ", ".intercalate (d.parameters.map (·.type)) ++ ")" else head

end Declaration

/-! ## §3. From entries to declarations. -/

/-- What is wrong with the contents of a database. -/
inductive ModelError where
  | unknownKind (name kind : String)
  | unknownVisibility (name visibility : String)
  /-- Two top-level entries have one name. -/
  | duplicate (name : String)
  /-- A member has members of its own. -/
  | nestedMembers (owner member : String)
  deriving DecidableEq, Repr

/-- The words for an error. -/
def ModelError.message : ModelError → String
  | unknownKind name kind => "symbol `" ++ name ++ "` has unknown kind `" ++ kind ++ "`"
  | unknownVisibility name visibility => "symbol `" ++ name ++ "` has unknown visibility `" ++ visibility ++ "`"
  | duplicate name => "duplicate top-level symbol `" ++ name ++ "`"
  | nestedMembers owner member =>
    "member `" ++ owner ++ "::" ++ member ++ "` has nested members, which are not supported"

/-- Whether a declared type starts with the word `const`, white space in front of it aside. -/
def startsConst (type : String) : Bool :=
  "const ".toList.isPrefixOf (trimStart type.toList)

open ScriptBridge.Database in
/-- The declaration that an entry makes. -/
def Declaration.ofEntry (e : Entry) : Except ModelError Declaration :=
  match Kind.ofName? e.kind with
  | none => .error (.unknownKind e.name e.kind)
  | some kind =>
    match Visibility.ofName? (e.visibility.getD Visibility.everyone.name) with
    | none => .error (.unknownVisibility e.name (e.visibility.getD ""))
    | some visibility =>
      let type := e.type.getD ""
      .ok {
        kind, visibility, type
        name := e.name
        isStatic := e.isStatic.getD false
        isConst := e.isConst.getD false || (kind == .field && startsConst type)
        parameters := (e.parameters.getD []).map (fun p => ⟨p.name, p.type⟩)
        argList := e.args.getD ""
        comments := e.comments.getD []
        returnComment := e.returnComment.getD ""
        native := e.native }

end ScriptBridge.Symbol
