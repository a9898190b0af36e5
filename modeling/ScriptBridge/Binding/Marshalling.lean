import ScriptBridge.Log
import ScriptBridge.Symbol.Exposure
import ScriptBridge.Token.Compose

/-!
# ScriptBridge.Binding.Marshalling

How native values of a class cross the script boundary.

Each public field becomes a property of a handle that scripts cannot delete.  A constant field, and every field of a
read-only snapshot, cannot be changed either; its value is then itself a snapshot, unless it is plain.  If the class
is marshalled whole, handles also carry the native value, from which reading starts.
-/

namespace ScriptBridge.Binding

open ScriptBridge.Symbol ScriptBridge.Declared ScriptBridge.Token

/-! ## §1. Fields. -/

/-- The name of a field in native code: as the declaration says, else its own. -/
def fieldIdentifier (d : Declaration) : Except IdentifierError Identifier :=
  match d.native with
  | some native => Identifier.ofText native
  | none => Identifier.escaped d.name

/-- A public instance field. -/
structure Field where
  /-- The name of the property. -/
  label : String
  name : Identifier
  type : TargetType
  isConst : Bool
  deriving Repr

/-- The field that a variable declares. -/
def Field.ofDeclaration (d : Declaration) : Except IdentifierError Field := do
  let name ← fieldIdentifier d
  return ⟨d.name, name, d.target, d.isConst⟩

/-- The report on an instance field that stays away from scripts. -/
def hiddenFieldReport (className : String) (d : Declaration) : Log.Entry :=
  ⟨.debug, .marshalling, className ++ ": field " ++ d.name ++ " not marshalled"⟩

/-- The fields of a class with the reports on those left out.  A field whose name is no identifier ends the
collection, and with it the reports. -/
def fieldsOf (className : String) : List Declaration → List Log.Entry × Except IdentifierError (List Field)
  | [] => ([], .ok [])
  | d :: rest =>
    if d.isExposedField then
      match Field.ofDeclaration d with
      | .error e => ([], .error e)
      | .ok field =>
        let (log, fields) := fieldsOf className rest
        (log, fields.map (field :: ·))
    else
      let (log, fields) := fieldsOf className rest
      (if d.isVariable && !d.isStatic then hiddenFieldReport className d :: log else log, fields)

/-! ## §2. Properties of a handle. -/

/-- The flag of properties that cannot be deleted. -/
def undeletable : List Token :=
  fixedPath ["PropertyFlags", "UNDELETABLE"]

/-- The flags of properties that can be neither deleted nor changed. -/
def unchangeable : List Token :=
  undeletable ++ mark '|' :: fixedPath ["PropertyFlags", "READ_ONLY"]

/-- The conversion of a constant: plain values are copied, all others become snapshots. -/
def constantConversion (type : TargetType) : String :=
  if type.isPlain then "to_script" else "to_script_const"

/-- The value of a field, converted. -/
def Field.value (f : Field) (conversion : String) : List Token :=
  send (member (expr "value") (.word f.name)) conversion [expr "engine"]

/-- Defines a property that cannot be changed. -/
def Field.constantDefinition (f : Field) : List Token :=
  statement (member (expr "handle") (fixed "define_property") ++
    [parens (commas [[text f.label], f.value (constantConversion f.type), unchangeable] ++ [mark ','])])

/-- Defines the property of a mutable handle. -/
def Field.definition (f : Field) : List Token :=
  if f.isConst then f.constantDefinition
  else statement (send (expr "handle") "define_property" [[text f.label], f.value "to_script", undeletable])

/-- Reads the property back. -/
def Field.reading (f : Field) (type : List Token) : List Token :=
  statement (member (expr "out") (.word f.name) ++ mark '=' ::
    orFail (call (withType (member (expr "handle") (fixed "property_as")) type) [[text f.label]]))

/-! ## §3. The functions of a class. -/

/-- The marshalling of a class: its fields, each with the tokens of its type, and whether handles carry the whole
value. -/
structure Marshalling where
  fields : List (Field × List Token)
  whole : Bool
  deriving Repr

namespace Marshalling

/-- The marshalling of a class with the given fields. -/
def ofFields (fields : List Field) (whole : Bool) : Except IdentifierError Marshalling := do
  let typed ← fields.mapM (fun f => do return (f, ← typeTokens f.type))
  return ⟨typed, whole⟩

/-- The parameters of a function that makes script values. -/
def makerParameters (value : List Token) : List (List Token) :=
  [typed (expr "engine") (borrowMut (expr "ScriptEngine")), value]

/-- A native value as a parameter. -/
def valueParameter : List Token :=
  typed (expr "value") (borrow (expr "Self"))

/-- Puts the whole value onto the handle. -/
def payload (m : Marshalling) : List Token :=
  if m.whole then statement (send (expr "handle") "set_data" [send (expr "value") "clone" []]) else []

/-- Makes a handle of a kind. -/
def newHandle (kind : String) : List Token :=
  bind (expr "handle") (call (withType (member (expr "engine") (fixed "new_handle")) (expr "Self"))
    [fixedPath ["HandleKind", kind]])

/-- The handle as a script value. -/
def handleAnswer : List Token :=
  call (fixedPath ["ScriptValue", "Object"]) [expr "handle"]

/-- Writes a value onto an existing handle. -/
def toExisting (m : Marshalling) : List Token :=
  function (fixed "to_existing_script_value")
    (makerParameters valueParameter ++ [typed (expr "handle") (borrow (expr "ObjectRef"))]) []
    ((m.fields.map (fun f => f.1.definition)).flatten ++ m.payload)

/-- Makes a mutable handle. -/
def toScriptValue : List Token :=
  function (fixed "to_script_value") (makerParameters valueParameter) (returning (expr "ScriptValue"))
    (newHandle "Mutable" ++
      statement (call (fixedPath ["Self", "to_existing_script_value"])
        [expr "engine", expr "value", borrow (expr "handle")]) ++
      handleAnswer)

/-- Makes a read-only snapshot. -/
def toConst (m : Marshalling) : List Token :=
  function (fixed "to_script_value_const") (makerParameters valueParameter) (returning (expr "ScriptValue"))
    (newHandle "ConstSnapshot" ++ (m.fields.map (fun f => f.1.constantDefinition)).flatten ++ m.payload ++
      handleAnswer)

/-- The result of a conversion that may fail. -/
def fallible (type : List Token) : List Token :=
  fixed "Result" :: angled (commas [type, expr "ConvertError"])

/-- Starts reading from the whole value, if the handle carries one. -/
def restore (m : Marshalling) : List Token :=
  if m.whole then
    [fixed "if", fixed "let"] ++ call (expr "Some") [expr "data"] ++ mark '=' ::
      call (withType (member (expr "handle") (fixed "data")) (expr "Self")) [] ++
      [braces (statement (mark '*' :: expr "out" ++ mark '=' :: expr "data"))]
  else []

/-- Reads a native value from a script value. -/
def fromScript (m : Marshalling) : List Token :=
  let complaint := operator ['|', '|'] ++
    call (fixedPath ["ConvertError", "wrong_type"]) [fixedPath ["Self", "CLASS_NAME"], expr "value"]
  let handle := orFail (send (send (expr "value") "as_object" []) "ok_or_else" [complaint])
  function (fixed "from_script_value")
    [typed (expr "value") (borrow (expr "ScriptValue")), typed (expr "out") (borrowMut (expr "Self"))]
    (returning (fallible [parens []]))
    (bind (expr "handle") handle ++ m.restore ++ (m.fields.map (fun f => f.1.reading f.2)).flatten ++
      call (expr "Ok") [[parens []]])

/-- The marshalling functions of a class. -/
def tokens (m : Marshalling) : List Token :=
  m.toExisting ++ toScriptValue ++ m.toConst ++ m.fromScript

end Marshalling

/-! ## §4. The generic conversions. -/

/-- The conversions of values, in terms of the marshalling functions of the class. -/
def conversionImplementations (type : List Token) : List Token :=
  let maker (name target : String) : List Token :=
    function (fixed name) [borrow (expr "self"), typed (expr "engine") (borrowMut (expr "ScriptEngine"))]
      (returning (expr "ScriptValue"))
      (call (asInterface (expr "Self") "ScriptClass" ++ scope ++ [fixed target]) [expr "engine", expr "self"])
  let input := [typed (expr "value") (borrow (expr "ScriptValue"))]
  implementation "ToScript" type
      (maker "to_script" "to_script_value" ++ maker "to_script_const" "to_script_value_const") ++
    implementation "FromScript" type
      (function (fixed "from_script") input (returning (Marshalling.fallible (expr "Self")))
        (call (withType (expr "from_script_class") (expr "Self")) [expr "value"])) ++
    implementation "ScriptType" type
      (function (fixed "is_of_type") input (returning (expr "bool"))
        (call (withType (member (expr "value") (fixed "is_instance_of")) (expr "Self")) []))

end ScriptBridge.Binding
