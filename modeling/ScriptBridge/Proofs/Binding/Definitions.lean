import ScriptBridge.Binding.Registration
import ScriptBridge.Proofs.Token.Structure

/-!
# ScriptBridge.Proofs.Binding.Definitions

The properties that a registration defines, read off its code.

The readers know the interface that generated code is written against: properties are defined by `define_property`,
and functions are made by `new_function`.  They do not know how the code was put together.

Main results: `definitionsOn_proto` and `definitionsOn_ctor`, which say what is defined on the prototype and on the
constructor object, and `globalDefinitions_body` for the global object.
-/

namespace ScriptBridge.Binding

open ScriptBridge.Symbol ScriptBridge.Token

/-! ## §1. Readers. -/

/-- A property definition: the source text of the property name, the value and the flags. -/
structure Definition where
  label : String
  value : List Token
  flags : List Token
  deriving Repr

/-- The definition of a property of an object that a statement is. -/
def definition? (object : String) : List Token → Option Definition
  | [.word o, .sign '.' false, .word m, .group .parenthesis inner] =>
    if o = ⟨object, false⟩ ∧ m = ⟨"define_property", false⟩ then
      match arguments inner with
      | [[.literal label], value, flags] => some ⟨label.text, value, flags⟩
      | _ => none
    else none
  | _ => none

/-- The properties of an object that a function body defines, in order. -/
def definitionsOn (object : String) (body : List Token) : List Definition :=
  (statements body).filterMap (definition? object)

/-- The definition of a property of the global object that a statement is. -/
def globalDefinition? : List Token → Option Definition
  | [.word o, .sign '.' false, .word g, .group .parenthesis [], .sign '.' false, .word m, .group .parenthesis inner] =>
    if o = ⟨"engine", false⟩ ∧ g = ⟨"global_object", false⟩ ∧ m = ⟨"define_property", false⟩ then
      match arguments inner with
      | [[.literal label], value, flags] => some ⟨label.text, value, flags⟩
      | _ => none
    else none
  | _ => none

/-- The properties of the global object that a function body defines, in order. -/
def globalDefinitions (body : List Token) : List Definition :=
  (statements body).filterMap globalDefinition?

/-- The native function behind a script function that a value makes. -/
def Definition.function? (d : Definition) : Option Identifier :=
  match d.value with
  | [.word o, .sign '.' false, .word m, .group .parenthesis inner] =>
    if o = ⟨"engine", false⟩ ∧ m = ⟨"new_function", false⟩ then
      match arguments inner with
      | [_, [.word function], _] => some function
      | _ => none
    else none
  | _ => none

/-! ## §2. Calls read back. -/

/-- A stream that reads as one argument. -/
structure IsArgument (part : List Token) : Prop where
  whole : Whole part
  nonempty : part ≠ []

/-- A flat token is one argument. -/
theorem isArgument_token {t : Token} (h : isFlat t = true) : IsArgument [t] :=
  ⟨Whole.single h, by simp⟩

/-- A path of fixed words is one argument. -/
theorem isArgument_fixedPath (a b : String) : IsArgument (fixedPath [a, b]) := by
  have parts : fixedPath [a, b] = [fixed a] ++ (scope ++ [fixed b]) := by simp [fixedPath, separated]
  rw [parts]
  exact ⟨Whole.flat rfl, by simp⟩

/-- The call of a method is one argument if its receiver stays whole. -/
theorem isArgument_send {receiver : List Token} (method : String) (parts : List (List Token)) (h : Whole receiver) :
    IsArgument (send receiver method parts) :=
  ⟨(h.append (Whole.flat rfl)).append (Whole.single rfl), by simp [send, call]⟩

/-- Three arguments are found again. -/
theorem arguments_three {a b c : List Token} (first : IsArgument a) (second : IsArgument b) (third : IsArgument c) :
    arguments (commas [a, b, c]) = [a, b, c] := by
  refine arguments_commas (fun part mem => ?_)
  simp only [List.mem_cons, List.not_mem_nil, or_false] at mem
  rcases mem with rfl | rfl | rfl
  · exact ⟨first.whole, first.nonempty⟩
  · exact ⟨second.whole, second.nonempty⟩
  · exact ⟨third.whole, third.nonempty⟩

/-- **A definition is read off its statement**: the name, the value and the flags. -/
theorem definition?_define (object label : String) {value flags : List Token} (second : IsArgument value)
    (third : IsArgument flags) :
    definition? object (send (expr object) "define_property" [[text label], value, flags]) =
      some ⟨Text.stringLiteral label, value, flags⟩ := by
  have call : send (expr object) "define_property" [[text label], value, flags] =
      [.word ⟨object, false⟩, .sign '.' false, .word ⟨"define_property", false⟩,
        .group .parenthesis (commas [[text label], value, flags])] := rfl
  rw [call, definition?, if_pos ⟨rfl, rfl⟩, arguments_three (isArgument_token rfl) second third]
  rfl

/-- A statement about another object defines nothing on the given one. -/
theorem definition?_other {object other : String} (h : (⟨other, false⟩ : Identifier) ≠ ⟨object, false⟩)
    (method : String) (parts : List (List Token)) : definition? object (send (expr other) method parts) = none := by
  have different : ¬ ((⟨other, false⟩ : Identifier) = ⟨object, false⟩ ∧
      (⟨method, false⟩ : Identifier) = ⟨"define_property", false⟩) :=
    fun both => h both.1
  have call : send (expr other) method parts =
      [.word ⟨other, false⟩, .sign '.' false, .word ⟨method, false⟩, .group .parenthesis (commas parts)] := rfl
  rw [call, definition?, if_neg different]

/-- A definition on the global object is read off its statement. -/
theorem globalDefinition?_define (label : String) {value flags : List Token} (second : IsArgument value)
    (third : IsArgument flags) :
    globalDefinition? (send (send (expr "engine") "global_object" []) "define_property" [[text label], value, flags]) =
      some ⟨Text.stringLiteral label, value, flags⟩ := by
  have call : send (send (expr "engine") "global_object" []) "define_property" [[text label], value, flags] =
      [.word ⟨"engine", false⟩, .sign '.' false, .word ⟨"global_object", false⟩, .group .parenthesis [],
        .sign '.' false, .word ⟨"define_property", false⟩,
        .group .parenthesis (commas [[text label], value, flags])] := rfl
  rw [call, globalDefinition?, if_pos ⟨rfl, rfl, rfl⟩, arguments_three (isArgument_token rfl) second third]
  rfl

/-! ## §3. The definitions in the code of a registration. -/

namespace Registration

/-- The call that makes the script function of a method. -/
def methodValue (m : MethodBinding) : List Token :=
  send (expr "engine") "new_function" [[text m.label], [.word m.function], [number m.length]]

/-- The definition of a method. -/
def methodDefinition (m : MethodBinding) : Definition :=
  ⟨Text.stringLiteral m.label, methodValue m, expr "fixed"⟩

/-- The definition of a static field. -/
def staticFieldDefinition (f : StaticField) : Definition :=
  ⟨Text.stringLiteral f.label, send (expr "Self" ++ scope ++ [.word f.name]) "to_script" [expr "engine"],
    if f.isConst then unchangeable else undeletable⟩

/-- The definition of the identity of the class. -/
def identityDefinition : Definition :=
  ⟨Text.stringLiteral "metaTypeId", expr "meta_type_id", fixedPath ["PropertyFlags", "NONE"]⟩

/-- A fixed word is one argument. -/
theorem isArgument_expr (name : String) : IsArgument (expr name) :=
  isArgument_token rfl

/-- The script function of a method is one argument. -/
theorem isArgument_methodValue (m : MethodBinding) : IsArgument (methodValue m) :=
  isArgument_send _ _ (isArgument_expr _).whole

/-- The native function of a method is read off its definition. -/
theorem function?_method (m : MethodBinding) : (methodDefinition m).function? = some m.function := by
  have value : (methodDefinition m).value = [.word ⟨"engine", false⟩, .sign '.' false, .word ⟨"new_function", false⟩,
      .group .parenthesis (commas [[text m.label], [.word m.function], [number m.length]])] := rfl
  unfold Definition.function?
  simp only [value, and_self, if_true]
  rw [arguments_three (isArgument_token rfl) (isArgument_token rfl) (isArgument_token rfl)]

theorem function?_staticField (f : StaticField) : (staticFieldDefinition f).function? = none := rfl

theorem function?_identity : identityDefinition.function? = none := rfl

/-- The statement that defines a method on an object. -/
def methodStatement (object : String) (m : MethodBinding) : List Token :=
  send (expr object) "define_property" [[text m.label], methodValue m, expr "fixed"]

/-- The statement that defines a static field. -/
def staticFieldStatement (f : StaticField) : List Token :=
  send (expr "ctor") "define_property" [[text f.label],
    send (expr "Self" ++ scope ++ [.word f.name]) "to_script" [expr "engine"],
    if f.isConst then unchangeable else undeletable]

/-- The definitions of methods are read off their statements, in order. -/
theorem definitions_methods (object : String) (methods : List MethodBinding) :
    (methods.map (methodStatement object)).filterMap (definition? object) = methods.map methodDefinition := by
  have each : definition? object ∘ methodStatement object = some ∘ methodDefinition :=
    funext (fun m => definition?_define object m.label (isArgument_methodValue m) (isArgument_expr "fixed"))
  rw [List.filterMap_map, each, List.filterMap_eq_map]

/-- The methods of another object are no definitions on the given one. -/
theorem definitions_otherMethods {object other : String} (h : (⟨other, false⟩ : Identifier) ≠ ⟨object, false⟩)
    (methods : List MethodBinding) :
    (methods.map (methodStatement other)).filterMap (definition? object) = [] := by
  rw [List.filterMap_map]
  exact List.filterMap_eq_nil_iff.2 (fun m _ => definition?_other h _ _)

/-- The flags of a static field are one argument. -/
theorem isArgument_flags (f : StaticField) : IsArgument (if f.isConst then unchangeable else undeletable) := by
  have first := isArgument_fixedPath "PropertyFlags" "UNDELETABLE"
  have second := isArgument_fixedPath "PropertyFlags" "READ_ONLY"
  split
  · exact ⟨first.whole.append (Whole.cons (Whole.single rfl) second.whole), by simp [unchangeable]⟩
  · exact first

/-- The definitions of static fields are read off their statements, in order. -/
theorem definitions_staticFields (fields : List StaticField) :
    (fields.map staticFieldStatement).filterMap (definition? "ctor") = fields.map staticFieldDefinition := by
  have receiver : ∀ f : StaticField, Whole (expr "Self" ++ scope ++ [.word f.name]) :=
    fun _ => Whole.flat rfl
  have each : definition? "ctor" ∘ staticFieldStatement = some ∘ staticFieldDefinition :=
    funext (fun f => definition?_define "ctor" f.label (isArgument_send _ _ (receiver f)) (isArgument_flags f))
  rw [List.filterMap_map, each, List.filterMap_eq_map]

/-- Static fields are no definitions on the prototype. -/
theorem definitions_otherFields (fields : List StaticField) :
    (fields.map staticFieldStatement).filterMap (definition? "proto") = [] := by
  rw [List.filterMap_map]
  exact List.filterMap_eq_nil_iff.2 (fun f _ => definition?_other (by decide) _ _)

variable (r : Registration)

/-- The body of the function that publishes the class. -/
def body : List Token :=
  Token.bind (expr "fixed") unchangeable ++ r.prototypeTokens ++ r.constructorTokens

/-- The statements in front of the methods on the prototype. -/
def opening : List (List Token) :=
  [fixed "let" :: expr "fixed" ++ mark '=' :: unchangeable,
    fixed "let" :: expr "proto" ++ mark '=' :: send (expr "engine") "new_object" []]

/-- The statements between the methods on the prototype and those on the constructor object. -/
def middle : List (List Token) :=
  [fixed "let" :: expr "meta_type_id" ++ mark '=' ::
      call (withType (member (expr "engine") (fixed "meta_type_id")) (expr "Self")) [],
    send (expr "proto") "define_property" [[text "metaTypeId"], expr "meta_type_id", fixedPath ["PropertyFlags", "NONE"]],
    call (member (expr "engine") (fixed "set_default_prototype") ++ scope ++ angled (expr "Self"))
      [send (expr "proto") "clone" []],
    call (member (expr "engine") (fixed "set_default_prototype") ++ scope ++ sharedArgument)
      [send (expr "proto") "clone" []],
    fixed "let" :: expr "ctor" ++ mark '=' :: send (expr "engine") "new_constructor"
      [[text r.label], [.word r.constructor], borrow (expr "proto"), [number r.length]]]

/-- The statements behind the static fields. -/
def ending : List (List Token) :=
  [send (send (expr "engine") "global_object" []) "define_property"
      [[text r.label], send (expr "ctor") "clone" [], expr "fixed"],
    call (fixedPath ["ScriptValue", "Object"]) [expr "ctor"]]

/-- **The statements of the body**, part by part. -/
theorem statements_body : statements r.body =
    opening ++ (r.instanceMethods.map (methodStatement "proto") ++ (r.middle ++
      (r.staticMethods.map (methodStatement "ctor") ++ (r.staticFields.map staticFieldStatement ++ r.ending)))) := by
  unfold body prototypeTokens constructorTokens
  simp only [List.append_assoc]
  have onProto : (r.instanceMethods.map (methodTokens "proto")) =
      r.instanceMethods.map (fun m => statement (methodStatement "proto" m)) := rfl
  have onCtor : (r.staticMethods.map (methodTokens "ctor")) =
      r.staticMethods.map (fun m => statement (methodStatement "ctor" m)) := rfl
  have fields : (r.staticFields.map staticFieldTokens) =
      r.staticFields.map (fun f => statement (staticFieldStatement f)) := rfl
  rw [onProto, onCtor, fields]
  unfold Token.bind definition defaultPrototype
  -- all of them end with a semicolon, but for the answer at the end
  rw [statements_cons rfl, statements_cons rfl, statements_flatten (fun _ _ => rfl), statements_cons rfl,
    statements_cons rfl, statements_cons rfl, statements_cons rfl, statements_cons rfl,
    statements_flatten (fun _ _ => rfl), statements_flatten (fun _ _ => rfl), statements_cons rfl,
    statements_answer rfl]
  rfl

/-- Between the methods, only the identity of the class is defined, and on the prototype. -/
theorem definitions_middle : (r.middle.filterMap (definition? "proto") = [identityDefinition]) ∧
    r.middle.filterMap (definition? "ctor") = [] := by
  have identity := definition?_define "proto" "metaTypeId" (isArgument_expr "meta_type_id")
    (isArgument_fixedPath "PropertyFlags" "NONE")
  have different : (⟨"proto", false⟩ : Identifier) ≠ ⟨"ctor", false⟩ := by decide
  have other := definition?_other different "define_property"
    [[text "metaTypeId"], expr "meta_type_id", fixedPath ["PropertyFlags", "NONE"]]
  unfold middle
  constructor
  · simp only [List.filterMap_cons, identity]
    rfl
  · simp only [List.filterMap_cons, other]
    rfl

/-- The properties of the prototype are the instance methods and the identity of the class. -/
theorem definitionsOn_proto :
    definitionsOn "proto" r.body = r.instanceMethods.map methodDefinition ++ [identityDefinition] := by
  have front : opening.filterMap (definition? "proto") = [] := rfl
  have back : r.ending.filterMap (definition? "proto") = [] := rfl
  unfold definitionsOn
  rw [statements_body]
  simp only [List.filterMap_append]
  rw [front, back, definitions_methods, definitions_otherMethods (by decide), definitions_otherFields,
    (definitions_middle r).1]
  simp

/-- The properties of the constructor object are the static methods and the static fields. -/
theorem definitionsOn_ctor : definitionsOn "ctor" r.body =
    r.staticMethods.map methodDefinition ++ r.staticFields.map staticFieldDefinition := by
  have front : opening.filterMap (definition? "ctor") = [] := rfl
  have back : r.ending.filterMap (definition? "ctor") = [] := rfl
  unfold definitionsOn
  rw [statements_body]
  simp only [List.filterMap_append]
  rw [front, back, definitions_methods, definitions_otherMethods (by decide), definitions_staticFields,
    (definitions_middle r).2]
  simp

/-- The definition of the constructor object on the global object. -/
def publishedDefinition : Definition :=
  ⟨Text.stringLiteral r.label, send (expr "ctor") "clone" [], expr "fixed"⟩

/-- The only property that the global object gets is the constructor object, under the name of the class. -/
theorem globalDefinitions_body : globalDefinitions r.body = [r.publishedDefinition] := by
  -- whatever stands in front of the ending defines properties of other objects
  have front : opening.filterMap globalDefinition? = [] := rfl
  have between : r.middle.filterMap globalDefinition? = [] := rfl
  have methods : ∀ (object : String) (methods : List MethodBinding),
      (methods.map (methodStatement object)).filterMap globalDefinition? = [] := by
    intro object methods
    rw [List.filterMap_map]
    exact List.filterMap_eq_nil_iff.2 (fun _ _ => rfl)
  have fields : (r.staticFields.map staticFieldStatement).filterMap globalDefinition? = [] := by
    rw [List.filterMap_map]
    exact List.filterMap_eq_nil_iff.2 (fun _ _ => rfl)
  have published := globalDefinition?_define r.label (isArgument_send "clone" [] (isArgument_expr "ctor").whole)
    (isArgument_expr "fixed")
  unfold globalDefinitions
  rw [statements_body]
  simp only [List.filterMap_append]
  rw [front, methods, between, methods, fields]
  simp only [List.nil_append, ending, List.filterMap_cons, published]
  rfl

end Registration

end ScriptBridge.Binding
