import ScriptBridge.Proofs.Binding.ClassFile
import ScriptBridge.Proofs.Token.Phrases

/-!
# ScriptBridge.Proofs.Binding.Printing

Printing a class file loses nothing.

The code of every part of a class file fits: its templates are made from the vocabulary, and everything that comes
from outside (names, paths, types, texts, numbers) was checked or quoted on its way in.  So the printed text reads
as the lexemes of the code: no white space falls inside a word, a literal or an operator, and no two tokens fuse.

Main result:
  * `ClassFile.reads_back` — for every class whose code can be made, reading the printed file gives back the lexemes
    of its tokens.
-/

namespace ScriptBridge.Binding

open ScriptBridge.Symbol ScriptBridge.Declared ScriptBridge.Token ScriptBridge.Text

/-- An expression: it may stand in a line, and the line goes on behind it. -/
abbrev Phrase (stream : List Token) : Prop :=
  Leads Mode.inline Mode.inline stream

/-! ## §1. Wrappers. -/

namespace Wrapper

/-- What the code of a wrapper takes from outside is readable. -/
structure Readable (w : Wrapper) : Prop where
  name : w.name.IsName
  target : w.target.IsName
  types : ∀ a ∈ w.arguments, Phrase a.type

/-- The wrapper of a callable takes nothing unreadable from it, since its names were checked. -/
theorem readable_ofCallable {c : Callable} {w : Wrapper} (h : Wrapper.ofCallable c = .ok w) : w.Readable := by
  obtain ⟨name, named, h⟩ := bind_ok h
  obtain ⟨arguments, typed, h⟩ := bind_ok h
  obtain ⟨target, aimed, h⟩ := bind_ok h
  cases h
  refine ⟨isName_ofText named, isName_escaped aimed, fun a mem => ?_⟩
  obtain ⟨p, -, made⟩ := exists_of_mem_mapM typed mem
  obtain ⟨type, checked, made⟩ := bind_ok made
  cases made
  exact leads_typeTokens checked

variable {owner : List Token} {w : Wrapper}

theorem leads_parameter (name type : String) (shape : hasIdentifierShape name.toList = true)
    (shape' : hasIdentifierShape type.toList = true) :
    Phrase (typed (expr name) (borrowMut (expr type))) :=
  leads_typed (leads_expr name shape) (leads_borrowMut (leads_expr type shape'))

/-- The parameters that every wrapper has are readable. -/
theorem leads_callParameters : ∀ part ∈ callParameters, Phrase part :=
  parts_cons (leads_parameter "ctx" "CallContext" rfl rfl) (parts_one (leads_parameter "engine" "ScriptEngine" rfl rfl))

/-- The name of an argument is read as it stands, whatever its number is. -/
theorem isName_argumentName (index : Nat) : (⟨"arg" ++ toString index, false⟩ : Identifier).IsName := by
  have text : ("arg" ++ toString index).toList = 'a' :: 'r' :: 'g' :: (toString index).toList := by simp
  refine isName_fixed ?_
  rw [text]
  refine Bool.and_eq_true_iff.2 ⟨rfl, List.all_eq_true.2 (fun c mem => ?_)⟩
  rcases List.mem_cons.1 mem with rfl | mem
  · decide
  rcases List.mem_cons.1 mem with rfl | mem
  · decide
  · exact isIdentContinue_of_mem_number mem

/-- The name of an argument is an expression. -/
theorem leads_argumentName {p : Mode → Bool} (index : Nat) : Leads p Mode.inline [argumentName index] :=
  leads_word (isName_argumentName index)

/-- A conversion between the two sides is an expression if its type and its arguments are. -/
theorem leads_conversion {p : Mode → Bool} (method : String) (shape : hasIdentifierShape method.toList = true)
    {type : List Token} {arguments : List (List Token)} (h : Phrase type) (passed : ∀ part ∈ arguments, Phrase part) :
    Leads p Mode.inline (conversion method type arguments) :=
  leads_orFail (leads_call (leads_withType (leads_fixedMember (leads_expr "ctx" rfl) method shape) h)
    (parts_cons (leads_expr "FN" rfl) passed))

/-- A local name is readable in front of its type, writable or not. -/
theorem leads_localName {p : Mode → Bool} (writable : Bool) {name : Token} (h : ∀ p, Leads p Mode.inline [name]) :
    Leads p Mode.inline (localName writable name) := by
  unfold localName
  split
  · exact (leads_expr "mut" rfl).cons (h _)
  · exact h _

/-- The check of the number of arguments is readable. -/
theorem leads_countCheck : Phrase w.countCheck := by
  unfold countCheck
  split
  · split
    · exact Leads.nil
    · exact leads_statement (leads_orFail (leads_send (leads_expr "ctx" rfl) "check_arg_count" rfl
        (parts_cons (leads_expr "FN" rfl) (parts_one (leads_number _))))).settled
  · exact Leads.nil

/-- The lines that read the receiver are readable. -/
theorem leads_receiver (h : Phrase owner) : Phrase (w.receiverTokens owner) := by
  unfold receiverTokens
  split
  · refine leads_bind (leads_typed (leads_localName _ (fun _ => leads_expr "this" rfl)) h)
      (leads_conversion _ ?_ h parts_nil)
    split <;> decide
  · exact Leads.nil

/-- The line that reads an argument is readable. -/
theorem leads_argument {a : Argument} (index : Nat) (h : Phrase a.type) : Phrase (argumentTokens index a) :=
  leads_bind (leads_typed (leads_localName _ (fun _ => leads_argumentName index)) h)
    (leads_conversion "argument_as" rfl h (parts_one (leads_number index)))

/-- An argument is readable in the native call, whether by value or by reference. -/
theorem leads_passed (a : Argument) (index : Nat) : Phrase (passedTokens index a) := by
  unfold passedTokens
  split
  · exact leads_argumentName index
  · exact leads_borrow (leads_argumentName index)
  · exact leads_borrowMut (leads_argumentName index)

/-- The native call is an expression. -/
theorem leads_nativeCall (h : Phrase owner) (r : w.Readable) : Phrase (w.nativeCall owner) := by
  have passed : ∀ part ∈ w.arguments.mapIdx passedTokens, Phrase part := by
    intro part mem
    obtain ⟨index, bound, rfl⟩ := List.mem_mapIdx.1 mem
    exact leads_passed _ index
  unfold nativeCall
  split
  · exact leads_call (leads_member (leads_expr "this" rfl) r.target) passed
  · exact leads_call (leads_through (leads_applied h) r.target) passed

/-- The line that holds the native call is readable, with and without a result. -/
theorem leads_invocation (h : Phrase owner) (r : w.Readable) : Phrase (w.invocation owner) := by
  have native := leads_nativeCall h r
  unfold invocation
  split
  · exact leads_bind (leads_typed (leads_expr "ret" rfl) h) native
  · exact leads_statement native.settled
  · exact leads_bind (leads_expr "ret" rfl) (leads_send native "to_script" rfl (parts_one (leads_expr "engine" rfl)))

/-- The line that writes the receiver back is readable. -/
theorem leads_writeBack (h : Phrase owner) : Phrase (w.writeBack owner) := by
  unfold writeBack
  split
  · split
    · exact Leads.nil
    · exact leads_statement (leads_call (leads_withType (leads_fixedMember (leads_expr "ctx" rfl) "write_back" rfl) h)
        (parts_cons (leads_expr "engine" rfl) (parts_one (leads_borrow (leads_expr "this" rfl))))).settled
  · exact Leads.nil

/-- The answer of a wrapper is readable. -/
theorem leads_answer (h : Phrase owner) : Phrase (w.answer owner) := by
  unfold answer
  split
  · refine leads_call (leads_expr "Ok" rfl) (parts_one (leads_call ?_
      (parts_cons (leads_expr "engine" rfl) (parts_one (leads_borrow (leads_expr "ret" rfl))))))
    exact leads_through (leads_asInterface h "ScriptClass" rfl) (isName_fixed (by decide))
  · exact leads_call (leads_expr "Ok" rfl) (parts_one (leads_fixedPath ["ScriptValue", "Undefined"] rfl))
  · exact leads_call (leads_expr "Ok" rfl) (parts_one (leads_expr "ret" rfl))

/-- The code of a wrapper is an item. -/
theorem leads_tokens (h : Phrase owner) (r : w.Readable) : Leads Mode.settled Mode.settled (w.tokens owner) := by
  have arguments : Phrase (w.arguments.mapIdx argumentTokens).flatten := by
    refine Leads.flatten (fun part mem => ?_)
    obtain ⟨index, bound, rfl⟩ := List.mem_mapIdx.1 mem
    exact leads_argument index (r.types _ (List.getElem_mem bound))
  have head : Phrase (constant "FN" (borrow (expr "str")) [text w.label]) :=
    leads_constant "FN" rfl (leads_borrow (leads_expr "str" rfl)) (leads_text _).settled
  exact leads_function r.name leads_callParameters (leads_returning (leads_expr "CallResult" rfl))
    ((((((head.append leads_countCheck).append (leads_receiver h)).append arguments).append
      (leads_invocation h r)).append (leads_writeBack h)).append (leads_answer h))

end Wrapper

/-! ## §2. Selectors. -/

namespace Selector

/-- What the code of a selector takes from outside is readable. -/
structure Readable (s : Selector) : Prop where
  name : s.name.IsName
  wrappers : ∀ c ∈ s.candidates, c.wrapper.IsName
  types : ∀ c ∈ s.candidates, ∀ type ∈ c.types, Phrase type

/-- A candidate for an overloaded name takes nothing unreadable from its callable. -/
theorem readable_candidateOf {c : Callable} {made : Candidate} (h : candidateOf c = .ok made) :
    made.wrapper.IsName ∧ ∀ type ∈ made.types, Phrase type := by
  obtain ⟨wrapper, named, h⟩ := bind_ok h
  obtain ⟨types, typed, h⟩ := bind_ok h
  cases h
  refine ⟨isName_ofText named, fun type mem => ?_⟩
  obtain ⟨p, -, checked⟩ := exists_of_mem_mapM typed mem
  exact leads_typeTokens checked

/-- The selector of an overloaded name takes nothing unreadable from its set. -/
theorem readable_ofSet {className : String} {callables : Callables} {set : OverloadSet} {s : Selector}
    (h : Selector.ofSet className callables set = .ok s) : s.Readable := by
  obtain ⟨name, named, h⟩ := bind_ok h
  obtain ⟨candidates, made, h⟩ := bind_ok h
  cases h
  refine ⟨isName_ofText named, fun c mem => ?_, fun c mem => ?_⟩
  all_goals obtain ⟨callable, -, one⟩ := exists_of_mem_mapM made mem
  · exact (readable_candidateOf one).1
  · exact (readable_candidateOf one).2

variable {s : Selector} {p : Mode → Bool}

/-- A field of a record is readable if its value is. -/
theorem leads_recordField (name : String) (shape : hasIdentifierShape name.toList = true) {value : List Token}
    (h : Leads Mode.inline Mode.settled value) :
    Leads p Mode.inline (recordField name value) :=
  (leads_typed (leads_expr name shape) h).append leads_comma

/-- The kind of a selector is readable. -/
theorem leads_kind : Leads Mode.inline Mode.settled s.kindTokens := by
  unfold kindTokens
  split
  · exact (leads_fixedPath ["SelectorKind", "Constructor"] rfl).append
      (leads_braces (leads_typed (leads_expr "class_name" rfl) (leads_text _)))
  · exact (leads_fixedPath ["SelectorKind", "Method"] rfl).settled

/-- The row of a candidate is readable. -/
theorem leads_candidate {c : Candidate} (wrapper : c.wrapper.IsName) (types : ∀ type ∈ c.types, Phrase type) :
    Leads Mode.inline Mode.settled (candidateTokens c) := by
  have tests : ∀ part ∈ c.types.map (fun type => asInterface type "ScriptType" ++ scope ++ [fixed "is_of_type"]),
      Phrase part := by
    intro part mem
    obtain ⟨type, known, rfl⟩ := List.mem_map.1 mem
    exact leads_through (leads_asInterface (types type known) "ScriptType" rfl) (isName_fixed (by decide))
  have params := leads_recordField (p := Mode.inline) "params" rfl
    (leads_borrow (leads_brackets (leads_commas tests))).settled
  exact (leads_expr "Overload" rfl).cons
    (leads_braces (params.append (leads_recordField "wrapper" rfl (leads_word wrapper).settled)))

/-- The code of a selector is an item. -/
theorem leads_tokens (r : s.Readable) : Leads Mode.settled Mode.settled s.tokens := by
  have candidates : ∀ part ∈ s.candidates.map candidateTokens, Leads Mode.inline Mode.settled part := by
    intro part mem
    obtain ⟨c, known, rfl⟩ := List.mem_map.1 mem
    exact leads_candidate (r.wrappers c known) (r.types c known)
  have fields := (leads_recordField (p := Mode.inline) "name" rfl (leads_text s.label).settled).append
    ((leads_recordField (p := Mode.inline) "kind" rfl (leads_kind (s := s))).append
      (leads_recordField (p := Mode.inline) "overloads" rfl
        (leads_borrow (leads_brackets (leads_blocks candidates))).settled))
  have record : Leads Mode.inline Mode.settled
      [fixed "Selector", braces (recordField "name" [text s.label] ++ recordField "kind" s.kindTokens ++
        recordField "overloads" (borrow [brackets (commas (s.candidates.map candidateTokens))]))] := by
    rw [List.append_assoc]
    exact (leads_expr "Selector" rfl).cons (leads_braces fields)
  have body := (leads_constant (p := Mode.inline) "SELECTOR" rfl (leads_expr "Selector" rfl) record).append
    (leads_send (leads_expr "SELECTOR" rfl) "dispatch" rfl
      (parts_cons (leads_expr "ctx" rfl) (parts_one (leads_expr "engine" rfl))))
  exact leads_function r.name Wrapper.leads_callParameters (leads_returning (leads_expr "CallResult" rfl)) body

end Selector

/-! ## §3. Marshalling. -/

theorem leads_undeletable {p : Mode → Bool} : Leads p Mode.inline undeletable :=
  leads_fixedPath ["PropertyFlags", "UNDELETABLE"] rfl

theorem leads_unchangeable {p : Mode → Bool} : Leads p Mode.inline unchangeable :=
  leads_undeletable.append (leads_bar.cons (leads_fixedPath ["PropertyFlags", "READ_ONLY"] rfl))

/-- The identifier of a field is read as it stands. -/
theorem isName_fieldIdentifier {d : Declaration} {id : Identifier} (h : fieldIdentifier d = .ok id) : id.IsName := by
  unfold fieldIdentifier at h
  split at h
  · exact isName_ofText h
  · exact isName_escaped h

namespace Field

variable {f : Field}

/-- A field that is made from a declaration has a name that is read as it stands. -/
theorem isName_ofDeclaration {d : Declaration} (h : Field.ofDeclaration d = .ok f) : f.name.IsName := by
  obtain ⟨name, named, h⟩ := bind_ok h
  cases h
  exact isName_fieldIdentifier named

/-- The value of a field, converted, is an expression. -/
theorem leads_value (h : f.name.IsName) (conversion : String)
    (shape : hasIdentifierShape conversion.toList = true) : Phrase (f.value conversion) :=
  leads_send (leads_member (leads_expr "value" rfl) h) conversion shape (parts_one (leads_expr "engine" rfl))

/-- The line that defines a constant property is readable. -/
theorem leads_constantDefinition (h : f.name.IsName) : Phrase f.constantDefinition := by
  have shape : hasIdentifierShape (constantConversion f.type).toList = true := by
    unfold constantConversion
    split <;> decide
  have arguments : Phrase (commas [[text f.label], f.value (constantConversion f.type), unchangeable]) :=
    leads_commas (parts_cons (leads_text _) (parts_cons (leads_value h _ shape) (parts_one leads_unchangeable)))
  exact leads_statement ((leads_fixedMember (leads_expr "handle" rfl) "define_property" rfl).append
    (leads_parens (arguments.settled.append leads_comma))).settled

/-- The line that defines a property is readable. -/
theorem leads_definition (h : f.name.IsName) : Phrase f.definition := by
  unfold definition
  split
  · exact leads_constantDefinition h
  · exact leads_statement (leads_send (leads_expr "handle" rfl) "define_property" rfl
      (parts_cons (leads_text _) (parts_cons (leads_value h "to_script" rfl) (parts_one leads_undeletable)))).settled

/-- The line that reads a property is readable. -/
theorem leads_reading {p : Mode → Bool} (h : f.name.IsName) {type : List Token} (typed : Phrase type) :
    Leads p Mode.inline (f.reading type) :=
  leads_statement ((leads_member (leads_expr "out" rfl) h).append (leads_equals.cons (leads_orFail (leads_call
    (leads_withType (leads_fixedMember (leads_expr "handle" rfl) "property_as" rfl) typed)
    (parts_one (leads_text _)))))).settled

end Field

namespace Marshalling

/-- What the marshalling code takes from outside is readable. -/
structure Readable (m : Marshalling) : Prop where
  names : ∀ f ∈ m.fields, f.1.name.IsName
  types : ∀ f ∈ m.fields, Phrase f.2

/-- The marshalling of checked fields takes nothing unreadable from them. -/
theorem readable_ofFields {fields : List Field} {whole : Bool} {m : Marshalling}
    (names : ∀ f ∈ fields, f.name.IsName) (h : ofFields fields whole = .ok m) : m.Readable := by
  obtain ⟨typed, made, h⟩ := bind_ok h
  cases h
  refine ⟨fun f mem => ?_, fun f mem => ?_⟩
  all_goals
    obtain ⟨field, known, one⟩ := exists_of_mem_mapM made mem
    obtain ⟨type, checked, one⟩ := bind_ok one
    cases one
  · exact names field known
  · exact leads_typeTokens checked

variable {m : Marshalling}

/-- The parameters of the functions that make script values are readable. -/
theorem leads_makerParameters {value : List Token} (h : Phrase value) :
    ∀ part ∈ makerParameters value, Phrase part :=
  parts_cons (Wrapper.leads_parameter "engine" "ScriptEngine" rfl rfl) (parts_one h)

theorem leads_valueParameter : Phrase valueParameter :=
  leads_typed (leads_expr "value" rfl) (leads_borrow (leads_expr "Self" rfl))

/-- The payload of a handle is an expression. -/
theorem leads_payload : Phrase m.payload := by
  unfold payload
  split
  · exact leads_statement (leads_send (leads_expr "handle" rfl) "set_data" rfl
      (parts_one (leads_send (leads_expr "value" rfl) "clone" rfl parts_nil))).settled
  · exact Leads.nil

/-- The line that makes a handle is readable. -/
theorem leads_newHandle (kind : String) (shape : hasIdentifierShape kind.toList = true) :
    Phrase (newHandle kind) := by
  refine leads_bind (leads_expr "handle" rfl) (leads_call
    (leads_withType (leads_fixedMember (leads_expr "engine" rfl) "new_handle" rfl) (leads_expr "Self" rfl))
    (parts_one ?_))
  exact leads_fixedPath ["HandleKind", kind] (by simp [shape]; decide)

theorem leads_handleAnswer : Phrase handleAnswer :=
  leads_call (leads_fixedPath ["ScriptValue", "Object"] rfl) (parts_one (leads_expr "handle" rfl))

/-- The code that writes a value onto an existing handle is readable. -/
theorem leads_toExisting (r : m.Readable) : Leads Mode.settled Mode.settled m.toExisting := by
  have definitions : Phrase (m.fields.map (fun f => f.1.definition)).flatten :=
    Leads.flatten_map (fun f known => Field.leads_definition (r.names f known))
  refine leads_function (isName_fixed (by decide)) ?_ Leads.nil (definitions.append leads_payload)
  intro part mem
  rcases List.mem_append.1 mem with mem | mem
  · exact leads_makerParameters leads_valueParameter part mem
  · exact parts_one (leads_typed (leads_expr "handle" rfl) (leads_borrow (leads_expr "ObjectRef" rfl))) part mem

/-- The code that makes a handle is readable. -/
theorem leads_toScriptValue : Leads Mode.settled Mode.settled toScriptValue := by
  have filled : Phrase (statement (call (fixedPath ["Self", "to_existing_script_value"])
      [expr "engine", expr "value", borrow (expr "handle")])) :=
    leads_statement (leads_call (leads_fixedPath ["Self", "to_existing_script_value"] rfl)
      (parts_cons (leads_expr "engine" rfl) (parts_cons (leads_expr "value" rfl)
        (parts_one (leads_borrow (leads_expr "handle" rfl)))))).settled
  exact leads_function (isName_fixed (by decide)) (leads_makerParameters leads_valueParameter)
    (leads_returning (leads_expr "ScriptValue" rfl))
    (((leads_newHandle "Mutable" rfl).append filled).append leads_handleAnswer)

/-- The code that makes a constant handle is readable. -/
theorem leads_toConst (r : m.Readable) : Leads Mode.settled Mode.settled m.toConst := by
  have definitions : Phrase (m.fields.map (fun f => f.1.constantDefinition)).flatten :=
    Leads.flatten_map (fun f known => Field.leads_constantDefinition (r.names f known))
  exact leads_function (isName_fixed (by decide)) (leads_makerParameters leads_valueParameter)
    (leads_returning (leads_expr "ScriptValue" rfl))
    ((((leads_newHandle "ConstSnapshot" rfl).append definitions).append leads_payload).append leads_handleAnswer)

theorem leads_fallible {type : List Token} (h : Phrase type) : Phrase (fallible type) :=
  (leads_expr "Result" rfl).cons
    (leads_applied (leads_commas (parts_cons h (parts_one (leads_expr "ConvertError" rfl)))))

/-- The code that restores a value is readable, from the payload or from the properties. -/
theorem leads_restore : Leads Mode.inline Mode.settled m.restore := by
  unfold restore
  split
  · have condition : Phrase ([fixed "if", fixed "let"] ++ call (expr "Some") [expr "data"]) :=
      ((leads_expr "if" rfl).cons (leads_expr "let" rfl)).append
        (leads_call (leads_expr "Some" rfl) (parts_one (leads_expr "data" rfl)))
    have stored : Phrase (call (withType (member (expr "handle") (fixed "data")) (expr "Self")) []) :=
      leads_call (leads_withType (leads_fixedMember (leads_expr "handle" rfl) "data" rfl) (leads_expr "Self" rfl))
        parts_nil
    have star : Phrase [mark '*'] := leads_star.before (fun _ => Mode.afterPath_of_inline)
    have copied : Phrase (statement (mark '*' :: expr "out" ++ mark '=' :: expr "data")) :=
      leads_statement ((star.cons (leads_expr "out" rfl)).append (leads_equals.cons (leads_expr "data" rfl))).settled
    exact (condition.append (leads_equals.cons stored)).append (leads_braces copied)
  · exact Leads.nil.settled

/-- The code that reads a value off a handle is readable. -/
theorem leads_fromScript (r : m.Readable) : Leads Mode.settled Mode.settled m.fromScript := by
  -- the parts of the function in order: the handle, the value that it carries, the fields, the answer
  have complaint : Phrase (operator ['|', '|'] ++
      call (fixedPath ["ConvertError", "wrong_type"]) [fixedPath ["Self", "CLASS_NAME"], expr "value"]) :=
    leads_either.append (leads_call (leads_fixedPath ["ConvertError", "wrong_type"] rfl)
      (parts_cons (leads_fixedPath ["Self", "CLASS_NAME"] rfl) (parts_one (leads_expr "value" rfl))))
  have handle : Phrase (orFail (send (send (expr "value") "as_object" []) "ok_or_else"
      [operator ['|', '|'] ++
        call (fixedPath ["ConvertError", "wrong_type"]) [fixedPath ["Self", "CLASS_NAME"], expr "value"]])) :=
    leads_orFail (leads_send (leads_send (leads_expr "value" rfl) "as_object" rfl parts_nil) "ok_or_else" rfl
      (parts_one complaint))
  have readings : Leads Mode.settled Mode.settled (m.fields.map (fun f => f.1.reading f.2)).flatten :=
    Leads.flatten_map (fun f known => (Field.leads_reading (r.names f known) (r.types f known)).settled)
  have input : ∀ part ∈ [typed (expr "value") (borrow (expr "ScriptValue")),
      typed (expr "out") (borrowMut (expr "Self"))], Phrase part :=
    parts_cons (leads_typed (leads_expr "value" rfl) (leads_borrow (leads_expr "ScriptValue" rfl)))
      (parts_one (Wrapper.leads_parameter "out" "Self" rfl rfl))
  have answer : Leads Mode.settled Mode.inline (call (expr "Ok") [[parens []]]) :=
    leads_call (leads_expr "Ok" rfl) (parts_one (leads_parens Leads.nil))
  exact leads_function (isName_fixed (by decide)) input (leads_returning (leads_fallible (leads_parens Leads.nil)))
    ((((leads_bind (leads_expr "handle" rfl) handle).append leads_restore).append readings).append answer)

/-- The whole of it is readable: the parts follow each other as items. -/
theorem leads_tokens (r : m.Readable) : Leads Mode.settled Mode.settled m.tokens :=
  (((leads_toExisting r).append leads_toScriptValue).append (leads_toConst r)).append (leads_fromScript r)

end Marshalling

/-- The conversions that every class has are readable. -/
theorem leads_conversions {type : List Token} (h : Phrase type) :
    Leads Mode.settled Mode.settled (conversionImplementations type) := by
  -- the two conversions to scripts differ in their names only
  have maker : ∀ name target : String, hasIdentifierShape name.toList = true → hasIdentifierShape target.toList = true →
      Leads Mode.settled Mode.settled
        (function (fixed name) [borrow (expr "self"), typed (expr "engine") (borrowMut (expr "ScriptEngine"))]
          (returning (expr "ScriptValue"))
          (call (asInterface (expr "Self") "ScriptClass" ++ scope ++ [fixed target]) [expr "engine", expr "self"])) := by
    intro name target named aimed
    have target : Phrase (call (asInterface (expr "Self") "ScriptClass" ++ scope ++ [fixed target])
        [expr "engine", expr "self"]) :=
      leads_call (leads_through (leads_asInterface (leads_expr "Self" rfl) "ScriptClass" rfl) (isName_fixed aimed))
        (parts_cons (leads_expr "engine" rfl) (parts_one (leads_expr "self" rfl)))
    exact leads_function (isName_fixed named) (parts_cons (leads_borrow (leads_expr "self" rfl))
      (parts_one (Wrapper.leads_parameter "engine" "ScriptEngine" rfl rfl)))
      (leads_returning (leads_expr "ScriptValue" rfl)) target
  have input : ∀ part ∈ [typed (expr "value") (borrow (expr "ScriptValue"))], Phrase part :=
    parts_one (leads_typed (leads_expr "value" rfl) (leads_borrow (leads_expr "ScriptValue" rfl)))
  have makers := (maker "to_script" "to_script_value" (by decide) (by decide)).append
    (maker "to_script_const" "to_script_value_const" (by decide) (by decide))
  have writing := leads_implementation (p := Mode.settled) "ToScript" rfl h
    (makers.before (fun _ => Mode.settled_of_inline))
  have read : Phrase (call (withType (expr "from_script_class") (expr "Self")) [expr "value"]) :=
    leads_call (leads_withType (leads_expr "from_script_class" rfl) (leads_expr "Self" rfl))
      (parts_one (leads_expr "value" rfl))
  have conversion : Identifier.IsName ⟨"from_script", false⟩ := isName_fixed (by decide)
  have reading := leads_implementation (p := Mode.settled) "FromScript" rfl h
    (leads_function (p := Mode.inline) conversion input
      (leads_returning (Marshalling.leads_fallible (leads_expr "Self" rfl))) read)
  have tested : Phrase (call (withType (member (expr "value") (fixed "is_instance_of")) (expr "Self")) []) :=
    leads_call (leads_withType (leads_fixedMember (leads_expr "value" rfl) "is_instance_of" rfl) (leads_expr "Self" rfl))
      parts_nil
  have test : Identifier.IsName ⟨"is_of_type", false⟩ := isName_fixed (by decide)
  have testing := leads_implementation (p := Mode.settled) "ScriptType" rfl h
    (leads_function (p := Mode.inline) test input
      (leads_returning (leads_expr "bool" rfl)) tested)
  exact (writing.append reading).append testing

/-! ## §4. Registration. -/

namespace Registration

/-- What the code of a registration takes from outside is readable. -/
structure Readable (r : Registration) : Prop where
  constructor : r.constructor.IsName
  instanceMethods : ∀ m ∈ r.instanceMethods, m.function.IsName
  staticMethods : ∀ m ∈ r.staticMethods, m.function.IsName
  staticFields : ∀ f ∈ r.staticFields, f.name.IsName

/-- The functions that are bound to names have names that are read as they stand. -/
theorem isName_methodBindings {className : String} {callables : Callables} {methods : List Callable}
    {bindings : List MethodBinding} (h : methodBindings className callables methods = .ok bindings) :
    ∀ m ∈ bindings, m.function.IsName := by
  intro m mem
  obtain ⟨c, -, made⟩ := exists_of_mem_mapM h mem
  obtain ⟨function, named, made⟩ := bind_ok made
  cases made
  exact isName_ofText named

/-- A static field has a name that is read as it stands. -/
theorem isName_staticField {d : Declaration} {f : StaticField} (h : staticField d = .ok f) : f.name.IsName := by
  obtain ⟨name, named, h⟩ := bind_ok h
  cases h
  exact isName_fieldIdentifier named

/-- A registration takes nothing unreadable from the scope it is made from. -/
theorem readable_ofScope {s : Scope} {callables : Callables} {r : Registration} (h : ofScope s callables = .ok r) :
    r.Readable := by
  obtain ⟨constructor, named, h⟩ := bind_ok h
  obtain ⟨instanceMethods, onPrototype, h⟩ := bind_ok h
  obtain ⟨staticMethods, onConstructor, h⟩ := bind_ok h
  obtain ⟨staticFields, fields, h⟩ := bind_ok h
  cases h
  refine ⟨isName_ofText named, isName_methodBindings onPrototype, isName_methodBindings onConstructor, fun f mem => ?_⟩
  obtain ⟨d, -, made⟩ := exists_of_mem_mapM fields mem
  exact isName_staticField made

variable {r : Registration}

theorem leads_definition {object value flags : List Token} (label : String) (first : Phrase object)
    (second : Phrase value) (third : Phrase flags) : Phrase (definition object label value flags) :=
  leads_statement (leads_send first "define_property" rfl
    (parts_cons (leads_text label) (parts_cons second (parts_one third)))).settled

/-- The line that binds a method is readable. -/
theorem leads_method (object : String) (shape : hasIdentifierShape object.toList = true) {m : MethodBinding}
    (h : m.function.IsName) : Phrase (methodTokens object m) :=
  leads_definition m.label (leads_expr object shape)
    (leads_send (leads_expr "engine" rfl) "new_function" rfl
      (parts_cons (leads_text _) (parts_cons (leads_word h) (parts_one (leads_number _))))) (leads_expr "fixed" rfl)

/-- The line that binds a static field is readable. -/
theorem leads_staticField {f : StaticField} (h : f.name.IsName) : Phrase (staticFieldTokens f) := by
  refine leads_definition f.label (leads_expr "ctor" rfl)
    (leads_send (leads_through (leads_expr "Self" rfl) h) "to_script" rfl (parts_one (leads_expr "engine" rfl))) ?_
  split
  · exact leads_unchangeable
  · exact leads_undeletable

/-- The argument of `defaultPrototype` stands behind a path separator. -/
theorem leads_defaultPrototype {type : List Token} (h : Leads Mode.afterPath Mode.inline type) :
    Phrase (defaultPrototype type) := by
  have function : Phrase (member (expr "engine") (fixed "set_default_prototype") ++ scope ++ type) :=
    ((leads_fixedMember (leads_expr "engine" rfl) "set_default_prototype" rfl).append leads_scope).append
      (h.before (fun _ => Mode.afterPath_of_scope))
  exact leads_statement (leads_call function
    (parts_one (leads_send (leads_expr "proto" rfl) "clone" rfl parts_nil))).settled

theorem leads_sharedArgument : Leads Mode.afterPath Mode.inline sharedArgument :=
  (leads_less.cons ((leads_expr "Shared" rfl).cons ((leads_less.before (fun _ => Mode.afterPath_of_inline)).cons
    (leads_expr "Self" rfl)))).append leads_twoGreater

/-- The lines that build the prototype are readable. -/
theorem leads_prototype (h : r.Readable) : Phrase r.prototypeTokens := by
  have methods : Phrase (r.instanceMethods.map (methodTokens "proto")).flatten :=
    Leads.flatten_map (fun m known => leads_method "proto" rfl (h.instanceMethods m known))
  have made : Phrase (bind (expr "proto") (send (expr "engine") "new_object" [])) :=
    leads_bind (leads_expr "proto" rfl) (leads_send (leads_expr "engine" rfl) "new_object" rfl parts_nil)
  have numbered : Phrase (bind (expr "meta_type_id")
      (call (withType (member (expr "engine") (fixed "meta_type_id")) (expr "Self")) [])) :=
    leads_bind (leads_expr "meta_type_id" rfl) (leads_call
      (leads_withType (leads_fixedMember (leads_expr "engine" rfl) "meta_type_id" rfl) (leads_expr "Self" rfl)) parts_nil)
  have marked : Phrase (definition (expr "proto") "metaTypeId" (expr "meta_type_id")
      (fixedPath ["PropertyFlags", "NONE"])) :=
    leads_definition _ (leads_expr "proto" rfl) (leads_expr "meta_type_id" rfl)
      (leads_fixedPath ["PropertyFlags", "NONE"] rfl)
  exact ((((made.append methods).append numbered).append marked).append
    (leads_defaultPrototype (leads_angled (leads_expr "Self" rfl)))).append (leads_defaultPrototype leads_sharedArgument)

/-- The lines that build the constructor object are readable. -/
theorem leads_constructor (h : r.Readable) : Phrase r.constructorTokens := by
  have methods : Phrase (r.staticMethods.map (methodTokens "ctor")).flatten :=
    Leads.flatten_map (fun m known => leads_method "ctor" rfl (h.staticMethods m known))
  have fields : Phrase (r.staticFields.map staticFieldTokens).flatten :=
    Leads.flatten_map (fun f known => leads_staticField (h.staticFields f known))
  have made : Phrase (bind (expr "ctor") (send (expr "engine") "new_constructor"
      [[text r.label], [.word r.constructor], borrow (expr "proto"), [number r.length]])) :=
    leads_bind (leads_expr "ctor" rfl) (leads_send (leads_expr "engine" rfl) "new_constructor" rfl
      (parts_cons (leads_text _) (parts_cons (leads_word h.constructor)
        (parts_cons (leads_borrow (leads_expr "proto" rfl)) (parts_one (leads_number _))))))
  have published : Phrase (definition (send (expr "engine") "global_object" []) r.label
      (send (expr "ctor") "clone" []) (expr "fixed")) :=
    leads_definition _ (leads_send (leads_expr "engine" rfl) "global_object" rfl parts_nil)
      (leads_send (leads_expr "ctor" rfl) "clone" rfl parts_nil) (leads_expr "fixed" rfl)
  have answer : Phrase (call (fixedPath ["ScriptValue", "Object"]) [expr "ctor"]) :=
    leads_call (leads_fixedPath ["ScriptValue", "Object"] rfl) (parts_one (leads_expr "ctor" rfl))
  exact (((made.append methods).append fields).append published).append answer

theorem leads_tokens (h : r.Readable) : Leads Mode.settled Mode.settled r.tokens :=
  leads_function (isName_fixed (by decide)) (parts_one (Wrapper.leads_parameter "engine" "ScriptEngine" rfl rfl))
    (leads_returning (leads_expr "ScriptValue" rfl))
    (((leads_bind (leads_expr "fixed" rfl) leads_unchangeable).append (leads_prototype h)).append (leads_constructor h))

end Registration

/-! ## §5. The file. -/

namespace ClassFile

/-- What the code of a class file takes from outside is readable. -/
structure Readable (f : ClassFile) : Prop where
  runtime : Phrase f.runtime
  natives : Phrase f.natives
  type : Phrase f.type
  wrappers : ∀ w ∈ f.wrappers, w.Readable
  selectors : ∀ s ∈ f.selectors, s.Readable
  marshalling : f.marshalling.Readable
  registration : f.registration.Readable

/-- The fields of a class have names that are read as they stand. -/
theorem isName_fieldsOf {className : String} {members : List Declaration} {fields : List Field}
    (h : (fieldsOf className members).2 = .ok fields) : ∀ f ∈ fields, f.name.IsName := by
  induction members generalizing fields with
  | nil =>
    cases h
    intro f mem
    cases mem
  | cons d rest ih =>
    rw [fieldsOf] at h
    split at h
    · split at h
      next => cases h
      next field declared =>
        cases made : (fieldsOf className rest).2 with
        | error e =>
          simp only [made] at h
          cases h
        | ok others =>
          simp only [made] at h
          cases h
          intro f mem
          rcases List.mem_cons.1 mem with rfl | mem
          · exact Field.isName_ofDeclaration declared
          · exact ih made f mem
    · exact ih h

/-- Whatever made it into a class file was checked on its way. -/
theorem Made.readable {paths : Paths} {s : Scope} {f : ClassFile} (made : Made paths s f) : f.Readable where
  runtime := leads_pathOf made.runtime
  natives := leads_pathOf made.natives
  type := leads_typeTokens made.type
  wrappers := fun w mem => by
    obtain ⟨c, -, one⟩ := exists_of_mem_mapM made.wrappers mem
    exact Wrapper.readable_ofCallable one
  selectors := fun w mem => by
    obtain ⟨set, -, one⟩ := exists_of_mem_mapM made.selectors mem
    exact Selector.readable_ofSet one
  marshalling := by
    obtain ⟨fields, collected, one⟩ := made.marshalling
    exact Marshalling.readable_ofFields (isName_fieldsOf collected) one
  registration := Registration.readable_ofScope made.registration

variable {f : ClassFile}

/-- The attributes at the head of a file are readable. -/
theorem leads_allowances : Leads Mode.settled Mode.inline allowances := by
  have allowed : Phrase (call (expr "allow") [expr "non_snake_case", expr "unused_variables", expr "unused_mut",
      expr "dead_code", fixedPath ["clippy", "all"]]) :=
    leads_call (leads_expr "allow" rfl) (parts_cons (leads_expr "non_snake_case" rfl)
      (parts_cons (leads_expr "unused_variables" rfl) (parts_cons (leads_expr "unused_mut" rfl)
        (parts_cons (leads_expr "dead_code" rfl) (parts_one (leads_fixedPath ["clippy", "all"] rfl))))))
  exact leads_hash.cons (leads_not.cons (leads_brackets allowed))

/-- The import of everything at a path is readable. -/
theorem leads_useAll {path : List Token} (h : Phrase path) : Phrase (useAll path) := by
  have path : Phrase (fixed "use" :: path ++ scope ++ [mark '*']) :=
    (((leads_expr "use" rfl).cons h).append leads_scope).append (leads_star.before (fun _ => Mode.afterPath_of_scope))
  exact leads_statement path.settled

/-- The code of a file is a series of items. -/
theorem leads_tokens (r : f.Readable) : Leads Mode.settled Mode.settled f.tokens := by
  have imports : Phrase (useAll (f.runtime ++ scope ++ [fixed "prelude"]) ++ useAll f.natives) :=
    (leads_useAll (leads_through r.runtime (isName_fixed (by decide)))).append (leads_useAll r.natives)
  have wrappers : Leads Mode.settled Mode.settled (f.wrappers.map (·.tokens f.type)).flatten :=
    Leads.flatten_map (fun w known => Wrapper.leads_tokens r.type (r.wrappers w known))
  have selectors : Leads Mode.settled Mode.settled (f.selectors.map (·.tokens)).flatten :=
    Leads.flatten_map (fun s known => Selector.leads_tokens (r.selectors s known))
  have label : Leads Mode.settled Mode.settled
      (constant "CLASS_NAME" (borrow (lifetime "static" ++ expr "str")) [text f.label]) :=
    (leads_constant "CLASS_NAME" rfl (leads_borrow ((leads_lifetime "static" rfl).append (leads_expr "str" rfl)))
      (leads_text _).settled).settled
  have publishes : Leads Mode.settled Mode.settled (implementation "ScriptClass" f.type
      (constant "CLASS_NAME" (borrow (lifetime "static" ++ expr "str")) [text f.label] ++
        f.marshalling.tokens ++ f.registration.tokens)) :=
    leads_implementation "ScriptClass" rfl r.type (((label.append (Marshalling.leads_tokens r.marshalling)).append
      (Registration.leads_tokens r.registration)).before (fun _ => Mode.settled_of_inline))
  have comment : Leads Mode.settled Mode.inline
      (documentation "Publishes the constructor on the engine's global object.") :=
    leads_documentation (by decide)
  have entry : Phrase (call (asInterface f.type "ScriptClass" ++ scope ++ [fixed "register_prototype"])
      [expr "engine"]) :=
    leads_call (leads_through (leads_asInterface r.type "ScriptClass" rfl) (isName_fixed (by decide)))
      (parts_one (leads_expr "engine" rfl))
  have function : Leads Mode.inline Mode.settled (fixed "pub" :: function (fixed "register_prototype")
      [typed (expr "engine") (borrowMut (expr "ScriptEngine"))] (returning (expr "ScriptValue"))
      (call (asInterface f.type "ScriptClass" ++ scope ++ [fixed "register_prototype"]) [expr "engine"])) :=
    (leads_expr "pub" rfl).cons (leads_function (isName_fixed (by decide))
      (parts_one (Wrapper.leads_parameter "engine" "ScriptEngine" rfl rfl))
      (leads_returning (leads_expr "ScriptValue" rfl)) entry)
  -- the parts in the order in which they stand
  have front := ((leads_allowances.append imports).settled.append wrappers).append selectors
  have code := ((front.append publishes).append (leads_conversions r.type)).append (comment.append function)
  simpa [ClassFile.tokens, List.append_assoc] using code

/-- Reading the printed file of a class gives back the lexemes of its code. -/
theorem reads_back {paths : Paths} {s : Scope} {f : ClassFile} (h : (ClassFile.ofScope paths s).2 = .ok f) :
    Lexeme.read? (layout f.tokens).toList = some (Lexeme.ofTokens f.tokens) := by
  obtain ⟨after, -, fits⟩ := leads_tokens (made_ofScope h).readable .start rfl
  exact fits.read?_layout

theorem reads_back_grove : ∃ f, (ClassFile.ofScope .standard grove).2 = .ok f ∧
    Lexeme.read? (layout f.tokens).toList = some (Lexeme.ofTokens f.tokens) := by
  obtain ⟨f, made⟩ := grove_ok
  exact ⟨f, made, reads_back made⟩

end ClassFile

/-! ## §6. The module file. -/

namespace ModuleFile

/-- What the module file takes from outside is readable. -/
structure Readable (f : ModuleFile) : Prop where
  runtime : Phrase f.runtime
  modules : ∀ m ∈ f.modules, m.IsName

/-- A module file takes nothing unreadable from its requests. -/
theorem readable_ofModules {paths : Paths} {modules : List String} {f : ModuleFile}
    (made : ofModules paths modules = .ok f) : f.Readable := by
  obtain ⟨runtime, fromRuntime, made⟩ := bind_ok made
  obtain ⟨names, checked, made⟩ := bind_ok made
  cases made
  exact ⟨leads_pathOf fromRuntime, isName_of_mapM isName_escaped checked⟩

variable {f : ModuleFile}

/-- The code of the module file is a series of items. -/
theorem leads_tokens (r : f.Readable) : Leads Mode.inline Mode.settled f.tokens := by
  have declarations : Phrase (f.modules.map (fun m => statement [fixed "pub", fixed "mod", .word m])).flatten :=
    Leads.flatten_map (fun m known => leads_statement
      ((leads_expr "pub" rfl).cons ((leads_expr "mod" rfl).cons (leads_word (r.modules m known)))).settled)
  have registrations : Phrase (f.modules.map (fun m =>
      statement (call (Token.word m :: scope ++ [fixed "register_prototype"]) [expr "engine"]))).flatten :=
    Leads.flatten_map (fun m known => leads_statement (leads_call
      (leads_through (leads_word (r.modules m known)) (isName_fixed (by decide)))
      (parts_one (leads_expr "engine" rfl))).settled)
  have engine : Phrase
      (typed (expr "engine") (borrowMut (f.runtime ++ scope ++ fixedPath ["prelude", "ScriptEngine"]))) :=
    leads_typed (leads_expr "engine" rfl) (leads_borrowMut
      ((r.runtime.append leads_scope).append (leads_fixedPath ["prelude", "ScriptEngine"] rfl)))
  have function : Leads Mode.inline Mode.settled (fixed "pub" :: function (fixed "register_all_prototypes")
      [typed (expr "engine") (borrowMut (f.runtime ++ scope ++ fixedPath ["prelude", "ScriptEngine"]))] []
      (f.modules.map (fun m =>
        statement (call (Token.word m :: scope ++ [fixed "register_prototype"]) [expr "engine"]))).flatten) :=
    (leads_expr "pub" rfl).cons (leads_function (isName_fixed (by decide)) (parts_one engine) Leads.nil registrations)
  have comment : Leads Mode.settled Mode.inline
      (documentation "Registers every generated class, in generation order.") :=
    leads_documentation (by decide)
  exact (declarations.settled.append comment).append function

end ModuleFile

end ScriptBridge.Binding
