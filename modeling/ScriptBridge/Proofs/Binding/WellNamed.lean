import ScriptBridge.Proofs.Binding.Printing
import ScriptBridge.Proofs.Binding.Names
import ScriptBridge.Proofs.Declared.TypeGrammar

/-!
# ScriptBridge.Proofs.Binding.WellNamed

Classes whose code can always be made.

The making of a class file fails at the first name that is no identifier.  Names come into it in many ways: as they
are, with keywords raised, in snake case, escaped into fragments, and as segments of types.  `Scope.WellNamed` asks of
a class what the database says about it: a scoped name, plain names for its exposed members and their native items, and
types of the grammar.  All identifiers that are made of these are made of characters of names behind a letter.

Main results:
  * `plain_wrapperName`, `plain_selectorName` - generated names are plain;
  * `ClassFile.exists_ofScope` - the code of a well-named class can be made;
  * `isName_of_fits` - the identifiers of a stream that can be written are valid, however deep they stand.
-/

namespace ScriptBridge.Token

/-! ## §1. The identifiers of a stream. -/

/-- All identifiers of a stream, those inside of groups included. -/
def identifiers : List Token → List Identifier
  | [] => []
  | .word id :: rest => id :: identifiers rest
  | .group _ inner :: rest => identifiers inner ++ identifiers rest
  | .sign _ _ :: rest => identifiers rest
  | .literal _ :: rest => identifiers rest

theorem identifiers_operator (signs : List Char) (rest : List Token) :
    identifiers (operator signs ++ rest) = identifiers rest := by
  induction signs using operator.induct with
  | case1 => rfl
  | case2 c => rw [operator, List.singleton_append, mark, identifiers]
  | case3 c signs several ih =>
    rw [operator, List.cons_append, identifiers, ih]
    exact several

/-- The identifiers of a stream that can be written are valid, however deep they stand. -/
theorem isName_of_fits {before after : Mode} {stream : List Token} (h : Fits before stream after) :
    ∀ id ∈ identifiers stream, id.IsName := by
  induction h with
  | nil =>
    rw [identifiers]
    exact List.forall_mem_nil _
  | word name _ ih =>
    rw [identifiers]
    exact List.forall_mem_cons.2 ⟨name, ih⟩
  | literal _ _ ih => rwa [identifiers]
  | operator _ _ ih => rwa [identifiers_operator]
  | @lifetime _ _ name _ _ shape _ ih =>
    rw [lifetime, List.cons_append, List.cons_append, List.nil_append, identifiers, fixed, identifiers]
    exact List.forall_mem_cons.2 ⟨isName_fixed shape, ih⟩
  | group _ _ _ inner ih =>
    rw [identifiers]
    intro id mem
    exact (List.mem_append.1 mem).elim (inner id) (ih id)

end ScriptBridge.Token

namespace ScriptBridge.Symbol

open ScriptBridge.Text ScriptBridge.Declared

/-! ## §2. Well-named classes. -/

namespace Declaration

/-- Whether scripts get to see the member. -/
def isExposed (d : Declaration) : Bool :=
  d.isExposedFunction || d.isExposedField || d.isExposedStaticField

/-- The names and types of a member are in order, as far as code is made of them. -/
structure WellNamed (d : Declaration) : Prop where
  name : Usable d.name.toList
  native : ∀ native ∈ d.native, Usable native.toList
  parameters : d.isExposedFunction = true → ∀ p ∈ d.parameters, IsType p.type.toList
  type : d.isExposedField = true → IsType d.type.toList

end Declaration

/-- The class has a scoped name, and the names and types of what scripts see of it are in order. -/
structure Scope.WellNamed (s : Scope) : Prop where
  owner : Scoped Usable s.owner.name.toList
  members : ∀ d ∈ s.members, d.isExposed = true → d.WellNamed

theorem usable_ne {name : String} (h : Usable name.toList) : name ≠ "crate" := by
  have other := h.name
  rwa [String.ofList_toList] at other

end ScriptBridge.Symbol

namespace ScriptBridge.Binding

open ScriptBridge.Symbol ScriptBridge.Declared ScriptBridge.Token ScriptBridge.Text

/-! ## §3. Generated names. -/

theorem isNameChar_of_mem_spelled {texts : List (List Char)} {d : Char} (mem : d ∈ spelled texts) :
    isNameChar d = true := by
  induction texts with
  | nil => cases mem
  | cons s texts ih =>
    rw [spelled_cons] at mem
    rcases List.mem_cons.1 mem with rfl | mem
    · rfl
    · exact (List.mem_append.1 mem).elim (isNameChar_canonicalId s d) ih

section

variable {className : String}

/-- A class as part of an identifier begins with the letter that its name begins with. -/
theorem plain_classId (h : Scoped Usable className.toList) : isPlainName (classId className).toList = true := by
  obtain ⟨first, rest, text, letter, -⟩ := h.exists_letter (fun part => part.plain)
  have apart : first ≠ ':' := (isNameChar_classes (isNameChar_of_isAlpha letter)).colon
  have kept : (first.isAlphanum || first == '_') = true := isNameChar_of_isAlpha letter
  rw [classId, String.toList_ofList, text, replacePair_cons apart, List.map_cons, if_pos kept]
  refine isPlainName_cons letter (fun d mem => ?_)
  obtain ⟨c, -, rfl⟩ := List.mem_map.1 mem
  split
  next name => exact name
  next => rfl

/-- The name of a wrapper is plain. -/
theorem plain_wrapperName (h : Scoped Usable className.toList) (d : Declaration) :
    isPlainName (wrapperName className d).toList = true := by
  rw [toList_wrapperName]
  exact isPlainName_append (plain_classId h) (fun _ mem => isNameChar_of_mem_spelled mem)

/-- The name of a selector is plain, if that of its methods is. -/
theorem plain_selectorName (h : Scoped Usable className.toList) {method : String}
    (name : method = constructorName className ∨ isPlainName method.toList = true) :
    isPlainName (selectorName className method).toList = true := by
  by_cases constructor : method = constructorName className
  · rw [constructor, toList_selectorName_ctor]
    exact isPlainName_append (plain_classId h) (List.all_eq_true.1 (by decide))
  · rw [toList_selectorName constructor]
    refine isPlainName_append (plain_classId h) (fun c mem => ?_)
    rcases List.mem_cons.1 mem with rfl | mem
    · rfl
    rcases List.mem_append.1 mem with mem | mem
    · exact isNameChar_of_mem (name.resolve_left constructor) mem
    · exact List.all_eq_true.1 (by decide : ('_' :: "selector".toList).all isNameChar = true) c mem

end

/-! ## §4. What a class file takes from members. -/

/-- The type of a parameter can be written. -/
theorem exists_targetTokens {p : Parameter} (h : IsType p.type.toList) : ∃ type, typeTokens p.target = .ok type := by
  have named : Nameable (basicType p.type.toList) := h.nameable
  have same : p.target = .ofBasic (basicType p.type.toList) := by
    rw [Parameter.target, TargetType.ofBasicText, Parameter.basicType, basicTypeText, String.toList_ofList]
  rwa [same]

section

variable {d : Declaration}

/-- A well-named field has an identifier. -/
theorem exists_fieldIdentifier (h : d.WellNamed) : ∃ id, fieldIdentifier d = .ok id := by
  unfold fieldIdentifier
  split
  next native given => exact ⟨_, ofText_plain (h.native native given).plain⟩
  next => exact escaped_plain h.name.plain (usable_ne h.name)

/-- So has the native function behind a well-named function. -/
theorem exists_nativeTarget (h : d.WellNamed) (isConstructor : Bool) :
    ∃ id, Identifier.escaped (nativeTarget d isConstructor) = .ok id := by
  unfold nativeTarget
  split
  next native given => exact escaped_plain (h.native native given).plain (usable_ne (h.native native given))
  next given =>
    split
    · split
      all_goals exact escaped_plain (by decide) (by decide)
    · have snake := h.name.snake
      rw [String.ofList_toList] at snake
      rw [nativeMethodName, given, Option.getD_none]
      exact escaped_plain (plain_snakeCase h.name.plain) snake

end

variable {s : Scope}

/-- A callable of a well-named class is well named, with plain wrapper. -/
theorem callable_wellNamed (h : s.WellNamed) {c : Callable} (mem : c ∈ (Callables.ofScope s).callables) :
    c.declaration.WellNamed ∧ c.declaration.isExposedFunction = true ∧ isPlainName c.wrapper.toList = true := by
  obtain ⟨i, d, first, rfl⟩ := (mem_callables_iff s c).1 mem
  have exposed : d.isExposed = true := by simp [Declaration.isExposed, first.exposed]
  exact ⟨h.members d (List.mem_of_getElem? first.here) exposed, first.exposed, plain_wrapperName h.owner d⟩

/-- The wrapper of a callable can be written. -/
theorem exists_wrapper (h : s.WellNamed) {c : Callable} (mem : c ∈ (Callables.ofScope s).callables) :
    ∃ w, Wrapper.ofCallable c = .ok w := by
  obtain ⟨named, exposed, plain⟩ := callable_wellNamed h mem
  obtain ⟨arguments, typed⟩ : ∃ arguments, c.declaration.parameters.mapM Wrapper.argumentOf = .ok arguments := by
    refine exists_mapM_ok (fun p known => ?_)
    obtain ⟨type, made⟩ := exists_targetTokens (named.parameters exposed p known)
    exact ⟨⟨type, p.passing⟩, by rw [Wrapper.argumentOf, made]; rfl⟩
  obtain ⟨target, aimed⟩ := exists_nativeTarget named c.isConstructor
  unfold Wrapper.ofCallable
  rw [ofText_plain plain, typed, aimed]
  exact ⟨_, rfl⟩

/-- Names that are reached through a selector are those of methods, or that of the constructors. -/
theorem plain_setName (h : s.WellNamed) {name : String}
    (mem : name ∈ setNames s.owner.name (Callables.ofScope s).callables) :
    name = constructorName s.owner.name ∨ isPlainName name.toList = true := by
  rcases mem_setNames.1 mem with ⟨c, known, rfl⟩ | constructor
  · exact .inr (callable_wellNamed h known).1.name.plain
  · exact .inl constructor

/-- The selector of a name can be written. -/
theorem exists_selector (h : s.WellNamed) {set : OverloadSet}
    (mem : set ∈ (Callables.ofScope s).sets.filter (·.needsSelector)) :
    ∃ selector, Selector.ofSet s.owner.name (Callables.ofScope s) set = .ok selector := by
  rw [selectedSets] at mem
  obtain ⟨name, selected, rfl⟩ := List.mem_map.1 mem
  have plain := plain_selectorName h.owner (plain_setName h (List.mem_filter.1 selected).1)
  obtain ⟨candidates, made⟩ : ∃ candidates, ((Callables.ofScope s).membersOf
      (setOf s.owner.name (Callables.ofScope s).callables name)).mapM Selector.candidateOf = .ok candidates := by
    refine exists_mapM_ok (fun c member => ?_)
    rw [membersOf_setOf] at member
    obtain ⟨named, exposed, wrapper⟩ := callable_wellNamed h (List.mem_filter.1 member).1
    obtain ⟨types, typed⟩ : ∃ types, c.declaration.parameters.mapM (fun p => typeTokens p.target) = .ok types :=
      exists_mapM_ok (fun p known => exists_targetTokens (named.parameters exposed p known))
    unfold Selector.candidateOf
    rw [ofText_plain wrapper, typed]
    exact ⟨_, rfl⟩
  unfold Selector.ofSet
  rw [made]
  simp only [setOf, ofText_plain plain]
  exact ⟨_, rfl⟩

/-- The bindings of methods can be written. -/
theorem exists_methodBindings (h : s.WellNamed) {methods : List Callable}
    (known : ∀ c ∈ methods, c ∈ (Callables.ofScope s).callables) :
    ∃ bindings, Registration.methodBindings s.owner.name (Callables.ofScope s) methods = .ok bindings := by
  refine exists_mapM_ok (fun c mem => ?_)
  have callable := known c (mem_of_mem_distinctMethods mem)
  have named : c.declaration.name ∈ setNames s.owner.name (Callables.ofScope s).callables :=
    mem_setNames.2 (.inl ⟨c, callable, rfl⟩)
  have plain : isPlainName ((Callables.ofScope s).bindingName s.owner.name c).toList = true := by
    unfold Callables.bindingName
    rw [setNamed?_eq named]
    simp only
    split
    · exact plain_selectorName h.owner (plain_setName h named)
    · exact (callable_wellNamed h callable).2.2
  rw [ofText_plain plain]
  exact ⟨_, rfl⟩

/-- The registration of a class can be written. -/
theorem exists_registration (h : s.WellNamed) : ∃ r, Registration.ofScope s (Callables.ofScope s) = .ok r := by
  have methods : ∀ p : Callable → Bool, ∃ bindings, Registration.methodBindings s.owner.name (Callables.ofScope s)
      (((Callables.ofScope s).callables.filter (fun c => !c.isConstructor)).filter p) = .ok bindings :=
    fun p => exists_methodBindings h (fun c mem => (List.mem_filter.1 (List.mem_filter.1 mem).1).1)
  obtain ⟨instanceMethods, onPrototype⟩ := methods (fun c => !c.declaration.isStatic)
  obtain ⟨staticMethods, onConstructor⟩ := methods (fun c => c.declaration.isStatic)
  obtain ⟨fields, made⟩ : ∃ fields, (s.members.filter (·.isExposedStaticField)).mapM Registration.staticField =
      .ok fields := by
    refine exists_mapM_ok (fun d mem => ?_)
    obtain ⟨member, exposed⟩ := List.mem_filter.1 mem
    obtain ⟨id, named⟩ := exists_fieldIdentifier (h.members d member (by simp [Declaration.isExposed, exposed]))
    exact ⟨⟨d.name, id, d.isConst⟩, by rw [Registration.staticField, named]; rfl⟩
  unfold Registration.ofScope
  simp only [ofText_plain (plain_selectorName h.owner (.inl rfl)), onPrototype, onConstructor, made]
  exact ⟨_, rfl⟩

/-- The fields of well-named members can be collected, and code can be made for their types. -/
theorem exists_fieldsOf (className : String) {members : List Declaration}
    (h : ∀ d ∈ members, d.isExposed = true → d.WellNamed) :
    ∃ fields, (fieldsOf className members).2 = .ok fields ∧ ∀ f ∈ fields, ∃ type, typeTokens f.type = .ok type := by
  induction members with
  | nil => exact ⟨[], rfl, List.forall_mem_nil _⟩
  | cons d rest ih =>
    obtain ⟨here, later⟩ := List.forall_mem_cons.1 h
    obtain ⟨others, collected, typed⟩ := ih later
    unfold fieldsOf
    split
    next exposed =>
      have named := here (by simp [Declaration.isExposed, exposed])
      obtain ⟨id, identified⟩ := exists_fieldIdentifier named
      have declared : Field.ofDeclaration d = .ok ⟨d.name, id, d.target, d.isConst⟩ := by
        rw [Field.ofDeclaration, identified]
        rfl
      refine ⟨_ :: others, by simp only [declared, collected]; rfl, List.forall_mem_cons.2 ⟨?_, typed⟩⟩
      exact (named.type exposed).nameable
    next => exact ⟨others, collected, typed⟩

/-- The marshalling of a class can be written. -/
theorem exists_marshalling {fields : List Field} (typed : ∀ f ∈ fields, ∃ type, typeTokens f.type = .ok type)
    (whole : Bool) : ∃ m, Marshalling.ofFields fields whole = .ok m := by
  obtain ⟨pairs, made⟩ : ∃ pairs, fields.mapM (fun f => do return (f, ← typeTokens f.type)) =
      (.ok pairs : Except IdentifierError _) := by
    refine exists_mapM_ok (fun f mem => ?_)
    obtain ⟨type, made⟩ := typed f mem
    exact ⟨(f, type), by rw [made]; rfl⟩
  unfold Marshalling.ofFields
  rw [made]
  exact ⟨_, rfl⟩

/-! ## §5. Files. -/

/-- Paths that are made of plain names; they may go through `crate`. -/
structure Paths.WellNamed (paths : Paths) : Prop where
  runtime : Scoped (fun w => isPlainName w = true) paths.runtime.toList
  natives : Scoped (fun w => isPlainName w = true) paths.natives.toList

/-- **The code of a well-named class can be made.** -/
theorem ClassFile.exists_ofScope {paths : Paths} (known : paths.WellNamed) (h : s.WellNamed) :
    ∃ f, (ClassFile.ofScope paths s).2 = .ok f := by
  obtain ⟨runtime, fromRuntime⟩ := pathOf_scoped known.runtime
  obtain ⟨natives, fromNatives⟩ := pathOf_scoped known.natives
  obtain ⟨fields, collected, typed⟩ := exists_fieldsOf s.owner.name h.members
  obtain ⟨marshalling, marshalled⟩ := exists_marshalling typed s.marshalsWholeValue
  obtain ⟨registration, registered⟩ := exists_registration h
  obtain ⟨type, named⟩ : ∃ type, typeTokens (.ofBasicText s.owner.name) = .ok type := nameable_scoped h.owner
  obtain ⟨wrappers, wrapped⟩ := exists_mapM_ok (fun c mem => exists_wrapper h mem)
  obtain ⟨selectors, selected⟩ := exists_mapM_ok (fun set mem => exists_selector h mem)
  -- all parts can be made, and so the whole
  have composed : ∃ f, ClassFile.compose runtime natives s fields = .ok f := by
    unfold ClassFile.compose
    simp only [marshalled, registered, named, wrapped, selected]
    exact ⟨_, rfl⟩
  obtain ⟨f, composed⟩ := composed
  refine ⟨f, ?_⟩
  unfold ClassFile.ofScope
  rw [fromRuntime, fromNatives]
  simp only [collected]
  exact composed

/-- Every identifier in the file of a class is valid. -/
theorem ClassFile.isName_tokens {paths : Paths} {f : ClassFile} (made : (ClassFile.ofScope paths s).2 = .ok f) :
    ∀ id ∈ identifiers f.tokens, id.IsName := by
  obtain ⟨after, -, fits⟩ := leads_tokens (made_ofScope made).readable .start rfl
  exact isName_of_fits fits

namespace ModuleFile

/-- The module file of classes with scoped names can be made. -/
theorem exists_ofModules {paths : Paths} (known : paths.WellNamed) {classNames : List String}
    (h : ∀ name ∈ classNames, Scoped Usable name.toList) :
    ∃ f, ofModules paths (classNames.map moduleName) = .ok f := by
  obtain ⟨runtime, fromRuntime⟩ := pathOf_scoped known.runtime
  obtain ⟨modules, named⟩ : ∃ modules, (classNames.map moduleName).mapM Identifier.escaped = .ok modules := by
    refine exists_mapM_ok (fun m mem => ?_)
    obtain ⟨name, listed, rfl⟩ := List.mem_map.1 mem
    exact escaped_plain (plain_moduleName (h name listed)) (moduleName_ne (h name listed))
  unfold ofModules
  rw [fromRuntime, named]
  exact ⟨_, rfl⟩

/-- Every identifier in a module file is valid. -/
theorem isName_tokens {paths : Paths} {modules : List String} {f : ModuleFile}
    (made : ofModules paths modules = .ok f) : ∀ id ∈ identifiers f.tokens, id.IsName := by
  obtain ⟨after, -, fits⟩ := leads_tokens (readable_ofModules made) .start rfl
  exact isName_of_fits fits

end ModuleFile

end ScriptBridge.Binding
