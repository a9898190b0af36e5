import ScriptBridge.Proofs.Binding.Callables
import ScriptBridge.Proofs.Binding.Functions
import ScriptBridge.Proofs.Text.Quoted
import ScriptBridge.Proofs.Token.Identifier

/-!
# ScriptBridge.Proofs.Binding.Exposed

The bindings of a class are exactly its exposed members.

Three passes over the members decide what the code of a class binds: which functions are callable, which of them
share a name, and which of those get a definition of their own.  `BindsExposed` says what comes out of all three, in
terms of the members and of what the emitted code says: its free functions, the table of each selector, and the
properties that its `register_prototype` defines.

Main result: `binds_exposed`.
-/

namespace ScriptBridge.Binding

open ScriptBridge.Symbol ScriptBridge.Declared ScriptBridge.Token ScriptBridge.Text

/-! ## §1. Members that scripts do not see. -/

/-- Why scripts do not get to see a member. -/
inductive Hidden (d : Declaration) : Prop where
  | notPublic (h : d.visibility ≠ .everyone)
  | noScript (h : d.isNoScript = true)
  | operator (function : d.isFunction = true) (h : d.isOperator = true)
  | bannedType {type : String} {category : BannedType} (mentioned : type ∈ d.mentionedTypes)
      (h : bannedType? type.toList = some category)

/-- A declaration that mentions a banned type is not scriptable. -/
theorem isScriptable_eq_false {d : Declaration} {type : String} {category : BannedType}
    (mentioned : type ∈ d.mentionedTypes) (h : bannedType? type.toList = some category) : d.isScriptable = false := by
  have found : (d.mentionedTypes.findSome? (fun type =>
      (bannedType? type.toList).map (Rejection.bannedType type))).isSome = true :=
    List.findSome?_isSome_iff.2 ⟨type, mentioned, by rw [h]; rfl⟩
  obtain ⟨rejection, found⟩ := Option.isSome_iff_exists.1 found
  unfold Declaration.isScriptable Declaration.rejection?
  rw [found]
  split <;> rfl

/-- What is hidden is exposed neither as a function nor as a static field. -/
theorem Hidden.not_exposed {d : Declaration} (h : Hidden d) :
    d.isExposedFunction = false ∧ d.isExposedStaticField = false := by
  unfold Declaration.isExposedFunction Declaration.isExposedStaticField
  cases h with
  | notPublic h => simp [Declaration.isPublic, h]
  | noScript h => simp [Declaration.isScriptable, Declaration.rejection?, h]
  | operator function h =>
    have kind : d.kind = .function := by simpa [Declaration.isFunction] using function
    simp [h, Declaration.isVariable, kind]
  | bannedType mentioned h => simp [isScriptable_eq_false mentioned h]

/-! ## §2. What is bound. -/

/-- The object that a method is defined on. -/
def Callable.home (c : Callable) : String :=
  if c.declaration.isStatic then "ctor" else "proto"

/-- A callable other than a constructor, which is a method on one of the objects. -/
structure IsMethodOn (s : Scope) (object : String) (c : Callable) : Prop where
  callable : c ∈ (Callables.ofScope s).callables
  method : c.isConstructor = false
  home : c.home = object

/-- The row of a callable in a table: a check for the type of each parameter, and the wrapper. -/
structure IsRow (c : Callable) (row : List (List Token) × List Token) : Prop where
  checks : List.Forall₂ (fun (p : Parameter) check => ∃ type, typeTokens p.target = .ok type ∧ check = typeCheck type)
    c.declaration.parameters row.1
  wrapper : ∃ id : Identifier, row.2 = [.word id] ∧ id.text = c.wrapper

/-- The selector of a name: its table has a row for each callable of the name, in the order of their declaration. -/
structure IsSelector (s : Scope) (name : String) (function : Identifier × List Token) : Prop where
  named : function.1.text = selectorName s.owner.name name
  table : ∃ table, table? function.2 = some table ∧ List.Forall₂ IsRow ((Callables.ofScope s).named name) table

/-- The callables of a class are its exposed functions; those left out repeat a signature and are reported. -/
structure CollectsExposed (s : Scope) (log : List Log.Entry) : Prop where
  callables : ∀ c, c ∈ (Callables.ofScope s).callables ↔
    ∃ i d, FirstExposed s.members i d ∧ c = callableAt s.owner.name i d
  ordered : (Callables.ofScope s).callables.Pairwise (fun a b => a.position < b.position)
  reported : ∀ i d, s.members[i]? = some d → d.isExposedFunction = true → ¬ FirstExposed s.members i d →
    (⟨.warn, .overloads, s.owner.name ++ ": " ++ d.text ++
      " has the same script signature as an earlier overload; skipped"⟩ : Log.Entry) ∈ log
  hidden : ∀ i d, s.members[i]? = some d → Hidden d →
    (∀ c ∈ (Callables.ofScope s).callables, c.position ≠ i) ∧ d.isExposedStaticField = false

/-- The functions of a file are one wrapper for each callable, one selector for each name that needs it, and the
function that registers the class. -/
def EmitsFunctions (s : Scope) (code : List Token) : Prop :=
  ∃ wrappers selectors registering names,
    functions code = wrappers ++ selectors ++ [(⟨"register_prototype", false⟩, registering)] ∧
    List.Forall₂ (fun c function => function.1.text = c.wrapper) (Callables.ofScope s).callables wrappers ∧
    names.Nodup ∧
    (∀ name, name ∈ names ↔
      2 ≤ ((Callables.ofScope s).named name).length ∨ name = constructorName s.owner.name) ∧
    List.Forall₂ (IsSelector s) names selectors

/-- The body of `register_prototype` defines the methods of the class, each name bound to the one function that it
is reached through, the static fields, and the identity of the class. -/
structure PublishesExposed (s : Scope) (body : List Token) : Prop where
  onPrototype : ∀ label, (∃ d ∈ definitionsOn "proto" body, d.label = label) ↔
    label = stringLiteral "metaTypeId" ∨
    ∃ c, IsMethodOn s "proto" c ∧ label = stringLiteral c.declaration.name
  onConstructor : ∀ label, (∃ d ∈ definitionsOn "ctor" body, d.label = label) ↔
    (∃ c, IsMethodOn s "ctor" c ∧ label = stringLiteral c.declaration.name) ∨
    ∃ field ∈ s.members, field.isExposedStaticField = true ∧ label = stringLiteral field.name
  methods : ∀ object, object = "proto" ∨ object = "ctor" → ∀ name function,
    (∃ d ∈ definitionsOn object body, d.label = stringLiteral name ∧ d.function?.map Identifier.text = some function) ↔
    (∃ c, IsMethodOn s object c ∧ c.declaration.name = name) ∧
      function = (Callables.ofScope s).reached s.owner.name name
  identity : ∀ d ∈ definitionsOn "proto" body, d.function? = none → d.label = stringLiteral "metaTypeId"
  fields : ∀ d ∈ definitionsOn "ctor" body, d.function? = none →
    ∃ field ∈ s.members, field.isExposedStaticField = true ∧ d.label = stringLiteral field.name

/-- The code of a class binds exactly what the class exposes. -/
structure BindsExposed (s : Scope) (log : List Log.Entry) (code : List Token) : Prop where
  collects : CollectsExposed s log
  emits : EmitsFunctions s code
  publishes : ∃ body, registering? code = some body ∧ PublishesExposed s body

/-! ## §3. Functions. -/

/-- The callables of a scope are its exposed functions, as the log says. -/
theorem collects_exposed (s : Scope) {log : List Log.Entry} (h : ∀ entry ∈ callableReports s, entry ∈ log) :
    CollectsExposed s log where
  callables := mem_callables_iff s
  ordered := callables_sorted s
  reported _ _ here exposed other := h _ (repeated_reported here exposed other)
  hidden i d here hidden := by
    refine ⟨fun c mem at_ => ?_, hidden.not_exposed.2⟩
    obtain ⟨j, e, first, rfl⟩ := (mem_callables_iff s c).1 mem
    obtain rfl : j = i := at_
    obtain rfl : e = d := Option.some.inj (first.here.symm.trans here)
    exact Bool.false_ne_true (hidden.not_exposed.1.symm.trans first.exposed)

/-- A wrapper has the name of its callable. -/
theorem wrapper_name {c : Callable} {w : Wrapper} (h : Wrapper.ofCallable c = .ok w) : w.name.text = c.wrapper := by
  obtain ⟨name, named, h⟩ := bind_ok h
  obtain ⟨arguments, -, h⟩ := bind_ok h
  obtain ⟨target, -, h⟩ := bind_ok h
  cases h
  exact Identifier.text_ofText named

/-- The row of a candidate is that of its callable. -/
theorem isRow_candidate {c : Callable} {candidate : Candidate} (h : Selector.candidateOf c = .ok candidate) :
    IsRow c (candidate.types.map typeCheck, [.word candidate.wrapper]) ∧ ∀ type ∈ candidate.types, Whole type := by
  obtain ⟨wrapper, named, h⟩ := bind_ok h
  obtain ⟨types, typed, h⟩ := bind_ok h
  cases h
  have checked : List.Forall₂ (fun (p : Parameter) check =>
      ∃ type, typeTokens p.target = .ok type ∧ check = typeCheck type) c.declaration.parameters (types.map typeCheck) :=
    forall₂_through (S := fun type check => check = typeCheck type) (fun made same => ⟨_, made, same⟩)
      (forall₂_of_mapM typed) (List.forall₂_map_right_iff.2 (List.forall₂_same.2 (fun _ _ => rfl)))
  refine ⟨⟨checked, wrapper, rfl, Identifier.text_ofText named⟩, fun type mem => ?_⟩
  obtain ⟨p, -, made⟩ := exists_of_mem_mapM typed mem
  exact (typeTokens_made made).2

/-- A selector is read off its code with its name and its table. -/
theorem isSelector_ofSet {s : Scope} {name : String} {selector : Selector}
    (h : Selector.ofSet s.owner.name (Callables.ofScope s)
      (setOf s.owner.name (Callables.ofScope s).callables name) = .ok selector) :
    IsSelector s name (selector.name, selector.body) := by
  obtain ⟨id, named, h⟩ := bind_ok h
  obtain ⟨candidates, made, h⟩ := bind_ok h
  cases h
  rw [membersOf_setOf] at made
  have rows := forall₂_of_mapM made
  refine ⟨Identifier.text_ofText named, _, Selector.table?_body ?_, ?_⟩
  · intro candidate mem
    obtain ⟨c, -, one⟩ := exists_of_mem_mapM made mem
    exact (isRow_candidate one).2
  · exact List.forall₂_map_right_iff.2 (rows.imp (fun _ _ one => (isRow_candidate one).1))

/-- A class file has one function for each callable and one for each selector. -/
theorem emits_functions {paths : Paths} {s : Scope} {f : ClassFile} (made : ClassFile.Made paths s f) :
    EmitsFunctions s f.tokens := by
  obtain ⟨wrappers, selectors, registering, all, wrapped, selected⟩ := ClassFile.functions_tokens made
  have sets := made.selectors
  rw [selectedSets] at sets
  refine ⟨wrappers, selectors, registering, selectedNames s, all, ?_, nodup_selectedNames s,
    fun name => mem_selectedNames, ?_⟩
  · exact forall₂_through (fun one same => by rw [same, wrapper_name one]) (forall₂_of_mapM made.wrappers) wrapped
  · refine forall₂_through (fun one same => ?_) (List.forall₂_map_left_iff.1 (forall₂_of_mapM sets)) selected
    rw [same]
    exact isSelector_ofSet one

/-! ## §4. Definitions. -/

/-- Distinct methods are methods. -/
theorem mem_of_mem_distinctMethods {c : Callable} {methods : List Callable} {seen : List (String × Nat)}
    (h : c ∈ distinctMethods seen methods) : c ∈ methods := by
  induction methods generalizing seen with
  | nil => cases h
  | cons first methods ih =>
    unfold distinctMethods at h
    simp only at h
    split at h
    · exact List.mem_cons_of_mem _ (ih h)
    · rcases List.mem_cons.1 h with rfl | h
      · exact List.mem_cons_self
      · exact List.mem_cons_of_mem _ (ih h)

/-- A method that gets no definition has one under the same name. -/
theorem exists_distinctMethod {c : Callable} {methods : List Callable} (h : c ∈ methods) :
    ∀ seen : List (String × Nat), (c.declaration.name, c.declaration.parameters.length) ∈ seen ∨
      ∃ e ∈ distinctMethods seen methods, e.declaration.name = c.declaration.name := by
  -- induction with any names seen before: a method that is passed over has one of these, or that of a later definition
  induction methods with
  | nil => cases h
  | cons first methods ih =>
    intro seen
    unfold distinctMethods
    simp only
    split
    next known =>
      rcases List.mem_cons.1 h with rfl | h
      · exact .inl (List.contains_iff_mem.1 known)
      · exact ih h seen
    next =>
      rcases List.mem_cons.1 h with rfl | h
      · exact .inr ⟨c, List.mem_cons_self, rfl⟩
      · rcases ih h ((first.declaration.name, first.declaration.parameters.length) :: seen) with known | ⟨e, mem, same⟩
        · rcases List.mem_cons.1 known with same | known
          · exact .inr ⟨first, List.mem_cons_self, (Prod.mk.inj same).1.symm⟩
          · exact .inl known
        · exact .inr ⟨e, List.mem_cons_of_mem _ mem, same⟩

/-- The definitions made for some methods of a class: each name of theirs is bound to the one function that it is
reached through. -/
theorem mem_methodBindings {s : Scope} {methods : List Callable} {bindings : List MethodBinding}
    (known : ∀ c ∈ methods, c ∈ (Callables.ofScope s).callables ∧ c.isConstructor = false)
    (h : Registration.methodBindings s.owner.name (Callables.ofScope s) methods = .ok bindings) (name function : String) :
    (∃ m ∈ bindings, m.label = name ∧ m.function.text = function) ↔
      (∃ c ∈ methods, c.declaration.name = name) ∧ function = (Callables.ofScope s).reached s.owner.name name := by
  -- all methods of a name are bound alike, so it does not matter which one the definition is made for
  have bound : ∀ {c : Callable} {m : MethodBinding}, c ∈ methods → (do
      let function ← Identifier.ofText ((Callables.ofScope s).bindingName s.owner.name c)
      return (⟨c.declaration.name, function, c.declaration.parameters.length⟩ : MethodBinding)) = .ok m →
      m.label = c.declaration.name ∧
        m.function.text = (Callables.ofScope s).reached s.owner.name c.declaration.name := by
    intro c m mem one
    obtain ⟨id, named, one⟩ := bind_ok one
    cases one
    exact ⟨rfl, by rw [Identifier.text_ofText named, bindingName_eq (known c mem).1 (known c mem).2]⟩
  constructor
  · rintro ⟨m, mem, rfl, rfl⟩
    obtain ⟨c, chosen, one⟩ := exists_of_mem_mapM h mem
    have method := mem_of_mem_distinctMethods chosen
    obtain ⟨label, reached⟩ := bound method one
    exact ⟨⟨c, method, label.symm⟩, label ▸ reached⟩
  · rintro ⟨⟨c, mem, rfl⟩, rfl⟩
    -- the method itself may be passed over for another one of its name
    obtain known | ⟨e, chosen, same⟩ := exists_distinctMethod mem []
    · cases known
    · obtain ⟨m, defined, one⟩ := exists_right_of_mem (forall₂_of_mapM h) chosen
      obtain ⟨label, reached⟩ := bound (mem_of_mem_distinctMethods chosen) one
      exact ⟨m, defined, label.trans same, by rw [reached, same]⟩

section

open Registration

variable {s : Scope} {object : String} {methods : List Callable} {bindings : List MethodBinding}

/-- On an object that holds the definitions of its methods, next to others that define no function, each name of a
method is bound to the function that it is reached through.  The label of a definition determines the name. -/
theorem methods_iff (methodOn : ∀ c, c ∈ methods ↔ IsMethodOn s object c)
    (h : methodBindings s.owner.name (Callables.ofScope s) methods = .ok bindings) {others : List Definition}
    (plain : ∀ d ∈ others, d.function? = none) (name function : String) :
    (∃ d ∈ bindings.map methodDefinition ++ others, d.label = stringLiteral name ∧
      d.function?.map Identifier.text = some function) ↔
    (∃ c, IsMethodOn s object c ∧ c.declaration.name = name) ∧
      function = (Callables.ofScope s).reached s.owner.name name := by
  have each := mem_methodBindings (fun c mem => ⟨((methodOn c).1 mem).callable, ((methodOn c).1 mem).method⟩) h
  simp only [← methodOn]
  rw [← each name function]
  -- the definitions next to those of methods are out, since they define no function
  constructor
  · rintro ⟨d, mem, label, bound⟩
    rcases List.mem_append.1 mem with mem | mem
    · obtain ⟨m, defined, rfl⟩ := List.mem_map.1 mem
      rw [function?_method] at bound
      exact ⟨m, defined, stringLiteral_injective label, Option.some.inj bound⟩
    · rw [plain d mem] at bound
      cases bound
  · rintro ⟨m, defined, rfl, rfl⟩
    exact ⟨methodDefinition m, List.mem_append_left _ (List.mem_map_of_mem defined), rfl, by rw [function?_method]; rfl⟩

/-- The names on such an object are those of its methods and of the other definitions. -/
theorem labels_iff (methodOn : ∀ c, c ∈ methods ↔ IsMethodOn s object c)
    (h : methodBindings s.owner.name (Callables.ofScope s) methods = .ok bindings) {others : List Definition}
    (plain : ∀ d ∈ others, d.function? = none) (label : String) :
    (∃ d ∈ bindings.map methodDefinition ++ others, d.label = label) ↔
      (∃ c, IsMethodOn s object c ∧ label = stringLiteral c.declaration.name) ∨ ∃ d ∈ others, d.label = label := by
  have bound := methods_iff methodOn h plain
  constructor
  · rintro ⟨d, mem, same⟩
    rcases List.mem_append.1 mem with defined | other
    · obtain ⟨m, -, rfl⟩ := List.mem_map.1 defined
      obtain ⟨⟨c, method, named⟩, -⟩ :=
        (bound m.label m.function.text).1 ⟨methodDefinition m, mem, rfl, by rw [function?_method]; rfl⟩
      exact .inl ⟨c, method, same.symm.trans (congrArg stringLiteral named.symm)⟩
    · exact .inr ⟨d, other, same⟩
  · rintro (⟨c, method, rfl⟩ | ⟨d, other, same⟩)
    · obtain ⟨d, mem, same, -⟩ := (bound _ _).2 ⟨⟨c, method, rfl⟩, rfl⟩
      exact ⟨d, mem, same⟩
    · exact ⟨d, List.mem_append_right _ other, same⟩

/-- A definition that makes no function is one of the others. -/
theorem mem_others {others : List Definition} {d : Definition} (mem : d ∈ bindings.map methodDefinition ++ others)
    (plain : d.function? = none) : d ∈ others := by
  rcases List.mem_append.1 mem with defined | other
  · obtain ⟨m, -, rfl⟩ := List.mem_map.1 defined
    rw [function?_method] at plain
    cases plain
  · exact other

end

open Registration in
/-- The definitions made for the static fields are those of the exposed ones. -/
theorem staticFields_iff {s : Scope} {fields : List StaticField}
    (h : (s.members.filter (·.isExposedStaticField)).mapM staticField = .ok fields) (label : String) :
    (∃ d ∈ fields.map staticFieldDefinition, d.label = label) ↔
      ∃ field ∈ s.members, field.isExposedStaticField = true ∧ label = stringLiteral field.name := by
  -- only the name of a declaration shows in the label
  have named : ∀ {d : Declaration} {field : StaticField}, staticField d = .ok field → field.label = d.name := by
    intro d field one
    obtain ⟨name, -, one⟩ := bind_ok one
    cases one
    rfl
  constructor
  · rintro ⟨d, mem, rfl⟩
    obtain ⟨field, defined, rfl⟩ := List.mem_map.1 mem
    obtain ⟨d, exposed, one⟩ := exists_of_mem_mapM h defined
    obtain ⟨known, exposed⟩ := List.mem_filter.1 exposed
    exact ⟨d, known, exposed, congrArg stringLiteral (named one)⟩
  · rintro ⟨d, known, exposed, rfl⟩
    obtain ⟨field, defined, one⟩ := exists_right_of_mem (forall₂_of_mapM h) (List.mem_filter.2 ⟨known, exposed⟩)
    exact ⟨_, List.mem_map_of_mem defined, congrArg stringLiteral (named one)⟩

/-- Methods of instances belong to the prototype. -/
theorem home_eq_proto {c : Callable} : c.home = "proto" ↔ c.declaration.isStatic = false := by
  unfold Callable.home
  split <;> simp_all

/-- Static methods belong to the constructor object. -/
theorem home_eq_ctor {c : Callable} : c.home = "ctor" ↔ c.declaration.isStatic = true := by
  unfold Callable.home
  split <;> simp_all

/-- The methods on one of the two objects are picked out of all callables by where they go. -/
theorem mem_methods_iff (s : Scope) {home : String} (there : Callable → Bool)
    (picks : ∀ c : Callable, there c = true ↔ c.home = home) (c : Callable) :
    c ∈ ((Callables.ofScope s).callables.filter (fun c => !c.isConstructor)).filter there ↔ IsMethodOn s home c := by
  simp only [List.mem_filter, Bool.not_eq_true', and_assoc, picks]
  exact ⟨fun h => ⟨h.1, h.2.1, h.2.2⟩, fun h => ⟨h.callable, h.method, h.home⟩⟩

open Registration in
/-- The body that registers a class publishes what is exposed, and nothing else. -/
theorem publishes_exposed {s : Scope} {r : Registration} (h : Registration.ofScope s (Callables.ofScope s) = .ok r) :
    PublishesExposed s r.body := by
  obtain ⟨constructor, -, h⟩ := bind_ok h
  obtain ⟨instanceMethods, instances, h⟩ := bind_ok h
  obtain ⟨staticMethods, statics, h⟩ := bind_ok h
  obtain ⟨staticFields, fields, h⟩ := bind_ok h
  cases h
  have instanceOn := mem_methods_iff s (fun c => !c.declaration.isStatic)
    (fun c => by rw [Bool.not_eq_true', home_eq_proto])
  have staticOn := mem_methods_iff s (·.declaration.isStatic) (fun c => home_eq_ctor.symm)
  have identity : ∀ d ∈ [identityDefinition], d.function? = none := by simp [function?_identity]
  have plain : ∀ d ∈ staticFields.map staticFieldDefinition, d.function? = none := by
    intro d mem
    obtain ⟨field, -, rfl⟩ := List.mem_map.1 mem
    exact function?_staticField field
  -- which methods are on which object is settled, so each part is about one list of definitions
  constructor
  case onPrototype =>
    intro label
    rw [definitionsOn_proto, labels_iff instanceOn instances identity, or_comm]
    simp [identityDefinition, eq_comm]
  case onConstructor =>
    intro label
    rw [definitionsOn_ctor, labels_iff staticOn statics plain, staticFields_iff fields]
  case methods =>
    rintro object (rfl | rfl)
    · rw [definitionsOn_proto]
      exact methods_iff instanceOn instances identity
    · rw [definitionsOn_ctor]
      exact methods_iff staticOn statics plain
  case identity =>
    rw [definitionsOn_proto]
    intro d mem none
    rw [List.mem_singleton.1 (mem_others mem none)]
    rfl
  case fields =>
    rw [definitionsOn_ctor]
    intro d mem none
    exact (staticFields_iff fields d.label).1 ⟨d, mem_others mem none, rfl⟩

/-! ## §5. The whole file. -/

namespace ClassFile

/-- The code of a class binds exactly what the class exposes, whenever it can be made. -/
theorem binds_exposed {paths : Paths} {s : Scope} {f : ClassFile} (h : (ClassFile.ofScope paths s).2 = .ok f) :
    BindsExposed s (ClassFile.ofScope paths s).1 f.tokens := by
  have made := made_ofScope h
  have reports : ∀ entry ∈ callableReports s, entry ∈ (ClassFile.ofScope paths s).1 := by
    intro entry mem
    unfold ClassFile.ofScope
    rw [made.runtime, made.natives]
    exact List.mem_append_left _ mem
  exact ⟨collects_exposed s reports, emits_functions made, _, registering?_tokens made,
    publishes_exposed made.registration⟩

/-- A class with an overloaded name, a static function and a member that scripts do not see. -/
theorem binds_exposed_grove : ∃ f, (ClassFile.ofScope .standard grove).2 = .ok f ∧
    BindsExposed grove (ClassFile.ofScope .standard grove).1 f.tokens := by
  obtain ⟨f, made⟩ := grove_ok
  exact ⟨f, made, binds_exposed made⟩

end ClassFile

end ScriptBridge.Binding
