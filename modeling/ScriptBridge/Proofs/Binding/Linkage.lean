import ScriptBridge.Proofs.Binding.Exposed

/-!
# ScriptBridge.Proofs.Binding.Linkage

The functions of a class file and the references between them.

Script functions are made of native functions by `new_function` and `new_constructor`, and a selector names the
wrappers that it picks among.  Definitions and references come out of different passes over the callables, each of
which settles names and selectors anew.  The readers here find every reference, however deep in the code it stands.

Main results:
  * `targets_methods`, `targets_constructor` — what the registration of a class makes script functions of;
  * `closed_tokens` — whatever a file refers to is in it, and nothing is in it that is not referred to.
-/

namespace ScriptBridge.Binding

open ScriptBridge.Symbol ScriptBridge.Declared ScriptBridge.Token

/-! ## §1. Readers. -/

mutual

/-- The second arguments of the calls of `maker` in a token; `named` says whether that name stands right in front. -/
def madeIn (maker : String) (named : Bool) : Token → List (List Token)
  | .group delimiter inner =>
    (if named && delimiter == .parenthesis then (arguments inner)[1]?.toList else []) ++ madeBy maker false inner
  | _ => []

/-- The second arguments of the calls of `maker` in a stream, those inside of groups included. -/
def madeBy (maker : String) (named : Bool) : List Token → List (List Token)
  | [] => []
  | t :: rest => madeIn maker named t ++ madeBy maker (isKeyword maker t) rest

end

/-- What the calls of `maker` in a stream make script functions of. -/
def targets (maker : String) (stream : List Token) : List (List Token) :=
  madeBy maker false stream

/-- Whether the body of a selector says that it picks among constructors. -/
def picksConstructors (body : List Token) : Bool :=
  match (block? body).bind (field? "kind") with
  | some kind => kind.any (isKeyword "Constructor")
  | none => false

/-- The table of a selector names the function. -/
def Lists (selector : Identifier × List Token) (name : Identifier) : Prop :=
  ∃ table, table? selector.2 = some table ∧ ∃ row ∈ table, row.2 = [.word name]

/-- The functions of a file, next to the body that publishes them, are the ones that are referred to.  Those with a
table are selectors, the others wrappers. -/
structure Closed (functions : List (Identifier × List Token)) (body : List Token) : Prop where
  /-- Methods are made of functions of the file. -/
  methods : ∀ target ∈ targets "new_function" body, ∃ f ∈ functions, target = [.word f.1]
  /-- The constructor object is made, once, of the selector of the constructors. -/
  constructor : ∃ f ∈ functions, targets "new_constructor" body = [[.word f.1]] ∧ picksConstructors f.2 = true
  /-- Selectors pick among functions of the file. -/
  rows : ∀ f ∈ functions, ∀ table, table? f.2 = some table → ∀ row ∈ table, ∃ g ∈ functions, row.2 = [.word g.1]
  /-- A wrapper is bound, or some selector of the file picks it. -/
  wrappers : ∀ f ∈ functions, table? f.2 = none →
    [.word f.1] ∈ targets "new_function" body ∨ ∃ g ∈ functions, Lists g f.1
  /-- A selector is bound: that of the constructors to the constructor object, any other to a method. -/
  selectors : ∀ f ∈ functions, (table? f.2).isSome = true →
    [.word f.1] ∈ targets (if picksConstructors f.2 then "new_constructor" else "new_function") body

/-! ## §2. What a registration makes script functions of. -/

/-- No call reaches across a semicolon. -/
theorem madeBy_statements (maker : String) (body : List Token) : ∃ first others, statements body = first :: others ∧
    ∀ named, madeBy maker named body = madeBy maker named first ++ others.flatMap (targets maker) := by
  induction body with
  | nil => exact ⟨[], [], rfl, fun _ => rfl⟩
  | cons t body ih =>
    obtain ⟨first, others, parts, found⟩ := ih
    by_cases semicolon : isSemicolon t = true
    · refine ⟨[], first :: others, by rw [statements, if_pos semicolon, parts], fun named => ?_⟩
      cases t with
      | sign c joint => exact found false
      | word | literal | group => cases semicolon
    · refine ⟨t :: first, others, by rw [statements, if_neg semicolon, parts]; rfl, fun named => ?_⟩
      rw [madeBy, madeBy, found, List.append_assoc]

/-- The functions that a body refers to are those that its statements refer to. -/
theorem targets_statements (maker : String) (body : List Token) :
    targets maker body = (statements body).flatMap (targets maker) := by
  obtain ⟨first, others, parts, found⟩ := madeBy_statements maker body
  rw [parts, List.flatMap_cons, targets, found]
  rfl

namespace Registration

theorem targets_staticField (maker : String) (free : maker = "new_function" ∨ maker = "new_constructor")
    (f : StaticField) : targets maker (staticFieldStatement f) = [] := by
  rcases free with rfl | rfl
  all_goals
    unfold staticFieldStatement
    split
    all_goals rfl

variable (r : Registration)

/-- Methods are made of their functions, first those of the prototype. -/
theorem targets_methods : targets "new_function" r.body =
    (r.instanceMethods ++ r.staticMethods).map (fun m => [.word m.function]) := by
  have method : ∀ (object : String) (methods : List MethodBinding),
      (methods.map (methodStatement object)).flatMap (targets "new_function") =
        methods.map (fun m => [.word m.function]) := by
    intro object methods
    rw [List.flatMap_map, List.map_eq_flatMap]
    rfl
  have fields : (r.staticFields.map staticFieldStatement).flatMap (targets "new_function") = [] := by
    rw [List.flatMap_map]
    exact List.flatMap_eq_nil_iff.2 (fun f _ => targets_staticField _ (.inl rfl) f)
  have front : opening.flatMap (targets "new_function") = [] := rfl
  have between : r.middle.flatMap (targets "new_function") = [] := rfl
  have back : r.ending.flatMap (targets "new_function") = [] := rfl
  rw [targets_statements, statements_body]
  simp only [List.flatMap_append, front, between, back, fields, method, List.map_append, List.nil_append,
    List.append_nil]

/-- The constructor object is made of its function, and nothing else is made so. -/
theorem targets_constructor : targets "new_constructor" r.body = [[.word r.constructor]] := by
  have method : ∀ (object : String) (methods : List MethodBinding),
      (methods.map (methodStatement object)).flatMap (targets "new_constructor") = [] := by
    intro object methods
    rw [List.flatMap_map]
    exact List.flatMap_eq_nil_iff.2 (fun _ _ => rfl)
  have fields : (r.staticFields.map staticFieldStatement).flatMap (targets "new_constructor") = [] := by
    rw [List.flatMap_map]
    exact List.flatMap_eq_nil_iff.2 (fun f _ => targets_staticField _ (.inr rfl) f)
  have front : opening.flatMap (targets "new_constructor") = [] := rfl
  have between : r.middle.flatMap (targets "new_constructor") = [[.word r.constructor]] := rfl
  have back : r.ending.flatMap (targets "new_constructor") = [] := rfl
  rw [targets_statements, statements_body]
  simp only [List.flatMap_append, front, between, back, fields, method, List.nil_append, List.append_nil]

end Registration

/-! ## §3. Names settled twice. -/

/-- The function of a file that is the wrapper of a callable. -/
structure IsWrapperOf (c : Callable) (f : Identifier × List Token) : Prop where
  named : Identifier.ofText c.wrapper = .ok f.1
  tableless : table? f.2 = none

/-- The function of a file that is the selector of a name; each row of its table names the wrapper of a callable. -/
structure Selects (s : Scope) (name : String) (f : Identifier × List Token) : Prop where
  named : Identifier.ofText (selectorName s.owner.name name) = .ok f.1
  table : ∃ table, table? f.2 = some table ∧
    List.Forall₂ (fun c row => ∃ id : Identifier, Identifier.ofText c.wrapper = .ok id ∧ row.2 = [.word id])
      ((Callables.ofScope s).named name) table
  kind : picksConstructors f.2 = (name == constructorName s.owner.name)

/-- Whether a selector picks constructors is read off its body. -/
theorem picksConstructors_body (selector : Selector) :
    picksConstructors selector.body = selector.constructs.isSome := by
  have record : block? selector.body = some (Selector.recordField "name" [text selector.label] ++
      (Selector.recordField "kind" selector.kindTokens ++ (Selector.recordField "overloads"
        (borrow [brackets (commas (selector.candidates.map Selector.candidateTokens))]) ++ []))) := by
    rw [List.append_nil, ← List.append_assoc]
    rfl
  rw [picksConstructors, record, Option.bind_some, field?_later (by decide) (Whole.single rfl),
    field?_here selector.whole_kindTokens]
  unfold Selector.kindTokens
  cases selector.constructs with
  | none => rfl
  | some className => rfl

section

variable {paths : Paths} {s : Scope} {f : ClassFile}

/-- The function of a wrapper is one of its callable. -/
theorem isWrapperOf_body (made : ClassFile.Made paths s f) {c : Callable} {w : Wrapper}
    (h : Wrapper.ofCallable c = .ok w) : IsWrapperOf c (w.name, w.body f.type) := by
  obtain ⟨name, named, h⟩ := bind_ok h
  obtain ⟨arguments, typed, h⟩ := bind_ok h
  obtain ⟨target, -, h⟩ := bind_ok h
  cases h
  refine ⟨named, Wrapper.table?_body (isBlock_of_typeTokens made.type) (fun a mem => ?_)⟩
  obtain ⟨p, -, one⟩ := exists_of_mem_mapM typed mem
  obtain ⟨type, made, one⟩ := bind_ok one
  cases one
  exact isBlock_of_typeTokens made

/-- The function of a selector selects among the callables of its name. -/
theorem selects_body {name : String} {selector : Selector}
    (h : Selector.ofSet s.owner.name (Callables.ofScope s)
      (setOf s.owner.name (Callables.ofScope s).callables name) = .ok selector) :
    Selects s name (selector.name, selector.body) := by
  obtain ⟨id, named, h⟩ := bind_ok h
  obtain ⟨candidates, made, h⟩ := bind_ok h
  cases h
  rw [membersOf_setOf] at made
  -- the table lists one row per callable of the name, and the kind says whether it picks constructors
  refine ⟨named, ⟨_, Selector.table?_body ?_, ?_⟩, ?_⟩
  · intro candidate mem
    obtain ⟨c, -, one⟩ := exists_of_mem_mapM made mem
    exact (isRow_candidate one).2
  · refine List.forall₂_map_right_iff.2 ((forall₂_of_mapM made).imp (fun c candidate one => ?_))
    obtain ⟨wrapper, named, one⟩ := bind_ok one
    obtain ⟨types, -, one⟩ := bind_ok one
    cases one
    exact ⟨wrapper, named, rfl⟩
  · rw [picksConstructors_body]
    unfold setOf
    dsimp only
    split
    next same => rw [same]; rfl
    next other => rw [Bool.eq_false_iff.2 other]; rfl

/-- The functions of a file, next to the one that registers the class: the wrappers of the callables and the selectors
of the names that need one. -/
theorem exists_functions (made : ClassFile.Made paths s f) : ∃ wrappers selectors registering,
    functions f.tokens = (wrappers ++ selectors) ++ [(⟨"register_prototype", false⟩, registering)] ∧
    List.Forall₂ IsWrapperOf (Callables.ofScope s).callables wrappers ∧
    List.Forall₂ (Selects s) (selectedNames s) selectors := by
  obtain ⟨wrappers, selectors, registering, all, wrapped, selected⟩ := ClassFile.functions_tokens made
  have sets := made.selectors
  rw [selectedSets] at sets
  refine ⟨wrappers, selectors, registering, all, ?_, ?_⟩
  · exact forall₂_through (fun one same => same ▸ isWrapperOf_body made one) (forall₂_of_mapM made.wrappers) wrapped
  · exact forall₂_through (fun one same => same ▸ selects_body one)
      (List.forall₂_map_left_iff.1 (forall₂_of_mapM sets)) selected

/-- A name with several callables is reached through its selector. -/
theorem reached_of_several {name : String} (several : 2 ≤ ((Callables.ofScope s).named name).length) :
    (Callables.ofScope s).reached s.owner.name name = selectorName s.owner.name name := by
  unfold Callables.reached
  split
  next list =>
    rw [list] at several
    exact absurd several (by simp)
  next => rfl

/-- The name of a callable that shares it with no other is reached through its wrapper. -/
theorem reached_of_alone {c : Callable} (mem : c ∈ (Callables.ofScope s).callables)
    (alone : ¬ 2 ≤ ((Callables.ofScope s).named c.declaration.name).length) :
    (Callables.ofScope s).reached s.owner.name c.declaration.name = c.wrapper := by
  have self : c ∈ (Callables.ofScope s).named c.declaration.name := List.mem_filter.2 ⟨mem, by simp⟩
  unfold Callables.reached
  split
  next list =>
    rw [list] at self
    rw [List.mem_singleton.1 self]
  next several =>
    refine absurd ?_ alone
    match list : (Callables.ofScope s).named c.declaration.name with
    | [] =>
      rw [list] at self
      cases self
    | [only] => exact absurd list (several only)
    | _ :: _ :: _ => simp

open Registration in
/-- The definitions made for some methods are made of the functions that their names are reached through. -/
theorem methodBindings_reached {methods : List Callable} {bindings : List MethodBinding}
    (known : ∀ c ∈ methods, c ∈ (Callables.ofScope s).callables ∧ c.isConstructor = false)
    (h : methodBindings s.owner.name (Callables.ofScope s) methods = .ok bindings) :
    (∀ m ∈ bindings, ∃ c ∈ methods,
      Identifier.ofText ((Callables.ofScope s).reached s.owner.name c.declaration.name) = .ok m.function) ∧
    ∀ c ∈ methods, ∃ m ∈ bindings,
      Identifier.ofText ((Callables.ofScope s).reached s.owner.name c.declaration.name) = .ok m.function := by
  -- a definition names the function that all methods of its name are reached through
  have bound : ∀ {c : Callable} {m : MethodBinding}, c ∈ methods → (do
      let function ← Identifier.ofText ((Callables.ofScope s).bindingName s.owner.name c)
      return (⟨c.declaration.name, function, c.declaration.parameters.length⟩ : MethodBinding)) = .ok m →
      Identifier.ofText ((Callables.ofScope s).reached s.owner.name c.declaration.name) = .ok m.function := by
    intro c m mem one
    obtain ⟨id, named, one⟩ := bind_ok one
    cases one
    rwa [← bindingName_eq (known c mem).1 (known c mem).2]
  constructor
  · intro m mem
    obtain ⟨c, chosen, one⟩ := exists_of_mem_mapM h mem
    have method := mem_of_mem_distinctMethods chosen
    exact ⟨c, method, bound method one⟩
  · intro c mem
    obtain none | ⟨e, chosen, same⟩ := exists_distinctMethod mem []
    · cases none
    · obtain ⟨m, defined, one⟩ := exists_right_of_mem (forall₂_of_mapM h) chosen
      exact ⟨m, defined, same ▸ bound (mem_of_mem_distinctMethods chosen) one⟩

/-- What the registration of a class is made of. -/
structure Binds (s : Scope) (r : Registration) : Prop where
  constructor : Identifier.ofText (selectorName s.owner.name (constructorName s.owner.name)) = .ok r.constructor
  method : ∀ m ∈ r.instanceMethods ++ r.staticMethods, ∃ c ∈ (Callables.ofScope s).callables,
    Identifier.ofText ((Callables.ofScope s).reached s.owner.name c.declaration.name) = .ok m.function
  callable : ∀ c ∈ (Callables.ofScope s).callables, c.isConstructor = false →
    ∃ m ∈ r.instanceMethods ++ r.staticMethods,
      Identifier.ofText ((Callables.ofScope s).reached s.owner.name c.declaration.name) = .ok m.function

/-- A registration binds what the scope exposes. -/
theorem binds_registration {r : Registration} (h : Registration.ofScope s (Callables.ofScope s) = .ok r) :
    Binds s r := by
  obtain ⟨constructor, named, h⟩ := bind_ok h
  obtain ⟨instanceMethods, instances, h⟩ := bind_ok h
  obtain ⟨staticMethods, statics, h⟩ := bind_ok h
  obtain ⟨staticFields, -, h⟩ := bind_ok h
  cases h
  -- methods of both kinds are callables other than constructors
  have chosen : ∀ {c : Callable} {keep : Callable → Bool},
      c ∈ ((Callables.ofScope s).callables.filter (fun c => !c.isConstructor)).filter keep →
        c ∈ (Callables.ofScope s).callables ∧ c.isConstructor = false := by
    intro c keep mem
    have method := List.mem_filter.1 (List.mem_filter.1 mem).1
    exact ⟨method.1, by simpa using method.2⟩
  obtain ⟨madeInstance, ofInstance⟩ := methodBindings_reached (fun _ => chosen) instances
  obtain ⟨madeStatic, ofStatic⟩ := methodBindings_reached (fun _ => chosen) statics
  refine ⟨named, fun m mem => ?_, fun c mem method => ?_⟩
  · rcases List.mem_append.1 mem with mem | mem
    · obtain ⟨c, known, reached⟩ := madeInstance m mem
      exact ⟨c, (chosen known).1, reached⟩
    · obtain ⟨c, known, reached⟩ := madeStatic m mem
      exact ⟨c, (chosen known).1, reached⟩
  · have kept : c ∈ (Callables.ofScope s).callables.filter (fun c => !c.isConstructor) :=
      List.mem_filter.2 ⟨mem, by simpa using method⟩
    cases static : c.declaration.isStatic with
    | false =>
      obtain ⟨m, known, reached⟩ := ofInstance c (List.mem_filter.2 ⟨kept, by simp [static]⟩)
      exact ⟨m, List.mem_append_left _ known, reached⟩
    | true =>
      obtain ⟨m, known, reached⟩ := ofStatic c (List.mem_filter.2 ⟨kept, static⟩)
      exact ⟨m, List.mem_append_right _ known, reached⟩

/-- The callables of the constructors' name are the constructors. -/
theorem isConstructor_iff {c : Callable} (mem : c ∈ (Callables.ofScope s).callables) :
    c.isConstructor = true ↔ c.declaration.name = constructorName s.owner.name := by
  rw [isConstructor_callables s c mem, beq_iff_eq]

/-! ## §4. Closed files. -/

/-- The functions and the registration of a file, as the passes over the callables make them. -/
structure Linked (s : Scope) (wrappers selectors : List (Identifier × List Token)) (r : Registration) : Prop where
  wrapped : List.Forall₂ IsWrapperOf (Callables.ofScope s).callables wrappers
  selected : List.Forall₂ (Selects s) (selectedNames s) selectors
  binds : Binds s r

namespace Linked

variable {wrappers selectors : List (Identifier × List Token)} {r : Registration} (h : Linked s wrappers selectors r)

include h

/-- What the name of a callable is reached through is in the file. -/
theorem exists_reached {c : Callable} (mem : c ∈ (Callables.ofScope s).callables) {id : Identifier}
    (made : Identifier.ofText ((Callables.ofScope s).reached s.owner.name c.declaration.name) = .ok id) :
    ∃ f ∈ wrappers ++ selectors, f.1 = id := by
  by_cases several : 2 ≤ ((Callables.ofScope s).named c.declaration.name).length
  · obtain ⟨f, known, selects⟩ := exists_right_of_mem h.selected (mem_selectedNames.2 (.inl several))
    rw [reached_of_several several, selects.named] at made
    exact ⟨f, List.mem_append_right _ known, Except.ok.inj made⟩
  · obtain ⟨f, known, wrapper⟩ := exists_right_of_mem h.wrapped mem
    rw [reached_of_alone mem several, wrapper.named] at made
    exact ⟨f, List.mem_append_left _ known, Except.ok.inj made⟩

/-- What the name of a method is reached through is bound. -/
theorem reached_mem_targets {c : Callable} (mem : c ∈ (Callables.ofScope s).callables)
    (method : c.declaration.name ≠ constructorName s.owner.name) {id : Identifier}
    (made : Identifier.ofText ((Callables.ofScope s).reached s.owner.name c.declaration.name) = .ok id) :
    [.word id] ∈ targets "new_function" r.body := by
  have plain : c.isConstructor = false := Bool.eq_false_iff.2 (fun own => method ((isConstructor_iff mem).1 own))
  obtain ⟨m, bound, reached⟩ := h.binds.callable c mem plain
  obtain rfl : m.function = id := Except.ok.inj (reached.symm.trans made)
  rw [Registration.targets_methods]
  exact List.mem_map_of_mem bound

/-- A function with a table is the selector of a name. -/
theorem exists_selects {f : Identifier × List Token} (mem : f ∈ wrappers ++ selectors)
    (table : (table? f.2).isSome = true) : ∃ name ∈ selectedNames s, Selects s name f := by
  rcases List.mem_append.1 mem with mem | mem
  · obtain ⟨c, -, wrapper⟩ := exists_left_of_mem h.wrapped mem
    rw [wrapper.tableless] at table
    cases table
  · exact exists_left_of_mem h.selected mem

/-- A function without a table is the wrapper of a callable. -/
theorem exists_isWrapperOf {f : Identifier × List Token} (mem : f ∈ wrappers ++ selectors)
    (tableless : table? f.2 = none) : ∃ c ∈ (Callables.ofScope s).callables, IsWrapperOf c f := by
  rcases List.mem_append.1 mem with mem | mem
  · exact exists_left_of_mem h.wrapped mem
  · obtain ⟨name, -, selects⟩ := exists_left_of_mem h.selected mem
    obtain ⟨table, some, -⟩ := selects.table
    rw [tableless] at some
    cases some

/-- The constructor object refers to the selector of the constructors. -/
theorem constructor_eq {f : Identifier × List Token} (selects : Selects s (constructorName s.owner.name) f) :
    targets "new_constructor" r.body = [[.word f.1]] := by
  rw [Registration.targets_constructor, Except.ok.inj (selects.named.symm.trans h.binds.constructor)]

/-- The wrapper of a callable is bound, or its name has a selector, which picks the wrapper. -/
theorem wrapper_used {c : Callable} {f : Identifier × List Token} (known : c ∈ (Callables.ofScope s).callables)
    (wrapper : IsWrapperOf c f) :
    [.word f.1] ∈ targets "new_function" r.body ∨ ∃ g ∈ wrappers ++ selectors, Lists g f.1 := by
  by_cases chosen : c.declaration.name ∈ selectedNames s
  · obtain ⟨g, listed, selects⟩ := exists_right_of_mem h.selected chosen
    obtain ⟨table, some, rows⟩ := selects.table
    obtain ⟨row, here, id, named, row'⟩ := exists_right_of_mem rows (List.mem_filter.2 ⟨known, by simp⟩)
    rw [wrapper.named] at named
    exact .inr ⟨g, List.mem_append_right _ listed, table, some, row, here, by rw [row', Except.ok.inj named]⟩
  · obtain ⟨alone, method⟩ := not_or.1 (fun needed => chosen (mem_selectedNames.2 needed))
    exact .inl (h.reached_mem_targets known method (by rw [reached_of_alone known alone, wrapper.named]))

/-- The selector of a name is bound: to the constructor object for the constructors, to a method for other names. -/
theorem selector_bound {name : String} {f : Identifier × List Token} (chosen : name ∈ selectedNames s)
    (selects : Selects s name f) :
    [.word f.1] ∈ targets (if picksConstructors f.2 then "new_constructor" else "new_function") r.body := by
  rw [selects.kind]
  by_cases constructors : name = constructorName s.owner.name
  · subst constructors
    rw [if_pos (by simp), h.constructor_eq selects]
    exact List.mem_singleton.2 rfl
  · have several := (mem_selectedNames.1 chosen).resolve_right constructors
    obtain ⟨c, member⟩ := List.exists_mem_of_length_pos (Nat.lt_of_lt_of_le Nat.zero_lt_two several)
    obtain ⟨known, named⟩ := List.mem_filter.1 member
    obtain rfl : c.declaration.name = name := eq_of_beq named
    rw [if_neg (by simp [constructors])]
    exact h.reached_mem_targets known constructors (by rw [reached_of_several several, selects.named])

/-- **Nothing is missing**: what the body refers to is there, and what is there is referred to. -/
theorem closed : Closed (wrappers ++ selectors) r.body := by
  -- what a definition, a selector or a row refers to is a wrapper or a selector of the file, and each of these is used
  constructor
  case methods =>
    intro t mem
    rw [Registration.targets_methods] at mem
    obtain ⟨m, bound, rfl⟩ := List.mem_map.1 mem
    obtain ⟨c, known, reached⟩ := h.binds.method m bound
    obtain ⟨f, here, same⟩ := h.exists_reached known reached
    exact ⟨f, here, by rw [same]⟩
  case constructor =>
    obtain ⟨f, known, selects⟩ := exists_right_of_mem h.selected (mem_selectedNames.2 (.inr rfl))
    exact ⟨f, List.mem_append_right _ known, h.constructor_eq selects, by simp [selects.kind]⟩
  case rows =>
    intro f mem table listed row here
    obtain ⟨name, -, selects⟩ := h.exists_selects mem (by rw [listed]; rfl)
    obtain ⟨own, same, rows⟩ := selects.table
    obtain rfl : own = table := Option.some.inj (same.symm.trans listed)
    obtain ⟨c, member, id, named, row⟩ := exists_left_of_mem rows here
    obtain ⟨g, known, wrapper⟩ := exists_right_of_mem h.wrapped (List.mem_filter.1 member).1
    rw [wrapper.named] at named
    exact ⟨g, List.mem_append_left _ known, by rw [row, Except.ok.inj named]⟩
  case wrappers =>
    intro f mem tableless
    obtain ⟨c, known, wrapper⟩ := h.exists_isWrapperOf mem tableless
    exact h.wrapper_used known wrapper
  case selectors =>
    intro f mem table
    obtain ⟨name, chosen, selects⟩ := h.exists_selects mem table
    exact h.selector_bound chosen selects

end Linked

end

namespace ClassFile

/-- **A class file is closed.**  Whatever its registration and its selectors refer to is a function of the file, and
every function of the file is referred to, next to the one that registers the class. -/
theorem closed_tokens {paths : Paths} {s : Scope} {f : ClassFile} (h : (ClassFile.ofScope paths s).2 = .ok f) :
    ∃ body own registering, registering? f.tokens = some body ∧
      functions f.tokens = own ++ [(⟨"register_prototype", false⟩, registering)] ∧ Closed own body := by
  have made := made_ofScope h
  obtain ⟨wrappers, selectors, registering, all, wrapped, selected⟩ := exists_functions made
  have linked : Linked s wrappers selectors f.registration := ⟨wrapped, selected, binds_registration made.registration⟩
  exact ⟨_, _, registering, registering?_tokens made, all, linked.closed⟩

theorem closed_tokens_grove : ∃ f, (ClassFile.ofScope .standard grove).2 = .ok f ∧
    ∃ body own registering, registering? f.tokens = some body ∧
      functions f.tokens = own ++ [(⟨"register_prototype", false⟩, registering)] ∧ Closed own body := by
  obtain ⟨f, made⟩ := grove_ok
  exact ⟨f, made, closed_tokens made⟩

end ClassFile

end ScriptBridge.Binding
