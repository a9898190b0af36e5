import ScriptBridge.Proofs.Script.FixedBinding

/-!
# ScriptBridge.Proofs.Script.Construction

What constructors make of their arguments.

All parameters of constructors are of types whose values are no objects.  Such a value is converted without a look at
the store (`flat?`), and it passes the test for the type exactly if it can be converted.  So a constructor that was
selected never fails, and what is constructed depends on the arguments alone: `constructed?` is a table of it.

A construction comes with a new object for a receiver.  Constructors do not look at it; they answer with a handle that
is newer still.

Main results:
  * `Interface.constructor_run` - a constructor runs the first of its overloads that can read the arguments;
  * `constructed?_eq` - what that is, class by class;
  * `Engine.constructs_of_upholds` - constructions and calls of the constructor of a bound class;
  * `Run.constructs` - the same after all classes were published, whatever happened since.
-/

namespace ScriptBridge.Script

open ScriptBridge.Native ScriptBridge.Numeric

/-! ## §1. Values that are no objects. -/

/-- What a value is converted to that is no object. -/
def flat? : (τ : ValueType) → Value → Option τ.Data
  | .whole t, .number n => some (Whole.ofDouble t n)
  | .single, .number n => some (n.convert .single)
  | .double, .number n => some n
  | .bool, .bool b => some b
  | .string, .string t => some t
  | _, _ => none

/-- It does not matter in which store a flat value is converted. -/
theorem ofScript_of_flat {τ : ValueType} {v : Value} {d : τ.Data} (flat : flat? τ v = some d) (s : Store) :
    (marshalOf τ).ofScript s v = .ok d := by
  cases τ with
  | list element => cases v <;> exact nomatch flat
  | object c => cases v <;> exact nomatch flat
  | bool =>
    cases v with
    | bool b => exact congrArg Except.ok (Option.some.inj flat)
    | _ => exact nomatch flat
  | string =>
    cases v with
    | string t => exact congrArg Except.ok (Option.some.inj flat)
    | _ => exact nomatch flat
  | _ =>
    cases v with
    | number n => exact congrArg Except.ok (Option.some.inj flat)
    | _ => exact nomatch flat

/-- What passes the test for a flat type can be converted to it. -/
theorem accepts_eq_flat {τ : ValueType} (flat : τ.isFlat = true) (s : Store) (v : Value) :
    Convert.accepts (.value τ) s v = (flat? τ v).isSome := by
  cases τ with
  | list element => cases flat
  | object c => cases flat
  | _ => cases v <;> rfl

/-- What a list of arguments is converted to that are no objects. -/
def flatArguments? : (parameters : List ValueType) → List Value → Option (Arguments parameters)
  | [], [] => some ()
  | τ :: rest, v :: values => (flat? τ v).bind (fun d => (flatArguments? rest values).map (fun ds => (d, ds)))
  | _, _ => none

/-- **Flat arguments can be read**, whatever the store. -/
theorem readArguments_of_flat (s : Store) (call : CallContext) (function : String) {parameters : List ValueType}
    {index : Nat} {arguments : Arguments parameters}
    (flat : flatArguments? parameters (call.arguments.drop index) = some arguments) :
    readArguments s call function index parameters = .ok arguments := by
  induction parameters generalizing index with
  | nil => rfl
  | cons τ rest ih =>
    cases remaining : call.arguments.drop index with
    | nil =>
      rw [remaining] at flat
      exact nomatch flat
    | cons v values =>
      rw [remaining] at flat
      obtain ⟨d, here, others⟩ := Option.bind_eq_some_iff.1 flat
      obtain ⟨ds, later, rfl⟩ := Option.map_eq_some_iff.1 others
      -- the argument at the index is the first of those that remain
      have argument : call.argument index = v := by
        have first : call.arguments[index]? = some v := by
          rw [← List.head?_drop, remaining, List.head?_cons]
        rw [CallContext.argument, first, Option.getD_some]
      have behind : call.arguments.drop (index + 1) = values := by
        rw [← List.tail_drop, remaining, List.tail_cons]
      have read : call.argumentAs s τ function index = .ok d := by
        rw [CallContext.argumentAs, argument]
        show ((marshalOf τ).ofScript s v).mapError _ = _
        rw [ofScript_of_flat here s]
        rfl
      rw [← behind] at later
      rw [readArguments, read, ih later]

/-- **An overload with flat parameters accepts the arguments that can be read**, and no others. -/
theorem accepts_eq_flatArguments {parameters : List ValueType} (flat : ∀ τ ∈ parameters, τ.isFlat = true)
    (function : NativeFunction) (s : Store) (values : List Value) :
    (⟨parameters.map .value, function⟩ : Overload).accepts s values = (flatArguments? parameters values).isSome := by
  induction parameters generalizing values with
  | nil =>
    cases values with
    | nil => rfl
    | cons v values => rfl
  | cons τ rest ih =>
    cases values with
    | nil => rfl
    | cons v values =>
      have others := ih (fun σ mem => flat σ (List.mem_cons_of_mem τ mem)) values
      have here := accepts_eq_flat (flat τ List.mem_cons_self) s v
      -- one more argument, and one more parameter
      have lengths : (values.length + 1 == (rest.map NativeType.value).length + 1) =
          (values.length == (rest.map NativeType.value).length) := by simp
      simp only [Overload.accepts, List.length_cons, List.map_cons, List.zip_cons_cons, List.all_cons] at others ⊢
      rw [here, Bool.and_left_comm, lengths, others, flatArguments?]
      cases flat? τ v with
      | none => rfl
      | some d => rw [Option.bind_some, Option.isSome_map, Option.isSome_some, Bool.true_and]

/-! ## §2. Constructors. -/

namespace Method

variable {c : ClassName}

/-- What a constructor makes of arguments that it can read. -/
def built? (m : Method c) (arguments : List Value) : Option c.Instance :=
  match m.operation with
  | .construct make => (flatArguments? m.parameters arguments).map make
  | _ => none

/-- The method makes an instance of flat arguments. -/
structure IsBuilder (m : Method c) : Prop where
  constructs : ∃ make, m.operation = .construct make
  flat : ∀ τ ∈ m.parameters, τ.isFlat = true

theorem IsBuilder.accepts {m : Method c} (builder : m.IsBuilder) (s : Store) (arguments : List Value) :
    (Overload.ofMethod m).accepts s arguments = (m.built? arguments).isSome := by
  obtain ⟨make, operation⟩ := builder.constructs
  rw [built?, operation, Option.isSome_map]
  exact accepts_eq_flatArguments builder.flat m.wrapper s arguments

/-- The wrapper of a constructor that accepts the arguments makes a handle. -/
theorem IsBuilder.run {m : Method c} (builder : m.IsBuilder) {call : CallContext} {a : c.Instance}
    (built : m.built? call.arguments = some a) (caller : Engine.Caller) (e : Engine) :
    Engine.runBody caller e (m.wrapper call) =
      some ({ e with store := ((Layout.ofClass c).toScript a e.store).2 },
        .ok ((Layout.ofClass c).toScript a e.store).1) := by
  obtain ⟨make, operation⟩ := builder.constructs
  rw [built?, operation] at built
  obtain ⟨arguments, flat, rfl⟩ := Option.map_eq_some_iff.1 built
  have evaluated : m.evaluate e.store call = .ok ⟨none, (Layout.ofClass c).toScript (make arguments)⟩ := by
    rw [evaluate, operation]
    show (readArguments e.store call m.label 0 m.parameters >>= _) = _
    rw [readArguments_of_flat e.store call m.label flat]
    rfl
  rw [wrapper_run, evaluated]
  rfl

end Method

/-- The first of several constructors that can read the arguments is selected. -/
theorem find?_builders {c : ClassName} {methods : List (Method c)} (builders : ∀ m ∈ methods, m.IsBuilder) (s : Store)
    (arguments : List Value) :
    match methods.findSome? (·.built? arguments) with
    | some a => ∃ m ∈ methods, m.built? arguments = some a ∧
        (methods.map Overload.ofMethod).find? (·.accepts s arguments) = some (.ofMethod m)
    | none => (methods.map Overload.ofMethod).find? (·.accepts s arguments) = none := by
  induction methods with
  | nil => rfl
  | cons m rest ih =>
    have accepts := (builders m List.mem_cons_self).accepts s arguments
    rw [List.findSome?_cons, List.map_cons, List.find?_cons, accepts]
    cases built : m.built? arguments with
    | some a => exact ⟨m, List.mem_cons_self, built, rfl⟩
    | none =>
      -- what cannot read the arguments does not accept them either, and the search goes on
      have later := ih (fun other mem => builders other (List.mem_cons_of_mem m mem))
      simp only [Option.isSome_none]
      cases found : rest.findSome? (·.built? arguments) with
      | none =>
        rw [found] at later
        exact later
      | some a =>
        rw [found] at later
        obtain ⟨other, mem, built', selected⟩ := later
        exact ⟨other, List.mem_cons_of_mem m mem, built', selected⟩

/-- The error of a constructor that no overload of which accepts the arguments. -/
def constructorError (c : ClassName) (types : List String) (backtrace : List String) : InvocationError :=
  ⟨c.name ++ "_ctor", .noOverload types (some c.name) backtrace⟩

/-- **A constructor runs the first of its overloads that can read the arguments.** -/
theorem Interface.constructor_run {c : ClassName} {i : Interface c} (builders : ∀ m ∈ i.constructors, m.IsBuilder)
    (caller : Engine.Caller) (e : Engine) (call : CallContext) :
    Engine.runBody caller e (i.constructor call) =
      match i.constructors.findSome? (·.built? call.arguments) with
      | some a => some ({ e with store := ((Layout.ofClass c).toScript a e.store).2 },
          .ok ((Layout.ofClass c).toScript a e.store).1)
      | none => some (e, .error (constructorError c (call.arguments.map e.store.typeName) call.backtrace)) := by
  have selected := find?_builders builders e.store call.arguments
  rw [Interface.constructor, Selector.dispatch_run, Selector.select?]
  cases found : i.constructors.findSome? (·.built? call.arguments) with
  | none =>
    rw [found] at selected
    rw [selected]
    rfl
  | some a =>
    rw [found] at selected
    obtain ⟨m, mem, built, first⟩ := selected
    rw [first]
    exact (builders m mem).run built caller e

/-! ## §3. The bound classes. -/

/-- **What arguments construct**, if they do: three numbers a vector, a number with a text an entity, and no arguments
the default instance of any class. -/
def constructed? : (c : ClassName) → List Value → Option c.Instance
  | .vector3, [.number x, .number y, .number z] =>
    some (⟨x.convert .single, y.convert .single, z.convert .single⟩ : Vector3)
  | .entity, [.number id, .string name] => some (Entity.named (Whole.ofDouble .u32 id) name)
  | c, [] => some (Layout.ofClass c).fresh
  | _, _ => none

theorem isBuilder_of_mem {c : ClassName} {m : Method c} (mem : m ∈ (Interface.ofClass c).constructors) :
    m.IsBuilder := by
  cases c with
  | vector3 =>
    simp only [Interface.ofClass, vector3Interface, List.mem_cons, List.not_mem_nil, or_false] at mem
    rcases mem with rfl | rfl
    · exact ⟨⟨_, rfl⟩, by decide⟩
    · exact ⟨⟨_, rfl⟩, by decide⟩
  | entity =>
    simp only [Interface.ofClass, entityInterface, List.mem_cons, List.not_mem_nil, or_false] at mem
    rcases mem with rfl | rfl
    · exact ⟨⟨_, rfl⟩, by decide⟩
    · exact ⟨⟨_, rfl⟩, by decide⟩
  | _ =>
    obtain rfl := List.mem_singleton.1 mem
    exact ⟨⟨_, rfl⟩, by decide⟩

/-- The table is that of the constructors of the class. -/
theorem constructed?_eq (c : ClassName) (arguments : List Value) :
    (Interface.ofClass c).constructors.findSome? (·.built? arguments) = constructed? c arguments := by
  cases c with
  | vector3 =>
    -- the first value that is no number ends it, and so does a fourth value
    rcases arguments with _ | ⟨_ | _ | x | _ | _, _ | ⟨_ | _ | y | _ | _, _ | ⟨_ | _ | z | _ | _, _ | ⟨w, values⟩⟩⟩⟩
    all_goals rfl
  | entity =>
    rcases arguments with _ | ⟨_ | _ | id | _ | _, _ | ⟨_ | _ | _ | name | _, _ | ⟨w, values⟩⟩⟩
    all_goals rfl
  | _ => cases arguments <;> rfl

/-- What was constructed has nothing that scripts would not read back. -/
theorem regained_constructed {c : ClassName} {arguments : List Value} {a : c.Instance}
    (given : constructed? c arguments = some a) :
    c.Countable a ∧ (Layout.ofClass c).regained a (Layout.ofClass c).fresh = a := by
  unfold constructed? at given
  split at given
  case h_1 x y z =>
    obtain rfl := Option.some.inj given
    exact ⟨trivial, rfl⟩
  case h_2 id name =>
    obtain rfl := Option.some.inj given
    exact ⟨trivial, rfl⟩
  case h_3 =>
    obtain rfl := Option.some.inj given
    refine ⟨?_, ?_⟩
    -- only placements have lists, and a new one has none
    · cases c with
      | transform => exact Nat.two_pow_pos _
      | _ => exact trivial
    · cases c <;> rfl
  case h_4 => cases given

/-! ## §4. Requests. -/

/-- The object is a new mutable handle for an instance: the public fields are on it, and nothing else, it has the
prototype of the class, and it is read back as the instance. -/
structure Store.HoldsNew (s : Store) (c : ClassName) (prototype : ObjectId) (a : c.Instance) (id : ObjectId) :
    Prop where
  handle : ∃ o, (Layout.ofClass c).Shows .mutable a (id.index + 1) s id o ∧
    o.nativeType = some (.value (.object c)) ∧ o.prototype = some prototype ∧
    ∀ name, name ∉ (Layout.ofClass c).fields.map (·.name) → o.property? name = none
  read : (marshalOf (.object c)).ofScript s (.object id) = .ok a

/-- What asking a constructor for an instance comes to.  `frames` are the calls under way. -/
structure Constructed (c : ClassName) (prototype : ObjectId) (arguments : List Value) (frames : List String)
    (s t : Store) (result : CallResult) : Prop where
  /-- All that was there stays as it was. -/
  kept : s.Extends t
  /-- What the arguments construct is the answer. -/
  answered : ∀ a, constructed? c arguments = some a →
    ∃ id, result = .ok (.object id) ∧ s.object? id = none ∧ t.HoldsNew c prototype a id
  /-- If they construct nothing, the error advises to write `new`. -/
  refused : constructed? c arguments = none → ∃ error, result = .error error ∧ error.function = c.name ++ "_ctor" ∧
    error.failure = .noOverload (arguments.map t.typeName) (some c.name) frames ∧
    error.hint? = some ("Did you use 'var x = " ++ c.name ++ "();' instead of 'var x = new " ++ c.name ++ "();'?")

/-- What arguments construct is made as a new handle. -/
theorem constructed_of_some {c : ClassName} {prototype : ObjectId} {arguments : List Value} {frames : List String}
    {s : Store} {a : c.Instance} (given : constructed? c arguments = some a)
    (inherits : s.defaultPrototype? (.value (.object c)) = some prototype) :
    Constructed c prototype arguments frames s ((Layout.ofClass c).toScript a s).2
      (.ok ((Layout.ofClass c).toScript a s).1) := by
  have type : (Layout.ofClass c).type = .value (.object c) := rfl
  have value : ((Layout.ofClass c).toScript a s).1 = .object ⟨s.objects.length⟩ := by
    rw [Layout.toScript_run]
  obtain ⟨countable, regained⟩ := regained_constructed given
  have read := (Layout.restores_regained countable).toScript _ _ _ (.self _ s)
  rw [regained] at read
  obtain ⟨extended, o, shows, nativeType, own_prototype, others⟩ :=
    Layout.make_shows (Layout.lawful_ofClass c) .mutable a s
  rw [← Layout.toScript_eq_make] at extended shows
  refine ⟨extended, ?_, ?_⟩
  · intro a' given'
    obtain rfl := Option.some.inj (given.symm.trans given')
    refine ⟨⟨s.objects.length⟩, congrArg Except.ok value, Store.object?_fresh s, ?_, ?_⟩
    · exact ⟨o, shows, nativeType, own_prototype.trans (type ▸ inherits), others⟩
    · rw [← value]
      exact read
  · intro absent
    exact nomatch given.symm.trans absent

/-- Arguments that construct nothing are refused. -/
theorem constructed_of_none {c : ClassName} {prototype : ObjectId} {arguments : List Value} {frames : List String}
    {s : Store} (given : constructed? c arguments = none) :
    Constructed c prototype arguments frames s s
      (.error (constructorError c (arguments.map s.typeName) frames)) where
  kept := .refl s
  answered := fun _ given' => nomatch given.symm.trans given'
  refused := fun _ => ⟨_, rfl, rfl, rfl, rfl⟩

/-- **What a call of a constructor comes to.** -/
theorem Engine.invoke_constructor {c : ClassName} {e : Engine} {call : Invocation}
    (callable : e.store.functionOf? call.function = some (.constructor c)) (depth : Nat) :
    Engine.invoke bindings (depth + 1) e call =
      match constructed? c call.arguments with
      | some a => some ({ e with store := ((Layout.ofClass c).toScript a e.store).2 },
          .ok ((Layout.ofClass c).toScript a e.store).1)
      | none => some (e.settle
          (.error (constructorError c (call.arguments.map e.store.typeName) (call.label :: e.callStack)))) := by
  rw [Engine.invoke_of_bound depth callable rfl, Interface.constructor_run (fun m mem => isBuilder_of_mem mem),
    constructed?_eq]
  show Option.map _ (match constructed? c call.arguments with
    | some a => _
    | none => _) = _
  cases constructed? c call.arguments with
  | some a => rfl
  | none => rfl

/-- **What a request for the constructor of a bound class comes to.** -/
theorem Request.run_constructor {c : ClassName} {b : Binding} {e : Engine} (upholds : e.store.Upholds c b) (r : Request)
    (function : (r.invocation e.store).function = .object b.constructor) (depth : Nat) :
    ∃ after result, Engine.run bindings (depth + 1) e r.body = some (after, result) ∧
      Constructed c b.prototype (r.invocation e.store).arguments ((r.invocation e.store).label :: e.callStack)
        (r.prepare e).store after.store result := by
  obtain ⟨s, prepared, extended, -⟩ := r.prepare_extends e
  have callable : (r.prepare e).store.functionOf? (r.invocation e.store).function = some (.constructor c) := by
    rw [function, prepared]
    exact extended.functionOf? upholds.binds.constructor.functionOf?
  have inherits : (r.prepare e).store.defaultPrototype? (.value (.object c)) = some b.prototype := by
    rw [prepared, Store.defaultPrototype?, extended.prototypes]
    exact upholds.inherits.value
  have frames : (r.prepare e).callStack = e.callStack := by rw [prepared]
  rw [run_body, Engine.invoke_constructor callable, frames]
  generalize r.prepare e = p at inherits
  cases given : constructed? c (r.invocation e.store).arguments with
  | some a => exact ⟨_, _, rfl, constructed_of_some given inherits⟩
  | none =>
    -- a failure is reported, and that is all
    obtain ⟨reported, report⟩ := p.report_eq (constructorError c
      ((r.invocation e.store).arguments.map p.store.typeName) ((r.invocation e.store).label :: e.callStack))
    refine ⟨_, _, rfl, ?_⟩
    rw [report]
    exact constructed_of_none given

/-! ## §5. All classes. -/

/-- What the constructor of a class does on an engine. -/
structure Engine.Constructs (c : ClassName) (b : Binding) (e : Engine) : Prop where
  /-- The name of the class yields the constructor. -/
  yields : e.store.property e.store.global c.name = .object b.constructor
  /-- The constructor has the prototype that all new handles of the class get. -/
  prototype : e.store.property b.constructor "prototype" = .object b.prototype
  /-- A construction comes with a new object for a receiver, which stays as it is made; the answer is another one. -/
  construct : ∀ depth arguments, ∃ after result,
    Engine.run bindings (depth + 1) e (Body.construct (.object b.constructor) arguments) = some (after, result) ∧
      Constructed c b.prototype arguments (("new " ++ c.name) :: e.callStack) e.store after.store result ∧
      after.store.object? ⟨e.store.objects.length⟩ = some { Object.ofKind .plain with prototype := some b.prototype } ∧
      result ≠ .ok (.object ⟨e.store.objects.length⟩)
  /-- A call does not look at its receiver. -/
  call : ∀ depth receiver arguments, ∃ after result,
    Engine.run bindings (depth + 1) e (Body.call (.object b.constructor) receiver arguments) = some (after, result) ∧
      Constructed c b.prototype arguments (c.name :: e.callStack) e.store after.store result

/-- The receiver of a construction is a plain object with the prototype of the constructor. -/
theorem Request.receiver_of_prepare {e : Engine} {constructor prototype : ObjectId}
    (link : e.store.property constructor "prototype" = .object prototype) (arguments : List Value) :
    ((construct (.object constructor) arguments).prepare e).store.object? ⟨e.store.objects.length⟩ =
      some { Object.ofKind .plain with prototype := some prototype } := by
  unfold prepare
  simp only [Store.propertyOf, link]
  show ((e.store.alloc (.ofKind .plain)).2.setPrototype ⟨e.store.objects.length⟩ (some prototype)).object? _ = _
  rw [Store.setPrototype, Store.object?_update, if_pos rfl, Store.object?_alloc_self, Option.map_some]

/-- A constructor has the name of its class in backtraces. -/
theorem labelOf_constructor {s : Store} {c : ClassName} {b : Binding} (binds : s.Binds c b) :
    Body.labelOf s (.object b.constructor) = c.name := by
  obtain ⟨o, found, -, named, -⟩ := binds.constructor
  have name : s.propertyOf (.object b.constructor) "name" = .string c.name := Store.property_own found named
  rw [Body.labelOf, name]

/-- What is new to a store is new to the stores that it extends. -/
theorem Constructed.of_extends {c : ClassName} {prototype : ObjectId} {arguments : List Value} {frames : List String}
    {s t u : Store} {result : CallResult} (constructed : Constructed c prototype arguments frames t u result)
    (extended : s.Extends t) : Constructed c prototype arguments frames s u result where
  kept := extended.trans constructed.kept
  answered := by
    intro a given
    obtain ⟨id, answer, absent, new⟩ := constructed.answered a given
    refine ⟨id, answer, Option.eq_none_iff_forall_ne_some.2 ?_, new⟩
    intro o found
    exact nomatch absent.symm.trans (extended.object? found)
  refused := constructed.refused

theorem Constructed.ne_of_found {c : ClassName} {prototype : ObjectId} {arguments : List Value} {frames : List String}
    {s t : Store} {result : CallResult} (constructed : Constructed c prototype arguments frames s t result)
    {id : ObjectId} {o : Object} (found : s.object? id = some o) : result ≠ .ok (.object id) := by
  rintro rfl
  cases given : constructed? c arguments with
  | none =>
    obtain ⟨error, refused, -⟩ := constructed.refused given
    exact nomatch refused
  | some a =>
    obtain ⟨other, answer, absent, -⟩ := constructed.answered a given
    obtain rfl := Value.object.inj (Except.ok.inj answer)
    exact nomatch absent.symm.trans found

/-- **What the constructor of a bound class does.** -/
theorem Engine.constructs_of_upholds {c : ClassName} {b : Binding} {e : Engine} (upholds : e.store.Upholds c b) :
    e.Constructs c b where
  yields := upholds.binds.global.property
  prototype := upholds.binds.prototype.property
  construct := by
    intro depth arguments
    obtain ⟨after, result, run, constructed⟩ :=
      Request.run_constructor upholds (.construct (.object b.constructor) arguments) rfl depth
    obtain ⟨s, prepared, extended, -⟩ := (Request.construct (.object b.constructor) arguments).prepare_extends e
    -- the receiver is made first, so the answer is new to a store with the receiver
    have receiver := Request.receiver_of_prepare (e := e) upholds.binds.prototype.property arguments
    refine ⟨after, result, run, ?_, constructed.kept.object? receiver, constructed.ne_of_found receiver⟩
    rw [← labelOf_constructor upholds.binds]
    rw [prepared] at constructed
    exact constructed.of_extends extended
  call := by
    intro depth receiver arguments
    rw [← labelOf_constructor upholds.binds]
    exact Request.run_constructor upholds (.call (.object b.constructor) receiver arguments) rfl depth

/-- **Constructors keep working.**  Whatever happened to an engine before all classes are published on it, and whatever
happens from then on apart from further publications, the constructor of every class makes new handles of what its
arguments construct, whether it is asked for a construction or just called, and refuses all other arguments. -/
theorem Run.constructs {reporting : Bool} {history : History} {e start : Engine} (run : Run reporting history e)
    (published : (e.useStore (registerAll ClassName.all)).1 = start) :
    ∃ b : ClassName → Binding, start.Throughout (¬·.Publishes) (fun after => ∀ c, after.Constructs c (b c)) := by
  obtain ⟨b, throughout⟩ := run.upholds published
  exact ⟨b, throughout.mono (fun _ h c => Engine.constructs_of_upholds (h c))⟩

/-- A script that tries to put something else in place of a constructor, to take its prototype away, and to call it with
its own prototype for a receiver. -/
def defacement : List ScriptStep := [
  .put ⟨0⟩ "Entity" (.string "mine"),
  .delete ⟨6⟩ "prototype",
  .request (.call (.object ⟨6⟩) (.object ⟨1⟩) [.string "three"])]

theorem Run.constructs_defaced :
    ∃ (b : ClassName → Binding) (after : Engine), performAll 1 Engine.bound defacement = some after ∧
      ∀ c, after.Constructs c (b c) := by
  obtain ⟨b, throughout⟩ := Run.constructs (.start : Run true [] (.new true)) (rfl : _ = Engine.bound)
  have scripts : ∀ event ∈ defacement.map Event.script, ¬event.Publishes := by
    intro event mem
    obtain ⟨step, -, rfl⟩ := List.mem_map.1 mem
    exact id
  obtain ⟨after, performed, constructs⟩ := throughout 0 _ scripts
  rw [performAll_script] at performed
  exact ⟨b, after, performed, constructs⟩

end ScriptBridge.Script
