import Mathlib.Data.List.Find
import Mathlib.Data.List.Pairwise
import ScriptBridge.Proofs.Script.FixedBinding

/-!
# ScriptBridge.Proofs.Script.TypeTest

Which type tests a script value passes.

Overloaded functions are told apart by tests of their arguments.  There is one test for numbers, one for truth values,
one for texts, one for lists, and one for the handles of each class (`TestKind`); types of one kind share a test.  No
value passes two tests, so it does not matter in which order functions are tried that are told apart by their only
parameter.

The test for lists asks for a length on an object that no native type claims.  Every function has one: the declared
number of its parameters.  So it is a property of its own that cannot be changed, and functions pass for lists, but for
nothing else.

Main results:
  * `Convert.accepts_iff` - a value passes the tests of its kind and no others;
  * `Selector.select?_perm` - the order of overloads that are told apart by their only parameter does not matter;
  * `Run.lengthsFixed` - every function has a length, whatever happened before;
  * `Run.tellsApart` - all this of any run;
  * `constructor_passes_for_list` - a constructor that passes for a list.
-/

namespace ScriptBridge.Script

open ScriptBridge.Native

/-! ## §1. Kinds of tests. -/

/-- What a test asks for. -/
inductive TestKind where
  | number
  | bool
  | string
  | list
  | handle (c : ClassName)
  deriving DecidableEq, Repr

end ScriptBridge.Script

namespace ScriptBridge.Native

open ScriptBridge.Script

/-- What the test for a value type asks for. -/
def ValueType.testKind : ValueType → TestKind
  | whole _ | single | double => .number
  | bool => .bool
  | string => .string
  | list _ => .list
  | object c => .handle c

/-- What the test for a type asks for.  A shared cell is given by a handle of its class. -/
def NativeType.testKind : NativeType → TestKind
  | value type => type.testKind
  | shared c => .handle c

end ScriptBridge.Native

namespace ScriptBridge.Script

open ScriptBridge.Native

/-- The test that an object passes, if there is one. -/
def Object.testKind? (o : Object) : Option TestKind :=
  match o.nativeType with
  | some (.value (.object c)) => some (.handle c)
  | some _ => none
  | none => if (o.own? lengthName).isSome then some .list else none

/-- The test that a value passes, if there is one. -/
def Store.testKind? (s : Store) : Value → Option TestKind
  | .undefined => none
  | .bool _ => some .bool
  | .number _ => some .number
  | .string _ => some .string
  | .object id => (s.object? id).bind (·.testKind?)

namespace Object

/-- An object is tested as a handle of the class that it was made for. -/
theorem testKind?_eq_handle_iff {o : Object} {c : ClassName} :
    o.testKind? = some (.handle c) ↔ o.nativeType = some (.value (.object c)) := by
  unfold testKind?
  split
  case h_1 d type => simp [type]
  case h_2 other type => simpa [type] using other c
  case h_3 untyped => simp [untyped]

/-- An object is tested as a list if it has a length of its own and no type. -/
theorem testKind?_eq_list_iff {o : Object} :
    o.testKind? = some .list ↔ o.nativeType = none ∧ (o.own? lengthName).isSome = true := by
  unfold testKind?
  split
  case h_1 d type => simp [type]
  case h_2 other type => simp [type]
  case h_3 untyped => simp [untyped, Option.isSome_iff_ne_none]

/-- Objects are tested for what they are only as lists and as handles. -/
theorem testKind?_cases {o : Object} {k : TestKind} (passes : o.testKind? = some k) :
    k = .list ∨ ∃ c, k = .handle c := by
  unfold testKind? at passes
  split at passes
  case h_1 c type => exact .inr ⟨c, (Option.some.inj passes).symm⟩
  case h_2 => cases passes
  case h_3 =>
    split at passes
    · exact .inl (Option.some.inj passes).symm
    · cases passes

end Object

namespace Store

variable {s : Store} {v : Value}

/-- No object passes for what is none. -/
theorem testKind?_object_ne {id : ObjectId} {k : TestKind} (no_list : k ≠ .list) (no_handle : ∀ c, k ≠ .handle c) :
    s.testKind? (.object id) ≠ some k := by
  intro passes
  obtain ⟨o, -, passes⟩ := Option.bind_eq_some_iff.1 passes
  rcases Object.testKind?_cases passes with rfl | ⟨c, rfl⟩
  · exact no_list rfl
  · exact no_handle c rfl

/-- The instance test is a matter of the tested kind. -/
theorem isInstanceOf_iff {c : ClassName} :
    s.isInstanceOf v (.value (.object c)) = true ↔ s.testKind? v = some (.handle c) := by
  cases v with
  | object id =>
    show ((s.object? id).bind (·.nativeType) == some _) = true ↔ (s.object? id).bind (·.testKind?) = _
    cases s.object? id with
    | none => simp
    | some o => rw [Option.bind_some, Option.bind_some, beq_iff_eq, Object.testKind?_eq_handle_iff]
  | _ => simp [isInstanceOf, objectOf?, Value.asObject?, testKind?]

/-- The list test is a matter of the tested kind. -/
theorem looksLikeList_iff : looksLikeList s v = true ↔ s.testKind? v = some .list := by
  cases v with
  | object id =>
    rw [looksLikeList_eq]
    show (s.object? id).any _ = true ↔ (s.object? id).bind (·.testKind?) = _
    cases s.object? id with
    | none => simp
    | some o =>
      rw [Option.bind_some, Object.testKind?_eq_list_iff, Option.any_some, Bool.and_eq_true, Option.isNone_iff_eq_none]
  | _ => simp [looksLikeList, objectOf?, Value.asObject?, testKind?]

end Store

/-- **A value passes the tests of its kind and no others.** -/
theorem Convert.accepts_iff {τ : NativeType} {s : Store} {v : Value} :
    Convert.accepts τ s v = true ↔ s.testKind? v = some τ.testKind := by
  cases τ with
  | shared c => exact Store.isInstanceOf_iff
  | value type =>
    -- lists and instances are told by their objects, all others by the kind of the value, which no object has
    cases type with
    | list element => exact Store.looksLikeList_iff
    | object c =>
      have type : (Layout.ofClass c).type = .value (.object c) := rfl
      show s.isInstanceOf v (Layout.ofClass c).type = true ↔ _
      rw [type]
      exact Store.isInstanceOf_iff
    | bool =>
      show v.asBool?.isSome = true ↔ s.testKind? v = some .bool
      cases v with
      | object id => exact iff_of_false nofun (Store.testKind?_object_ne nofun nofun)
      | _ => simp [Value.asBool?, Store.testKind?]
    | string =>
      show v.asString?.isSome = true ↔ s.testKind? v = some .string
      cases v with
      | object id => exact iff_of_false nofun (Store.testKind?_object_ne nofun nofun)
      | _ => simp [Value.asString?, Store.testKind?]
    | _ =>
      show v.asNumber?.isSome = true ↔ s.testKind? v = some .number
      cases v with
      | object id => exact iff_of_false nofun (Store.testKind?_object_ne nofun nofun)
      | _ => simp [Value.asNumber?, Store.testKind?]

/-! ## §2. The order of overloads. -/

/-- Those of the overloads that have one parameter are told apart by it: their tests are of different kinds. -/
def Selector.IsToldApart (overloads : List Overload) : Prop :=
  overloads.Pairwise (fun o o' => ∀ τ τ', o.parameters = [τ] → o'.parameters = [τ'] → τ.testKind ≠ τ'.testKind)

/-- Only an overload with one parameter accepts one argument, and its parameter is of the kind of the argument. -/
theorem Overload.accepts_one {o : Overload} {s : Store} {v : Value} (accepts : o.accepts s [v] = true) :
    ∃ τ, o.parameters = [τ] ∧ s.testKind? v = some τ.testKind := by
  unfold Overload.accepts at accepts
  rw [Bool.and_eq_true, beq_iff_eq] at accepts
  obtain ⟨length, passes⟩ := accepts
  obtain ⟨τ, parameters⟩ := List.length_eq_one_iff.1 length.symm
  refine ⟨τ, parameters, Convert.accepts_iff.1 ?_⟩
  simpa [parameters] using passes

/-- **The order of overloads does not matter** to a call with one argument if they are told apart by their only
parameter. -/
theorem Selector.select?_perm {sel sel' : Selector} (apart : IsToldApart sel.overloads)
    (perm : sel.overloads.Perm sel'.overloads) (s : Store) (v : Value) : sel.select? s [v] = sel'.select? s [v] := by
  refine List.find?_eq_find?_of_perm perm ?_
  rintro o ⟨mem, accepts⟩ o' ⟨mem', accepts'⟩
  obtain ⟨τ, parameters, kind⟩ := Overload.accepts_one accepts
  obtain ⟨τ', parameters', kind'⟩ := Overload.accepts_one accepts'
  -- two different overloads cannot both be of the kind of the argument
  by_contra other
  have symmetric : Std.Symm (fun o o' : Overload =>
      ∀ τ τ', o.parameters = [τ] → o'.parameters = [τ'] → τ.testKind ≠ τ'.testKind) :=
    ⟨fun o o' h τ τ' first second => (h τ' τ second first).symm⟩
  exact apart.forall mem mem' other τ τ' parameters parameters' (Option.some.inj (kind.symm.trans kind'))

/-! ## §3. Functions. -/

/-- The object has a length of its own that cannot be changed, and was made for no type. -/
def Object.HasFixedLength (o : Object) : Prop :=
  o.nativeType = none ∧ ∃ length, o.property? lengthName = some ⟨length, .fixed⟩

/-- All functions have such a length. -/
def Store.LengthsFixed (s : Store) : Prop :=
  ∀ id o ref, s.object? id = some o → o.kind = .function ref → o.HasFixedLength

/-- From number `n` on, no object is a function. -/
def Store.NoFunctionFrom (n : Nat) (s : Store) : Prop :=
  ∀ id o ref, n ≤ id.index → s.object? id = some o → o.kind ≠ .function ref

namespace Store.NoFunctionFrom

variable {n : Nat} {s : Store}

/-- An object that is no function may be added. -/
theorem alloc (h : s.NoFunctionFrom n) {o : Object} (none : ∀ ref, o.kind ≠ .function ref) :
    (s.alloc o).2.NoFunctionFrom n := by
  intro id p ref from_n found
  rcases Store.of_object?_alloc found with ⟨-, rfl⟩ | found
  · exact none ref
  · exact h id p ref from_n found

/-- A change that keeps the kind of an object makes no function. -/
theorem update (h : s.NoFunctionFrom n) (id : ObjectId) {change : Object → Object}
    (kind : ∀ o, s.object? id = some o → (change o).kind = o.kind) : (s.update id change).NoFunctionFrom n := by
  intro other p ref from_n found
  rcases Store.of_object?_update found with ⟨rfl, o, there, rfl⟩ | ⟨-, found⟩
  · rw [kind o there]
    exact h other o ref from_n there
  · exact h other p ref from_n found

end Store.NoFunctionFrom

/-- There are no functions behind the last object. -/
theorem noFunctionFrom_length (s : Store) : s.NoFunctionFrom s.objects.length := by
  intro id o ref from_n found
  have := Store.index_lt_of_object? found
  omega

/-- **Only publishing makes functions.** -/
theorem robust_noFunctionFrom (n : Nat) : Robust (Store.NoFunctionFrom n) where
  enlist := by
    intro s type h id o ref from_n found
    unfold Store.object? at found
    rw [Layout.enlist_objects] at found
    exact h id o ref from_n found
  cells := fun _ _ h => h
  update := fun id _ shape h => h.update id (fun o found => (shape o found).1)
  plain := fun _ h => h.alloc nofun
  handle := fun _ _ h => h.alloc nofun
  share := fun _ _ _ h => h.update _ (fun _ _ => rfl)

/-- What is called otherwise than the fixed properties of constructors, prototypes and functions is no length. -/
theorem ne_length {c : ClassName} {name : String} (apart : name ∉ innerNames c) : name ≠ lengthName := by
  rintro rfl
  exact apart (.tail _ (.head _))

/-- An object that calls a function is one. -/
theorem Object.kind_of_function? {o : Object} {ref : FunctionRef} (function : o.function? = some ref) :
    o.kind = .function ref := by
  unfold Object.function? at function
  split at function
  case h_1 found => rw [found, Option.some.inj function]
  case h_2 => cases function

namespace Store.LengthsFixed

variable {s t : Store}

/-- Functions keep their lengths as long as objects only age, and new ones have theirs. -/
theorem later (h : s.LengthsFixed) (ages : s.Follows Object.Ages 0 t)
    (new : ∀ id o ref, s.objects.length ≤ id.index → t.object? id = some o → o.kind = .function ref →
      o.HasFixedLength) : t.LengthsFixed := by
  intro id o ref found function
  rcases ages.origin (Nat.zero_le _) found with ⟨p, found', step⟩ | behind
  · have function' := step.kind.symm.trans function
    obtain ⟨untyped, length, fixed⟩ := h id p ref found' function'
    exact ⟨step.nativeType.trans untyped, length, step.fixed (Object.isMutable_of_function function') _ _ fixed rfl⟩
  · exact new id o ref behind found function

/-- So they do if there are no new ones. -/
theorem of_noFunction (h : s.LengthsFixed) (ages : s.Follows Object.Ages 0 t)
    (none : t.NoFunctionFrom s.objects.length) : t.LengthsFixed :=
  h.later ages (fun id o ref behind found function => absurd function (none id o ref behind found))

/-- Other properties may be defined on whatever object. -/
theorem define (h : s.LengthsFixed) (id : ObjectId) {name : String} (value : Value) (flags : Flags)
    (other : name ≠ lengthName) : (s.define id name value flags).LengthsFixed := by
  intro place p ref found function
  rcases Store.of_object?_update found with ⟨rfl, o, there, rfl⟩ | ⟨-, found⟩
  · obtain ⟨untyped, length, fixed⟩ := h place o ref there function
    refine ⟨untyped, length, ?_⟩
    rw [Object.property?_define, if_neg other.symm, fixed]
  · exact h place p ref found function

/-- A new function has its number of parameters for a length. -/
theorem newFunction (h : s.LengthsFixed) (name : String) (ref : FunctionRef) (length : Nat) :
    (Engine.newFunction name ref length s).2.LengthsFixed := by
  have made := Store.object?_alloc_self s (.ofKind (.function ref))
  have named := Store.object?_define_self "name" (.string name) .fixed made
  have counted := Store.object?_define_self "length" (.count length) .fixed named
  refine h.later (newFunction_shows name ref length s).1.objects.ages ?_
  intro id o ref' behind found function
  -- there is only one new object
  have one : (Engine.newFunction name ref length s).2.objects.length = s.objects.length + 1 := by
    show (((s.objects ++ [_]).modify s.objects.length _).modify s.objects.length _).length = _
    rw [List.length_modify, List.length_modify, List.length_append, List.length_singleton]
  have last := Store.index_lt_of_object? found
  obtain rfl : id = ⟨s.objects.length⟩ := congrArg ObjectId.mk (by omega)
  obtain rfl := Option.some.inj (counted.symm.trans found)
  refine ⟨rfl, .count length, ?_⟩
  rw [lengthName, Object.property?_define, if_pos rfl]

/-- Conversions make no functions. -/
theorem toScript (h : s.LengthsFixed) (τ : NativeType) (constant : Bool) (data : τ.Data) :
    (Convert.toScript τ constant data s).2.LengthsFixed :=
  h.of_noFunction (Convert.toScript_extends τ constant data s).objects.ages
    ((robust_noFunctionFrom _).toScript τ constant data (noFunctionFrom_length s))

/-- Publishing methods fixes the lengths of their functions. -/
theorem publishMethods (h : s.LengthsFixed) (c : ClassName) (keep : MethodSet c → Bool) (target : ObjectId) :
    (((Interface.ofClass c).methods.filter keep).forM (publishMethod target) s).2.LengthsFixed := by
  show (((Interface.ofClass c).methods.filter keep).forM (fun set => writeProperty target set.name .fixed
    (methodFunction set)) s).2.LengthsFixed
  refine forM_writeProperty_induct ?_ ?_ h
  · exact fun set _ t fixed => fixed.newFunction set.name (.method c set.name) set.length
  · intro set mem t v fixed
    have apart := (apart_innerNames c).1 set (List.mem_filter.1 mem).1
    exact fixed.define target v .fixed (fun same => apart (.tail _ (same ▸ .head _)))

/-- Publishing static fields leaves the lengths fixed. -/
theorem publishFields (h : s.LengthsFixed) (c : ClassName) (target : ObjectId) :
    ((Interface.ofClass c).staticFields.forM (publishField target) s).2.LengthsFixed := by
  show ((Interface.ofClass c).staticFields.forM (fun f => writeProperty target f.name
    (if f.isConst then .fixed else .kept) (Convert.toScript (.value f.type) false f.value)) s).2.LengthsFixed
  refine forM_writeProperty_induct ?_ ?_ h
  · exact fun f _ t fixed => fixed.toScript (.value f.type) false f.value
  · intro f mem t v fixed
    exact fixed.define target v _ (ne_length ((apart_innerNames c).2 f mem))

/-- Adopting a prototype leaves the lengths fixed. -/
theorem adopt (h : s.LengthsFixed) (c : ClassName) (prototype : ObjectId) :
    (Script.adopt c prototype s).LengthsFixed := by
  have numbered : (s.enlist (.value (.object c))).LengthsFixed :=
    h.of_noFunction (Store.extends_enlist s _).objects.ages
      ((robust_noFunctionFrom _).enlist _ (noFunctionFrom_length s))
  exact numbered.define prototype _ .none (ne_length (name_not_inner c c).1)

/-- Publishing a constructor fixes its length. -/
theorem publishConstructor (h : s.LengthsFixed) (c : ClassName) (prototype : ObjectId) :
    (Script.publishConstructor c prototype s).2.LengthsFixed := by
  have made := h.newFunction c.name (.constructor c) (Interface.ofClass c).constructorLength
  have other : "prototype" ≠ lengthName := by decide
  have linked := made.define ⟨s.objects.length⟩ (.object prototype) .fixed other
  exact (linked.publishMethods c (·.isStatic) ⟨s.objects.length⟩).publishFields c ⟨s.objects.length⟩

/-- **Publishing a class** makes functions with lengths only, and changes no length. -/
theorem register (h : s.LengthsFixed) (c : ClassName) : (Script.register c s).2.LengthsFixed := by
  have allocated : (s.alloc (.ofKind .plain)).2.LengthsFixed :=
    h.of_noFunction (Store.extends_alloc s _).objects.ages ((noFunctionFrom_length s).alloc nofun)
  have prototype : (withPrototype c s).LengthsFixed := allocated.publishMethods c (!·.isStatic) ⟨s.objects.length⟩
  rw [register_run]
  exact ((prototype.adopt c _).publishConstructor c _).define _ _ .fixed (ne_length (name_not_inner c c).2)

/-- **No event** undoes it. -/
theorem event {e after : Engine} {event : Event} {depth : Nat} (h : e.store.LengthsFixed)
    (performed : event.perform (depth + 1) e = some after) : after.store.LengthsFixed := by
  by_cases publication : event.Publishes
  · cases event with
    | register c =>
      obtain rfl := Option.some.inj performed
      exact h.register c
    | _ => cases publication
  · exact h.of_noFunction (Event.ages publication performed)
      ((robust_noFunctionFrom _).event publication performed (noFunctionFrom_length e.store))

end Store.LengthsFixed

/-- **Every function has a length**, whatever happened before. -/
theorem Run.lengthsFixed {reporting : Bool} {history : History} {e : Engine} (run : Run reporting history e) :
    e.store.LengthsFixed := by
  induction run with
  | start =>
    -- there is nothing but the global object, which is no function
    intro id o ref found function
    have first := Store.index_lt_of_object? found
    obtain rfl : id = ⟨0⟩ := congrArg ObjectId.mk (Nat.lt_one_iff.1 first)
    obtain rfl := Option.some.inj found
    cases function
  | step run performed ih => exact ih.event performed

/-- So functions pass for lists. -/
theorem Store.LengthsFixed.testKind? {s : Store} (h : s.LengthsFixed) {v : Value}
    (function : (s.functionOf? v).isSome) : s.testKind? v = some .list := by
  cases v with
  | object id =>
    obtain ⟨ref, behind⟩ := Option.isSome_iff_exists.1 function
    obtain ⟨o, found, kind⟩ := Option.bind_eq_some_iff.1 behind
    obtain ⟨untyped, length, fixed⟩ := h id o ref found (Object.kind_of_function? kind)
    have there : s.object? id = some o := found
    show (s.object? id).bind (·.testKind?) = _
    rw [there, Option.bind_some, Object.testKind?_eq_list_iff, Object.own?, fixed]
    exact ⟨untyped, rfl⟩
  | _ => cases function

/-! ## §4. What tests tell of values. -/

/-- How far tests tell the values of a store apart. -/
structure Store.TellsApart (s : Store) : Prop where
  /-- Tests that a value passes are of one kind. -/
  exclusive : ∀ v τ σ, Convert.accepts τ s v = true → Convert.accepts σ s v = true → τ.testKind = σ.testKind
  /-- There is no test for no value. -/
  undefined : ∀ τ, Convert.accepts τ s .undefined = false
  /-- Functions pass the tests for lists and no others. -/
  function : ∀ v τ, (s.functionOf? v).isSome = true → (Convert.accepts τ s v = true ↔ τ.testKind = .list)
  /-- In a call with one argument, the order of overloads that their only parameters tell apart does not matter. -/
  order : ∀ sel sel' : Selector, Selector.IsToldApart sel.overloads → sel.overloads.Perm sel'.overloads →
    ∀ v, sel.select? s [v] = sel'.select? s [v]

/-- **Whatever happened, no value passes tests of two kinds**, and functions pass for lists but for nothing else. -/
theorem Run.tellsApart {reporting : Bool} {history : History} {e : Engine} (run : Run reporting history e) :
    e.store.TellsApart where
  exclusive := by
    intro v τ σ first second
    exact Option.some.inj ((Convert.accepts_iff.1 first).symm.trans (Convert.accepts_iff.1 second))
  undefined := by
    intro τ
    rw [Bool.eq_false_iff, ne_eq, Convert.accepts_iff]
    exact nofun
  function := by
    intro v τ function
    rw [Convert.accepts_iff, run.lengthsFixed.testKind? function, Option.some.injEq, eq_comm]
  order := fun _ _ apart perm v => Selector.select?_perm apart perm e.store v

/-! ## §5. A constructor. -/

/-- A new engine with vectors published on it. -/
def Engine.withVectors : Engine :=
  ((Engine.new true).useStore (register .vector3)).1

/-- The engine with vectors comes about by publishing them. -/
theorem run_withVectors : Run true [(.new true, .register .vector3)] .withVectors := by
  have performed : (Event.register .vector3).perform 1 (.new true) = some .withVectors := rfl
  exact .step .start performed

/-- The constructor of vectors on it. -/
def Engine.vectorConstructor : Value :=
  Engine.withVectors.store.property Engine.withVectors.store.global "Vector3"

/-- Its constructor is one for vectors. -/
theorem functionOf?_vectorConstructor :
    Engine.withVectors.store.functionOf? Engine.vectorConstructor = some (.constructor .vector3) := by
  decide +kernel

/-- It passes the tests for lists, and no others. -/
theorem Run.tellsApart_vectors : Run true [(.new true, .register .vector3)] .withVectors ∧
    ∀ τ, Convert.accepts τ Engine.withVectors.store Engine.vectorConstructor = true ↔ τ.testKind = .list := by
  refine ⟨run_withVectors, fun τ => (Run.tellsApart run_withVectors).function _ τ ?_⟩
  rw [functionOf?_vectorConstructor]
  rfl

/-- **A function that passes for a list.** -/
theorem constructor_passes_for_list : ∃ history e v, Run true history e ∧
    e.store.functionOf? v = some (.constructor .vector3) ∧ Convert.accepts (.value (.list .double)) e.store v = true :=
  ⟨_, _, Engine.vectorConstructor, run_withVectors, functionOf?_vectorConstructor, by decide +kernel⟩

end ScriptBridge.Script
