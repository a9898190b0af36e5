import Mathlib.Data.List.Nodup
import ScriptBridge.Proofs.Script.Evolution

/-!
# ScriptBridge.Proofs.Script.FixedBinding

Published classes are out of the reach of scripts.

Publishing a class makes a constructor, a prototype and a function for every method name (`Binding`).  All that leads
from the global object to the functions are fixed properties of objects that are no handles (`Store.Binds`), so scripts
can neither assign to them, nor delete them, nor have an instance written back onto them.  And no event changes the
prototype of an object that is there.  So what a handle does when a method is invoked on it is settled when it is made,
unless a script gives the handle a property of the method's name.

Main results:
  * `register_binds` - publishing a class binds it;
  * `Store.Binds.later` - nothing undoes that;
  * `Store.Inherits` - handles of the class have its prototype;
  * `run_invokeMethod` - invoking a method on them runs its function;
  * `bindings_stay` - all this after the publication of all classes, whatever happens then.
-/

namespace ScriptBridge.Script

open ScriptBridge.Native

universe u

/-! ## §1. Fixed properties and functions. -/

/-- The object is no mutable handle, and has the value as a fixed property. -/
def Store.Fixes (s : Store) (id : ObjectId) (name : String) (v : Value) : Prop :=
  ∃ o, s.object? id = some o ∧ o.isMutable = false ∧ o.property? name = some ⟨v, .fixed⟩

/-- The object is the function, and its name and number of parameters are fixed. -/
def Store.HasFunction (s : Store) (id : ObjectId) (ref : FunctionRef) (name : String) (length : Nat) : Prop :=
  ∃ o, s.object? id = some o ∧ o.kind = .function ref ∧ o.property? "name" = some ⟨.string name, .fixed⟩ ∧
    o.property? "length" = some ⟨.count length, .fixed⟩

/-- The object stays what it is, and unless it is a mutable handle it keeps its fixed properties of the given names. -/
structure Object.Secures (names : List String) (o next : Object) : Prop where
  kind : next.kind = o.kind
  fixed : o.isMutable = false → ∀ name ∈ names, ∀ p, o.property? name = some p → p.flags = .fixed →
    next.property? name = some p

namespace Object

/-- What scripts do to an object secures its fixed properties, whatever their names. -/
theorem Ages.secures {o next : Object} (ages : o.Ages next) (names : List String) : o.Secures names next :=
  ⟨ages.kind, fun still name _ p => ages.fixed still name p⟩

/-- An object that stays as it is keeps its fixed properties. -/
theorem Secures.refl {names : List String} (o : Object) : o.Secures names o :=
  (Ages.refl o).secures names

/-- Defining a property secures those of other names. -/
theorem secures_define {names : List String} {name : String} (free : name ∉ names) (o : Object) (value : Value)
    (flags : Flags) : o.Secures names (o.define name value flags) where
  kind := rfl
  fixed := by
    intro _ other mem p own _
    rw [property?_define, if_neg, own]
    rintro rfl
    exact free mem

/-- One change after another. -/
theorem Secures.trans {names : List String} {o p q : Object} (first : o.Secures names p) (second : p.Secures names q) :
    o.Secures names q where
  kind := second.kind.trans first.kind
  fixed := by
    intro still name mem property own flags
    have middle := first.fixed still name mem property own flags
    exact second.fixed ((isMutable_congr first.kind).trans still) name mem property middle flags

/-- Functions are no handles. -/
theorem isMutable_of_function {o : Object} {ref : FunctionRef} (kind : o.kind = .function ref) :
    o.isMutable = false := by
  apply isMutable_eq_false
  rw [kind]
  exact nofun

end Object

namespace Store

variable {s t : Store} {id : ObjectId} {names : List String} {n : Nat}

/-- New objects leave the properties of the others secure. -/
theorem Extends.secures (extended : s.Extends t) (names : List String) : s.Follows (Object.Secures names) 0 t :=
  extended.objects.of_unchanged Object.Secures.refl (Nat.le_refl 0)

/-- Defining a property of a free name secures the given ones on all objects. -/
theorem follows_define {name : String} (free : name ∉ names) (s : Store) (id : ObjectId) (value : Value)
    (flags : Flags) : s.Follows (Object.Secures names) 0 (s.define id name value flags) :=
  follows_update Object.Secures.refl s id (fun o => o.secures_define free value flags)

/-- A fixed property is there once it has been defined on an object that is no mutable handle. -/
theorem fixes_define {o : Object} (found : s.object? id = some o) (still : o.isMutable = false) (name : String)
    (v : Value) : (s.define id name v .fixed).Fixes id name v :=
  ⟨_, object?_define_self name v .fixed found, still, by rw [Object.property?_define, if_pos rfl]⟩

/-- What a fixed property is looked up as. -/
theorem Fixes.property {name : String} {v : Value} (h : s.Fixes id name v) : s.property id name = v := by
  obtain ⟨o, found, -, own⟩ := h
  exact property_own found own

/-- **A fixed property stays** while its name is secured. -/
theorem Fixes.later {name : String} {v : Value} (h : s.Fixes id name v) (follows : s.Follows (Object.Secures names) n t)
    (from_n : n ≤ id.index) (mem : name ∈ names) : t.Fixes id name v := by
  obtain ⟨o, found, still, own⟩ := h
  obtain ⟨next, found', step⟩ := follows id o from_n found
  exact ⟨next, found', (Object.isMutable_congr step.kind).trans still, step.fixed still name mem _ own rfl⟩

/-- Properties that are secured by two steps are secured by both together. -/
theorem secures_trans {u : Store} (first : s.Follows (Object.Secures names) 0 t)
    (second : t.Follows (Object.Secures names) 0 u) : s.Follows (Object.Secures names) 0 u :=
  first.trans Object.Secures.trans second

variable {ref : FunctionRef} {name : String} {length : Nat}

/-- A function that is there is found as what it calls. -/
theorem HasFunction.functionOf? (h : s.HasFunction id ref name length) : s.functionOf? (.object id) = some ref := by
  obtain ⟨o, found, kind, -⟩ := h
  show (s.object? id).bind (·.function?) = some ref
  rw [found, Option.bind_some, Object.function?, kind]

/-- **A function stays**, with its name and number of parameters, while these are secured. -/
theorem HasFunction.later (h : s.HasFunction id ref name length) (follows : s.Follows (Object.Secures names) n t)
    (from_n : n ≤ id.index) (mem : "name" ∈ names) (mem' : "length" ∈ names) : t.HasFunction id ref name length := by
  obtain ⟨o, found, kind, named, counted⟩ := h
  obtain ⟨next, found', step⟩ := follows id o from_n found
  have still := Object.isMutable_of_function kind
  exact ⟨next, found', step.kind.trans kind, step.fixed still _ mem _ named rfl, step.fixed still _ mem' _ counted rfl⟩

end Store

/-! ## §2. What a published class consists of. -/

/-- The objects behind a published class. -/
structure Binding where
  constructor : ObjectId
  prototype : ObjectId
  /-- The functions for the methods, by name. -/
  method : String → ObjectId

/-- The object on which the methods of a name stand: the constructor for static ones, else the prototype. -/
def Binding.place {c : ClassName} (b : Binding) (set : MethodSet c) : ObjectId :=
  if set.isStatic then b.constructor else b.prototype

/-- The function stands as a fixed property on an object, and is that of the methods of the name. -/
structure Store.BindsMethod {c : ClassName} (s : Store) (place f : ObjectId) (set : MethodSet c) : Prop where
  property : s.Fixes place set.name (.object f)
  function : s.HasFunction f (.method c set.name) set.name set.length

/-- All that a published class consists of is there and fixed. -/
structure Store.Binds (s : Store) (c : ClassName) (b : Binding) : Prop where
  global : s.Fixes s.global c.name (.object b.constructor)
  constructor : s.HasFunction b.constructor (.constructor c) c.name (Interface.ofClass c).constructorLength
  prototype : s.Fixes b.constructor "prototype" (.object b.prototype)
  methods : ∀ set ∈ (Interface.ofClass c).methods, s.BindsMethod (b.place set) (b.method set.name) set

/-- The names of the fixed properties of the constructor, the prototype and the functions. -/
def innerNames (c : ClassName) : List String :=
  ["name", "length", "prototype"] ++ (Interface.ofClass c).methods.map (·.name)

/-- The methods of a class are among the names that its objects have fixed. -/
theorem mem_innerNames {c : ClassName} {set : MethodSet c} (mem : set ∈ (Interface.ofClass c).methods) :
    set.name ∈ innerNames c :=
  List.mem_append_right _ (List.mem_map_of_mem mem)

/-- **A method stays bound** while the inner names of its class are secured. -/
theorem Store.BindsMethod.later {c : ClassName} {s t : Store} {place f : ObjectId} {set : MethodSet c}
    (h : s.BindsMethod place f set) {names : List String} (follows : s.Follows (Object.Secures names) 0 t)
    (inner : ∀ name ∈ innerNames c, name ∈ names) (mem : set ∈ (Interface.ofClass c).methods) :
    t.BindsMethod place f set where
  property := h.property.later follows (Nat.zero_le _) (inner _ (mem_innerNames mem))
  function := h.function.later follows (Nat.zero_le _) (inner _ (.head _)) (inner _ (.tail _ (.head _)))

/-- **A published class stays as it is** as long as fixed properties do. -/
theorem Store.Binds.later {c : ClassName} {b : Binding} {s t : Store} (h : s.Binds c b)
    (follows : s.Follows (Object.Secures (c.name :: innerNames c)) 0 t) (global : t.global = s.global) :
    t.Binds c b where
  global := by
    rw [global]
    exact h.global.later follows (Nat.zero_le _) List.mem_cons_self
  constructor := h.constructor.later follows (Nat.zero_le _) (.tail _ (.head _)) (.tail _ (.tail _ (.head _)))
  prototype := h.prototype.later follows (Nat.zero_le _) (.tail _ (.tail _ (.tail _ (.head _))))
  methods := fun set mem => (h.methods set mem).later follows (fun _ => List.mem_cons_of_mem _) mem

/-! ## §3. Publishing. -/

/-- A new function object is that function. -/
theorem newFunction_hasFunction (name : String) (ref : FunctionRef) (length : Nat) (s : Store) :
    (Engine.newFunction name ref length s).2.HasFunction ⟨s.objects.length⟩ ref name length := by
  have made := Store.object?_alloc_self s (.ofKind (.function ref))
  have named := Store.object?_define_self "name" (.string name) .fixed made
  have counted := Store.object?_define_self "length" (.count length) .fixed named
  refine ⟨_, counted, rfl, ?_, ?_⟩
  · rw [Object.property?_define, if_neg (by decide), Object.property?_define, if_pos rfl]
  · rw [Object.property?_define, if_pos rfl]

/-- What was published as a method has its name and number of parameters. -/
theorem hasFunction_of_made {c : ClassName} {set : MethodSet c} {n : Nat} {s : Store} {v : Value}
    (made : Made (methodFunction set) n s v) :
    ∃ f, v = .object f ∧ s.HasFunction f (.method c set.name) set.name set.length := by
  obtain ⟨origin, -, rfl, kept⟩ := made
  have function := newFunction_hasFunction set.name (.method c set.name) set.length origin
  refine ⟨⟨origin.objects.length⟩, rfl, ?_⟩
  have secured : Store.Follows (Object.Secures ["name", "length"]) _ _ s :=
    kept.of_unchanged Object.Secures.refl (Nat.le_refl _)
  exact function.later secured (Nat.le_refl _) (.head _) (.tail _ (.head _))

/-- Publishing methods on an object that is no mutable handle. -/
theorem publishMethods_bind (c : ClassName) (keep : MethodSet c → Bool) {s : Store} {place : ObjectId} {o : Object}
    (found : s.object? place = some o) (still : o.isMutable = false) :
    ∀ set ∈ (Interface.ofClass c).methods.filter keep, ∃ f,
      (((Interface.ofClass c).methods.filter keep).forM (publishMethod place) s).2.BindsMethod place f set := by
  obtain ⟨altered, next, found', written⟩ := forM_writeProperty MethodSet.name (fun _ => .fixed)
    (fun set _ => methodFunction_extends set) (distinct_methods c keep) found
  obtain ⟨p, there, kind, -⟩ := altered.own o found
  obtain rfl := Option.some.inj (found'.symm.trans there)
  intro set mem
  obtain ⟨v, own, made⟩ := written.written set mem
  obtain ⟨f, rfl, function⟩ := hasFunction_of_made made
  exact ⟨f, ⟨next, found', (Object.isMutable_congr kind).trans still, own⟩, function⟩

/-- Methods have other names than the fixed properties of every constructor, and static fields have other names than
both. -/
theorem apart_innerNames (c : ClassName) :
    (∀ set ∈ (Interface.ofClass c).methods, set.name ∉ ["name", "length", "prototype"]) ∧
      ∀ f ∈ (Interface.ofClass c).staticFields, f.name ∉ innerNames c := by
  have methods : (Interface.ofClass c).methods.all (fun b => !(["name", "length", "prototype"].contains b.name)) = true := by
    cases c <;> decide
  have fields : (Interface.ofClass c).staticFields.all (!(innerNames c).contains ·.name) = true := by
    cases c <;> decide
  simp only [List.all_eq_true, Bool.not_eq_true', List.contains_eq_mem, decide_eq_false_iff_not] at methods fields
  exact ⟨methods, fields⟩

/-- Writing a series of properties secures those of other names. -/
theorem forM_writeProperty_secures {ι : Type u} (name : ι → String) (flags : ι → Flags) {convert : ι → StoreM Value}
    {items : List ι} {names : List String} (extends_convert : ∀ i ∈ items, ∀ s : Store, s.Extends (convert i s).2)
    (free : ∀ i ∈ items, name i ∉ names) (id : ObjectId) (s : Store) : s.Follows (Object.Secures names) 0
      (items.forM (fun i => writeProperty id (name i) (flags i) (convert i)) s).2 := by
  refine forM_writeProperty_induct (P := fun t => s.Follows (Object.Secures names) 0 t) ?_ ?_ ?_
  · exact fun i mem t follows => Store.secures_trans follows ((extends_convert i mem t).secures names)
  · exact fun i mem t v follows => Store.secures_trans follows (Store.follows_define (free i mem) t id v _)
  · exact .refl Object.Secures.refl 0 s

/-- The constructor with its static methods. -/
theorem publishConstructor_binds (c : ClassName) (prototype : ObjectId) (s : Store) :
    (publishConstructor c prototype s).2.HasFunction (publishConstructor c prototype s).1 (.constructor c) c.name
        (Interface.ofClass c).constructorLength ∧
      (publishConstructor c prototype s).2.Fixes (publishConstructor c prototype s).1 "prototype" (.object prototype) ∧
      ∀ set ∈ (Interface.ofClass c).methods.filter (·.isStatic), ∃ f,
        (publishConstructor c prototype s).2.BindsMethod (publishConstructor c prototype s).1 f set := by
  obtain ⟨no_method, no_field⟩ := apart_innerNames c
  -- the function object gets its prototype, then the static methods, then the static fields
  have function := newFunction_hasFunction c.name (.constructor c) (Interface.ofClass c).constructorLength s
  have ⟨o, found, kind, _⟩ := function
  have linked := Store.fixes_define found (Object.isMutable_of_function kind) "prototype" (.object prototype)
  have link_free : "prototype" ∉ ["name", "length"] := by decide
  replace function := function.later (Store.follows_define link_free _ ⟨s.objects.length⟩ (.object prototype) .fixed)
    (Nat.zero_le _) (.head _) (.tail _ (.head _))
  have ⟨o', found', kind', _⟩ := function
  have static := publishMethods_bind c (·.isStatic) found' (Object.isMutable_of_function kind')
  have methods : ∀ t : Store, t.Follows (Object.Secures ["name", "length", "prototype"]) 0
      (((Interface.ofClass c).methods.filter (·.isStatic)).forM (publishMethod ⟨s.objects.length⟩) t).2 :=
    forM_writeProperty_secures MethodSet.name (fun _ => .fixed)
      (fun set _ => methodFunction_extends set) (fun set mem => no_method set (List.mem_filter.1 mem).1)
      ⟨s.objects.length⟩
  have fields : ∀ t : Store, t.Follows (Object.Secures (innerNames c)) 0
      ((Interface.ofClass c).staticFields.forM (publishField ⟨s.objects.length⟩) t).2 :=
    forM_writeProperty_secures StaticField.name (fun f => if f.isConst then .fixed else .kept)
      (fun f _ => (lawful_marshalOf f.type).toScript_extends f.value) no_field ⟨s.objects.length⟩
  refine ⟨?_, ?_, ?_⟩
  · exact (function.later (methods _) (Nat.zero_le _) (by simp) (by simp)).later (fields _) (Nat.zero_le _) (.head _)
      (.tail _ (.head _))
  · exact (linked.later (methods _) (Nat.zero_le _) (by simp)).later (fields _) (Nat.zero_le _) (.tail _ (.tail _ (.head _)))
  · intro set mem
    obtain ⟨f, binds⟩ := static set mem
    exact ⟨f, binds.later (fields _) (fun _ inner => inner) (List.mem_filter.1 mem).1⟩

/-- The global object is there, and no mutable handle. -/
def Store.HasGlobal (s : Store) : Prop :=
  ∃ o, s.object? s.global = some o ∧ o.isMutable = false

/-- The global object stays no mutable handle. -/
theorem Store.HasGlobal.later {s t : Store} (h : s.HasGlobal) {names : List String}
    (follows : s.Follows (Object.Secures names) 0 t) (global : t.global = s.global) : t.HasGlobal := by
  obtain ⟨o, found, still⟩ := h
  obtain ⟨next, found', step⟩ := follows _ o (Nat.zero_le _) found
  exact ⟨next, by rw [global, found'], (Object.isMutable_congr step.kind).trans still⟩

/-- No published name is that of a fixed property of a constructor, a prototype or a function. -/
theorem name_not_inner (c d : ClassName) : "metaTypeId" ∉ innerNames c ∧ d.name ∉ innerNames c := by
  cases c <;> cases d <;> decide

/-- Publishing a class secures what is there, apart from the property for its constructor. -/
theorem register_secures (c : ClassName) (s : Store) (names : List String) (free : c.name ∉ names) :
    s.Follows (Object.Secures names) 0 (register c s).2 ∧ (register c s).2.global = s.global := by
  obtain ⟨t, kept, global, -, defined⟩ := register_defines c s
  rw [defined]
  refine ⟨?_, global⟩
  have secured : s.Follows (Object.Secures names) 0 t := kept.of_unchanged Object.Secures.refl (Nat.le_refl 0)
  exact Store.secures_trans secured (Store.follows_define free t _ _ _)

/-- Among the methods of a class none is like another one in name. -/
theorem eq_of_method_name {c : ClassName} {set set' : MethodSet c} (mem : set ∈ (Interface.ofClass c).methods)
    (mem' : set' ∈ (Interface.ofClass c).methods) (same : set.name = set'.name) : set = set' := by
  have distinct := distinct_methods c (fun _ => true)
  rw [List.filter_true] at distinct
  exact List.inj_on_of_nodup_map distinct mem mem' same

/-- Whatever holds of every method of a class for a function of its own, one choice of functions by name serves. -/
theorem exists_by_name {c : ClassName} {P : ObjectId → MethodSet c → Prop}
    (each : ∀ set ∈ (Interface.ofClass c).methods, ∃ f, P f set) :
    ∃ method : String → ObjectId, ∀ set ∈ (Interface.ofClass c).methods, P (method set.name) set := by
  have by_name : ∀ name, ∃ f, ∀ set ∈ (Interface.ofClass c).methods, set.name = name → P f set := by
    intro name
    by_cases exists_set : ∃ set ∈ (Interface.ofClass c).methods, set.name = name
    · obtain ⟨set, mem, rfl⟩ := exists_set
      obtain ⟨f, holds⟩ := each set mem
      exact ⟨f, fun other mem' same => eq_of_method_name mem' mem same ▸ holds⟩
    · exact ⟨⟨0⟩, fun set mem same => absurd ⟨set, mem, same⟩ exists_set⟩
  choose method holds using by_name
  exact ⟨method, fun set mem => holds set.name set mem rfl⟩

/-- **Publishing a class binds it**, with the object that is new first for a prototype. -/
theorem register_binds (c : ClassName) {s : Store} (present : s.HasGlobal) : ∃ b,
    (register c s).1 = .object b.constructor ∧ b.prototype = ⟨s.objects.length⟩ ∧ (register c s).2.Binds c b := by
  obtain ⟨constructor, prototype, static⟩ := publishConstructor_binds c ⟨s.objects.length⟩
    (adopt c ⟨s.objects.length⟩ (withPrototype c s))
  -- the prototype gets its methods, and keeps them until the constructor is there
  have instances := publishMethods_bind c (!·.isStatic) (Store.object?_alloc_self s (.ofKind .plain)) rfl
  have adopted : (withPrototype c s).Follows (Object.Secures (innerNames c)) 0
      (adopt c ⟨s.objects.length⟩ (withPrototype c s)) :=
    Store.secures_trans ((Store.extends_enlist _ _).secures _) (Store.follows_define (name_not_inner c c).1 _ _ _ _)
  have constructed := (publishConstructor_extends c ⟨s.objects.length⟩
    (adopt c ⟨s.objects.length⟩ (withPrototype c s))).secures (innerNames c)
  have answer := register_answer c s
  have run := register_run c s
  generalize publishConstructor c ⟨s.objects.length⟩ (adopt c ⟨s.objects.length⟩ (withPrototype c s)) = made
    at constructor prototype static constructed answer run
  obtain ⟨k, t⟩ := made
  -- then the constructor is published, which harms none of this
  have published : t.Follows (Object.Secures (innerNames c)) 0 (register c s).2 := by
    rw [run]
    exact Store.follows_define (name_not_inner c c).2 t _ _ _
  have methods : ∀ set ∈ (Interface.ofClass c).methods, ∃ f,
      (register c s).2.BindsMethod (if set.isStatic then k else ⟨s.objects.length⟩) f set := by
    intro set mem
    by_cases isStatic : set.isStatic = true
    · obtain ⟨f, binds⟩ := static set (List.mem_filter.2 ⟨mem, isStatic⟩)
      rw [if_pos isStatic]
      exact ⟨f, binds.later published (fun _ inner => inner) mem⟩
    · obtain ⟨f, binds⟩ := instances set (List.mem_filter.2 ⟨mem, by simpa using isStatic⟩)
      rw [if_neg isStatic]
      have prototype_kept := Store.secures_trans (Store.secures_trans adopted constructed) published
      exact ⟨f, binds.later prototype_kept (fun _ inner => inner) mem⟩
  obtain ⟨method, binds⟩ := exists_by_name methods
  refine ⟨⟨k, ⟨s.objects.length⟩, method⟩, answer, rfl, ?_, ?_, ?_, ?_⟩
  · -- the global object has been there all along
    obtain ⟨u, kept, global, -, defined⟩ := register_defines c s
    obtain ⟨o, found, still⟩ := present
    have fixes := Store.fixes_define (kept.object? (Nat.zero_le _) found) still c.name (register c s).1
    rw [← defined, answer] at fixes
    rwa [(register_secures c s _ (name_not_inner c c).2).2]
  · exact constructor.later published (Nat.zero_le _) (.head _) (.tail _ (.head _))
  · exact prototype.later published (Nat.zero_le _) (.tail _ (.tail _ (.head _)))
  · exact binds

/-! ## §4. The prototypes of handles. -/

/-- New handles of the class get the prototype, and all handles of the class that are newer than the prototype have
it. -/
structure Store.Inherits (s : Store) (c : ClassName) (prototype : ObjectId) : Prop where
  value : s.defaultPrototype? (.value (.object c)) = some prototype
  shared : s.defaultPrototype? (.shared c) = some prototype
  handles : ∀ id o, prototype.index < id.index → s.object? id = some o → o.nativeType = some (.value (.object c)) →
    o.prototype = some prototype

/-- Handles go on inheriting if the prototypes of the types stay and no newer handle has another prototype. -/
theorem Store.Inherits.of_prototypes {s t : Store} {c : ClassName} {prototype : ObjectId} (h : s.Inherits c prototype)
    (same : t.prototypes = s.prototypes) (handles : ∀ id o, prototype.index < id.index → t.object? id = some o →
      o.nativeType = some (.value (.object c)) → o.prototype = some prototype) : t.Inherits c prototype where
  value := by
    unfold defaultPrototype?
    rw [same]
    exact h.value
  shared := by
    unfold defaultPrototype?
    rw [same]
    exact h.shared
  handles := handles

/-- A new object does no harm unless it is a handle of the class without the prototype. -/
theorem Store.Inherits.alloc {s : Store} {c : ClassName} {prototype : ObjectId} (h : s.Inherits c prototype) {o : Object}
    (new : o.nativeType = some (.value (.object c)) → o.prototype = some prototype) :
    (s.alloc o).2.Inherits c prototype := by
  refine h.of_prototypes rfl ?_
  intro other p newer found type
  rcases Store.of_object?_alloc found with ⟨-, rfl⟩ | found
  · exact new type
  · exact h.handles other p newer found type

/-- Neither does an object that changes. -/
theorem Store.Inherits.update {s : Store} {c : ClassName} {prototype id : ObjectId} (h : s.Inherits c prototype)
    {change : Object → Object} (changed : ∀ o, prototype.index < id.index → s.object? id = some o →
      (change o).nativeType = some (.value (.object c)) → (change o).prototype = some prototype) :
    (s.update id change).Inherits c prototype := by
  refine h.of_prototypes rfl ?_
  intro other p newer found type
  rcases Store.of_object?_update found with ⟨rfl, o, there, rfl⟩ | ⟨-, found⟩
  · exact changed o newer there type
  · exact h.handles other p newer found type

/-- **No single operation undoes this.** -/
theorem lasting_inherits (c : ClassName) (prototype : ObjectId) : Lasting (fun s => s.Inherits c prototype) where
  enlist := by
    intro s type h
    refine h.of_prototypes (Layout.enlist_prototypes s type) ?_
    intro id o newer found
    unfold Store.object? at found
    rw [Layout.enlist_objects] at found
    exact h.handles id o newer found
  cells := fun _ _ h => h.of_prototypes rfl h.handles
  update := by
    intro s id change shape h
    refine h.update (fun o newer there type => ?_)
    obtain ⟨-, type', prototype'⟩ := shape o there
    rw [prototype', h.handles id o newer there (type'.symm.trans type)]
  alloc := by
    intro s o untyped h
    refine h.alloc (fun type => ?_)
    rw [untyped] at type
    cases type
  handle := by
    intro s type kind h
    refine h.alloc (fun type' => ?_)
    -- a new handle has the default prototype of its type
    obtain rfl := Option.some.inj type'
    exact h.value
  share := by
    intro s id prototype' o d found type default h
    refine h.update (fun p _ there type' => ?_)
    -- the prototype of shared cells is that of instances
    rw [found] at there
    obtain rfl := Option.some.inj there
    obtain ⟨⟩ := type.symm.trans type'
    exact default.symm.trans h.shared

/-- The default prototypes of other classes do not matter. -/
theorem Store.Inherits.adopts {s : Store} {c d : ClassName} {prototype : ObjectId} (h : s.Inherits c prototype)
    (other : c ≠ d) (p : ObjectId) :
    ((s.setDefaultPrototype (.value (.object d)) p).setDefaultPrototype (.shared d) p).Inherits c prototype where
  value := by
    unfold defaultPrototype? setDefaultPrototype
    rw [Keyed.lookup_set, Keyed.lookup_set, if_neg nofun, if_neg (by simpa using other)]
    exact h.value
  shared := by
    unfold defaultPrototype? setDefaultPrototype
    rw [Keyed.lookup_set, Keyed.lookup_set, if_neg (by simpa using other), if_neg nofun]
    exact h.shared
  handles := h.handles

/-- From number `n` on, no object was made for a type. -/
def Store.UntypedFrom (n : Nat) (s : Store) : Prop :=
  ∀ id o, n ≤ id.index → s.object? id = some o → o.nativeType = none

namespace Store.UntypedFrom

variable {n : Nat} {s : Store}

/-- An object without a type may be added. -/
theorem alloc (h : s.UntypedFrom n) {o : Object} (untyped : o.nativeType = none) : (s.alloc o).2.UntypedFrom n := by
  intro id p from_n found
  rcases Store.of_object?_alloc found with ⟨-, rfl⟩ | found
  · exact untyped
  · exact h id p from_n found

/-- Properties do not change what objects are made for. -/
theorem define (h : s.UntypedFrom n) (id : ObjectId) (name : String) (value : Value) (flags : Flags) :
    (s.define id name value flags).UntypedFrom n := by
  intro other p from_n found
  rcases Store.of_object?_update found with ⟨rfl, o, there, rfl⟩ | ⟨-, found⟩
  · exact h other o from_n there
  · exact h other p from_n found

/-- The new prototype and the functions on it are made for no type. -/
theorem withPrototype (c : ClassName) (h : s.UntypedFrom n) : (Script.withPrototype c s).UntypedFrom n := by
  show (((Interface.ofClass c).methods.filter (!·.isStatic)).forM (fun set => writeProperty ⟨s.objects.length⟩ set.name
    .fixed (methodFunction set)) (s.alloc (.ofKind .plain)).2).2.UntypedFrom n
  refine forM_writeProperty_induct ?_ ?_ (h.alloc rfl)
  · exact fun set _ t untyped => ((untyped.alloc rfl).define _ _ _ _).define _ _ _ _
  · exact fun set _ t v untyped => untyped.define _ set.name v .fixed

end Store.UntypedFrom

/-- **Publishing a class gives handles the new prototype.** -/
theorem register_inherits (c : ClassName) (s : Store) : (register c s).2.Inherits c ⟨s.objects.length⟩ := by
  have untyped : (withPrototype c s).UntypedFrom s.objects.length := by
    refine Store.UntypedFrom.withPrototype c ?_
    intro id o from_n found
    have := Store.index_lt_of_object? found
    omega
  have adopted : (adopt c ⟨s.objects.length⟩ (withPrototype c s)).Inherits c ⟨s.objects.length⟩ := by
    refine ⟨?_, ?_, ?_⟩
    · rw [defaultPrototype?_adopt, if_pos rfl]
    · unfold adopt Store.setDefaultPrototype Store.defaultPrototype?
      rw [Keyed.lookup_set, if_pos rfl]
    · -- there are no handles yet that are newer than the prototype
      intro id o newer found type
      have listed : ((withPrototype c s).enlist (.value (.object c))).UntypedFrom s.objects.length := by
        intro id o from_n found
        unfold Store.object? at found
        rw [Layout.enlist_objects] at found
        exact untyped id o from_n found
      rw [listed.define _ _ _ _ id o (Nat.le_of_lt newer) found] at type
      cases type
  have invariant := (lasting_inherits c ⟨s.objects.length⟩).publication
  rw [register_run]
  have constructor := invariant.publishConstructor c (live_adopt c s) adopted
  exact invariant.define _ _ _ _ (live_publishConstructor c _ _) constructor

/-! ## §5. Invoking methods. -/

/-- Methods are found by their names, since no two have the same. -/
theorem methods?_of_mem {c : ClassName} {set : MethodSet c} (mem : set ∈ (Interface.ofClass c).methods) :
    (Interface.ofClass c).methods? set.name = some set := by
  have some_one : ((Interface.ofClass c).methods? set.name).isSome := by
    rw [Interface.methods?, List.find?_isSome]
    exact ⟨set, mem, beq_self_eq_true _⟩
  obtain ⟨found, here⟩ := Option.isSome_iff_exists.1 some_one
  have named : (found.name == set.name) = true := by
    have matched := List.find?_some here
    exact matched
  rw [here, eq_of_method_name (List.mem_of_find?_eq_some here) mem (eq_of_beq named)]

/-- What a call comes to whose function is the given one: the function runs with the name of the call on the call
stack. -/
def Engine.enter (depth : Nat) (e : Engine) (call : Invocation) (function : NativeFunction) :
    Option (Engine × CallResult) :=
  (Engine.runBody (Engine.invoke bindings depth) { e with callStack := call.label :: e.callStack }
    (function (e.contextOf call))).map (fun r => { r.1 with callStack := r.1.callStack.tail }.settle r.2)

/-- **Invoking a method** on an object with the prototype runs the function for the methods of that name. -/
theorem run_invokeMethod {c : ClassName} {b : Binding} {e : Engine} (binds : e.store.Binds c b) {set : MethodSet c}
    (mem : set ∈ (Interface.ofClass c).methods) (instances : set.isStatic = false) {id : ObjectId} {o : Object}
    (found : e.store.object? id = some o) (prototype : o.prototype = some b.prototype)
    (absent : o.property? set.name = none) (depth : Nat) (arguments : List Value) :
    Engine.run bindings (depth + 1) e (Body.invokeMethod (.object id) set.name arguments) =
      e.enter depth ⟨set.name, .object (b.method set.name), .object id, arguments, false⟩ set.function := by
  have bound := binds.methods set mem
  obtain ⟨p, at_prototype, -, own⟩ := bound.property
  rw [Binding.place, instances, if_neg Bool.false_ne_true] at at_prototype
  have method : e.store.propertyOf (.object id) set.name = .object (b.method set.name) :=
    Store.property_prototype found absent prototype at_prototype own
  have library : bindings (.method c set.name) = some set.function := by
    show ((Interface.ofClass c).methods? set.name).map (·.function) = _
    rw [methods?_of_mem mem]
    rfl
  show Engine.run bindings (depth + 1) e (Request.invokeMethod (.object id) set.name arguments).body = _
  rw [Request.run_body, Request.invocation, method]
  exact Engine.invoke_of_bound depth bound.function.functionOf? library

/-! ## §6. All classes. -/

/-- The class is bound, and its handles have its prototype. -/
structure Store.Upholds (s : Store) (c : ClassName) (b : Binding) : Prop where
  binds : s.Binds c b
  inherits : s.Inherits c b.prototype

/-- The publication of other classes changes nothing for a class that is bound. -/
theorem Store.Upholds.register {s : Store} {c d : ClassName} {b : Binding} (h : s.Upholds c b) (other : c ≠ d) :
    (Script.register d s).2.Upholds c b where
  binds := by
    have free : d.name ∉ c.name :: innerNames c := by
      cases c <;> cases d <;> first | exact absurd rfl other | decide
    obtain ⟨follows, global⟩ := register_secures d s _ free
    exact h.binds.later follows global
  inherits := by
    have lasting := lasting_inherits c b.prototype
    exact lasting.publication.register (lasting.enlist _) (fun _ inherits => inherits.adopts other _) h.inherits

/-- **No event but publications** changes anything for a class that is bound. -/
theorem Store.Upholds.event {e after : Engine} {event : Event} {depth : Nat} {c : ClassName} {b : Binding}
    (h : e.store.Upholds c b) (no_publication : ¬event.Publishes)
    (performed : event.perform (depth + 1) e = some after) : after.store.Upholds c b where
  binds := by
    have ages := Event.ages no_publication performed
    have global := (lasting_global e.store.global).robust.event no_publication performed rfl
    exact h.binds.later (ages.mono (fun step => step.secures _) (Nat.le_refl 0)) global
  inherits := (lasting_inherits c b.prototype).robust.event no_publication performed h.inherits

/-- Publishing other classes upholds what was published. -/
theorem Store.Upholds.registerAll {c : ClassName} {b : Binding} {classes : List ClassName} (others : c ∉ classes)
    {e : Engine} (h : e.store.Upholds c b) : (e.useStore (Script.registerAll classes)).1.store.Upholds c b := by
  induction classes generalizing e with
  | nil => exact h
  | cons d rest ih =>
    rw [List.mem_cons, not_or] at others
    rw [registerAll_cons]
    exact ih others.2 (h.register others.1)

/-- Publishing several classes provides all of them. -/
theorem registerAll_upholds {c : ClassName} {classes : List ClassName} (distinct : classes.Nodup)
    (mem : c ∈ classes) {e : Engine} (present : e.store.HasGlobal) :
    ∃ b, (e.useStore (Script.registerAll classes)).1.store.Upholds c b := by
  induction classes generalizing e with
  | nil => cases mem
  | cons d rest ih =>
    rw [List.nodup_cons] at distinct
    rw [registerAll_cons]
    rcases List.mem_cons.1 mem with rfl | later
    · obtain ⟨b, -, prototype, binds⟩ := register_binds c present
      have inherits := register_inherits c e.store
      rw [← prototype] at inherits
      exact ⟨b, Store.Upholds.registerAll distinct.1 ⟨binds, inherits⟩⟩
    · obtain ⟨follows, global⟩ := register_secures d e.store [] List.not_mem_nil
      exact ih distinct.2 later (present.later follows global)

/-- The global object of a run is an ordinary one. -/
theorem Run.hasGlobal {reporting : Bool} {history : History} {e : Engine} (run : Run reporting history e) :
    e.store.HasGlobal := by
  induction run with
  | start => exact ⟨_, rfl, rfl⟩
  | @step history e after event depth run performed ih =>
    cases event with
    | register c =>
      obtain rfl := Option.some.inj performed
      obtain ⟨follows, global⟩ := register_secures c e.store [] List.not_mem_nil
      exact ih.later follows global
    | _ =>
      have ages := Event.ages id performed
      have global := (lasting_global e.store.global).robust.event id performed rfl
      exact ih.later (ages.mono (fun step => step.secures []) (Nat.le_refl 0)) global

/-- What is true of the bound classes on an engine on which they were published. -/
structure Engine.KeepsBindings (b : ClassName → Binding) (e : Engine) : Prop where
  /-- Every class name yields the constructor of the class. -/
  yields : ∀ c, e.store.property e.store.global (c : ClassName).name = .object (b c).constructor
  /-- The constructor, the prototype and the functions of the class are what they were published as. -/
  binds : ∀ c, e.store.Binds c (b c)
  /-- Handles of the class that are newer than its prototype have that. -/
  inherits : ∀ c id o, (b c).prototype.index < id.index → e.store.object? id = some o →
    o.nativeType = some (.value (.object c)) → o.prototype = some (b c).prototype
  /-- Whatever happens next, all objects keep their prototypes. -/
  prototypes : e.Throughout (¬·.Publishes) (fun later => ∀ id o, e.store.object? id = some o →
    ∃ next, later.store.object? id = some next ∧ next.kind = o.kind ∧ next.prototype = o.prototype)
  /-- Invoking a method on an object that has the prototype, and no property of the name of the method, runs the
  function for the methods of that name. -/
  invokes : ∀ c, ∀ set ∈ (Interface.ofClass c).methods, set.isStatic = false → ∀ id o,
    e.store.object? id = some o → o.prototype = some (b c).prototype → o.property? set.name = none →
    ∀ depth arguments, Engine.run bindings (depth + 1) e (Body.invokeMethod (.object id) set.name arguments) =
      e.enter depth ⟨set.name, .object ((b c).method set.name), .object id, arguments, false⟩ set.function

/-- What is upheld on the store of an engine is kept by the engine. -/
theorem Engine.keepsBindings_of_upholds {b : ClassName → Binding} {e : Engine} (h : ∀ c, e.store.Upholds c (b c)) :
    e.KeepsBindings b where
  yields := fun c => (h c).binds.global.property
  binds := fun c => (h c).binds
  inherits := fun c => (h c).inherits.handles
  prototypes := by
    have ages := throughout_of_event (¬·.Publishes) (p := fun s => e.store.Follows Object.Ages 0 s)
      (fun _ _ _ _ no_publication performed follows =>
        follows.trans Object.Ages.trans (Event.ages no_publication performed)) (.refl Object.Ages.refl 0 e.store)
    refine ages.mono (fun later follows id o found => ?_)
    obtain ⟨next, found', step⟩ := follows id o (Nat.zero_le _) found
    exact ⟨next, found', step.kind, step.prototype⟩
  invokes := fun c _ mem instances _ _ found prototype absent =>
    run_invokeMethod (h c).binds mem instances found prototype absent

/-- Once all classes are published, each of them is upheld by one binding from then on. -/
theorem Run.upholds {reporting : Bool} {history : History} {e start : Engine} (run : Run reporting history e)
    (published : (e.useStore (registerAll ClassName.all)).1 = start) :
    ∃ b : ClassName → Binding, start.Throughout (¬·.Publishes) (fun after => ∀ c, after.store.Upholds c (b c)) := by
  have each : ∀ c : ClassName, ∃ b, start.store.Upholds c b := by
    intro c
    rw [← published]
    exact registerAll_upholds (by decide) (mem_all c) run.hasGlobal
  choose b upholds using each
  exact ⟨b, throughout_of_event (¬·.Publishes) (p := fun s => ∀ c, s.Upholds c (b c))
    (fun _ _ _ _ no_publication performed h c => (h c).event no_publication performed) upholds⟩

/-- **Published classes are out of the reach of scripts.**  Whatever happened to an engine before all classes are
published on it, and whatever happens from then on, be it assignments, deletions and calls of any kind by scripts or
conversions by the host, the classes remain bound to the same objects. -/
theorem bindings_stay {reporting : Bool} {history : History} {e start : Engine} (run : Run reporting history e)
    (published : (e.useStore (registerAll ClassName.all)).1 = start) :
    ∃ b : ClassName → Binding, start.Throughout (¬·.Publishes) (fun after => after.KeepsBindings b) := by
  obtain ⟨b, throughout⟩ := run.upholds published
  exact ⟨b, throughout.mono (fun _ h => Engine.keepsBindings_of_upholds h)⟩

/-- Scripts that try to replace a constructor, to delete it, to replace a method, and to make a constructor the receiver
of a method that changes its receiver. -/
def tampering : List ScriptStep := [
  .put ⟨0⟩ "Vector3" .undefined,
  .delete ⟨0⟩ "Vector3",
  .put ⟨1⟩ "Scale" (.string "mine"),
  .callOrUndefined (.object ⟨3⟩) (.object ⟨6⟩) []]

/-- The scripts that tamper with the classes, on an engine with all of them. -/
theorem bindings_stay_tampering :
    ∃ b after, performAll 1 Engine.bound tampering = some after ∧ after.KeepsBindings b := by
  obtain ⟨b, throughout⟩ := bindings_stay (.start : Run true [] (.new true)) (rfl : _ = Engine.bound)
  have scripts : ∀ event ∈ tampering.map Event.script, ¬event.Publishes := by
    intro event mem
    obtain ⟨step, -, rfl⟩ := List.mem_map.1 mem
    exact id
  obtain ⟨after, performed, bound⟩ := throughout 0 _ scripts
  rw [performAll_script] at performed
  exact ⟨b, after, performed, bound⟩

end ScriptBridge.Script
