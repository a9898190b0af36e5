import Mathlib.Logic.Relation
import ScriptBridge.Proofs.Script.Evolution
import ScriptBridge.Proofs.Script.Lookup

/-!
# ScriptBridge.Proofs.Script.Ancestry

Why prototype chains end.

An object gets its prototype when it is made: a handle that of its type, the handle of a shared cell that of the type of
such cells, and the receiver of a construction whatever stands under `prototype` on the constructor.  Hosts replace the
prototypes of types at any time, and scripts store under `prototype` what they like, the constructor itself included.
But neither can name an object that is not there yet.  So every prototype is older than the objects that it is the
prototype of, if all that stands on objects and all prototypes of types are live; and no operation undoes that
(`Store.Ordered`).

Main results:
  * `Store.Operation.ordered`, `Store.Reaches.ordered` - what one operation and what any number of them leave;
  * `Store.Ordered.live_property`, `Store.Live.later` - what is found under a name is live, and values stay so;
  * `Store.Reached.resolves` - how properties are looked up after any number of operations.
-/

namespace ScriptBridge.Script

open ScriptBridge.Native

/-! ## §1. Stores in order. -/

namespace Store

/-- Prototypes are older than their heirs, and what could become a prototype is live. -/
structure Ordered (s : Store) : Prop where
  older : ∀ id o above, s.object? id = some o → o.prototype = some above → above.index < id.index
  values : ∀ id o name v, s.object? id = some o → o.own? name = some v → s.Live v
  defaults : ∀ type prototype, s.defaultPrototype? type = some prototype → s.Live (.object prototype)
  global : s.Live (.object s.global)

/-- Nothing is out of order on the empty store. -/
theorem ordered_empty : empty.Ordered := by
  have only : ∀ id o, empty.object? id = some o → o = .ofKind .plain :=
    fun id o found => List.mem_singleton.1 (List.mem_of_getElem? found)
  refine ⟨?_, ?_, fun type prototype default => ?_, by decide⟩
  · intro id o above found prototype
    rw [only id o found] at prototype
    cases prototype
  · intro id o name v found own
    rw [only id o found] at own
    cases own
  · cases default

namespace Ordered

variable {s t : Store} {id : ObjectId}

/-! ### Looking up -/

/-- **Chains are finite**: each prototype is older than its heir. -/
theorem finiteChains (h : s.Ordered) : s.FiniteChains :=
  finiteChains_of_older h.older

/-- What is looked up is live. -/
theorem live_of_looksUp (h : s.Ordered) {name : String} {v : Value} (looksUp : s.LooksUp name id v) :
    s.Live v := by
  induction looksUp with
  | own found own => exact h.values _ _ name _ found own
  | up _ _ _ _ ih => exact ih
  | top => exact trivial
  | gone => exact trivial

/-- **What is found under a name is live.** -/
theorem live_property (h : s.Ordered) (id : ObjectId) (name : String) : s.Live (s.property id name) :=
  h.live_of_looksUp (h.finiteChains.looksUp_iff.2 rfl)

/-- What a script reads of a value is live. -/
theorem live_propertyOf (h : s.Ordered) (v : Value) (name : String) : s.Live (s.propertyOf v name) := by
  cases v with
  | object id => exact h.live_property id name
  | _ => exact trivial

/-! ### Single operations -/

/-- Only objects, default prototypes and the global object matter. -/
theorem congr (h : s.Ordered) (objects : t.objects = s.objects) (prototypes : t.prototypes = s.prototypes)
    (global : t.global = s.global) : t.Ordered := by
  have same : ∀ id, t.object? id = s.object? id := fun id => congrArg (·[id.index]?) objects
  have live : ∀ {v}, s.Live v → t.Live v := fun live => live.of_length_le (Nat.le_of_eq (congrArg List.length objects.symm))
  refine ⟨?_, ?_, ?_, global ▸ live h.global⟩
  · intro id o above found
    exact h.older id o above (same id ▸ found)
  · intro id o name v found own
    exact live (h.values id o name v (same id ▸ found) own)
  · intro type prototype default
    unfold defaultPrototype? at default
    rw [prototypes] at default
    exact live (h.defaults type prototype default)

/-- An object without properties may be added if its prototype is there. -/
theorem alloc (h : s.Ordered) {o : Object} (bare : ∀ name, o.own? name = none)
    (older : ∀ above, o.prototype = some above → s.Live (.object above)) : (s.alloc o).2.Ordered := by
  have live : ∀ {v}, s.Live v → (s.alloc o).2.Live v := fun live => live.extend (extends_alloc s o)
  refine ⟨?_, ?_, fun type prototype default => live (h.defaults type prototype default), live h.global⟩
  · intro id p above found prototype
    rcases of_object?_alloc found with ⟨rfl, rfl⟩ | found
    · -- whatever is there is older than the new object
      exact live_object_iff.1 (older above prototype)
    · exact h.older id p above found prototype
  · intro id p name v found own
    rcases of_object?_alloc found with ⟨rfl, rfl⟩ | found
    · rw [bare name] at own
      cases own
    · exact live (h.values id p name v found own)

/-- An update keeps the order if the prototype is older and the values are live. -/
theorem update (h : s.Ordered) {change : Object → Object}
    (older : ∀ o above, s.object? id = some o → (change o).prototype = some above → above.index < id.index)
    (values : ∀ o name v, s.object? id = some o → (change o).own? name = some v → s.Live v) :
    (s.update id change).Ordered := by
  have live : ∀ {v}, s.Live v → (s.update id change).Live v :=
    fun live => live.of_length_le (by simp only [Store.update, List.length_modify, Nat.le_refl])
  refine ⟨?_, ?_, fun type prototype default => live (h.defaults type prototype default), live h.global⟩
  · intro other p above found prototype
    rcases of_object?_update found with ⟨rfl, o, there, rfl⟩ | ⟨-, found⟩
    · exact older o above there prototype
    · exact h.older other p above found prototype
  · intro other p name v found own
    rcases of_object?_update found with ⟨rfl, o, there, rfl⟩ | ⟨-, found⟩
    · exact live (values o name v there own)
    · exact live (h.values other p name v found own)

/-- A live value may become a property. -/
theorem define (h : s.Ordered) (id : ObjectId) (name : String) {value : Value} (flags : Flags) (live : s.Live value) :
    (s.define id name value flags).Ordered := by
  refine h.update (fun o above found prototype => h.older id o above found prototype) ?_
  intro o other v found own
  rw [Object.own?, Object.property?_define] at own
  by_cases same : other = name
  · rw [if_pos same] at own
    exact Option.some.inj own ▸ live
  · rw [if_neg same] at own
    exact h.values id o other v found own

/-- A payload changes neither prototypes nor properties. -/
theorem attach (h : s.Ordered) (id : ObjectId) (d : Datum) : (s.attach id d).Ordered :=
  h.update (fun o above found prototype => h.older id o above found prototype)
    (fun o name v found own => h.values id o name v found own)

/-- An older object may become the prototype. -/
theorem setPrototype (h : s.Ordered) {above : ObjectId} (older : above.index < id.index) :
    (s.setPrototype id (some above)).Ordered :=
  h.update (fun _ _ _ prototype => Option.some.inj prototype ▸ older)
    (fun o name v found own => h.values id o name v found own)

/-- A live object may become the prototype of a type. -/
theorem setDefaultPrototype (h : s.Ordered) (type : NativeType) {prototype : ObjectId}
    (live : s.Live (.object prototype)) : (s.setDefaultPrototype type prototype).Ordered := by
  refine ⟨h.older, h.values, fun other above default => ?_, h.global⟩
  unfold Store.setDefaultPrototype defaultPrototype? at default
  rw [Keyed.lookup_set] at default
  by_cases same : other = type
  · rw [if_pos same] at default
    exact Option.some.inj default ▸ live
  · rw [if_neg same] at default
    exact h.defaults other above default

/-- A change by scripts keeps the order if what stands on the object afterwards is live. -/
theorem tryUpdate (h : s.Ordered) {change : Object → Except PropertyError Object}
    (shape : ∀ o next, change o = .ok next → ∃ properties, next = { o with properties := properties })
    (values : ∀ o next, s.object? id = some o → change o = .ok next → ∀ name v, next.own? name = some v → s.Live v)
    (done : s.tryUpdate id change = .ok t) : t.Ordered := by
  rcases tryUpdate_eq_ok done with rfl | ⟨o, next, here, changed, rfl⟩
  · exact h
  · refine h.update (fun p above _ prototype => ?_) (fun p name v _ own => values o next here changed name v own)
    obtain ⟨properties, rfl⟩ := shape o next changed
    exact h.older id o above here prototype

/-- A script may write a live value. -/
theorem put (h : s.Ordered) {name : String} {value : Value} (live : s.Live value)
    (done : s.put id name value = .ok t) : t.Ordered := by
  refine h.tryUpdate (fun _ _ => Object.put_shape) (fun o next here changed other v own => ?_) done
  by_cases same : other = name
  · obtain ⟨flags, assigned, -⟩ := Object.property?_put_self changed
    rw [same, Object.own?, assigned] at own
    exact Option.some.inj own ▸ live
  · rw [Object.own?, Object.property?_put changed same] at own
    exact h.values id o other v here own

/-- A script may delete a property. -/
theorem delete (h : s.Ordered) {name : String} (done : s.delete id name = .ok t) : t.Ordered := by
  refine h.tryUpdate (fun _ _ => Object.delete_shape) (fun o next here changed other v own => ?_) done
  rw [Object.own?, Object.property?_delete other changed] at own
  by_cases same : other = name
  · rw [if_pos same] at own
    cases own
  · rw [if_neg same] at own
    exact h.values id o other v here own

end Ordered

/-! ## §2. Conversions and publications. -/

theorem Ordered.enlist {s : Store} (type : NativeType) (h : s.Ordered) : (s.enlist type).Ordered :=
  h.congr (Layout.enlist_objects _ type) (Layout.enlist_prototypes _ type) (extends_enlist _ type).global

/-- **The order is an invariant** of conversions and publications. -/
theorem publicationInvariant_ordered : PublicationInvariant Ordered where
  plain := fun h => h.alloc (fun _ => rfl) (fun _ none => nomatch none)
  newHandle := newHandle_of_handle Ordered.enlist
    (fun type _ h => h.alloc (fun _ => rfl) (fun above default => h.defaults type above default))
  define := fun id name _ flags live h => h.define id name flags live
  attach := fun id d h => h.attach id d
  function := fun _ h => h.alloc (fun _ => rfl) (fun _ none => nomatch none)

namespace Ordered

variable {s : Store}

/-- The handle of a shared cell is new, and the prototype that it gets was there before. -/
theorem toScript (h : s.Ordered) (τ : NativeType) (constant : Bool) (data : τ.Data) :
    (Convert.toScript τ constant data s).2.Ordered := by
  cases τ with
  | value type => exact publicationInvariant_ordered.value type constant data h
  | shared c =>
    refine publicationInvariant_ordered.shared data (fun extended _ _ default ordered => ordered.setPrototype ?_) h
    unfold defaultPrototype? at default
    rw [extended.prototypes] at default
    exact live_object_iff.1 (h.defaults _ _ default)

/-- Reading a value keeps the order. -/
theorem ofScript (h : s.Ordered) (τ : NativeType) (v : Value) : (Convert.ofScript τ v s).2.Ordered := by
  obtain ⟨objects, prototypes⟩ := Convert.ofScript_keeps τ v s
  exact h.congr objects prototypes ((lasting_global s.global).robust.ofScript τ v rfl)

/-- Writing an instance keeps the order. -/
theorem write (h : s.Ordered) {c : ClassName} (a : c.Instance) (handle : ObjectId) :
    ((Layout.ofClass c).write a handle s).2.Ordered := by
  rw [Layout.write_eq_place]
  exact publicationInvariant_ordered.place .mutable a handle h

/-- Publishing a class keeps the order. -/
theorem register (h : s.Ordered) (c : ClassName) : (Script.register c s).2.Ordered :=
  publicationInvariant_ordered.register (.enlist _)
    (fun live ordered => (ordered.setDefaultPrototype _ live).setDefaultPrototype _ live) h

/-- The receiver of a construction is newer than its prototype. -/
theorem withReceiver (h : s.Ordered) (constructor : Value) : (s.withReceiver constructor).Ordered := by
  refine h.alloc (fun _ => rfl) (fun above prototype => ?_)
  -- what stands under `prototype` is live, whatever it is
  have live := h.live_propertyOf constructor "prototype"
  cases found : s.propertyOf constructor "prototype" with
  | object id =>
    rw [found] at live prototype
    exact Option.some.inj prototype ▸ live
  | _ =>
    rw [found] at prototype
    cases prototype

end Ordered

/-! ## §3. Operations. -/

/-- What engines offer to hosts and native functions, and what scripts do, one operation at a time.  The values that go
into them are live. -/
inductive Operation (s : Store) : Store → Prop where
  | newObject : Operation s (s.alloc (.ofKind .plain)).2
  | newHandle (type : NativeType) (kind : HandleKind) : Operation s (Layout.newHandle type kind s).2
  | newFunction (name : String) (ref : FunctionRef) (length : Nat) :
      Operation s (Engine.newFunction name ref length s).2
  | newConstructor (name : String) (ref : FunctionRef) {prototype : ObjectId} (live : s.Live (.object prototype))
      (length : Nat) : Operation s (Engine.newConstructor name ref prototype length s).2
  /-- The receiver of a construction is made. -/
  | newReceiver (constructor : Value) : Operation s (s.withReceiver constructor)
  | setDefaultPrototype (type : NativeType) {prototype : ObjectId} (live : s.Live (.object prototype)) :
      Operation s (s.setDefaultPrototype type prototype)
  | typeNumber (type : NativeType) : Operation s (s.typeNumber type).2
  | define (id : ObjectId) (name : String) {value : Value} (flags : Flags) (live : s.Live value) :
      Operation s (s.define id name value flags)
  | put {t : Store} {id : ObjectId} {name : String} {value : Value} (live : s.Live value)
      (done : s.put id name value = .ok t) : Operation s t
  | delete {t : Store} {id : ObjectId} {name : String} (done : s.delete id name = .ok t) : Operation s t
  | attach (id : ObjectId) (d : Datum) : Operation s (s.attach id d)
  | newCell (c : ClassName) (content : c.Instance) : Operation s (s.newCell c content).2
  | setContent {c : ClassName} (cell : Cell c) (content : c.Instance) : Operation s (s.setContent cell content)
  /-- A native value, or a shared cell, is converted. -/
  | toScript (τ : NativeType) (constant : Bool) (data : τ.Data) : Operation s (Convert.toScript τ constant data s).2
  | ofScript (τ : NativeType) (v : Value) : Operation s (Convert.ofScript τ v s).2
  /-- An instance is written onto an object. -/
  | write {c : ClassName} (a : c.Instance) (handle : ObjectId) : Operation s ((Layout.ofClass c).write a handle s).2
  | register (c : ClassName) : Operation s (Script.register c s).2

/-- **What one operation leaves.** -/
theorem Operation.ordered {s t : Store} (operation : s.Operation t) (h : s.Ordered) : t.Ordered := by
  have invariant := publicationInvariant_ordered
  cases operation with
  | newObject => exact invariant.plain h
  | newHandle type kind => exact invariant.newHandle type kind h
  | newFunction name ref length => exact invariant.newFunction name ref length h
  | newConstructor name ref live length => exact invariant.newConstructor name ref live length h
  | newReceiver constructor => exact h.withReceiver constructor
  | setDefaultPrototype type live => exact h.setDefaultPrototype type live
  | typeNumber type => exact h.enlist type
  | define id name flags live => exact h.define id name flags live
  | put live done => exact h.put live done
  | delete done => exact h.delete done
  | attach id d => exact h.attach id d
  | newCell c content => exact h.congr rfl rfl rfl
  | setContent cell content => exact h.congr rfl rfl rfl
  | toScript τ constant data => exact h.toScript τ constant data
  | ofScript τ v => exact h.ofScript τ v
  | write a handle => exact h.write a handle
  | register c => exact h.register c

/-- No operation removes objects. -/
theorem Operation.length_le {s t : Store} (operation : s.Operation t) : s.objects.length ≤ t.objects.length := by
  have lasting := lasting_length s.objects.length
  have start := Nat.le_refl s.objects.length
  cases operation with
  | newObject => exact lasting.alloc _ rfl start
  | newHandle type kind => exact lasting.publication.newHandle type kind start
  | newFunction name ref length => exact lasting.publication.newFunction name ref length start
  | newConstructor name ref live length => exact lasting.publication.newConstructor name ref live length start
  | newReceiver constructor => exact lasting.alloc _ rfl start
  | setDefaultPrototype type live => exact start
  | typeNumber type => exact lasting.enlist type start
  | define id name flags live => exact lasting.publication.define id name _ flags live start
  | put live done => exact lasting.robust.tryUpdate (fun _ _ => Object.put_shape) done start
  | delete done => exact lasting.robust.tryUpdate (fun _ _ => Object.delete_shape) done start
  | attach id d => exact lasting.publication.attach id d start
  | newCell c content => exact start
  | setContent cell content => exact start
  | toScript τ constant data => exact lasting.robust.toScript τ constant data start
  | ofScript τ v => exact lasting.robust.ofScript τ v start
  | write a handle =>
    rw [Layout.write_eq_place]
    exact lasting.publication.place .mutable a handle start
  | register c => exact lasting.publication.register (lasting.enlist _) (fun _ more => more) start

/-- The one store comes out of the other by operations. -/
abbrev Reaches : Store → Store → Prop :=
  Relation.ReflTransGen Operation

/-- **What any number of operations leaves.** -/
theorem Reaches.ordered {s t : Store} (reaches : s.Reaches t) (h : s.Ordered) : t.Ordered := by
  induction reaches with
  | refl => exact h
  | tail _ operation ih => exact operation.ordered ih

/-- Operations lose no object. -/
theorem Reaches.length_le {s t : Store} (reaches : s.Reaches t) : s.objects.length ≤ t.objects.length := by
  induction reaches with
  | refl => exact Nat.le_refl _
  | tail _ operation ih => exact Nat.le_trans ih operation.length_le

/-- **Values stay live**, whatever operations there are. -/
theorem Live.later {s t : Store} {v : Value} (live : s.Live v) (reaches : s.Reaches t) : t.Live v :=
  live.of_length_le reaches.length_le

/-- The store comes about by operations. -/
def Reached (s : Store) : Prop :=
  empty.Reaches s

/-- **Whatever is reached is in order.** -/
theorem Reached.ordered {s : Store} (reached : s.Reached) : s.Ordered :=
  Reaches.ordered reached ordered_empty

/-! ## §4. Looking up. -/

/-- The value of a name on an object itself. -/
def ownValue? (s : Store) (name : String) (id : ObjectId) : Option Value :=
  (s.object? id).bind (·.own? name)

/-- What is looked up along a chain is the value of the nearest object that has one of its own. -/
theorem LooksUp.eq_nearest {s : Store} {name : String} {id : ObjectId} {ids : List ObjectId} {v : Value}
    (looksUp : s.LooksUp name id v) (chain : s.Chain id ids) :
    v = (ids.findSome? (s.ownValue? name)).getD .undefined := by
  -- along the chain: an own property decides, and where there is none the rest of the chain does
  induction chain generalizing v with
  | gone missing =>
    cases looksUp with
    | own found | up found | top found => rw [missing] at found; cases found
    | gone => rfl
  | last found top =>
    have decided := looksUp.of_found found
    rw [List.findSome?_singleton, ownValue?, found, Option.bind_some]
    cases own : Object.own? _ name with
    | some w =>
      rw [own] at decided
      exact decided
    | none =>
      rw [own, top] at decided
      exact decided
  | up found prototype _ ih =>
    have decided := looksUp.of_found found
    rw [List.findSome?_cons, ownValue?, found, Option.bind_some]
    cases own : Object.own? _ name with
    | some w =>
      rw [own] at decided
      exact decided
    | none =>
      rw [own, prototype] at decided
      exact ih decided

/-- Looking up comes to an end from the object on: its prototype chain does, no object stands on it twice, and every
name is looked up as what the nearest object on the chain has under it, or else as no value. -/
structure Resolves (s : Store) (id : ObjectId) (ids : List ObjectId) : Prop where
  chain : s.Chain id ids
  distinct : ids.Nodup
  looksUp : ∀ name, s.LooksUp name id (s.property id name)
  nearest : ∀ name, s.property id name = (ids.findSome? (s.ownValue? name)).getD .undefined

/-- **Whatever operations a store has come about by, looking up comes to an end.** -/
theorem Reached.resolves {s : Store} (reached : s.Reached) (id : ObjectId) : ∃ ids, s.Resolves id ids := by
  obtain ⟨ids, chain⟩ := reached.ordered.finiteChains id
  have looksUp : ∀ name, s.LooksUp name id (s.property id name) := fun name => chain.looksUp_iff.2 rfl
  exact ⟨ids, chain, chain.nodup, looksUp, fun name => (looksUp name).eq_nearest chain⟩

end Store

end ScriptBridge.Script
