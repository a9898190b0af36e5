import ScriptBridge.Script.Store

/-!
# ScriptBridge.Proofs.Script.Frame

What stays when a store changes.

Three relations between a store and a later one carry every proof about scripts:

  * `s.Follows r n t`: the objects of `s` with numbers from `n` on are still there in `t`, each changed at most as
    `r` allows.  For `r` equality nothing happened to them; for `r` the relation `Ages` it is what scripts can do.
  * `s.Extends t`: nothing happened at all, but there may be new objects and newly numbered types.
  * `s.Alters id t`: as `Extends`, except for the object `id`, which may have other properties and payloads.

Conversions to scripts extend, writing onto a handle alters, and whatever scripts do makes objects age.
-/

namespace ScriptBridge.Script

open ScriptBridge.Native

/-! ## §1. One object. -/

namespace Object

/-- What scripts can make of an object: they never change what it is, and unless it is a mutable handle, neither its
fixed properties nor its payloads. -/
structure Ages (o next : Object) : Prop where
  kind : next.kind = o.kind
  nativeType : next.nativeType = o.nativeType
  prototype : next.prototype = o.prototype
  fixed : o.isMutable = false → ∀ name p, o.property? name = some p → p.flags = .fixed → next.property? name = some p
  payloads : o.isMutable = false → next.payloads = o.payloads

/-- An object may stay as it is. -/
theorem Ages.refl (o : Object) : o.Ages o :=
  ⟨rfl, rfl, rfl, fun _ _ _ found _ => found, fun _ => rfl⟩

/-- The mutable handles are the objects of that kind. -/
theorem isMutable_iff {o : Object} : o.isMutable = true ↔ o.kind = .handle .mutable := by
  unfold isMutable handleKind?
  cases o.kind with
  | plain => decide
  | function ref =>
    constructor
    · intro h
      exact nomatch h
    · intro h
      exact nomatch h
  | handle kind => cases kind <;> decide

/-- Only mutable handles are mutable. -/
theorem isMutable_eq_false {o : Object} (h : o.kind ≠ .handle .mutable) : o.isMutable = false :=
  Bool.eq_false_iff.2 (fun mutable => h (isMutable_iff.1 mutable))

/-- Mutability is a matter of the kind. -/
theorem isMutable_congr {o next : Object} (h : next.kind = o.kind) : next.isMutable = o.isMutable := by
  unfold isMutable handleKind?
  rw [h]

/-- A script does not change whether an object is mutable. -/
theorem Ages.isMutable {o next : Object} (h : o.Ages next) : next.isMutable = o.isMutable :=
  isMutable_congr h.kind

/-- One change after another. -/
theorem Ages.trans {o p q : Object} (first : o.Ages p) (second : p.Ages q) : o.Ages q where
  kind := second.kind.trans first.kind
  nativeType := second.nativeType.trans first.nativeType
  prototype := second.prototype.trans first.prototype
  fixed := by
    -- `p` is no mutable handle either, so its fixed properties are kept in turn
    intro still name property found flags
    have middle := first.fixed still name property found flags
    exact second.fixed (first.isMutable.trans still) name property middle flags
  payloads := by
    intro still
    rw [second.payloads (first.isMutable.trans still), first.payloads still]

/-- A mutable handle may get any properties and payloads. -/
theorem Ages.of_mutable {o next : Object} (kind : next.kind = o.kind) (nativeType : next.nativeType = o.nativeType)
    (prototype : next.prototype = o.prototype) (mutable : o.isMutable = true) : o.Ages next where
  kind := kind
  nativeType := nativeType
  prototype := prototype
  fixed := by
    -- there is nothing to keep
    intro still
    rw [mutable] at still
    exact absurd still (by decide)
  payloads := by
    intro still
    rw [mutable] at still
    exact absurd still (by decide)

/-- An assignment shows under its own name only. -/
theorem property?_put {o next : Object} {name other : String} {value : Value}
    (h : o.put name value = .ok next) (apart : other ≠ name) : next.property? other = o.property? other := by
  unfold put at h
  split at h
  · split at h
    · cases h
    · obtain rfl := Except.ok.inj h
      rw [property?_define, if_neg apart]
  · obtain rfl := Except.ok.inj h
    rw [property?_define, if_neg apart]

/-- The fixed properties survive an assignment, on every object. -/
theorem fixed_of_put {o next : Object} {name other : String} {value : Value} {p : Property}
    (h : o.put name value = .ok next) (found : o.property? other = some p) (flags : p.flags = .fixed) :
    next.property? other = some p := by
  by_cases same : other = name
  · -- a fixed property is read-only, so the assignment was refused
    subst same
    unfold put at h
    rw [found] at h
    simp only [flags, Flags.fixed, if_true] at h
    exact nomatch h
  · rw [property?_put h same, found]

/-- A script that writes a property leaves the rest of the object as it is. -/
theorem put_shape {o next : Object} {name : String} {value : Value} (h : o.put name value = .ok next) :
    ∃ properties, next = { o with properties := properties } := by
  unfold put at h
  split at h
  · split at h
    · exact nomatch h
    · exact ⟨_, (Except.ok.inj h).symm⟩
  · exact ⟨_, (Except.ok.inj h).symm⟩

/-- Writing a property is something that scripts may do. -/
theorem ages_put {o next : Object} {name : String} {value : Value} (h : o.put name value = .ok next) :
    o.Ages next := by
  obtain ⟨properties, shape⟩ := put_shape h
  refine ⟨?_, ?_, ?_, fun _ _ _ found flags => fixed_of_put h found flags, fun _ => ?_⟩ <;> rw [shape]

/-- Undeletable properties survive a deletion, on every object. -/
theorem undeletable_of_delete {o next : Object} {name other : String} {p : Property} (h : o.delete name = .ok next)
    (found : o.property? other = some p) (flags : p.flags.undeletable = true) : next.property? other = some p := by
  rw [property?_delete other h]
  by_cases same : other = name
  · -- the deletion would have been refused
    subst same
    unfold delete at h
    rw [found] at h
    simp only [flags, if_true] at h
    cases h
  · rw [if_neg same, found]

/-- The fixed properties among them. -/
theorem fixed_of_delete {o next : Object} {name other : String} {p : Property}
    (h : o.delete name = .ok next) (found : o.property? other = some p) (flags : p.flags = .fixed) :
    next.property? other = some p :=
  undeletable_of_delete h found (by rw [flags]; rfl)

/-- A script that deletes a property leaves the rest of the object as it is. -/
theorem delete_shape {o next : Object} {name : String} (h : o.delete name = .ok next) :
    ∃ properties, next = { o with properties := properties } := by
  unfold delete at h
  split at h
  · split at h
    · exact nomatch h
    · exact ⟨_, (Except.ok.inj h).symm⟩
  · exact ⟨_, (Except.ok.inj h).symm⟩

/-- Deleting a property is something that scripts may do. -/
theorem ages_delete {o next : Object} {name : String} (h : o.delete name = .ok next) : o.Ages next := by
  obtain ⟨properties, shape⟩ := delete_shape h
  refine ⟨?_, ?_, ?_, fun _ _ _ found flags => fixed_of_delete h found flags, fun _ => ?_⟩ <;> rw [shape]

/-- All fixed properties of the object are there on the next one. -/
def Retains (o next : Object) : Prop :=
  ∀ name p, o.property? name = some p → p.flags = .fixed → next.property? name = some p

/-- An object that stays as it is keeps its fixed properties. -/
theorem Retains.refl (o : Object) : o.Retains o :=
  fun _ _ found _ => found

end Object

namespace Store

/-! ## §2. Later stores. -/

/-- An object is there exactly if its number is below that of the next object. -/
theorem object?_isSome_iff {s : Store} {id : ObjectId} : (s.object? id).isSome ↔ id.index < s.objects.length := by
  simp [object?]

/-- Objects are numbered in the order in which they were made. -/
theorem index_lt_of_object? {s : Store} {id : ObjectId} {o : Object} (h : s.object? id = some o) :
    id.index < s.objects.length := by
  rw [← object?_isSome_iff, h]
  rfl

/-- The objects of `s` with numbers from `n` on are there in `t`, changed at most as `r` allows. -/
def Follows (r : Object → Object → Prop) (n : Nat) (s t : Store) : Prop :=
  ∀ id o, n ≤ id.index → s.object? id = some o → ∃ next, t.object? id = some next ∧ r o next

section

variable {r r' : Object → Object → Prop} {m n : Nat} {s t u : Store}

/-- No step at all is allowed wherever an object may stay as it is. -/
theorem Follows.refl (reflexive : ∀ o, r o o) (n : Nat) (s : Store) : s.Follows r n s :=
  fun _ o _ found => ⟨o, found, reflexive o⟩

/-- One step after another, for changes that may follow each other. -/
theorem Follows.trans (transitive : ∀ {a b c}, r a b → r b c → r a c) (first : s.Follows r n t)
    (second : t.Follows r n u) : s.Follows r n u := by
  intro id o from_n found
  obtain ⟨p, found', step⟩ := first id o from_n found
  obtain ⟨q, found'', step'⟩ := second id p from_n found'
  exact ⟨q, found'', transitive step step'⟩

/-- The relation may be weakened and the objects restricted to later ones. -/
theorem Follows.mono (weaker : ∀ {a b}, r a b → r' a b) (le : m ≤ n) (h : s.Follows r m t) : s.Follows r' n t := by
  intro id o from_n found
  obtain ⟨p, found', step⟩ := h id o (Nat.le_trans le from_n) found
  exact ⟨p, found', weaker step⟩

/-- What holds of all objects from a number on holds of those from a later number on. -/
theorem Follows.from_le (le : m ≤ n) (h : s.Follows r m t) : s.Follows r n t :=
  h.mono (fun step => step) le

/-- A reflexive relation allows that nothing happens. -/
theorem Follows.of_unchanged (reflexive : ∀ o, r o o) (le : m ≤ n) (h : s.Follows Eq m t) : s.Follows r n t := by
  refine h.mono ?_ le
  rintro o _ rfl
  exact reflexive o

/-- Nothing happens to objects if the list of objects stays the same. -/
theorem Follows.of_objects (objects : t.objects = s.objects) (reflexive : ∀ o, r o o) : s.Follows r 0 t := by
  intro id o _ found
  refine ⟨o, ?_, reflexive o⟩
  unfold object? at found ⊢
  rw [objects, found]

/-- An object to which nothing happened. -/
theorem Follows.object? {id : ObjectId} {o : Object} (h : s.Follows Eq n t) (from_n : n ≤ id.index)
    (found : s.object? id = some o) : t.object? id = some o := by
  obtain ⟨next, found', rfl⟩ := h id o from_n found
  exact found'

/-- Objects that stay as they are do what scripts may do. -/
theorem Follows.ages (h : s.Follows Eq n t) : s.Follows Object.Ages n t :=
  h.of_unchanged Object.Ages.refl (Nat.le_refl n)

/-- A function stays one as long as objects keep their kinds. -/
theorem Follows.functionOf? {v : Value} {ref : FunctionRef} (kinds : ∀ {o next}, r o next → next.kind = o.kind)
    (h : s.Follows r 0 t) (found : s.functionOf? v = some ref) : t.functionOf? v = some ref := by
  obtain ⟨o, here, function⟩ := Option.bind_eq_some_iff.1 found
  obtain ⟨id, handle, there⟩ := Option.bind_eq_some_iff.1 here
  -- the object is still there, and its kind says which function it is
  obtain ⟨next, found', step⟩ := h id o (Nat.zero_le _) there
  unfold Store.functionOf? objectOf?
  rw [handle, Option.bind_some, found', Option.bind_some]
  unfold Object.function? at function ⊢
  rw [kinds step, function]

/-- Where an object comes from: it was there before, or its number is new. -/
theorem Follows.origin (h : s.Follows r n t) {id : ObjectId} {next : Object} (from_n : n ≤ id.index)
    (found : t.object? id = some next) : (∃ o, s.object? id = some o ∧ r o next) ∨ s.objects.length ≤ id.index := by
  rcases Nat.lt_or_ge id.index s.objects.length with before | behind
  · obtain ⟨o, there⟩ := Option.isSome_iff_exists.1 (object?_isSome_iff.2 before)
    obtain ⟨next', found', step⟩ := h id o from_n there
    obtain rfl := Option.some.inj (found'.symm.trans found)
    exact .inl ⟨o, there, step⟩
  · exact .inr behind

/-- No object is removed if the last one is there. -/
theorem Follows.length_le_of_lt (h : s.Follows r n t) (lt : n < s.objects.length) :
    s.objects.length ≤ t.objects.length := by
  have last : (s.object? ⟨s.objects.length - 1⟩).isSome := by
    rw [object?_isSome_iff]
    show s.objects.length - 1 < s.objects.length
    omega
  obtain ⟨o, found⟩ := Option.isSome_iff_exists.1 last
  obtain ⟨next, found', -⟩ := h _ o (by show n ≤ s.objects.length - 1; omega) found
  have := index_lt_of_object? found'
  simp only at this
  omega

/-- Objects are never removed. -/
theorem Follows.length_le (h : s.Follows r 0 t) : s.objects.length ≤ t.objects.length := by
  rcases Nat.eq_zero_or_pos s.objects.length with none | some
  · omega
  · exact h.length_le_of_lt some

end

/-- Nothing happened, except that there may be new objects and newly numbered types. -/
structure Extends (s t : Store) : Prop where
  objects : s.Follows Eq 0 t
  global : t.global = s.global
  prototypes : t.prototypes = s.prototypes
  numbered : s.numbered <+: t.numbered
  cells : t.cells = s.cells

/-- Nothing at all happened. -/
theorem Extends.refl (s : Store) : s.Extends s :=
  ⟨Follows.refl (fun _ => rfl) 0 s, rfl, rfl, List.prefix_rfl, rfl⟩

/-- New objects, and then more of them. -/
theorem Extends.trans {s t u : Store} (first : s.Extends t) (second : t.Extends u) : s.Extends u where
  objects := first.objects.trans Eq.trans second.objects
  global := second.global.trans first.global
  prototypes := second.prototypes.trans first.prototypes
  numbered := first.numbered.trans second.numbered
  cells := second.cells.trans first.cells

/-- An object is still found once there are new ones. -/
theorem Extends.object? {s t : Store} {id : ObjectId} {o : Object} (h : s.Extends t)
    (found : s.object? id = some o) : t.object? id = some o :=
  h.objects.object? (Nat.zero_le _) found

/-- A function is still found once there are new objects. -/
theorem Extends.functionOf? {s t : Store} {v : Value} {ref : FunctionRef} (h : s.Extends t)
    (found : s.functionOf? v = some ref) : t.functionOf? v = some ref :=
  h.objects.functionOf? (by rintro o next rfl; rfl) found

/-- Nothing happened but to one object, which keeps its kind, type and prototype. -/
structure Alters (id : ObjectId) (s t : Store) : Prop where
  others : ∀ other o, other ≠ id → s.object? other = some o → t.object? other = some o
  own : ∀ o, s.object? id = some o → ∃ next, t.object? id = some next ∧
    next.kind = o.kind ∧ next.nativeType = o.nativeType ∧ next.prototype = o.prototype
  global : t.global = s.global
  prototypes : t.prototypes = s.prototypes
  numbered : s.numbered <+: t.numbered
  cells : t.cells = s.cells

/-- One change of an object after another. -/
theorem Alters.trans {id : ObjectId} {s t u : Store} (first : s.Alters id t) (second : t.Alters id u) :
    s.Alters id u where
  others := fun other o apart found => second.others other o apart (first.others other o apart found)
  own := by
    intro o found
    obtain ⟨p, found', kind, nativeType, prototype⟩ := first.own o found
    obtain ⟨q, found'', kind', nativeType', prototype'⟩ := second.own p found'
    exact ⟨q, found'', kind'.trans kind, nativeType'.trans nativeType, prototype'.trans prototype⟩
  global := second.global.trans first.global
  prototypes := second.prototypes.trans first.prototypes
  numbered := first.numbered.trans second.numbered
  cells := second.cells.trans first.cells

/-- Nothing happened to the objects behind the altered one. -/
theorem Alters.follows {id : ObjectId} {s t : Store} {n : Nat} (h : s.Alters id t) (behind : id.index < n) :
    s.Follows Eq n t := by
  intro other o from_n found
  have apart : other ≠ id := by
    rintro rfl
    omega
  exact ⟨o, h.others other o apart found, rfl⟩

/-- Whatever happened to the altered object, all objects have the kinds they had. -/
theorem Alters.kinds {id : ObjectId} {s t : Store} (h : s.Alters id t) :
    s.Follows (fun o next => next.kind = o.kind) 0 t := by
  intro other o _ found
  by_cases same : other = id
  · subst same
    obtain ⟨next, found', kind, -⟩ := h.own o found
    exact ⟨next, found', kind⟩
  · exact ⟨o, h.others other o same found, rfl⟩

/-- No object is lost. -/
theorem Alters.length_le {id : ObjectId} {s t : Store} (h : s.Alters id t) :
    s.objects.length ≤ t.objects.length :=
  h.kinds.length_le

/-- Altering an object that was not there before extends. -/
theorem Alters.extends {id : ObjectId} {s t u : Store} (first : s.Extends t) (second : t.Alters id u)
    (fresh : s.object? id = none) : s.Extends u where
  objects := by
    intro other o _ found
    -- the altered object is none of those that were there before
    have apart : other ≠ id := by
      rintro rfl
      rw [fresh] at found
      exact nomatch found
    exact ⟨o, second.others other o apart (first.object? found), rfl⟩
  global := second.global.trans first.global
  prototypes := second.prototypes.trans first.prototypes
  numbered := first.numbered.trans second.numbered
  cells := second.cells.trans first.cells

/-- Altering a mutable handle is within what scripts can do. -/
theorem Alters.ages {id : ObjectId} {s t : Store} (h : s.Alters id t)
    (mutable : ∀ o, s.object? id = some o → o.isMutable = true) : s.Follows Object.Ages 0 t := by
  intro other o _ found
  by_cases same : other = id
  · subst same
    obtain ⟨next, found', kind, nativeType, prototype⟩ := h.own o found
    exact ⟨next, found', .of_mutable kind nativeType prototype (mutable o found)⟩
  · exact ⟨o, h.others other o same found, .refl o⟩

/-! ## §3. The operations. -/

/-- The number of the next object is not in use yet. -/
theorem object?_fresh (s : Store) : s.object? ⟨s.objects.length⟩ = none := by
  unfold object?
  exact List.getElem?_eq_none (Nat.le_refl _)

/-- A new object is found at its number. -/
theorem object?_alloc_self (s : Store) (o : Object) : (s.alloc o).2.object? ⟨s.objects.length⟩ = some o := by
  rw [object?_alloc]
  exact if_pos rfl

/-- Where an object comes from when one was added. -/
theorem of_object?_alloc {s : Store} {o p : Object} {id : ObjectId} (found : (s.alloc o).2.object? id = some p) :
    (id = ⟨s.objects.length⟩ ∧ p = o) ∨ s.object? id = some p := by
  rw [object?_alloc] at found
  split at found
  case isTrue same => exact .inl ⟨same, (Option.some.inj found).symm⟩
  case isFalse => exact .inr found

/-- Where an object comes from when one was changed. -/
theorem of_object?_update {s : Store} {id other : ObjectId} {change : Object → Object} {p : Object}
    (found : (s.update id change).object? other = some p) :
    (other = id ∧ ∃ o, s.object? id = some o ∧ p = change o) ∨ (other ≠ id ∧ s.object? other = some p) := by
  rw [object?_update] at found
  split at found
  case isTrue same =>
    obtain ⟨o, there, changed⟩ := Option.map_eq_some_iff.1 found
    exact .inl ⟨same, o, there, changed.symm⟩
  case isFalse apart => exact .inr ⟨apart, found⟩

/-- A new object leaves the others as they are. -/
theorem extends_alloc (s : Store) (o : Object) : s.Extends (s.alloc o).2 where
  objects := by
    intro id p _ found
    -- the number of the new object is greater than all others
    have apart : id ≠ (s.alloc o).1 := by
      rintro rfl
      have := index_lt_of_object? found
      simp only [alloc] at this
      omega
    exact ⟨p, by rw [object?_alloc, if_neg apart, found], rfl⟩
  global := rfl
  prototypes := rfl
  numbered := List.prefix_rfl
  cells := rfl

/-- A newly numbered type leaves the objects as they are. -/
theorem extends_enlist (s : Store) (type : NativeType) : s.Extends (s.enlist type) := by
  unfold enlist
  split
  · exact Extends.refl s
  · exact ⟨Follows.refl (fun _ => rfl) 0 s, rfl, rfl, List.prefix_append _ _, rfl⟩

/-- Changing an object that was not there before extends, whatever the change is. -/
theorem Extends.update_fresh {s t : Store} {id : ObjectId} (h : s.Extends t) (fresh : s.object? id = none)
    (change : Object → Object) : s.Extends (t.update id change) where
  objects := by
    intro other o _ found
    have apart : other ≠ id := by
      rintro rfl
      rw [fresh] at found
      exact nomatch found
    refine ⟨o, ?_, rfl⟩
    rw [object?_update, if_neg apart, h.object? found]
  global := h.global
  prototypes := h.prototypes
  numbered := h.numbered
  cells := h.cells

/-- A change of an object that keeps kind, type and prototype is a change of this object only. -/
theorem alters_update {s : Store} {id : ObjectId} {change : Object → Object}
    (shape : ∀ o, (change o).kind = o.kind ∧ (change o).nativeType = o.nativeType ∧
      (change o).prototype = o.prototype) :
    s.Alters id (s.update id change) where
  others := by
    intro other o apart found
    rw [object?_update, if_neg apart, found]
  own := by
    intro o found
    refine ⟨change o, ?_, shape o⟩
    rw [object?_update, if_pos rfl, found]
    rfl
  global := rfl
  prototypes := rfl
  numbered := List.prefix_rfl
  cells := rfl

/-- What a change does to its object is all that it does to the objects. -/
theorem follows_update {r : Object → Object → Prop} (reflexive : ∀ o, r o o) (s : Store) (id : ObjectId)
    {change : Object → Object} (step : ∀ o, r o (change o)) : s.Follows r 0 (s.update id change) := by
  intro other o _ found
  by_cases same : other = id
  · subst same
    exact ⟨change o, by rw [object?_update, if_pos rfl, found]; rfl, step o⟩
  · exact ⟨o, by rw [object?_update, if_neg same, found], reflexive o⟩

/-- Defining a property changes one object only. -/
theorem alters_define (s : Store) (id : ObjectId) (name : String) (value : Value) (flags : Flags) :
    s.Alters id (s.define id name value flags) :=
  alters_update (fun _ => ⟨rfl, rfl, rfl⟩)

/-- Attaching a payload changes one object only. -/
theorem alters_attach (s : Store) (id : ObjectId) (d : Datum) : s.Alters id (s.attach id d) :=
  alters_update (fun _ => ⟨rfl, rfl, rfl⟩)

/-- The object with the new property is found in place of the old one. -/
theorem object?_define_self {s : Store} {id : ObjectId} {o : Object} (name : String) (value : Value) (flags : Flags)
    (found : s.object? id = some o) : (s.define id name value flags).object? id = some (o.define name value flags) := by
  unfold define
  rw [object?_update, if_pos rfl, found]
  rfl

/-- The object with the new payload is found in place of the old one. -/
theorem object?_attach_self {s : Store} {id : ObjectId} {o : Object} (d : Datum) (found : s.object? id = some o) :
    (s.attach id d).object? id = some (o.attach d) := by
  unfold attach
  rw [object?_update, if_pos rfl, found]
  rfl

/-- What a refusable change comes to, if it is not refused. -/
theorem tryUpdate_eq_ok {s t : Store} {id : ObjectId} {change : Object → Except PropertyError Object}
    (h : s.tryUpdate id change = .ok t) :
    t = s ∨ ∃ o next, s.object? id = some o ∧ change o = .ok next ∧ t = s.update id (fun _ => next) := by
  unfold tryUpdate at h
  cases here : s.object? id with
  | none =>
    rw [here] at h
    exact .inl (Except.ok.inj h).symm
  | some o =>
    cases changed : change o with
    | error e =>
      simp only [here, changed, Except.map] at h
      exact nomatch h
    | ok next =>
      simp only [here, changed, Except.map] at h
      exact .inr ⟨o, next, rfl, changed, (Except.ok.inj h).symm⟩

/-- What a refusable change does to an object is all that it does to the objects. -/
theorem follows_tryUpdate {r : Object → Object → Prop} (reflexive : ∀ o, r o o) {s t : Store} {id : ObjectId}
    {change : Object → Except PropertyError Object} (step : ∀ o next, change o = .ok next → r o next)
    (h : s.tryUpdate id change = .ok t) : s.Follows r 0 t := by
  rcases tryUpdate_eq_ok h with rfl | ⟨o, next, here, changed, rfl⟩
  · exact Follows.refl reflexive 0 t
  · intro other p _ found
    by_cases same : other = id
    · subst same
      obtain rfl := Option.some.inj (here.symm.trans found)
      exact ⟨next, by rw [object?_update, if_pos rfl, here]; rfl, step o next changed⟩
    · exact ⟨p, by rw [object?_update, if_neg same, found], reflexive p⟩

/-- A change of an object that may fail leaves the prototypes of the types as they are. -/
theorem prototypes_tryUpdate {s t : Store} {id : ObjectId} {change : Object → Except PropertyError Object}
    (h : s.tryUpdate id change = .ok t) : t.prototypes = s.prototypes := by
  rcases tryUpdate_eq_ok h with rfl | ⟨o, next, -, -, rfl⟩
  · rfl
  · rfl

/-- **A script that writes a property** does to all objects what scripts may do. -/
theorem ages_put {s t : Store} {id : ObjectId} {name : String} {value : Value} (h : s.put id name value = .ok t) :
    s.Follows Object.Ages 0 t :=
  follows_tryUpdate Object.Ages.refl (fun _ _ => Object.ages_put) h

/-- **A script that deletes a property** does to all objects what scripts may do. -/
theorem ages_delete {s t : Store} {id : ObjectId} {name : String} (h : s.delete id name = .ok t) :
    s.Follows Object.Ages 0 t :=
  follows_tryUpdate Object.Ages.refl (fun _ _ => Object.ages_delete) h

/-- Where a script writes, fixed properties stay. -/
theorem retains_put {s t : Store} {id : ObjectId} {name : String} {value : Value} (h : s.put id name value = .ok t) :
    s.Follows Object.Retains 0 t :=
  follows_tryUpdate Object.Retains.refl (fun _ _ put _ _ => Object.fixed_of_put put) h

/-- Where a script deletes, fixed properties stay. -/
theorem retains_delete {s t : Store} {id : ObjectId} {name : String} (h : s.delete id name = .ok t) :
    s.Follows Object.Retains 0 t :=
  follows_tryUpdate Object.Retains.refl (fun _ _ delete _ _ => Object.fixed_of_delete delete) h

/-! ## §4. Looking up. -/

/-- A search makes as many steps as there are objects: from an object on, one at least. -/
theorem length_of_object? {s : Store} {id : ObjectId} {o : Object} (found : s.object? id = some o) :
    ∃ k, s.objects.length = k + 1 := by
  have := index_lt_of_object? found
  exact ⟨s.objects.length - 1, by omega⟩

/-- An own property is found at once, whatever the prototypes are. -/
theorem property_own {s : Store} {id : ObjectId} {o : Object} {name : String} {p : Property}
    (found : s.object? id = some o) (own : o.property? name = some p) : s.property id name = p.value := by
  obtain ⟨k, length⟩ := length_of_object? found
  unfold property
  rw [length]
  simp only [findAlong, found, Object.own?, own, Option.map_some, Option.getD_some]

/-- What is not an own property is found on the prototype. -/
theorem property_prototype {s : Store} {id p : ObjectId} {o q : Object} {name : String} {x : Property}
    (found : s.object? id = some o) (absent : o.property? name = none) (prototype : o.prototype = some p)
    (found' : s.object? p = some q) (own : q.property? name = some x) : s.property id name = x.value := by
  have apart : id.index ≠ p.index := by
    intro same
    obtain rfl : id = p := congrArg ObjectId.mk same
    obtain rfl := Option.some.inj (found.symm.trans found')
    rw [absent] at own
    exact nomatch own
  -- the two objects are enough for the search to get that far
  have first := index_lt_of_object? found
  have second := index_lt_of_object? found'
  obtain ⟨k, length⟩ : ∃ k, s.objects.length = k + 2 := ⟨s.objects.length - 2, by omega⟩
  unfold property
  rw [length]
  simp only [findAlong, found, Object.own?, absent, Option.map_none, prototype, found', own, Option.map_some,
    Option.getD_some]

/-- Without a prototype there is nothing beyond the own properties. -/
theorem property_missing {s : Store} {id : ObjectId} {o : Object} {name : String} (found : s.object? id = some o)
    (absent : o.property? name = none) (last : o.prototype = none) : s.property id name = .undefined := by
  obtain ⟨k, length⟩ := length_of_object? found
  unfold property
  rw [length]
  simp only [findAlong, found, Object.own?, absent, Option.map_none, last]
  cases k <;> rfl

end Store

end ScriptBridge.Script
