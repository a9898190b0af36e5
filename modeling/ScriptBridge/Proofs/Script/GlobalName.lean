import Mathlib.Data.List.Nodup
import ScriptBridge.Proofs.Script.FixedBinding

/-!
# ScriptBridge.Proofs.Script.GlobalName

Who has a name on the global object.

Publishing a constructor makes an object and defines it on the global object, whatever stood there under its name: the
host is not held back by the flags of a property.  So of several constructors with one name scripts find the last.

Main results:
  * `Store.GainsAll.finds_iff` - a constructor is found unless a later one has its name;
  * `Store.GainsAll.finds_all_iff` - all are found exactly if their names are distinct;
  * `register_gains` - publishing a class is such a step.
-/

namespace ScriptBridge.Script

open ScriptBridge.Native

namespace Store

/-! ## §1. One constructor. -/

/-- A constructor is made, and the global object gets it under a name.  Nothing else happens to the global object, and
no object goes away. -/
structure Gains (name : String) (constructor : ObjectId) (s t : Store) : Prop where
  isNew : s.object? constructor = none
  made : (t.object? constructor).isSome
  kept : ∀ id, (s.object? id).isSome → (t.object? id).isSome
  global : t.global = s.global
  own : ∀ o, s.object? s.global = some o → ∃ next, t.object? t.global = some next ∧
    ∀ other, next.property? other = if other = name then some ⟨.object constructor, .fixed⟩ else o.property? other

/-- Scripts find the object under a name on the global object. -/
def Finds (s : Store) (name : String) (id : ObjectId) : Prop :=
  s.property s.global name = .object id

/-- Defining properties makes no objects, and removes none. -/
theorem isSome_define (s : Store) (id : ObjectId) (name : String) (value : Value) (flags : Flags) (other : ObjectId) :
    ((s.define id name value flags).object? other).isSome = (s.object? other).isSome := by
  rw [define, object?_update]
  split
  next same => rw [Option.isSome_map, same]
  next => rfl

/-- To make an object beside those that are there, and then to define it, is such a step. -/
theorem gains_define {s t : Store} {constructor : ObjectId} (name : String) (follows : s.Follows Eq 0 t)
    (global : t.global = s.global) (isNew : s.object? constructor = none) (made : (t.object? constructor).isSome) :
    s.Gains name constructor (t.define s.global name (.object constructor) .fixed) := by
  refine ⟨isNew, (isSome_define ..).trans made, fun id present => ?_, global, ?_⟩
  · rw [isSome_define]
    obtain ⟨o, found⟩ := Option.isSome_iff_exists.1 present
    rw [follows.object? (Nat.zero_le _) found]
    rfl
  · intro o found
    refine ⟨o.define name (.object constructor) .fixed, ?_, fun other => o.property?_define name other _ .fixed⟩
    show (t.define s.global name (.object constructor) .fixed).object? t.global = _
    rw [global]
    exact object?_define_self name _ .fixed (follows.object? (Nat.zero_le _) found)

/-! ## §2. Several constructors. -/

/-- Constructors are made one after the other, and the global object gets each under its name. -/
inductive GainsAll : List (String × ObjectId) → Store → Store → Prop where
  | nil (s : Store) : GainsAll [] s s
  | cons {name : String} {constructor : ObjectId} {gains : List (String × ObjectId)} {s t u : Store}
      (first : s.Gains name constructor t) (rest : GainsAll gains t u) : GainsAll ((name, constructor) :: gains) s u

namespace GainsAll

variable {gains : List (String × ObjectId)} {s t : Store}

theorem kept (h : GainsAll gains s t) (id : ObjectId) (present : (s.object? id).isSome) : (t.object? id).isSome := by
  induction h with
  | nil => exact present
  | cons first _ ih => exact ih (first.kept id present)

/-- The constructors are new. -/
theorem isNew (h : GainsAll gains s t) : ∀ gain ∈ gains, s.object? gain.2 = none := by
  induction h with
  | nil => exact List.forall_mem_nil _
  | cons first _ ih =>
    refine List.forall_mem_cons.2 ⟨first.isNew, fun gain mem => ?_⟩
    -- what is new later on is not there yet
    have later := ih gain mem
    rw [← Option.not_isSome_iff_eq_none] at later ⊢
    exact fun present => later (first.kept _ present)

/-- No object is made twice. -/
theorem distinct (h : GainsAll gains s t) : (gains.map (·.2)).Nodup := by
  induction h with
  | nil => exact List.nodup_nil
  | @cons name constructor gains s t u first rest ih =>
    refine List.nodup_cons.2 ⟨fun again => ?_, ih⟩
    obtain ⟨gain, mem, rfl⟩ := List.mem_map.1 again
    have made := first.made
    rw [rest.isNew gain mem] at made
    cases made

/-- In the end the global object has under each name the constructor that came last, or else what it had before. -/
theorem own (h : GainsAll gains s t) {o : Object} (found : s.object? s.global = some o) :
    ∃ next, t.object? t.global = some next ∧ ∀ other, next.property? other =
      ((gains.reverse.lookup other).map (fun id => ⟨.object id, .fixed⟩)).or (o.property? other) := by
  induction h generalizing o with
  | nil => exact ⟨o, found, fun _ => rfl⟩
  | @cons name constructor gains s t u first rest ih =>
    obtain ⟨middle, here, one⟩ := first.own o found
    obtain ⟨next, last, several⟩ := ih here
    refine ⟨next, last, fun other => ?_⟩
    rw [several, one, List.reverse_cons, List.lookup_append]
    -- the last gain of a name counts, so gains that come later are asked first
    cases gains.reverse.lookup other with
    | some id => rfl
    | none =>
      by_cases same : other = name
      · rw [if_pos same, same]
        simp
      · have apart : (other == name) = false := by simpa using same
        rw [if_neg same]
        simp [List.lookup_cons, apart]

/-- **A constructor is found unless a later one has its name.** -/
theorem finds_iff {before after : List (String × ObjectId)} {name : String} {constructor : ObjectId}
    (h : GainsAll (before ++ (name, constructor) :: after) s t) (present : (s.object? s.global).isSome) :
    t.Finds name constructor ↔ name ∉ after.map (·.1) := by
  obtain ⟨o, found⟩ := Option.isSome_iff_exists.1 present
  obtain ⟨next, last, own⟩ := h.own found
  have distinct := h.distinct
  rw [List.map_append, List.map_cons] at distinct
  have apart : constructor ∉ after.map (·.2) := (List.nodup_cons.1 (List.nodup_append.1 distinct).2.1).1
  have split : (before ++ (name, constructor) :: after).reverse.lookup name =
      (after.reverse.lookup name).or (some constructor) := by
    rw [List.reverse_append, List.reverse_cons, List.append_assoc, List.lookup_append, List.singleton_append,
      List.lookup_cons_self]
  have property := own name
  rw [split] at property
  unfold Finds
  -- if a later constructor has the name, that one is found, and it is another one
  cases later : after.reverse.lookup name with
  | none =>
    rw [later] at property
    rw [property_own last property]
    refine iff_of_true rfl (fun again => ?_)
    obtain ⟨gain, mem, rfl⟩ := List.mem_map.1 again
    exact absurd (List.lookup_eq_none_iff.1 later gain (List.mem_reverse.2 mem)) (by simp)
  | some id =>
    rw [later] at property
    have mem : (name, id) ∈ after := by
      obtain ⟨front, back, parts, -⟩ := List.lookup_eq_some_iff.1 later
      exact List.mem_reverse.1 (parts ▸ List.mem_append_right front List.mem_cons_self)
    rw [property_own last property]
    refine iff_of_false (fun same => ?_) (not_not_intro (List.mem_map_of_mem mem))
    cases same
    exact apart (List.mem_map_of_mem mem)

/-- **All constructors are found exactly if their names are distinct.** -/
theorem finds_all_iff (h : GainsAll gains s t) (present : (s.object? s.global).isSome) :
    (∀ gain ∈ gains, t.Finds gain.1 gain.2) ↔ (gains.map (·.1)).Nodup := by
  constructor
  · intro all
    -- from each place on, the names are distinct
    have onwards : ∀ after before, gains = before ++ after → (after.map (·.1)).Nodup := by
      intro after
      induction after with
      | nil => exact fun _ _ => List.nodup_nil
      | cons gain after ih =>
        rintro before rfl
        have fresh := (h.finds_iff present).1 (all gain (by simp))
        exact List.nodup_cons.2 ⟨fresh, ih (before ++ [gain]) (by simp)⟩
    exact onwards gains [] rfl
  · intro distinct gain mem
    obtain ⟨before, after, rfl⟩ := List.append_of_mem mem
    rw [List.map_append, List.map_cons] at distinct
    exact (h.finds_iff present).2 (List.nodup_cons.1 (List.nodup_append.1 distinct).2.1).1

end GainsAll

/-- Under any names constructors can be made. -/
theorem exists_gainsAll (names : List String) (s : Store) : ∃ gains t, gains.map (·.1) = names ∧ GainsAll gains s t := by
  induction names generalizing s with
  | nil => exact ⟨[], s, rfl, .nil s⟩
  | cons name names ih =>
    have made : ((s.alloc (.ofKind .plain)).2.object? ⟨s.objects.length⟩).isSome := by
      rw [object?_alloc_self]
      rfl
    have first := gains_define name (extends_alloc s _).objects rfl (object?_fresh s) made
    obtain ⟨gains, t, rfl, rest⟩ := ih ((s.alloc (.ofKind .plain)).2.define s.global name _ .fixed)
    exact ⟨_, t, rfl, .cons first rest⟩

end Store

/-! ## §3. Published classes. -/

theorem isSome_adopt (c : ClassName) (prototype : ObjectId) (s : Store) (id : ObjectId) :
    ((adopt c prototype s).object? id).isSome = (s.object? id).isSome := by
  show (Store.object? (Store.define (s.enlist _) _ _ _ _) id).isSome = _
  rw [Store.isSome_define, Store.object?, Layout.enlist_objects]
  rfl

/-- The constructor is new, also to the store from before the prototype was made. -/
theorem publishConstructor_isNew (c : ClassName) (s : Store) :
    s.object? (publishConstructor c ⟨s.objects.length⟩ (adopt c ⟨s.objects.length⟩ (withPrototype c s))).1 = none := by
  generalize before : adopt c ⟨s.objects.length⟩ (withPrototype c s) = adopted
  have fresh : (publishConstructor c ⟨s.objects.length⟩ adopted).1 = ⟨adopted.objects.length⟩ := rfl
  rw [fresh, ← Option.not_isSome_iff_eq_none]
  intro present
  -- what was there then would be there still
  obtain ⟨o, found⟩ := Option.isSome_iff_exists.1 present
  have still := (withPrototype_shows c s).1.objects.object? (Nat.zero_le _) found
  have there := isSome_adopt c ⟨s.objects.length⟩ (withPrototype c s) ⟨adopted.objects.length⟩
  rw [before, Store.object?_fresh, still] at there
  cases there

/-- **Publishing a class gives the global object its constructor**, under the name of the class. -/
theorem register_gains (c : ClassName) (s : Store) : ∃ id, (register c s).1 = .object id ∧
    s.Gains c.name id (register c s).2 := by
  obtain ⟨t, follows, global, -, defined⟩ := register_defines c s
  have isNew := publishConstructor_isNew c s
  have answer := register_answer c s
  have run := register_run c s
  generalize adopt c ⟨s.objects.length⟩ (withPrototype c s) = adopted at answer run isNew
  obtain ⟨⟨o, found, -⟩, -⟩ := publishConstructor_binds c ⟨s.objects.length⟩ adopted
  generalize publishConstructor c ⟨s.objects.length⟩ adopted = made at answer run isNew found
  rw [answer] at defined
  refine ⟨made.1, answer, ?_⟩
  rw [defined]
  refine Store.gains_define c.name follows global isNew ?_
  have there := congrArg (fun u => (Store.object? u made.1).isSome) (run.symm.trans defined)
  simp only [Store.isSome_define] at there
  rw [← there, found]
  rfl

/-- Publishing classes one after the other does so for each. -/
theorem registerAll_gains (classes : List ClassName) (s : Store) : ∃ gains, gains.map (·.1) = classes.map (·.name) ∧
    Store.GainsAll gains s (registerAll classes s).2 := by
  induction classes generalizing s with
  | nil => exact ⟨[], rfl, .nil s⟩
  | cons c rest ih =>
    obtain ⟨id, -, first⟩ := register_gains c s
    obtain ⟨gains, named, others⟩ := ih (register c s).2
    exact ⟨(c.name, id) :: gains, congrArg (c.name :: ·) named, .cons first others⟩

end ScriptBridge.Script
