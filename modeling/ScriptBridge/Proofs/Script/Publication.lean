import ScriptBridge.Proofs.Script.ScriptRun

/-!
# ScriptBridge.Proofs.Script.Publication

What publishing a class leaves on an engine.

New handles of a published class get a prototype on which every instance method of the class stands as a fixed
property (`Store.Publishes`).  Publishing establishes this, and neither the publication of other classes, nor
conversions, nor new objects, nor scripts undo it, so it holds on every engine that provides the class
(`Engine.Provides`).

Main results:
  * `register_publishes` - publishing a class does publish it;
  * `Store.Publishes.register`, `Store.Publishes.touched`, `Store.Publishes.of_extends` - nothing undoes it;
  * `Engine.Provides.publishes` - so it stays published;
  * `register_keeps` - all other properties of objects that are there already stay as they are;
  * `publishConstructor_fields` - the constructor has the static fields of the class.
-/

namespace ScriptBridge.Script

open ScriptBridge.Native

/-! ## §1. Published classes. -/

/-- The object is a prototype on which all instance methods of the class stand. -/
def Store.PrototypeOf (s : Store) (c : ClassName) (p : ObjectId) : Prop :=
  ∃ o, s.object? p = some o ∧ o.isMutable = false ∧
    ∀ set ∈ (Interface.ofClass c).methods.filter (!·.isStatic), ∃ f, o.property? set.name = some ⟨.object f, .fixed⟩ ∧
      s.functionOf? (.object f) = some (.method c set.name)

/-- New handles of the class find all its instance methods. -/
def Store.Publishes (s : Store) (c : ClassName) : Prop :=
  ∃ p, s.defaultPrototype? (.value (.object c)) = some p ∧ s.PrototypeOf c p

namespace Store.PrototypeOf

variable {s t : Store} {c : ClassName} {p : ObjectId}

/-- Ageing does not harm a prototype, for it is no mutable handle. -/
theorem of_ages (h : s.PrototypeOf c p) (ages : s.Follows Object.Ages 0 t) : t.PrototypeOf c p := by
  obtain ⟨o, found, still, methods⟩ := h
  obtain ⟨next, found', step⟩ := ages p o (Nat.zero_le _) found
  refine ⟨next, found', step.isMutable.trans still, ?_⟩
  intro set mem
  obtain ⟨f, own, function⟩ := methods set mem
  exact ⟨f, step.fixed still _ _ own rfl, ages.functionOf? Object.Ages.kind function⟩

/-- Nor do changes of other objects, whatever these are. -/
theorem of_alters {id : ObjectId} (h : s.PrototypeOf c p) (altered : s.Alters id t) (apart : p ≠ id) :
    t.PrototypeOf c p := by
  obtain ⟨o, found, still, methods⟩ := h
  refine ⟨o, altered.others p o apart found, still, ?_⟩
  intro set mem
  obtain ⟨f, own, function⟩ := methods set mem
  exact ⟨f, own, altered.kinds.functionOf? (fun same => same) function⟩

/-- Nor do new properties, on whatever object, that have not the name of a method. -/
theorem define (h : s.PrototypeOf c p) (id : ObjectId) {name : String} (value : Value) (flags : Flags)
    (free : name ∉ (Interface.ofClass c).methods.map (·.name)) : (s.define id name value flags).PrototypeOf c p := by
  by_cases same : p = id
  · subst same
    have kinds := (s.alters_define p name value flags).kinds
    obtain ⟨o, found, still, methods⟩ := h
    refine ⟨o.define name value flags, Store.object?_define_self name value flags found, still, ?_⟩
    -- the new property stands beside the methods
    intro set mem
    obtain ⟨f, own, function⟩ := methods set mem
    have other : set.name ≠ name := by
      rintro rfl
      exact free (List.mem_map_of_mem (List.mem_filter.1 mem).1)
    refine ⟨f, ?_, kinds.functionOf? (fun same => same) function⟩
    rw [Object.property?_define, if_neg other, own]
  · exact h.of_alters (s.alters_define id name value flags) same

end Store.PrototypeOf

/-! ## §2. Functions. -/

/-- Making a function object only adds it, and it is that function. -/
theorem newFunction_shows (name : String) (ref : FunctionRef) (length : Nat) (s : Store) :
    s.Extends (Engine.newFunction name ref length s).2 ∧ (Engine.newFunction name ref length s).1 = ⟨s.objects.length⟩ ∧
      ∃ o, (Engine.newFunction name ref length s).2.object? ⟨s.objects.length⟩ = some o ∧
        o.kind = .function ref := by
  have named := (s.alloc (.ofKind (.function ref))).2.alters_define ⟨s.objects.length⟩ "name" (.string name) .fixed
  have altered := named.trans (Store.alters_define _ ⟨s.objects.length⟩ "length" (.count length) .fixed)
  obtain ⟨o, found, kind, -⟩ := altered.own _ (Store.object?_alloc_self s _)
  exact ⟨altered.extends (Store.extends_alloc s _) (Store.object?_fresh s), rfl, o, found, kind⟩

/-- Making a constructor object only adds it. -/
theorem newConstructor_shows (name : String) (ref : FunctionRef) (prototype : ObjectId) (length : Nat) (s : Store) :
    s.Extends (Engine.newConstructor name ref prototype length s).2 ∧
      (Engine.newConstructor name ref prototype length s).1 = ⟨s.objects.length⟩ ∧
      ∃ o, (Engine.newConstructor name ref prototype length s).2.object? ⟨s.objects.length⟩ = some o := by
  obtain ⟨extended, id, o, found, -⟩ := newFunction_shows name ref length s
  have altered := (Engine.newFunction name ref length s).2.alters_define ⟨s.objects.length⟩ "prototype"
    (.object prototype) .fixed
  obtain ⟨next, found', -⟩ := altered.own o found
  exact ⟨altered.extends extended (Store.object?_fresh s), rfl, next, found'⟩

/-- The function that a method is published as. -/
def methodFunction {c : ClassName} (set : MethodSet c) : StoreM Value := do
  let function ← Engine.newFunction set.name (.method c set.name) set.length
  return .object function

/-- The function of a method is a new object. -/
theorem methodFunction_extends {c : ClassName} (set : MethodSet c) (s : Store) :
    s.Extends (methodFunction set s).2 :=
  (newFunction_shows set.name (.method c set.name) set.length s).1

/-- What was published as a method is its function. -/
theorem function_of_made {c : ClassName} {set : MethodSet c} {n : Nat} {s : Store} {v : Value}
    (made : Made (methodFunction set) n s v) :
    ∃ f, v = .object f ∧ s.functionOf? (.object f) = some (.method c set.name) := by
  obtain ⟨origin, -, rfl, kept⟩ := made
  obtain ⟨-, -, o, found, kind⟩ := newFunction_shows set.name (.method c set.name) set.length origin
  have found' := kept.object? (Nat.le_refl _) found
  refine ⟨⟨origin.objects.length⟩, rfl, ?_⟩
  show (s.object? ⟨origin.objects.length⟩).bind (·.function?) = _
  rw [found', Option.bind_some]
  unfold Object.function?
  rw [kind]

/-! ## §3. Publishing. -/

/-- What follows in publishing when the prototype has its methods: it becomes the prototype of new handles. -/
def adopt (c : ClassName) (prototype : ObjectId) (s : Store) : Store :=
  ((((s.typeNumber (.value (.object c))).2.define prototype "metaTypeId"
    (.count (s.typeNumber (.value (.object c))).1) .none).setDefaultPrototype (.value (.object c)) prototype)
    ).setDefaultPrototype (.shared c) prototype

/-- What follows then: the constructor with static methods and fields. -/
def publishConstructor (c : ClassName) (prototype : ObjectId) : StoreM ObjectId := do
  let constructor ← Engine.newConstructor c.name (.constructor c) prototype (Interface.ofClass c).constructorLength
  ((Interface.ofClass c).methods.filter (·.isStatic)).forM (publishMethod constructor)
  (Interface.ofClass c).staticFields.forM (publishField constructor)
  return constructor

/-- The new prototype with its methods. -/
def withPrototype (c : ClassName) (s : Store) : Store :=
  (((Interface.ofClass c).methods.filter (!·.isStatic)).forM (publishMethod ⟨s.objects.length⟩)
    (s.alloc (.ofKind .plain)).2).2

/-- Publishing step by step. -/
theorem register_run (c : ClassName) (s : Store) :
    (register c s).2 =
      ((publishConstructor c ⟨s.objects.length⟩ (adopt c ⟨s.objects.length⟩ (withPrototype c s))).2.define
        (publishConstructor c ⟨s.objects.length⟩ (adopt c ⟨s.objects.length⟩ (withPrototype c s))).2.global c.name
        (.object (publishConstructor c ⟨s.objects.length⟩ (adopt c ⟨s.objects.length⟩ (withPrototype c s))).1)
        .fixed) := rfl

/-- No two methods of a class have the same name. -/
theorem distinct_methods (c : ClassName) (keep : MethodSet c → Bool) :
    (((Interface.ofClass c).methods.filter keep).map (·.name)).Nodup := by
  have all : ((Interface.ofClass c).methods.map (·.name)).Nodup := by cases c <;> decide
  exact all.sublist (List.filter_sublist.map _)

/-- No two static fields of a class have the same name. -/
theorem distinct_staticFields (c : ClassName) : ((Interface.ofClass c).staticFields.map (·.name)).Nodup := by
  cases c <;> decide

/-- The new prototype is one, and everything else is as it was. -/
theorem withPrototype_shows (c : ClassName) (s : Store) :
    s.Extends (withPrototype c s) ∧ (withPrototype c s).PrototypeOf c ⟨s.objects.length⟩ := by
  have found := Store.object?_alloc_self s (.ofKind .plain)
  obtain ⟨altered, o, found', written⟩ := forM_writeProperty MethodSet.name (fun _ => .fixed)
    (fun set _ => methodFunction_extends set) (distinct_methods c (!·.isStatic)) found
  refine ⟨altered.extends (Store.extends_alloc s _) (Store.object?_fresh s), o, found', ?_, ?_⟩
  · obtain ⟨next, found'', kind, -⟩ := altered.own _ found
    obtain rfl := Option.some.inj (found'.symm.trans found'')
    exact Object.isMutable_congr kind
  · intro set mem
    obtain ⟨v, own, made⟩ := written.written set mem
    obtain ⟨f, rfl, function⟩ := function_of_made made
    exact ⟨f, own, function⟩

/-- The constructor comes with new objects only. -/
theorem publishConstructor_extends (c : ClassName) (prototype : ObjectId) (s : Store) :
    s.Extends (publishConstructor c prototype s).2 := by
  obtain ⟨extended, -, o, found⟩ :=
    newConstructor_shows c.name (.constructor c) prototype (Interface.ofClass c).constructorLength s
  obtain ⟨methods, o', found', -⟩ := forM_writeProperty MethodSet.name (fun _ => .fixed)
    (fun set _ => methodFunction_extends set) (distinct_methods c (·.isStatic)) found
  obtain ⟨fields, -⟩ := forM_writeProperty StaticField.name (fun f => if f.isConst then .fixed else .kept)
    (fun f _ => (lawful_marshalOf f.type).toScript_extends f.value) (distinct_staticFields c) found'
  exact (methods.trans fields).extends extended (Store.object?_fresh s)

/-- What is added to objects in publishing has not the name of an instance method. -/
theorem free_names (c d : ClassName) :
    "metaTypeId" ∉ (Interface.ofClass c).methods.map (·.name) ∧
      d.name ∉ (Interface.ofClass c).methods.map (·.name) := by
  cases c <;> cases d <;> decide

/-- From the prototype on, publishing harms no prototype, and makes the new one that of new handles. -/
theorem Store.PrototypeOf.adopt {s : Store} {c : ClassName} {p : ObjectId} (h : s.PrototypeOf c p) (d : ClassName)
    (prototype : ObjectId) : (Script.adopt d prototype s).PrototypeOf c p := by
  have numbered : (s.enlist (.value (.object d))).PrototypeOf c p :=
    h.of_ages (Store.extends_enlist s _).objects.ages
  exact numbered.define prototype _ .none (free_names c d).1

/-- Adopting a prototype changes that of one class only. -/
theorem defaultPrototype?_adopt (c d : ClassName) (prototype : ObjectId) (s : Store) :
    (adopt d prototype s).defaultPrototype? (.value (.object c)) =
      if c = d then some prototype else s.defaultPrototype? (.value (.object c)) := by
  have prototypes : (adopt d prototype s).prototypes = Keyed.set (.shared d) prototype
      (Keyed.set (.value (.object d)) prototype (s.enlist (.value (.object d))).prototypes) := rfl
  unfold Store.defaultPrototype?
  rw [prototypes, Keyed.lookup_set, Keyed.lookup_set, if_neg (by simp), Layout.enlist_prototypes]
  by_cases same : c = d
  · rw [if_pos same, if_pos (by rw [same])]
  · rw [if_neg same, if_neg (by simpa using same)]

/-- Publishing a class, seen from any class. -/
theorem register_shows (c d : ClassName) (s : Store) :
    (∀ p, (withPrototype d s).PrototypeOf c p → (register d s).2.PrototypeOf c p) ∧
      (register d s).2.defaultPrototype? (.value (.object c)) =
        if c = d then some ⟨s.objects.length⟩ else s.defaultPrototype? (.value (.object c)) := by
  have constructor := publishConstructor_extends d ⟨s.objects.length⟩ (adopt d ⟨s.objects.length⟩ (withPrototype d s))
  rw [register_run]
  constructor
  · intro p h
    have published := (h.adopt d ⟨s.objects.length⟩).of_ages constructor.objects.ages
    exact published.define _ _ .fixed (free_names c d).2
  · show Store.defaultPrototype? (publishConstructor d _ _).2 _ = _
    unfold Store.defaultPrototype?
    rw [constructor.prototypes]
    rw [← (withPrototype_shows d s).1.prototypes]
    exact defaultPrototype?_adopt c d _ _

/-- **Publishing a class publishes it.** -/
theorem register_publishes (c : ClassName) (s : Store) : (register c s).2.Publishes c := by
  obtain ⟨kept, prototype⟩ := register_shows c c s
  rw [if_pos rfl] at prototype
  exact ⟨_, prototype, kept _ (withPrototype_shows c s).2⟩

namespace Store.Publishes

variable {s t : Store} {c : ClassName}

/-- What scripts do leaves a class published. -/
theorem of_ages (h : s.Publishes c) (ages : s.Follows Object.Ages 0 t) (prototypes : t.prototypes = s.prototypes) :
    t.Publishes c := by
  obtain ⟨p, prototype, methods⟩ := h
  refine ⟨p, ?_, methods.of_ages ages⟩
  unfold Store.defaultPrototype? at prototype ⊢
  rw [prototypes, prototype]

/-- New objects leave a class published. -/
theorem of_extends (h : s.Publishes c) (extended : s.Extends t) : t.Publishes c :=
  h.of_ages extended.objects.ages extended.prototypes

/-- Conversions leave a class published. -/
theorem touched (h : s.Publishes c) (touched : Touched s t) : t.Publishes c :=
  h.of_ages touched.ages touched.prototypes

/-- Publishing another class, or the same one again, leaves a class published. -/
theorem register (h : s.Publishes c) (d : ClassName) : (Script.register d s).2.Publishes c := by
  by_cases same : c = d
  · -- the class gets another prototype, with the methods all over again
    subst same
    exact register_publishes c s
  · obtain ⟨p, prototype, methods⟩ := h
    obtain ⟨kept, default⟩ := register_shows c d s
    rw [if_neg same, prototype] at default
    exact ⟨p, default, kept p (methods.of_ages (withPrototype_shows d s).1.objects.ages)⟩

end Store.Publishes

/-! ## §4. Engines that provide a class. -/

/-- An engine on which the class was published, whatever was there before.  Since then, classes may have been
published, values converted in either direction, objects added by the host, and scripts run. -/
inductive Engine.Provides (c : ClassName) : Engine → Prop
  | published (e : Engine) : Provides c (e.useStore (register c)).1
  | another {e : Engine} (provides : Provides c e) (d : ClassName) : Provides c (e.useStore (register d)).1
  | converted {e : Engine} (provides : Provides c e) (τ : NativeType) (constant : Bool) (data : τ.Data) :
      Provides c (e.useStore (Convert.toScript τ constant data)).1
  | read {e : Engine} (provides : Provides c e) (τ : NativeType) (v : Value) :
      Provides c (e.useStore (Convert.ofScript τ v)).1
  | added {e after : Engine} (provides : Provides c e) (adds : e.store.Extends after.store) : Provides c after
  | scripted {e after : Engine} (provides : Provides c e) {depth : Nat} {step : ScriptStep}
      (performed : step.perform (depth + 1) e = some after) : Provides c after

/-- Publishing several classes is publishing them one after the other. -/
theorem registerAll_cons (e : Engine) (d : ClassName) (rest : List ClassName) :
    (e.useStore (registerAll (d :: rest))).1 = ((e.useStore (register d)).1.useStore (registerAll rest)).1 := rfl

/-- An engine goes on providing a class when others are published on it. -/
theorem Engine.Provides.registerAll {c : ClassName} {e : Engine} (provides : e.Provides c) (classes : List ClassName) :
    (e.useStore (Script.registerAll classes)).1.Provides c := by
  induction classes generalizing e with
  | nil => exact provides
  | cons d rest ih =>
    rw [registerAll_cons]
    exact ih (provides.another d)

/-- An engine provides the classes that were published on it together. -/
theorem provides_registerAll {c : ClassName} {classes : List ClassName} (mem : c ∈ classes) (e : Engine) :
    (e.useStore (registerAll classes)).1.Provides c := by
  induction classes generalizing e with
  | nil => exact absurd mem List.not_mem_nil
  | cons d rest ih =>
    rw [registerAll_cons]
    rcases List.mem_cons.1 mem with rfl | later
    · exact (Engine.Provides.published e).registerAll rest
    · exact ih later _

/-- The store after a handle was made to remember a cell. -/
def rememberCell {c : ClassName} (cell : Cell c) (id : ObjectId) (t : Store) : Store :=
  match t.defaultPrototype? (.shared c) with
  | some prototype => (t.setPrototype id (some prototype)).attach id ⟨.shared c, cell⟩
  | none => t.attach id ⟨.shared c, cell⟩

/-- **Sharing a cell** makes a handle for what it holds, which is made to remember it. -/
theorem shareToScript_run {c : ClassName} (cell : Cell c) {s : Store} {a : c.Instance}
    (content : s.content? cell = some a) : shareToScript cell s = (.object ⟨s.objects.length⟩,
      rememberCell cell ⟨s.objects.length⟩ ((Layout.ofClass c).make .mutable a s).2) := by
  have made := Layout.toScript_run (Layout.ofClass c) a s
  generalize ((Layout.ofClass c).make .mutable a s).2 = t at made ⊢
  cases found : t.defaultPrototype? (.shared c) with
  | none =>
    simp only [shareToScript, rememberCell, bind, StateT.bind, get, getThe, MonadStateOf.get, StateT.get, pure,
      content, made, found]
    rfl
  | some prototype =>
    simp only [shareToScript, rememberCell, bind, StateT.bind, get, getThe, MonadStateOf.get, StateT.get, pure,
      content, made, found]
    rfl

/-- A cell that is not there gives nothing. -/
theorem shareToScript_none {c : ClassName} {cell : Cell c} {s : Store} (content : s.content? cell = none) :
    shareToScript cell s = (.undefined, s) := by
  simp only [shareToScript, bind, StateT.bind, get, getThe, MonadStateOf.get, StateT.get, pure, content]
  rfl

/-- Sharing a cell with scripts only adds objects. -/
theorem shareToScript_extends {c : ClassName} (cell : Cell c) (s : Store) : s.Extends (shareToScript cell s).2 := by
  cases content : s.content? cell with
  | none =>
    rw [shareToScript_none content]
    exact .refl s
  | some a =>
    have extended := (Layout.make_shows (Layout.lawful_ofClass c) .mutable a s).1
    have fresh := Store.object?_fresh s
    rw [shareToScript_run cell content]
    generalize ((Layout.ofClass c).make .mutable a s).2 = t at extended ⊢
    unfold rememberCell
    simp only
    split
    · exact (extended.update_fresh fresh _).update_fresh fresh _
    · exact extended.update_fresh fresh _

/-- A list is converted element by element. -/
theorem Convert.toScript_list {σ : ValueType} (constant : Bool) (elements : List σ.Data) :
    Convert.toScript (.value (.list σ)) constant elements =
      writeList (Convert.toScript (.value σ) constant) (elementFlags constant) elements := by
  cases constant <;> rfl

/-- The handle that an instance is converted to. -/
def HandleKind.ofConstant (constant : Bool) : HandleKind :=
  if constant then .snapshot else .mutable

/-- An instance is converted to a handle. -/
theorem Convert.toScript_object {c : ClassName} (constant : Bool) (a : c.Instance) :
    Convert.toScript (.value (.object c)) constant a = (Layout.ofClass c).make (.ofConstant constant) a := by
  cases constant with
  | false => exact Layout.toScript_eq_make (Layout.ofClass c) a
  | true => exact Layout.toConst_eq_make (Layout.ofClass c) a

/-- Conversions to scripts only add objects. -/
theorem Convert.toScript_extends (τ : NativeType) (constant : Bool) (data : τ.Data) (s : Store) :
    s.Extends (Convert.toScript τ constant data s).2 := by
  cases τ with
  | shared c => exact shareToScript_extends data s
  | value type =>
    cases constant with
    | false => exact (lawful_marshalOf type).toScript_extends data s
    | true => exact (lawful_marshalOf type).toConst_extends data s

/-- Reading changes cells at most. -/
theorem Convert.exists_cells_ofScript (τ : NativeType) (v : Value) (s : Store) :
    ∃ cells, (Convert.ofScript τ v s).2 = { s with cells := cells } := by
  cases τ with
  | value type => exact ⟨_, rfl⟩
  | shared c =>
    show ∃ cells, (shareOfScript c v s).2 = { s with cells := cells }
    unfold shareOfScript
    simp only
    split
    · split
      · exact ⟨_, rfl⟩
      · exact ⟨_, rfl⟩
    · split
      · exact ⟨_, rfl⟩
      · exact ⟨_, rfl⟩

/-- Reading a value changes no object and no prototype. -/
theorem Convert.ofScript_keeps (τ : NativeType) (v : Value) (s : Store) :
    (Convert.ofScript τ v s).2.objects = s.objects ∧ (Convert.ofScript τ v s).2.prototypes = s.prototypes := by
  obtain ⟨cells, made⟩ := exists_cells_ofScript τ v s
  rw [made]
  exact ⟨rfl, rfl⟩

/-- **An engine that provides a class publishes it.** -/
theorem Engine.Provides.publishes {c : ClassName} {e : Engine} (provides : e.Provides c) : e.store.Publishes c := by
  -- every step towards the engine publishes the class or keeps it published
  induction provides with
  | published e => exact register_publishes c e.store
  | another provides d ih => exact ih.register d
  | converted provides τ constant data ih => exact ih.of_extends (Convert.toScript_extends τ constant data _)
  | @read e provides τ v ih =>
    obtain ⟨objects, prototypes⟩ := Convert.ofScript_keeps τ v e.store
    apply ih.of_ages _ prototypes
    intro id o _ found
    refine ⟨o, ?_, .refl o⟩
    show (Convert.ofScript τ v e.store).2.objects[id.index]? = some o
    rw [objects]
    exact found
  | added provides adds ih => exact ih.of_extends adds
  | @scripted e after provides depth step performed ih =>
    obtain ⟨after', performed', touched⟩ := step.perform_touched depth e
    obtain rfl := Option.some.inj (performed.symm.trans performed')
    exact ih.touched touched

/-! ## §5. What was there before, and the constructor. -/

/-- The names that publishing gives to properties of objects that are there already. -/
def publishedNames : List String :=
  "metaTypeId" :: ClassName.all.map (·.name)

/-- The object is what it was, and so are its properties except those that publishing defines. -/
structure Object.Keeps (o next : Object) : Prop where
  kind : next.kind = o.kind
  properties : ∀ name, name ∉ publishedNames → next.property? name = o.property? name

/-- An object that stays as it is keeps its properties. -/
theorem Object.Keeps.refl (o : Object) : o.Keeps o :=
  ⟨rfl, fun _ _ => rfl⟩

/-- One change after another. -/
theorem Object.Keeps.trans {o p q : Object} (first : o.Keeps p) (second : p.Keeps q) : o.Keeps q :=
  ⟨second.kind.trans first.kind, fun name other => (second.properties name other).trans (first.properties name other)⟩

/-- Two steps that keep the properties of all objects do so together. -/
theorem Store.keeps_trans {s t u : Store} (first : s.Follows Object.Keeps 0 t) (second : t.Follows Object.Keeps 0 u) :
    s.Follows Object.Keeps 0 u :=
  first.trans Object.Keeps.trans second

/-- Publishing may define what it gives names to. -/
theorem Object.keeps_define (o : Object) {name : String} (value : Value) (flags : Flags)
    (published : name ∈ publishedNames) : o.Keeps (o.define name value flags) := by
  refine ⟨rfl, ?_⟩
  intro free absent
  rw [Object.property?_define, if_neg]
  rintro rfl
  exact absent published

/-- Defining such a property keeps the others on all objects. -/
theorem Store.keeps_define (s : Store) (id : ObjectId) {name : String} (value : Value) (flags : Flags)
    (published : name ∈ publishedNames) : s.Follows Object.Keeps 0 (s.define id name value flags) :=
  Store.follows_update Object.Keeps.refl s id (fun o => o.keeps_define value flags published)

/-- The name of a class is one that publishing gives. -/
theorem name_mem_publishedNames (c : ClassName) : c.name ∈ publishedNames := by
  cases c <;> decide

/-- **What publishing a class does to the objects that are there already** is to define properties of published
names. -/
theorem register_follows {r : Object → Object → Prop} (reflexive : ∀ o, r o o)
    (transitive : ∀ {a b c}, r a b → r b c → r a c)
    (define : ∀ (o : Object) name value flags, name ∈ publishedNames → r o (o.define name value flags)) (c : ClassName)
    (s : Store) : s.Follows r 0 (register c s).2 := by
  have only_adds : ∀ {s t : Store}, s.Extends t → s.Follows r 0 t :=
    fun extended => extended.objects.of_unchanged reflexive (Nat.le_refl 0)
  have chain : ∀ {s t u : Store}, s.Follows r 0 t → t.Follows r 0 u → s.Follows r 0 u :=
    fun first second => first.trans transitive second
  -- new objects change nothing; then two properties are defined on older ones
  have prototype := only_adds (withPrototype_shows c s).1
  have numbered := only_adds (Store.extends_enlist (withPrototype c s) (.value (.object c)))
  have adopted : (withPrototype c s).Follows r 0 (adopt c ⟨s.objects.length⟩ (withPrototype c s)) :=
    chain numbered (Store.follows_update reflexive _ _ (fun o => define o _ _ _ (by decide)))
  have constructor :=
    only_adds (publishConstructor_extends c ⟨s.objects.length⟩ (adopt c ⟨s.objects.length⟩ (withPrototype c s)))
  have named := name_mem_publishedNames c
  rw [register_run]
  refine chain (chain prototype adopted) (chain constructor ?_)
  exact Store.follows_update reflexive _ _ (fun o => define o _ _ _ named)

/-- **Publishing a class keeps what is there.** -/
theorem register_keeps (c : ClassName) (s : Store) : s.Follows Object.Keeps 0 (register c s).2 :=
  register_follows Object.Keeps.refl Object.Keeps.trans (fun o _ value flags => o.keeps_define value flags) c s

/-- **Publishing classes keeps the objects that are there.** -/
theorem registerAll_keeps (classes : List ClassName) (e : Engine) :
    e.store.Follows Object.Keeps 0 (e.useStore (registerAll classes)).1.store := by
  induction classes generalizing e with
  | nil => exact .refl Object.Keeps.refl 0 e.store
  | cons d rest ih =>
    rw [registerAll_cons]
    exact Store.keeps_trans (register_keeps d e.store) (ih (e.useStore (register d)).1)

/-- The constructor with the static fields of the class. -/
theorem publishConstructor_fields (c : ClassName) (prototype : ObjectId) (s : Store) :
    ∃ o, (publishConstructor c prototype s).2.object? (publishConstructor c prototype s).1 = some o ∧
      o.kind = .function (.constructor c) ∧
      ∀ f ∈ (Interface.ofClass c).staticFields, ∃ v,
        o.property? f.name = some ⟨v, if f.isConst then .fixed else .kept⟩ ∧
        Made ((marshalOf f.type).toScript f.value) 0 (publishConstructor c prototype s).2 v := by
  obtain ⟨-, -, o, found, kind⟩ :=
    newFunction_shows c.name (.constructor c) (Interface.ofClass c).constructorLength s
  -- the function object gets its prototype, then the static methods, then the static fields
  have first := (Engine.newFunction c.name (.constructor c) (Interface.ofClass c).constructorLength s).2.alters_define
    ⟨s.objects.length⟩ "prototype" (.object prototype) .fixed
  obtain ⟨p, found, kind', -⟩ := first.own o found
  obtain ⟨methods, q, found', -⟩ := forM_writeProperty MethodSet.name (fun _ => .fixed)
    (fun set _ => methodFunction_extends set) (distinct_methods c (·.isStatic)) found
  obtain ⟨q', found'', kind'', -⟩ := methods.own p found
  obtain rfl := Option.some.inj (found'.symm.trans found'')
  obtain ⟨fields, next, last, written⟩ := forM_writeProperty StaticField.name
    (fun f => if f.isConst then .fixed else .kept)
    (fun f _ => (lawful_marshalOf f.type).toScript_extends f.value) (distinct_staticFields c) found'
  obtain ⟨next', last', kind''', -⟩ := fields.own q found'
  obtain rfl := Option.some.inj (last.symm.trans last')
  refine ⟨next, last, kind'''.trans (kind''.trans (kind'.trans kind)), ?_⟩
  intro f mem
  obtain ⟨v, own, made⟩ := written.written f mem
  exact ⟨v, own, made.from_le (Nat.zero_le _)⟩

/-- Publishing a class answers with its constructor. -/
theorem register_answer (c : ClassName) (s : Store) : (register c s).1 =
    .object (publishConstructor c ⟨s.objects.length⟩ (adopt c ⟨s.objects.length⟩ (withPrototype c s))).1 := rfl

end ScriptBridge.Script
