import ScriptBridge.Proofs.Script.HandleInvariant
import ScriptBridge.Proofs.Script.Live

/-!
# ScriptBridge.Proofs.Script.Evolution

What holds whatever happens to an engine.

Conversions, calls and scripts are made of few single operations on stores: plain objects, handles and numbered types
are added, properties and payloads change, cells change, and the handle of a shared cell gets its prototype.  Conversions
make properties only of values that are live, and so do publications, which make functions as well; what their single
operations do not undo is a `ConversionInvariant` or a `PublicationInvariant`.  Scripts may assign anything.  A property
of stores that no single operation of conversions, calls and scripts undoes is `Robust`, and then nothing that happens to
an engine undoes it, publications aside.  A property that new objects of no type do not undo either is `Lasting`.

Main results:
  * `throughout_of_event` - what no event of a kind undoes holds throughout;
  * `ConversionInvariant.value`, `PublicationInvariant.register` - what no single operation undoes, no conversion or
    publication undoes;
  * `Robust.toScript`, `Robust.request`, `Robust.event` - the same for conversions, calls and other events;
  * `Event.ages` - events other than publications make objects age;
  * `register_defines` - what publishing a class does to the objects that are there.
-/

namespace ScriptBridge.Script

open ScriptBridge.Native

/-! ## §1. Events that follow one another. -/

/-- What events make of an engine, one after the other. -/
def Event.performAll (depth : Nat) (e : Engine) : List Event → Option Engine
  | [] => some e
  | event :: rest => (event.perform depth e).bind (fun after => performAll depth after rest)

/-- The event publishes a class. -/
def Event.Publishes : Event → Prop
  | register _ => True
  | _ => False

/-- Whatever events of a kind happen to the engine from here on, they all come about, and `p` holds afterwards. -/
def Engine.Throughout (kind : Event → Prop) (e : Engine) (p : Engine → Prop) : Prop :=
  ∀ depth events, (∀ event ∈ events, kind event) →
    ∃ after, Event.performAll (depth + 1) e events = some after ∧ p after

/-- **What no event of a kind undoes holds throughout.** -/
theorem throughout_of_event (kind : Event → Prop) {p : Store → Prop}
    (step : ∀ (event : Event) depth (e after : Engine), kind event → event.perform (depth + 1) e = some after →
      p e.store → p after.store) {e : Engine} (h : p e.store) : e.Throughout kind (fun after => p after.store) := by
  -- induction on the events, with `p` as the invariant
  intro depth events allowed
  induction events generalizing e with
  | nil => exact ⟨e, rfl, h⟩
  | cons first rest ih =>
    obtain ⟨middle, performed⟩ := first.exists_perform depth e
    have holds := step first depth e middle (allowed first List.mem_cons_self) performed h
    obtain ⟨after, rest_performed, holds'⟩ := ih holds (fun event mem => allowed event (List.mem_cons_of_mem first mem))
    refine ⟨after, ?_, holds'⟩
    rw [Event.performAll, performed]
    exact rest_performed

/-- What follows from the property holds throughout, too. -/
theorem Engine.Throughout.mono {kind : Event → Prop} {e : Engine} {p q : Engine → Prop}
    (weaker : ∀ after, p after → q after) (h : e.Throughout kind p) : e.Throughout kind q := by
  intro depth events allowed
  obtain ⟨after, performed, holds⟩ := h depth events allowed
  exact ⟨after, performed, weaker after holds⟩

/-- Scripts are events. -/
theorem performAll_script (depth : Nat) (e : Engine) (script : List ScriptStep) :
    Event.performAll depth e (script.map .script) = performAll depth e script := by
  induction script generalizing e with
  | nil => rfl
  | cons first rest ih =>
    rw [List.map_cons, Event.performAll, performAll]
    show (first.perform depth e).bind _ = _
    simp only [ih]

/-! ## §2. What conversions and publications do not undo. -/

/-- None of the single operations that conversions to scripts are made of undoes the property.  What becomes a property
of an object is live. -/
structure ConversionInvariant (P : Store → Prop) : Prop where
  /-- New objects for lists. -/
  plain : ∀ {s : Store}, P s → P (s.alloc (.ofKind .plain)).2
  /-- New handles, for which types get numbers. -/
  newHandle : ∀ {s : Store} (type : NativeType) (kind : HandleKind), P s → P (Layout.newHandle type kind s).2
  define : ∀ {s : Store} (id : ObjectId) (name : String) (value : Value) (flags : Flags), s.Live value → P s →
    P (s.define id name value flags)
  attach : ∀ {s : Store} (id : ObjectId) (d : Datum), P s → P (s.attach id d)

/-- A new handle is a number and an object. -/
theorem newHandle_of_handle {P : Store → Prop}
    (enlist : ∀ {s : Store} (type : NativeType), P s → P (s.enlist type))
    (handle : ∀ {s : Store} (type : NativeType) (kind : HandleKind), P s → P (s.alloc (Layout.blank type kind s)).2)
    {s : Store} (type : NativeType) (kind : HandleKind) (h : P s) : P (Layout.newHandle type kind s).2 := by
  have blank : Layout.blank type kind s = Layout.blank type kind (s.enlist type) := by
    unfold Layout.blank Store.defaultPrototype?
    rw [Layout.enlist_prototypes]
  rw [Layout.newHandle_run, blank]
  exact handle type kind (enlist type h)

namespace ConversionInvariant

universe u

variable {P : Store → Prop} (invariant : ConversionInvariant P) {s : Store}

include invariant

/-- What conversions to live values do not undo, writing a series of properties does not undo. -/
theorem writeProperties {ι : Type u} (name : ι → String) (flags : ι → Flags) (convert : ι → StoreM Value)
    {items : List ι} (converted : ∀ i ∈ items, ∀ s, P s → P (convert i s).2)
    (live : ∀ i ∈ items, ∀ s, (convert i s).2.Live (convert i s).1) (id : ObjectId) (h : P s) :
    P (items.forM (fun i => writeProperty id (name i) (flags i) (convert i)) s).2 :=
  forM_writeProperty_preserves (fun i mem s holds =>
    invariant.define id (name i) _ (flags i) (live i mem s) (converted i mem s holds)) h

/-- Writing a list keeps the property if the conversions of its elements do. -/
theorem list {α : Type} {convert : α → StoreM Value} (flags : Flags) (elements : List α)
    (converted : ∀ a s, P s → P (convert a s).2) (live : ∀ a s, (convert a s).2.Live (convert a s).1) (h : P s) :
    P (writeList convert flags elements s).2 := by
  rw [writeList_run, writeElements_eq_forM]
  refine invariant.define _ _ _ _ trivial ?_
  exact invariant.writeProperties (fun p : α × Nat => indexName p.2) (fun _ => flags) (fun p => convert p.1)
    (fun p _ => converted p.1) (fun p _ => live p.1) _ (invariant.plain h)

/-- What the conversions of a class's fields do not undo, writing an instance does not undo. -/
theorem place_of_fields {c : ClassName} (fields : ∀ p ∈ publicFields c, ∀ constant data s, P s →
      P (Convert.toScript (.value p.type) constant data s).2) (kind : HandleKind) (a : c.Instance) (handle : ObjectId)
    (h : P s) : P ((Layout.ofClass c).place kind a handle s).2 := by
  have written : P ((Layout.ofClass c).fields.forM (fun f =>
      writeProperty handle f.name (f.flags kind) (f.convert kind a)) s).2 := by
    refine invariant.writeProperties Field.name (Field.flags · kind) (Field.convert · kind a) ?_ ?_ handle h
    · intro f mem t holds
      obtain ⟨p, mem', is⟩ := exists_right_of_mem (fields_are_public c) mem
      obtain ⟨data, convert⟩ := is.convert_eq kind a
      rw [convert]
      exact fields p mem' _ data t holds
    · intro f mem t
      obtain ⟨p, -, is⟩ := exists_right_of_mem (fields_are_public c) mem
      obtain ⟨data, convert⟩ := is.convert_eq kind a
      rw [convert]
      exact Convert.live_toScript _ _ data t
  rw [Layout.place_run, Layout.carry_run]
  split
  · exact invariant.attach _ _ written
  · exact written

/-- Making a handle keeps the property if the conversions of its fields do. -/
theorem make_of_fields {c : ClassName} (fields : ∀ p ∈ publicFields c, ∀ constant data s, P s →
      P (Convert.toScript (.value p.type) constant data s).2) (kind : HandleKind) (a : c.Instance) (h : P s) :
    P ((Layout.ofClass c).make kind a s).2 := by
  have handle := invariant.newHandle (Layout.ofClass c).type kind h
  rw [Layout.newHandle_run] at handle
  rw [Layout.make_run]
  exact invariant.place_of_fields fields kind a _ handle

omit invariant in
/-- A value that is no object is converted without any use of the store. -/
theorem toScript_flat {σ : ValueType} (flat : σ.isFlat = true) (constant : Bool) (a : σ.Data) (s : Store) :
    (Convert.toScript (.value σ) constant a s).2 = s := by
  cases σ with
  | list element => cases flat
  | object c => cases flat
  | _ => cases constant <;> rfl

/-- What converting an instance does not undo: of its fields none is converted to an instance of the same class, or of
one in which there are such. -/
theorem object (c : ClassName) (constant : Bool) (a : c.Instance) {s : Store} (h : P s) :
    P (Convert.toScript (.value (.object c)) constant a s).2 := by
  have fields : ∀ p ∈ publicFields c, ∀ constant data s, P s →
      P (Convert.toScript (.value p.type) constant data s).2 := by
    intro p mem constant data s h
    have shallow := isShallow_type mem
    generalize p.type = τ at shallow data
    -- fields are flat, lists of flat values, or instances of classes that come before
    cases τ with
    | object d => exact object d constant data h
    | list σ =>
      have flat : σ.isFlat = true := shallow
      have elements : ∀ a s, P s → P (Convert.toScript (.value σ) constant a s).2 := by
        intro a s h
        rw [toScript_flat flat]
        exact h
      rw [Convert.toScript_list]
      exact invariant.list _ data elements (Convert.live_toScript (.value σ) constant) h
    | _ =>
      rw [toScript_flat rfl]
      exact h
  rw [Convert.toScript_object]
  exact invariant.make_of_fields fields _ a h
termination_by c.depth
decreasing_by exact of_decide_eq_true shallow

/-- **Conversions of values to scripts.** -/
theorem value (σ : ValueType) (constant : Bool) (a : σ.Data) (h : P s) :
    P (Convert.toScript (.value σ) constant a s).2 := by
  induction σ generalizing s with
  | object c => exact invariant.object c constant a h
  | list element ih =>
    rw [Convert.toScript_list]
    exact invariant.list _ a (fun b s => ih b) (Convert.live_toScript (.value element) constant) h
  | _ =>
    rw [toScript_flat rfl]
    exact h

/-- **Writing an instance onto an object.** -/
theorem place {c : ClassName} (kind : HandleKind) (a : c.Instance) (handle : ObjectId) (h : P s) :
    P ((Layout.ofClass c).place kind a handle s).2 :=
  invariant.place_of_fields (fun _ _ constant data _ holds => invariant.value _ constant data holds) kind a handle h

/-- **Sharing a cell**, as far as the prototype that its handle gets is concerned only. -/
theorem shared {c : ClassName} (cell : Cell c) (share : ∀ {t : Store} {o : Object} {prototype : ObjectId}, s.Extends t →
      t.object? ⟨s.objects.length⟩ = some o → o.nativeType = some (.value (.object c)) →
      t.defaultPrototype? (.shared c) = some prototype → P t → P (t.setPrototype ⟨s.objects.length⟩ (some prototype)))
    (h : P s) : P (shareToScript cell s).2 := by
  cases content : s.content? cell with
  | none =>
    rw [shareToScript_none content]
    exact h
  | some a =>
    have made : P ((Layout.ofClass c).make .mutable a s).2 :=
      Convert.toScript_object false a ▸ invariant.object c false a h
    obtain ⟨extended, o, shows, type, -⟩ := Layout.make_shows (Layout.lawful_ofClass c) .mutable a s
    rw [shareToScript_run cell content]
    -- the handle exists by now; what is left is its prototype and its payload
    generalize ((Layout.ofClass c).make .mutable a s).2 = t at made extended shows
    unfold rememberCell
    cases default : t.defaultPrototype? (.shared c) with
    | none => exact invariant.attach _ _ made
    | some prototype => exact invariant.attach _ _ (share extended shows.object type default made)

end ConversionInvariant

/-- None of the single operations that publications are made of undoes the property either.  These make functions, too. -/
structure PublicationInvariant (P : Store → Prop) : Prop extends ConversionInvariant P where
  function : ∀ {s : Store} (ref : FunctionRef), P s → P (s.alloc (.ofKind (.function ref))).2

namespace PublicationInvariant

variable {P : Store → Prop} (invariant : PublicationInvariant P) {s : Store}

include invariant

/-- Publishing a function keeps the property. -/
theorem newFunction (name : String) (ref : FunctionRef) (length : Nat) (h : P s) :
    P (Engine.newFunction name ref length s).2 :=
  invariant.define _ _ _ _ trivial (invariant.define _ _ _ _ trivial (invariant.function ref h))

/-- Publishing a constructor object keeps the property. -/
theorem newConstructor (name : String) (ref : FunctionRef) {prototype : ObjectId} (live : s.Live (.object prototype))
    (length : Nat) (h : P s) : P (Engine.newConstructor name ref prototype length s).2 :=
  invariant.define _ _ _ _ (live.extend (newFunction_shows name ref length s).1)
    (invariant.newFunction name ref length h)

/-- Publishing methods keeps the property. -/
theorem publishMethods {c : ClassName} (sets : List (MethodSet c)) (target : ObjectId) (h : P s) :
    P (sets.forM (publishMethod target) s).2 :=
  invariant.writeProperties MethodSet.name (fun _ => .fixed) methodFunction
    (fun set _ _ => invariant.newFunction set.name (.method c set.name) set.length)
    (fun set _ => live_newFunction set.name (.method c set.name) set.length) target h

/-- Making the prototype of a class keeps the property. -/
theorem withPrototype (c : ClassName) (h : P s) : P (Script.withPrototype c s) :=
  invariant.publishMethods _ _ (invariant.plain h)

/-- Publishing what a class has keeps the property. -/
theorem publishConstructor (c : ClassName) {prototype : ObjectId} (live : s.Live (.object prototype)) (h : P s) :
    P (Script.publishConstructor c prototype s).2 := by
  have made := invariant.newConstructor c.name (.constructor c) live (Interface.ofClass c).constructorLength h
  have methods := invariant.publishMethods ((Interface.ofClass c).methods.filter (·.isStatic)) ⟨s.objects.length⟩ made
  exact invariant.writeProperties StaticField.name (fun f => if f.isConst then .fixed else .kept)
    (fun f => (marshalOf f.type).toScript f.value)
    (fun f _ _ => invariant.value f.type false f.value) (fun f _ => Convert.live_toScript (.value f.type) false f.value)
    _ methods

/-- **Publishing a class**, as far as its number and the default prototypes of other types are concerned only. -/
theorem register {c : ClassName} (enlist : ∀ {t : Store}, P t → P (t.enlist (.value (.object c))))
    (adopts : ∀ {t : Store} {prototype : ObjectId}, t.Live (.object prototype) → P t →
      P ((t.setDefaultPrototype (.value (.object c)) prototype).setDefaultPrototype (.shared c) prototype))
    (h : P s) : P (Script.register c s).2 := by
  have live := live_adopt c s
  have adopted : P (adopt c ⟨s.objects.length⟩ (Script.withPrototype c s)) :=
    adopts live (invariant.define _ _ _ _ trivial (enlist (invariant.withPrototype c h)))
  rw [register_run]
  exact invariant.define _ _ _ _ (live_publishConstructor c _ _) (invariant.publishConstructor c live adopted)

end PublicationInvariant

/-! ## §3. What no event undoes. -/

/-- An object that gets a prototype at once might as well have been added with it. -/
theorem Store.setPrototype_alloc (s : Store) (o : Object) (prototype : Option ObjectId) :
    (s.alloc o).2.setPrototype (s.alloc o).1 prototype = (s.alloc { o with prototype := prototype }).2 := by
  have last : (s.objects ++ [o]).modify s.objects.length (fun o => { o with prototype := prototype }) =
      s.objects ++ [{ o with prototype := prototype }] := by
    rw [List.modify_eq_take_cons_drop (by simp)]
    simp
  simp only [setPrototype, update, alloc, last]

/-- The store with the receiver of a construction: a new object that has the constructor's prototype. -/
def Store.withReceiver (s : Store) (constructor : Value) : Store :=
  (s.alloc { Object.ofKind .plain with prototype := (s.propertyOf constructor "prototype").asObject? }).2

/-- **A construction is a call on a store with its receiver.** -/
theorem Body.construct_eq (constructor : Value) (arguments : List Value) :
    Body.construct constructor arguments = .read (fun s => .write (s.withReceiver constructor)
      (.invoke ((Request.construct constructor arguments).invocation s) .done)) := by
  simp only [construct, Store.withReceiver, Store.setPrototype_alloc]
  refine congrArg Body.read (funext (fun s => ?_))
  cases s.propertyOf constructor "prototype" with
  | object prototype => rfl
  | _ => rfl

/-- A construction is prepared by making its receiver. -/
theorem Request.prepare_construct (constructor : Value) (arguments : List Value) (e : Engine) :
    (Request.construct constructor arguments).prepare e = { e with store := e.store.withReceiver constructor } := by
  simp only [prepare, Store.withReceiver, Store.setPrototype_alloc]
  cases e.store.propertyOf constructor "prototype" with
  | object prototype => rfl
  | _ => rfl

/-- None of the single operations that conversions, calls and scripts are made of undoes the property.  They make plain
objects and handles, but no functions. -/
structure Robust (P : Store → Prop) : Prop where
  enlist : ∀ {s : Store} (type : NativeType), P s → P (s.enlist type)
  cells : ∀ {s : Store} (c : ClassName) (contents : List c.Instance), P s → P (s.setCells c contents)
  /-- Changes of properties and payloads. -/
  update : ∀ {s : Store} (id : ObjectId) (change : Object → Object),
    (∀ o, s.object? id = some o → (change o).kind = o.kind ∧ (change o).nativeType = o.nativeType ∧
      (change o).prototype = o.prototype) → P s → P (s.update id change)
  /-- New plain objects. -/
  plain : ∀ {s : Store} (prototype : Option ObjectId), P s →
    P (s.alloc { Object.ofKind .plain with prototype := prototype }).2
  /-- New handles. -/
  handle : ∀ {s : Store} (type : NativeType) (kind : HandleKind), P s → P (s.alloc (Layout.blank type kind s)).2
  /-- The handle of a shared cell gets its prototype. -/
  share : ∀ {s : Store} {id prototype : ObjectId} {o : Object} {c : ClassName}, s.object? id = some o →
    o.nativeType = some (.value (.object c)) → s.defaultPrototype? (.shared c) = some prototype → P s →
    P (s.setPrototype id (some prototype))

namespace Robust

variable {P : Store → Prop} (robust : Robust P) {s : Store}

include robust

/-- A property that calls and scripts keep is kept by conversions. -/
theorem conversion : ConversionInvariant P where
  plain := robust.plain none
  newHandle := newHandle_of_handle robust.enlist robust.handle
  define := fun id _ _ _ _ => robust.update id _ (fun _ _ => ⟨rfl, rfl, rfl⟩)
  attach := fun id _ => robust.update id _ (fun _ _ => ⟨rfl, rfl, rfl⟩)

/-- A change of properties that may fail keeps the property of the store. -/
theorem tryUpdate {t : Store} {id : ObjectId} {change : Object → Except PropertyError Object}
    (shape : ∀ o next, change o = .ok next → ∃ properties, next = { o with properties := properties })
    (done : s.tryUpdate id change = .ok t) (h : P s) : P t := by
  rcases Store.tryUpdate_eq_ok done with rfl | ⟨o, next, here, changed, rfl⟩
  · exact h
  · obtain ⟨properties, rfl⟩ := shape o next changed
    refine robust.update id _ (fun p found => ?_) h
    obtain rfl := Option.some.inj (here.symm.trans found)
    exact ⟨rfl, rfl, rfl⟩

/-- **Conversions to scripts.** -/
theorem toScript (τ : NativeType) (constant : Bool) (data : τ.Data) (h : P s) :
    P (Convert.toScript τ constant data s).2 := by
  cases τ with
  | value type => exact robust.conversion.value type constant data h
  | shared c => exact robust.conversion.shared data (fun _ => robust.share) h

/-- **Conversions from scripts.** -/
theorem ofScript (τ : NativeType) (v : Value) (h : P s) : P (Convert.ofScript τ v s).2 := by
  cases τ with
  | value type => exact h
  | shared c =>
    show P (shareOfScript c v s).2
    unfold shareOfScript
    simp only
    split
    · split
      · exact h
      · exact robust.cells c _ h
    · split
      · exact h
      · exact robust.cells c _ h

/-- Preparing a request keeps the property. -/
theorem prepare (r : Request) {e : Engine} (h : P e.store) : P (r.prepare e).store := by
  cases r with
  | call function receiver arguments => exact h
  | invokeMethod receiver name arguments => exact h
  | construct constructor arguments =>
    rw [Request.prepare_construct]
    exact robust.plain _ h

/-- What a method leaves behind keeps the property. -/
theorem commit {c : ClassName} {m : Method c} {call : CallContext} {effect : Method.Effect c}
    (evaluated : m.evaluate s call = .ok effect) (h : P s) : P (effect.commit call s).2 := by
  rcases Method.effect_of_evaluate evaluated with ⟨τ, a, rfl⟩ | ⟨next, receiver, arguments, -, -, -, rfl⟩
  · rw [Method.Effect.commit_unchanged rfl]
    exact robust.toScript (.value τ) false a h
  · rw [Method.Effect.commit_changed]
    rcases call.writeBack_cases (next receiver arguments) s with ⟨id, o, handle, found, mutable, written⟩ | unchanged
    · rw [written]
      exact robust.conversion.place .mutable _ id h
    · rwa [unchanged]

/-- **Calls.** -/
theorem request (r : Request) (depth : Nat) {e : Engine} (h : P e.store) : ∃ after result,
    Engine.run bindings (depth + 1) e r.body = some (after, result) ∧ P after.store := by
  have prepared := robust.prepare r h
  exact r.run_leaves depth e prepared (fun _ _ evaluated => robust.commit evaluated prepared)

/-- **A step of a script** keeps the property. -/
theorem script {e after : Engine} {step : ScriptStep} {depth : Nat}
    (performed : step.perform (depth + 1) e = some after) (h : P e.store) : P after.store := by
  obtain ⟨after', performed', holds⟩ := step.perform_leaves depth h
    (fun _ _ _ _ _ done => robust.tryUpdate (fun _ _ => Object.put_shape) done h)
    (fun _ _ _ _ done => robust.tryUpdate (fun _ _ => Object.delete_shape) done h) (fun r _ => robust.request r depth h)
  obtain rfl := Option.some.inj (performed.symm.trans performed')
  exact holds

/-- **Events other than publications.** -/
theorem event {e after : Engine} {event : Event} {depth : Nat} (no_publication : ¬event.Publishes)
    (performed : event.perform (depth + 1) e = some after) (h : P e.store) : P after.store := by
  cases event with
  | register c => exact absurd trivial no_publication
  | convert τ constant data =>
    obtain rfl := Option.some.inj performed
    exact robust.toScript τ constant data h
  | read τ v =>
    obtain rfl := Option.some.inj performed
    exact robust.ofScript τ v h
  | newCell c content =>
    obtain rfl := Option.some.inj performed
    exact robust.cells c _ h
  | setContent c cell content =>
    obtain rfl := Option.some.inj performed
    exact robust.cells c _ h
  | script step => exact robust.script performed h

end Robust

/-- No single operation of conversions, calls, scripts and publications undoes the property. -/
structure Lasting (P : Store → Prop) : Prop where
  enlist : ∀ {s : Store} (type : NativeType), P s → P (s.enlist type)
  cells : ∀ {s : Store} (c : ClassName) (contents : List c.Instance), P s → P (s.setCells c contents)
  /-- Changes of properties and payloads. -/
  update : ∀ {s : Store} (id : ObjectId) (change : Object → Object),
    (∀ o, s.object? id = some o → (change o).kind = o.kind ∧ (change o).nativeType = o.nativeType ∧
      (change o).prototype = o.prototype) → P s → P (s.update id change)
  /-- New objects that are made for no type. -/
  alloc : ∀ {s : Store} (o : Object), o.nativeType = none → P s → P (s.alloc o).2
  /-- New handles. -/
  handle : ∀ {s : Store} (type : NativeType) (kind : HandleKind), P s → P (s.alloc (Layout.blank type kind s)).2
  /-- The handle of a shared cell gets its prototype. -/
  share : ∀ {s : Store} {id prototype : ObjectId} {o : Object} {c : ClassName}, s.object? id = some o →
    o.nativeType = some (.value (.object c)) → s.defaultPrototype? (.shared c) = some prototype → P s →
    P (s.setPrototype id (some prototype))

namespace Lasting

variable {P : Store → Prop} (lasting : Lasting P) {s : Store}

include lasting

/-- A lasting property is kept by calls and scripts. -/
theorem robust : Robust P where
  enlist := lasting.enlist
  cells := lasting.cells
  update := lasting.update
  plain := fun _ => lasting.alloc _ rfl
  handle := lasting.handle
  share := lasting.share

/-- A lasting property is kept by publications. -/
theorem publication : PublicationInvariant P where
  toConversionInvariant := lasting.robust.conversion
  function := fun _ => lasting.alloc _ rfl

end Lasting

/-! ## §4. What events leave. -/

/-- Nothing changes which object is the global one. -/
theorem lasting_global (global : ObjectId) : Lasting (fun s => s.global = global) where
  enlist := by
    intro s type same
    unfold Store.enlist
    split <;> exact same
  cells := fun _ _ same => same
  update := fun _ _ _ same => same
  alloc := fun _ _ same => same
  handle := fun _ _ same => same
  share := fun _ _ _ same => same

/-- Objects are never removed. -/
theorem lasting_length (n : Nat) : Lasting (fun s => n ≤ s.objects.length) where
  enlist := by
    intro s type more
    rwa [Layout.enlist_objects]
  cells := fun _ _ more => more
  update := by
    intro s id change _ more
    rwa [Store.update, List.length_modify]
  alloc := fun o _ more => Nat.le_trans more (Store.extends_alloc _ o).objects.length_le
  handle := fun _ _ more => Nat.le_trans more (Store.extends_alloc _ _).objects.length_le
  share := by
    intro s id prototype o c _ _ _ more
    rwa [Store.setPrototype, Store.update, List.length_modify]

/-- **Events other than publications** make objects age. -/
theorem Event.ages {e after : Engine} {event : Event} {depth : Nat} (no_publication : ¬event.Publishes)
    (performed : event.perform (depth + 1) e = some after) : e.store.Follows Object.Ages 0 after.store :=
  Event.follows Object.Ages.refl (fun _ publication => absurd (publication ▸ trivial) no_publication) Touched.ages
    performed

/-- **What publishing a class does to the objects that are there**: the global object gets a fixed property for the
constructor.  Nothing happens to cells. -/
theorem register_defines (c : ClassName) (s : Store) : ∃ t, s.Follows Eq 0 t ∧ t.global = s.global ∧
    t.cells = s.cells ∧ (register c s).2 = t.define s.global c.name (register c s).1 .fixed := by
  have prototype := (withPrototype_shows c s).1
  -- the prototype is new, so what is put onto it does nothing to the objects that were there
  have adopted : s.Extends (((withPrototype c s).typeNumber (.value (.object c))).2.define ⟨s.objects.length⟩
      "metaTypeId" (.count ((withPrototype c s).typeNumber (.value (.object c))).1) .none) :=
    (prototype.trans (Store.extends_enlist _ _)).update_fresh (Store.object?_fresh s) _
  have constructor :=
    publishConstructor_extends c ⟨s.objects.length⟩ (adopt c ⟨s.objects.length⟩ (withPrototype c s))
  have global := constructor.global.trans adopted.global
  refine ⟨_, adopted.objects.trans Eq.trans constructor.objects, global, constructor.cells.trans adopted.cells, ?_⟩
  rw [register_run, register_answer, global]

end ScriptBridge.Script
