import ScriptBridge.Proofs.Script.Publication

/-!
# ScriptBridge.Proofs.Script.StaticField

How constant a constant static field is.

The constructor of vectors has a static field, the vector whose components are zero.  The property is fixed, so scripts
can neither replace nor delete it.  Its value, however, is an ordinary mutable handle, not a snapshot as for constant
fields of instances, and whoever reads the field gets that very handle.  So the field keeps its value as long as scripts
spare the handle, and at any time three assignments are enough to give it any other one.

Main results:
  * `register_slot` - publishing vectors makes the fixed property and the handle behind it;
  * `performAll_spares` - a script that spares the handle leaves the field as it was;
  * `performAll_assign` - a script that assigns to the components gives the field another value;
  * `zero_slot_fixed` - all this of every engine on which vectors were published.
-/

namespace ScriptBridge.Script

open ScriptBridge.Native ScriptBridge.Numeric

/-! ## §1. Vectors on handles. -/

/-- The properties for the components of a vector. -/
def components (w : Vector3) : List (String × Value) :=
  [("x", .number (w.x.convert .double)), ("y", .number (w.y.convert .double)), ("z", .number (w.z.convert .double))]

/-- Their names. -/
def componentNames : List String := ["x", "y", "z"]

/-- The components of the vector stand on the object, where scripts may assign to them but not delete them. -/
def Store.Displays (s : Store) (id : ObjectId) (w : Vector3) : Prop :=
  ∃ o, s.object? id = some o ∧ ∀ c ∈ components w, o.property? c.1 = some ⟨c.2, .kept⟩

/-- Properties for all components stand on the object, whatever their values are. -/
def Store.Assignable (s : Store) (id : ObjectId) : Prop :=
  ∃ o, s.object? id = some o ∧ ∀ name ∈ componentNames, ∃ v, o.property? name = some ⟨v, .kept⟩

theorem map_components (w : Vector3) : (components w).map (·.1) = componentNames := rfl

/-- A handle that displays a vector has components that may be changed. -/
theorem Store.Displays.assignable {s : Store} {id : ObjectId} {w : Vector3} (h : s.Displays id w) :
    s.Assignable id := by
  obtain ⟨o, found, own⟩ := h
  refine ⟨o, found, ?_⟩
  intro name mem
  rw [← map_components w] at mem
  obtain ⟨c, listed, rfl⟩ := List.mem_map.1 mem
  exact ⟨c.2, own c listed⟩

/-- What an object displays is read from it. -/
theorem Store.Displays.reads {s : Store} {id : ObjectId} {w : Vector3} (h : s.Displays id w) :
    (marshalOf (.object .vector3)).ofScript s (.object id) = .ok w := by
  obtain ⟨o, found, own⟩ := h
  have single : ∀ (name : String) (x : Single), (name, .number (x.convert .double)) ∈ components w →
      (marshalOf .single).ofScript s (s.property id name) = .ok x := by
    intro name x mem
    rw [Store.property_own found (own _ mem)]
    show Except.ok (Binary.convert .single (Binary.convert .double x)) = .ok x
    rw [Binary.convert_single_double]
  have each : ∀ f ∈ vector3Layout.fields, f.marshal.ofScript s (s.property id f.name) = .ok (f.get w) := by
    intro f mem
    simp only [vector3Layout, List.mem_cons, List.not_mem_nil, or_false] at mem
    rcases mem with rfl | rfl | rfl
    · exact single "x" w.x (by simp [components])
    · exact single "y" w.y (by simp [components])
    · exact single "z" w.z (by simp [components])
  exact Layout.read_of_readAll (Layout.readAll_eq each Vector3.zero)

/-- A mutable handle for a vector displays it. -/
theorem displays_of_shows {w : Vector3} {n : Nat} {s : Store} {id : ObjectId} {o : Object}
    (shows : vector3Layout.Shows .mutable w n s id o) : s.Displays id w := by
  have single : ∀ (name : String) (get : Vector3 → Single) (set : Vector3 → Single → Vector3),
      .of name false get set ∈ vector3Layout.fields →
        o.property? name = some ⟨.number ((get w).convert .double), .kept⟩ := by
    intro name get set mem
    obtain ⟨v, own, made⟩ := shows.field _ mem
    obtain rfl : v = .number ((get w).convert .double) := Made.eq_of_pure made
    exact own
  refine ⟨o, shows.object, ?_⟩
  intro c mem
  simp only [components, List.mem_cons, List.not_mem_nil, or_false] at mem
  rcases mem with rfl | rfl | rfl
  · exact single "x" Vector3.x (fun v x => { v with x := x }) (by simp [vector3Layout])
  · exact single "y" Vector3.y (fun v y => { v with y := y }) (by simp [vector3Layout])
  · exact single "z" Vector3.z (fun v z => { v with z := z }) (by simp [vector3Layout])

/-! ## §2. Publishing. -/

/-- The static field of the constructor is fixed, and its value is the object `z`. -/
def Store.Slot (s : Store) (constructor z : ObjectId) : Prop :=
  ∃ o, s.object? constructor = some o ∧ o.isMutable = false ∧ o.property? "zero" = some ⟨.object z, .fixed⟩

/-- Publishing keeps the slot of the static field. -/
theorem Store.Slot.keeps {s t : Store} {constructor z : ObjectId} (h : s.Slot constructor z)
    (keeps : s.Follows Object.Keeps 0 t) : t.Slot constructor z := by
  obtain ⟨o, found, still, own⟩ := h
  obtain ⟨next, found', step⟩ := keeps constructor o (Nat.zero_le _) found
  refine ⟨next, found', (Object.isMutable_congr step.kind).trans still, ?_⟩
  rw [step.properties "zero" (by decide), own]

/-- Publishing keeps what a handle displays. -/
theorem Store.Displays.keeps {s t : Store} {id : ObjectId} {w : Vector3} (h : s.Displays id w)
    (keeps : s.Follows Object.Keeps 0 t) : t.Displays id w := by
  obtain ⟨o, found, own⟩ := h
  obtain ⟨next, found', step⟩ := keeps id o (Nat.zero_le _) found
  have free : ∀ name ∈ componentNames, name ∉ publishedNames := by decide
  refine ⟨next, found', ?_⟩
  intro c mem
  rw [step.properties c.1 (free c.1 (map_components w ▸ List.mem_map_of_mem mem)), own c mem]

/-- The constructor of vectors has the static field, and the handle behind that displays the zero vector. -/
theorem publishConstructor_slot (prototype : ObjectId) (s : Store) : ∃ z,
    (publishConstructor .vector3 prototype s).2.Slot (publishConstructor .vector3 prototype s).1 z ∧
      (publishConstructor .vector3 prototype s).2.Displays z Vector3.zero := by
  obtain ⟨o, found, kind, fields⟩ := publishConstructor_fields .vector3 prototype s
  obtain ⟨v, own, made⟩ := fields ⟨"zero", .object .vector3, Vector3.zero, true⟩ List.mem_cons_self
  have handle : Made (vector3Layout.make .mutable Vector3.zero) 0 (publishConstructor .vector3 prototype s).2 v := by
    rw [← Layout.toScript_eq_make]
    exact made
  obtain ⟨z, p, rfl, -, shows⟩ := Layout.shows_of_made lawful_vector3 handle
  have still : o.isMutable = false := by
    apply Object.isMutable_eq_false
    rw [kind]
    exact nofun
  exact ⟨z, ⟨o, found, still, own⟩, displays_of_shows shows⟩

/-- **Publishing vectors** makes the fixed property and the handle behind it. -/
theorem register_slot (s : Store) : ∃ constructor z, (register .vector3 s).1 = .object constructor ∧
    (register .vector3 s).2.Slot constructor z ∧ (register .vector3 s).2.Displays z Vector3.zero := by
  obtain ⟨z, slot, displays⟩ := publishConstructor_slot ⟨s.objects.length⟩
    (adopt .vector3 ⟨s.objects.length⟩ (withPrototype .vector3 s))
  have named := name_mem_publishedNames .vector3
  refine ⟨_, z, register_answer .vector3 s, ?_, ?_⟩
  · rw [register_run]
    exact slot.keeps (Store.keeps_define _ _ _ _ named)
  · rw [register_run]
    exact displays.keeps (Store.keeps_define _ _ _ _ named)

/-! ## §3. What every script leaves. -/

/-- Scripts keep the slot of the static field. -/
theorem Store.Slot.ages {s t : Store} {constructor z : ObjectId} (h : s.Slot constructor z)
    (ages : s.Follows Object.Ages 0 t) : t.Slot constructor z := by
  obtain ⟨o, found, still, own⟩ := h
  obtain ⟨next, found', step⟩ := ages constructor o (Nat.zero_le _) found
  exact ⟨next, found', step.isMutable.trans still, step.fixed still "zero" _ own rfl⟩

/-- Properties that may be assigned to but not deleted are there still, with whatever values. -/
def Object.Lasts (o next : Object) : Prop :=
  ∀ name v, o.property? name = some ⟨v, .kept⟩ → ∃ v', next.property? name = some ⟨v', .kept⟩

/-- An object that stays as it is lasts. -/
theorem Object.Lasts.refl (o : Object) : o.Lasts o :=
  fun _ v found => ⟨v, found⟩

/-- A property that may be assigned to keeps its flags. -/
theorem Object.put_kept {o : Object} {name : String} {v : Value} (own : o.property? name = some ⟨v, .kept⟩)
    (value : Value) : o.put name value = .ok (o.define name value .kept) := by
  unfold Object.put
  rw [own]
  rfl

/-- What a script writes into leaves its changeable properties changeable. -/
theorem Object.lasts_put {o next : Object} {name : String} {value : Value} (h : o.put name value = .ok next) :
    o.Lasts next := by
  intro other v own
  by_cases same : other = name
  · subst same
    rw [put_kept own value] at h
    obtain rfl := Except.ok.inj h
    exact ⟨value, by rw [property?_define, if_pos rfl]⟩
  · exact ⟨v, (property?_put h same).trans own⟩

/-- Components that may be changed stay so. -/
theorem Store.Assignable.lasts {s t : Store} {id : ObjectId} (h : s.Assignable id)
    (lasts : s.Follows Object.Lasts 0 t) : t.Assignable id := by
  obtain ⟨o, found, own⟩ := h
  obtain ⟨next, found', step⟩ := lasts id o (Nat.zero_le _) found
  refine ⟨next, found', ?_⟩
  intro name mem
  obtain ⟨v, here⟩ := own name mem
  exact step name v here

/-- Where a class has a field of such a name, it is no constant one. -/
theorem components_mutable (c : ClassName) :
    (Layout.ofClass c).fields.all (fun f => !componentNames.contains f.name || !f.isConst) = true := by
  cases c <;> rfl

/-- On a mutable handle the components of a vector may be changed but not deleted. -/
theorem flags_component {c : ClassName} {f : Field c.Instance} (mem : f ∈ (Layout.ofClass c).fields)
    (component : f.name ∈ componentNames) : f.flags .mutable = .kept := by
  have listed := List.all_eq_true.1 (components_mutable c) f mem
  rw [List.contains_iff_mem.2 component, Bool.not_true, Bool.false_or] at listed
  unfold Field.flags
  rw [Field.isFixed_mutable, if_neg]
  simpa using listed

/-- **Every step leaves the components assignable.** -/
theorem Touched.assignable {s t : Store} {id : ObjectId} (touched : Touched s t) (h : s.Assignable id) :
    t.Assignable id := by
  cases touched with
  | refused => exact h
  | put done => exact h.lasts (Store.follows_tryUpdate Object.Lasts.refl (fun _ _ => Object.lasts_put) done)
  | delete done =>
    refine h.lasts (Store.follows_tryUpdate Object.Lasts.refl ?_ done)
    intro o next deleted name v own
    exact ⟨v, Object.undeletable_of_delete deleted own rfl⟩
  | extended adds => exact h.lasts (adds.objects.of_unchanged Object.Lasts.refl (Nat.le_refl 0))
  | @wrote t c m ref next receiver arguments handle o prepared offered operation read found mutable =>
    obtain ⟨altered, o', shows, others⟩ := Layout.place_shows (Layout.lawful_ofClass c) .mutable
      (next receiver arguments) found (Object.isMutable_iff.1 mutable)
    obtain ⟨p, at_id, own⟩ := h.lasts (prepared.objects.of_unchanged Object.Lasts.refl (Nat.le_refl 0))
    by_cases same : id = handle
    · -- whichever class it is written for, the components are fields of its own or left alone
      subst same
      obtain rfl := Option.some.inj (at_id.symm.trans found)
      refine ⟨o', shows.object, ?_⟩
      intro name mem
      by_cases field : name ∈ (Layout.ofClass c).fields.map (·.name)
      · obtain ⟨f, listed, rfl⟩ := List.mem_map.1 field
        obtain ⟨v, written, -⟩ := shows.field f listed
        rw [flags_component listed mem] at written
        exact ⟨v, written⟩
      · rw [others name field]
        exact own name mem
    · exact ⟨p, altered.others id p same at_id, own⟩

/-! ## §4. Scripts that spare a handle. -/

/-- The step neither assigns to a component on the object nor calls anything on it. -/
def ScriptStep.Spares (id : ObjectId) : ScriptStep → Prop
  | put other name _ => other = id → name ∉ componentNames
  | delete _ _ => True
  | request (.call _ receiver _) => receiver ≠ .object id
  | request (.construct _ _) => True
  | request (.invokeMethod receiver _ _) => receiver ≠ .object id
  | callOrUndefined _ receiver _ => receiver ≠ .object id

/-- A request leaves every object alone that is not its receiver. -/
theorem Request.leaves (r : Request) (depth : Nat) {e : Engine} {id : ObjectId} {o : Object}
    (found : e.store.object? id = some o) (apart : (r.invocation e.store).receiver ≠ .object id) :
    ∃ after result, Engine.run bindings (depth + 1) e r.body = some (after, result) ∧
      after.store.object? id = some o := by
  obtain ⟨s, prepared, extended, -⟩ := r.prepare_extends e
  have still : (r.prepare e).store.object? id = some o := by
    rw [prepared]
    exact extended.object? found
  refine r.run_leaves (P := fun t => t.object? id = some o) depth e still ?_
  intro c m ref effect function offered evaluated
  have committed := Method.Effect.commit_outcome evaluated
  generalize (effect.commit _ _).2 = t at committed ⊢
  cases committed with
  | extended adds => exact adds.object? still
  | @wrote next receiver arguments handle p operation read same at_handle mutable =>
    have altered := (Layout.place_shows (Layout.lawful_ofClass c) .mutable (next receiver arguments) at_handle
      (Object.isMutable_iff.1 mutable)).1
    refine altered.others id o ?_ still
    rintro rfl
    exact apart same

section

variable {s t : Store} {id : ObjectId} {w : Vector3}

/-- A change of properties that leaves the components alone. -/
theorem Store.Displays.tryUpdate (h : s.Displays id w) {other : ObjectId}
    {change : Object → Except PropertyError Object} (done : s.tryUpdate other change = .ok t)
    (step : other = id → ∀ o next, change o = .ok next →
      ∀ c ∈ components w, o.property? c.1 = some ⟨c.2, .kept⟩ → next.property? c.1 = some ⟨c.2, .kept⟩) :
    t.Displays id w := by
  rcases Store.tryUpdate_eq_ok done with rfl | ⟨p, next, here, changed, rfl⟩
  · exact h
  · obtain ⟨o, found, own⟩ := h
    by_cases same : other = id
    · subst same
      obtain rfl := Option.some.inj (here.symm.trans found)
      refine ⟨next, by rw [Store.object?_update, if_pos rfl, here]; rfl, ?_⟩
      intro c mem
      exact step rfl p next changed c mem (own c mem)
    · exact ⟨o, by rw [Store.object?_update, if_neg (fun eq => same eq.symm), found], own⟩

/-- What a step that spares an object calls, it does not call on that object. -/
theorem ScriptStep.Spares.receiver_ne {step : ScriptStep} {o : Object} (spares : step.Spares id) {r : Request}
    (made : step.request? = some r) (there : s.object? id = some o) : (r.invocation s).receiver ≠ .object id := by
  cases step with
  | put other name value => cases made
  | delete other name => cases made
  | callOrUndefined function receiver arguments =>
    obtain rfl := Option.some.inj made
    exact spares
  | request r' =>
    obtain rfl := Option.some.inj made
    cases r' with
    | call function receiver arguments => exact spares
    | invokeMethod receiver name arguments => exact spares
    | construct constructor arguments =>
      -- the receiver is a new object
      intro same
      obtain rfl := Value.object.inj same
      rw [Store.object?_fresh] at there
      cases there

end

/-- **A step that spares the handle** leaves what it displays. -/
theorem ScriptStep.perform_spares (step : ScriptStep) (depth : Nat) {e : Engine} {id : ObjectId} {w : Vector3}
    (h : e.store.Displays id w) (spares : step.Spares id) :
    ∃ after, step.perform (depth + 1) e = some after ∧ after.store.Displays id w := by
  refine step.perform_leaves (P := (Store.Displays · id w)) depth h ?_ ?_ ?_
  · rintro other name value t rfl done
    refine h.tryUpdate done ?_
    intro same o next put c mem own
    have apart : c.1 ≠ name := by
      rintro rfl
      exact spares same (map_components w ▸ List.mem_map_of_mem mem)
    rw [Object.property?_put put apart, own]
  · rintro other name t - done
    exact h.tryUpdate done (fun _ o next deleted c _ own => Object.undeletable_of_delete deleted own rfl)
  · intro r made
    obtain ⟨o, found, own⟩ := h
    obtain ⟨after, result, run, left⟩ := r.leaves depth found (spares.receiver_ne made found)
    exact ⟨after, result, run, o, left, own⟩

/-- **A script that spares the handle** leaves what it displays. -/
theorem performAll_spares {script : List ScriptStep} {id : ObjectId} (spares : ∀ step ∈ script, step.Spares id)
    (depth : Nat) {e : Engine} {w : Vector3} (h : e.store.Displays id w) :
    ∃ after, performAll (depth + 1) e script = some after ∧ after.store.Displays id w := by
  induction script generalizing e with
  | nil => exact ⟨e, rfl, h⟩
  | cons first rest ih =>
    obtain ⟨middle, performed, displays⟩ := first.perform_spares depth h (spares first List.mem_cons_self)
    obtain ⟨after, others, displays'⟩ := ih (fun step mem => spares step (List.mem_cons_of_mem first mem)) displays
    refine ⟨after, ?_, displays'⟩
    rw [performAll, performed]
    exact others

/-! ## §5. Scripts that assign. -/

/-- Assigns the components of a vector to properties of an object. -/
def assign (id : ObjectId) (w : Vector3) : List ScriptStep :=
  (components w).map (fun c => .put id c.1 c.2)

/-- A script that writes to a changeable property succeeds, and the value is there. -/
theorem perform_put {e : Engine} {id : ObjectId} {o : Object} {name : String} {v : Value}
    (found : e.store.object? id = some o) (own : o.property? name = some ⟨v, .kept⟩) (value : Value) (depth : Nat) :
    ∃ after, (ScriptStep.put id name value).perform depth e = some after ∧
      after.store.object? id = some (o.define name value .kept) := by
  have done : e.store.put id name value = .ok (e.store.update id (fun _ => o.define name value .kept)) := by
    unfold Store.put Store.tryUpdate
    rw [found]
    simp only [Object.put_kept own value]
    rfl
  have attempted : (e.attempt (·.put id name value)).store =
      e.store.update id (fun _ => o.define name value .kept) := by
    simp only [Engine.attempt, done]
  refine ⟨_, rfl, ?_⟩
  rw [attempted, Store.object?_update, if_pos rfl, found]
  rfl

/-- Assigning to several properties of an object, one after the other. -/
theorem performAll_assign (depth : Nat) {changes : List (String × Value)} (distinct : (changes.map (·.1)).Nodup)
    {e : Engine} {id : ObjectId} {o : Object} (found : e.store.object? id = some o)
    (own : ∀ c ∈ changes, ∃ v, o.property? c.1 = some ⟨v, .kept⟩) :
    ∃ after next, performAll depth e (changes.map (fun c => .put id c.1 c.2)) = some after ∧
      after.store.object? id = some next ∧ (∀ c ∈ changes, next.property? c.1 = some ⟨c.2, .kept⟩) ∧
      ∀ name, name ∉ changes.map (·.1) → next.property? name = o.property? name := by
  induction changes generalizing e o with
  | nil => exact ⟨e, o, rfl, found, by simp, fun _ _ => rfl⟩
  | cons first rest ih =>
    rw [List.map_cons, List.nodup_cons] at distinct
    obtain ⟨v, here⟩ := own first List.mem_cons_self
    obtain ⟨middle, performed, found'⟩ := perform_put found here first.2 depth
    -- an assignment leaves properties of other names alone
    have left : ∀ name, name ≠ first.1 → (o.define first.1 first.2 .kept).property? name = o.property? name := by
      intro name apart
      rw [Object.property?_define, if_neg apart]
    have apart : ∀ c ∈ rest, c.1 ≠ first.1 := by
      intro c mem same
      exact distinct.1 (same ▸ List.mem_map_of_mem mem)
    have own' : ∀ c ∈ rest, ∃ v, (o.define first.1 first.2 .kept).property? c.1 = some ⟨v, .kept⟩ := by
      intro c mem
      rw [left c.1 (apart c mem)]
      exact own c (List.mem_cons_of_mem first mem)
    obtain ⟨after, next, others, found'', written, same⟩ := ih distinct.2 found' own'
    refine ⟨after, next, ?_, found'', ?_, ?_⟩
    · rw [List.map_cons, performAll, performed]
      exact others
    · intro c mem
      rcases List.mem_cons.1 mem with rfl | mem
      · -- later assignments have other names
        rw [same _ distinct.1, Object.property?_define, if_pos rfl]
      · exact written c mem
    · intro name absent
      rw [List.map_cons, List.mem_cons, not_or] at absent
      rw [same name absent.2, left name absent.1]

/-- **Three assignments suffice** to display any vector. -/
theorem Store.Assignable.assign {e : Engine} {id : ObjectId} (h : e.store.Assignable id) (w : Vector3) (depth : Nat) :
    ∃ after, performAll depth e (Script.assign id w) = some after ∧ after.store.Displays id w := by
  obtain ⟨o, found, own⟩ := h
  have distinct : ((components w).map (·.1)).Nodup := by
    rw [map_components]
    decide
  have kept : ∀ c ∈ components w, ∃ v, o.property? c.1 = some ⟨v, .kept⟩ := by
    intro c mem
    exact own c.1 (map_components w ▸ List.mem_map_of_mem mem)
  obtain ⟨after, next, performed, found', written, -⟩ := performAll_assign depth distinct found kept
  exact ⟨after, performed, next, found', written⟩

/-! ## §6. The static field. -/

/-- What the static field of a constructor is read as. -/
def Store.readZero (s : Store) (constructor : ObjectId) : Except ConvertError Vector3 :=
  (marshalOf (.object .vector3)).ofScript s (s.property constructor "zero")

/-- The slot is what scripts find as `zero`. -/
theorem Store.Slot.property {s : Store} {constructor z : ObjectId} (h : s.Slot constructor z) :
    s.property constructor "zero" = .object z := by
  obtain ⟨o, found, -, own⟩ := h
  exact Store.property_own found own

/-- The static field is read as what its handle displays. -/
theorem Store.Slot.reads {s : Store} {constructor z : ObjectId} {w : Vector3} (slot : s.Slot constructor z)
    (displays : s.Displays z w) : s.readZero constructor = .ok w := by
  unfold readZero
  rw [slot.property]
  exact displays.reads

theorem Engine.useStore_store {α : Type} (e : Engine) (action : StoreM α) :
    (e.useStore action).1.store = (action e.store).2 := rfl

/-- **The slot stays in all runs.** -/
theorem always_slot {e : Engine} {constructor z : ObjectId} (h : e.store.Slot constructor z) :
    e.Always (fun after => after.store.Slot constructor z) :=
  (always_ages e).mono (fun _ ages => h.ages ages)

/-- **The static field is fixed, its value is not.**  On every engine on which vectors were published, and other
classes after them, the constructor has a static field that is read as the zero vector.  Whatever scripts do, the
property stays as it is.  What is read from it stays, too, if the handle behind it is spared; but at any time three
assignments make it any vector. -/
theorem zero_slot_fixed (e start : Engine) (others : List ClassName)
    (published : (e.useStore (registerAll (.vector3 :: others))).1 = start) :
    ∃ constructor z, (register .vector3 e.store).1 = .object constructor ∧
      start.store.readZero constructor = .ok Vector3.zero ∧
      start.Always (fun after => (after.store.object? constructor).bind (·.property? "zero") =
        some ⟨.object z, .fixed⟩) ∧
      (∀ depth script, (∀ step ∈ script, step.Spares z) → ∃ after,
        performAll (depth + 1) start script = some after ∧ after.store.readZero constructor = .ok Vector3.zero) ∧
      start.Always (fun after => ∀ (w : Vector3) (depth : Nat), ∃ changed,
        performAll (depth + 1) after (assign z w) = some changed ∧ changed.store.readZero constructor = .ok w) := by
  obtain ⟨constructor, z, answer, slot, displays⟩ := register_slot e.store
  have keeps := registerAll_keeps others (e.useStore (register .vector3)).1
  rw [← registerAll_cons, published, Engine.useStore_store] at keeps
  replace slot := slot.keeps keeps
  replace displays := displays.keeps keeps
  refine ⟨constructor, z, answer, slot.reads displays, ?_, ?_, ?_⟩
  · apply (always_slot slot).mono
    intro after slot
    obtain ⟨o, found, -, own⟩ := slot
    rw [found]
    exact own
  · intro depth script spares
    obtain ⟨after, performed, displays⟩ := performAll_spares spares depth displays
    obtain ⟨after', performed', slot⟩ := always_slot slot depth script
    obtain rfl := Option.some.inj (performed.symm.trans performed')
    exact ⟨after, performed, slot.reads displays⟩
  -- assignments need the components, so both are kept at once
  · have both : ∀ s t, Touched s t → s.Slot constructor z ∧ s.Assignable z → t.Slot constructor z ∧ t.Assignable z := by
      intro s t touched h
      exact ⟨h.1.ages touched.ages, touched.assignable h.2⟩
    apply (always_of_step both ⟨slot, displays.assignable⟩).mono
    intro after h w depth
    obtain ⟨changed, performed, displays⟩ := h.2.assign w (depth + 1)
    obtain ⟨changed', performed', slot⟩ := always_slot h.1 depth (assign z w)
    obtain rfl := Option.some.inj (performed.symm.trans performed')
    exact ⟨changed, performed, slot.reads displays⟩

/-- A vector other than zero. -/
def fives : Vector3 :=
  vectorOf 5 5 5

/-- A script that tries to delete a component, and one that assigns to all of them. -/
theorem zero_slot_fixed_bound : ∃ constructor z after changed,
    (register .vector3 (Engine.new true).store).1 = .object constructor ∧
    performAll 1 Engine.bound [.delete z "x", .put z "w" (.bool true)] = some after ∧
    after.store.readZero constructor = .ok Vector3.zero ∧
    performAll 1 Engine.bound (assign z fives) = some changed ∧ changed.store.readZero constructor = .ok fives := by
  obtain ⟨constructor, z, answer, -, -, spared, assigned⟩ :=
    zero_slot_fixed (Engine.new true) Engine.bound ClassName.all.tail rfl
  have spares : ∀ step ∈ [ScriptStep.delete z "x", .put z "w" (.bool true)], step.Spares z := by
    intro step mem
    simp only [List.mem_cons, List.not_mem_nil, or_false] at mem
    rcases mem with rfl | rfl
    · trivial
    · intro _
      decide
  obtain ⟨after, performed, reads⟩ := spared 0 _ spares
  obtain ⟨start, nothing, writes⟩ := assigned 0 []
  obtain rfl : Engine.bound = start := Option.some.inj nothing
  obtain ⟨changed, performed', reads'⟩ := writes fives 0
  exact ⟨constructor, z, after, changed, answer, performed, reads, performed', reads'⟩

/-- One assignment to a component is enough to change what the constant field is read as. -/
theorem zero_overwritten : ∃ constructor z after,
    Engine.bound.store.property Engine.bound.store.global "Vector3" = .object constructor ∧
    Engine.bound.store.property constructor "zero" = .object z ∧
    Engine.bound.store.readZero constructor = .ok Vector3.zero ∧
    performAll 1 Engine.bound [.put z "x" (.count 5)] = some after ∧
    after.store.readZero constructor ≠ .ok Vector3.zero := by
  -- objects 6 and 8 are the constructor of vectors and the zero vector behind its field
  have before : (Engine.bound.store.readZero ⟨6⟩).toOption = some Vector3.zero := by decide +kernel
  have overwritten : (performAll 1 Engine.bound [.put ⟨8⟩ "x" (.count 5)]).any
      (fun after => (after.store.readZero ⟨6⟩).toOption ≠ some Vector3.zero) = true := by decide +kernel
  obtain ⟨after, performed, differs⟩ := (Option.any_eq_true _ _).1 overwritten
  refine ⟨⟨6⟩, ⟨8⟩, after, by decide +kernel, by decide +kernel, ?_, performed, ?_⟩
  · cases read : Engine.bound.store.readZero ⟨6⟩ with
    | error e =>
      rw [read] at before
      exact nomatch before
    | ok w =>
      rw [read] at before
      rw [Option.some.inj before]
  · intro same
    rw [same] at differs
    exact absurd rfl (of_decide_eq_true differs)

end ScriptBridge.Script
