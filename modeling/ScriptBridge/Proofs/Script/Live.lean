import ScriptBridge.Proofs.Script.Publication

/-!
# ScriptBridge.Proofs.Script.Live

Values whose objects are there.

An object value is no more than the number of an object, and a value is `Live` in a store if there is an object of that
number.  Since objects are never removed, values stay so.

Main results:
  * `Store.Live.of_length_le` - a value stays live as long as no object is removed;
  * `Convert.live_toScript` - what native values are converted to is live;
  * `live_publishConstructor` - and so is the constructor of a class that is published.
-/

namespace ScriptBridge.Script

open ScriptBridge.Native

/-! ## §1. Live values. -/

namespace Store

/-- The object that the value names is there, if it names one. -/
def Live (s : Store) : Value → Prop
  | .object id => (s.object? id).isSome = true
  | _ => True

instance (s : Store) : DecidablePred s.Live
  | .object id => inferInstanceAs (Decidable ((s.object? id).isSome = true))
  | .undefined | .bool _ | .number _ | .string _ => inferInstanceAs (Decidable True)

variable {s t : Store} {id : ObjectId} {v : Value}

theorem live_object_iff : s.Live (.object id) ↔ id.index < s.objects.length :=
  object?_isSome_iff

theorem live_of_found {o : Object} (found : s.object? id = some o) : s.Live (.object id) :=
  Option.isSome_iff_exists.2 ⟨o, found⟩

/-- **A value stays live as long as no object is removed.** -/
theorem Live.of_length_le (live : s.Live v) (more : s.objects.length ≤ t.objects.length) : t.Live v := by
  cases v with
  | object id => exact live_object_iff.2 (Nat.lt_of_lt_of_le (live_object_iff.1 live) more)
  | _ => exact trivial

theorem Live.extend (live : s.Live v) (extended : s.Extends t) : t.Live v :=
  live.of_length_le extended.objects.length_le

end Store

/-! ## §2. What is made is live. -/

theorem live_writeList {α : Type} {convert : α → StoreM Value} (flags : Flags) (elements : List α)
    (extends_convert : ∀ a (s : Store), s.Extends (convert a s).2) (s : Store) :
    (writeList convert flags elements s).2.Live (writeList convert flags elements s).1 := by
  obtain ⟨-, o, shows⟩ := writeList_shows flags elements extends_convert s
  rw [writeList_run]
  exact Store.live_of_found shows.object

theorem Layout.live_make {c : ClassName} {l : Layout c} (lawful : l.Lawful) (kind : HandleKind) (a : c.Instance)
    (s : Store) : (l.make kind a s).2.Live (l.make kind a s).1 := by
  obtain ⟨-, o, shows, -⟩ := make_shows lawful kind a s
  rw [make_run] at shows ⊢
  exact Store.live_of_found shows.object

theorem live_shareToScript {c : ClassName} (cell : Cell c) (s : Store) :
    (shareToScript cell s).2.Live (shareToScript cell s).1 := by
  cases content : s.content? cell with
  | none =>
    rw [shareToScript_none content]
    exact trivial
  | some a =>
    have made := Layout.live_make (Layout.lawful_ofClass c) .mutable a s
    rw [shareToScript_run cell content]
    rw [Layout.make_run] at made ⊢
    -- remembering the cell changes the handle, but adds and removes no object
    refine made.of_length_le ?_
    unfold rememberCell
    split
    · simp only [Store.attach, Store.setPrototype, Store.update, List.length_modify, Nat.le_refl]
    · simp only [Store.attach, Store.update, List.length_modify, Nat.le_refl]

/-- **What native values are converted to is live.** -/
theorem Convert.live_toScript (τ : NativeType) (constant : Bool) (data : τ.Data) (s : Store) :
    (Convert.toScript τ constant data s).2.Live (Convert.toScript τ constant data s).1 := by
  cases τ with
  | shared c => exact live_shareToScript data s
  | value type =>
    cases type with
    | list element =>
      rw [toScript_list]
      exact live_writeList _ data (toScript_extends (.value element) constant) s
    | object c =>
      rw [toScript_object]
      exact Layout.live_make (Layout.lawful_ofClass c) _ data s
    | _ => cases constant <;> exact trivial

theorem live_newFunction (name : String) (ref : FunctionRef) (length : Nat) (s : Store) :
    (Engine.newFunction name ref length s).2.Live (.object (Engine.newFunction name ref length s).1) := by
  obtain ⟨-, id, o, found, -⟩ := newFunction_shows name ref length s
  rw [id]
  exact Store.live_of_found found

/-- The prototype of a class that is published is live when handles get it. -/
theorem live_adopt (c : ClassName) (s : Store) :
    (adopt c ⟨s.objects.length⟩ (withPrototype c s)).Live (.object ⟨s.objects.length⟩) := by
  obtain ⟨-, o, found, -⟩ := withPrototype_shows c s
  have numbered := (Store.live_of_found found).extend (Store.extends_enlist _ (.value (.object c)))
  have defined := Store.alters_define ((withPrototype c s).enlist (.value (.object c))) ⟨s.objects.length⟩ "metaTypeId"
    (.count ((withPrototype c s).typeNumber (.value (.object c))).1) .none
  exact numbered.of_length_le defined.length_le

/-- **The constructor of a class that is published is live.** -/
theorem live_publishConstructor (c : ClassName) (prototype : ObjectId) (s : Store) :
    (publishConstructor c prototype s).2.Live (.object (publishConstructor c prototype s).1) := by
  obtain ⟨o, found, -⟩ := publishConstructor_fields c prototype s
  exact Store.live_of_found found

end ScriptBridge.Script
