import ScriptBridge.Proofs.Script.CompleteHandle
import ScriptBridge.Proofs.Script.ReceiverClass

/-!
# ScriptBridge.Proofs.Script.HandleInvariant

What handles are like, whatever happened before.

Hosts publish classes, convert values in either direction and share cells; scripts assign to properties, delete them and
call.  In a run of any such events handles stay what they are, and at any time every handle has all the fields of its
class as properties that cannot be deleted, and that cannot be changed either if the field is constant or the handle a
snapshot.  So it is never for want of a field that a handle cannot be read.  If it cannot, there is a value on it for
which a script is to blame (`Faulty`): one that a script stored in the field although it has not the type of the field,
or a list that a script spoiled.  Lists are no handles, and their elements can be deleted; so a script need not store
anything to keep a handle from being read (`read_fails_after_delete`).

Main results:
  * `Event.follows` - what an event does to the objects that are there already;
  * `Event.leaves_complete`, `Run.complete` - what one event and what all of them leave of handles;
  * `Run.lasting` - what objects are never changes;
  * `faulty_of_read_eq_error` - why a handle cannot be read;
  * `Run.keeps_handles` - all this of any run.
-/

namespace ScriptBridge.Script

open ScriptBridge.Native

/-! ## §1. Runs. -/

/-- What can happen to an engine. -/
inductive Event where
  /-- The host publishes a class. -/
  | register (c : ClassName)
  /-- The host converts a native value to a script value, to a constant one if `constant` says so. -/
  | convert (τ : NativeType) (constant : Bool) (data : τ.Data)
  /-- The host converts a script value to a native one. -/
  | read (τ : NativeType) (v : Value)
  /-- The host makes a shared cell. -/
  | newCell (c : ClassName) (content : c.Instance)
  /-- The host changes the content of a shared cell. -/
  | setContent (c : ClassName) (cell : Cell c) (content : c.Instance)
  /-- A script takes a step. -/
  | script (step : ScriptStep)

/-- What an event makes of an engine, with at most `depth` calls nested in each other. -/
def Event.perform (depth : Nat) (e : Engine) : Event → Option Engine
  | register c => some (e.useStore (Script.register c)).1
  | convert τ constant data => some (e.useStore (Convert.toScript τ constant data)).1
  | read τ v => some (e.useStore (Convert.ofScript τ v)).1
  | newCell c content => some (e.useStore (·.newCell c content)).1
  | setContent _ cell content => some { e with store := e.store.setContent cell content }
  | script step => step.perform depth e

/-- The events that happened so far, the last one first, each with the engine that it happened to. -/
abbrev History := List (Engine × Event)

/-- An engine after the events of a history, from a new engine on. -/
inductive Run (reporting : Bool) : History → Engine → Prop where
  | start : Run reporting [] (.new reporting)
  | step {history : History} {e after : Engine} {event : Event} {depth : Nat} (run : Run reporting history e)
      (performed : event.perform (depth + 1) e = some after) : Run reporting ((e, event) :: history) after

/-- Every event can happen to every engine. -/
theorem Event.exists_perform (event : Event) (depth : Nat) (e : Engine) :
    ∃ after, event.perform (depth + 1) e = some after := by
  cases event with
  | script step =>
    obtain ⟨after, performed, -⟩ := step.perform_touched depth e
    exact ⟨after, performed⟩
  | _ => exact ⟨_, rfl⟩

/-- **What an event does to the objects that are there already** is what publishing a class does, or what a step of a
script does, or nothing. -/
theorem Event.follows {r : Object → Object → Prop} {e after : Engine} {event : Event} {depth : Nat}
    (reflexive : ∀ o, r o o)
    (publication : ∀ c, event = .register c → e.store.Follows r 0 (Script.register c e.store).2)
    (step : Touched e.store after.store → e.store.Follows r 0 after.store)
    (performed : event.perform (depth + 1) e = some after) : e.store.Follows r 0 after.store := by
  cases event with
  | register c =>
    obtain rfl := Option.some.inj performed
    exact publication c rfl
  | convert τ constant data =>
    obtain rfl := Option.some.inj performed
    exact (Convert.toScript_extends τ constant data e.store).objects.of_unchanged reflexive (Nat.le_refl 0)
  | read τ v =>
    obtain rfl := Option.some.inj performed
    exact .of_objects (Convert.ofScript_keeps τ v e.store).1 reflexive
  | newCell c content =>
    obtain rfl := Option.some.inj performed
    exact .of_objects rfl reflexive
  | setContent c cell content =>
    obtain rfl := Option.some.inj performed
    exact .of_objects rfl reflexive
  | script step' =>
    obtain ⟨after', performed', touched⟩ := step'.perform_touched depth e
    obtain rfl := Option.some.inj (performed.symm.trans performed')
    exact step touched

/-- So there is a run of any events. -/
theorem exists_run (reporting : Bool) (events : List Event) :
    ∃ history e, Run reporting history e ∧ history.map (·.2) = events := by
  induction events with
  | nil => exact ⟨[], _, .start, rfl⟩
  | cons event rest ih =>
    obtain ⟨history, e, run, happened⟩ := ih
    obtain ⟨after, performed⟩ := event.exists_perform 0 e
    exact ⟨(e, event) :: history, after, .step run performed, by rw [List.map_cons, happened]⟩

/-! ## §2. Who is to blame. -/

/-- The step of a script spoils a list with elements of a type: it puts a length or an element of another type onto it,
or deletes its length or an element. -/
inductive ScriptStep.Spoils (s : Store) (σ : ValueType) (list : ObjectId) : ScriptStep → Prop where
  | length {value : Value} {t : Store} (done : s.put list lengthName value = .ok t) :
      Spoils s σ list (.put list lengthName value)
  | element {i : Nat} {value : Value} {t : Store} (done : s.put list (indexName i) value = .ok t)
      (misfit : ¬s.Fits σ value) : Spoils s σ list (.put list (indexName i) value)
  | deleted {name : String} {t : Store} (done : s.delete list name = .ok t) (part : IsListName name) :
      Spoils s σ list (.delete list name)

/-- A script is to blame for the value of a field on a handle. -/
inductive Blamed (history : History) (id : ObjectId) (p : PublicField) : Value → Prop where
  /-- It stored the value in the field, although it had not the type of the field. -/
  | stored {before : Engine} {v : Value} {t : Store} (happened : (before, .script (.put id p.name v)) ∈ history)
      (done : before.store.put id p.name v = .ok t) (misfit : ¬before.store.Fits p.type v) : Blamed history id p v
  /-- The value is a list, and the script spoiled it. -/
  | spoiled {before : Engine} {step : ScriptStep} {list : ObjectId} {σ : ValueType} (type : p.type = .list σ)
      (happened : (before, .script step) ∈ history) (spoils : step.Spoils before.store σ list) :
      Blamed history id p (.object list)

/-- What a script is to blame for, it stays to blame for. -/
theorem Blamed.later {history : History} {id : ObjectId} {p : PublicField} {v : Value} (blamed : Blamed history id p v)
    (last : Engine × Event) : Blamed (last :: history) id p v := by
  cases blamed with
  | stored happened done misfit => exact .stored (List.mem_cons_of_mem _ happened) done misfit
  | spoiled type happened spoils => exact .spoiled type (List.mem_cons_of_mem _ happened) spoils

/-! ## §3. Handles are complete. -/

/-- What steps of scripts leave of handles. -/
theorem ScriptStep.leaves_complete {history : History} {e after : Engine} {step : ScriptStep} {depth : Nat}
    (performed : step.perform (depth + 1) e = some after) (complete : e.store.CompleteFrom (Blamed history) 0) :
    after.store.CompleteFrom (Blamed ((e, .script step) :: history)) 0 := by
  have later : ∀ id p v, Blamed history id p v → Blamed ((e, .script step) :: history) id p v :=
    fun _ _ _ blamed => blamed.later _
  have happened : (e, Event.script step) ∈ (e, Event.script step) :: history := List.mem_cons_self
  have leaves : ∃ after, step.perform (depth + 1) e = some after ∧
      after.store.CompleteFrom (Blamed ((e, .script step) :: history)) 0 := by
    refine step.perform_leaves depth (complete.mono later) ?_ ?_ ?_
    · rintro id name value t rfl done
      refine complete.put done later ?_ ?_
      · rintro p rfl misfit
        exact .stored happened done misfit
      · rintro other p σ type (rfl | ⟨i, rfl, misfit⟩)
        · exact .spoiled type happened (.length done)
        · exact .spoiled type happened (.element done misfit)
    · rintro id name t rfl done
      exact complete.delete done later (fun other p σ type part => .spoiled type happened (.deleted done part))
    · -- calls are to blame for nothing
      intro r _
      obtain ⟨after, result, run, complete'⟩ := r.leaves_complete depth complete
      exact ⟨after, result, run, complete'.mono later⟩
  obtain ⟨after', performed', complete'⟩ := leaves
  obtain rfl := Option.some.inj (performed.symm.trans performed')
  exact complete'

/-- **What one event leaves of handles.** -/
theorem Event.leaves_complete {history : History} {e after : Engine} {event : Event} {depth : Nat}
    (performed : event.perform (depth + 1) e = some after) (complete : e.store.CompleteFrom (Blamed history) 0) :
    after.store.CompleteFrom (Blamed ((e, event) :: history)) 0 := by
  -- what is excused stays so; only steps of scripts add to it
  have complete' : e.store.CompleteFrom (Blamed ((e, event) :: history)) 0 :=
    complete.mono (fun _ _ _ blamed => blamed.later _)
  cases event with
  | register c =>
    obtain rfl := Option.some.inj performed
    have stays := register_stays c e.store
    exact complete'.follows (stays.mono Object.Stays.toFirm (Nat.le_refl 0)) stays (completes_register c _ e.store)
  | convert τ constant data =>
    obtain rfl := Option.some.inj performed
    exact complete'.extend (Convert.toScript_extends τ constant data e.store)
      (completes_toScript τ constant data _ e.store)
  | read τ v =>
    obtain rfl := Option.some.inj performed
    exact complete'.congr (Convert.ofScript_keeps τ v e.store).1
  | newCell c content =>
    obtain rfl := Option.some.inj performed
    exact complete'.congr rfl
  | setContent c cell content =>
    obtain rfl := Option.some.inj performed
    exact complete'.congr rfl
  | script step => exact ScriptStep.leaves_complete performed complete

/-- **Whatever happened, handles are complete**, apart from what scripts are to blame for. -/
theorem Run.complete {reporting : Bool} {history : History} {e : Engine} (run : Run reporting history e) :
    e.store.CompleteFrom (Blamed history) 0 := by
  induction run with
  | start =>
    -- there is nothing but the global object
    apply completeFrom_of_untyped
    intro id o _ found
    have first := Store.index_lt_of_object? found
    obtain rfl : id = ⟨0⟩ := congrArg ObjectId.mk (Nat.lt_one_iff.1 first)
    obtain rfl := Option.some.inj found
    rfl
  | step run performed ih => exact Event.leaves_complete performed ih

/-! ## §4. Objects stay what they are. -/

/-- The object is of the same kind, and was made for the same type. -/
def Object.Same (o next : Object) : Prop :=
  next.kind = o.kind ∧ next.nativeType = o.nativeType

theorem Object.Same.refl (o : Object) : o.Same o :=
  ⟨rfl, rfl⟩

theorem Object.Same.trans {o p q : Object} (first : o.Same p) (second : p.Same q) : o.Same q :=
  ⟨second.1.trans first.1, second.2.trans first.2⟩

/-- What one event leaves of objects. -/
theorem Event.leaves_same {e after : Engine} {event : Event} {depth : Nat}
    (performed : event.perform (depth + 1) e = some after) : e.store.Follows Object.Same 0 after.store := by
  refine Event.follows Object.Same.refl (fun c _ => ?_) (fun touched => ?_) performed
  · exact (register_stays c e.store).mono (fun stays => ⟨stays.kind, stays.nativeType⟩) (Nat.le_refl 0)
  · exact touched.ages.mono (fun ages => ⟨ages.kind, ages.nativeType⟩) (Nat.le_refl 0)

/-- **What objects are never changes.** -/
theorem Run.lasting {reporting : Bool} {history : History} {e : Engine} (run : Run reporting history e) :
    ∀ before ∈ history, before.1.store.Follows Object.Same 0 e.store := by
  induction run with
  | start => exact fun before none => absurd none List.not_mem_nil
  | @step history e after event depth run performed ih =>
    intro before mem
    have last := Event.leaves_same performed
    rcases List.mem_cons.1 mem with rfl | earlier
    · exact last
    · exact (ih before earlier).trans Object.Same.trans last

/-! ## §5. Why handles cannot be read. -/

/-- A script is to blame for a handle that was made for a class: for the value of one of its fields, or for a handle
that is such a value.  Beside that there may be a list with more elements than script numbers count. -/
inductive Faulty (history : History) (s : Store) : ClassName → ObjectId → Prop where
  | here {c : ClassName} {id : ObjectId} {o : Object} {p : PublicField} {own : Property} (found : s.object? id = some o)
      (field : p ∈ publicFields c) (stands : o.property? p.name = some own) (blamed : Blamed history id p own.value) :
      Faulty history s c id
  | overlong {c : ClassName} {id list : ObjectId} {o elements : Object} {p : PublicField} {own : Property}
      (found : s.object? id = some o) (field : p ∈ publicFields c) (stands : o.property? p.name = some own)
      (value : own.value = .object list) (found' : s.object? list = some elements) (long : elements.IsOverlong) :
      Faulty history s c id
  | inside {c d : ClassName} {id part : ObjectId} {o inner : Object} {p : PublicField} {own : Property}
      (found : s.object? id = some o) (field : p ∈ publicFields c) (stands : o.property? p.name = some own)
      (value : own.value = .object part) (found' : s.object? part = some inner)
      (type : inner.nativeType = some (.value (.object d))) (faulty : Faulty history s d part) : Faulty history s c id

/-- Some field is to blame. -/
theorem Field.Blames.exists_field {α : Type} {s : Store} {handle : ObjectId} {fields : List (Field α)}
    {e : ConvertError} (blames : Blames s handle fields e) :
    ∃ f ∈ fields, ∃ cause, f.marshal.ofScript s (s.property handle f.name) = .error cause := by
  induction blames with
  | here failed => exact ⟨_, List.mem_cons_self, _, failed⟩
  | later _ _ ih =>
    obtain ⟨f, mem, failed⟩ := ih
    exact ⟨f, List.mem_cons_of_mem _ mem, failed⟩

/-- **Why a handle cannot be read**: a script is to blame. -/
theorem faulty_of_read_eq_error {history : History} {s : Store} (complete : s.CompleteFrom (Blamed history) 0)
    {c : ClassName} {id : ObjectId} {o : Object} (found : s.object? id = some o)
    (made : o.nativeType = some (.value (.object c))) {base : c.Instance} {error : ConvertError}
    (failed : (Layout.ofClass c).read s (.object id) base = .error error) : Faulty history s c id := by
  -- the field that cannot be converted stands on the handle
  obtain ⟨kind, -, fields⟩ := complete id o c (Nat.zero_le _) found made
  cases (Layout.read_eq_error_iff base).1 failed with
  | noObject other => exact absurd rfl (other id)
  | field blames =>
    obtain ⟨f, mem, cause, failed⟩ := blames.exists_field
    obtain ⟨p, field, is⟩ := exists_right_of_mem (fields_are_public c) mem
    obtain ⟨v, stands, fits | blamed⟩ := fields p field
    case inr => exact .here found field stands blamed
    have converted : ∃ cause, (marshalOf p.type).ofScript s v = .error cause := by
      rw [is.name_eq, Store.property_own found stands] at failed
      cases is
      exact ⟨cause, failed⟩
    obtain ⟨cause, converted⟩ := converted
    rcases fits.of_error (isShallow_type field) converted with
      ⟨list, elements, rfl, found', long⟩ | ⟨d, part, inner, deeper, rfl, found', type, read⟩
    · exact .overlong found field stands rfl found' long
    · exact .inside found field stands rfl found' type (faulty_of_read_eq_error complete found' type read)
termination_by c.depth

/-! ## §6. All of it. -/

/-- What is true of handles after the events of a history. -/
structure Engine.KeepsHandles (history : History) (e : Engine) : Prop where
  /-- On a handle that was made for a class every field of the class is a property of its own that cannot be deleted,
  and that can be changed only if the field is not constant and the handle mutable. -/
  declared : ∀ id o c, e.store.object? id = some o → o.nativeType = some (.value (.object c)) →
    ∃ kind, o.kind = .handle kind ∧ ∀ f ∈ (Layout.ofClass c).fields, ∃ p, o.property? f.name = some p ∧
      p.flags.undeletable = true ∧ (p.flags.readOnly = true ↔ f.isConst = true ∨ kind = .snapshot)
  /-- Every object is of the kind, and made for the type, that it was of and made for at any time before. -/
  lasting : ∀ before event, (before, event) ∈ history → ∀ id o, before.store.object? id = some o →
    ∃ next, e.store.object? id = some next ∧ next.kind = o.kind ∧ next.nativeType = o.nativeType
  /-- If a handle that was made for a class cannot be read as an instance, then a script is to blame. -/
  read : ∀ id o c, e.store.object? id = some o → o.nativeType = some (.value (.object c)) →
    ∀ base error, (Layout.ofClass c).read e.store (.object id) base = .error error → Faulty history e.store c id

/-- **Whatever happened, handles are as they were made.**  They stay handles of their kind and class with all the fields
of the class, and only scripts are to blame for those that cannot be read. -/
theorem Run.keeps_handles {reporting : Bool} {history : History} {e : Engine} (run : Run reporting history e) :
    e.KeepsHandles history where
  declared := by
    intro id o c found made
    obtain ⟨kind, handle, fields⟩ := run.complete id o c (Nat.zero_le _) found made
    refine ⟨kind, handle, fun f mem => ?_⟩
    obtain ⟨p, field, is⟩ := exists_right_of_mem (fields_are_public c) mem
    obtain ⟨v, own, -⟩ := fields p field
    rw [is.name_eq, is.isConst_eq]
    exact ⟨_, own, p.undeletable_flags kind, p.readOnly_flags kind⟩
  lasting := fun before event mem id o found => run.lasting (before, event) mem id o (Nat.zero_le _) found
  read := fun _ _ _ found made _ _ failed => faulty_of_read_eq_error run.complete found made failed

/-! ## §7. Placements that cannot be read. -/

/-- A placement with a tag. -/
def taggedTransform : Transform :=
  { Transform.fresh with tags := ["dim"] }

/-- The host converts it. -/
def Event.convertTagged : Event :=
  .convert (.value (.object .transform)) false taggedTransform

/-- A new engine with the placement on it, as the object with number 1.  Its tags are the object with number 4. -/
def Engine.withTagged : Engine :=
  ((Engine.new true).useStore (Convert.toScript (.value (.object .transform)) false taggedTransform)).1

theorem run_withTagged : Run true [(.new true, .convertTagged)] .withTagged := by
  have performed : Event.convertTagged.perform 1 (.new true) = some .withTagged := rfl
  exact .step .start performed

/-- A script stores a text in the place of the scale. -/
theorem Run.keeps_handles_misfit :
    let history : History := [(.withTagged, .script (.put ⟨1⟩ "scale" (.string "wide"))), (.new true, .convertTagged)]
    ∃ e, Run true history e ∧
      (∃ error, (Layout.ofClass .transform).read e.store (.object ⟨1⟩) Transform.fresh = .error error) ∧
      e.KeepsHandles history := by
  have performed : (Event.script (.put ⟨1⟩ "scale" (.string "wide"))).perform 1 .withTagged =
    some (Engine.withTagged.attempt (·.put ⟨1⟩ "scale" (.string "wide"))) := rfl
  have run := run_withTagged.step performed
  exact ⟨_, run, exists_error (by decide +kernel), Run.keeps_handles run⟩

/-- A script deletes the tag.  It has stored nothing, but the placement cannot be read any more. -/
theorem read_fails_after_delete :
    let history : History := [(.withTagged, .script (.delete ⟨4⟩ (indexName 0))), (.new true, .convertTagged)]
    ∃ e o, Run true history e ∧ (∀ happened ∈ history, ∀ id name v, happened.2 ≠ .script (.put id name v)) ∧
      e.store.object? ⟨1⟩ = some o ∧ o.nativeType = some (.value (.object .transform)) ∧
      ∃ error, (Layout.ofClass .transform).read e.store (.object ⟨1⟩) Transform.fresh = .error error := by
  have performed : (Event.script (.delete ⟨4⟩ (indexName 0))).perform 1 .withTagged =
    some (Engine.withTagged.attempt (·.delete ⟨4⟩ (indexName 0))) := rfl
  have run := run_withTagged.step performed
  have made : ((Engine.withTagged.attempt (·.delete ⟨4⟩ (indexName 0))).store.object? ⟨1⟩).any
    (·.nativeType == some (.value (.object .transform))) = true := by decide +kernel
  obtain ⟨o, found, type⟩ := (Option.any_eq_true _ _).1 made
  refine ⟨_, o, run, ?_, found, eq_of_beq type, exists_error (by decide +kernel)⟩
  rintro happened (_ | ⟨_, _ | ⟨_, none⟩⟩) id name v
  · exact nofun
  · exact nofun
  · cases none

end ScriptBridge.Script
