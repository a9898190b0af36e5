import ScriptBridge.Proofs.Script.Calls

/-!
# ScriptBridge.Proofs.Script.ReceiverFrame

What a successful call may change.

Of the objects that were there before, a call changes at most its receiver.  The receiver has to be a mutable handle,
the called function has to be one of the five that change their receiver (`changingMethods`), and what changes are the
properties for the public fields of the class of that function and, if its handles carry whole instances, the
instance that is attached.  The class of the handle itself plays no part in this.

Main results:
  * `Layout.place_rewrites` - what writing an instance back makes of an object;
  * `Method.Offered.changing` - the functions that change their receiver;
  * `Request.succeeded_framed` - the frame of a successful call.
-/

namespace ScriptBridge.Script

open ScriptBridge.Native

/-! ## §1. Rewritten objects. -/

/-- What writing an instance back makes of an object: it stays what it is, only properties for public fields of the
class change, and only the instance of the class that is attached to it, if the class attaches instances. -/
structure Object.Rewritten (c : ClassName) (o next : Object) : Prop where
  kind : next.kind = o.kind
  nativeType : next.nativeType = o.nativeType
  prototype : next.prototype = o.prototype
  properties : ∀ name, name ∉ (Layout.ofClass c).fields.map (·.name) → next.property? name = o.property? name
  payloads : ∀ type, ((Layout.ofClass c).whole = true → type ≠ .value (.object c)) → next.data? type = o.data? type

/-- Writing an instance onto an object rewrites that and leaves all others alone. -/
theorem Layout.place_rewrites {c : ClassName} (kind : HandleKind) (a : c.Instance) {handle : ObjectId} {s : Store}
    {o : Object} (found : s.object? handle = some o) :
    s.Alters handle ((Layout.ofClass c).place kind a handle s).2 ∧
      ∃ next, ((Layout.ofClass c).place kind a handle s).2.object? handle = some next ∧ o.Rewritten c next := by
  have lawful := Layout.lawful_ofClass c
  obtain ⟨altered, next, found_next, written⟩ :=
    forM_writeProperty Field.name (Field.flags · kind)
      (fun f mem => Field.convert_extends (lawful.fields f mem) kind a) lawful.distinct found
  obtain ⟨same, found_same, same_kind, nativeType, prototype⟩ := altered.own o found
  obtain rfl := Option.some.inj (found_next.symm.trans found_same)
  have unattached : ∀ type, next.data? type = o.data? type := by
    intro type
    rw [Object.data?, Object.data?, written.payloads]
  rw [place_run, carry_run]
  by_cases whole : (Layout.ofClass c).whole = true
  · rw [if_pos whole]
    refine ⟨altered.trans (Store.alters_attach _ handle _), _, Store.object?_attach_self _ found_next, ?_⟩
    refine ⟨same_kind, nativeType, prototype, written.others, ?_⟩
    intro type other
    -- the attached instance takes the place of one of its own type only
    rw [Object.data?_attach_of_ne (fun same_type => other whole same_type.symm), unattached]
  · rw [if_neg whole]
    exact ⟨altered, next, found_next, same_kind, nativeType, prototype, written.others, fun type _ => unattached type⟩

/-! ## §2. Functions that change their receiver. -/

/-- Whether an operation changes its receiver. -/
def Operation.isChange {c : ClassName} {parameters : List ValueType} : Operation c parameters → Bool
  | .change _ => true
  | _ => false

/-- The methods that change their receiver. -/
def changingMethods : List (ClassName × String) :=
  [(.vector3, "Normalize"), (.vector3, "Scale"), (.transform, "Translate"), (.entity, "Rename"), (.payload, "Fill")]

/-- The function is one that changes a receiver of the class. -/
def FunctionRef.Changes (ref : FunctionRef) (c : ClassName) : Prop :=
  ∃ name, ref = .method c name ∧ (c, name) ∈ changingMethods

/-- No constructor changes a receiver. -/
theorem constructors_isChange (c : ClassName) :
    (Interface.ofClass c).constructors.all (fun m => !m.operation.isChange) = true := by
  cases c <;> rfl

/-- All methods of one name change their receiver, or none does. -/
theorem methods_isChange (c : ClassName) :
    (Interface.ofClass c).methods.all (fun set =>
      set.all.all (fun m => m.operation.isChange == changingMethods.contains (c, set.name))) = true := by
  cases c <;> decide +kernel

/-- A function that offers a change is one of the five. -/
theorem Method.Offered.changing {c : ClassName} {m : Method c} {ref : FunctionRef} (offered : m.Offered ref)
    {next : c.Instance → Arguments m.parameters → c.Instance} (operation : m.operation = .change next) :
    ref.Changes c := by
  have changes : m.operation.isChange = true := by
    rw [operation]
    rfl
  -- no constructor changes anything, and methods that do are listed
  cases offered with
  | constructor mem =>
    have still := List.all_eq_true.1 (constructors_isChange c) m mem
    rw [changes] at still
    exact nomatch still
  | @method name set found mem =>
    have named : set.name = name := by
      have matched := List.find?_some found
      exact eq_of_beq matched
    have same := List.all_eq_true.1 (methods_isChange c) set (List.mem_of_find?_eq_some found)
    have listed := List.all_eq_true.1 same m mem
    rw [changes, named] at listed
    exact ⟨name, rfl, List.contains_iff_mem.1 (eq_of_beq listed).symm⟩

/-! ## §3. Successful requests. -/

/-- What a successful request leaves of the objects that were there before. -/
structure Request.Framed (r : Request) (e after : Engine) : Prop where
  /-- Nothing happens to any object but the receiver. -/
  others : ∀ id o, (r.invocation e.store).receiver ≠ .object id → e.store.object? id = some o →
    after.store.object? id = some o
  /-- Nothing happens to the receiver either, unless it is a mutable handle, the called function changes its receiver,
  and the receiver is rewritten for the class of that function. -/
  receiver : ∀ id o, (r.invocation e.store).receiver = .object id → e.store.object? id = some o →
    after.store.object? id = some o ∨
      ∃ c ref next, o.kind = .handle .mutable ∧
        e.store.functionOf? (r.invocation e.store).function = some ref ∧ ref.Changes c ∧
        after.store.object? id = some next ∧ o.Rewritten c next
  /-- Nothing happens to any object at all if the called function does not change its receiver. -/
  still : (∀ c ref, e.store.functionOf? (r.invocation e.store).function = some ref → ¬ref.Changes c) →
    ∀ id o, e.store.object? id = some o → after.store.object? id = some o

/-- The receiver of a construction is new, so if the receiver was there before, nothing had to be prepared. -/
theorem Request.prepare_of_receiver {r : Request} {e : Engine} {id : ObjectId} {o : Object}
    (receiver : (r.invocation e.store).receiver = .object id) (found : e.store.object? id = some o) :
    r.prepare e = e := by
  cases r with
  | call function this arguments => rfl
  | invokeMethod this name arguments => rfl
  | construct constructor arguments =>
    obtain rfl := Value.object.inj receiver
    rw [Store.object?_fresh] at found
    exact nomatch found

/-- Adding objects frames every request. -/
theorem Request.Framed.of_extends {r : Request} {e after : Engine} (adds : e.store.Extends after.store) :
    r.Framed e after where
  others := fun _ _ _ found => adds.object? found
  receiver := fun _ _ _ found => .inl (adds.object? found)
  still := fun _ _ _ found => adds.object? found

/-- **A successful request changes at most its receiver**, and that only as the class of the called function
allows. -/
theorem Request.succeeded_framed (r : Request) (depth : Nat) (e after : Engine) (v : Value)
    (succeeded : Engine.run bindings depth e r.body = some (after, .ok v)) : r.Framed e after := by
  rw [run_body] at succeeded
  cases depth with
  | zero => exact nomatch succeeded
  | succ depth =>
    obtain ⟨after', result, run, outcome⟩ := Engine.invoke_outcome depth (r.prepare e) (r.invocation e.store)
    obtain ⟨rfl, rfl⟩ := Prod.mk.inj (Option.some.inj (run.symm.trans succeeded))
    obtain ⟨s, prepared, extended, -⟩ := r.prepare_extends e
    generalize answered : Except.ok v = answer at outcome
    cases outcome with
    | failed => exact nomatch answered
    | @effected c m ref effect function offered evaluated =>
      have committed := Method.Effect.commit_outcome evaluated
      rw [prepared] at committed function ⊢
      generalize (effect.commit _ _).2 = t at committed ⊢
      cases committed with
      | extended adds => exact .of_extends (extended.trans adds)
      | @wrote next receiver arguments id o operation read handle found mutable =>
        obtain ⟨altered, next', found_next, rewritten⟩ := Layout.place_rewrites .mutable (next receiver arguments) found
        -- a receiver that was there before the request is the mutable handle that is written onto
        have before : ∀ o', e.store.object? id = some o' → e.store = s := by
          intro o' found'
          have same := Request.prepare_of_receiver handle found'
          rw [prepared] at same
          exact congrArg Engine.store same.symm
        refine ⟨?_, ?_, ?_⟩
        · intro other p apart found'
          exact altered.others other p (fun same => apart (same ▸ handle)) (extended.object? found')
        · intro other p receiver' found'
          obtain rfl := Value.object.inj (handle.symm.trans receiver')
          obtain rfl := before p found'
          obtain rfl := Option.some.inj (found.symm.trans found')
          exact .inr ⟨c, ref, next', Object.isMutable_iff.1 mutable, function, offered.changing operation, found_next,
            rewritten⟩
        · intro none_changes other p found'
          by_cases same : other = id
          · subst same
            obtain rfl := before p found'
            exact absurd (offered.changing operation) (none_changes c ref function)
          · exact altered.others other p same (extended.object? found')

/-- A new entity is given a name. -/
theorem Request.succeeded_framed_rename :
    let (e, entity) := Engine.bound.useStore ((Layout.ofClass .entity).toScript Entity.fresh)
    let rename := Request.invokeMethod entity "Rename" [.string "lamp"]
    ∃ after v, Engine.run bindings 1 e rename.body = some (after, .ok v) ∧ rename.Framed e after := by
  have succeeds : (Engine.run bindings 1 (Engine.bound.useStore ((Layout.ofClass .entity).toScript Entity.fresh)).1
      (Request.invokeMethod (Engine.bound.useStore ((Layout.ofClass .entity).toScript Entity.fresh)).2 "Rename"
        [.string "lamp"]).body).any (fun r => r.2.toOption.isSome) = true := by decide +kernel
  obtain ⟨⟨after, result⟩, run, succeeded⟩ := (Option.any_eq_true _ _).1 succeeds
  cases result with
  | error error => exact nomatch succeeded
  | ok v => exact ⟨after, v, run, Request.succeeded_framed _ 1 _ after v run⟩

end ScriptBridge.Script
