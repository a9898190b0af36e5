import ScriptBridge.Proofs.Script.Calls

/-!
# ScriptBridge.Proofs.Script.ScriptRun

What scripts do.

A script assigns to properties and deletes them, and asks for calls; that is all that scripts are able to do.  What a
step makes of the store is one of five things (`Touched`), and each of them is such that objects age
(`Touched.ages`): they stay what they are, and unless they are mutable handles they keep their fixed properties and
what is attached to them.

Main results:
  * `ScriptStep.perform_leaves` - what a step leaves, from what its single change or its request leaves;
  * `ScriptStep.perform_touched` - what a step makes of the store;
  * `always_of_step` - what every step preserves holds whatever scripts do;
  * `always_ages` - whatever scripts do, objects age.
-/

namespace ScriptBridge.Script

open ScriptBridge.Native

/-! ## §1. Steps. -/

/-- A step of a script. -/
inductive ScriptStep where
  | put (id : ObjectId) (name : String) (value : Value)
  | delete (id : ObjectId) (name : String)
  | request (r : Request)
  | callOrUndefined (function receiver : Value) (arguments : List Value)

/-- Makes a change to the properties of an object, unless it is refused. -/
def Engine.attempt (e : Engine) (change : Store → Except PropertyError Store) : Engine :=
  match change e.store with
  | .ok s => { e with store := s }
  | .error _ => e

/-- Performs a step, with at most `depth` calls nested in each other. -/
def ScriptStep.perform (depth : Nat) (e : Engine) : ScriptStep → Option Engine
  | put id name value => some (e.attempt (·.put id name value))
  | delete id name => some (e.attempt (·.delete id name))
  | request r => (Engine.run bindings depth e r.body).map (·.1)
  | callOrUndefined function receiver arguments =>
    (Engine.run bindings depth e (Body.callOrUndefined function receiver arguments)).map (·.1)

/-- Performs the steps of a script one after the other. -/
def performAll (depth : Nat) (e : Engine) : List ScriptStep → Option Engine
  | [] => some e
  | step :: rest => (step.perform depth e).bind (fun after => performAll depth after rest)

/-- Every script comes to an end from here on, and `p` holds when it does. -/
def Engine.Always (e : Engine) (p : Engine → Prop) : Prop :=
  ∀ depth script, ∃ after, performAll (depth + 1) e script = some after ∧ p after

/-! ## §2. What a step makes of the store. -/

/-- What a step of a script makes of a store.  Assignments and deletions aside, there may be new objects, and a method
may have written its changed receiver back onto the mutable handle that it was read from. -/
inductive Touched (s : Store) : Store → Prop
  | refused : Touched s s
  | put {t : Store} {id : ObjectId} {name : String} {value : Value} (done : s.put id name value = .ok t) : Touched s t
  | delete {t : Store} {id : ObjectId} {name : String} (done : s.delete id name = .ok t) : Touched s t
  | extended {t : Store} (adds : s.Extends t) : Touched s t
  | wrote {t : Store} {c : ClassName} {m : Method c} {ref : FunctionRef}
      {next : c.Instance → Arguments m.parameters → c.Instance} {receiver : c.Instance}
      {arguments : Arguments m.parameters} {id : ObjectId} {o : Object} (prepared : s.Extends t)
      (offered : m.Offered ref) (operation : m.operation = .change next)
      (read : (Layout.ofClass c).read t (.object id) (Layout.ofClass c).fresh = .ok receiver)
      (found : t.object? id = some o) (mutable : o.isMutable = true) :
      Touched s ((Layout.ofClass c).place .mutable (next receiver arguments) id t).2

/-- A refused change does nothing. -/
theorem Engine.attempt_store {P : Store → Prop} {e : Engine} {change : Store → Except PropertyError Store}
    (refused : P e.store) (done : ∀ t, change e.store = .ok t → P t) : P (e.attempt change).store := by
  unfold attempt
  cases result : change e.store with
  | error error => exact refused
  | ok s => exact done s result

theorem ok_of_mapError {ε ε' α : Type} {x : Except ε α} {f : ε → ε'} {a : α} (h : x.mapError f = .ok a) :
    x = .ok a := by
  cases x with
  | error e => exact nomatch h
  | ok b =>
    obtain rfl := Except.ok.inj h
    rfl

/-- A request touches the store. -/
theorem Request.touched (r : Request) (depth : Nat) (e : Engine) :
    ∃ after result, Engine.run bindings (depth + 1) e r.body = some (after, result) ∧ Touched e.store after.store := by
  obtain ⟨s, prepared, extended, -⟩ := r.prepare_extends e
  -- the new object of a construction is there even if the construction fails
  have added : Touched e.store (r.prepare e).store := by
    rw [prepared]
    exact .extended extended
  refine r.run_leaves depth e added ?_
  intro c m ref effect function offered evaluated
  rw [prepared] at evaluated ⊢
  have committed := Method.Effect.commit_outcome evaluated
  generalize (effect.commit _ _).2 = t at committed ⊢
  cases committed with
  | extended adds => exact .extended (extended.trans adds)
  | wrote operation read handle found mutable =>
    -- the receiver was read from the handle that it is written back onto
    unfold CallContext.receiverAs CallContext.receiverFrom at read
    rw [handle] at read
    exact .wrote extended offered operation (ok_of_mapError read) found mutable

/-- A call whose failure gives nothing does what a call does. -/
theorem callOrUndefined_run (depth : Nat) (e : Engine) (function receiver : Value) (arguments : List Value) :
    (Engine.run bindings depth e (Body.callOrUndefined function receiver arguments)).map (·.1) =
      (Engine.run bindings depth e (Request.call function receiver arguments).body).map (·.1) := by
  show (Engine.runBody _ e ((Body.call function receiver arguments).bind _)).map (·.1) =
    (Engine.runBody _ e (Body.call function receiver arguments)).map (·.1)
  rw [Engine.runBody_bind]
  cases Engine.runBody (Engine.invoke bindings depth) e (Body.call function receiver arguments) with
  | none => rfl
  | some r =>
    obtain ⟨after, result⟩ := r
    cases result with
    | error error => rfl
    | ok value => rfl

/-- The request that a step makes, if it makes one. -/
def ScriptStep.request? : ScriptStep → Option Request
  | request r => some r
  | callOrUndefined function receiver arguments => some (.call function receiver arguments)
  | _ => none

/-- **What a step leaves** is what an assignment or a deletion leaves, if it is not refused, or what a request leaves. -/
theorem ScriptStep.perform_leaves {P : Store → Prop} (step : ScriptStep) (depth : Nat) {e : Engine} (refused : P e.store)
    (put : ∀ id name value t, step = .put id name value → e.store.put id name value = .ok t → P t)
    (delete : ∀ id name t, step = .delete id name → e.store.delete id name = .ok t → P t)
    (request : ∀ r, step.request? = some r →
      ∃ after result, Engine.run bindings (depth + 1) e r.body = some (after, result) ∧ P after.store) :
    ∃ after, step.perform (depth + 1) e = some after ∧ P after.store := by
  cases step with
  | put id name value => exact ⟨_, rfl, Engine.attempt_store refused (fun t => put id name value t rfl)⟩
  | delete id name => exact ⟨_, rfl, Engine.attempt_store refused (fun t => delete id name t rfl)⟩
  | request r =>
    obtain ⟨after, result, run, holds⟩ := request r rfl
    refine ⟨after, ?_, holds⟩
    rw [perform, run]
    rfl
  | callOrUndefined function receiver arguments =>
    obtain ⟨after, result, run, holds⟩ := request (.call function receiver arguments) rfl
    refine ⟨after, ?_, holds⟩
    rw [perform, callOrUndefined_run, run]
    rfl

/-- **What a step makes of the store.** -/
theorem ScriptStep.perform_touched (step : ScriptStep) (depth : Nat) (e : Engine) :
    ∃ after, step.perform (depth + 1) e = some after ∧ Touched e.store after.store :=
  step.perform_leaves depth .refused (fun _ _ _ _ _ done => .put done) (fun _ _ _ _ done => .delete done)
    (fun r _ => r.touched depth e)

/-! ## §3. What scripts preserve. -/

/-- **What every step preserves holds whatever scripts do.** -/
theorem always_of_step {p : Store → Prop} (step : ∀ s t, Touched s t → p s → p t) {e : Engine} (h : p e.store) :
    e.Always (fun after => p after.store) := by
  -- induction on the script, with `p` as the invariant
  intro depth script
  induction script generalizing e with
  | nil => exact ⟨e, rfl, h⟩
  | cons first rest ih =>
    obtain ⟨middle, performed, touched⟩ := first.perform_touched depth e
    obtain ⟨after, rest_performed, holds⟩ := ih (step _ _ touched h)
    refine ⟨after, ?_, holds⟩
    rw [performAll, performed]
    exact rest_performed

theorem Engine.Always.mono {e : Engine} {p q : Engine → Prop} (weaker : ∀ after, p after → q after)
    (h : e.Always p) : e.Always q := by
  intro depth script
  obtain ⟨after, performed, holds⟩ := h depth script
  exact ⟨after, performed, weaker after holds⟩

/-- Every step makes objects age. -/
theorem Touched.ages {s t : Store} (h : Touched s t) : s.Follows Object.Ages 0 t := by
  cases h with
  | refused => exact .refl Object.Ages.refl 0 s
  | put done => exact Store.ages_put done
  | delete done => exact Store.ages_delete done
  | extended adds => exact adds.objects.ages
  | @wrote t c m ref next receiver arguments id o prepared offered operation read found mutable =>
    -- only a mutable handle is written onto, and those may get any properties
    have altered := (Layout.place_shows (Layout.lawful_ofClass c) .mutable (next receiver arguments) found
      (Object.isMutable_iff.1 mutable)).1
    refine prepared.objects.ages.trans Object.Ages.trans (altered.ages ?_)
    intro p found'
    obtain rfl := Option.some.inj (found.symm.trans found')
    exact mutable

/-- No step changes the prototypes of new handles. -/
theorem Touched.prototypes {s t : Store} (h : Touched s t) : t.prototypes = s.prototypes := by
  cases h with
  | refused => rfl
  | put done => exact Store.prototypes_tryUpdate done
  | delete done => exact Store.prototypes_tryUpdate done
  | extended adds => exact adds.prototypes
  | @wrote t c m ref next receiver arguments id o prepared offered operation read found mutable =>
    have altered := (Layout.place_shows (Layout.lawful_ofClass c) .mutable (next receiver arguments) found
      (Object.isMutable_iff.1 mutable)).1
    exact altered.prototypes.trans prepared.prototypes

/-- **Whatever scripts do, objects age.** -/
theorem always_ages (e : Engine) : e.Always (fun after => e.store.Follows Object.Ages 0 after.store) :=
  always_of_step (fun _ _ touched ages => ages.trans Object.Ages.trans touched.ages) (.refl Object.Ages.refl 0 e.store)

end ScriptBridge.Script
