import ScriptBridge.Proofs.Script.RoundTrip
import ScriptBridge.Script.Interface

/-!
# ScriptBridge.Proofs.Script.Calls

What calls into the bound classes come to.

Everything about calls follows from one account of them: a call fails and has done nothing, or it is the effect of
one of the methods that the called function offers (`invoke_outcome`).  The effect of a method in turn only adds
objects, or it writes the changed receiver back onto the mutable handle that it was read from
(`Effect.commit_outcome`).

Main results:
  * `invoke_outcome` - what a call comes to; in particular it comes to something;
  * `Request.run_outcome` - the same for what a host or a script may ask for;
  * `Request.failed_unchanged` - failed requests leave everything as it was.
-/

namespace ScriptBridge.Script

open ScriptBridge.Native

/-- The functions of the bound classes, and no others. -/
def bindings : Library :=
  library (fun _ => none)

/-- An engine with all bound classes. -/
def Engine.bound : Engine :=
  ((Engine.new true).useStore (registerAll ClassName.all)).1

/-- The host's use of the store changes nothing else. -/
theorem Engine.useStore_eq {α : Type} {e start : Engine} {action : StoreM α} {x : α}
    (h : e.useStore action = (start, x)) : start = { e with store := (action e.store).2 } ∧ x = (action e.store).1 :=
  ⟨(congrArg Prod.fst h).symm, (congrArg Prod.snd h).symm⟩

/-! ## §1. Methods. -/

namespace Method

variable {c : ClassName}

/-- A method is offered by a function: it is one of the class's constructors, or one of the methods of the name. -/
inductive Offered : {c : ClassName} → Method c → FunctionRef → Prop
  | constructor {c : ClassName} {m : Method c} (mem : m ∈ (Interface.ofClass c).constructors) :
      Offered m (.constructor c)
  | method {c : ClassName} {m : Method c} {name : String} {set : MethodSet c}
      (found : (Interface.ofClass c).methods? name = some set) (mem : m ∈ set.all) : Offered m (.method c name)

/-- A step that was followed by a success was one. -/
theorem exists_ok_of_bind {ε α β : Type} {x : Except ε α} {f : α → Except ε β} {b : β} (h : x >>= f = .ok b) :
    ∃ a, x = .ok a ∧ f a = .ok b := by
  cases x with
  | error e => exact nomatch h
  | ok a => exact ⟨a, rfl, h⟩

/-- The wrapper of a method fails at once, or makes the changes and gives the answer. -/
theorem wrapper_run (m : Method c) (caller : Engine.Caller) (e : Engine) (call : CallContext) :
    Engine.runBody caller e (m.wrapper call) =
      match m.evaluate e.store call with
      | .error error => some (e, .error error)
      | .ok effect =>
        some ({ e with store := (effect.commit call e.store).2 }, .ok (effect.commit call e.store).1) := by
  unfold wrapper
  rw [Engine.runBody]
  cases m.evaluate e.store call with
  | error error => rfl
  | ok effect => rfl

/-- The effect of a method changes nothing and answers with what some native value is converted to, or it changes the
receiver and gives nothing. -/
theorem effect_of_evaluate {m : Method c} {s : Store} {call : CallContext} {effect : Effect c}
    (evaluated : m.evaluate s call = .ok effect) :
    (∃ (τ : ValueType) (a : τ.Data), effect = ⟨none, (marshalOf τ).toScript a⟩) ∨
      ∃ next receiver arguments, m.operation = .change next ∧ call.receiverAs s c m.label = .ok receiver ∧
        readArguments s call m.label 0 m.parameters = .ok arguments ∧
        effect = ⟨some (next receiver arguments), pure .undefined⟩ := by
  -- whatever may fail has succeeded, and of all operations only a change leads to the second case
  unfold evaluate at evaluated
  cases operation : m.operation with
  | construct make =>
    rw [operation] at evaluated
    obtain ⟨arguments, -, returned⟩ := exists_ok_of_bind evaluated
    exact .inl ⟨.object c, make arguments, (Except.ok.inj returned).symm⟩
  | static result compute =>
    rw [operation] at evaluated
    obtain ⟨arguments, -, returned⟩ := exists_ok_of_bind evaluated
    exact .inl ⟨result, compute arguments, (Except.ok.inj returned).symm⟩
  | inspect result compute =>
    rw [operation] at evaluated
    obtain ⟨_, -, counted⟩ := exists_ok_of_bind evaluated
    obtain ⟨receiver, -, received⟩ := exists_ok_of_bind counted
    obtain ⟨arguments, -, returned⟩ := exists_ok_of_bind received
    exact .inl ⟨result, compute receiver arguments, (Except.ok.inj returned).symm⟩
  | describe words =>
    rw [operation] at evaluated
    obtain ⟨receiver, -, received⟩ := exists_ok_of_bind evaluated
    obtain ⟨arguments, -, returned⟩ := exists_ok_of_bind received
    exact .inl ⟨.string, words receiver arguments, (Except.ok.inj returned).symm⟩
  | change next =>
    rw [operation] at evaluated
    obtain ⟨_, -, counted⟩ := exists_ok_of_bind evaluated
    obtain ⟨receiver, read, received⟩ := exists_ok_of_bind counted
    obtain ⟨arguments, converted, returned⟩ := exists_ok_of_bind received
    exact .inr ⟨next, receiver, arguments, rfl, read, converted, (Except.ok.inj returned).symm⟩

end Method

/-! ## §2. Effects. -/

namespace Method.Effect

variable {c : ClassName}

/-- What the effect of a method makes of a store: it only adds objects, or it writes a changed receiver back onto the
mutable handle that the receiver is. -/
inductive Outcome (m : Method c) (s : Store) (call : CallContext) : Store → Prop
  | extended {t : Store} (adds : s.Extends t) : Outcome m s call t
  | wrote {next : c.Instance → Arguments m.parameters → c.Instance} {receiver : c.Instance}
      {arguments : Arguments m.parameters} {id : ObjectId} {o : Object} (operation : m.operation = .change next)
      (read : call.receiverAs s c m.label = .ok receiver) (handle : call.receiver = .object id)
      (found : s.object? id = some o) (mutable : o.isMutable = true) :
      Outcome m s call ((Layout.ofClass c).place .mutable (next receiver arguments) id s).2

/-- An unchanged receiver is not written back. -/
theorem commit_unchanged {effect : Effect c} (unchanged : effect.changed = none) (call : CallContext) :
    effect.commit call = effect.answer := by
  unfold commit
  rw [unchanged]

/-- A changed receiver is written back. -/
theorem commit_changed (a : c.Instance) (call : CallContext) (s : Store) :
    Effect.commit ⟨some a, pure .undefined⟩ call s = (.undefined, (call.writeBack c a s).2) := rfl

end Method.Effect

/-- Writing back onto a mutable handle. -/
theorem CallContext.writeBack_mutable {c : ClassName} {call : CallContext} {id : ObjectId} {s : Store} {o : Object}
    (handle : call.receiver = .object id) (found : s.object? id = some o) (mutable : o.isMutable = true)
    (a : c.Instance) : call.writeBack c a s = (Layout.ofClass c).place .mutable a id s := by
  rw [← Layout.write_eq_place]
  unfold writeBack
  rw [handle]
  show (if ((s.object? id).map (·.isMutable)).getD false then (Layout.ofClass c).write a id else pure ()) s = _
  rw [found, Option.map_some, Option.getD_some, if_pos mutable]

/-- Nothing is written back onto anything else. -/
theorem CallContext.writeBack_other {c : ClassName} {call : CallContext} {s : Store}
    (other : ∀ id o, call.receiver = .object id → s.object? id = some o → o.isMutable = false) (a : c.Instance) :
    call.writeBack c a s = ((), s) := by
  unfold writeBack
  cases handle : call.receiver with
  | object id =>
    show (if ((s.object? id).map (·.isMutable)).getD false then (Layout.ofClass c).write a id else pure ()) s = _
    cases found : s.object? id with
    | none => rfl
    | some o =>
      rw [Option.map_some, Option.getD_some, other id o handle found]
      rfl
  | _ => rfl

/-- An instance is written back onto the mutable handle that the receiver is, or nothing happens. -/
theorem CallContext.writeBack_cases {c : ClassName} (call : CallContext) (a : c.Instance) (s : Store) :
    (∃ id o, call.receiver = .object id ∧ s.object? id = some o ∧ o.isMutable = true ∧
      call.writeBack c a s = (Layout.ofClass c).place .mutable a id s) ∨ call.writeBack c a s = ((), s) := by
  by_cases mutable : ∃ id o, call.receiver = .object id ∧ s.object? id = some o ∧ o.isMutable = true
  · obtain ⟨id, o, handle, found, mutable⟩ := mutable
    exact .inl ⟨id, o, handle, found, mutable, writeBack_mutable handle found mutable a⟩
  · refine .inr (writeBack_other (fun id o handle found => ?_) a)
    exact Bool.eq_false_iff.2 (fun yes => mutable ⟨id, o, handle, found, yes⟩)

/-- **What the effect of a method makes of a store.** -/
theorem Method.Effect.commit_outcome {c : ClassName} {m : Method c} {s : Store} {call : CallContext}
    {effect : Method.Effect c} (evaluated : m.evaluate s call = .ok effect) :
    Outcome m s call (effect.commit call s).2 := by
  rcases Method.effect_of_evaluate evaluated with
    ⟨τ, a, rfl⟩ | ⟨next, receiver, arguments, operation, read, -, rfl⟩
  · rw [commit_unchanged rfl]
    exact .extended ((lawful_marshalOf τ).toScript_extends a s)
  · rw [commit_changed]
    rcases call.writeBack_cases (next receiver arguments) s with ⟨id, o, handle, found, mutable, written⟩ | unchanged
    · rw [written]
      exact .wrote operation read handle found mutable
    · rw [unchanged]
      exact .extended (.refl s)

/-! ## §3. Functions. -/

/-- What running the body of a function of the bound classes comes to: it fails and has done nothing, or it is the
effect of a method that the function offers. -/
inductive Settled (ref : FunctionRef) (call : CallContext) (e : Engine) : Engine → CallResult → Prop
  | failed (error : InvocationError) : Settled ref call e e (.error error)
  | effected {c : ClassName} {m : Method c} {effect : Method.Effect c} (offered : m.Offered ref)
      (evaluated : m.evaluate e.store call = .ok effect) :
      Settled ref call e { e with store := (effect.commit call e.store).2 } (.ok (effect.commit call e.store).1)

/-- A function behaves like methods that are offered under a name. -/
def NativeFunction.Behaves (function : NativeFunction) (ref : FunctionRef) : Prop :=
  ∀ caller e call, ∃ after result,
    Engine.runBody caller e (function call) = some (after, result) ∧ Settled ref call e after result

theorem behaves_wrapper {c : ClassName} {m : Method c} {ref : FunctionRef} (offered : m.Offered ref) :
    NativeFunction.Behaves m.wrapper ref := by
  intro caller e call
  rw [Method.wrapper_run]
  cases evaluated : m.evaluate e.store call with
  | error error => exact ⟨e, _, rfl, .failed error⟩
  | ok effect => exact ⟨_, _, rfl, .effected offered evaluated⟩

theorem Selector.dispatch_run (sel : Selector) (caller : Engine.Caller) (e : Engine) (call : CallContext) :
    Engine.runBody caller e (sel.dispatch call) =
      match sel.select? e.store call.arguments with
      | some o => Engine.runBody caller e (o.function call)
      | none => some (e, .error
          ⟨sel.label, .noOverload (call.arguments.map e.store.typeName) sel.constructs call.backtrace⟩) := by
  unfold dispatch
  rw [Engine.runBody]
  cases sel.select? e.store call.arguments with
  | none => rfl
  | some o => rfl

theorem behaves_dispatch {sel : Selector} {ref : FunctionRef}
    (each : ∀ o ∈ sel.overloads, NativeFunction.Behaves o.function ref) :
    NativeFunction.Behaves sel.dispatch ref := by
  intro caller e call
  rw [Selector.dispatch_run]
  cases selected : sel.select? e.store call.arguments with
  | none => exact ⟨e, _, rfl, .failed _⟩
  | some o => exact each o (List.mem_of_find?_eq_some selected) caller e call

/-- The functions of the bound classes behave like the methods they offer. -/
theorem behaves_of_bound {ref : FunctionRef} {native : NativeFunction} (bound : bindings ref = some native) :
    native.Behaves ref := by
  cases ref with
  | hosted name => exact nomatch bound
  | constructor c =>
    obtain rfl := Option.some.inj bound
    apply behaves_dispatch
    intro o mem
    obtain ⟨m, listed, rfl⟩ := List.mem_map.1 mem
    exact behaves_wrapper (.constructor listed)
  | method c name =>
    -- a method without others of its name is called directly, several ones through a choice
    obtain ⟨set, found, rfl⟩ := Option.map_eq_some_iff.1 bound
    unfold MethodSet.function
    split
    · exact behaves_wrapper (.method found List.mem_cons_self)
    · apply behaves_dispatch
      intro o mem
      obtain ⟨m, listed, rfl⟩ := List.mem_map.1 mem
      exact behaves_wrapper (.method found listed)

/-! ## §4. Calls. -/

/-- What the called function gets to know about a call that an engine starts. -/
def Engine.contextOf (e : Engine) (call : Invocation) : CallContext :=
  ⟨call.receiver, call.arguments, call.label :: e.callStack, call.constructs⟩

/-- What a call comes to: it fails, and nothing happens but that the failure is reported; or it is the effect of a
method that the called function offers. -/
inductive Engine.Outcome (e : Engine) (call : Invocation) : Engine → CallResult → Prop
  | failed (error : InvocationError) : Outcome e call (e.report error) (.error error)
  | effected {c : ClassName} {m : Method c} {ref : FunctionRef} {effect : Method.Effect c}
      (function : e.store.functionOf? call.function = some ref) (offered : m.Offered ref)
      (evaluated : m.evaluate e.store (e.contextOf call) = .ok effect) :
      Outcome e call { e with store := (effect.commit (e.contextOf call) e.store).2 }
        (.ok (effect.commit (e.contextOf call) e.store).1)

/-- A call of a function runs its body, with the name of the call on the call stack. -/
theorem Engine.invoke_of_native {library : Library} {native : NativeFunction} (depth : Nat) {e : Engine}
    {call : Invocation} (called : (e.store.functionOf? call.function).bind library = some native) :
    Engine.invoke library (depth + 1) e call =
      (Engine.runBody (Engine.invoke library depth) { e with callStack := call.label :: e.callStack }
        (native (e.contextOf call))).map
          (fun r => { r.1 with callStack := r.1.callStack.tail }.settle r.2) := by
  rw [Engine.invoke, called]
  simp only
  rw [show (⟨call.receiver, call.arguments, call.label :: e.callStack, call.constructs⟩ : CallContext) =
    e.contextOf call from rfl]
  cases Engine.runBody (Engine.invoke library depth) { e with callStack := call.label :: e.callStack }
    (native (e.contextOf call)) with
  | none => rfl
  | some r => rfl

/-- The same for a function of the bound classes. -/
theorem Engine.invoke_of_bound {ref : FunctionRef} {native : NativeFunction} (depth : Nat) {e : Engine}
    {call : Invocation} (function : e.store.functionOf? call.function = some ref)
    (bound : bindings ref = some native) :
    Engine.invoke bindings (depth + 1) e call =
      (Engine.runBody (Engine.invoke bindings depth) { e with callStack := call.label :: e.callStack }
        (native (e.contextOf call))).map
          (fun r => { r.1 with callStack := r.1.callStack.tail }.settle r.2) :=
  Engine.invoke_of_native depth (by rw [function, Option.bind_some, bound])

/-- **What a call comes to.**  The functions of the bound classes never call back, so they never nest too deep. -/
theorem Engine.invoke_outcome (depth : Nat) (e : Engine) (call : Invocation) :
    ∃ after result, Engine.invoke bindings (depth + 1) e call = some (after, result) ∧ e.Outcome call after result := by
  cases called : (e.store.functionOf? call.function).bind bindings with
  | none =>
    -- what was called is no function
    rw [Engine.invoke, called]
    exact ⟨_, _, rfl, .failed _⟩
  | some native =>
    obtain ⟨ref, function, bound⟩ := Option.bind_eq_some_iff.1 called
    obtain ⟨after, result, run, settled⟩ := behaves_of_bound bound (Engine.invoke bindings depth)
      { e with callStack := call.label :: e.callStack } (e.contextOf call)
    rw [Engine.invoke_of_bound depth function bound, run, Option.map_some]
    -- the name of the call was pushed onto the call stack and is popped again
    cases settled with
    | failed error => exact ⟨_, _, rfl, .failed error⟩
    | effected offered evaluated => exact ⟨_, _, rfl, .effected function offered evaluated⟩

/-! ## §5. Requests. -/

/-- What a host or a script may ask an engine for. -/
inductive Request where
  | call (function receiver : Value) (arguments : List Value)
  | construct (constructor : Value) (arguments : List Value)
  | invokeMethod (receiver : Value) (name : String) (arguments : List Value)

namespace Request

/-- How a request is carried out. -/
def body : Request → Body CallResult
  | call function receiver arguments => Body.call function receiver arguments
  | construct constructor arguments => Body.construct constructor arguments
  | invokeMethod receiver name arguments => Body.invokeMethod receiver name arguments

/-- The engine that a request starts its call on.  Construction comes with a new object. -/
def prepare (r : Request) (e : Engine) : Engine :=
  match r with
  | construct constructor _ =>
    let (id, allocated) := e.store.alloc (.ofKind .plain)
    match e.store.propertyOf constructor "prototype" with
    | .object prototype => { e with store := allocated.setPrototype id (some prototype) }
    | _ => { e with store := allocated }
  | _ => e

/-- The call that a request starts. -/
def invocation (r : Request) (s : Store) : Invocation :=
  match r with
  | call function receiver arguments => ⟨Body.labelOf s function, function, receiver, arguments, false⟩
  | construct constructor arguments =>
    ⟨"new " ++ Body.labelOf s constructor, constructor, .object ⟨s.objects.length⟩, arguments, true⟩
  | invokeMethod receiver name arguments => ⟨name, s.propertyOf receiver name, receiver, arguments, false⟩

theorem run_invoke (depth : Nat) (e : Engine) (call : Invocation) :
    Engine.runBody (Engine.invoke bindings depth) e (.invoke call .done) = Engine.invoke bindings depth e call := by
  rw [Engine.runBody]
  cases Engine.invoke bindings depth e call with
  | none => rfl
  | some r => rfl

/-- A request is a call on the prepared engine. -/
theorem run_body (r : Request) (depth : Nat) (e : Engine) :
    Engine.run bindings depth e r.body = Engine.invoke bindings depth (r.prepare e) (r.invocation e.store) := by
  rw [← run_invoke]
  cases r with
  | call function receiver arguments => rfl
  | invokeMethod receiver name arguments => rfl
  | construct constructor arguments =>
    unfold Engine.run body Body.construct prepare
    rw [Engine.runBody]
    simp only
    cases e.store.propertyOf constructor "prototype" with
    | object prototype => rfl
    | _ => rfl

/-- The prepared engine has the same objects and perhaps one more. -/
theorem prepare_extends (r : Request) (e : Engine) :
    ∃ s, r.prepare e = { e with store := s } ∧ e.store.Extends s ∧ s.numbered = e.store.numbered := by
  cases r with
  | call function receiver arguments => exact ⟨e.store, rfl, .refl _, rfl⟩
  | invokeMethod receiver name arguments => exact ⟨e.store, rfl, .refl _, rfl⟩
  | construct constructor arguments =>
    have allocated := Store.extends_alloc e.store (.ofKind .plain)
    unfold prepare
    simp only
    cases e.store.propertyOf constructor "prototype" with
    | object prototype =>
      -- the prototype is set on the new object, which was not there before
      exact ⟨_, rfl, allocated.update_fresh (Store.object?_fresh e.store) _, rfl⟩
    | _ => exact ⟨_, rfl, allocated, rfl⟩

/-- **What a request comes to.** -/
theorem run_outcome (r : Request) (depth : Nat) (e : Engine) :
    ∃ after result, Engine.run bindings (depth + 1) e r.body = some (after, result) ∧
      (r.prepare e).Outcome (r.invocation e.store) after result := by
  rw [run_body]
  exact Engine.invoke_outcome depth _ _

end Request

/-! ## §6. Failures. -/

/-- Whatever was there before is there unchanged, and so is all that engines know beside objects and reports. -/
structure Engine.Unchanged (e after : Engine) : Prop where
  objects : ∀ id o, e.store.object? id = some o → after.store.object? id = some o
  global : after.store.global = e.store.global
  prototypes : after.store.prototypes = e.store.prototypes
  numbered : after.store.numbered = e.store.numbered
  cells : after.store.cells = e.store.cells
  callStack : after.callStack = e.callStack
  reporting : after.reporting = e.reporting

/-- A report changes nothing else. -/
theorem Engine.report_eq (e : Engine) (error : InvocationError) :
    ∃ reported, e.report error = { e with reported := reported } := by
  unfold report
  split
  · exact ⟨_, rfl⟩
  · exact ⟨e.reported, rfl⟩

/-- The store that a request leaves is the prepared one, or a method that is offered has written onto that. -/
theorem Request.run_leaves {P : Store → Prop} (r : Request) (depth : Nat) (e : Engine)
    (prepared : P (r.prepare e).store)
    (committed : ∀ {c : ClassName} {m : Method c} {ref : FunctionRef} {effect : Method.Effect c},
      (r.prepare e).store.functionOf? (r.invocation e.store).function = some ref → m.Offered ref →
      m.evaluate (r.prepare e).store ((r.prepare e).contextOf (r.invocation e.store)) = .ok effect →
      P (effect.commit ((r.prepare e).contextOf (r.invocation e.store)) (r.prepare e).store).2) :
    ∃ after result, Engine.run bindings (depth + 1) e r.body = some (after, result) ∧ P after.store := by
  obtain ⟨after, result, run, outcome⟩ := r.run_outcome depth e
  refine ⟨after, result, run, ?_⟩
  cases outcome with
  | failed error =>
    obtain ⟨reported, report⟩ := (r.prepare e).report_eq error
    rw [report]
    exact prepared
  | effected function offered evaluated => exact committed function offered evaluated

/-- **Failed requests leave everything as it was**, whatever was called, on whatever receiver and with whatever
arguments, and wherever on the way it failed. -/
theorem Request.failed_unchanged (r : Request) (depth : Nat) (e after : Engine) (error : InvocationError)
    (failed : Engine.run bindings depth e r.body = some (after, .error error)) : e.Unchanged after := by
  rw [run_body] at failed
  cases depth with
  | zero => exact nomatch failed
  | succ depth =>
    obtain ⟨after', result, run, outcome⟩ := Engine.invoke_outcome depth (r.prepare e) (r.invocation e.store)
    obtain ⟨rfl, rfl⟩ := Prod.mk.inj (Option.some.inj (run.symm.trans failed))
    obtain ⟨s, prepared, extended, numbered⟩ := r.prepare_extends e
    cases outcome with
    | failed =>
      -- preparing a construction adds an object, and a failure is reported; that is all
      obtain ⟨reported, report⟩ := (r.prepare e).report_eq error
      rw [report, prepared]
      exact {
        objects := fun _ _ found => extended.object? found
        global := extended.global
        prototypes := extended.prototypes
        numbered := numbered
        cells := extended.cells
        callStack := rfl
        reporting := rfl }

/-- A vector with nothing but zeros is asked to scale itself by a text. -/
theorem Request.failed_unchanged_scale :
    let (e, vector) := Engine.bound.useStore ((Layout.ofClass .vector3).toScript Vector3.zero)
    ∃ after error, Engine.run bindings 1 e (Request.invokeMethod vector "Scale" [.string "two"]).body =
      some (after, .error error) ∧ e.Unchanged after := by
  have fails : (Engine.run bindings 1 (Engine.bound.useStore ((Layout.ofClass .vector3).toScript Vector3.zero)).1
      (Request.invokeMethod (Engine.bound.useStore ((Layout.ofClass .vector3).toScript Vector3.zero)).2 "Scale"
        [.string "two"]).body).any (fun r => r.2.toOption.isNone) = true := by decide +kernel
  obtain ⟨⟨after, result⟩, run, failed⟩ := (Option.any_eq_true _ _).1 fails
  cases result with
  | ok value => exact nomatch failed
  | error error => exact ⟨after, error, run, Request.failed_unchanged _ 1 _ after error run⟩

end ScriptBridge.Script
