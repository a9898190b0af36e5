import ScriptBridge.Proofs.Script.Ancestry
import ScriptBridge.Proofs.Script.CallTree

/-!
# ScriptBridge.Proofs.Script.Reachability

The engines that a host can get to, and how properties are looked up on them.

A native function gets live values, does to the store what engines offer, calls back as often as it likes, and hands on
only values that are live in turn (`Body.Permitted`).  A value can come from nowhere but the call, the store, or what
the function has made itself; so all that this forbids is to give an object another prototype.  Whatever such functions
do, a call takes the store from operation to operation (`Engine.invoke_reaches`), and what operations leave of stores is
left by calls.

Main results:
  * `Engine.invoke_reaches`, `HostCall.reaches` - calls are operations, one after the other;
  * `permitted_library`, `permitted_probing` - the functions of the bound classes are permitted, and so are those that
    try an engine out;
  * `Engine.Reachable.lookup_ends` - on every engine that a host can get to, looking up comes to an end.
-/

namespace ScriptBridge.Script

open ScriptBridge.Native

/-! ## §1. What native functions may do. -/

/-- The value that a call comes to is live, if there is one. -/
def Store.LiveResult (s : Store) (result : CallResult) : Prop :=
  ∀ v, result = .ok v → s.Live v

/-- An error is live. -/
theorem Store.liveResult_error (s : Store) (error : InvocationError) : s.LiveResult (.error error) :=
  fun _ none => nomatch none

/-- A live value is a live result. -/
theorem Store.liveResult_ok {s : Store} {v : Value} (live : s.Live v) : s.LiveResult (.ok v) :=
  fun _ same => Except.ok.inj same ▸ live

/-- The values that go into a call are live. -/
structure Invocation.Live (s : Store) (call : Invocation) : Prop where
  function : s.Live call.function
  receiver : s.Live call.receiver
  arguments : ∀ v ∈ call.arguments, s.Live v

/-- The values that a function is given are live. -/
structure CallContext.Live (s : Store) (call : CallContext) : Prop where
  receiver : s.Live call.receiver
  arguments : ∀ v ∈ call.arguments, s.Live v

/-- The arguments of a call are live, and so is the value of a missing one. -/
theorem CallContext.Live.argument {s : Store} {call : CallContext} (h : call.Live s) (index : Nat) :
    s.Live (call.argument index) := by
  unfold CallContext.argument
  cases here : call.arguments[index]? with
  | none => exact trivial
  | some v => exact h.arguments v (List.mem_of_getElem? here)

/-- On a store, the body does nothing but operations and calls with live values, and what it comes to `answers`.  Calls
may do any operations before it goes on. -/
def Body.Permitted {α : Type} (answers : Store → α → Prop) : Body α → Store → Prop
  | .done a, s => answers s a
  | .read next, s => (next s).Permitted answers s
  | .write t next, s => s.Reaches t ∧ next.Permitted answers t
  | .invoke call next, s =>
    call.Live s ∧ ∀ t result, s.Reaches t → t.LiveResult result → (next result).Permitted answers t

/-- The function is permitted to do what it does, whatever live values it is given. -/
def NativeFunction.Permitted (native : NativeFunction) : Prop :=
  ∀ s call, s.Reached → call.Live s → (native call).Permitted Store.LiveResult s

/-- All functions are. -/
def Library.Permitted (library : Library) : Prop :=
  ∀ ref native, library ref = some native → NativeFunction.Permitted native

/-! ## §2. Calls. -/

section

variable {library : Library}

/-- A permitted body is operations, one after the other, if its calls are. -/
theorem Engine.runBody_reaches {caller : Caller}
    (each : ∀ {e call after result}, e.store.Reached → call.Live e.store → caller e call = some (after, result) →
      e.store.Reaches after.store ∧ after.store.LiveResult result)
    {α : Type} {answers : Store → α → Prop} {e after : Engine} {body : Body α} {a : α} (reached : e.store.Reached)
    (permitted : body.Permitted answers e.store) (ran : runBody caller e body = some (after, a)) :
    e.store.Reaches after.store ∧ answers after.store a := by
  -- a body is permitted as far as its calls are, and after each call for whatever it answers
  induction body generalizing e with
  | done =>
    cases ran
    exact ⟨.refl, permitted⟩
  | read next ih => exact ih e.store reached permitted ran
  | write t next ih =>
    obtain ⟨reaches, goes_on⟩ := permitted
    obtain ⟨further, answered⟩ := ih (reached.trans reaches) goes_on ran
    exact ⟨reaches.trans further, answered⟩
  | invoke call next ih =>
    obtain ⟨live, goes_on⟩ := permitted
    rw [runBody] at ran
    cases called : caller e call with
    | none =>
      rw [called] at ran
      cases ran
    | some r =>
      rw [called] at ran
      obtain ⟨reaches, live_result⟩ := each reached live called
      obtain ⟨further, answered⟩ := ih r.2 (reached.trans reaches) (goes_on r.1.store r.2 reaches live_result) ran
      exact ⟨reaches.trans further, answered⟩

/-- A report leaves the store as it is. -/
theorem Engine.report_store (e : Engine) (error : InvocationError) : (e.report error).store = e.store := by
  obtain ⟨reported, report⟩ := e.report_eq error
  rw [report]

/-- Settling a result leaves the store as it is. -/
theorem Engine.settle_store (e : Engine) (result : CallResult) : (e.settle result).1.store = e.store := by
  cases result with
  | ok value => rfl
  | error error => exact e.report_store error

/-- **A call is operations, one after the other.** -/
theorem Engine.invoke_reaches (permitted : library.Permitted) {depth : Nat} {e after : Engine} {call : Invocation}
    {result : CallResult} (reached : e.store.Reached) (live : call.Live e.store)
    (ran : invoke library depth e call = some (after, result)) :
    e.store.Reaches after.store ∧ after.store.LiveResult result := by
  -- induction on the depth: the calls of a function are those that may still nest
  induction depth generalizing e after call result with
  | zero => cases ran
  | succ depth ih =>
    cases called : (e.store.functionOf? call.function).bind library with
    | none =>
      rw [invoke, called] at ran
      obtain ⟨rfl, rfl⟩ := Prod.mk.inj (Option.some.inj ran)
      rw [report_store]
      exact ⟨.refl, e.store.liveResult_error _⟩
    | some native =>
      rw [invoke_of_native depth called] at ran
      obtain ⟨⟨last, answer⟩, went, settled⟩ := Option.map_eq_some_iff.1 ran
      obtain ⟨ref, -, listed⟩ := Option.bind_eq_some_iff.1 called
      have allowed := permitted ref native listed e.store (e.contextOf call) reached ⟨live.receiver, live.arguments⟩
      obtain ⟨reaches, answered⟩ := runBody_reaches ih (e := { e with callStack := call.label :: e.callStack }) reached
        allowed went
      rw [settle_eq] at settled
      obtain ⟨rfl, rfl⟩ := Prod.mk.inj settled
      rw [settle_store]
      exact ⟨reaches, answered⟩

end

/-! ## §3. Requests. -/

/-- The values that go into a request are live. -/
def Request.Live (s : Store) : Request → Prop
  | call function receiver arguments => s.Live function ∧ s.Live receiver ∧ ∀ v ∈ arguments, s.Live v
  | construct constructor arguments => s.Live constructor ∧ ∀ v ∈ arguments, s.Live v
  | invokeMethod receiver _ arguments => s.Live receiver ∧ ∀ v ∈ arguments, s.Live v

section

variable {s : Store}

/-- Requests are permitted, for hosts as for functions that call back. -/
theorem Request.permitted {r : Request} (reached : s.Reached) (live : r.Live s) :
    r.body.Permitted Store.LiveResult s := by
  cases r with
  | call function receiver arguments =>
    obtain ⟨function, receiver, arguments⟩ := live
    exact ⟨⟨function, receiver, arguments⟩, fun t result _ answered => answered⟩
  | invokeMethod receiver name arguments =>
    obtain ⟨receiver_live, arguments⟩ := live
    have method := reached.ordered.live_propertyOf receiver name
    exact ⟨⟨method, receiver_live, arguments⟩, fun t result _ answered => answered⟩
  | construct constructor arguments =>
    obtain ⟨constructor_live, arguments_live⟩ := live
    have prepared : s.Reaches (s.withReceiver constructor) := .single (.newReceiver constructor)
    rw [body, Body.construct_eq]
    refine ⟨prepared, ⟨constructor_live.later prepared, ?_, fun v mem => (arguments_live v mem).later prepared⟩,
      fun t result _ answered => answered⟩
    exact Store.live_of_found (Store.object?_alloc_self s _)

/-- So are requests whose failure gives nothing. -/
theorem HostCall.permitted {c : HostCall} (reached : s.Reached) (live : c.request.Live s) :
    c.body.Permitted Store.LiveResult s := by
  cases c with
  | strict request => exact Request.permitted reached live
  | soft function receiver arguments =>
    obtain ⟨function, receiver, arguments⟩ := live
    refine ⟨⟨function, receiver, arguments⟩, fun t result _ answered => ?_⟩
    cases result with
    | ok value => exact Store.liveResult_ok (answered value rfl)
    | error error => exact Store.liveResult_ok trivial

end

/-! ## §4. The functions of the bound classes. -/

/-- Writing back is an operation, or nothing happens. -/
theorem CallContext.writeBack_reaches {c : ClassName} (call : CallContext) (a : c.Instance) (s : Store) :
    s.Reaches (call.writeBack c a s).2 := by
  rcases call.writeBack_cases a s with ⟨id, o, -, -, -, written⟩ | unchanged
  · rw [written, ← Layout.write_eq_place]
    exact .single (.write a id)
  · rw [unchanged]

/-- What a method leaves behind is reached by operations, and its answer is live. -/
theorem Method.Effect.commit_reaches {c : ClassName} {m : Method c} {s : Store} {call : CallContext} {effect : Effect c}
    (evaluated : m.evaluate s call = .ok effect) :
    s.Reaches (effect.commit call s).2 ∧ (effect.commit call s).2.Live (effect.commit call s).1 := by
  rcases Method.effect_of_evaluate evaluated with ⟨τ, a, rfl⟩ | ⟨next, receiver, arguments, -, -, -, rfl⟩
  · rw [commit_unchanged rfl]
    exact ⟨.single (.toScript (.value τ) false a), Convert.live_toScript (.value τ) false a s⟩
  · exact ⟨call.writeBack_reaches _ s, trivial⟩

/-- The wrapper of a method does what is permitted. -/
theorem permitted_wrapper {c : ClassName} (m : Method c) : NativeFunction.Permitted m.wrapper := by
  intro s call _ _
  unfold Method.wrapper
  rw [Body.Permitted]
  cases evaluated : m.evaluate s call with
  | error error => exact s.liveResult_error error
  | ok effect =>
    obtain ⟨reaches, live⟩ := Method.Effect.commit_reaches evaluated
    exact ⟨reaches, Store.liveResult_ok live⟩

/-- A selector does what is permitted if its overloads do. -/
theorem permitted_dispatch {sel : Selector} (each : ∀ o ∈ sel.overloads, NativeFunction.Permitted o.function) :
    NativeFunction.Permitted sel.dispatch := by
  intro s call reached live
  unfold Selector.dispatch
  rw [Body.Permitted]
  cases selected : sel.select? s call.arguments with
  | none => exact s.liveResult_error _
  | some o => exact each o (List.mem_of_find?_eq_some selected) s call reached live

/-- **The functions of the bound classes are permitted**, and with them those that the host brings along if these are. -/
theorem permitted_library {host : String → Option NativeFunction}
    (each : ∀ name native, host name = some native → NativeFunction.Permitted native) : (library host).Permitted := by
  have methods : ∀ {c : ClassName} (ms : List (Method c)), ∀ o ∈ ms.map Overload.ofMethod,
      NativeFunction.Permitted o.function := by
    intro c ms o mem
    obtain ⟨m, -, rfl⟩ := List.mem_map.1 mem
    exact permitted_wrapper m
  intro ref native listed
  cases ref with
  | hosted name => exact each name native listed
  | constructor c =>
    obtain rfl := Option.some.inj listed
    exact permitted_dispatch (methods _)
  | method c name =>
    obtain ⟨set, -, rfl⟩ := Option.map_eq_some_iff.1 listed
    unfold MethodSet.function
    split
    · exact permitted_wrapper set.first
    · exact permitted_dispatch (methods _)

/-! ## §5. Functions that try an engine out. -/

section

open Session

/-- A function that looks at a live value does what is permitted. -/
theorem permitted_looking {view : CallContext → Value}
    (live : ∀ (s : Store) (call : CallContext), call.Live s → s.Live (view call)) :
    NativeFunction.Permitted (looking view) :=
  fun s call _ given => Store.liveResult_ok (live s call given)

/-- A function that only answers does what is permitted. -/
theorem permitted_answering (parameters : List NativeType) (word : String) :
    NativeFunction.Permitted (answering parameters word).function :=
  permitted_looking (fun _ _ _ => trivial)

/-- The later arguments of a call are live. -/
theorem CallContext.Live.dropped {s : Store} {call : CallContext} (h : call.Live s) (n : Nat) :
    ∀ v ∈ call.arguments.drop n, s.Live v :=
  fun v mem => h.arguments v (List.mem_of_mem_drop mem)

theorem permitted_nested : NativeFunction.Permitted nested :=
  fun _ call reached live => Request.permitted (r := .call (call.argument 0) call.receiver (call.arguments.drop 1))
    reached ⟨live.argument 0, live.receiver, live.dropped 1⟩

theorem permitted_nestedNew : NativeFunction.Permitted nestedNew :=
  fun _ call reached live => Request.permitted (r := .construct (call.argument 0) (call.arguments.drop 1)) reached
    ⟨live.argument 0, live.dropped 1⟩

theorem permitted_nestedSoft : NativeFunction.Permitted nestedSoft :=
  fun _ call reached live => HostCall.permitted (c := .soft (call.argument 0) call.receiver (call.arguments.drop 1))
    reached ⟨live.argument 0, live.receiver, live.dropped 1⟩

/-- A function that calls itself does what is permitted. -/
theorem permitted_countdown : NativeFunction.Permitted countdown := by
  intro s call reached live
  unfold countdown
  rw [Body.Permitted]
  cases call.argumentAs s .double "countdown" 0 with
  | error error => exact s.liveResult_error error
  | ok n =>
    simp only
    split
    · exact Request.permitted (r := .call (call.argument 2) .undefined []) reached
        ⟨live.argument 2, trivial, List.forall_mem_nil _⟩
    · refine Request.permitted (r := .call (call.argument 1) .undefined [_, call.argument 1, call.argument 2]) reached
        ⟨live.argument 1, trivial, ?_⟩
      simp only [List.forall_mem_cons]
      exact ⟨trivial, live.argument 1, live.argument 2, List.forall_mem_nil _⟩

/-- Converting an argument is an operation, and nothing goes on if it fails. -/
theorem permitted_argumentOf {call : CallContext} {τ : NativeType} {function : String} {index : Nat}
    {next : τ.Data → Action Value} {s : Store}
    (goes_on : ∀ a t, s.Reaches t → (next a).run.Permitted Store.LiveResult t) :
    (argumentOf call τ function index >>= next).run.Permitted Store.LiveResult s := by
  have reaches : s.Reaches (Convert.ofScript τ (call.argument index) s).2 := .single (.ofScript τ _)
  unfold argumentOf
  generalize Convert.ofScript τ (call.argument index) = action at reaches
  refine ⟨reaches, ?_⟩
  dsimp only
  cases (action s).1 with
  | error error => exact Store.liveResult_error _ _
  | ok a => exact goes_on a _ reaches

theorem permitted_convertingAs (name : String) (τ : NativeType) : NativeFunction.Permitted (convertingAs name τ) :=
  fun _ _ _ _ => permitted_argumentOf (fun a t _ =>
    ⟨.single (.toScript τ false a), Store.liveResult_ok (Convert.live_toScript τ false a t)⟩)

theorem permitted_customError : NativeFunction.Permitted customError :=
  fun _ _ _ _ => permitted_argumentOf (fun _ t _ => t.liveResult_error _)

theorem permitted_arityTwo : NativeFunction.Permitted arityTwo := by
  intro s call _ _
  show s.LiveResult ((call.checkCount "arity2" 2).map _)
  cases call.checkCount "arity2" 2 with
  | error error => exact s.liveResult_error error
  | ok _ => exact Store.liveResult_ok trivial

theorem permitted_stepX : NativeFunction.Permitted stepX := by
  intro s call _ _
  unfold stepX
  rw [Body.Permitted]
  cases call.receiverAs s .vector3 "step_x" with
  | error error => exact s.liveResult_error error
  | ok v => exact ⟨call.writeBack_reaches (c := .vector3) _ s, Store.liveResult_ok trivial⟩

theorem permitted_firstOrThis : NativeFunction.Permitted firstOrThis := by
  intro s call _ _
  show s.LiveResult ((call.firstOrReceiverAs s .entity "first_or_this").map _)
  cases call.firstOrReceiverAs s .entity "first_or_this" with
  | error error => exact s.liveResult_error error
  | ok e => exact Store.liveResult_ok trivial

/-- **The functions that try an engine out are permitted.** -/
theorem permitted_probing : probing.Permitted := by
  have selected : ∀ o ∈ selection.overloads, NativeFunction.Permitted o.function := by
    simp [selection, permitted_answering]
  have each : ∀ p ∈ probes, NativeFunction.Permitted p.2 := by
    simp only [probes, List.forall_mem_cons]
    exact ⟨permitted_looking (fun _ _ _ => trivial), permitted_looking (fun _ _ live => live.receiver),
      permitted_looking (fun _ _ live => live.argument 1), permitted_looking (fun _ _ _ => trivial),
      permitted_looking (fun _ _ _ => trivial), permitted_nested, permitted_nestedNew, permitted_nestedSoft,
      permitted_countdown, permitted_arityTwo, permitted_customError, permitted_stepX, permitted_firstOrThis,
      permitted_dispatch selected, permitted_dispatch (List.forall_mem_nil _), List.forall_mem_nil _⟩
  refine permitted_library (fun name native listed => ?_)
  unfold probe? at listed
  cases found : probes.lookup name with
  | some function =>
    rw [found] at listed
    obtain rfl := Option.some.inj listed
    obtain ⟨before, after, split, -⟩ := List.lookup_eq_some_iff.1 found
    exact each (name, function) (split ▸ List.mem_append_right _ List.mem_cons_self)
  | none =>
    rw [found] at listed
    obtain ⟨τ, -, rfl⟩ := Option.map_eq_some_iff.1 listed
    exact permitted_convertingAs name τ

end

/-! ## §6. Hosts. -/

/-- **The call of a host is operations, one after the other**, and what it comes to is live. -/
theorem HostCall.reaches {library : Library} (permitted : library.Permitted) {depth : Nat} {e last : Engine}
    {c : HostCall} {answer : CallResult} (reached : e.store.Reached) (live : c.request.Live e.store)
    (ran : Engine.run library depth e c.body = some (last, answer)) :
    e.store.Reaches last.store ∧ last.store.LiveResult answer :=
  Engine.runBody_reaches (fun reached live ran => Engine.invoke_reaches permitted reached live ran) reached
    (HostCall.permitted reached live) ran

/-- The engines that a host can get to. -/
inductive Engine.Reachable (library : Library) : Engine → Prop where
  | new (reporting : Bool) : Reachable library (.new reporting)
  | operation {e : Engine} {s : Store} (reachable : Reachable library e) (operation : e.store.Operation s) :
      Reachable library { e with store := s }
  | switch {e : Engine} (reachable : Reachable library e) (reporting : Bool) :
      Reachable library { e with reporting := reporting }
  /-- A call has come to an end. -/
  | call {e last : Engine} {depth : Nat} {c : HostCall} {answer : CallResult} (reachable : Reachable library e)
      (live : c.request.Live e.store) (ran : Engine.run library depth e c.body = some (last, answer)) :
      Reachable library last
  /-- Calls are under way: what functions find then is an engine like any other, but for the call stack. -/
  | within {e : Engine} (reachable : Reachable library e) (frames : List String) :
      Reachable library { e with callStack := frames }

namespace Engine.Reachable

variable {library : Library} {e : Engine}

/-- Its store comes about by operations. -/
theorem reached (permitted : library.Permitted) (reachable : Reachable library e) : e.store.Reached := by
  induction reachable with
  | new reporting => exact .refl
  | operation _ operation ih => exact ih.tail operation
  | switch _ reporting ih => exact ih
  | call _ live ran ih => exact ih.trans (HostCall.reaches permitted ih live ran).1
  | within _ frames ih => exact ih

/-- **On every engine that a host can get to, looking up comes to an end**, from every object and for every name. -/
theorem lookup_ends (permitted : library.Permitted) (reachable : Reachable library e) (id : ObjectId) :
    ∃ ids, e.store.Resolves id ids :=
  (reachable.reached permitted).resolves id

end Engine.Reachable

/-- An engine with a function that constructs with what it is given, and with a global object that stands under
`prototype` on itself. -/
def Engine.looped : Engine :=
  { Engine.new true with store :=
      (Engine.newFunction "making" (.hosted "nested_new") 1 .empty).2.define ⟨0⟩ "prototype" (.object ⟨0⟩) .none }

/-- A host can get to the engine whose global object stands on itself. -/
theorem reachable_looped : Engine.Reachable probing .looped := by
  have start : Engine.Reachable probing (.new true) := .new true
  have function := start.operation (.newFunction "making" (.hosted "nested_new") 1)
  exact function.operation (.define ⟨0⟩ "prototype" .none (by decide))

/-- The function is called with the global object.  It makes an object with this prototype, and fails. -/
theorem Engine.Reachable.lookup_ends_looped : ∃ e ids, Engine.Reachable probing e ∧ e.store.Resolves ⟨2⟩ ids ∧
    e.store.ownValue? "prototype" ⟨2⟩ = none ∧ e.store.property ⟨2⟩ "prototype" = .object ⟨0⟩ := by
  have runs : (Engine.run probing 2 .looped
      (HostCall.strict (.call (.object ⟨1⟩) .undefined [.object ⟨0⟩])).body).any (fun r =>
        r.1.store.ownValue? "prototype" ⟨2⟩ = none ∧ r.1.store.property ⟨2⟩ "prototype" = .object ⟨0⟩) = true := by
    decide +kernel
  obtain ⟨⟨last, answer⟩, ran, found⟩ := (Option.any_eq_true _ _).1 runs
  have live : (HostCall.strict (.call (.object ⟨1⟩) .undefined [.object ⟨0⟩])).request.Live Engine.looped.store :=
    ⟨by decide, trivial, List.forall_mem_singleton.2 (by decide)⟩
  have reachable := reachable_looped.call live ran
  obtain ⟨ids, resolves⟩ := reachable.lookup_ends permitted_probing ⟨2⟩
  exact ⟨last, ids, reachable, resolves, of_decide_eq_true found⟩

end ScriptBridge.Script
