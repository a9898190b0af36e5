import ScriptBridge.Binding.Execution
import ScriptBridge.Proofs.Outcome
import ScriptBridge.Proofs.Script.Calls

/-!
# ScriptBridge.Proofs.Binding.Execution

What a wrapper is said to do is what its code says, and what the bound methods do.

The code of a wrapper is the code of its statements, one after the other.  And where the classes and methods of an
engine are known, running the statements gives what the engine runs for a method: the same answer or error, and the
same store.

Main results:
  * `Wrapper.tokens_eq` - the code of a wrapper is that of its statements;
  * `Wrapper.run_bound`, `Wrapper.runBody_wrapper` - a wrapper around a method of a bound class runs as the method does.
-/

namespace ScriptBridge.Binding

open ScriptBridge.Native ScriptBridge.Declared ScriptBridge.Token
open ScriptBridge.Script (Value Object ObjectId Store StoreM Marshal marshalOf Layout Method ConvertError
  InvocationError CallContext)

/-! ## §1. The code of a wrapper. -/

/-- **The code of a wrapper is the code of its statements.** -/
theorem Wrapper.tokens_eq (owner : List Token) (w : Wrapper) :
    w.tokens owner = function (.word w.name) callParameters (returning (expr "CallResult"))
      (constant "FN" (borrow (expr "str")) [text w.label] ++ (w.statements.map (Statement.tokens owner w)).flatten ++
        w.answer owner) := by
  have arguments : (w.arguments.mapIdx Statement.argument).map (Statement.tokens owner w) =
      w.arguments.mapIdx argumentTokens := by
    simp only [List.mapIdx_eq_zipIdx_map, List.map_map]
    rfl
  unfold tokens statements countCheck receiverTokens writeBack
  simp only [List.map_append, List.flatten_append, arguments]
  rcases w.receiver with _ | ⟨describes, isConst⟩
  · simp [Statement.tokens]
  · cases describes <;> cases isConst <;> simp [Statement.tokens]

/-! ## §2. Attempts and series of statements. -/

/-- Two attempts run one after the other, up to the first error. -/
theorem Attempt.bind_run {β γ : Type} (action : Attempt β) (next : β → Attempt γ) (s : Store) :
    (action >>= next).run s = match action.run s with
      | (.ok b, t) => (next b).run t
      | (.error e, t) => (.error e, t) := by
  have run : (action >>= next).run s = (ExceptT.bindCont next (action.run s).1 : StoreM _) (action.run s).2 := rfl
  rw [run]
  rcases action.run s with ⟨_ | b, t⟩ <;> rfl

theorem Attempt.converting_run {β : Type} (describe : ConvertError → InvocationError)
    (conversion : StoreM (Except ConvertError β)) (s : Store) :
    (converting describe conversion).run s = ((conversion s).1.mapError describe, (conversion s).2) := rfl

namespace Statement

variable {α : Type} {f : ClassFile} {n : NativeClass α} {w : Wrapper} {m : NativeItem α} {call : CallContext}

/-- Statements run one series after the other. -/
theorem runAll_append (locals : Locals m) (first second : List Statement) :
    runAll f n w m call locals (first ++ second) =
      runAll f n w m call locals first >>= fun next => runAll f n w m call next second :=
  List.foldlM_append

/-- The first statement runs, and then the others. -/
theorem runAll_cons (locals : Locals m) (st : Statement) (rest : List Statement) :
    runAll f n w m call locals (st :: rest) =
      st.run f n w m call locals >>= fun next => runAll f n w m call next rest :=
  List.foldlM_cons

end Statement

/-- What the statements of a wrapper come to. -/
theorem Wrapper.run_eq {α : Type} {f : ClassFile} {n : NativeClass α} {w : Wrapper} {m : NativeItem α}
    {call : CallContext} (s : Store) : w.run f n m call s =
    match (Statement.runAll f n w m call ⟨n.fresh, [], .undefined⟩ w.statements).run s with
    | (.error e, t) => (.error e, t)
    | (.ok locals, t) => (.ok locals.ret, t) := by
  have run : w.run f n m call s =
      (((Statement.runAll f n w m call ⟨n.fresh, [], .undefined⟩ w.statements).run s).1.map (·.ret),
        ((Statement.runAll f n w m call ⟨n.fresh, [], .undefined⟩ w.statements).run s).2) := rfl
  rw [run]
  rcases (Statement.runAll f n w m call ⟨n.fresh, [], .undefined⟩ w.statements).run s with ⟨_ | _, _⟩
  · rfl
  · rfl

/-! ## §3. Bound classes. -/

/-- The conversions of a marshalled type. -/
def Crossing.ofMarshal {α : Type} (m : Marshal α) : Crossing α where
  toScript := m.toScript
  toConst := m.toConst
  ofScript v := fun s => (m.ofScript s v, s)

/-- A field of a layout. -/
def NativeField.ofField {α : Type} (g : Script.Field α) : NativeField α :=
  ⟨g.Data, .ofMarshal g.marshal, g.get, g.set⟩

/-- The field of a class file is that of a layout: it has the name and the constness, its native side is the same, and
if its values are plain then their two forms are. -/
structure Field.Mirrors {α : Type} (field : Field) (n : NativeClass α) (g : Script.Field α) : Prop where
  label : field.label = g.name
  isConst : field.isConst = g.isConst
  native : n.field field.name = .ofField g
  plain : field.type.isPlain = true → g.marshal.toConst = g.marshal.toScript

/-- A class file with native code is that of a bound class. -/
structure ClassFile.Mirrors {c : ClassName} (f : ClassFile) (n : NativeClass c.Instance) : Prop where
  label : f.label = c.name
  whole : f.marshalling.whole = (Layout.ofClass c).whole
  fresh : n.fresh = (Layout.ofClass c).fresh
  attach : ∀ a o, n.attach a o = o.attach ⟨(Layout.ofClass c).type, a⟩
  attached : ∀ o, n.attached? o = o.data? (Layout.ofClass c).type
  fields : List.Forall₂ (fun field g => Field.Mirrors field.1 n g) f.marshalling.fields (Layout.ofClass c).fields

section

variable {α : Type} {n : NativeClass α} {field : Field} {g : Script.Field α}

/-- A field that mirrors another is written like it. -/
theorem Field.write_eq (h : field.Mirrors n g) (a : α) (handle : ObjectId) :
    field.write n a handle = g.write a handle := by
  unfold write writeConst convertConst Script.Field.write Script.Field.writeConst
  rw [h.isConst, h.label, h.native]
  cases constant : g.isConst with
  | false => rfl
  | true =>
    cases plain : field.type.isPlain with
    | false => rfl
    | true =>
      rw [h.plain plain]
      rfl

/-- A field that mirrors another is read like it. -/
theorem Field.read_eq (h : field.Mirrors n g) (handle : ObjectId) (a : α) (s : Store) :
    field.read n handle a s = (g.read s handle a, s) := by
  have run : field.read n handle a s =
      (((((n.field field.name).crossing.ofScript (s.property handle field.label) s).1.map
        ((n.field field.name).set a)).mapError (.inProperty field.label)),
        ((n.field field.name).crossing.ofScript (s.property handle field.label) s).2) := rfl
  rw [run, h.native, h.label]
  unfold Script.Field.read Store.propertyAs
  show (((g.marshal.ofScript s (s.property handle g.name)).map (g.set a)).mapError _, s) = _
  cases g.marshal.ofScript s (s.property handle g.name) <;> rfl

/-- What reading fields one after the other comes to: how far it got, unless something ended it. -/
def concluded (read : α × Option ConvertError) : Except ConvertError α :=
  read.2.elim (.ok read.1) .error

/-- Reading fields one after the other. -/
theorem Field.readAll_eq {fields : List (Field × List Token)} {others : List (Script.Field α)}
    (h : List.Forall₂ (fun field g => Field.Mirrors field.1 n g) fields others) (handle : ObjectId) (s : Store) :
    ∀ a, readAll n handle (fields.map (·.1)) a s = (concluded (Script.Field.readAll s handle a others), s) := by
  induction h with
  | nil => exact fun a => rfl
  | @cons field g fields others same rest ih =>
    intro a
    -- both read the field alike, so they go on together or end here
    have read := Field.read_eq same handle a s
    rw [List.map_cons, readAll, Script.Field.readAll]
    cases got : g.read s handle a with
    | error e =>
      rw [got] at read
      simp only [Bind.bind, StateT.bind, read]
      rfl
    | ok next =>
      rw [got] at read
      simp only [Bind.bind, StateT.bind, read]
      exact ih next

end

namespace ClassFile.Mirrors

variable {c : ClassName} {f : ClassFile} {n : NativeClass c.Instance}

/-- **The emitted code writes an instance** as the layout of its class does. -/
theorem write_eq (h : f.Mirrors n) (a : c.Instance) (id : ObjectId) :
    f.write n a id = (Layout.ofClass c).write a id := by
  have fields : f.marshalling.fields.forM (fun field => field.1.write n a id) =
      (Layout.ofClass c).fields.forM (fun g => g.write a id) := by
    have written := h.fields
    -- the two lists of fields are arbitrary here, as long as they go along with each other
    revert written
    generalize f.marshalling.fields = fields
    generalize (Layout.ofClass c).fields = others
    intro written
    induction written with
    | nil => rfl
    | cons same _ ih => simp only [List.forM, Field.write_eq same, ih]
  have whole : f.carry n a id = (Layout.ofClass c).carry a id := by
    unfold ClassFile.carry Layout.carry
    rw [h.whole, funext (h.attach a)]
    rfl
  unfold ClassFile.write Layout.write
  rw [fields, whole]

/-- **The emitted code reads an instance** as the layout of its class does. -/
theorem read_eq (h : f.Mirrors n) (v : Value) (s : Store) :
    f.read n v n.fresh s = ((Layout.ofClass c).read s v (Layout.ofClass c).fresh, s) := by
  cases v with
  | object handle =>
    have start : (if f.marshalling.whole then ((s.object? handle).bind n.attached?).getD n.fresh else n.fresh) =
        (Layout.ofClass c).start s handle (Layout.ofClass c).fresh := by
      unfold Layout.start Store.data?
      rw [h.whole, h.fresh, funext h.attached]
      rfl
    show Field.readAll n handle (f.marshalling.fields.map (·.1)) _ s = _
    rw [start, Field.readAll_eq h.fields]
    unfold Layout.read Layout.readInto
    cases got : Script.Field.readAll s handle ((Layout.ofClass c).start s handle (Layout.ofClass c).fresh)
      (Layout.ofClass c).fields with
    | mk next ended => cases ended <;> simp only [got, concluded, Option.elim]
  | _ =>
    unfold Layout.read Layout.readInto
    rw [← h.label]
    rfl

/-- The emitted code writes a receiver back as a method call does. -/
theorem writeBack_eq (h : f.Mirrors n) (call : CallContext) (a : c.Instance) :
    f.writeBack n call a = call.writeBack c a := by
  unfold ClassFile.writeBack CallContext.writeBack
  cases call.receiver with
  | object id =>
    -- the two differ in what they do if the receiver is a mutable handle
    exact congrArg (fun written : StoreM Unit => do
      let s : Store ← get
      if ((s.object? id).map Object.isMutable).getD false then written else return ()) (h.write_eq a id)
  | _ => rfl

end ClassFile.Mirrors

/-! ## §4. Bound methods. -/

/-- Arguments one by one, each with its type. -/
abbrev Given : Type :=
  List (Sigma ValueType.Data)

/-- Arguments for parameters, one by one. -/
def spread : (parameters : List ValueType) → Script.Arguments parameters → Given
  | [], _ => []
  | τ :: rest, (argument, others) => ⟨τ, argument⟩ :: spread rest others

/-- Single arguments, put together for parameters of their types. -/
def gather : (parameters : List ValueType) → Given → Option (Script.Arguments parameters)
  | [], [] => some ()
  | τ :: rest, ⟨σ, argument⟩ :: others =>
    if same : σ = τ then (gather rest others).map (fun arguments => (same ▸ argument, arguments)) else none
  | _, _ => none

/-- Arguments that are spread out are gathered again. -/
theorem gather_spread (parameters : List ValueType) (arguments : Script.Arguments parameters) :
    gather parameters (spread parameters arguments) = some arguments := by
  induction parameters with
  | nil => rfl
  | cons τ rest ih =>
    obtain ⟨argument, others⟩ := arguments
    rw [spread, gather, dif_pos rfl, ih]
    rfl

section

variable {c : ClassName}

/-- What a method makes of its receiver, and its answer. -/
def applied (m : Method c) (a : c.Instance) (arguments : Script.Arguments m.parameters) : c.Instance × StoreM Value :=
  match m.operation with
  | .construct make => (a, (Layout.ofClass c).toScript (make arguments))
  | .static result compute => (a, (marshalOf result).toScript (compute arguments))
  | .inspect result compute => (a, (marshalOf result).toScript (compute a arguments))
  | .describe words => (a, Marshal.toScript (words a arguments))
  | .change next => (next a arguments, return .undefined)

/-- The native function of a method. -/
@[reducible]
def NativeItem.ofMethod (m : Method c) : NativeItem c.Instance where
  Argument := Sigma ValueType.Data
  Result := StoreM Value
  typeName index := (m.parameters[index]?.map (·.qualified.text)).getD ""
  ofScript index v := fun s => (match m.parameters[index]? with
    | some τ => ((marshalOf τ).ofScript s v).map (Sigma.mk τ)
    | none => .error (.custom none), s)
  run a given := return ((gather m.parameters given).map (applied m a)).getD (a, return .undefined)
  toScript answer := answer

/-- The wrapper is one around the method. -/
structure Wrapper.Wraps (w : Wrapper) (m : Method c) : Prop where
  label : w.label = m.label
  count : w.arguments.length = m.parameters.length
  shape : match m.operation with
    | .construct _ => w.receiver = none ∧ w.outcome = .constructed
    | .static _ _ => w.receiver = none ∧ w.outcome = .converted
    | .inspect _ _ => w.receiver = some ⟨false, true⟩ ∧ w.outcome = .converted
    | .describe _ => w.receiver = some ⟨true, true⟩ ∧ w.outcome = .converted
    | .change _ => w.receiver = some ⟨false, false⟩ ∧ w.outcome = .nothing

variable {f : ClassFile} {n : NativeClass c.Instance} {w : Wrapper} {m : Method c} {call : CallContext}

/-- A statement that reads an argument reads that of the method. -/
theorem Statement.run_argument (label : w.label = m.label) {k : Nat} {τ : ValueType}
    (parameter : m.parameters[k]? = some τ) (a : Argument) (locals : Locals (NativeItem.ofMethod m)) (s : Store) :
    ((argument k a).run f n w (.ofMethod m) call locals).run s =
      (match call.argumentAs s τ m.label k with
        | .error e => .error e
        | .ok d => .ok { locals with arguments := locals.arguments ++ [⟨τ, d⟩] }, s) := by
  unfold CallContext.argumentAs
  simp only [Statement.run, Attempt.bind_run, Attempt.converting_run, parameter, label, Option.map_some,
    Option.getD_some]
  cases (marshalOf τ).ofScript s (call.argument k) <;> rfl

/-- The statements that read arguments read those of the method. -/
theorem Statement.runAll_arguments (label : w.label = m.label) (s : Store) :
    ∀ (parameters : List ValueType) (k : Nat), m.parameters.drop k = parameters → ∀ arguments : List Argument,
      arguments.length = parameters.length → ∀ locals : Locals (NativeItem.ofMethod m),
        (runAll f n w (.ofMethod m) call locals (arguments.mapIdx (fun i a => argument (i + k) a))).run s =
          (match Script.readArguments s call m.label k parameters with
            | .error e => .error e
            | .ok read => .ok { locals with arguments := locals.arguments ++ spread parameters read }, s) := by
  -- induction on the parameters that are left when `k` of them have been read
  intro parameters
  induction parameters with
  | nil =>
    intro k rest arguments count locals
    obtain rfl := List.length_eq_zero_iff.1 count
    show (Except.ok locals, s) = (Except.ok { locals with arguments := locals.arguments ++ [] }, s)
    rw [List.append_nil]
  | cons τ parameters ih =>
    intro k rest arguments count locals
    obtain ⟨a, others, rfl⟩ := List.exists_cons_of_length_eq_add_one count
    have parameter : m.parameters[k]? = some τ := by
      rw [← List.head?_drop, rest]
      rfl
    have rest' : m.parameters.drop (k + 1) = parameters := by
      rw [← List.tail_drop, rest]
      rfl
    have shifted : (fun i a => argument (i + 1 + k) a) = (fun i a => argument (i + (k + 1)) a) := by
      funext i a
      rw [Nat.add_assoc, Nat.add_comm 1 k]
    rw [List.mapIdx_cons, Nat.zero_add, shifted, runAll_cons, Attempt.bind_run, run_argument label parameter,
      Script.readArguments]
    cases call.argumentAs s τ m.label k with
    | error e => rfl
    | ok d =>
      show (runAll f n w (.ofMethod m) call _ _).run s = _
      rw [ih (k + 1) rest' others (Nat.succ.inj count)]
      cases Script.readArguments s call m.label (k + 1) parameters with
      | error e => rfl
      | ok read =>
        simp only [spread, List.append_assoc, List.singleton_append]

/-- The check of the number of arguments, as a statement. -/
theorem Statement.run_checkCount (parameters : Nat) (locals : Locals (NativeItem.ofMethod m)) (s : Store) :
    ((checkCount parameters).run f n w (.ofMethod m) call locals).run s =
      (match call.checkCount w.label parameters with
        | .error e => .error e
        | .ok () => .ok locals, s) := by
  simp only [Statement.run, Attempt.bind_run]
  have run : (ExceptT.mk (return call.checkCount w.label parameters) : Attempt Unit).run s =
    (call.checkCount w.label parameters, s) := rfl
  rw [run]
  cases call.checkCount w.label parameters <;> rfl

/-- A statement that reads the receiver reads that of the method. -/
theorem Statement.run_receive (mirrors : f.Mirrors n) (r : Receiver) (locals : Locals (NativeItem.ofMethod m))
    (s : Store) :
    ((receive r).run f n w (.ofMethod m) call locals).run s =
      (match @CallContext.receiverFrom s c.Instance (Layout.ofClass c).marshal c.name w.label (r.source call) with
        | .error e => .error e
        | .ok a => .ok { locals with this := a }, s) := by
  simp only [Statement.run, Attempt.bind_run, Attempt.converting_run, mirrors.read_eq, mirrors.label,
    CallContext.receiverFrom]
  show _ = ((match ((Layout.ofClass c).read s (r.source call) (Layout.ofClass c).fresh).mapError _ with
    | .error e => .error e
    | .ok a => .ok { locals with this := a } : Except InvocationError (Locals (NativeItem.ofMethod m))), s)
  cases (Layout.ofClass c).read s (r.source call) (Layout.ofClass c).fresh <;> rfl

/-- What a wrapper has read and made once the native function was called. -/
def called (w : Wrapper) (m : Method c) (a : c.Instance) (arguments : Script.Arguments m.parameters) (s : Store) :
    Locals (NativeItem.ofMethod m) × Store :=
  match w.outcome with
  | .nothing => (⟨(applied m a arguments).1, spread m.parameters arguments, .undefined⟩, s)
  | .constructed | .converted =>
    (⟨(applied m a arguments).1, spread m.parameters arguments, ((applied m a arguments).2 s).1⟩,
      ((applied m a arguments).2 s).2)

/-- The native call, as a statement. -/
theorem Statement.run_invoke (a : c.Instance) (arguments : Script.Arguments m.parameters) (s : Store) :
    (invoke.run f n w (.ofMethod m) call ⟨a, spread m.parameters arguments, .undefined⟩).run s =
      (.ok (called w m a arguments s).1, (called w m a arguments s).2) := by
  unfold called
  simp only [Statement.run, gather_spread, Option.map_some, Option.getD_some]
  cases w.outcome <;> rfl

/-- Reading the arguments and calling the native function. -/
theorem Statement.runAll_call (wraps : w.Wraps m) (a : c.Instance) (s : Store) :
    (runAll f n w (.ofMethod m) call ⟨a, [], .undefined⟩ (w.arguments.mapIdx argument ++ [invoke])).run s =
      match Script.readArguments s call m.label 0 m.parameters with
      | .error e => (.error e, s)
      | .ok arguments => (.ok (called w m a arguments s).1, (called w m a arguments s).2) := by
  have shifted : w.arguments.mapIdx argument = w.arguments.mapIdx (fun i a => argument (i + 0) a) := rfl
  rw [runAll_append, Attempt.bind_run, shifted,
    runAll_arguments wraps.label s m.parameters 0 List.drop_zero w.arguments wraps.count]
  cases Script.readArguments s call m.label 0 m.parameters with
  | error e => rfl
  | ok arguments =>
    show (runAll f n w (.ofMethod m) call ⟨a, spread m.parameters arguments, .undefined⟩ [invoke]).run s = _
    rw [runAll_cons, Attempt.bind_run, run_invoke]
    rfl

/-- Reading the receiver, then the arguments, and calling the native function. -/
theorem Statement.runAll_receive (mirrors : f.Mirrors n) (wraps : w.Wraps m) (r : Receiver) (a : c.Instance)
    (s : Store) :
    (runAll f n w (.ofMethod m) call ⟨a, [], .undefined⟩
      (receive r :: (w.arguments.mapIdx argument ++ [invoke]))).run s =
      match @CallContext.receiverFrom s c.Instance (Layout.ofClass c).marshal c.name m.label (r.source call) with
      | .error e => (.error e, s)
      | .ok a =>
        match Script.readArguments s call m.label 0 m.parameters with
        | .error e => (.error e, s)
        | .ok arguments => (.ok (called w m a arguments s).1, (called w m a arguments s).2) := by
  rw [runAll_cons, Attempt.bind_run, run_receive mirrors, wraps.label]
  cases @CallContext.receiverFrom s c.Instance (Layout.ofClass c).marshal c.name m.label (r.source call) with
  | error e => rfl
  | ok a => exact runAll_call wraps a s

/-- The check of the number of arguments, and the statements behind it. -/
theorem Statement.runAll_counted (parameters : Nat) (rest : List Statement) (locals : Locals (NativeItem.ofMethod m))
    (s : Store) : (runAll f n w (.ofMethod m) call locals (checkCount parameters :: rest)).run s =
      match call.checkCount w.label parameters with
      | .error e => (.error e, s)
      | .ok () => (runAll f n w (.ofMethod m) call locals rest).run s := by
  rw [runAll_cons, Attempt.bind_run, run_checkCount]
  cases call.checkCount w.label parameters <;> rfl

/-- The statements of a wrapper that reads no receiver. -/
theorem Wrapper.statements_plain (receiver : w.receiver = none) :
    w.statements = w.arguments.mapIdx .argument ++ [.invoke] := by
  unfold statements
  simp only [receiver, List.nil_append, List.append_nil]

/-- Those of a wrapper that reads the receiver only. -/
theorem Wrapper.statements_inspecting (receiver : w.receiver = some ⟨false, true⟩) :
    w.statements =
      .checkCount w.arguments.length :: .receive ⟨false, true⟩ :: (w.arguments.mapIdx .argument ++ [.invoke]) := by
  unfold statements
  simp only [receiver, List.append_assoc]
  rfl

/-- Those of a wrapper that describes the receiver or the first argument: the arguments are not counted. -/
theorem Wrapper.statements_describing (receiver : w.receiver = some ⟨true, true⟩) :
    w.statements = .receive ⟨true, true⟩ :: (w.arguments.mapIdx .argument ++ [.invoke]) := by
  unfold statements
  simp only [receiver, List.append_assoc]
  rfl

/-- Those of a wrapper that changes the receiver. -/
theorem Wrapper.statements_changing (receiver : w.receiver = some ⟨false, false⟩) :
    w.statements = .checkCount w.arguments.length ::
      ((.receive ⟨false, false⟩ :: (w.arguments.mapIdx .argument ++ [.invoke])) ++ [.writeBack]) := by
  unfold statements
  simp only [receiver, List.append_assoc, List.cons_append]
  rfl

/-- **A wrapper around a method of a bound class runs as the method does.** -/
theorem Wrapper.run_bound (mirrors : f.Mirrors n) (wraps : w.Wraps m) (s : Store) :
    w.run f n (.ofMethod m) call s = match m.evaluate s call with
      | .error e => (.error e, s)
      | .ok effect => (.ok (effect.commit call s).1, (effect.commit call s).2) := by
  rw [run_eq]
  obtain ⟨label, parameters, operation⟩ := m
  have count : w.arguments.length = parameters.length := wraps.count
  -- the kind of the method says which statements there are; each can end the run as the method ends
  cases operation with
  | construct make | static result compute =>
    obtain ⟨receiver, outcome⟩ := wraps.shape
    rw [statements_plain receiver, Statement.runAll_call wraps]
    unfold called Method.evaluate
    simp only [outcome]
    cases Script.readArguments s call label 0 parameters <;> rfl
  | inspect result compute =>
    obtain ⟨receiver, outcome⟩ := wraps.shape
    have source : (Receiver.mk false true).source call = call.receiver := rfl
    rw [statements_inspecting receiver, count, Statement.runAll_counted, wraps.label,
      Statement.runAll_receive mirrors wraps, source]
    unfold called Method.evaluate CallContext.receiverAs
    simp only [outcome]
    cases call.checkCount label parameters.length with
    | error e => rfl
    | ok _ =>
      cases @CallContext.receiverFrom s c.Instance (Layout.ofClass c).marshal c.name label call.receiver with
      | error e => rfl
      | ok a => cases Script.readArguments s call label 0 parameters <;> rfl
  | describe words =>
    obtain ⟨receiver, outcome⟩ := wraps.shape
    have source : (Receiver.mk true true).source call = call.arguments.head?.getD call.receiver := rfl
    rw [statements_describing receiver, Statement.runAll_receive mirrors wraps, source]
    unfold called Method.evaluate CallContext.firstOrReceiverAs
    simp only [outcome]
    cases @CallContext.receiverFrom s c.Instance (Layout.ofClass c).marshal c.name label
      (call.arguments.head?.getD call.receiver) with
    | error e => rfl
    | ok a => cases Script.readArguments s call label 0 parameters <;> rfl
  | change next =>
    obtain ⟨receiver, outcome⟩ := wraps.shape
    have source : (Receiver.mk false false).source call = call.receiver := rfl
    rw [statements_changing receiver, count, Statement.runAll_counted, wraps.label, Statement.runAll_append,
      Attempt.bind_run, Statement.runAll_receive mirrors wraps, source]
    unfold called Method.evaluate CallContext.receiverAs
    simp only [outcome]
    cases call.checkCount label parameters.length with
    | error e => rfl
    | ok _ =>
      cases @CallContext.receiverFrom s c.Instance (Layout.ofClass c).marshal c.name label call.receiver with
      | error e => rfl
      | ok a =>
        cases Script.readArguments s call label 0 parameters with
        | error e => rfl
        | ok arguments =>
          -- only here something is written back, which the file of the class does as the layout says
          show Prod.mk _ (f.writeBack n call (next a arguments) s).2 = _
          rw [mirrors.writeBack_eq]
          rfl

/-- So does it on an engine. -/
theorem Wrapper.runBody_wrapper (mirrors : f.Mirrors n) (wraps : w.Wraps m) (caller : Script.Engine.Caller)
    (e : Script.Engine) : Script.Engine.runBody caller e (m.wrapper call) =
      some ({ e with store := (w.run f n (.ofMethod m) call e.store).2 },
        (w.run f n (.ofMethod m) call e.store).1) := by
  rw [Method.wrapper_run, run_bound mirrors wraps]
  cases m.evaluate e.store call <;> rfl

end

end ScriptBridge.Binding
