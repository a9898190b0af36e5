import ScriptBridge.Proofs.Script.Calls

/-!
# ScriptBridge.Proofs.Script.ReceiverClass

Which receivers a method accepts.

A method of instances reads its receiver field by field, through the prototypes of the receiver.  So it accepts any
object on which all public fields of its class are found with values that can be converted (`Store.Passes`), be it a
handle of the class, of another class, or no handle at all; the native type is not asked for.  A class without fields
accepts every object.  Any other receiver is refused for the first field that cannot be read, and nothing happens.

Main results:
  * `Layout.read_eq_ok_iff`, `Layout.read_eq_error_iff` - what is read as an instance, and why it is not;
  * `Method.wrapper_receiver` - what a call of an instance method makes of its receiver;
  * `Method.markerKind_of_vector` - a method that accepts an instance of another class.
-/

namespace ScriptBridge.Script

open ScriptBridge.Native

/-! ## §1. What is read as an instance. -/

namespace Field

variable {α : Type} {s : Store} {handle : ObjectId}

/-- The field is found on the object or along its prototypes, with a value that can be converted. -/
def Converts (f : Field α) (s : Store) (handle : ObjectId) : Prop :=
  ∃ d, f.marshal.ofScript s (s.property handle f.name) = .ok d

/-- The error is that of the first field that cannot be converted. -/
inductive Blames (s : Store) (handle : ObjectId) : List (Field α) → ConvertError → Prop where
  | here {f : Field α} {rest : List (Field α)} {cause : ConvertError}
      (failed : f.marshal.ofScript s (s.property handle f.name) = .error cause) :
      Blames s handle (f :: rest) (.inProperty f.name cause)
  | later {f : Field α} {rest : List (Field α)} {e : ConvertError} (fine : f.Converts s handle)
      (others : Blames s handle rest e) : Blames s handle (f :: rest) e

/-- Reading a field fails if its value cannot be converted, and says which field it is. -/
theorem read_eq_error_iff {f : Field α} {a : α} {e : ConvertError} : f.read s handle a = .error e ↔
    ∃ cause, f.marshal.ofScript s (s.property handle f.name) = .error cause ∧ e = .inProperty f.name cause := by
  unfold read Store.propertyAs
  cases f.marshal.ofScript s (s.property handle f.name) with
  | ok d => exact iff_of_false (by rintro ⟨⟩) (by rintro ⟨_, ⟨⟩, -⟩)
  | error cause =>
    constructor
    · intro same
      exact ⟨cause, rfl, (Except.error.inj same).symm⟩
    · rintro ⟨_, ⟨⟩, rfl⟩
      rfl

/-- Fields are read to the end if all of them convert. -/
theorem readAll_eq_none_iff {fields : List (Field α)} (a : α) :
    (readAll s handle a fields).2 = none ↔ ∀ f ∈ fields, f.Converts s handle := by
  induction fields generalizing a with
  | nil => exact iff_of_true rfl (List.forall_mem_nil _)
  | cons f rest ih =>
    rw [List.forall_mem_cons, readAll]
    cases read : f.read s handle a with
    | error e =>
      obtain ⟨cause, failed, -⟩ := read_eq_error_iff.1 read
      refine iff_of_false (by rintro ⟨⟩) ?_
      rintro ⟨⟨d, fine⟩, -⟩
      rw [failed] at fine
      cases fine
    | ok next =>
      obtain ⟨d, fine, -⟩ := read_eq_ok_iff.1 read
      exact (ih next).trans (and_iff_right ⟨d, fine⟩).symm

/-- Otherwise the first field that does not is to blame. -/
theorem readAll_eq_some_iff {fields : List (Field α)} (a : α) {e : ConvertError} :
    (readAll s handle a fields).2 = some e ↔ Blames s handle fields e := by
  induction fields generalizing a with
  | nil => exact iff_of_false (by rintro ⟨⟩) (by rintro ⟨⟩)
  | cons f rest ih =>
    rw [readAll]
    -- reading ends at the first field that fails
    cases read : f.read s handle a with
    | error other =>
      obtain ⟨cause, failed, rfl⟩ := read_eq_error_iff.1 read
      constructor
      · intro same
        rw [← Option.some.inj same]
        exact .here failed
      · intro blames
        cases blames with
        | here failed' => rw [Except.error.inj (failed.symm.trans failed')]
        | later fine =>
          obtain ⟨d, fine⟩ := fine
          rw [failed] at fine
          cases fine
    | ok next =>
      obtain ⟨d, fine, -⟩ := read_eq_ok_iff.1 read
      refine (ih next).trans ⟨.later ⟨d, fine⟩, fun blames => ?_⟩
      cases blames with
      | here failed =>
        rw [fine] at failed
        cases failed
      | later _ others => exact others

end Field

/-- The value passes for an instance of the class: it is an object on which all public fields are found and can be
converted.  What kind of object it is and which native type it was made for plays no part. -/
def Store.Passes (s : Store) (c : ClassName) (v : Value) : Prop :=
  ∃ id, v = .object id ∧ ∀ f ∈ (Layout.ofClass c).fields, f.Converts s id

/-- Why a value does not pass for an instance of the class. -/
inductive Store.Rejects (s : Store) (c : ClassName) : Value → ConvertError → Prop where
  /-- It is no object. -/
  | noObject {v : Value} (other : ∀ id, v ≠ .object id) : Rejects s c v (.ofValue s c.name v)
  /-- One of the fields cannot be converted. -/
  | field {id : ObjectId} {e : ConvertError} (blames : Field.Blames s id (Layout.ofClass c).fields e) :
      Rejects s c (.object id) e

namespace Layout

variable {c : ClassName} {s : Store} {v : Value}

/-- Reading an object is reading its fields. -/
theorem read_object (l : Layout c) (s : Store) (id : ObjectId) (base : c.Instance) :
    l.read s (.object id) base = match (Field.readAll s id (l.start s id base) l.fields).2 with
      | none => .ok (Field.readAll s id (l.start s id base) l.fields).1
      | some e => .error e := by
  unfold read readInto
  simp only
  rcases Field.readAll s id (l.start s id base) l.fields with ⟨next, _ | e⟩
  · rfl
  · rfl

/-- A value can be read as an instance if it passes for one. -/
theorem read_eq_ok_iff (base : c.Instance) :
    (∃ a, (Layout.ofClass c).read s v base = .ok a) ↔ s.Passes c v := by
  cases v with
  | object id =>
    rw [read_object]
    cases ended : (Field.readAll s id ((Layout.ofClass c).start s id base) (Layout.ofClass c).fields).2 with
    | none => exact iff_of_true ⟨_, rfl⟩ ⟨id, rfl, (Field.readAll_eq_none_iff _).1 ended⟩
    | some e =>
      refine iff_of_false (by rintro ⟨_, ⟨⟩⟩) ?_
      rintro ⟨_, ⟨⟩, all⟩
      rw [(Field.readAll_eq_none_iff _).2 all] at ended
      cases ended
  | _ => exact iff_of_false (by rintro ⟨_, ⟨⟩⟩) (by rintro ⟨_, ⟨⟩, -⟩)

/-- Why a value cannot be read as an instance. -/
theorem read_eq_error_iff (base : c.Instance) {e : ConvertError} :
    (Layout.ofClass c).read s v base = .error e ↔ s.Rejects c v e := by
  cases v with
  | object id =>
    have blames : s.Rejects c (.object id) e ↔ Field.Blames s id (Layout.ofClass c).fields e := by
      refine ⟨fun rejects => ?_, .field⟩
      cases rejects with
      | noObject other => exact absurd rfl (other id)
      | field blames => exact blames
    rw [blames, read_object, ← Field.readAll_eq_some_iff ((Layout.ofClass c).start s id base)]
    cases (Field.readAll s id ((Layout.ofClass c).start s id base) (Layout.ofClass c).fields).2 with
    | none => exact iff_of_false (by rintro ⟨⟩) (by rintro ⟨⟩)
    | some other =>
      exact ⟨fun same => congrArg _ (Except.error.inj same), fun same => congrArg _ (Option.some.inj same)⟩
  | _ =>
    refine ⟨fun failed => ?_, fun rejects => ?_⟩
    · cases failed
      exact .noObject (by rintro _ ⟨⟩)
    · cases rejects
      rfl

end Layout

/-! ## §2. Methods of instances. -/

/-- Whether an operation starts from a receiver. -/
def Operation.hasReceiver {c : ClassName} {parameters : List ValueType} : Operation c parameters → Bool
  | .construct _ | .static _ _ => false
  | _ => true

namespace Method

variable {c : ClassName} {m : Method c}

/-- The method stands on the prototype of the class. -/
def OfInstances (m : Method c) : Prop :=
  ∃ set ∈ (Interface.ofClass c).methods, set.isStatic = false ∧ m ∈ set.all

/-- Whether the method puts its receiver into words.  Then it may be handed the receiver as its first argument. -/
def describes (m : Method c) : Bool :=
  match m.operation with
  | .describe _ => true
  | _ => false

/-- What the method does with a receiver and arguments. -/
def effect (m : Method c) (receiver : c.Instance) (arguments : Arguments m.parameters) : Effect c :=
  match m.operation with
  | .construct make => ⟨none, (Layout.ofClass c).toScript (make arguments)⟩
  | .static result compute => ⟨none, (marshalOf result).toScript (compute arguments)⟩
  | .inspect result compute => ⟨none, (marshalOf result).toScript (compute receiver arguments)⟩
  | .describe words => ⟨none, Marshal.toScript (words receiver arguments)⟩
  | .change next => ⟨some (next receiver arguments), return .undefined⟩

theorem instances_shape (c : ClassName) : (Interface.ofClass c).methods.all (fun set => set.isStatic ||
    set.all.all (fun m => m.operation.hasReceiver && (!m.describes || m.parameters.isEmpty))) = true := by
  cases c <;> rfl

/-- A method of instances starts from a receiver, and a description has no parameters. -/
theorem OfInstances.shape (inst : m.OfInstances) :
    m.operation.hasReceiver = true ∧ (m.describes = true → m.parameters = []) := by
  obtain ⟨set, listed, dynamic, mem⟩ := inst
  have known := List.all_eq_true.1 (instances_shape c) set listed
  rw [dynamic, Bool.false_or] at known
  have shape := List.all_eq_true.1 known m mem
  rw [Bool.and_eq_true] at shape
  refine ⟨shape.1, fun describes => ?_⟩
  have bare := shape.2
  rw [describes] at bare
  exact List.isEmpty_iff.1 bare

/-- A call of a method of instances checks the number of arguments, reads the receiver and then the arguments. -/
theorem evaluate_instance (inst : m.OfInstances) {call : CallContext}
    (own : m.describes = true → call.arguments = []) (s : Store) :
    m.evaluate s call = call.checkCount m.label m.parameters.length >>= fun _ =>
      call.receiverAs s c m.label >>= fun receiver =>
        readArguments s call m.label 0 m.parameters >>= fun arguments => .ok (m.effect receiver arguments) := by
  obtain ⟨starts, bare⟩ := inst.shape
  unfold evaluate effect
  unfold describes at own bare
  cases operation : m.operation with
  | construct make =>
    rw [operation] at starts
    cases starts
  | static result compute =>
    rw [operation] at starts
    cases starts
  | inspect result compute => rfl
  | change next => rfl
  | describe words =>
    rw [operation] at own bare
    -- a description takes no arguments, so it describes the receiver
    have counted : call.checkCount m.label m.parameters.length = .ok () := by
      rw [CallContext.checkCount, own rfl, bare rfl]
      rfl
    have first : call.firstOrReceiverAs s c m.label = call.receiverAs s c m.label := by
      rw [CallContext.firstOrReceiverAs, own rfl]
      rfl
    rw [counted, ← first]
    rfl

/-! ## §3. Calls. -/

/-- What a call of a method of instances makes of its receiver. -/
structure Receives (m : Method c) (e : Engine) (call : CallContext) (after : Engine) (result : CallResult) : Prop where
  /-- It succeeds if the number of arguments is right, the receiver passes for an instance, and so do the arguments for
  the parameters. -/
  accepted : (∃ v, result = .ok v) ↔ call.arguments.length = m.parameters.length ∧ e.store.Passes c call.receiver ∧
    ∃ arguments, readArguments e.store call m.label 0 m.parameters = .ok arguments
  /-- With the right number of arguments, a receiver that does not pass is what it fails for. -/
  refused : call.arguments.length = m.parameters.length → ¬ e.store.Passes c call.receiver →
    ∃ cause, e.store.Rejects c call.receiver cause ∧ result = .error ⟨m.label, .receiver c.name cause⟩
  /-- If it fails, nothing happens. -/
  unchanged : (∃ error, result = .error error) → after = e
  /-- If it succeeds, nothing is written onto any object but the receiver, and onto that only if it is a mutable handle,
  of whatever class. -/
  untouched : ∀ id o, e.store.object? id = some o → call.receiver ≠ .object id ∨ o.isMutable = false →
    after.store.object? id = some o

/-- A call that succeeds writes onto nothing but a mutable handle that it was called on. -/
theorem commit_untouched {effect : Effect c} {s : Store} {call : CallContext}
    (evaluated : m.evaluate s call = .ok effect) {id : ObjectId} {o : Object} (found : s.object? id = some o)
    (spared : call.receiver ≠ .object id ∨ o.isMutable = false) : (effect.commit call s).2.object? id = some o := by
  have outcome := Effect.commit_outcome evaluated
  generalize (effect.commit call s).2 = t at outcome ⊢
  cases outcome with
  | extended adds => exact adds.object? found
  | @wrote next receiver arguments handle p operation read called found' mutable =>
    have altered := (Layout.place_shows (Layout.lawful_ofClass c) .mutable (next receiver arguments) found'
      (Object.isMutable_iff.1 mutable)).1
    refine altered.others id o ?_ found
    rintro rfl
    obtain rfl := Option.some.inj (found'.symm.trans found)
    rcases spared with other | still
    · exact other called
    · rw [mutable] at still
      cases still

/-- The receiver of a call, read as an instance. -/
theorem receiverAs_eq (s : Store) (call : CallContext) (label : String) : call.receiverAs s c label =
    ((Layout.ofClass c).read s call.receiver (Layout.ofClass c).fresh).mapError
      (fun e => ⟨label, .receiver c.name e⟩) := rfl

/-- A failure does nothing. -/
theorem receives_error {e : Engine} {call : CallContext} {error : InvocationError}
    (fails : ¬ (call.arguments.length = m.parameters.length ∧ e.store.Passes c call.receiver ∧
      ∃ arguments, readArguments e.store call m.label 0 m.parameters = .ok arguments))
    (refused : call.arguments.length = m.parameters.length → ¬ e.store.Passes c call.receiver →
      ∃ cause, e.store.Rejects c call.receiver cause ∧ error = ⟨m.label, .receiver c.name cause⟩) :
    m.Receives e call e (.error error) where
  accepted := iff_of_false (by rintro ⟨_, ⟨⟩⟩) fails
  refused counted rejected := by
    obtain ⟨cause, rejects, rfl⟩ := refused counted rejected
    exact ⟨cause, rejects, rfl⟩
  unchanged _ := rfl
  untouched _ _ found _ := found

/-- **Which receivers a method accepts**: those that pass for instances of its class, whatever they are.  All others are
refused as receivers, and nothing happens to them. -/
theorem wrapper_receiver (inst : m.OfInstances) (caller : Engine.Caller) (e : Engine) {call : CallContext}
    (own : m.describes = true → call.arguments = []) : ∃ after result,
      Engine.runBody caller e (m.wrapper call) = some (after, result) ∧ m.Receives e call after result := by
  have steps := evaluate_instance inst own e.store
  rw [wrapper_run]
  by_cases counted : call.arguments.length = m.parameters.length
  case neg =>
    -- the number of arguments is looked at first
    rw [CallContext.checkCount, if_neg counted] at steps
    rw [steps]
    exact ⟨e, _, rfl, receives_error (fun all => counted all.1) (fun right => absurd right counted)⟩
  rw [CallContext.checkCount, if_pos counted, receiverAs_eq] at steps
  cases read : (Layout.ofClass c).read e.store call.receiver (Layout.ofClass c).fresh with
  | error cause =>
    have fails : ¬ e.store.Passes c call.receiver := by
      intro passes
      obtain ⟨a, fine⟩ := (Layout.read_eq_ok_iff _).2 passes
      rw [read] at fine
      cases fine
    rw [read] at steps
    rw [steps]
    exact ⟨e, _, rfl, receives_error (fun all => fails all.2.1)
      (fun _ _ => ⟨cause, (Layout.read_eq_error_iff _).1 read, rfl⟩)⟩
  | ok receiver =>
    have passes := (Layout.read_eq_ok_iff _).1 ⟨receiver, read⟩
    rw [read] at steps
    cases converted : readArguments e.store call m.label 0 m.parameters with
    | error error =>
      rw [converted] at steps
      rw [steps]
      refine ⟨e, _, rfl, receives_error ?_ (fun _ fails => absurd passes fails)⟩
      rintro ⟨-, -, arguments, fine⟩
      rw [converted] at fine
      cases fine
    | ok arguments =>
      rw [converted] at steps
      rw [steps]
      exact ⟨_, _, rfl, {
        accepted := iff_of_true ⟨_, rfl⟩ ⟨counted, passes, arguments, converted⟩
        refused := fun _ fails => absurd passes fails
        unchanged := by rintro ⟨_, ⟨⟩⟩
        untouched := fun _ _ found spared => commit_untouched steps found spared }⟩

end Method

/-! ## §4. A vector in the place of others. -/

/-- An engine with all bound classes, and a new vector on it. -/
def Engine.withVector : Engine × Value :=
  Engine.bound.useStore ((Layout.ofClass .vector3).toScript Vector3.zero)

/-- The vector is an object. -/
theorem Engine.exists_vector : ∃ id, Engine.withVector.2 = .object id :=
  ⟨_, rfl⟩

namespace Method

/-- The method that describes entities. -/
def describeEntity : Method .entity :=
  ⟨"Entity_Describe_const", [], .inspect .string (fun e _ => Entity.describe e)⟩

/-- The method that tells the kind of a marker. -/
def markerKind : Method .marker :=
  ⟨"Marker_Kind_const", [], .inspect .string (fun m _ => Marker.kind m)⟩

/-- A vector is no entity, so it cannot be described as one. -/
theorem wrapper_receiver_describe : describeEntity.OfInstances ∧
    ¬ Engine.withVector.1.store.Passes .entity Engine.withVector.2 ∧
    ∃ after result, Engine.runBody (Engine.invoke bindings 0) Engine.withVector.1
      (describeEntity.wrapper ⟨Engine.withVector.2, [], [], false⟩) = some (after, result) ∧
      describeEntity.Receives Engine.withVector.1 ⟨Engine.withVector.2, [], [], false⟩ after result := by
  have inst : describeEntity.OfInstances := ⟨_, List.mem_cons_of_mem _ List.mem_cons_self, rfl, List.mem_cons_self⟩
  have unread : ((Layout.ofClass .entity).read Engine.withVector.1.store Engine.withVector.2
    Entity.fresh).toOption.isNone = true := by decide +kernel
  refine ⟨inst, fun passes => ?_, wrapper_receiver inst _ _ nofun⟩
  obtain ⟨a, read⟩ := (Layout.read_eq_ok_iff Entity.fresh).2 passes
  rw [read] at unread
  cases unread

/-- Every object is accepted as a marker. -/
theorem markerKind_run (caller : Engine.Caller) (e : Engine) (id : ObjectId) (backtrace : List String) :
    Engine.runBody caller e (markerKind.wrapper ⟨.object id, [], backtrace, false⟩) =
      some (e, .ok (.string "marker")) :=
  rfl

/-- A vector is no marker either, but it is accepted as one. -/
theorem markerKind_of_vector : markerKind.OfInstances ∧
    Engine.withVector.1.store.isInstanceOf Engine.withVector.2 (.value (.object .vector3)) = true ∧
    Engine.withVector.1.store.isInstanceOf Engine.withVector.2 (.value (.object .marker)) = false ∧
    Engine.runBody (Engine.invoke bindings 0) Engine.withVector.1
      (markerKind.wrapper ⟨Engine.withVector.2, [], [], false⟩) =
        some (Engine.withVector.1, .ok (.string "marker")) := by
  obtain ⟨id, object⟩ := Engine.exists_vector
  refine ⟨⟨_, List.mem_cons_self, rfl, List.mem_cons_self⟩, by decide +kernel, by decide +kernel, ?_⟩
  rw [object, markerKind_run]

end Method

end ScriptBridge.Script
