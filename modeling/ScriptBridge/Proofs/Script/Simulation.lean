import ScriptBridge.Proofs.Script.Publication

/-!
# ScriptBridge.Proofs.Script.Simulation

Handles simulate native values.

Whatever instance methods scripts call on the handle of an instance, they get the answers that the native methods
give, and the handle goes on standing for the instance that the native methods make.  The invariant is
`Store.Represents`: the handle shows an instance that agrees with the native one, and its prototype has the methods.

Main results:
  * `MethodCall.realized` - the published function of a method does natively what the method does;
  * `MethodCall.perform_represents` - one call;
  * `MethodCall.performAll_represents` - any number of calls;
  * `handles_simulate` - the same from the start, on any engine that provides the class.
-/

namespace ScriptBridge.Script

open ScriptBridge.Native ScriptBridge.Numeric

/-! ## §1. Native calls. -/

/-- A value together with its type. -/
structure Item where
  type : ValueType
  data : type.Data

/-- A call of an instance method in native terms. -/
inductive MethodCall : ClassName → Type where
  | length : MethodCall .vector3
  | normalize : MethodCall .vector3
  | scale (factor : Single) : MethodCall .vector3
  | scaleBy (factors : Vector3) : MethodCall .vector3
  | text : MethodCall .vector3
  | translate (offset : Vector3) : MethodCall .transform
  | rename (name : String) : MethodCall .entity
  | describe : MethodCall .entity
  | fill (count : Whole .i32) : MethodCall .payload
  | checksum : MethodCall .payload
  | kind : MethodCall .marker

namespace MethodCall

variable {c : ClassName}

/-- The name under which scripts find the method. -/
def name : MethodCall c → String
  | length => "Length"
  | normalize => "Normalize"
  | scale _ | scaleBy _ => "Scale"
  | text => "toString"
  | translate _ => "Translate"
  | rename _ => "Rename"
  | describe => "Describe"
  | fill _ => "Fill"
  | checksum => "Checksum"
  | kind => "Kind"

/-- The native arguments. -/
def arguments : MethodCall c → List Item
  | scale factor => [⟨.single, factor⟩]
  | scaleBy factors => [⟨.object .vector3, factors⟩]
  | translate offset => [⟨.object .vector3, offset⟩]
  | rename name => [⟨.string, name⟩]
  | fill count => [⟨.whole .i32, count⟩]
  | length | normalize | text | describe | checksum | kind => []

/-- What the native method makes of the instance. -/
def next : MethodCall c → c.Instance → c.Instance
  | normalize, v => Vector3.normalize v
  | scale factor, v => Vector3.scale v factor
  | scaleBy factors, v => Vector3.scaleBy v factors
  | translate offset, t => Transform.translate t offset
  | rename name, e => Entity.rename e name
  | fill count, p => Payload.fill p count
  | length, a | text, a | describe, a | checksum, a | kind, a => a

/-- What the native method returns, if it returns anything. -/
def answer : MethodCall c → c.Instance → Option Item
  | length, v => some ⟨.single, Vector3.length v⟩
  | text, v => some ⟨.string, Vector3.text v⟩
  | describe, e => some ⟨.string, Entity.describe e⟩
  | checksum, p => some ⟨.whole .i32, Payload.checksum p⟩
  | kind, m => some ⟨.string, Marker.kind m⟩
  | normalize, _ | scale _, _ | scaleBy _, _ | translate _, _ | rename _, _ | fill _, _ => none

/-- What becomes of an instance by calls. -/
def final (a : c.Instance) (calls : List (MethodCall c)) : c.Instance :=
  calls.foldl (fun a call => call.next a) a

/-- What the calls return, one after the other. -/
def answers (a : c.Instance) : List (MethodCall c) → List (Option Item)
  | [] => []
  | call :: rest => call.answer a :: answers (call.next a) rest

/-! ## §2. The same calls by scripts. -/

/-- Converts arguments, one after the other. -/
def convertItems : List Item → StoreM (List Value)
  | [] => return []
  | item :: rest => do
    let v ← (marshalOf item.type).toScript item.data
    let vs ← convertItems rest
    return v :: vs

/-- Calls the method on a handle, with the arguments converted. -/
def perform (depth : Nat) (e : Engine) (handle : Value) (call : MethodCall c) : Option (Engine × CallResult) :=
  let (prepared, arguments) := e.useStore (convertItems call.arguments)
  Engine.run bindings depth prepared (Body.invokeMethod handle call.name arguments)

/-- Makes calls on a handle, one after the other. -/
def performAll (depth : Nat) (e : Engine) (handle : Value) : List (MethodCall c) → Option (Engine × List CallResult)
  | [] => some (e, [])
  | call :: rest =>
    (call.perform depth e handle).bind (fun (after, result) =>
      (performAll depth after handle rest).map (fun (last, results) => (last, result :: results)))

/-- The script value for what a native method returns.  Conversions of answers do not depend on the store. -/
def scriptValue (s : Store) : Option Item → Value
  | none => .undefined
  | some item => ((marshalOf item.type).toScript item.data s).1

/-! ## §3. What agreement means for native methods. -/

/-- Agreement and countability pass on, and nothing private shows in the answers. -/
theorem agree_trans {a b d : c.Instance} (first : c.Agree a b) (second : c.Agree b d) : c.Agree a d := by
  cases c with
  | vector3 => exact Eq.trans first second
  | transform => exact Eq.trans first second
  | entity => exact ⟨first.1.trans second.1, first.2.trans second.2⟩
  | payload => exact Eq.trans first second
  | marker => exact Eq.trans first second

/-- Instances that agree are countable together. -/
theorem countable_of_agree {a b : c.Instance} (agree : c.Agree a b) (countable : c.Countable a) : c.Countable b := by
  cases c with
  | transform =>
    obtain rfl : a = b := agree
    exact countable
  | vector3 => exact trivial
  | entity => exact trivial
  | payload => exact trivial
  | marker => exact trivial

/-- Instances that agree go on to agree when the same method is called. -/
theorem next_agree (call : MethodCall c) {a b : c.Instance} (agree : c.Agree a b) :
    c.Agree (call.next a) (call.next b) := by
  cases call with
  | rename name => exact ⟨agree.1, rfl⟩
  | describe => exact agree
  | length => exact agree
  | text => exact agree
  | checksum => exact agree
  | kind => exact agree
  | normalize => exact congrArg Vector3.normalize agree
  | scale factor => exact congrArg (Vector3.scale · factor) agree
  | scaleBy factors => exact congrArg (Vector3.scaleBy · factors) agree
  | translate offset => exact congrArg (Transform.translate · offset) agree
  | fill count => exact congrArg (Payload.fill · count) agree

/-- Instances that agree answer alike. -/
theorem answer_agree (call : MethodCall c) {a b : c.Instance} (agree : c.Agree a b) :
    call.answer a = call.answer b := by
  cases call with
  | describe =>
    -- the words for an entity leave its secret out
    have words : Entity.describe a = Entity.describe b := by
      unfold Entity.describe
      rw [agree.1, agree.2]
    exact congrArg (fun t => some (⟨.string, t⟩ : Item)) words
  | length => exact congrArg (answer length) agree
  | text => exact congrArg (answer text) agree
  | checksum => exact congrArg (answer checksum) agree
  | kind => rfl
  | normalize => rfl
  | scale factor => rfl
  | scaleBy factors => rfl
  | translate offset => rfl
  | rename name => rfl
  | fill count => rfl

/-- A countable instance stays countable. -/
theorem countable_next (call : MethodCall c) {a : c.Instance} (countable : c.Countable a) :
    c.Countable (call.next a) := by
  cases call with
  | translate offset => exact countable
  | _ => exact trivial

/-- A method that answers leaves the instance alone. -/
theorem next_of_answer {call : MethodCall c} {a : c.Instance} {item : Item} (answers : call.answer a = some item) :
    call.next a = a := by
  cases call with
  | normalize => exact nomatch answers
  | scale factor => exact nomatch answers
  | scaleBy factors => exact nomatch answers
  | translate offset => exact nomatch answers
  | rename name => exact nomatch answers
  | fill count => exact nomatch answers
  | _ => rfl

/-- The script value for an answer is the same on every store. -/
theorem scriptValue_congr (call : MethodCall c) (a : c.Instance) (s t : Store) :
    scriptValue s (call.answer a) = scriptValue t (call.answer a) := by
  cases call with
  | _ => rfl

end MethodCall

/-! ## §4. Arguments. -/

/-- A script value that the item was converted to. -/
def Store.Carries (s : Store) (item : Item) (v : Value) : Prop :=
  Made ((marshalOf item.type).toScript item.data) 0 s v

/-- There is such a value for every item. -/
def Store.CarriesAll (s : Store) : List Item → List Value → Prop
  | [], [] => True
  | item :: items, v :: vs => s.Carries item v ∧ CarriesAll s items vs
  | _, _ => False

/-- There are as many values as items. -/
theorem Store.CarriesAll.length_eq {s : Store} {items : List Item} {vs : List Value} (h : s.CarriesAll items vs) :
    vs.length = items.length := by
  induction items generalizing vs with
  | nil =>
    cases vs with
    | nil => rfl
    | cons v vs => exact absurd h id
  | cons item items ih =>
    cases vs with
    | nil => exact absurd h id
    | cons v vs => rw [List.length_cons, List.length_cons, ih h.2]

/-- Converting arguments only adds objects, and there is a value for every argument. -/
theorem convertItems_carries (items : List Item) (s : Store) :
    s.Extends (MethodCall.convertItems items s).2 ∧
      (MethodCall.convertItems items s).2.CarriesAll items (MethodCall.convertItems items s).1 := by
  induction items generalizing s with
  | nil => exact ⟨.refl s, trivial⟩
  | cons item rest ih =>
    have first := (lawful_marshalOf item.type).toScript_extends item.data s
    obtain ⟨extended, carried⟩ := ih ((marshalOf item.type).toScript item.data s).2
    refine ⟨first.trans extended, ?_, carried⟩
    -- what was made of the first argument stays while the others are converted
    exact (Made.self _ s).from_le (Nat.zero_le _) |>.follows extended.objects

/-- The value of a single argument. -/
theorem exists_of_carries_one {s : Store} {item : Item} {arguments : List Value}
    (carried : s.CarriesAll [item] arguments) : ∃ v, arguments = [v] ∧ s.Carries item v := by
  obtain ⟨v, one⟩ := List.length_eq_one_iff.1 carried.length_eq
  subst one
  exact ⟨v, rfl, carried.1⟩

/-- A handle that was made for an instance passes the test for its class. -/
theorem nativeType_of_made {c : ClassName} {a : c.Instance} {n : Nat} {s : Store} {v : Value}
    (made : Made ((marshalOf (.object c)).toScript a) n s v) : s.isInstanceOf v (.value (.object c)) = true := by
  obtain ⟨origin, -, rfl, kept⟩ := made
  obtain ⟨-, o, shows, nativeType, -⟩ := Layout.make_shows (Layout.lawful_ofClass c) .mutable a origin
  have value : ((marshalOf (.object c)).toScript a origin).1 = .object ⟨origin.objects.length⟩ := by
    show ((Layout.ofClass c).toScript a origin).1 = _
    rw [Layout.toScript_run]
  have found : s.object? ⟨origin.objects.length⟩ = some o := by
    apply kept.object? (Nat.le_refl _)
    show ((Layout.ofClass c).toScript a origin).2.object? _ = _
    rw [Layout.toScript_eq_make]
    exact shows.object
  rw [value]
  show (((s.object? ⟨origin.objects.length⟩).bind (·.nativeType)) == some (.value (.object c))) = true
  rw [found, Option.bind_some, nativeType]
  exact beq_self_eq_true _

section

variable {c : ClassName} {s : Store} {call : CallContext} {label : String} {id : ObjectId} {b : c.Instance}

/-- The receiver of a method is the instance that is read off its handle. -/
theorem receiverAs_of_read (handle : call.receiver = .object id)
    (read : (Layout.ofClass c).read s (.object id) (Layout.ofClass c).fresh = .ok b) :
    call.receiverAs s c label = .ok b := by
  unfold CallContext.receiverAs CallContext.receiverFrom
  rw [handle]
  show ((Layout.ofClass c).read s (.object id) (Layout.ofClass c).fresh).mapError _ = .ok b
  rw [read]
  rfl

/-- A single argument is read back. -/
theorem readArguments_one (label : String) {τ : ValueType} {x : τ.Data} {v : Value} (one : call.arguments = [v])
    (restores : (marshalOf τ).Restores x x) (carried : s.Carries ⟨τ, x⟩ v) :
    readArguments s call label 0 [τ] = .ok (x, ()) := by
  have read := restores.toScript 0 s v carried
  have converted : call.argumentAs s τ label 0 = .ok x := by
    unfold CallContext.argumentAs CallContext.argument
    rw [one]
    show ((marshalOf τ).ofScript s v).mapError _ = .ok x
    rw [read]
    rfl
  rw [readArguments, converted]
  rfl

namespace Method

/-- A method that inspects its receiver answers what it computes. -/
theorem evaluate_inspect {parameters : List ValueType} {result : ValueType}
    {compute : c.Instance → Arguments parameters → result.Data} {arguments : Arguments parameters}
    (count : call.arguments.length = parameters.length) (receiver : call.receiverAs s c label = .ok b)
    (converted : readArguments s call label 0 parameters = .ok arguments) :
    (Method.mk label parameters (.inspect result compute)).evaluate s call =
      .ok ⟨none, (marshalOf result).toScript (compute b arguments)⟩ := by
  have counted : call.checkCount label parameters.length = .ok () := if_pos count
  unfold evaluate
  simp only
  rw [counted, receiver, converted]
  rfl

/-- A method that changes its receiver leaves what it makes of it. -/
theorem evaluate_change {parameters : List ValueType} {next : c.Instance → Arguments parameters → c.Instance}
    {arguments : Arguments parameters} (count : call.arguments.length = parameters.length)
    (receiver : call.receiverAs s c label = .ok b)
    (converted : readArguments s call label 0 parameters = .ok arguments) :
    (Method.mk label parameters (.change next)).evaluate s call =
      .ok ⟨some (next b arguments), pure .undefined⟩ := by
  have counted : call.checkCount label parameters.length = .ok () := if_pos count
  unfold evaluate
  simp only
  rw [counted, receiver, converted]
  rfl

/-- A method that describes its receiver answers in words. -/
theorem evaluate_describe {words : c.Instance → Arguments [] → String} (no_arguments : call.arguments = [])
    (receiver : call.receiverAs s c label = .ok b) :
    (Method.mk label [] (.describe words)).evaluate s call = .ok ⟨none, Marshal.toScript (words b ())⟩ := by
  have first : call.firstOrReceiverAs s c label = .ok b := by
    unfold CallContext.firstOrReceiverAs
    rw [no_arguments]
    exact receiver
  unfold evaluate
  simp only
  rw [first]
  rfl

end Method

end

/-! ## §5. Published functions. -/

/-- What a call of a method comes to. -/
def MethodCall.effect {c : ClassName} (call : MethodCall c) (b : c.Instance) : Method.Effect c :=
  match call.answer b with
  | some item => ⟨none, (marshalOf item.type).toScript item.data⟩
  | none => ⟨some (call.next b), pure .undefined⟩

/-- The function behind the name of the method comes to that effect on the given call. -/
def MethodCall.Realized {c : ClassName} (call : MethodCall c) (s : Store) (context : CallContext) (b : c.Instance) :
    Prop :=
  ∃ set, (Interface.ofClass c).methods? call.name = some set ∧ set.isStatic = false ∧
    ∃ m : Method c, m.evaluate s context = .ok (call.effect b) ∧
      ∀ caller (e : Engine), e.store = s →
        Engine.runBody caller e (set.function context) = Engine.runBody caller e (m.wrapper context)

/-- A method without others of its name is called directly. -/
theorem MethodCall.realized_single {c : ClassName} {call : MethodCall c} {s : Store} {context : CallContext}
    {b : c.Instance} {m : Method c}
    (found : (Interface.ofClass c).methods? call.name = some (.single call.name false m))
    (evaluated : m.evaluate s context = .ok (call.effect b)) : call.Realized s context b :=
  ⟨_, found, rfl, m, evaluated, fun _ _ _ => rfl⟩

/-- The method that scales by a number. -/
def scaleByNumber : Method .vector3 :=
  ⟨"Vector3_Scale_float", [.single], .change (fun v (factor, ()) => Vector3.scale v factor)⟩

/-- The method that scales by a vector. -/
def scaleByVector : Method .vector3 :=
  ⟨"Vector3_Scale_Vector3", [.object .vector3], .change (fun v (factors, ()) => Vector3.scaleBy v factors)⟩

/-- Both of them under one name. -/
def scaleSet : MethodSet .vector3 :=
  ⟨"Scale", false, 1, scaleByNumber, [scaleByVector]⟩

/-- A selector runs the overload that accepts the arguments. -/
theorem scaleSet_run {caller : Engine.Caller} {e : Engine} {context : CallContext} {m : Method .vector3}
    (selected : (scaleSet.all.map Overload.ofMethod).find? (·.accepts e.store context.arguments) =
      some (.ofMethod m)) :
    Engine.runBody caller e (scaleSet.function context) = Engine.runBody caller e (m.wrapper context) := by
  have function : scaleSet.function =
      (Selector.mk "Vector3_Scale_selector" none (scaleSet.all.map .ofMethod)).dispatch := rfl
  rw [function, Selector.dispatch_run]
  unfold Selector.select?
  rw [selected]
  rfl

/-- A number selects the first of them. -/
theorem scaleSet_number {caller : Engine.Caller} {e : Engine} {context : CallContext} {x : Double}
    (one : context.arguments = [.number x]) :
    Engine.runBody caller e (scaleSet.function context) = Engine.runBody caller e (scaleByNumber.wrapper context) := by
  apply scaleSet_run
  rw [one]
  rfl

/-- A vector is no number, so it selects the second. -/
theorem scaleSet_vector {caller : Engine.Caller} {e : Engine} {context : CallContext} {v : Value}
    (one : context.arguments = [v]) (vector : e.store.isInstanceOf v (.value (.object .vector3)) = true) :
    Engine.runBody caller e (scaleSet.function context) = Engine.runBody caller e (scaleByVector.wrapper context) := by
  apply scaleSet_run
  rw [one]
  cases v with
  | object id =>
    have number : (Overload.ofMethod scaleByNumber).accepts e.store [.object id] = false := rfl
    have accepted : (Overload.ofMethod scaleByVector).accepts e.store [.object id] = true := by
      show (true && (e.store.isInstanceOf (.object id) (.value (.object .vector3)) && true)) = true
      rw [vector]
      rfl
    show [Overload.ofMethod scaleByNumber, Overload.ofMethod scaleByVector].find? _ = _
    rw [List.find?_cons, number, List.find?_cons, accepted]
  | _ => exact nomatch vector

/-- **The published function of a method does natively what the method does.** -/
theorem MethodCall.realized {c : ClassName} (call : MethodCall c) {s : Store} (context : CallContext) {id : ObjectId}
    {b : c.Instance} (handle : context.receiver = .object id)
    (read : (Layout.ofClass c).read s (.object id) (Layout.ofClass c).fresh = .ok b)
    (carried : s.CarriesAll call.arguments context.arguments) : call.Realized s context b := by
  have count := carried.length_eq
  cases call with
  | length => exact realized_single rfl (Method.evaluate_inspect count (receiverAs_of_read handle read) rfl)
  | normalize => exact realized_single rfl (Method.evaluate_change count (receiverAs_of_read handle read) rfl)
  | text =>
    exact realized_single rfl
      (Method.evaluate_describe (List.eq_nil_of_length_eq_zero count) (receiverAs_of_read handle read))
  | describe => exact realized_single rfl (Method.evaluate_inspect count (receiverAs_of_read handle read) rfl)
  | checksum => exact realized_single rfl (Method.evaluate_inspect count (receiverAs_of_read handle read) rfl)
  | kind => exact realized_single rfl (Method.evaluate_inspect count (receiverAs_of_read handle read) rfl)
  | translate offset =>
    obtain ⟨v, one, first⟩ := exists_of_carries_one carried
    have converted := readArguments_one "Transform_Translate_Vector3" one (restores_vector3 offset) first
    exact realized_single rfl (Method.evaluate_change count (receiverAs_of_read handle read) converted)
  | rename name =>
    obtain ⟨v, one, first⟩ := exists_of_carries_one carried
    have converted := readArguments_one "Entity_Rename_QString" one (restores_string name) first
    exact realized_single rfl (Method.evaluate_change count (receiverAs_of_read handle read) converted)
  | fill number =>
    obtain ⟨v, one, first⟩ := exists_of_carries_one carried
    have converted := readArguments_one "Payload_Fill_int" one (restores_whole (by decide) number) first
    exact realized_single rfl ((Method.evaluate_change count (receiverAs_of_read handle read) converted).trans rfl)
  -- the two ways to scale share a name, and the argument decides between them
  | scale factor =>
    obtain ⟨v, one, first⟩ := exists_of_carries_one carried
    have converted := readArguments_one "Vector3_Scale_float" one (restores_single factor) first
    have evaluated : scaleByNumber.evaluate s context = .ok ((scale factor).effect b) :=
      Method.evaluate_change count (receiverAs_of_read handle read) converted
    obtain rfl := first.eq_of_pure
    exact ⟨scaleSet, rfl, rfl, scaleByNumber, evaluated, fun _ _ _ => scaleSet_number one⟩
  | scaleBy factors =>
    obtain ⟨v, one, first⟩ := exists_of_carries_one carried
    have converted := readArguments_one "Vector3_Scale_Vector3" one (restores_vector3 factors) first
    have evaluated : scaleByVector.evaluate s context = .ok ((scaleBy factors).effect b) :=
      Method.evaluate_change count (receiverAs_of_read handle read) converted
    have vector := nativeType_of_made first
    exact ⟨scaleSet, rfl, rfl, scaleByVector, evaluated, fun _ _ same => scaleSet_vector one (same ▸ vector)⟩

/-! ## §6. Handles that represent instances. -/

/-- The handle represents the instance: it shows one that agrees with it, and it has a prototype with the methods of
the class and no properties but the fields. -/
structure Store.Represents (s : Store) (id p : ObjectId) (c : ClassName) (a : c.Instance) : Prop where
  shown : ∃ b n o, (Layout.ofClass c).Shows .mutable b n s id o ∧ c.Agree a b ∧ c.Countable b ∧
    o.nativeType = some (.value (.object c)) ∧ o.prototype = some p ∧
    ∀ name, name ∉ (Layout.ofClass c).fields.map (·.name) → o.property? name = none
  prototype : s.PrototypeOf c p

/-- The object is the same in both stores, with the same kind, type and prototype and the same properties, which have
the same flags. -/
def Store.SameHandle (s t : Store) (id : ObjectId) : Prop :=
  ∃ o next, s.object? id = some o ∧ t.object? id = some next ∧ next.kind = o.kind ∧ next.nativeType = o.nativeType ∧
    next.prototype = o.prototype ∧ ∀ name, (next.property? name).map (·.flags) = (o.property? name).map (·.flags)

namespace Store.Represents

variable {s t : Store} {id p : ObjectId} {c : ClassName} {a : c.Instance}

/-- New objects leave a represented instance represented. -/
theorem of_extends (h : s.Represents id p c a) (extended : s.Extends t) : t.Represents id p c a where
  shown := by
    obtain ⟨b, n, o, shows, rest⟩ := h.shown
    exact ⟨b, n, o, shows.extends extended, rest⟩
  prototype := h.prototype.of_ages extended.objects.ages

/-- Reading the handle gives an instance that agrees with the represented one. -/
theorem read (h : s.Represents id p c a) (base : c.Instance) :
    ∃ b, (Layout.ofClass c).read s (.object id) base = .ok b ∧ c.Agree a b ∧ c.Countable b := by
  obtain ⟨b, n, o, shows, agree, countable, -⟩ := h.shown
  have regained := Layout.agree_regained c b (if (Layout.ofClass c).whole then b else base)
  exact ⟨_, Layout.read_of_shows shows (Layout.fields_restore countable) base,
    MethodCall.agree_trans agree (Layout.agree_regained c b base),
    MethodCall.countable_of_agree (Layout.agree_regained c b base) countable⟩

/-- Writing another instance onto the handle makes it represent that one. -/
theorem place (h : s.Represents id p c a) {b : c.Instance} {a' : c.Instance} (agree : c.Agree a' b)
    (countable : c.Countable b) : ((Layout.ofClass c).place .mutable b id s).2.Represents id p c a' := by
  obtain ⟨_, _, o, shows, -, -, nativeType, prototype, absent⟩ := h.shown
  obtain ⟨altered, next, shows', others⟩ := Layout.place_shows (Layout.lawful_ofClass c) .mutable b shows.object
    shows.is_handle
  obtain ⟨next', found', -, nativeType', prototype'⟩ := altered.own o shows.object
  obtain rfl := Option.some.inj (shows'.object.symm.trans found')
  refine ⟨⟨b, _, next, shows', agree, countable, nativeType'.trans nativeType, prototype'.trans prototype, ?_⟩, ?_⟩
  · intro name not_field
    rw [others name not_field, absent name not_field]
  · apply h.prototype.of_ages
    apply altered.ages
    intro q found
    obtain rfl := Option.some.inj (shows.object.symm.trans found)
    exact Object.isMutable_iff.2 shows.is_handle

/-- What represents two instances, one after the other, is the same handle. -/
theorem sameHandle {a' : c.Instance} (h : s.Represents id p c a) (h' : t.Represents id p c a') : s.SameHandle t id := by
  obtain ⟨b, n, o, shows, -, -, nativeType, prototype, absent⟩ := h.shown
  obtain ⟨b', n', next, shows', -, -, nativeType', prototype', absent'⟩ := h'.shown
  refine ⟨o, next, shows.object, shows'.object, shows'.is_handle.trans shows.is_handle.symm,
    nativeType'.trans nativeType.symm, prototype'.trans prototype.symm, ?_⟩
  -- the fields are all the properties there are, and their flags depend on the class alone
  intro name
  by_cases field : name ∈ (Layout.ofClass c).fields.map (·.name)
  · obtain ⟨f, mem, rfl⟩ := List.mem_map.1 field
    obtain ⟨v, own, -⟩ := shows.field f mem
    obtain ⟨v', own', -⟩ := shows'.field f mem
    rw [own, own']
    rfl
  · rw [absent name field, absent' name field]

end Store.Represents

/-! ## §7. Calls on handles. -/

namespace MethodCall

variable {c : ClassName}

/-- Methods and fields have different names. -/
theorem name_not_field (call : MethodCall c) : call.name ∉ (Layout.ofClass c).fields.map (·.name) := by
  cases call <;> simp only [name] <;> decide

/-- A handle finds the function of a method. -/
theorem function_of_represents (call : MethodCall c) {s : Store} {id p : ObjectId} {a : c.Instance}
    (h : s.Represents id p c a) {set : MethodSet c} (found : (Interface.ofClass c).methods? call.name = some set)
    (instance_method : set.isStatic = false) :
    s.functionOf? (s.property id call.name) = some (.method c call.name) := by
  unfold Interface.methods? at found
  have named : set.name = call.name := by simpa using List.find?_some found
  obtain ⟨_, _, o, shows, -, -, -, prototype, absent⟩ := h.shown
  obtain ⟨q, found_q, -, methods⟩ := h.prototype
  -- the handle has no property of that name, so the search goes on to the prototype
  obtain ⟨f, own, function⟩ := methods set
    (List.mem_filter.2 ⟨List.mem_of_find?_eq_some found, by rw [instance_method]; rfl⟩)
  rw [named] at own function
  rw [Store.property_prototype shows.object (absent _ call.name_not_field) prototype found_q own]
  exact function

/-- The effect of a method on a handle that was read as `b`. -/
theorem commit_represents (call : MethodCall c) {s : Store} {id p : ObjectId} {a b : c.Instance}
    (h : s.Represents id p c a) (agree : c.Agree a b) (countable : c.Countable b) (context : CallContext)
    (handle : context.receiver = .object id) :
    ((call.effect b).commit context s).1 = scriptValue s (call.answer b) ∧
      ((call.effect b).commit context s).2.Represents id p c (call.next a) := by
  cases answered : call.answer b with
  | some item =>
    -- the receiver stays as it is, and the answer only adds objects
    have effect : call.effect b = ⟨none, (marshalOf item.type).toScript item.data⟩ := by
      unfold MethodCall.effect
      rw [answered]
    rw [effect, Method.Effect.commit_unchanged rfl, next_of_answer ((call.answer_agree agree).trans answered)]
    exact ⟨rfl, h.of_extends ((lawful_marshalOf item.type).toScript_extends item.data s)⟩
  | none =>
    -- the changed receiver is written back onto the handle
    have effect : call.effect b = ⟨some (call.next b), pure .undefined⟩ := by
      unfold MethodCall.effect
      rw [answered]
    obtain ⟨_, _, o, shows, -⟩ := h.shown
    have written := CallContext.writeBack_mutable handle shows.object (Object.isMutable_iff.2 shows.is_handle)
      (call.next b)
    rw [effect, Method.Effect.commit_changed, written]
    exact ⟨rfl, h.place (call.next_agree agree) (call.countable_next countable)⟩

/-- **One call**: the script gets the answer of the native method, and the handle represents what the native method
makes of the instance. -/
theorem perform_represents (call : MethodCall c) {e : Engine} {id p : ObjectId} {a : c.Instance}
    (h : e.store.Represents id p c a) (depth : Nat) :
    ∃ after, call.perform (depth + 1) e (.object id) = some (after, .ok (scriptValue e.store (call.answer a))) ∧
      after.store.Represents id p c (call.next a) := by
  obtain ⟨extended, carried⟩ := convertItems_carries call.arguments e.store
  unfold perform Engine.useStore
  generalize (convertItems call.arguments e.store) = converted at extended carried
  obtain ⟨values, s⟩ := converted
  simp only at extended carried
  have represents := h.of_extends extended
  obtain ⟨b, read, agree, countable⟩ := represents.read (Layout.ofClass c).fresh
  let prepared : Engine := { e with store := s }
  let invocation := (Request.invokeMethod (.object id) call.name values).invocation s
  obtain ⟨set, found, instance_method, m, evaluated, same⟩ :=
    call.realized (prepared.contextOf invocation) rfl read carried
  have function := call.function_of_represents represents found instance_method
  have bound : bindings (.method c call.name) = some set.function := by
    show ((Interface.ofClass c).methods? call.name).map (·.function) = some set.function
    rw [found, Option.map_some]
  -- the call is that of the published function, which comes to the effect of the native method
  have run : Engine.run bindings (depth + 1) prepared (Body.invokeMethod (.object id) call.name values) =
      some ({ e with store := ((call.effect b).commit (prepared.contextOf invocation) s).2 },
        .ok ((call.effect b).commit (prepared.contextOf invocation) s).1) := by
    show Engine.run bindings (depth + 1) prepared (Request.invokeMethod (.object id) call.name values).body = _
    rw [Request.run_body]
    show Engine.invoke bindings (depth + 1) prepared invocation = _
    have succeeds : m.evaluate prepared.store (prepared.contextOf invocation) = .ok (call.effect b) := evaluated
    rw [Engine.invoke_of_bound depth function bound, same _ _ rfl, Method.wrapper_run, succeeds]
    rfl
  obtain ⟨value, made⟩ := call.commit_represents represents agree countable (prepared.contextOf invocation) rfl
  refine ⟨{ e with store := ((call.effect b).commit (prepared.contextOf invocation) s).2 }, run.trans ?_, made⟩
  rw [value, call.answer_agree agree, call.scriptValue_congr b s e.store]

/-- **Any number of calls**: the script gets the answers of the native methods, and in the end the handle represents
what they made of the instance. -/
theorem performAll_represents (calls : List (MethodCall c)) {e : Engine} {id p : ObjectId} {a : c.Instance}
    (h : e.store.Represents id p c a) (depth : Nat) :
    ∃ after results, performAll (depth + 1) e (.object id) calls = some (after, results) ∧
      (∀ s, results = (answers a calls).map (fun answer => .ok (scriptValue s answer))) ∧
      after.store.Represents id p c (final a calls) := by
  induction calls generalizing e a with
  | nil => exact ⟨e, [], rfl, fun _ => rfl, h⟩
  | cons call rest ih =>
    -- the handle represents what the first call made, from where the others go on
    obtain ⟨middle, performed, represents⟩ := call.perform_represents h depth
    obtain ⟨after, results, rest_performed, rest_results, rest_represents⟩ := ih represents
    refine ⟨after, .ok (scriptValue e.store (call.answer a)) :: results, ?_, ?_, rest_represents⟩
    · rw [performAll, performed]
      show (performAll (depth + 1) middle (.object id) rest).map _ = _
      rw [rest_performed]
      rfl
    · intro s
      rw [answers, List.map_cons, ← rest_results s, call.scriptValue_congr a e.store s]

end MethodCall

/-- The handle of an instance represents it, on an engine that publishes the class. -/
theorem represents_toScript {c : ClassName} {s : Store} (published : s.Publishes c) {a : c.Instance}
    (countable : c.Countable a) :
    ∃ p, ((Layout.ofClass c).toScript a s).1 = .object ⟨s.objects.length⟩ ∧
      ((Layout.ofClass c).toScript a s).2.Represents ⟨s.objects.length⟩ p c a := by
  obtain ⟨p, prototype, methods⟩ := published
  obtain ⟨extended, o, shows, nativeType, by_default, absent⟩ :=
    Layout.make_shows (Layout.lawful_ofClass c) .mutable a s
  rw [Layout.toScript_eq_make]
  refine ⟨p, ?_, ⟨a, _, o, shows, ?_, countable, nativeType, by_default.trans prototype, absent⟩,
    methods.of_ages extended.objects.ages⟩
  · rw [Layout.make_run]
  · cases c <;> first | exact ⟨rfl, rfl⟩ | rfl

/-- **Handles simulate native values.**  On an engine that provides a class, any calls of instance methods on the
handle of an instance give the script what the native methods return.  The handle stays the same object throughout,
and in the end it is read as an instance that agrees with what the native methods made. -/
theorem handles_simulate {c : ClassName} {e start : Engine} (provides : e.Provides c) {a : c.Instance}
    (countable : c.Countable a) {handle : Value}
    (made : e.useStore (Convert.toScript (.value (.object c)) false a) = (start, handle)) (depth : Nat)
    (calls : List (MethodCall c)) :
    ∃ id after results, handle = .object id ∧
      MethodCall.performAll (depth + 1) start handle calls = some (after, results) ∧
      (∀ s, results = (MethodCall.answers a calls).map (fun answer => .ok (MethodCall.scriptValue s answer))) ∧
      start.store.SameHandle after.store id ∧
      ∃ b, (marshalOf (.object c)).ofScript after.store handle = .ok b ∧ c.Agree (MethodCall.final a calls) b := by
  obtain ⟨rfl, rfl⟩ := Engine.useStore_eq made
  obtain ⟨p, value, represents⟩ := represents_toScript provides.publishes countable
  obtain ⟨after, results, performed, answered, represents'⟩ := MethodCall.performAll_represents calls
    (e := { e with store := ((Layout.ofClass c).toScript a e.store).2 }) represents depth
  obtain ⟨b, read, agree, -⟩ := represents'.read (Layout.ofClass c).fresh
  have handle : (Convert.toScript (.value (.object c)) false a e.store).1 = .object ⟨e.store.objects.length⟩ := value
  rw [handle]
  exact ⟨_, after, results, rfl, performed, answered, represents.sameHandle represents', b, read, agree⟩

/-- A vector is scaled by a number, asked for its length, and scaled by another vector. -/
def scalings : List (MethodCall .vector3) :=
  [.scale (.ofInt .single 2), .length, .scaleBy (vectorOf 2 (-1) 1)]

/-- The calls change every component of a vector, and the length is that of the vector in between. -/
theorem scalings_native : MethodCall.final (vectorOf 1 2 2) scalings = vectorOf 4 (-4) 4 ∧
    MethodCall.answers (vectorOf 1 2 2) scalings = [none, some ⟨.single, .ofInt .single 6⟩, none] := by
  refine ⟨by decide +kernel, ?_⟩
  have length : Vector3.length (Vector3.scale (vectorOf 1 2 2) (.ofInt .single 2)) = .ofInt .single 6 := by
    decide +kernel
  exact congrArg (fun root => [none, some (Item.mk .single root), none]) length

/-- Two scalings of a vector and its length in between, by handle and in native terms. -/
theorem handles_simulate_scaling :
    ∃ start handle, Engine.bound.Provides .vector3 ∧ ClassName.Countable .vector3 (vectorOf 1 2 2) ∧
      Engine.bound.useStore (Convert.toScript (.value (.object .vector3)) false (vectorOf 1 2 2)) =
        (start, handle) ∧
      ∃ id after results, handle = .object id ∧
        MethodCall.performAll 1 start handle scalings = some (after, results) ∧
        (∀ s, results = [none, some ⟨.single, .ofInt .single 6⟩, none].map
          (fun answer => .ok (MethodCall.scriptValue s answer))) ∧
        start.store.SameHandle after.store id ∧
        ∃ b, (marshalOf (.object .vector3)).ofScript after.store handle = .ok b ∧
          ClassName.Agree .vector3 (vectorOf 4 (-4) 4) b := by
  have provides : Engine.bound.Provides .vector3 := provides_registerAll (by decide) (Engine.new true)
  cases made : Engine.bound.useStore (Convert.toScript (.value (.object .vector3)) false (vectorOf 1 2 2)) with
  | mk start handle =>
    refine ⟨start, handle, provides, trivial, rfl, ?_⟩
    obtain ⟨final, answers⟩ := scalings_native
    rw [← final, ← answers]
    exact handles_simulate provides trivial made 0 scalings

end ScriptBridge.Script
