import ScriptBridge.Script.Interface

/-!
# ScriptBridge.Session.Probe

Functions that a host brings along to try an engine out: they show what a native function gets to know about its
call, call back into the engine, convert arguments of many types, and select among overloads.
-/

namespace ScriptBridge.Session

open ScriptBridge.Native ScriptBridge.Script ScriptBridge.Numeric

/-! ## §1. What a call shows. -/

/-- A function that only looks at its call. -/
def looking (view : CallContext → Value) : NativeFunction := fun call =>
  .done (.ok (view call))

/-- The calls under way as a text, the innermost first. -/
def framesText (frames : List String) : String :=
  " <- ".intercalate frames

/-! ## §2. Calls back into the engine. -/

/-- Calls the first argument on the receiver, with the remaining arguments. -/
def nested : NativeFunction := fun call =>
  Body.call (call.argument 0) call.receiver (call.arguments.drop 1)

/-- Constructs with the first argument and the remaining ones. -/
def nestedNew : NativeFunction := fun call =>
  Body.construct (call.argument 0) (call.arguments.drop 1)

/-- Like `nested`, but a failure gives nothing. -/
def nestedSoft : NativeFunction := fun call => do
  return .ok (← Body.callOrUndefined (call.argument 0) call.receiver (call.arguments.drop 1))

/-- Calls itself by way of the second argument until a number has been counted down, and then the third. -/
def countdown : NativeFunction := fun call =>
  .read (fun s =>
    match call.argumentAs s .double "countdown" 0 with
    | .error e => .done (.error e)
    | .ok n =>
      if n.isAtMostZero then Body.call (call.argument 2) .undefined []
      else Body.call (call.argument 1) .undefined
        [.number (n.sub (.ofInt .double 1)), call.argument 1, call.argument 2])

/-! ## §3. Conversions. -/

/-- An argument as a value of any native type. -/
def argumentOf (call : CallContext) (τ : NativeType) (function : String) (index : Nat) : Action τ.Data := do
  match ← Action.useStore (Convert.ofScript τ (call.argument index)) with
  | .error e => Action.fail function (.parameter index τ.qualified.text e)
  | .ok a => return a

/-- Converts the first argument to a native type and back. -/
def convertingAs (name : String) (τ : NativeType) : NativeFunction := fun call =>
  Action.toBody (do
    let a ← argumentOf call τ name 0
    Action.useStore (Convert.toScript τ false a))

/-- Wants two arguments. -/
def arityTwo : NativeFunction := fun call =>
  .done ((call.checkCount "arity2" 2).map (fun _ => .string "two"))

/-- Fails in the words of its first argument. -/
def customError : NativeFunction := fun call =>
  Action.toBody (do
    let words ← argumentOf call (.value .string) "custom_error" 0
    Action.fail "custom_error"
      (.parameter 7 (ValueType.whole .u8).qualified.text (.inProperty "inner" (.custom (some words)))))

/-- Moves the receiver, a vector, by one along the first axis. -/
def stepX : NativeFunction := fun call =>
  .read (fun s =>
    match call.receiverAs s .vector3 "step_x" with
    | .error e => .done (.error e)
    | .ok (v : Vector3) => do
      let moved : Vector3 := { v with x := v.x.add (.ofInt .single 1) }
      Body.ofStore (call.writeBack .vector3 moved)
      return .ok (.number (moved.x.convert .double)))

/-- Describes the first argument or the receiver, an entity. -/
def firstOrThis : NativeFunction := fun call =>
  .read (fun s =>
    .done ((call.firstOrReceiverAs s .entity "first_or_this").map (fun (e : Entity) => .string e.describe)))

/-! ## §4. Selection. -/

/-- An overload that answers with a word. -/
def answering (parameters : List NativeType) (word : String) : Overload :=
  ⟨parameters, looking (fun _ => .string word)⟩

/-- A selector among overloads for all kinds of values. -/
def selection : Selector :=
  ⟨"Thing_set_selector", none, [
    answering [] "none",
    answering [.value .double] "number",
    answering [.value (.whole .u8)] "number_again",
    answering [.value .string] "text",
    answering [.value (.object .vector3)] "vector",
    answering [.shared .entity] "shared_entity",
    answering [.value (.list (.object .payload))] "vec_of_any",
    answering [.value (.list .double), .value .bool] "list_flag",
    answering [.value (.object .payload), .value (.whole .i32)] "payload_number"]⟩

/-- A constructor selector without overloads. -/
def emptySelection : Selector :=
  ⟨"Empty_ctor", some "Empty", []⟩

/-! ## §5. All of them. -/

/-- The types that arguments are converted to, by the names of the functions. -/
def conversions : List (String × NativeType) :=
  [("as_i8", .value (.whole .i8)), ("as_u16", .value (.whole .u16)), ("as_i32", .value (.whole .i32)),
   ("as_u64", .value (.whole .u64)), ("as_usize", .value (.whole .usize)), ("as_f32", .value .single),
   ("as_bool", .value .bool), ("as_string", .value .string), ("as_list", .value (.list .double)),
   ("as_matrix", .value (.list (.list .double))), ("as_vector", .value (.object .vector3)),
   ("as_transform", .value (.object .transform)), ("as_vectors", .value (.list (.object .vector3))),
   ("as_shared", .shared .vector3)]

/-- The functions that do not only convert. -/
def probes : List (String × NativeFunction) :=
  [("count", looking (fun call => .count call.arguments.length)),
   ("this", looking (·.receiver)),
   ("second", looking (·.argument 1)),
   ("is_construct", looking (fun call => .bool call.constructs)),
   ("backtrace", looking (fun call =>
      .string (framesText call.backtrace ++ " / " ++ framesText call.backtrace))),
   ("nested", nested),
   ("nested_new", nestedNew),
   ("nested_soft", nestedSoft),
   ("countdown", countdown),
   ("arity2", arityTwo),
   ("custom_error", customError),
   ("step_x", stepX),
   ("first_or_this", firstOrThis),
   ("select", selection.dispatch),
   ("select_ctor", emptySelection.dispatch)]

/-- The function of a name. -/
def probe? (name : String) : Option NativeFunction :=
  match probes.lookup name with
  | some function => some function
  | none => (conversions.lookup name).map (convertingAs name)

/-- How deep calls may nest in a session. -/
def depth : Nat := 10000

end ScriptBridge.Session
