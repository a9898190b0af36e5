import ScriptBridge.Keyed
import ScriptBridge.Native.Type
import ScriptBridge.Script.Value

/-!
# ScriptBridge.Script.Object

One object of the script language: its own properties, its prototype, and what ties it to native code.

A property has flags: a read-only one refuses assignment, an undeletable one refuses deletion.  The host defines
properties regardless of flags; scripts `put` and `delete`.  Beside its properties an object may carry native values
that scripts do not see, at most one of each type.
-/

namespace ScriptBridge.Script

open ScriptBridge.Native

/-! ## §1. Properties. -/

/-- What is refused of a property. -/
structure Flags where
  readOnly : Bool
  undeletable : Bool
  deriving DecidableEq, Repr

namespace Flags

/-- Nothing is refused. -/
def none : Flags := ⟨false, false⟩

/-- Both assignment and deletion are refused. -/
def fixed : Flags := ⟨true, true⟩

/-- Only deletion is refused. -/
def kept : Flags := ⟨false, true⟩

/-- Everything that either refuses. -/
def union (a b : Flags) : Flags :=
  ⟨a.readOnly || b.readOnly, a.undeletable || b.undeletable⟩

/-- Whether `a` refuses everything that `b` refuses. -/
def contains (a b : Flags) : Bool :=
  (a.readOnly || !b.readOnly) && (a.undeletable || !b.undeletable)

/-- The flags in words. -/
def text (f : Flags) : String :=
  let names := (if f.readOnly then ["READ_ONLY"] else []) ++ (if f.undeletable then ["UNDELETABLE"] else [])
  if names.isEmpty then "NONE" else " | ".intercalate names

end Flags

/-- A property of an object. -/
structure Property where
  value : Value
  flags : Flags
  deriving DecidableEq

/-- A script-side access that flags refuse. -/
inductive PropertyError where
  | readOnly (name : String)
  | undeletable (name : String)
  deriving DecidableEq, Repr

namespace PropertyError

/-- The property that refuses. -/
def property : PropertyError → String
  | readOnly name | undeletable name => name

/-- The words for a refusal. -/
def message : PropertyError → String
  | readOnly name => "property `" ++ name ++ "` is read-only"
  | undeletable name => "property `" ++ name ++ "` cannot be deleted"

end PropertyError

/-! ## §2. Objects. -/

/-- How a handle holds its native value. -/
inductive HandleKind where
  /-- Calls through the handle write changes back onto it. -/
  | mutable
  /-- A read-only copy. -/
  | snapshot
  deriving DecidableEq, Repr

/-- A native function, by what it is for. -/
inductive FunctionRef where
  /-- The constructor of a class. -/
  | constructor (className : ClassName)
  /-- The methods of one name. -/
  | method (className : ClassName) (name : String)
  /-- A function that the host brings along. -/
  | hosted (name : String)
  deriving DecidableEq, Repr

/-- What an object is. -/
inductive ObjectKind where
  | plain
  | handle (kind : HandleKind)
  | function (ref : FunctionRef)
  deriving DecidableEq, Repr

/-- An object. -/
structure Object where
  kind : ObjectKind
  properties : List (String × Property)
  prototype : Option ObjectId
  /-- The native type that a handle was made for. -/
  nativeType : Option NativeType
  /-- Native values that scripts do not see. -/
  payloads : List Datum

namespace Object

/-- An object of a kind, with nothing on it. -/
def ofKind (kind : ObjectKind) : Object :=
  ⟨kind, [], none, none, []⟩

/-- The object's own property of a name. -/
def property? (o : Object) (name : String) : Option Property :=
  o.properties.lookup name

/-- The value of the object's own property of a name. -/
def own? (o : Object) (name : String) : Option Value :=
  (o.property? name).map (·.value)

/-- Makes or replaces a property, whatever its flags. -/
def define (o : Object) (name : String) (value : Value) (flags : Flags) : Object :=
  { o with properties := Keyed.set name ⟨value, flags⟩ o.properties }

/-- Assigns to a property, as scripts do.  A new property refuses nothing. -/
def put (o : Object) (name : String) (value : Value) : Except PropertyError Object :=
  match o.property? name with
  | some p => if p.flags.readOnly then .error (.readOnly name) else .ok (o.define name value p.flags)
  | none => .ok (o.define name value .none)

/-- Deletes a property, as scripts do.  There is nothing to refuse if it does not exist. -/
def delete (o : Object) (name : String) : Except PropertyError Object :=
  match o.property? name with
  | some p =>
    if p.flags.undeletable then .error (.undeletable name)
    else .ok { o with properties := Keyed.erase name o.properties }
  | none => .ok o

/-- The names of the object's own properties, in order. -/
def names (o : Object) : List String :=
  (o.properties.map (·.1)).mergeSort (fun a b => !(b < a))

/-- How a handle holds its value, if the object is one. -/
def handleKind? (o : Object) : Option HandleKind :=
  match o.kind with
  | .handle kind => some kind
  | _ => none

/-- Whether changes are written back onto the object. -/
def isMutable (o : Object) : Bool :=
  o.handleKind? == some .mutable

/-- The function behind the object, if it is one. -/
def function? (o : Object) : Option FunctionRef :=
  match o.kind with
  | .function ref => some ref
  | _ => none

/-! ## §3. Native values on objects. -/

/-- Attaches a native value, in place of one of its type. -/
def attach (o : Object) (d : Datum) : Object :=
  { o with payloads := o.payloads.filter (fun other => other.type ≠ d.type) ++ [d] }

/-- The attached native value of a type. -/
def data? (o : Object) (type : NativeType) : Option type.Data :=
  o.payloads.findSome? (·.get? type)

/-! ## §4. Words. -/

/-- The word for what an object is. -/
def kindWord : ObjectKind → String
  | .plain => "object"
  | .handle .mutable => "handle"
  | .handle .snapshot => "const-handle"
  | .function _ => "function"

/-- The object in messages.  Its properties are not shown. -/
def text (o : Object) : String :=
  match o.nativeType with
  | some type => "[" ++ kindWord o.kind ++ " " ++ type.qualified.short ++ "]"
  | none => "[" ++ kindWord o.kind ++ "]"

/-- The name of the dynamic type of the object. -/
def typeName (o : Object) : String :=
  if o.function?.isSome then "function"
  else match o.nativeType with
    | some type => type.qualified.short
    | none => "object"

/-! ## §5. What the operations show. -/

/-- A definition shows under its own name and nowhere else. -/
@[simp]
theorem property?_define (o : Object) (name other : String) (value : Value) (flags : Flags) :
    (o.define name value flags).property? other = if other = name then some ⟨value, flags⟩ else o.property? other := by
  simp only [property?, define]
  exact Keyed.lookup_set name other _ o.properties

/-- Assignment is refused by read-only properties and by nothing else. -/
theorem put_eq_error_iff {o : Object} {name : String} {value : Value} {e : PropertyError} :
    o.put name value = .error e ↔ e = .readOnly name ∧ ∃ p, o.property? name = some p ∧ p.flags.readOnly = true := by
  unfold put
  cases found : o.property? name with
  | none => simp
  | some p =>
    by_cases readOnly : p.flags.readOnly = true
    · simp only [if_pos readOnly]
      constructor
      · intro h
        exact ⟨(Except.error.inj h).symm, p, rfl, readOnly⟩
      · rintro ⟨rfl, _⟩
        rfl
    · simp [readOnly]

/-- Deletion is refused by undeletable properties and by nothing else. -/
theorem delete_eq_error_iff {o : Object} {name : String} {e : PropertyError} :
    o.delete name = .error e ↔
      e = .undeletable name ∧ ∃ p, o.property? name = some p ∧ p.flags.undeletable = true := by
  unfold delete
  cases found : o.property? name with
  | none => simp
  | some p =>
    by_cases undeletable : p.flags.undeletable = true
    · simp only [if_pos undeletable]
      constructor
      · intro h
        exact ⟨(Except.error.inj h).symm, p, rfl, undeletable⟩
      · rintro ⟨rfl, _⟩
        rfl
    · simp [undeletable]

/-- A deleted property is gone, and the others are as they were. -/
theorem property?_delete {o next : Object} {name : String} (other : String) (h : o.delete name = .ok next) :
    next.property? other = if other = name then none else o.property? other := by
  unfold delete at h
  cases found : o.property? name with
  | none =>
    simp only [found, Except.ok.injEq] at h
    subst h
    by_cases same : other = name
    · simp [same, found]
    · simp [same]
  | some p =>
    by_cases undeletable : p.flags.undeletable = true
    · simp [found, undeletable] at h
    · simp only [found, undeletable] at h
      simp only [Bool.false_eq_true, if_false, Except.ok.injEq] at h
      subst h
      exact Keyed.lookup_erase name other o.properties

/-- An attached value is found under its type. -/
theorem data?_attach_self (o : Object) (d : Datum) : (o.attach d).data? d.type = some d.data := by
  have skipped : (o.payloads.filter (fun other => other.type ≠ d.type)).findSome? (·.get? d.type) = none := by
    rw [List.findSome?_eq_none_iff]
    intro other mem
    have apart : other.type ≠ d.type := by simpa using (List.mem_filter.1 mem).2
    simp [Datum.get?, apart]
  have found : d.get? d.type = some d.data := by simp [Datum.get?]
  simp only [attach, data?, List.findSome?_append, skipped, List.findSome?_cons, found, Option.none_or]

/-- Attaching a value leaves those of other types alone. -/
theorem data?_attach_of_ne {o : Object} {d : Datum} {type : NativeType} (h : d.type ≠ type) :
    (o.attach d).data? type = o.data? type := by
  have kept : ∀ payloads : List Datum, (payloads.filter (fun other => other.type ≠ d.type)).findSome? (·.get? type) =
      payloads.findSome? (·.get? type) := by
    intro payloads
    induction payloads with
    | nil => rfl
    | cons other rest ih =>
      by_cases same : other.type = d.type
      · have apart : other.type ≠ type := fun eq => h (same.symm.trans eq)
        rw [List.filter_cons_of_neg (by simpa using same), ih, List.findSome?_cons]
        simp [Datum.get?, apart]
      · rw [List.filter_cons_of_pos (by simpa using same), List.findSome?_cons, List.findSome?_cons, ih]
  simp only [attach, data?, List.findSome?_append, kept, List.findSome?_cons, List.findSome?_nil]
  simp [Datum.get?, h]

end Object

end ScriptBridge.Script
