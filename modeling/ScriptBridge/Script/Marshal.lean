import ScriptBridge.Numeric.Whole
import ScriptBridge.Script.ConvertError

/-!
# ScriptBridge.Script.Marshal

The conversion of native values to script values and back, for numbers, truth values, texts and lists.

A type is marshalled if its values have a mutable and a constant form in scripts, can be read back from either, and
can be told apart from values of other types.  Reading changes nothing.  A list becomes a plain object with one
property per index and a `length`.
-/

namespace ScriptBridge.Script

open ScriptBridge.Numeric ScriptBridge.Native

/-- How values of a native type cross the script boundary. -/
class Marshal (α : Type) where
  /-- The script value for a native one. -/
  toScript : α → StoreM Value
  /-- The same, but nothing in it can be changed by scripts. -/
  toConst : α → StoreM Value
  /-- The native value for a script value. -/
  ofScript : Store → Value → Except ConvertError α
  /-- Whether a script value passes for one of the type when overloads are told apart. -/
  accepts : Store → Value → Bool

/-! ## §1. Plain values. -/

/-- The conversion of a number type, by way of script numbers. -/
@[reducible]
def Marshal.ofNumber {α : Type} (toDouble : α → Double) (ofDouble : Double → α) : Marshal α where
  toScript a := return .number (toDouble a)
  toConst a := return .number (toDouble a)
  ofScript s v :=
    match v with
    | .number n => .ok (ofDouble n)
    | other => .error (.ofValue s "number" other)
  accepts _ v := v.asNumber?.isSome

instance (t : IntegerType) : Marshal (Whole t) :=
  .ofNumber Whole.toDouble (Whole.ofDouble t)

instance : Marshal Double :=
  .ofNumber id id

instance : Marshal Single :=
  .ofNumber (Binary.convert .double) (Binary.convert .single)

instance : Marshal Bool where
  toScript b := return .bool b
  toConst b := return .bool b
  ofScript s v :=
    match v with
    | .bool b => .ok b
    | other => .error (.ofValue s "bool" other)
  accepts _ v := v.asBool?.isSome

instance : Marshal String where
  toScript t := return .string t
  toConst t := return .string t
  ofScript s v :=
    match v with
    | .string t => .ok t
    | other => .error (.ofValue s "string" other)
  accepts _ v := v.asString?.isSome

/-! ## §2. Properties. -/

/-- The native value of a property; a failure is attributed to the property. -/
def Store.propertyAs (s : Store) (α : Type) [Marshal α] (id : ObjectId) (name : String) : Except ConvertError α :=
  (Marshal.ofScript s (s.property id name)).mapError (.inProperty name)

/-! ## §3. Lists. -/

/-- The name of the property of an index. -/
def indexName (i : Nat) : String :=
  toString i

/-- The property with the number of elements. -/
def lengthName : String := "length"

section

variable {α : Type}

/-- Puts elements onto a list object, the first at the given index. -/
def writeElements (convert : α → StoreM Value) (flags : Flags) (list : ObjectId) (index : Nat) :
    List α → StoreM Unit
  | [] => return ()
  | element :: rest => do
    let value ← convert element
    modify (·.define list (indexName index) value flags)
    writeElements convert flags list (index + 1) rest

/-- Makes a list object.  The length is read-only in any case. -/
def writeList (convert : α → StoreM Value) (flags : Flags) (elements : List α) : StoreM Value := do
  let list ← modifyGet (·.alloc (.ofKind .plain))
  writeElements convert flags list 0 elements
  modify (·.define list lengthName (.count elements.length) (flags.union ⟨true, false⟩))
  return .object list

/-- Reads the elements with indices from `index` on, up to the first that is not converted. -/
def readElements [Marshal α] (s : Store) (list : ObjectId) (length index : Nat) : Except ConvertError (List α) :=
  if index < length then
    match s.propertyAs α list (indexName index) with
    | .error e => .error e
    | .ok element =>
      match readElements s list length (index + 1) with
      | .error e => .error e
      | .ok rest => .ok (element :: rest)
  else .ok []
termination_by length - index

/-- Reads a list object. -/
def readList [Marshal α] (s : Store) (v : Value) : Except ConvertError (List α) :=
  match v with
  | .object list =>
    match s.propertyAs (Whole .usize) list lengthName with
    | .error e => .error e
    | .ok length => readElements s list length.val.toNat 0
  | other => .error (.ofValue s "list" other)

/-- Whether a value looks like a list: an object that no native type claims, with a length of its own. -/
def looksLikeList (s : Store) (v : Value) : Bool :=
  match s.objectOf? v with
  | some o => o.nativeType.isNone && (o.own? lengthName).isSome
  | none => false

instance [Marshal α] : Marshal (List α) where
  toScript := writeList Marshal.toScript .none
  toConst := writeList Marshal.toConst .fixed
  ofScript := readList
  accepts := looksLikeList

end

end ScriptBridge.Script
