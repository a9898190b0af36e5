import ScriptBridge.Proofs.Numeric.Significant
import ScriptBridge.Proofs.Script.Handle
import ScriptBridge.Script.Engine

/-!
# ScriptBridge.Proofs.Script.RoundTrip

The bound classes: their conversions obey the laws, and what is made of an instance is read back as that instance.

What is read back agrees with the instance in everything public, in all nested instances and lists; buffers come back
whole.  The only restriction is that no list may be longer than script numbers can count.  Whole numbers by themselves
come back as far as script numbers hold them.

Main results:
  * `Layout.lawful_ofClass`, `lawful_marshalOf` - the laws, for all classes and all value types;
  * `Layout.agree_regained` - reading a handle regains the instance, whatever it starts from;
  * `roundTrip_agrees` - there and back, in either form and from any engine;
  * `wholeRoundTrip_iff` - which whole numbers come back as they were.
-/

/-! ## §1. Instances. -/

namespace ScriptBridge.Native

-- powers are those of the core library, whatever else is imported
attribute [local instance (high)] instPowNat

/-- No list in the instance is longer than script numbers can count. -/
def ClassName.Countable : (c : ClassName) → c.Instance → Prop
  | .transform, (t : Transform) => t.tags.length < 2 ^ Numeric.Format.double.precision
  | _, _ => True

/-- The instances agree in everything public.  Of a buffer, which scripts carry about as a whole, nothing is private;
the secret of an entity is. -/
def ClassName.Agree : (c : ClassName) → c.Instance → c.Instance → Prop
  | .vector3, (v : Vector3), (w : Vector3) => v = w
  | .transform, (t : Transform), (u : Transform) => t = u
  | .entity, (e : Entity), (f : Entity) => e.id = f.id ∧ e.name = f.name
  | .payload, (p : Payload), (q : Payload) => p = q
  | .marker, (m : Marker), (n : Marker) => m = n

end ScriptBridge.Native

namespace ScriptBridge.Script

open ScriptBridge.Native ScriptBridge.Numeric

/-! ## §2. The laws. -/

/-- The fields of vectors convert lawfully. -/
theorem lawful_vector3 : vector3Layout.Lawful where
  distinct := by decide
  fields := by
    intro f mem
    simp only [vector3Layout, List.mem_cons, List.not_mem_nil, or_false] at mem
    rcases mem with rfl | rfl | rfl
    · exact lawful_ofNumber _ _
    · exact lawful_ofNumber _ _
    · exact lawful_ofNumber _ _

/-- So do those of transforms, among them another class. -/
theorem lawful_transform : transformLayout.Lawful where
  distinct := by decide
  fields := by
    intro f mem
    simp only [transformLayout, List.mem_cons, List.not_mem_nil, or_false] at mem
    rcases mem with rfl | rfl | rfl | rfl | rfl
    · exact Layout.lawful_marshal lawful_vector3
    · exact lawful_ofNumber _ _
    · exact lawful_string
    · exact Layout.lawful_marshal lawful_vector3
    · exact lawful_list lawful_string

/-- So do those of entities. -/
theorem lawful_entity : entityLayout.Lawful where
  distinct := by decide
  fields := by
    intro f mem
    simp only [entityLayout, List.mem_cons, List.not_mem_nil, or_false] at mem
    rcases mem with rfl | rfl
    · exact lawful_ofNumber _ _
    · exact lawful_string

/-- So do those of payloads. -/
theorem lawful_payload : payloadLayout.Lawful where
  distinct := by decide
  fields := by
    intro f mem
    simp only [payloadLayout, List.mem_cons, List.not_mem_nil, or_false] at mem
    subst mem
    exact lawful_ofNumber _ _

/-- Markers have no fields to convert. -/
theorem lawful_marker : markerLayout.Lawful where
  distinct := by decide
  fields := by
    intro f mem
    exact absurd mem List.not_mem_nil

/-- The layouts of all classes are lawful. -/
theorem Layout.lawful_ofClass : (c : ClassName) → (Layout.ofClass c).Lawful
  | .vector3 => lawful_vector3
  | .transform => lawful_transform
  | .entity => lawful_entity
  | .payload => lawful_payload
  | .marker => lawful_marker

/-- The conversions of all value types are lawful. -/
theorem lawful_marshalOf (τ : ValueType) : (marshalOf τ).Lawful := by
  induction τ with
  | whole t => exact lawful_ofNumber _ _
  | single => exact lawful_ofNumber _ _
  | double => exact lawful_ofNumber _ _
  | bool => exact lawful_bool
  | string => exact lawful_string
  | list element ih =>
    let _ := marshalOf element
    exact lawful_list ih
  | object c => exact Layout.lawful_marshal (Layout.lawful_ofClass c)

/-! ## §3. What is read back. -/

/-- Numbers of at most 32 bits are counted exactly by script numbers. -/
theorem restores_whole {t : IntegerType} (narrow : t.width ≤ 32) (n : Whole t) :
    (marshalOf (.whole t)).Restores n n := by
  have small : n.val.natAbs < 9007199254740992 := by
    -- the ends of the range, type by type
    have least := n.least_le
    have greatest := n.le_greatest
    cases t <;> simp [IntegerType.width, IntegerType.least, IntegerType.greatest, IntegerType.isSigned] at * <;> omega
  have restores := restores_ofNumber Whole.toDouble (Whole.ofDouble t) n
  rw [Whole.ofDouble_toDouble n small] at restores
  exact restores

theorem restores_single (x : Single) : (marshalOf .single).Restores x x := by
  have restores := restores_ofNumber (Binary.convert .double) (Binary.convert .single) x
  rw [Binary.convert_single_double] at restores
  exact restores

theorem restores_vector3 (v : Vector3) : (marshalOf (.object .vector3)).Restores v v := by
  apply Layout.restores_marshal lawful_vector3
  intro f mem
  simp only [vector3Layout, List.mem_cons, List.not_mem_nil, or_false] at mem
  rcases mem with rfl | rfl | rfl
  · exact restores_single v.x
  · exact restores_single v.y
  · exact restores_single v.z

/-- Every field of every class is read back as it was. -/
theorem Layout.fields_restore {c : ClassName} {a : c.Instance} (countable : c.Countable a) :
    ∀ f ∈ (Layout.ofClass c).fields, f.marshal.Restores (f.get a) (f.get a) := by
  intro f mem
  cases c with
  | vector3 =>
    simp only [Layout.ofClass, vector3Layout, List.mem_cons, List.not_mem_nil, or_false] at mem
    rcases mem with rfl | rfl | rfl
    · exact restores_single _
    · exact restores_single _
    · exact restores_single _
  | transform =>
    simp only [Layout.ofClass, transformLayout, List.mem_cons, List.not_mem_nil, or_false] at mem
    rcases mem with rfl | rfl | rfl | rfl | rfl
    · exact restores_vector3 _
    · exact restores_single _
    · exact restores_string _
    · exact restores_vector3 _
    · exact restores_list lawful_string countable (fun tag _ => restores_string tag)
  | entity =>
    simp only [Layout.ofClass, entityLayout, List.mem_cons, List.not_mem_nil, or_false] at mem
    rcases mem with rfl | rfl
    · exact restores_whole (by decide) _
    · exact restores_string _
  | payload =>
    simp only [Layout.ofClass, payloadLayout, List.mem_cons, List.not_mem_nil, or_false] at mem
    subst mem
    exact restores_whole (by decide) _
  | marker => exact absurd mem List.not_mem_nil

/-- Reading a handle regains the instance, whatever instance the reader starts from. -/
theorem Layout.agree_regained (c : ClassName) (a base : c.Instance) :
    c.Agree a ((Layout.ofClass c).regained a base) := by
  cases c with
  | vector3 => rfl
  | transform => rfl
  | entity => exact ⟨rfl, rfl⟩
  | payload => rfl
  | marker => rfl

/-- Both forms of an instance are read back as what reading regains. -/
theorem Layout.restores_regained {c : ClassName} {a : c.Instance} (countable : c.Countable a) :
    (marshalOf (.object c)).Restores a ((Layout.ofClass c).regained a (Layout.ofClass c).fresh) :=
  Layout.restores_marshal (Layout.lawful_ofClass c) (Layout.fields_restore countable)

/-! ## §4. There and back. -/

/-- Converts an instance to a script value, in the mutable or the constant form, and reads it back. -/
def roundTrip (c : ClassName) (constant : Bool) (a : c.Instance) : StoreM (Except ConvertError c.Instance) := do
  let v ← Convert.toScript (.value (.object c)) constant a
  Convert.ofScript (.value (.object c)) v

/-- **There and back.**  Whatever happened on an engine before, an instance of any class is converted to a script
value, mutable or constant, that is read back as an instance that agrees with it. -/
theorem roundTrip_agrees (e : Engine) (c : ClassName) (constant : Bool) (a : c.Instance)
    (countable : c.Countable a) : ∃ b, (e.useStore (roundTrip c constant a)).2 = .ok b ∧ c.Agree a b := by
  have restores := Layout.restores_regained countable
  refine ⟨(Layout.ofClass c).regained a (Layout.ofClass c).fresh, ?_, Layout.agree_regained c a _⟩
  cases constant with
  | false => exact restores.toScript _ _ _ (.self _ e.store)
  | true => exact restores.toConst _ _ _ (.self _ e.store)

/-- The vector with these components. -/
def vectorOf (x y z : Int) : Vector3 :=
  ⟨.ofInt .single x, .ofInt .single y, .ofInt .single z⟩

/-- A placement with two tags, as a snapshot. -/
theorem roundTrip_agrees_tagged :
    ClassName.Countable .transform { Transform.fresh with name := "lamp", tags := ["hall", "dim"] } ∧
      ∃ b, ((Engine.new true).useStore
        (roundTrip .transform true { Transform.fresh with name := "lamp", tags := ["hall", "dim"] })).2 = .ok b ∧
        ClassName.Agree .transform { Transform.fresh with name := "lamp", tags := ["hall", "dim"] } b :=
  have countable : ClassName.Countable .transform { Transform.fresh with name := "lamp", tags := ["hall", "dim"] } := by
    show ["hall", "dim"].length < 9007199254740992
    decide
  ⟨countable, roundTrip_agrees (Engine.new true) .transform true _ countable⟩

/-! ## §5. Whole numbers. -/

/-- Converts a whole number to a script value, in the mutable or the constant form, and reads it back. -/
def wholeRoundTrip (t : IntegerType) (constant : Bool) (n : Whole t) : StoreM (Except ConvertError (Whole t)) := do
  let v ← Convert.toScript (.value (.whole t)) constant n
  Convert.ofScript (.value (.whole t)) v

/-- A whole number comes back as what its double is. -/
theorem wholeRoundTrip_run (e : Engine) {t : IntegerType} (constant : Bool) (n : Whole t) :
    (e.useStore (wholeRoundTrip t constant n)).2 = .ok (Whole.ofDouble t n.toDouble) := by
  cases constant with
  | false => rfl
  | true => rfl

/-- **Which whole numbers come back.**  A whole number of any type is read back, as the nearest number of 53 significant
bits that the type has.  So it is read back as it was exactly if 53 bits are enough for it, or if it is the greatest
number of its type. -/
theorem wholeRoundTrip_iff (e : Engine) (t : IntegerType) (constant : Bool) (n : Whole t) :
    ∃ b, (e.useStore (wholeRoundTrip t constant n)).2 = .ok b ∧
      b.val = max t.least (min t.greatest (Binary.significantInt n.val)) ∧
      (b = n ↔ Format.double.Holds n.val.natAbs ∨ n.val = t.greatest) :=
  ⟨_, wholeRoundTrip_run e constant n, n.val_ofDouble_toDouble, n.ofDouble_toDouble_iff⟩

/-- The first whole number that does not come back needs 54 bits. -/
theorem wholeRoundTrip_loses : ∃ n b : Whole .i64, n.val = 9007199254740993 ∧
    ((Engine.new true).useStore (wholeRoundTrip .i64 false n)).2 = .ok b ∧ b.val = 9007199254740992 := by
  have rounded : Binary.significantInt 9007199254740993 = 9007199254740992 := by decide
  have least : IntegerType.i64.least = -9223372036854775808 := rfl
  have greatest : IntegerType.i64.greatest = 9223372036854775807 := rfl
  let n : Whole .i64 := ⟨9007199254740993, by decide, by decide⟩
  refine ⟨n, _, rfl, wholeRoundTrip_run _ false n, ?_⟩
  rw [n.val_ofDouble_toDouble, rounded, least, greatest]
  decide

end ScriptBridge.Script
