import ScriptBridge.Proofs.Script.HandleInvariant
import ScriptBridge.Proofs.Script.Lookup

/-!
# ScriptBridge.Proofs.Script.Convertible

Which script values can be read as native ones, and what is to blame if one cannot.

A value can be read as a number, a truth value or a text if it is one.  An object can be read as a list if its length
is a number and all elements below that can be read, and as an instance of a class if all public fields can
(`Store.Convertible`); properties are looked up along the prototype chain.  Otherwise some value is to blame, and the
path to it goes through the first field and the first element that cannot be read (`Store.Culprit`).  The objects may
refer to each other in circles, for types do not.

Main results:
  * `statedLength_eq` - what is made of a length that is no count;
  * `Store.FiniteChains.judges` - for every type, what is read and which path is reported;
  * `Store.FiniteChains.reads_or_blames` - the same for classes.
-/

namespace ScriptBridge.Native

open ScriptBridge.Script

/-- Values of the type may be made of the script value, as far as it can be seen without looking into it. -/
def ValueType.Admits : ValueType → Value → Prop
  | whole _ | single | double => fun v => ∃ d, v = .number d
  | bool => fun v => ∃ b, v = .bool b
  | string => fun v => ∃ t, v = .string t
  | list _ | object _ => fun v => ∃ id, v = .object id

end ScriptBridge.Native

namespace ScriptBridge.Script

open ScriptBridge.Native ScriptBridge.Numeric

-- powers are those of the core library, whatever else is imported
attribute [local instance (high)] instPowNat

/-! ## §1. Lengths. -/

/-- The number of elements for a length: the length without its fraction, or the nearest end of the range of native
counts.  Not-a-number counts as zero. -/
def elementCount : Double → Nat
  | .nan => 0
  | .infinite negative => if negative then 0 else 2 ^ (64 : Nat) - 1
  | .finite negative m e _ => if negative then 0 else min (m * 2 ^ e.toNat / 2 ^ (-e).toNat) (2 ^ (64 : Nat) - 1)

/-- **What is made of a length.** -/
theorem statedLength_eq (d : Double) : statedLength d = elementCount d := by
  have least : IntegerType.usize.least = 0 := rfl
  have greatest : IntegerType.usize.greatest = 18446744073709551615 := rfl
  show (max IntegerType.usize.least (min IntegerType.usize.greatest (d.truncate _ _))).toNat = elementCount d
  rw [least, greatest]
  cases d with
  | nan => rfl
  | infinite negative => cases negative <;> rfl
  | finite negative m e canonical =>
    show (max 0 (min (18446744073709551615 : Int) (max 0 (min 18446744073709551615
      (if negative then -(Binary.wholePart m e : Int) else Binary.wholePart m e))))).toNat =
        if negative then 0 else min (Binary.wholePart m e) 18446744073709551615
    -- the two bounds on the way are those of one type, so the inner one decides
    generalize Binary.wholePart m e = whole
    cases negative with
    | true =>
      simp only [if_true]
      omega
    | false =>
      simp only [Bool.false_eq_true, if_false]
      omega

/-! ## §2. What can be read, and what is to blame. -/

/-- The script value can be read as a value of the type. -/
inductive Store.Convertible (s : Store) : ValueType → Value → Prop where
  /-- A number, a truth value or a text. -/
  | flat {τ : ValueType} {v : Value} (flat : τ.isFlat = true) (admits : τ.Admits v) : Convertible s τ v
  /-- A list: the length is a number, and all elements below it can be read. -/
  | list {σ : ValueType} {id : ObjectId} {d : Double} (length : s.LooksUp lengthName id (.number d))
      (element : Nat → Value) (looksUp : ∀ i < elementCount d, s.LooksUp (indexName i) id (element i))
      (each : ∀ i < elementCount d, Convertible s σ (element i)) : Convertible s (.list σ) (.object id)
  /-- An instance: all public fields can be read. -/
  | object {c : ClassName} {id : ObjectId} (value : PublicField → Value)
      (looksUp : ∀ p ∈ publicFields c, s.LooksUp p.name id (value p))
      (each : ∀ p ∈ publicFields c, Convertible s p.type (value p)) : Convertible s (.object c) (.object id)

/-- The path leads to what keeps the script value from being read as a value of the type. -/
inductive Store.Culprit (s : Store) : ValueType → Value → List String → Prop where
  /-- The value itself. -/
  | here {τ : ValueType} {v : Value} (other : ¬τ.Admits v) : Culprit s τ v []
  /-- The length of a list is no number. -/
  | length {σ : ValueType} {id : ObjectId} {v : Value} (length : s.LooksUp lengthName id v)
      (other : ∀ d, v ≠ .number d) : Culprit s (.list σ) (.object id) [lengthName]
  /-- An element of a list; all elements before it can be read. -/
  | element {σ : ValueType} {id : ObjectId} {d : Double} {i : Nat} {v : Value} {path : List String}
      (length : s.LooksUp lengthName id (.number d)) (inside : i < elementCount d)
      (before : ∀ j < i, ∃ w, s.LooksUp (indexName j) id w ∧ s.Convertible σ w)
      (looksUp : s.LooksUp (indexName i) id v) (culprit : Culprit s σ v path) :
      Culprit s (.list σ) (.object id) (indexName i :: path)
  /-- A public field; all fields before it can be read. -/
  | field {c : ClassName} {id : ObjectId} {earlier later : List PublicField} {p : PublicField} {v : Value}
      {path : List String} (fields : publicFields c = earlier ++ p :: later)
      (before : ∀ q ∈ earlier, ∃ w, s.LooksUp q.name id w ∧ s.Convertible q.type w)
      (looksUp : s.LooksUp p.name id v) (culprit : Culprit s p.type v path) :
      Culprit s (.object c) (.object id) (p.name :: path)

/-- Reading the value comes about exactly if it can be read, and else reports the path to what is to blame. -/
structure Store.Judges (s : Store) (τ : ValueType) (v : Value) : Prop where
  ok_iff : (∃ a, (marshalOf τ).ofScript s v = .ok a) ↔ s.Convertible τ v
  error_iff : ∀ path, (∃ e, (marshalOf τ).ofScript s v = .error e ∧ e.path = path) ↔ s.Culprit τ v path

section

variable {s : Store} {τ : ValueType} {v : Value}

theorem Store.Convertible.admits (converts : s.Convertible τ v) : τ.Admits v := by
  cases converts with
  | flat _ admits => exact admits
  | list | object => exact ⟨_, rfl⟩

/-- A value that the type does not admit is to blame itself. -/
theorem culprit_of_not_admits (other : ¬τ.Admits v) {path : List String} : s.Culprit τ v path ↔ path = [] := by
  refine ⟨fun culprit => ?_, ?_⟩
  · cases culprit with
    | here => rfl
    | length | element | field => exact absurd ⟨_, rfl⟩ other
  · rintro rfl
    exact .here other

/-- Reading judges rightly of values that the type does not admit if it refuses them at once. -/
theorem judges_of_not_admits {e : ConvertError} (failed : (marshalOf τ).ofScript s v = .error e) (here : e.path = [])
    (other : ¬τ.Admits v) : s.Judges τ v := by
  refine ⟨iff_of_false ?_ (fun converts => other converts.admits), fun path => ?_⟩
  · rintro ⟨a, read⟩
    rw [failed] at read
    cases read
  · rw [culprit_of_not_admits other]
    constructor
    · rintro ⟨e', failed', rfl⟩
      obtain rfl := Except.error.inj (failed.symm.trans failed')
      exact here
    · rintro rfl
      exact ⟨e, failed, here⟩

/-- Values that are no objects are looked at, but not into. -/
theorem ofScript_flat (flat : τ.isFlat = true) (s : Store) (v : Value) :
    (τ.Admits v ∧ ∃ a, (marshalOf τ).ofScript s v = .ok a) ∨
      (¬τ.Admits v ∧ ∃ e, (marshalOf τ).ofScript s v = .error e ∧ e.path = []) := by
  cases τ with
  | list element => cases flat
  | object c => cases flat
  | bool =>
    cases v with
    | bool b => exact .inl ⟨⟨b, rfl⟩, b, rfl⟩
    | _ => exact .inr ⟨by rintro ⟨_, ⟨⟩⟩, _, rfl, rfl⟩
  | string =>
    cases v with
    | string t => exact .inl ⟨⟨t, rfl⟩, t, rfl⟩
    | _ => exact .inr ⟨by rintro ⟨_, ⟨⟩⟩, _, rfl, rfl⟩
  | _ =>
    cases v with
    | number d => exact .inl ⟨⟨d, rfl⟩, _, rfl⟩
    | _ => exact .inr ⟨by rintro ⟨_, ⟨⟩⟩, _, rfl, rfl⟩

/-- **Numbers, truth values and texts** are read if they are such. -/
theorem judges_flat (flat : τ.isFlat = true) (s : Store) (v : Value) : s.Judges τ v := by
  rcases ofScript_flat flat s v with ⟨admits, a, read⟩ | ⟨other, e, failed, here⟩
  · refine ⟨iff_of_true ⟨a, read⟩ (.flat flat admits), fun path => iff_of_false ?_ (fun culprit => ?_)⟩
    · rintro ⟨e, failed, -⟩
      rw [failed] at read
      cases read
    · cases culprit with
      | here other => exact other admits
      | length | element | field => cases flat
  · exact judges_of_not_admits failed here other

end

/-! ## §3. Lists. -/

section

variable {α : Type} [Marshal α] {s : Store} {list : ObjectId}

/-- What is read of an object as a list is its length first, and then its elements. -/
theorem readList_of_number {d : Double} (length : s.property list lengthName = .number d) :
    readList (α := α) s (.object list) = readElements s list (statedLength d) 0 := by
  simp only [readList, Store.propertyAs, length]
  rfl

theorem readList_of_no_number (other : ∀ d, s.property list lengthName ≠ .number d) :
    readList (α := α) s (.object list) =
      .error (.inProperty lengthName (.ofValue s "number" (s.property list lengthName))) := by
  simp only [readList, Store.propertyAs]
  cases length : s.property list lengthName with
  | number d => exact absurd length (other d)
  | _ => rfl

end

namespace Store.FiniteChains

variable {s : Store} (finite : s.FiniteChains) {σ : ValueType} {c : ClassName} {id : ObjectId} {path : List String}

include finite

theorem convertible_list_iff : s.Convertible (.list σ) (.object id) ↔ ∃ d, s.property id lengthName = .number d ∧
    ∀ i < elementCount d, s.Convertible σ (s.property id (indexName i)) := by
  constructor
  · intro converts
    cases converts with
    | flat flat => cases flat
    | list length element looksUp each =>
      refine ⟨_, finite.looksUp_iff.1 length, fun i inside => ?_⟩
      rw [finite.looksUp_iff.1 (looksUp i inside)]
      exact each i inside
  · rintro ⟨d, length, each⟩
    exact .list (finite.looksUp_iff.2 length) _ (fun i _ => finite.looksUp_iff.2 rfl) each

theorem culprit_list_iff : s.Culprit (.list σ) (.object id) path ↔
    (∀ d, s.property id lengthName ≠ .number d) ∧ path = [lengthName] ∨
      ∃ d i rest, s.property id lengthName = .number d ∧ i < elementCount d ∧
        (∀ j < i, s.Convertible σ (s.property id (indexName j))) ∧
        s.Culprit σ (s.property id (indexName i)) rest ∧ path = indexName i :: rest := by
  constructor
  · intro culprit
    cases culprit with
    | here other => exact absurd ⟨id, rfl⟩ other
    | length length other =>
      rw [finite.looksUp_iff.1 length]
      exact .inl ⟨other, rfl⟩
    | @element _ _ d i v rest length inside before looksUp culprit =>
      refine .inr ⟨d, i, rest, finite.looksUp_iff.1 length, inside, fun j earlier => ?_, ?_, rfl⟩
      · obtain ⟨w, looksUp, converts⟩ := before j earlier
        rwa [finite.looksUp_iff.1 looksUp]
      · rwa [finite.looksUp_iff.1 looksUp]
  · rintro (⟨other, rfl⟩ | ⟨d, i, rest, length, inside, before, culprit, rfl⟩)
    · exact .length (finite.looksUp_iff.2 rfl) other
    · exact .element (finite.looksUp_iff.2 length) inside
        (fun j earlier => ⟨_, finite.looksUp_iff.2 rfl, before j earlier⟩) (finite.looksUp_iff.2 rfl) culprit

/-- An object that states a length is read as it should be if its elements are. -/
theorem judges_list_of_number (elements : ∀ v, s.Judges σ v) {d : Double}
    (length : s.property id lengthName = .number d) : s.Judges (.list σ) (.object id) := by
  have reads : ∀ i, s.ReadsElement σ.Data id i ↔ s.Convertible σ (s.property id (indexName i)) :=
    fun i => (elements _).ok_iff
  -- both sides speak of the same length and the same elements
  have run : (marshalOf (.list σ)).ofScript s (.object id) = _ := readList_of_number length
  constructor
  · rw [run, finite.convertible_list_iff, readElements_eq_ok_iff, statedLength_eq]
    constructor
    · exact fun each => ⟨d, length, fun i inside => (reads i).1 (each i (Nat.zero_le i) inside)⟩
    · rintro ⟨d', length', each⟩ i - inside
      obtain rfl := Value.number.inj (length.symm.trans length')
      exact (reads i).2 (each i inside)
  · intro path
    rw [run, finite.culprit_list_iff]
    constructor
    · -- the element at which reading ended is the culprit
      rintro ⟨e, failed, rfl⟩
      obtain ⟨i, cause, -, inside, before, failed', rfl⟩ := readElements_eq_error_iff.1 failed
      rw [statedLength_eq] at inside
      refine .inr ⟨d, i, cause.path, length, inside, fun j earlier => ?_, ?_, rfl⟩
      · exact (reads j).1 (before j (Nat.zero_le j) earlier)
      · exact ((elements _).error_iff _).1 ⟨cause, failed', rfl⟩
    · rintro (⟨other, -⟩ | ⟨d', i, rest, length', inside, before, culprit, rfl⟩)
      · exact absurd length (other d)
      · obtain rfl := Value.number.inj (length.symm.trans length')
        obtain ⟨cause, failed, rfl⟩ := ((elements _).error_iff rest).2 culprit
        refine ⟨.inProperty (indexName i) cause, readElements_eq_error_iff.2 ?_, rfl⟩
        rw [← statedLength_eq] at inside
        exact ⟨i, cause, Nat.zero_le i, inside, fun j _ earlier => (reads j).2 (before j earlier), failed, rfl⟩

/-- The length itself is the culprit of an object that states none. -/
theorem judges_list_of_no_number (other : ∀ d, s.property id lengthName ≠ .number d) :
    s.Judges (.list σ) (.object id) := by
  have run : (marshalOf (.list σ)).ofScript s (.object id) = _ := readList_of_no_number other
  constructor
  · rw [run, finite.convertible_list_iff]
    refine iff_of_false (by rintro ⟨_, ⟨⟩⟩) ?_
    rintro ⟨d, length, -⟩
    exact other d length
  · intro path
    rw [run, finite.culprit_list_iff]
    constructor
    · rintro ⟨_, ⟨⟩, rfl⟩
      exact .inl ⟨other, rfl⟩
    · rintro (⟨-, rfl⟩ | ⟨d, _, _, length, -⟩)
      · exact ⟨_, rfl, rfl⟩
      · exact absurd length (other d)

/-- **Lists** are read as they should be if their elements are. -/
theorem judges_list (elements : ∀ v, s.Judges σ v) (v : Value) : s.Judges (.list σ) v := by
  cases v with
  | object id =>
    by_cases number : ∃ d, s.property id lengthName = .number d
    · obtain ⟨d, length⟩ := number
      exact finite.judges_list_of_number elements length
    · exact finite.judges_list_of_no_number (fun d length => number ⟨d, length⟩)
  | _ => exact judges_of_not_admits rfl rfl (by rintro ⟨_, ⟨⟩⟩)

/-! ## §4. Instances. -/

theorem convertible_object_iff : s.Convertible (.object c) (.object id) ↔
    ∀ p ∈ publicFields c, s.Convertible p.type (s.property id p.name) := by
  constructor
  · intro converts p mem
    cases converts with
    | flat flat => cases flat
    | object value looksUp each =>
      rw [finite.looksUp_iff.1 (looksUp p mem)]
      exact each p mem
  · intro each
    exact .object (fun p => s.property id p.name) (fun p _ => finite.looksUp_iff.2 rfl) each

theorem culprit_object_iff : s.Culprit (.object c) (.object id) path ↔
    ∃ earlier p later rest, publicFields c = earlier ++ p :: later ∧
      (∀ q ∈ earlier, s.Convertible q.type (s.property id q.name)) ∧
      s.Culprit p.type (s.property id p.name) rest ∧ path = p.name :: rest := by
  constructor
  · intro culprit
    cases culprit with
    | here other => exact absurd ⟨id, rfl⟩ other
    | @field _ _ earlier later p v rest fields before looksUp culprit =>
      refine ⟨earlier, p, later, rest, fields, fun q mem => ?_, ?_, rfl⟩
      · obtain ⟨w, looksUp, converts⟩ := before q mem
        rwa [finite.looksUp_iff.1 looksUp]
      · rwa [finite.looksUp_iff.1 looksUp]
  · rintro ⟨earlier, p, later, rest, fields, before, culprit, rfl⟩
    exact .field fields (fun q mem => ⟨_, finite.looksUp_iff.2 rfl, before q mem⟩) (finite.looksUp_iff.2 rfl) culprit

end Store.FiniteChains

namespace Field

variable {s : Store} {id : ObjectId} {c : ClassName}

theorem Is.converts_iff {α : Type} {f : Field α} {p : PublicField} (is : f.Is p) : f.Converts s id ↔
    ∃ d, (marshalOf p.type).ofScript s (s.property id p.name) = .ok d := by
  cases is
  exact Iff.rfl

theorem Is.failed_iff {α : Type} {f : Field α} {p : PublicField} (is : f.Is p) {cause : ConvertError} :
    f.marshal.ofScript s (s.property id f.name) = .error cause ↔
      (marshalOf p.type).ofScript s (s.property id p.name) = .error cause := by
  cases is
  exact Iff.rfl

/-- The first field that cannot be read, in terms of the public fields. -/
theorem blames_iff {α : Type} {fields : List (Field α)} {ps : List PublicField} (are : List.Forall₂ Is fields ps)
    {e : ConvertError} : Blames s id fields e ↔ ∃ earlier p later cause, ps = earlier ++ p :: later ∧
      (∀ q ∈ earlier, ∃ d, (marshalOf q.type).ofScript s (s.property id q.name) = .ok d) ∧
      (marshalOf p.type).ofScript s (s.property id p.name) = .error cause ∧ e = .inProperty p.name cause := by
  -- fields and public fields go together, so the induction is on the pairing
  induction are with
  | nil =>
    refine iff_of_false nofun ?_
    rintro ⟨earlier, p, later, cause, none, -⟩
    exact absurd none (by simp)
  | @cons f p fields ps is are ih =>
    constructor
    · intro blames
      cases blames with
      | here failed =>
        exact ⟨[], p, ps, _, rfl, nofun, is.failed_iff.1 failed, by rw [is.name_eq]⟩
      | later fine others =>
        obtain ⟨earlier, q, later, cause, rfl, before, failed, rfl⟩ := ih.1 others
        exact ⟨p :: earlier, q, later, cause, rfl, List.forall_mem_cons.2 ⟨is.converts_iff.1 fine, before⟩, failed, rfl⟩
    · rintro ⟨earlier, q, later, cause, split, before, failed, rfl⟩
      cases earlier with
      | nil =>
        obtain ⟨rfl, rfl⟩ := List.cons.inj split
        rw [← is.name_eq]
        exact .here (is.failed_iff.2 failed)
      | cons first earlier =>
        obtain ⟨rfl, rfl⟩ := List.cons.inj split
        obtain ⟨fine, before⟩ := List.forall_mem_cons.1 before
        exact .later (is.converts_iff.2 fine) (ih.2 ⟨earlier, q, later, cause, rfl, before, failed, rfl⟩)

end Field

namespace Store.FiniteChains

variable {s : Store} (finite : s.FiniteChains)

include finite

/-- **Instances** are read as they should be if their fields are. -/
theorem judges_object {c : ClassName} (fields : ∀ p ∈ publicFields c, ∀ v, s.Judges p.type v) (v : Value) :
    s.Judges (.object c) v := by
  cases v with
  | object id =>
    constructor
    · show (∃ a, (Layout.ofClass c).read s (.object id) _ = .ok a) ↔ _
      rw [Layout.read_eq_ok_iff, finite.convertible_object_iff]
      constructor
      · rintro ⟨_, ⟨⟩, all⟩ p mem
        obtain ⟨f, mem', is⟩ := exists_left_of_mem (fields_are_public c) mem
        exact (fields p mem _).ok_iff.1 (is.converts_iff.1 (all f mem'))
      · intro all
        refine ⟨id, rfl, fun f mem => ?_⟩
        obtain ⟨p, mem', is⟩ := exists_right_of_mem (fields_are_public c) mem
        exact is.converts_iff.2 ((fields p mem' _).ok_iff.2 (all p mem'))
    · intro path
      -- an object is refused because of a field only
      have rejects : ∀ e, (marshalOf (.object c)).ofScript s (.object id) = .error e ↔
          Field.Blames s id (Layout.ofClass c).fields e := by
        intro e
        refine (Layout.read_eq_error_iff _).trans ⟨fun rejects => ?_, .field⟩
        cases rejects with
        | noObject other => exact absurd rfl (other id)
        | field blames => exact blames
      simp only [rejects, Field.blames_iff (fields_are_public c)]
      rw [finite.culprit_object_iff]
      constructor
      · rintro ⟨e, ⟨earlier, p, later, cause, split, before, failed, rfl⟩, rfl⟩
        have mem : ∀ q ∈ earlier ++ p :: later, q ∈ publicFields c := fun q mem => split ▸ mem
        refine ⟨earlier, p, later, cause.path, split, fun q earlier' => ?_, ?_, rfl⟩
        · exact (fields q (mem q (by simp [earlier'])) _).ok_iff.1 (before q earlier')
        · exact ((fields p (mem p (by simp)) _).error_iff _).1 ⟨cause, failed, rfl⟩
      · rintro ⟨earlier, p, later, rest, split, before, culprit, rfl⟩
        have mem : ∀ q ∈ earlier ++ p :: later, q ∈ publicFields c := fun q mem => split ▸ mem
        obtain ⟨cause, failed, rfl⟩ := ((fields p (mem p (by simp)) _).error_iff rest).2 culprit
        refine ⟨.inProperty p.name cause, ⟨earlier, p, later, cause, split, fun q earlier' => ?_, failed, rfl⟩, rfl⟩
        exact (fields q (mem q (by simp [earlier'])) _).ok_iff.2 (before q earlier')
  | _ => exact judges_of_not_admits rfl rfl (by rintro ⟨_, ⟨⟩⟩)

/-- The fields of a class are no instances of it, but of classes of lesser depth. -/
theorem judges_class (c : ClassName) (v : Value) : s.Judges (.object c) v := by
  refine finite.judges_object (fun p mem v => ?_) v
  have shallow := isShallow_type mem
  generalize p.type = τ at shallow
  cases τ with
  | object d => exact judges_class d v
  | list σ => exact finite.judges_list (judges_flat shallow s) v
  | _ => exact judges_flat rfl s v
termination_by c.depth
decreasing_by exact of_decide_eq_true shallow

/-- **What is read of a value, and which path is reported if it cannot be read.** -/
theorem judges (τ : ValueType) (v : Value) : s.Judges τ v := by
  induction τ generalizing v with
  | object c => exact finite.judges_class c v
  | list σ ih => exact finite.judges_list ih v
  | _ => exact judges_flat rfl s v

/-- **A value is read as an instance exactly if it is an object whose public fields can all be read**, and else the path
to the first culprit is reported, which is empty only if the value is no object. -/
theorem reads_or_blames (c : ClassName) (v : Value) :
    ((∃ a, (marshalOf (.object c)).ofScript s v = .ok a) ↔ s.Convertible (.object c) v) ∧
      (∀ path, (∃ e, (marshalOf (.object c)).ofScript s v = .error e ∧ e.path = path) ↔
        s.Culprit (.object c) v path) ∧
      ∀ e, (marshalOf (.object c)).ofScript s v = .error e → (e.path = [] ↔ ∀ id, v ≠ .object id) := by
  have judges := finite.judges (.object c) v
  refine ⟨judges.ok_iff, judges.error_iff, fun e failed => ?_⟩
  have culprit := (judges.error_iff e.path).1 ⟨e, failed, rfl⟩
  constructor
  · intro here
    rw [here] at culprit
    cases culprit with
    | here other => exact fun id object => other ⟨id, object⟩
  · intro other
    exact (culprit_of_not_admits (by rintro ⟨id, object⟩; exact other id object)).1 culprit

end Store.FiniteChains

/-! ## §5. A placement without its tag. -/

/-- The path that a failed reading reports. -/
def reportedPath? {α : Type} : Except ConvertError α → Option (List String)
  | .ok _ => none
  | .error e => some e.path

theorem exists_of_reportedPath {α : Type} {read : Except ConvertError α} {path : List String}
    (reported : reportedPath? read = some path) : ∃ e, read = .error e ∧ e.path = path := by
  cases read with
  | ok a => cases reported
  | error e => exact ⟨e, rfl, Option.some.inj reported⟩

/-- A placement on whose list of tags a script has deleted the only one. -/
def Store.withoutTag : Store :=
  (Engine.withTagged.attempt (·.delete ⟨4⟩ (indexName 0))).store

/-- It is the tag that is missed. -/
theorem Store.FiniteChains.reads_or_blames_tag : Store.withoutTag.FiniteChains ∧
    Store.withoutTag.Culprit (.object .transform) (.object ⟨1⟩) ["tags", "0"] ∧
    ¬Store.withoutTag.Convertible (.object .transform) (.object ⟨1⟩) := by
  have finite : Store.withoutTag.FiniteChains := Store.finiteChains_of_check (by decide +kernel)
  obtain ⟨reads, blames, -⟩ := Store.FiniteChains.reads_or_blames finite .transform (.object ⟨1⟩)
  obtain ⟨e, failed, path⟩ : ∃ e, (marshalOf (.object .transform)).ofScript Store.withoutTag (.object ⟨1⟩) = .error e ∧
      e.path = ["tags", "0"] := exists_of_reportedPath (by decide +kernel)
  refine ⟨finite, (blames _).1 ⟨e, failed, path⟩, fun converts => ?_⟩
  obtain ⟨a, read⟩ := reads.2 converts
  rw [failed] at read
  cases read

end ScriptBridge.Script
