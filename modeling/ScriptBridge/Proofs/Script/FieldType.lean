import ScriptBridge.Proofs.Outcome
import ScriptBridge.Proofs.Script.Publication

/-!
# ScriptBridge.Proofs.Script.FieldType

The types of public fields, and which script values have a type.

A script value has a class as its type if it is a handle that was made for the class, and a list type if it is an object
with a length and as many elements of the type on it (`Store.Fits`).  What a conversion makes has the type it was made
for, and a value keeps its type as long as handles stay what they are and lists keep their lengths and elements
(`Object.Firm`).

Main results:
  * `fields_are_public` - the public fields, with their types, are those of the layouts;
  * `fits_of_made` - conversions make values of the type;
  * `Store.Fits.firm` - what leaves every value its type;
  * `Store.Fits.put`, `Store.Fits.delete` - how scripts can take a type away from the value of a field;
  * `Store.Fits.reads_flat`, `Object.Lists.reads` - values of a type are read as such.
-/

namespace ScriptBridge.Native

/-- Values of the type are no objects. -/
def ValueType.isFlat : ValueType → Bool
  | list _ | object _ => false
  | _ => true

/-- How deep instances of the class stand in each other. -/
def ClassName.depth : ClassName → Nat
  | transform => 1
  | _ => 0

/-- Lists of the type have no objects in them, and instances of the type have less than the given depth. -/
def ValueType.isShallow (bound : Nat) : ValueType → Bool
  | list element => element.isFlat
  | object c => c.depth < bound
  | _ => true

end ScriptBridge.Native

namespace ScriptBridge.Script

open ScriptBridge.Native ScriptBridge.Numeric

-- powers are those of the core library, whatever else is imported
attribute [local instance (high)] instPowNat

/-! ## §1. The public fields. -/

/-- A public field of a class, as scripts see it. -/
structure PublicField where
  name : String
  type : ValueType
  isConst : Bool
  deriving DecidableEq

/-- The flags of the property for a field on a handle of a kind. -/
def PublicField.flags (p : PublicField) (kind : HandleKind) : Flags :=
  if p.isConst || kind == .snapshot then .fixed else .kept

/-- No field can be deleted. -/
theorem PublicField.undeletable_flags (p : PublicField) (kind : HandleKind) :
    (p.flags kind).undeletable = true := by
  unfold flags
  split
  · rfl
  · rfl

/-- Constant fields cannot be changed, and no field of a snapshot can. -/
theorem PublicField.readOnly_flags (p : PublicField) (kind : HandleKind) :
    (p.flags kind).readOnly = true ↔ p.isConst = true ∨ kind = .snapshot := by
  unfold flags
  generalize p.isConst = isConst
  cases isConst <;> cases kind <;> decide

/-- The public fields of the bound classes. -/
def publicFields : ClassName → List PublicField
  | .vector3 => [⟨"x", .single, false⟩, ⟨"y", .single, false⟩, ⟨"z", .single, false⟩]
  | .transform =>
    [⟨"position", .object .vector3, false⟩, ⟨"scale", .single, false⟩, ⟨"name", .string, false⟩,
      ⟨"origin", .object .vector3, true⟩, ⟨"tags", .list .string, false⟩]
  | .entity => [⟨"id", .whole .u32, false⟩, ⟨"name", .string, false⟩]
  | .payload => [⟨"size", .whole .i32, false⟩]
  | .marker => []

/-- The field of a layout is the public field. -/
inductive Field.Is {α : Type} : Field α → PublicField → Prop where
  | of (p : PublicField) (get : α → p.type.Data) (set : α → p.type.Data → α) :
      Field.Is ⟨p.type.Data, marshalOf p.type, p.name, p.isConst, get, set⟩ p

/-- The fields of the layouts are the public ones. -/
theorem fields_are_public (c : ClassName) : List.Forall₂ Field.Is (Layout.ofClass c).fields (publicFields c) := by
  cases c with
  | vector3 =>
    exact .cons (.of ⟨"x", .single, false⟩ _ _) (.cons (.of ⟨"y", .single, false⟩ _ _)
      (.cons (.of ⟨"z", .single, false⟩ _ _) .nil))
  | transform =>
    exact .cons (.of ⟨"position", .object .vector3, false⟩ _ _) (.cons (.of ⟨"scale", .single, false⟩ _ _)
      (.cons (.of ⟨"name", .string, false⟩ _ _) (.cons (.of ⟨"origin", .object .vector3, true⟩ _ _)
        (.cons (.of ⟨"tags", .list .string, false⟩ _ _) .nil))))
  | entity => exact .cons (.of ⟨"id", .whole .u32, false⟩ _ _) (.cons (.of ⟨"name", .string, false⟩ _ _) .nil)
  | payload => exact .cons (.of ⟨"size", .whole .i32, false⟩ _ _) .nil
  | marker => exact .nil

namespace Field.Is

variable {α : Type} {f : Field α} {p : PublicField}

theorem name_eq (h : f.Is p) : f.name = p.name := by
  cases h
  rfl

theorem isConst_eq (h : f.Is p) : f.isConst = p.isConst := by
  cases h
  rfl

theorem flags_eq (h : f.Is p) (kind : HandleKind) : f.flags kind = p.flags kind := by
  cases h
  rfl

end Field.Is

/-- Fields of one name are the same, whichever classes they belong to. -/
theorem eq_of_name_eq {c d : ClassName} {p q : PublicField} (mem : p ∈ publicFields c) (mem' : q ∈ publicFields d)
    (same : p.name = q.name) : p = q := by
  have all : (publicFields c).all (fun p => (publicFields d).all (fun q => p.name != q.name || p == q)) = true := by
    cases c <;> cases d <;> decide
  have one := List.all_eq_true.1 (List.all_eq_true.1 all p mem) q mem'
  rw [same, bne_self_eq_false, Bool.false_or] at one
  exact eq_of_beq one

/-- A field has numbers, truth values or texts, lists of such, or instances of a class of lesser depth. -/
theorem isShallow_type {c : ClassName} {p : PublicField} (mem : p ∈ publicFields c) :
    p.type.isShallow c.depth = true := by
  have all : (publicFields c).all (fun p => p.type.isShallow c.depth) = true := by cases c <;> rfl
  exact List.all_eq_true.1 all p mem

/-! ## §2. Names of properties. -/

/-- The properties of that name are those that make an object a list. -/
def IsListName (name : String) : Prop :=
  name = lengthName ∨ ∃ i, name = indexName i

/-- The property is neither a field of any class nor part of a list. -/
structure IsApart (name : String) : Prop where
  no_field : ∀ c, ∀ p ∈ publicFields c, p.name ≠ name
  no_list : ¬IsListName name

/-- Whether a name is neither that of the length nor written with digits only. -/
def hasLetters (name : String) : Bool :=
  name != lengthName && name.toList.any (fun letter => !letter.isDigit)

theorem not_isListName {name : String} (letters : hasLetters name = true) : ¬IsListName name := by
  unfold hasLetters at letters
  rw [Bool.and_eq_true, bne_iff_ne, List.any_eq_true] at letters
  obtain ⟨no_length, letter, mem, other⟩ := letters
  rintro (same | ⟨i, same⟩)
  · exact no_length same
  · exact indexName_ne mem (by simpa using other) i same.symm

/-- Fields are not part of lists. -/
theorem not_isListName_field {c : ClassName} {p : PublicField} (mem : p ∈ publicFields c) : ¬IsListName p.name := by
  have all : (publicFields c).all (fun p => hasLetters p.name) = true := by cases c <;> decide +kernel
  exact not_isListName (List.all_eq_true.1 all p mem)

/-- Whether no class has a field of the name, and no list a property. -/
def isApart (name : String) : Bool :=
  hasLetters name && ClassName.all.all (fun c => (publicFields c).all (fun p => p.name != name))

theorem mem_all (c : ClassName) : c ∈ ClassName.all := by
  cases c <;> decide

theorem IsApart.of_check {name : String} (check : isApart name = true) : IsApart name := by
  unfold isApart at check
  rw [Bool.and_eq_true, List.all_eq_true] at check
  refine ⟨fun c p mem => ?_, not_isListName check.1⟩
  exact bne_iff_ne.1 (List.all_eq_true.1 (check.2 c (mem_all c)) p mem)

/-- What publishing defines on objects that are there is apart from fields and lists. -/
theorem IsApart.of_published {name : String} (mem : name ∈ publishedNames) : IsApart name := by
  have all : publishedNames.all isApart = true := by decide +kernel
  exact .of_check (List.all_eq_true.1 all name mem)

/-- So is what publishing puts onto the objects that it makes. -/
theorem IsApart.of_method {c : ClassName} {set : MethodSet c} (mem : set ∈ (Interface.ofClass c).methods) :
    IsApart set.name := by
  have all : (Interface.ofClass c).methods.all (fun set => isApart set.name) = true := by cases c <;> decide +kernel
  exact .of_check (List.all_eq_true.1 all set mem)

theorem IsApart.of_staticField {c : ClassName} {f : StaticField} (mem : f ∈ (Interface.ofClass c).staticFields) :
    IsApart f.name := by
  have all : (Interface.ofClass c).staticFields.all (fun f => isApart f.name) = true := by cases c <;> decide +kernel
  exact .of_check (List.all_eq_true.1 all f mem)

/-! ## §3. Values of a type. -/

/-- The number of elements that a script number stands for. -/
def statedLength (d : Double) : Nat :=
  (Whole.ofDouble .usize d).val.toNat

/-- Counting is exact, as far as script numbers count. -/
theorem statedLength_count {n : Nat} (short : n < 2 ^ (53 : Nat)) : statedLength (.ofInt .double n) = n := by
  obtain ⟨length, counted, value⟩ := ofScript_count short Store.empty
  obtain rfl := Except.ok.inj counted
  exact value

/-- The object is a list of values that are as `holds` says: it is no handle, and has a length and that many elements,
or at least as many as script numbers count. -/
structure Object.Lists (holds : Value → Prop) (o : Object) : Prop where
  no_handle : o.handleKind? = none
  elements : ∃ d flags, o.property? lengthName = some ⟨.number d, flags⟩ ∧
    ∀ i, i < statedLength d → i < 2 ^ (53 : Nat) → ∃ v flags, o.property? (indexName i) = some ⟨v, flags⟩ ∧ holds v

/-- The script value has the type. -/
def Store.Fits (s : Store) : ValueType → Value → Prop
  | .whole _ | .single | .double => fun v => ∃ d, v = .number d
  | .bool => fun v => ∃ b, v = .bool b
  | .string => fun v => ∃ t, v = .string t
  | .list σ => fun v => ∃ id o, v = .object id ∧ s.object? id = some o ∧ o.Lists (s.Fits σ)
  | .object c => fun v => ∃ id o, v = .object id ∧ s.object? id = some o ∧ o.nativeType = some (.value (.object c))

/-- What is no object has its type in any store. -/
theorem Store.Fits.flat {s : Store} {σ : ValueType} {v : Value} (flat : σ.isFlat = true) (fits : s.Fits σ v)
    (t : Store) : t.Fits σ v := by
  cases σ with
  | list element => exact nomatch flat
  | object c => exact nomatch flat
  | _ => exact fits

/-! ## §4. Conversions make values of the type. -/

/-- A handle, as long as nothing happens to it, has the type it was made for. -/
theorem Layout.nativeType_of_made {c : ClassName} {l : Layout c} (lawful : l.Lawful) {kind : HandleKind}
    {a : c.Instance} {n : Nat} {s : Store} {v : Value} (made : Made (l.make kind a) n s v) :
    ∃ handle o, v = .object handle ∧ s.object? handle = some o ∧ o.nativeType = some l.type := by
  obtain ⟨origin, le, value, kept⟩ := made
  obtain ⟨-, o, shows, nativeType, -⟩ := make_shows lawful kind a origin
  rw [make_run] at value
  exact ⟨⟨origin.objects.length⟩, o, value.symm, kept.object? (Nat.le_refl _) shows.object, nativeType⟩

/-- **Conversions make values of the type**, in either form. -/
theorem fits_of_made {τ : ValueType} {constant : Bool} {a : τ.Data} {n : Nat} {s : Store} {v : Value}
    (made : Made (Convert.toScript (.value τ) constant a) n s v) : s.Fits τ v := by
  -- induction on the type, for the elements of lists
  induction τ generalizing n v with
  | list σ ih =>
    rw [Convert.toScript_list] at made
    obtain ⟨id, o, rfl, -, shows⟩ := showsList_of_made (Convert.toScript_extends (.value σ) constant) made
    refine ⟨id, o, rfl, shows.object, ?_, _, _, shows.length, ?_⟩
    · rw [Object.handleKind?, shows.kind]
    · intro i inside counted
      have present : i < a.length := by
        rcases Nat.lt_or_ge a.length (2 ^ 53) with short | long
        · rwa [statedLength_count short] at inside
        · omega
      obtain ⟨w, own, made⟩ := shows.element i _ (List.getElem?_eq_getElem present)
      exact ⟨w, _, own, ih made⟩
  | object c =>
    rw [Convert.toScript_object] at made
    exact Layout.nativeType_of_made (Layout.lawful_ofClass c) made
  | whole t => cases constant <;> exact ⟨_, made.eq_of_pure⟩
  | single => cases constant <;> exact ⟨_, made.eq_of_pure⟩
  | double => cases constant <;> exact ⟨_, made.eq_of_pure⟩
  | bool => cases constant <;> exact ⟨_, made.eq_of_pure⟩
  | string => cases constant <;> exact ⟨_, made.eq_of_pure⟩

/-- A field is converted like other values of its type, in the constant form if it cannot be changed. -/
theorem Field.Is.convert_eq {c : ClassName} {f : Field c.Instance} {p : PublicField} (h : f.Is p) (kind : HandleKind)
    (a : c.Instance) : ∃ data, f.convert kind a = Convert.toScript (.value p.type) (f.isFixed kind) data := by
  cases h with
  | of p get set => exact ⟨get a, rfl⟩

/-! ## §5. What leaves a value its type. -/

/-- The object stays what it is, and as a list it keeps its length and its elements. -/
structure Object.Firm (o next : Object) : Prop where
  kind : next.kind = o.kind
  nativeType : next.nativeType = o.nativeType
  list : o.handleKind? = none → (o.property? lengthName).isSome → ∀ name, IsListName name →
    next.property? name = o.property? name

theorem Object.Firm.refl (o : Object) : o.Firm o :=
  ⟨rfl, rfl, fun _ _ _ _ => rfl⟩

theorem Object.handleKind?_congr {o next : Object} (h : next.kind = o.kind) : next.handleKind? = o.handleKind? := by
  unfold handleKind?
  rw [h]

theorem Object.Firm.trans {o p q : Object} (first : o.Firm p) (second : p.Firm q) : o.Firm q where
  kind := second.kind.trans first.kind
  nativeType := second.nativeType.trans first.nativeType
  list := by
    intro no_handle length name part
    have here := first.list no_handle length
    -- `p` is a list as well
    have no_handle' : p.handleKind? = none := (handleKind?_congr first.kind).trans no_handle
    have length' : (p.property? lengthName).isSome := by
      rw [here lengthName (.inl rfl)]
      exact length
    rw [second.list no_handle' length' name part, here name part]

theorem Object.Lists.firm {holds holds' : Value → Prop} {o next : Object} (lists : o.Lists holds) (firm : o.Firm next)
    (weaker : ∀ v, holds v → holds' v) : next.Lists holds' := by
  obtain ⟨no_handle, d, flags, length, elements⟩ := lists
  have kept := firm.list no_handle (by rw [length]; rfl)
  refine ⟨(handleKind?_congr firm.kind).trans no_handle, d, flags, ?_, ?_⟩
  · rw [kept _ (.inl rfl), length]
  · intro i inside counted
    obtain ⟨v, flags', own, fine⟩ := elements i inside counted
    exact ⟨v, flags', by rw [kept _ (.inr ⟨i, rfl⟩), own], weaker v fine⟩

/-- **What leaves every value its type.** -/
theorem Store.Fits.firm {s t : Store} {τ : ValueType} {v : Value} (fits : s.Fits τ v)
    (firm : s.Follows Object.Firm 0 t) : t.Fits τ v := by
  -- induction on the type, for the elements of lists
  induction τ generalizing v with
  | list σ ih =>
    obtain ⟨id, o, rfl, found, lists⟩ := fits
    obtain ⟨next, found', step⟩ := firm id o (Nat.zero_le _) found
    exact ⟨id, next, rfl, found', lists.firm step (fun _ => ih)⟩
  | object c =>
    obtain ⟨id, o, rfl, found, type⟩ := fits
    obtain ⟨next, found', step⟩ := firm id o (Nat.zero_le _) found
    exact ⟨id, next, rfl, found', step.nativeType.trans type⟩
  | _ => exact fits

/-- Properties that are not part of lists do not matter. -/
theorem Object.firm_define_apart (o : Object) {name : String} (value : Value) (flags : Flags)
    (apart : ¬IsListName name) : o.Firm (o.define name value flags) := by
  refine ⟨rfl, rfl, ?_⟩
  intro _ _ other part
  rw [property?_define, if_neg]
  rintro rfl
  exact apart part

/-- Nor does anything that is defined on an object without a length. -/
theorem Object.firm_define_loose {o : Object} (loose : o.property? lengthName = none) (name : String) (value : Value)
    (flags : Flags) : o.Firm (o.define name value flags) := by
  refine ⟨rfl, rfl, ?_⟩
  intro _ length
  rw [loose] at length
  exact nomatch length

/-- Nor do any properties of a handle. -/
theorem Store.Alters.firm {id : ObjectId} {s t : Store} (altered : s.Alters id t)
    (handle : ∀ o, s.object? id = some o → o.handleKind? ≠ none) : s.Follows Object.Firm 0 t := by
  intro other o _ found
  by_cases same : other = id
  · subst same
    obtain ⟨next, found', kind, nativeType, -⟩ := altered.own o found
    exact ⟨next, found', kind, nativeType, fun none => absurd none (handle o found)⟩
  · exact ⟨o, altered.others other o same found, .refl o⟩

/-! ## §6. What scripts can do to values of fields. -/

theorem Object.property?_put_self {o next : Object} {name : String} {value : Value}
    (done : o.put name value = .ok next) : ∃ flags, next.property? name = some ⟨value, flags⟩ ∧
      ∀ p, o.property? name = some p → flags = p.flags := by
  unfold put at done
  cases own : o.property? name with
  | none =>
    rw [own] at done
    obtain rfl := Except.ok.inj done
    refine ⟨_, by rw [property?_define, if_pos rfl], ?_⟩
    rintro _ ⟨⟩
  | some p =>
    rw [own] at done
    simp only at done
    split at done
    · cases done
    · obtain rfl := Except.ok.inj done
      refine ⟨p.flags, by rw [property?_define, if_pos rfl], ?_⟩
      rintro _ ⟨⟩
      rfl

/-- A list stays one if something is put onto it that is not its length, and as an element has the type. -/
theorem Object.Lists.put {holds : Value → Prop} {o next : Object} {name : String} {value : Value}
    (lists : o.Lists holds) (done : o.put name value = .ok next) (no_length : name ≠ lengthName)
    (element : ∀ i, name = indexName i → holds value) : next.Lists holds := by
  obtain ⟨no_handle, d, flags, length, elements⟩ := lists
  refine ⟨(handleKind?_congr (ages_put done).kind).trans no_handle, d, flags, ?_, ?_⟩
  · rw [property?_put done (Ne.symm no_length), length]
  · intro i inside counted
    by_cases same : indexName i = name
    · obtain ⟨flags', own, -⟩ := property?_put_self done
      exact ⟨value, flags', same ▸ own, element i same.symm⟩
    · rw [property?_put done same]
      exact elements i inside counted

/-- A list stays one if something is deleted from it that is not part of it. -/
theorem Object.Lists.delete {holds : Value → Prop} {o next : Object} {name : String} (lists : o.Lists holds)
    (done : o.delete name = .ok next) (apart : ¬IsListName name) : next.Lists holds := by
  refine lists.firm ⟨(ages_delete done).kind, (ages_delete done).nativeType, ?_⟩ (fun _ fine => fine)
  intro _ _ other part
  rw [property?_delete other done, if_neg]
  rintro rfl
  exact apart part

/-- Whatever scripts do to one object, a value of a field keeps its type, unless it is a list and that very object. -/
theorem Store.Fits.tryUpdate {s t : Store} {id : ObjectId} {change : Object → Except PropertyError Object}
    (done : s.tryUpdate id change = .ok t) (step : ∀ o next, change o = .ok next → o.Ages next) {τ : ValueType}
    {bound : Nat} (shallow : τ.isShallow bound = true) {v : Value} (fits : s.Fits τ v) :
    t.Fits τ v ∨ ∃ σ o next, τ = .list σ ∧ σ.isFlat = true ∧ v = .object id ∧ o.Lists (s.Fits σ) ∧
      change o = .ok next ∧ t.object? id = some next := by
  rcases tryUpdate_eq_ok done with rfl | ⟨o, next, here, changed, rfl⟩
  · exact .inl fits
  have there : (s.update id (fun _ => next)).object? id = some next := by
    rw [object?_update, if_pos rfl, here]
    rfl
  -- only lists and handles can be changed at all
  cases τ with
  | list σ =>
    obtain ⟨list, p, rfl, found, lists⟩ := fits
    by_cases same : list = id
    · subst same
      obtain rfl := Option.some.inj (here.symm.trans found)
      exact .inr ⟨σ, o, next, rfl, shallow, rfl, lists, changed, there⟩
    · refine .inl ⟨list, p, rfl, by rw [object?_update, if_neg same, found], ?_⟩
      exact lists.firm (.refl p) (fun w fine => fine.flat shallow _)
  | object c =>
    obtain ⟨handle, p, rfl, found, type⟩ := fits
    by_cases same : handle = id
    · subst same
      obtain rfl := Option.some.inj (here.symm.trans found)
      exact .inl ⟨handle, next, rfl, there, (step o next changed).nativeType.trans type⟩
    · exact .inl ⟨handle, p, rfl, by rw [object?_update, if_neg same, found], type⟩
  | _ => exact .inl fits

/-- **How an assignment takes a type away from the value of a field**: the value is a list, and a length or an element
of another type was put onto it. -/
theorem Store.Fits.put {s t : Store} {id : ObjectId} {name : String} {value : Value}
    (done : s.put id name value = .ok t) {τ : ValueType} {bound : Nat} (shallow : τ.isShallow bound = true)
    {v : Value} (fits : s.Fits τ v) :
    t.Fits τ v ∨ ∃ σ, τ = .list σ ∧ v = .object id ∧
      (name = lengthName ∨ ∃ i, name = indexName i ∧ ¬s.Fits σ value) := by
  rcases fits.tryUpdate done (fun _ _ => Object.ages_put) shallow with
    kept | ⟨σ, o, next, rfl, flat, rfl, lists, put, found⟩
  · exact .inl kept
  by_cases spoils : name = lengthName ∨ ∃ i, name = indexName i ∧ ¬s.Fits σ value
  · exact .inr ⟨σ, rfl, rfl, spoils⟩
  · rw [not_or] at spoils
    have elements : next.Lists (s.Fits σ) := by
      refine lists.put put spoils.1 (fun i same => ?_)
      by_contra misfit
      exact spoils.2 ⟨i, same, misfit⟩
    exact .inl ⟨id, next, rfl, found, elements.firm (.refl next) (fun w fine => fine.flat flat t)⟩

/-- **How a deletion takes a type away from the value of a field**: the value is a list, and its length or an element
was deleted. -/
theorem Store.Fits.delete {s t : Store} {id : ObjectId} {name : String} (done : s.delete id name = .ok t)
    {τ : ValueType} {bound : Nat} (shallow : τ.isShallow bound = true) {v : Value} (fits : s.Fits τ v) :
    t.Fits τ v ∨ ∃ σ, τ = .list σ ∧ v = .object id ∧ IsListName name := by
  rcases fits.tryUpdate done (fun _ _ => Object.ages_delete) shallow with
    kept | ⟨σ, o, next, rfl, flat, rfl, lists, deleted, found⟩
  · exact .inl kept
  by_cases part : IsListName name
  · exact .inr ⟨σ, rfl, rfl, part⟩
  · have elements := (lists.delete deleted part).firm (.refl next) (fun w fine => fine.flat flat t)
    exact .inl ⟨id, next, rfl, found, elements⟩

/-! ## §7. Reading. -/

/-- A value that is no object is read as one of its type. -/
theorem Store.Fits.reads_flat {s : Store} {σ : ValueType} {v : Value} (fits : s.Fits σ v) (flat : σ.isFlat = true) :
    ∃ a, (marshalOf σ).ofScript s v = .ok a := by
  cases σ with
  | list element => exact nomatch flat
  | object c => exact nomatch flat
  | _ =>
    obtain ⟨_, rfl⟩ := fits
    exact ⟨_, rfl⟩

/-- The object has more elements than script numbers count. -/
def Object.IsOverlong (o : Object) : Prop :=
  ∀ i, i < 2 ^ (53 : Nat) → (o.property? (indexName i)).isSome

/-- A list is read, unless it has more elements than script numbers count. -/
theorem Object.Lists.reads {s : Store} {σ : ValueType} {id : ObjectId} {o : Object} (lists : o.Lists (s.Fits σ))
    (flat : σ.isFlat = true) (found : s.object? id = some o) :
    (∃ elements, (marshalOf (.list σ)).ofScript s (.object id) = .ok elements) ∨ o.IsOverlong := by
  obtain ⟨-, d, flags, length, elements⟩ := lists
  -- script numbers count less than 2 ^ 53 elements
  rcases Nat.lt_or_ge (statedLength d) (2 ^ 53) with short | long
  · let _ := marshalOf σ
    have at_length : s.propertyAs (Whole .usize) id lengthName = .ok (Whole.ofDouble .usize d) := by
      rw [propertyAs_eq_ok_iff, Store.property_own found length]
      rfl
    have at_index : ∀ i, 0 ≤ i → i < statedLength d → s.ReadsElement σ.Data id i := by
      intro i _ inside
      obtain ⟨v, flags', own, fits⟩ := elements i inside (Nat.lt_trans inside short)
      rw [Store.ReadsElement, Store.property_own found own]
      exact fits.reads_flat flat
    obtain ⟨as, read⟩ := readElements_eq_ok_iff.2 at_index
    refine .inl ⟨as, ?_⟩
    show readList s (.object id) = .ok as
    unfold readList
    simp only [at_length]
    exact read
  · refine .inr (fun i counted => ?_)
    obtain ⟨v, flags', own, -⟩ := elements i (Nat.lt_of_lt_of_le counted long) counted
    rw [own]
    rfl

/-- **Why a value of the type of a field cannot be read**: it is a list with more elements than script numbers count, or
a handle that cannot be read. -/
theorem Store.Fits.of_error {s : Store} {τ : ValueType} {v : Value} (fits : s.Fits τ v) {bound : Nat}
    (shallow : τ.isShallow bound = true) {e : ConvertError} (failed : (marshalOf τ).ofScript s v = .error e) :
    (∃ list o, v = .object list ∧ s.object? list = some o ∧ o.IsOverlong) ∨
      ∃ c part o, c.depth < bound ∧ v = .object part ∧ s.object? part = some o ∧
        o.nativeType = some (.value (.object c)) ∧
        (Layout.ofClass c).read s (.object part) (Layout.ofClass c).fresh = .error e := by
  cases τ with
  | list σ =>
    obtain ⟨list, o, rfl, found, lists⟩ := fits
    rcases lists.reads shallow found with ⟨elements, read⟩ | long
    · rw [read] at failed
      exact nomatch failed
    · exact .inl ⟨list, o, rfl, found, long⟩
  | object c =>
    obtain ⟨part, o, rfl, found, type⟩ := fits
    exact .inr ⟨c, part, o, of_decide_eq_true shallow, rfl, found, type, failed⟩
  | _ =>
    obtain ⟨a, read⟩ := fits.reads_flat rfl
    rw [read] at failed
    exact nomatch failed

end ScriptBridge.Script
