import ScriptBridge.Proofs.Numeric.Exact
import ScriptBridge.Proofs.Outcome
import ScriptBridge.Proofs.Script.Conversion

/-!
# ScriptBridge.Proofs.Script.ListObject

List objects: what writing a list makes, and what reading makes of it.

An element stands under its index and their number under `length`; the names of all these properties differ.  Nothing
stands under an index beyond the list, and a list object has no prototype, so reading past its end fails.

Main results:
  * `writeList_holds` - a list object holds the elements of the list, and nothing else;
  * `showsList_of_made` - what a list object looks like as long as nothing happens to it;
  * `readElements_eq_ok_iff`, `readElements_eq_error_iff` - when elements are read, and where this ends;
  * `readList_of_shows` - a list is read back, if script numbers can count its elements;
  * `readList_of_ages` - what is read from a constant list is read from it whatever scripts do;
  * `lawful_list`, `restores_list` - lists obey the laws if their elements do.
-/

namespace ScriptBridge.Script

open ScriptBridge.Native ScriptBridge.Numeric

-- powers are those of the core library, whatever else is imported
attribute [local instance (high)] instPowNat

/-! ## §1. The names of the properties. -/

theorem indexName_injective {i j : Nat} (h : indexName i = indexName j) : i = j := by
  -- a number can be read from its digits
  have digits : Nat.toDigits 10 i = Nat.toDigits 10 j := by
    have := congrArg String.toList h
    unfold indexName at this
    rwa [Nat.toString_eq_repr, Nat.toString_eq_repr, Nat.toList_repr, Nat.toList_repr] at this
  have value := congrArg (fun l => Nat.ofDigitChars 10 l 0) digits
  simpa only [Nat.ofDigitChars_ten_toDigits] using value

/-- An index has only digits in its name. -/
theorem indexName_ne {name : String} {letter : Char} (mem : letter ∈ name.toList) (other : letter.isDigit = false)
    (i : Nat) : indexName i ≠ name := by
  rintro rfl
  unfold indexName at mem
  rw [Nat.toString_eq_repr, Nat.toList_repr] at mem
  rw [Nat.isDigit_of_mem_toDigits (by decide) (by decide) mem] at other
  exact nomatch other

/-- The number of elements does not stand under an index. -/
theorem indexName_ne_length (i : Nat) : indexName i ≠ lengthName :=
  indexName_ne (show 'l' ∈ lengthName.toList by decide) (by decide) i

/-- What looks like a list is an object with a length of its own that no native type claims. -/
theorem looksLikeList_eq (s : Store) (v : Value) : looksLikeList s v =
    (s.objectOf? v).any (fun o => o.nativeType.isNone && (o.own? lengthName).isSome) := by
  unfold looksLikeList
  cases s.objectOf? v with
  | none => rfl
  | some o => rfl

/-! ## §2. What writing makes. -/

section

variable {α : Type}

/-- The object `list` holds the elements, each of them converted. -/
structure ShowsList (convert : α → StoreM Value) (flags : Flags) (elements : List α) (s : Store) (list : ObjectId)
    (o : Object) : Prop where
  object : s.object? list = some o
  kind : o.kind = .plain
  prototype : o.prototype = none
  length : o.property? lengthName = some ⟨.count elements.length, flags.union ⟨true, false⟩⟩
  element : ∀ i a, elements[i]? = some a →
    ∃ v, o.property? (indexName i) = some ⟨v, flags⟩ ∧ Made (convert a) (list.index + 1) s v
  beyond : ∀ i, elements.length ≤ i → o.property? (indexName i) = none

theorem ShowsList.follows {convert : α → StoreM Value} {flags : Flags} {elements : List α} {n : Nat} {s t : Store}
    {list : ObjectId} {o : Object} (h : ShowsList convert flags elements s list o) (kept : s.Follows Eq n t)
    (from_n : n ≤ list.index) : ShowsList convert flags elements t list o where
  object := kept.object? from_n h.object
  kind := h.kind
  prototype := h.prototype
  length := h.length
  element := by
    intro i a here
    obtain ⟨v, own, made⟩ := h.element i a here
    exact ⟨v, own, made.follows (kept.from_le (by omega))⟩
  beyond := h.beyond

/-- The object holds the elements, each of them converted, and nothing else. -/
structure HoldsList (convert : α → StoreM Value) (flags : Flags) (elements : List α) (s : Store) (list : ObjectId)
    (o : Object) : Prop extends ShowsList convert flags elements s list o where
  untyped : o.nativeType = none
  others : ∀ name, name ≠ lengthName → (∀ i < elements.length, name ≠ indexName i) → o.property? name = none

section

variable {convert : α → StoreM Value} {flags : Flags} {elements : List α} {n : Nat} {s t : Store} {list : ObjectId}
  {o : Object}

theorem HoldsList.follows (h : HoldsList convert flags elements s list o) (kept : s.Follows Eq n t)
    (from_n : n ≤ list.index) : HoldsList convert flags elements t list o where
  toShowsList := h.toShowsList.follows kept from_n
  untyped := h.untyped
  others := h.others

/-- The properties of the object are those of a list, and if the elements are fixed then all of them are. -/
theorem HoldsList.properties (h : HoldsList convert flags elements s list o) (name : String) :
    ((o.property? name).isSome = true ↔ name = lengthName ∨ ∃ i < elements.length, name = indexName i) ∧
      (flags = .fixed → ∀ p, o.property? name = some p → p.flags = .fixed) := by
  by_cases length : name = lengthName
  · subst length
    rw [h.length]
    refine ⟨iff_of_true rfl (.inl rfl), ?_⟩
    rintro rfl p ⟨⟩
    rfl
  by_cases index : ∃ i < elements.length, name = indexName i
  · obtain ⟨i, inside, rfl⟩ := index
    obtain ⟨v, own, -⟩ := h.element i _ (List.getElem?_eq_getElem inside)
    rw [own]
    refine ⟨iff_of_true rfl (.inr ⟨i, inside, rfl⟩), ?_⟩
    rintro fixed p ⟨⟩
    exact fixed
  · rw [h.others name length (fun i inside same => index ⟨i, inside, same⟩)]
    exact ⟨iff_of_false nofun (not_or.2 ⟨length, index⟩), fun _ _ none => nomatch none⟩

end

/-- The elements are written like any other properties, each under its index. -/
theorem writeElements_eq_forM (convert : α → StoreM Value) (flags : Flags) (list : ObjectId) (elements : List α) :
    ∀ index, writeElements convert flags list index elements =
      (elements.zipIdx index).forM (fun p => writeProperty list (indexName p.2) flags (convert p.1)) := by
  induction elements with
  | nil => intro index; rfl
  | cons a rest ih =>
    intro index
    rw [writeElements, ih]
    rfl

/-- The flags of the elements. -/
def elementFlags (constant : Bool) : Flags :=
  if constant then .fixed else .none

theorem writeList_run (convert : α → StoreM Value) (flags : Flags) (elements : List α) (s : Store) :
    writeList convert flags elements s =
      (.object ⟨s.objects.length⟩,
        (writeElements convert flags ⟨s.objects.length⟩ 0 elements (s.alloc (.ofKind .plain)).2).2.define
          ⟨s.objects.length⟩ lengthName (.count elements.length) (flags.union ⟨true, false⟩)) := rfl

/-- The names of the elements differ. -/
theorem nodup_indexNames (elements : List α) : ((elements.zipIdx).map (fun p => indexName p.2)).Nodup := by
  have names : (elements.zipIdx).map (fun p => indexName p.2) =
      (List.range' 0 elements.length).map indexName := by
    rw [← List.zipIdx_map_snd 0 elements, List.map_map]
    rfl
  rw [names]
  exact List.Pairwise.map indexName (fun _ _ apart same => apart (indexName_injective same)) List.nodup_range'

theorem mem_indexNames {elements : List α} {i : Nat}
    (mem : indexName i ∈ (elements.zipIdx).map (fun p => indexName p.2)) : i < elements.length := by
  obtain ⟨p, here, name⟩ := List.mem_map.1 mem
  have index := List.snd_lt_of_mem_zipIdx here
  rw [indexName_injective name] at index
  omega

section

variable {convert : α → StoreM Value} {flags : Flags} {elements : List α} {n : Nat} {s t : Store} {list : ObjectId}
  {o : Object}

/-- **What a list is converted to holds its elements, and nothing else**, if conversions spare the objects made
since. -/
theorem writeList_holds (flags : Flags) (elements : List α) (spares : ∀ a (s : Store), s.Follows Eq n (convert a s).2)
    (newer : n ≤ s.objects.length) : s.Follows Eq n (writeList convert flags elements s).2 ∧
      ∃ o, HoldsList convert flags elements (writeList convert flags elements s).2 ⟨s.objects.length⟩ o := by
  have fresh : (s.alloc (.ofKind .plain)).2.object? ⟨s.objects.length⟩ = some (Object.ofKind .plain) :=
    Store.object?_alloc_self s _
  obtain ⟨others, o, found, ⟨kind, nativeType, prototype⟩, written⟩ := forM_writeProperty_written
    (fun p : α × Nat => indexName p.2) (fun _ => flags) (fun p _ => spares p.1) (nodup_indexNames elements) newer fresh
  rw [writeList_run, writeElements_eq_forM]
  -- `t` is the store with the elements, but without their number
  generalize (elements.zipIdx.forM (fun p => writeProperty ⟨s.objects.length⟩ (indexName p.2) flags (convert p.1))
    (s.alloc (.ofKind .plain)).2).2 = t at others found written
  have defined := Store.alters_define t ⟨s.objects.length⟩ lengthName (.count elements.length)
    (flags.union ⟨true, false⟩)
  constructor
  · intro id p from_n there
    have apart : id ≠ ⟨s.objects.length⟩ := by
      rintro rfl
      rw [Store.object?_fresh] at there
      cases there
    exact ⟨p, defined.others id p apart (others id p from_n apart ((Store.extends_alloc s _).object? there)), rfl⟩
  · refine ⟨o.define lengthName (.count elements.length) (flags.union ⟨true, false⟩), ⟨?_, kind, prototype, ?_, ?_, ?_⟩,
      nativeType, ?_⟩
    · exact Store.object?_define_self _ _ _ found
    · rw [Object.property?_define, if_pos rfl]
    · intro i a here
      obtain ⟨v, own, made⟩ := written.written (a, i) (List.mk_mem_zipIdx_iff_getElem?.2 here)
      refine ⟨v, ?_, (made.follows (defined.follows ?_)).from_le ?_⟩
      · rw [Object.property?_define, if_neg (indexName_ne_length i), own]
      · simp [Store.alloc]
      · simp [Store.alloc]
    · intro i behind
      rw [Object.property?_define, if_neg (indexName_ne_length i), written.others]
      · rfl
      · intro mem
        have := mem_indexNames mem
        omega
    · intro name no_length no_element
      rw [Object.property?_define, if_neg no_length, written.others]
      · rfl
      · intro mem
        obtain ⟨p, here, rfl⟩ := List.mem_map.1 mem
        exact no_element p.2 (by simpa using List.snd_lt_of_mem_zipIdx here) rfl

/-- The same as long as nothing happens to what was made. -/
theorem holdsList_of_made (spares : ∀ a (s : Store), s.Follows Eq n (convert a s).2) {v : Value}
    (made : Made (writeList convert flags elements) n s v) :
    ∃ list o, v = .object list ∧ n ≤ list.index ∧ HoldsList convert flags elements s list o := by
  obtain ⟨origin, newer, value, kept⟩ := made
  obtain ⟨-, o, holds⟩ := writeList_holds flags elements spares newer
  exact ⟨⟨origin.objects.length⟩, o, value.symm, newer, holds.follows kept (Nat.le_refl _)⟩

/-- If conversions only add objects then so does writing a list, and the first of them is the list object. -/
theorem writeList_shows {convert : α → StoreM Value} (flags : Flags) (elements : List α)
    (extends_convert : ∀ a (s : Store), s.Extends (convert a s).2) (s : Store) :
    s.Extends (writeList convert flags elements s).2 ∧
      ∃ o, ShowsList convert flags elements (writeList convert flags elements s).2 ⟨s.objects.length⟩ o := by
  obtain ⟨-, o, holds⟩ := writeList_holds flags elements (fun a s => (extends_convert a s).objects) (Nat.zero_le _)
  refine ⟨?_, o, holds.toShowsList⟩
  have altered := (forM_writeProperty (fun p : α × Nat => indexName p.2) (fun _ => flags)
    (fun p _ => extends_convert p.1) (nodup_indexNames elements) (Store.object?_alloc_self s (.ofKind .plain))).1
  rw [writeList_run, writeElements_eq_forM]
  exact (altered.trans (Store.alters_define _ _ _ _ _)).extends (Store.extends_alloc s _) (Store.object?_fresh s)

/-- What a list object looks like, as long as nothing happens to it. -/
theorem showsList_of_made (extends_convert : ∀ a (s : Store), s.Extends (convert a s).2) {v : Value}
    (made : Made (writeList convert flags elements) n s v) :
    ∃ list o, v = .object list ∧ n ≤ list.index ∧ ShowsList convert flags elements s list o := by
  obtain ⟨list, o, object, newer, holds⟩ :=
    holdsList_of_made (fun a s => (extends_convert a s).objects.from_le (Nat.zero_le n)) made
  exact ⟨list, o, object, newer, holds.toShowsList⟩

end

/-- A list of constant values with fixed properties is sealed. -/
theorem writeList_sealed {convert : α → StoreM Value} (elements : List α)
    (extends_convert : ∀ a (s : Store), s.Extends (convert a s).2)
    (constant : ∀ a (s : Store), (convert a s).2.SealedFrom s.objects.length) (s : Store) :
    (writeList convert .fixed elements s).2.SealedFrom s.objects.length := by
  have fresh : (s.alloc (.ofKind .plain)).2.SealedFrom s.objects.length :=
    Store.sealedFrom_alloc rfl (fun _ => rfl)
  rw [writeList_run, writeElements_eq_forM]
  apply Store.SealedFrom.define
  exact forM_writeProperty_sealed (fun p _ => extends_convert p.1) (fun p _ => constant p.1) fresh

/-! ## §3. What reading makes of it. -/

variable [m : Marshal α]

theorem propertyAs_eq_ok_iff {s : Store} {id : ObjectId} {name : String} {a : α} :
    s.propertyAs α id name = .ok a ↔ Marshal.ofScript s (s.property id name) = .ok a := by
  unfold Store.propertyAs
  cases (Marshal.ofScript s (s.property id name) : Except ConvertError α) with
  | error e =>
    constructor
    · intro h
      exact nomatch h
    · intro h
      exact nomatch h
  | ok b => exact Iff.rfl

/-- If all elements are read, so is the list of those from an index on. -/
theorem readElements_eq_ok {s : Store} {list : ObjectId} {elements : List α}
    (each : ∀ i a, elements[i]? = some a → s.propertyAs α list (indexName i) = .ok a) :
    ∀ k index, index + k = elements.length →
      readElements s list elements.length index = .ok (elements.drop index) := by
  -- induction on the number of elements that are left to be read
  intro k
  induction k with
  | zero =>
    intro index total
    rw [readElements, if_neg (by omega), List.drop_eq_nil_of_le (by omega)]
  | succ k ih =>
    intro index total
    have inside : index < elements.length := by omega
    rw [readElements, if_pos inside, each index _ (List.getElem?_eq_getElem inside)]
    simp only
    rw [ih (index + 1) (by omega), List.drop_eq_getElem_cons inside]

/-- The element is found, and can be read. -/
def Store.ReadsElement (s : Store) (α : Type) [Marshal α] (list : ObjectId) (i : Nat) : Prop :=
  ∃ a : α, Marshal.ofScript s (s.property list (indexName i)) = .ok a

/-- An element is read before those behind it. -/
theorem readElements_step {s : Store} {list : ObjectId} {length index : Nat} (inside : index < length) :
    readElements (α := α) s list length index = (s.propertyAs α list (indexName index)).bind
      (fun a => (readElements s list length (index + 1)).map (fun rest => a :: rest)) := by
  rw [readElements, if_pos inside]
  cases s.propertyAs α list (indexName index) with
  | error e => rfl
  | ok a =>
    simp only [Except.bind]
    cases readElements (α := α) s list length (index + 1) with
    | error e => rfl
    | ok rest => rfl

/-- Where one element can be read, it depends on those behind it whether all can. -/
theorem Store.ReadsElement.from_next {s : Store} {list : ObjectId} {index stop : Nat}
    (first : s.ReadsElement α list index) :
    (∀ i, index ≤ i → i < stop → s.ReadsElement α list i) ↔
      ∀ i, index + 1 ≤ i → i < stop → s.ReadsElement α list i := by
  refine ⟨fun each i from_next => each i (by omega), fun each i from_index inside => ?_⟩
  rcases Nat.eq_or_lt_of_le from_index with rfl | later
  · exact first
  · exact each i later inside

/-- **Elements are read to the end** if every single one can be read. -/
theorem readElements_eq_ok_iff {s : Store} {list : ObjectId} {length index : Nat} :
    (∃ elements : List α, readElements s list length index = .ok elements) ↔
      ∀ i, index ≤ i → i < length → s.ReadsElement α list i := by
  -- induction on the number of elements that are left to be read
  induction left : length - index generalizing index with
  | zero =>
    rw [readElements, if_neg (by omega)]
    exact iff_of_true ⟨[], rfl⟩ (fun i from_index inside => by omega)
  | succ k ih =>
    have behind := @ih (index + 1) (by omega)
    rw [readElements_step (by omega), Store.propertyAs]
    cases here : (Marshal.ofScript s (s.property list (indexName index)) : Except ConvertError α) with
    | error cause =>
      refine iff_of_false (by rintro ⟨_, ⟨⟩⟩) (fun each => ?_)
      obtain ⟨a, read⟩ := each index (Nat.le_refl _) (by omega)
      rw [here] at read
      cases read
    | ok a =>
      have first : s.ReadsElement α list index := ⟨a, here⟩
      rw [first.from_next, ← behind]
      exact exists_map_eq_ok_iff

/-- **Otherwise reading ends at the first element that cannot be read.** -/
theorem readElements_eq_error_iff {s : Store} {list : ObjectId} {length index : Nat} {e : ConvertError} :
    readElements (α := α) s list length index = .error e ↔
      ∃ i cause, index ≤ i ∧ i < length ∧ (∀ j, index ≤ j → j < i → s.ReadsElement α list j) ∧
        (Marshal.ofScript s (s.property list (indexName i)) : Except ConvertError α) = .error cause ∧
        e = .inProperty (indexName i) cause := by
  -- induction on the number of elements that are left to be read: the first of them fails, or one behind it does
  induction left : length - index generalizing index with
  | zero =>
    rw [readElements, if_neg (by omega)]
    refine iff_of_false (by rintro ⟨⟩) ?_
    rintro ⟨i, cause, from_index, inside, -⟩
    omega
  | succ k ih =>
    have behind := @ih (index + 1) (by omega)
    rw [readElements_step (by omega), Store.propertyAs]
    cases here : (Marshal.ofScript s (s.property list (indexName index)) : Except ConvertError α) with
    | error cause =>
      show Except.error (.inProperty (indexName index) cause) = .error e ↔ _
      rw [Except.error.injEq]
      constructor
      · rintro rfl
        exact ⟨index, cause, Nat.le_refl _, by omega, fun j from_index before => by omega, here, rfl⟩
      · rintro ⟨i, cause', from_index, -, before, failed, rfl⟩
        rcases Nat.eq_or_lt_of_le from_index with rfl | later
        · rw [Except.error.inj (here.symm.trans failed)]
        · obtain ⟨a, read⟩ := before index (Nat.le_refl _) later
          rw [here] at read
          cases read
    | ok a =>
      have first : s.ReadsElement α list index := ⟨a, here⟩
      refine map_eq_error_iff.trans (behind.trans ?_)
      constructor
      · rintro ⟨i, cause, from_next, inside, before, failed, rfl⟩
        exact ⟨i, cause, by omega, inside, first.from_next.2 before, failed, rfl⟩
      · rintro ⟨i, cause, from_index, inside, before, failed, rfl⟩
        rcases Nat.eq_or_lt_of_le from_index with rfl | later
        · rw [here] at failed
          cases failed
        · exact ⟨i, cause, later, inside, first.from_next.1 before, failed, rfl⟩

/-- Reading elements gives the same in another store if every single one does. -/
theorem readElements_congr {s t : Store} {list : ObjectId} {length : Nat}
    (each : ∀ i (a : α), s.propertyAs α list (indexName i) = .ok a → t.propertyAs α list (indexName i) = .ok a) :
    ∀ k index elements, index + k = length → readElements (α := α) s list length index = .ok elements →
      readElements t list length index = .ok elements := by
  -- induction on the number of elements that are left
  intro k
  induction k with
  | zero =>
    intro index elements total read
    rw [readElements, if_neg (by omega)] at read ⊢
    exact read
  | succ k ih =>
    intro index elements total read
    rw [readElements, if_pos (by omega)] at read ⊢
    cases here : s.propertyAs α list (indexName index) with
    | error e =>
      rw [here] at read
      exact nomatch read
    | ok a =>
      rw [here] at read
      rw [each index a here]
      cases behind : readElements (α := α) s list length (index + 1) with
      | error e =>
        rw [behind] at read
        exact nomatch read
      | ok rest =>
        rw [behind] at read
        rw [ih (index + 1) rest (by omega) behind]
        exact read

/-- The number of elements as a native number. -/
theorem ofScript_count {n : Nat} (short : n < 2 ^ Format.double.precision) (s : Store) :
    ∃ length : Whole .usize, Marshal.ofScript s (.count n) = .ok length ∧ length.val.toNat = n := by
  have least : IntegerType.usize.least = 0 := rfl
  have greatest : IntegerType.usize.greatest = 18446744073709551615 := rfl
  have limit : 2 ^ Format.double.precision = 9007199254740992 := rfl
  -- the range of the type is wider than what script numbers count
  let length : Whole .usize := ⟨n, by omega, by omega⟩
  refine ⟨length, ?_, Int.toNat_natCast n⟩
  show Except.ok (Whole.ofDouble .usize length.toDouble) = _
  rw [Whole.ofDouble_toDouble length (by simpa [length] using short)]

/-- **A list is read back**, if script numbers can count its elements. -/
theorem readList_of_shows {convert : α → StoreM Value} {flags : Flags} {elements : List α} {s : Store}
    {list : ObjectId} {o : Object} (shows : ShowsList convert flags elements s list o)
    (short : elements.length < 2 ^ Format.double.precision)
    (each : ∀ a ∈ elements, ∀ v, Made (convert a) (list.index + 1) s v → Marshal.ofScript s v = .ok a) :
    readList s (.object list) = .ok elements := by
  obtain ⟨length, counted, value⟩ := ofScript_count short s
  have at_length : s.propertyAs (Whole .usize) list lengthName = .ok length := by
    rw [propertyAs_eq_ok_iff, Store.property_own shows.object shows.length]
    exact counted
  have at_index : ∀ i a, elements[i]? = some a → s.propertyAs α list (indexName i) = .ok a := by
    intro i a here
    obtain ⟨v, own, made⟩ := shows.element i a here
    rw [propertyAs_eq_ok_iff, Store.property_own shows.object own]
    exact each a (List.mem_of_getElem? here) v made
  unfold readList
  simp only [at_length, value]
  rw [readElements_eq_ok at_index elements.length 0 (Nat.zero_add _), List.drop_zero]

/-- **What is read from a constant list is read from it whatever scripts do.** -/
theorem readList_of_ages (lawful : m.Lawful) {elements : List α} {s t : Store} {list : ObjectId}
    {o : Object} (shows : ShowsList m.toConst .fixed elements s list o) (ages : s.Follows Object.Ages list.index t)
    {b : List α} (read : readList s (.object list) = .ok b) : readList t (.object list) = .ok b := by
  obtain ⟨next, found, step⟩ := ages list o (Nat.le_refl _) shows.object
  -- a list object is no handle, so it keeps its fixed properties
  have still : o.isMutable = false := by
    apply Object.isMutable_eq_false
    rw [shows.kind]
    decide
  have at_length : t.property list lengthName = s.property list lengthName := by
    rw [Store.property_own shows.object shows.length,
      Store.property_own found (step.fixed still _ _ shows.length rfl)]
  have at_index : ∀ i (a : α), s.propertyAs α list (indexName i) = .ok a →
      t.propertyAs α list (indexName i) = .ok a := by
    intro i a here
    rw [propertyAs_eq_ok_iff] at here ⊢
    rcases Nat.lt_or_ge i elements.length with inside | behind
    · obtain ⟨v, own, made⟩ := shows.element i _ (List.getElem?_eq_getElem inside)
      rw [Store.property_own shows.object own] at here
      rw [Store.property_own found (step.fixed still _ _ own rfl)]
      exact lawful.steady _ _ s t v a made (ages.from_le (Nat.le_succ _)) here
    · -- an index without an element was not read in the first place
      rw [Store.property_missing shows.object (shows.beyond i behind) shows.prototype] at here
      exact absurd here (lawful.undefined s a)
  unfold readList at read ⊢
  simp only at read ⊢
  cases counted : s.propertyAs (Whole .usize) list lengthName with
  | error e =>
    rw [counted] at read
    exact nomatch read
  | ok length =>
    have counted' : t.propertyAs (Whole .usize) list lengthName = .ok length := by
      rw [propertyAs_eq_ok_iff, at_length]
      rw [propertyAs_eq_ok_iff, Store.property_own shows.object shows.length] at counted
      rw [Store.property_own shows.object shows.length]
      exact counted
    rw [counted] at read
    rw [counted']
    exact readElements_congr at_index length.val.toNat 0 b (Nat.zero_add _) read

/-! ## §4. The laws. -/

theorem lawful_list (lawful : m.Lawful) : (inferInstance : Marshal (List α)).Lawful where
  toScript_extends := fun elements s => (writeList_shows _ elements lawful.toScript_extends s).1
  toConst_extends := fun elements s => (writeList_shows _ elements lawful.toConst_extends s).1
  toConst_sealed := fun elements s => writeList_sealed elements lawful.toConst_extends lawful.toConst_sealed s
  undefined := fun _ _ h => nomatch h
  steady := by
    intro elements n s t v b made ages read
    obtain ⟨list, o, rfl, le, shows⟩ := showsList_of_made lawful.toConst_extends made
    exact readList_of_ages lawful shows (ages.from_le le) read

theorem restores_list (lawful : m.Lawful) {elements : List α} (short : elements.length < 2 ^ Format.double.precision)
    (each : ∀ a ∈ elements, m.Restores a a) : (inferInstance : Marshal (List α)).Restores elements elements where
  toScript := by
    intro n s v made
    obtain ⟨list, o, rfl, -, shows⟩ := showsList_of_made lawful.toScript_extends made
    exact readList_of_shows shows short (fun a mem v made => (each a mem).toScript _ s v made)
  toConst := by
    intro n s v made
    obtain ⟨list, o, rfl, -, shows⟩ := showsList_of_made lawful.toConst_extends made
    exact readList_of_shows shows short (fun a mem v made => (each a mem).toConst _ s v made)

end

end ScriptBridge.Script
