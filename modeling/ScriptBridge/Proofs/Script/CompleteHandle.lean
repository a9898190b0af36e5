import ScriptBridge.Proofs.Script.FieldType
import ScriptBridge.Proofs.Script.ScriptRun

/-!
# ScriptBridge.Proofs.Script.CompleteHandle

Handles that have all the fields of their class.

A complete handle has every public field of its class as a property of its own, with the flags for its kind and a value
of the right type (`Object.Bears`).  Conversions, publishing and calls make complete handles only, and they leave the
fields of the others alone, except that a call may write an instance back onto a mutable handle, also one of another
class.  That does no harm either, since fields of one name are the same in all classes.  Assignments and deletions by
scripts never remove a field, but may give it a value of another type, or spoil a list that is its value.

A value that has not the right type has to be excused.  What excuses it is left open here.

Main results:
  * `completes_toScript` - conversions make complete handles;
  * `completes_register` - so does publishing a class;
  * `Store.CompleteFrom.place` - writing an instance back, of whatever class, leaves handles complete;
  * `Request.leaves_complete` - calls leave handles complete;
  * `Store.CompleteFrom.put`, `Store.CompleteFrom.delete` - what has to be excused after an assignment or a deletion.
-/

namespace ScriptBridge.Script

open ScriptBridge.Native

/-! ## §1. Complete handles. -/

/-- What excuses a value of a field on a handle. -/
abbrev Excuse := ObjectId → PublicField → Value → Prop

/-- The object is a handle on which all public fields of the class stand, with the flags for its kind and values that
are as `holds` says. -/
def Object.Bears (c : ClassName) (holds : PublicField → Value → Prop) (o : Object) : Prop :=
  ∃ kind, o.kind = .handle kind ∧
    ∀ p ∈ publicFields c, ∃ v, o.property? p.name = some ⟨v, p.flags kind⟩ ∧ holds p v

/-- From number `n` on, all handles that were made for a class bear the fields of the class, with values of the right
types unless these are excused. -/
def Store.CompleteFrom (excused : Excuse) (n : Nat) (s : Store) : Prop :=
  ∀ id o c, n ≤ id.index → s.object? id = some o → o.nativeType = some (.value (.object c)) →
    o.Bears c (fun p v => s.Fits p.type v ∨ excused id p v)

/-- The object stays what it is, as a handle it keeps the fields of its class, and as a list its length and elements. -/
structure Object.Stays (o next : Object) : Prop extends Object.Firm o next where
  fields : ∀ c, o.nativeType = some (.value (.object c)) → ∀ p ∈ publicFields c,
    next.property? p.name = o.property? p.name

namespace Object

/-- An object that stays as it is keeps its fields. -/
theorem Stays.refl (o : Object) : o.Stays o :=
  ⟨.refl o, fun _ _ _ _ => rfl⟩

/-- One change after another. -/
theorem Stays.trans {o p q : Object} (first : o.Stays p) (second : p.Stays q) : o.Stays q where
  toFirm := first.toFirm.trans second.toFirm
  fields := by
    intro c type field mem
    rw [second.fields c (first.nativeType.trans type) field mem, first.fields c type field mem]

/-- An object with the same kind, type and properties. -/
theorem Stays.of_property? {o next : Object} (kind : next.kind = o.kind) (nativeType : next.nativeType = o.nativeType)
    (properties : ∀ name, next.property? name = o.property? name) : o.Stays next :=
  ⟨⟨kind, nativeType, fun _ _ name _ => properties name⟩, fun _ _ p _ => properties p.name⟩

/-- A property that is no field and no element may be defined. -/
theorem stays_define (o : Object) {name : String} (value : Value) (flags : Flags) (apart : IsApart name) :
    o.Stays (o.define name value flags) where
  toFirm := o.firm_define_apart value flags apart.no_list
  fields := by
    intro c _ p mem
    rw [property?_define, if_neg (apart.no_field c p mem)]

/-- Weaker demands on the values are met, too. -/
theorem Bears.mono {c : ClassName} {holds holds' : PublicField → Value → Prop} {o : Object} (bears : o.Bears c holds)
    (weaker : ∀ p ∈ publicFields c, ∀ v, holds p v → holds' p v) : o.Bears c holds' := by
  obtain ⟨kind, handle, fields⟩ := bears
  refine ⟨kind, handle, fun p mem => ?_⟩
  obtain ⟨v, own, fine⟩ := fields p mem
  exact ⟨v, own, weaker p mem v fine⟩

/-- **A handle goes on bearing its fields** while it stays what it is. -/
theorem Bears.stays {c : ClassName} {holds : PublicField → Value → Prop} {o next : Object} (bears : o.Bears c holds)
    (stays : o.Stays next) (type : o.nativeType = some (.value (.object c))) : next.Bears c holds := by
  obtain ⟨kind, handle, fields⟩ := bears
  refine ⟨kind, stays.kind.trans handle, fun p mem => ?_⟩
  rw [stays.fields c type p mem]
  exact fields p mem

end Object

namespace Store.CompleteFrom

variable {excused : Excuse} {n : Nat} {s t : Store}

/-- Handles stay complete as long as nothing happens to them and to lists, and new ones are complete. -/
theorem follows (old : s.CompleteFrom excused n) (firm : s.Follows Object.Firm 0 t)
    (stays : s.Follows Object.Stays n t) (new : t.CompleteFrom excused s.objects.length) :
    t.CompleteFrom excused n := by
  intro id o c from_n found type
  rcases stays.origin from_n found with ⟨p, found', step⟩ | behind
  · have type' := step.nativeType.symm.trans type
    refine ((old id p c from_n found' type').stays step type').mono ?_
    rintro q - v (fits | excuse)
    · exact .inl (fits.firm firm)
    · exact .inr excuse
  · exact new id o c behind found type

/-- So they do when there are new objects only. -/
theorem extend (old : s.CompleteFrom excused n) (h : s.Extends t) (new : t.CompleteFrom excused s.objects.length) :
    t.CompleteFrom excused n :=
  old.follows (h.objects.of_unchanged Object.Firm.refl (Nat.le_refl 0))
    (h.objects.of_unchanged Object.Stays.refl (Nat.zero_le n)) new

/-- Only the objects matter. -/
theorem congr (h : s.CompleteFrom excused n) (objects : t.objects = s.objects) : t.CompleteFrom excused n := by
  have same : ∀ id, t.object? id = s.object? id := by
    intro id
    unfold Store.object?
    rw [objects]
  have firm : s.Follows Object.Firm 0 t := fun id o _ found => ⟨o, (same id).trans found, .refl o⟩
  intro id o c from_n found type
  refine (h id o c from_n ((same id).symm.trans found) type).mono ?_
  rintro p - v (fits | excuse)
  · exact .inl (fits.firm firm)
  · exact .inr excuse

/-- More may be excused. -/
theorem mono {excused' : Excuse} (h : s.CompleteFrom excused n) (weaker : ∀ id p v, excused id p v → excused' id p v) :
    s.CompleteFrom excused' n :=
  fun id o c from_n found type => (h id o c from_n found type).mono (fun p _ v => Or.imp_right (weaker id p v))

end Store.CompleteFrom

/-- There are no handles behind the last object. -/
theorem completeFrom_length (excused : Excuse) (s : Store) : s.CompleteFrom excused s.objects.length := by
  intro id o c from_n found
  have := Store.index_lt_of_object? found
  omega

/-- What was not made for a class need not bear any fields. -/
theorem completeFrom_of_untyped (excused : Excuse) {n : Nat} {s : Store}
    (untyped : ∀ id o, n ≤ id.index → s.object? id = some o → o.nativeType = none) : s.CompleteFrom excused n := by
  intro id o c from_n found type
  rw [untyped id o from_n found] at type
  exact nomatch type

/-- A new object that was not made for a class. -/
theorem completeFrom_alloc (excused : Excuse) {o : Object} (untyped : o.nativeType = none) (s : Store) :
    (s.alloc o).2.CompleteFrom excused s.objects.length := by
  apply completeFrom_of_untyped
  intro id p from_n found
  rcases Store.of_object?_alloc found with ⟨-, rfl⟩ | found
  · exact untyped
  · have := Store.index_lt_of_object? found
    omega

namespace Store.CompleteFrom

variable {excused : Excuse} {n : Nat} {s : Store}

/-- Handles stay complete when something happens to one object, but neither to what it is, nor to the fields on it if
it is one of the handles, nor to its length and elements if it is a list. -/
theorem update (h : s.CompleteFrom excused n) {id : ObjectId} {change : Object → Object}
    (firm : ∀ o, s.object? id = some o → o.Firm (change o))
    (fields : ∀ o c, n ≤ id.index → s.object? id = some o → o.nativeType = some (.value (.object c)) →
      ∀ p ∈ publicFields c, (change o).property? p.name = o.property? p.name) :
    (s.update id change).CompleteFrom excused n := by
  have length : (s.update id change).objects.length = s.objects.length := by
    simp only [Store.update, List.length_modify]
  have new := completeFrom_length excused (s.update id change)
  rw [length] at new
  refine h.follows ?_ ?_ new
  · intro other o _ found
    by_cases same : other = id
    · subst same
      exact ⟨change o, by rw [object?_update, if_pos rfl, found]; rfl, firm o found⟩
    · exact ⟨o, by rw [object?_update, if_neg same, found], .refl o⟩
  · intro other o from_n found
    by_cases same : other = id
    · subst same
      refine ⟨change o, by rw [object?_update, if_pos rfl, found]; rfl, firm o found, ?_⟩
      exact fun c type p mem => fields o c from_n found type p mem
    · exact ⟨o, by rw [object?_update, if_neg same, found], .refl o⟩

/-- Properties that are neither fields nor part of lists may be defined anywhere. -/
theorem define (h : s.CompleteFrom excused n) (id : ObjectId) {name : String} (value : Value) (flags : Flags)
    (apart : IsApart name) : (s.define id name value flags).CompleteFrom excused n :=
  h.update (fun o _ => (o.stays_define value flags apart).toFirm)
    (fun o c _ _ type p mem => (o.stays_define value flags apart).fields c type p mem)

/-- Changes that are no changes of properties do not matter. -/
theorem update_of_property? (h : s.CompleteFrom excused n) (id : ObjectId) {change : Object → Object}
    (kind : ∀ o, (change o).kind = o.kind) (nativeType : ∀ o, (change o).nativeType = o.nativeType)
    (properties : ∀ o name, (change o).property? name = o.property? name) :
    (s.update id change).CompleteFrom excused n :=
  h.update (fun o _ => (Object.Stays.of_property? (kind o) (nativeType o) (properties o)).toFirm)
    (fun o _ _ _ _ p _ => properties o p.name)

/-- A payload takes no field away. -/
theorem attach (h : s.CompleteFrom excused n) (id : ObjectId) (d : Datum) : (s.attach id d).CompleteFrom excused n :=
  h.update_of_property? id (fun _ => rfl) (fun _ => rfl) (fun _ _ => rfl)

/-- A prototype takes no field away. -/
theorem setPrototype (h : s.CompleteFrom excused n) (id : ObjectId) (prototype : Option ObjectId) :
    (s.setPrototype id prototype).CompleteFrom excused n :=
  h.update_of_property? id (fun _ => rfl) (fun _ => rfl) (fun _ _ => rfl)

end Store.CompleteFrom

/-! ## §2. Conversions. -/

/-- The computation makes complete handles only. -/
def Completes {α : Type} (make : StoreM α) : Prop :=
  ∀ excused (s : Store), (make s).2.CompleteFrom excused s.objects.length

/-- A computation that makes no handle makes complete handles only. -/
theorem completes_pure {α : Type} (a : α) : Completes (pure a : StoreM α) :=
  fun excused s => completeFrom_length excused s

/-- Values that are no objects come without any handles. -/
theorem completes_flat {σ : ValueType} (flat : σ.isFlat = true) (constant : Bool) (a : σ.Data) :
    Completes (Convert.toScript (.value σ) constant a) := by
  cases σ with
  | list element => exact nomatch flat
  | object c => exact nomatch flat
  | _ => cases constant <;> exact completes_pure _

/-- The object was not made for a class, and has no length yet. -/
def Store.IsOpen (id : ObjectId) (s : Store) : Prop :=
  ∃ o, s.object? id = some o ∧ o.nativeType = none ∧ o.property? lengthName = none

/-- An open object stays open when it gets a property other than the length. -/
theorem Store.IsOpen.define {id : ObjectId} {s : Store} (h : s.IsOpen id) {name : String} (value : Value)
    (flags : Flags) (no_length : name ≠ lengthName) : (s.define id name value flags).IsOpen id := by
  obtain ⟨o, found, untyped, none⟩ := h
  refine ⟨_, object?_define_self name value flags found, untyped, ?_⟩
  rw [Object.property?_define, if_neg (Ne.symm no_length), none]

/-- On such an object any properties may be defined. -/
theorem Store.CompleteFrom.define_open {excused : Excuse} {n : Nat} {s : Store} (h : s.CompleteFrom excused n)
    {id : ObjectId} (isOpen : s.IsOpen id) (name : String) (value : Value) (flags : Flags) :
    (s.define id name value flags).CompleteFrom excused n := by
  obtain ⟨o, found, untyped, none⟩ := isOpen
  apply h.update
  · intro p found'
    obtain rfl := Option.some.inj (found.symm.trans found')
    exact Object.firm_define_loose none name value flags
  · intro p c _ found' type
    obtain rfl := Option.some.inj (found.symm.trans found')
    rw [untyped] at type
    exact nomatch type

/-- A list is no handle, and its elements come with complete handles only. -/
theorem completes_list {α : Type} {convert : α → StoreM Value} (flags : Flags) (elements : List α)
    (extends_convert : ∀ a (s : Store), s.Extends (convert a s).2) (each : ∀ a, Completes (convert a)) :
    Completes (writeList convert flags elements) := by
  intro excused s
  have fresh : (s.alloc (.ofKind .plain)).2.IsOpen ⟨s.objects.length⟩ :=
    ⟨_, Store.object?_alloc_self s _, rfl, rfl⟩
  -- while elements are written, the list has no length
  have written : (elements.zipIdx.forM (fun p => writeProperty ⟨s.objects.length⟩ (indexName p.2) flags
      (convert p.1)) (s.alloc (.ofKind .plain)).2).2.CompleteFrom excused s.objects.length ∧
      (elements.zipIdx.forM (fun p => writeProperty ⟨s.objects.length⟩ (indexName p.2) flags
        (convert p.1)) (s.alloc (.ofKind .plain)).2).2.IsOpen ⟨s.objects.length⟩ := by
    refine forM_writeProperty_induct
      (P := fun t => t.CompleteFrom excused s.objects.length ∧ t.IsOpen ⟨s.objects.length⟩) ?_ ?_
      ⟨completeFrom_alloc excused rfl s, fresh⟩
    · rintro p - t ⟨complete, o, found, isOpen⟩
      have extended := extends_convert p.1 t
      exact ⟨complete.extend extended (each p.1 excused t), o, extended.object? found, isOpen⟩
    · rintro p - t v ⟨complete, isOpen⟩
      exact ⟨complete.define_open isOpen _ _ _, isOpen.define v flags (indexName_ne_length p.2)⟩
  rw [writeList_run, writeElements_eq_forM]
  exact written.1.define_open written.2 _ _ _

namespace Layout

variable {c : ClassName}

/-- Writing an instance makes complete handles only, apart from the object that is written onto. -/
theorem place_completes (each : ∀ p ∈ publicFields c, ∀ constant data,
      Completes (Convert.toScript (.value p.type) constant data)) (kind : HandleKind) (a : c.Instance)
    {excused : Excuse} {n : Nat} {s : Store} {handle : ObjectId} (apart : handle.index < n)
    (h : s.CompleteFrom excused n) : ((Layout.ofClass c).place kind a handle s).2.CompleteFrom excused n := by
  rw [place_run, carry_run]
  have written : ((Layout.ofClass c).fields.forM (fun f =>
      writeProperty handle f.name (f.flags kind) (f.convert kind a)) s).2.CompleteFrom excused n := by
    refine forM_writeProperty_induct ?_ ?_ h
    · intro f mem t complete
      obtain ⟨p, mem', is⟩ := exists_right_of_mem (fields_are_public c) mem
      obtain ⟨data, convert⟩ := is.convert_eq kind a
      rw [convert]
      exact complete.extend (Convert.toScript_extends _ _ _ t) (each p mem' _ data excused t)
    · intro f mem t v complete
      obtain ⟨p, mem', is⟩ := exists_right_of_mem (fields_are_public c) mem
      -- no field is called like a length or an element, so lists are not touched
      have no_list : ¬IsListName f.name := is.name_eq ▸ not_isListName_field mem'
      refine complete.update (fun o _ => o.firm_define_apart v _ no_list) ?_
      intro o d from_n
      omega
  split
  · exact written.attach _ _
  · exact written

/-- A handle that shows an instance bears all fields. -/
theorem bears_of_shows {kind : HandleKind} {a : c.Instance} {n : Nat} {s : Store} {handle : ObjectId} {o : Object}
    (shows : (Layout.ofClass c).Shows kind a n s handle o) : o.Bears c (fun p v => s.Fits p.type v) := by
  refine ⟨kind, shows.is_handle, fun p mem => ?_⟩
  obtain ⟨f, mem', is⟩ := exists_left_of_mem (fields_are_public c) mem
  obtain ⟨v, own, made⟩ := shows.field f mem'
  obtain ⟨data, convert⟩ := is.convert_eq kind a
  rw [convert] at made
  rw [is.name_eq, is.flags_eq] at own
  exact ⟨v, own, fits_of_made made⟩

/-- Making a handle makes complete handles only. -/
theorem completes_make (each : ∀ p ∈ publicFields c, ∀ constant data,
      Completes (Convert.toScript (.value p.type) constant data)) (kind : HandleKind) (a : c.Instance) :
    Completes ((Layout.ofClass c).make kind a) := by
  intro excused s
  obtain ⟨-, o, shows, nativeType, -⟩ := make_shows (lawful_ofClass c) kind a s
  have blank : ((s.enlist (Layout.ofClass c).type).alloc (blank (Layout.ofClass c).type kind s)).2.objects.length =
      s.objects.length + 1 := by
    simp only [Store.alloc, enlist_objects, List.length_append, List.length_singleton]
  have others : ((Layout.ofClass c).make kind a s).2.CompleteFrom excused (s.objects.length + 1) := by
    rw [make_run]
    refine place_completes each kind a (Nat.lt_succ_self _) ?_
    rw [← blank]
    exact completeFrom_length excused _
  intro id p d from_n found type
  rcases Nat.eq_or_lt_of_le from_n with first | behind
  · -- the handle itself, which was made for the class and no other one
    obtain rfl : (⟨s.objects.length⟩ : ObjectId) = id := congrArg ObjectId.mk first
    obtain rfl := Option.some.inj (shows.object.symm.trans found)
    obtain ⟨⟩ := nativeType.symm.trans type
    exact (bears_of_shows shows).mono (fun _ _ _ fits => .inl fits)
  · exact others id p d behind found type

end Layout

/-- Instances of all classes come with complete handles only. -/
theorem completes_class (c : ClassName) (constant : Bool) (a : c.Instance) :
    Completes (Convert.toScript (.value (.object c)) constant a) := by
  have each : ∀ p ∈ publicFields c, ∀ constant data, Completes (Convert.toScript (.value p.type) constant data) := by
    intro p mem constant data
    have shallow := isShallow_type mem
    generalize p.type = τ at shallow data
    -- the classes of fields come before that of the handle, so the recursion ends
    cases τ with
    | object d => exact completes_class d constant data
    | list σ =>
      have flat : σ.isFlat = true := shallow
      rw [Convert.toScript_list]
      exact completes_list _ data (Convert.toScript_extends (.value σ) constant) (completes_flat flat constant)
    | _ => exact completes_flat rfl constant data
  rw [Convert.toScript_object]
  exact Layout.completes_make each _ a
termination_by c.depth
decreasing_by exact of_decide_eq_true shallow

/-- The handle of a cell is a complete handle. -/
theorem completes_share {c : ClassName} (cell : Cell c) : Completes (shareToScript cell) := by
  intro excused s
  cases content : s.content? cell with
  | none =>
    rw [shareToScript_none content]
    exact completeFrom_length excused s
  | some a =>
    have made := completes_class c false a excused s
    rw [Convert.toScript_object] at made
    rw [shareToScript_run cell content]
    unfold rememberCell
    split
    · exact (made.setPrototype _ _).attach _ _
    · exact made.attach _ _

/-- **Conversions make complete handles only.** -/
theorem completes_toScript (τ : NativeType) (constant : Bool) (data : τ.Data) :
    Completes (Convert.toScript τ constant data) := by
  cases τ with
  | shared c => exact completes_share data
  | value type =>
    induction type with
    | object c => exact completes_class c constant data
    | list σ ih =>
      rw [Convert.toScript_list]
      exact completes_list _ data (Convert.toScript_extends (.value σ) constant) ih
    | _ => exact completes_flat rfl constant data

/-! ## §3. Publishing. -/

section

variable {excused : Excuse} {n : Nat} {s : Store}

/-- A function was made for no class. -/
theorem completes_newFunction (name : String) (ref : FunctionRef) (length : Nat) :
    Completes (Engine.newFunction name ref length) := by
  intro excused s
  have fresh : (s.alloc (.ofKind (.function ref))).2.IsOpen ⟨s.objects.length⟩ :=
    ⟨_, Store.object?_alloc_self s _, rfl, rfl⟩
  have named := (completeFrom_alloc excused rfl s).define_open fresh "name" (.string name) .fixed
  exact named.define_open (fresh.define _ _ (by decide)) "length" (.count length) .fixed

namespace Store.CompleteFrom

/-- A function is no handle. -/
theorem newFunction (h : s.CompleteFrom excused n) (name : String) (ref : FunctionRef) (length : Nat) :
    (Engine.newFunction name ref length s).2.CompleteFrom excused n :=
  h.extend (newFunction_shows name ref length s).1 (completes_newFunction name ref length excused s)

/-- Publishing methods leaves handles complete. -/
theorem publishMethods (h : s.CompleteFrom excused n) {c : ClassName} (target : ObjectId)
    (keep : MethodSet c → Bool) :
    (((Interface.ofClass c).methods.filter keep).forM (publishMethod target) s).2.CompleteFrom excused n := by
  show (((Interface.ofClass c).methods.filter keep).forM
    (fun set => writeProperty target set.name .fixed (methodFunction set)) s).2.CompleteFrom excused n
  refine forM_writeProperty_induct ?_ ?_ h
  · exact fun set _ t complete => complete.newFunction set.name (.method c set.name) set.length
  · exact fun set mem t v complete => complete.define target v .fixed (.of_method (List.mem_filter.1 mem).1)

/-- Publishing static fields makes complete handles. -/
theorem publishFields (h : s.CompleteFrom excused n) (c : ClassName) (target : ObjectId) :
    ((Interface.ofClass c).staticFields.forM (publishField target) s).2.CompleteFrom excused n := by
  show ((Interface.ofClass c).staticFields.forM (fun f => writeProperty target f.name
    (if f.isConst then .fixed else .kept) (Convert.toScript (.value f.type) false f.value)) s).2.CompleteFrom excused n
  refine forM_writeProperty_induct ?_ ?_ h
  · exact fun f _ t complete => complete.extend (Convert.toScript_extends _ _ _ t) (completes_toScript _ _ _ excused t)
  · exact fun f mem t v complete => complete.define target v _ (.of_staticField mem)

/-- Adopting a prototype leaves handles complete. -/
theorem adopt (h : s.CompleteFrom excused n) (c : ClassName) (prototype : ObjectId) :
    (Script.adopt c prototype s).CompleteFrom excused n := by
  have numbered : (s.enlist (.value (.object c))).CompleteFrom excused n :=
    h.congr (Layout.enlist_objects s _)
  exact (numbered.define prototype _ .none (.of_published (by decide))).congr rfl

/-- Publishing a constructor leaves handles complete. -/
theorem publishConstructor (h : s.CompleteFrom excused n) (c : ClassName) (prototype : ObjectId) :
    (Script.publishConstructor c prototype s).2.CompleteFrom excused n := by
  have made := h.newFunction c.name (.constructor c) (Interface.ofClass c).constructorLength
  have apart : IsApart "prototype" := .of_check (by decide +kernel)
  have linked := made.define ⟨s.objects.length⟩ (.object prototype) .fixed apart
  exact (linked.publishMethods ⟨s.objects.length⟩ (·.isStatic)).publishFields c ⟨s.objects.length⟩

end Store.CompleteFrom

/-- **Publishing a class makes complete handles only.** -/
theorem completes_register (c : ClassName) : Completes (register c) := by
  intro excused s
  have prototype : (withPrototype c s).CompleteFrom excused s.objects.length :=
    (completeFrom_alloc excused rfl s).publishMethods ⟨s.objects.length⟩ (!·.isStatic)
  have constructor := (prototype.adopt c ⟨s.objects.length⟩).publishConstructor c ⟨s.objects.length⟩
  rw [register_run]
  exact constructor.define _ _ .fixed (.of_published (name_mem_publishedNames c))

/-- It does nothing to the handles and lists that are there. -/
theorem register_stays (c : ClassName) (s : Store) : s.Follows Object.Stays 0 (register c s).2 :=
  register_follows Object.Stays.refl Object.Stays.trans
    (fun o _ value flags published => o.stays_define value flags (.of_published published)) c s

/-! ## §4. Calls. -/

/-- A handle that an instance of another class was written onto still bears the fields of its own: fields of one name are
the same in both classes. -/
theorem Layout.Shows.bears_own {c d : ClassName} {kind : HandleKind} {a : d.Instance} {m : Nat} {t : Store}
    {id : ObjectId} {o next : Object} (shows : (Layout.ofClass d).Shows kind a m t id next)
    (others : ∀ name, name ∉ (Layout.ofClass d).fields.map (·.name) → next.property? name = o.property? name)
    (handle : o.kind = .handle kind) {holds : PublicField → Value → Prop} (old : o.Bears c holds) :
    next.Bears c (fun p v => t.Fits p.type v ∨ holds p v) := by
  obtain ⟨_, same, fields⟩ := old
  obtain ⟨⟩ := handle.symm.trans same
  obtain ⟨_, same, written⟩ := Layout.bears_of_shows shows
  obtain ⟨⟩ := shows.is_handle.symm.trans same
  refine ⟨kind, shows.is_handle, fun p mem => ?_⟩
  -- a field of that name in the other class is the same field, and was written anew
  by_cases both : p.name ∈ (Layout.ofClass d).fields.map (·.name)
  · obtain ⟨f, mem', named⟩ := List.mem_map.1 both
    obtain ⟨q, mem'', is⟩ := exists_right_of_mem (fields_are_public d) mem'
    obtain rfl := eq_of_name_eq mem mem'' (named.symm.trans is.name_eq)
    obtain ⟨v, stands, fits⟩ := written p mem''
    exact ⟨v, stands, .inl fits⟩
  · rw [others p.name both]
    obtain ⟨v, stands, fine⟩ := fields p mem
    exact ⟨v, stands, .inr fine⟩

/-- **Writing an instance back leaves handles complete**, whichever class it is of and whichever class the handle was
made for. -/
theorem Store.CompleteFrom.place (h : s.CompleteFrom excused 0) {d : ClassName} {id : ObjectId} {o : Object}
    (found : s.object? id = some o) (mutable : o.kind = .handle .mutable) (a : d.Instance) :
    ((Layout.ofClass d).place .mutable a id s).2.CompleteFrom excused 0 := by
  obtain ⟨altered, next, shows, others⟩ := Layout.place_shows (Layout.lawful_ofClass d) .mutable a found mutable
  have new := Layout.place_completes (fun p _ => completes_toScript (.value p.type)) .mutable a
    (index_lt_of_object? found) (completeFrom_length excused s)
  generalize ((Layout.ofClass d).place .mutable a id s).2 = t at altered shows new
  have firm : s.Follows Object.Firm 0 t := by
    apply altered.firm
    intro p found'
    obtain rfl := Option.some.inj (found.symm.trans found')
    rw [Object.handleKind?, mutable]
    exact Option.some_ne_none _
  have still : ∀ {id p v}, s.Fits p.type v ∨ excused id p v → t.Fits p.type v ∨ excused id p v :=
    fun fine => fine.imp_left (fun fits => fits.firm firm)
  intro other p c from_0 found' type
  rcases firm.origin from_0 found' with ⟨q, there, step⟩ | behind
  case inr => exact new other p c behind found' type
  -- an object of before was a handle of the same class
  have bore := h other q c from_0 there (step.nativeType.symm.trans type)
  by_cases same : other = id
  · subst same
    obtain rfl := Option.some.inj (found.symm.trans there)
    obtain rfl := Option.some.inj (shows.object.symm.trans found')
    exact (shows.bears_own others mutable bore).mono (fun _ _ _ fine => fine.elim .inl still)
  · obtain rfl := Option.some.inj ((altered.others other q same there).symm.trans found')
    exact bore.mono (fun _ _ _ => still)

/-- Writing back leaves handles complete, onto whatever the receiver is. -/
theorem Store.CompleteFrom.writeBack (h : s.CompleteFrom excused 0) {d : ClassName} (call : CallContext)
    (a : d.Instance) : (call.writeBack d a s).2.CompleteFrom excused 0 := by
  rcases call.writeBack_cases a s with ⟨id, o, -, found, mutable, written⟩ | unchanged
  · rw [written]
    exact h.place found (Object.isMutable_iff.1 mutable) a
  · rwa [unchanged]

/-- So does the effect of a method. -/
theorem Store.CompleteFrom.commit (h : s.CompleteFrom excused 0) {d : ClassName} {m : Method d} {call : CallContext}
    {effect : Method.Effect d} (evaluated : m.evaluate s call = .ok effect) :
    (effect.commit call s).2.CompleteFrom excused 0 := by
  rcases Method.effect_of_evaluate evaluated with ⟨τ, a, rfl⟩ | ⟨next, receiver, arguments, -, -, -, rfl⟩
  · rw [Method.Effect.commit_unchanged rfl]
    exact h.extend (Convert.toScript_extends (.value τ) false a s) (completes_toScript (.value τ) false a excused s)
  · rw [Method.Effect.commit_changed]
    exact h.writeBack call _

end

/-- The object that construction comes with is no handle. -/
theorem Request.prepare_complete (r : Request) {e : Engine} {excused : Excuse}
    (h : e.store.CompleteFrom excused 0) : (r.prepare e).store.CompleteFrom excused 0 := by
  have allocated := h.extend (Store.extends_alloc e.store (.ofKind .plain)) (completeFrom_alloc excused rfl e.store)
  cases r with
  | call function receiver arguments => exact h
  | invokeMethod receiver name arguments => exact h
  | construct constructor arguments =>
    unfold prepare
    simp only
    cases e.store.propertyOf constructor "prototype" with
    | object prototype => exact allocated.setPrototype _ _
    | _ => exact allocated

/-- **Calls leave handles complete**, whatever is called on whatever. -/
theorem Request.leaves_complete (r : Request) (depth : Nat) {e : Engine} {excused : Excuse}
    (h : e.store.CompleteFrom excused 0) : ∃ after result,
      Engine.run bindings (depth + 1) e r.body = some (after, result) ∧ after.store.CompleteFrom excused 0 := by
  have prepared := r.prepare_complete h
  exact r.run_leaves depth e prepared (fun _ _ evaluated => prepared.commit evaluated)

/-! ## §5. Assignments and deletions. -/

namespace Store.CompleteFrom

variable {excused excused' : Excuse} {s t : Store}

/-- A change of one object leaves handles complete if it leaves the fields on that object, and if the values of fields,
old and new, are excused where they have not the right type. -/
theorem tryUpdate (h : s.CompleteFrom excused 0) {id : ObjectId} {change : Object → Except PropertyError Object}
    (done : s.tryUpdate id change = .ok t) (ages : ∀ o next, change o = .ok next → o.Ages next)
    (before : ∀ other p v, excused other p v → excused' other p v)
    (kept : ∀ c, ∀ p ∈ publicFields c, ∀ other v, s.Fits p.type v → t.Fits p.type v ∨ excused' other p v)
    (fields : ∀ o next c kind, change o = .ok next → ∀ p ∈ publicFields c, ∀ v,
      o.property? p.name = some ⟨v, p.flags kind⟩ →
      ∃ w, next.property? p.name = some ⟨w, p.flags kind⟩ ∧ (w = v ∨ t.Fits p.type w ∨ excused' id p w)) :
    t.CompleteFrom excused' 0 := by
  -- what was fine stays so, or is excused from now on
  have still : ∀ c, ∀ p ∈ publicFields c, ∀ other v, s.Fits p.type v ∨ excused other p v →
      t.Fits p.type v ∨ excused' other p v := by
    rintro c p mem other v (fits | excuse)
    · exact kept c p mem other v fits
    · exact .inr (before other p v excuse)
  rcases tryUpdate_eq_ok done with rfl | ⟨o, next, here, changed, rfl⟩
  · intro other o c from_0 found type
    exact (h other o c from_0 found type).mono (fun p mem v => still c p mem other v)
  intro other p c from_0 found type
  rcases of_object?_update found with ⟨rfl, -, -, rfl⟩ | ⟨-, found⟩
  · have aged := ages o p changed
    obtain ⟨kind, handle, bears⟩ := h other o c from_0 here (aged.nativeType.symm.trans type)
    refine ⟨kind, aged.kind.trans handle, fun q mem => ?_⟩
    obtain ⟨v, own, fine⟩ := bears q mem
    obtain ⟨w, stands, rfl | new⟩ := fields o p c kind changed q mem v own
    · exact ⟨w, stands, still c q mem other w fine⟩
    · exact ⟨w, stands, new⟩
  · exact (h other p c from_0 found type).mono (fun q mem v => still c q mem other v)

/-- **What has to be excused after an assignment**: a value of another type in the field that was assigned to, and lists
onto which a length or an element of another type was put. -/
theorem put (h : s.CompleteFrom excused 0) {id : ObjectId} {name : String} {value : Value}
    (done : s.put id name value = .ok t) (before : ∀ other p v, excused other p v → excused' other p v)
    (stored : ∀ p, p.name = name → ¬s.Fits p.type value → excused' id p value)
    (spoiled : ∀ other p σ, p.type = .list σ → (name = lengthName ∨ ∃ i, name = indexName i ∧ ¬s.Fits σ value) →
      excused' other p (.object id)) : t.CompleteFrom excused' 0 := by
  have kept : ∀ c, ∀ p ∈ publicFields c, ∀ other v, s.Fits p.type v → t.Fits p.type v ∨ excused' other p v := by
    intro c p mem other v fits
    rcases fits.put done (isShallow_type mem) with kept | ⟨σ, list, rfl, part⟩
    · exact .inl kept
    · exact .inr (spoiled other p σ list part)
  refine h.tryUpdate done (fun _ _ => Object.ages_put) before kept ?_
  intro o next c kind changed p mem v own
  by_cases same : p.name = name
  · -- the field that is assigned to keeps its flags
    obtain ⟨flags, assigned, left⟩ := Object.property?_put_self changed
    obtain rfl := left _ (same ▸ own)
    refine ⟨value, same ▸ assigned, .inr ?_⟩
    by_cases fits : s.Fits p.type value
    · exact kept c p mem id value fits
    · exact .inr (stored p same fits)
  · exact ⟨v, (Object.property?_put changed same).trans own, .inl rfl⟩

/-- **What has to be excused after a deletion**: lists whose length or an element of which was deleted.  A field cannot
be deleted. -/
theorem delete (h : s.CompleteFrom excused 0) {id : ObjectId} {name : String} (done : s.delete id name = .ok t)
    (before : ∀ other p v, excused other p v → excused' other p v)
    (spoiled : ∀ other p σ, p.type = .list σ → IsListName name → excused' other p (.object id)) :
    t.CompleteFrom excused' 0 := by
  refine h.tryUpdate done (fun _ _ => Object.ages_delete) before ?_ ?_
  · intro c p mem other v fits
    rcases fits.delete done (isShallow_type mem) with kept | ⟨σ, list, rfl, part⟩
    · exact .inl kept
    · exact .inr (spoiled other p σ list part)
  · intro o next c kind changed p mem v own
    exact ⟨v, Object.undeletable_of_delete changed own (p.undeletable_flags kind), .inl rfl⟩

end Store.CompleteFrom

end ScriptBridge.Script
