import ScriptBridge.Proofs.Script.ListObject

/-!
# ScriptBridge.Proofs.Script.Handle

Handles: what writing an instance makes, and what reading makes of it.

A mutable handle and a snapshot differ only in how their fields stand on them: `Field.convert` and `Field.flags` say
which form a field has on a handle of either kind, and one account of writing then covers both.

Main results:
  * `Layout.place_shows` - what stands on an object onto which an instance was written;
  * `Layout.make_shows` - what a new handle looks like;
  * `Layout.read_of_shows` - an instance is read back;
  * `Layout.read_of_ages` - what is read from a snapshot is read from it whatever scripts do;
  * `Layout.lawful_marshal`, `Layout.restores_marshal` - the laws.
-/

namespace ScriptBridge.Script

open ScriptBridge.Native ScriptBridge.Numeric

/-! ## §1. Fields. -/

namespace Field

variable {α : Type}

/-- Whether a field cannot be changed on a handle of a kind. -/
def isFixed (f : Field α) (kind : HandleKind) : Bool :=
  f.isConst || kind == .snapshot

/-- The flags of the property for a field. -/
def flags (f : Field α) (kind : HandleKind) : Flags :=
  if f.isFixed kind then .fixed else .kept

/-- The value of the property for a field. -/
def convert (f : Field α) (kind : HandleKind) (a : α) : StoreM Value :=
  if f.isFixed kind then f.marshal.toConst (f.get a) else f.marshal.toScript (f.get a)

/-- On a constant handle every field is fixed. -/
theorem isFixed_snapshot (f : Field α) : f.isFixed .snapshot = true := by
  unfold isFixed
  rw [show (HandleKind.snapshot == HandleKind.snapshot) = true from rfl, Bool.or_true]

/-- On a mutable handle the constant fields are fixed. -/
theorem isFixed_mutable (f : Field α) : f.isFixed .mutable = f.isConst := by
  unfold isFixed
  rw [show (HandleKind.mutable == HandleKind.snapshot) = false from rfl, Bool.or_false]

/-- On a constant handle every property has the flags of a fixed one. -/
theorem flags_snapshot (f : Field α) : f.flags .snapshot = .fixed := by
  rw [flags, if_pos f.isFixed_snapshot]

/-- On a constant handle every field is converted to a constant. -/
theorem convert_snapshot (f : Field α) (a : α) : f.convert .snapshot a = f.marshal.toConst (f.get a) := by
  rw [convert, if_pos f.isFixed_snapshot]

/-- Writing a constant field is writing its property in the form for constant handles. -/
theorem writeConst_eq (f : Field α) (a : α) (handle : ObjectId) :
    f.writeConst a handle = writeProperty handle f.name (f.flags .snapshot) (f.convert .snapshot a) := by
  rw [flags_snapshot, convert_snapshot]
  rfl

/-- Writing a field is writing its property in the form for mutable handles. -/
theorem write_eq (f : Field α) (a : α) (handle : ObjectId) :
    f.write a handle = writeProperty handle f.name (f.flags .mutable) (f.convert .mutable a) := by
  unfold write flags convert
  rw [isFixed_mutable]
  by_cases const : f.isConst = true
  · rw [if_pos const, if_pos const, if_pos const]
    rfl
  · rw [if_neg const, if_neg const, if_neg const]
    rfl

/-- The conversion of a field makes objects at most, in both forms. -/
theorem convert_extends {f : Field α} (lawful : f.marshal.Lawful) (kind : HandleKind) (a : α) (s : Store) :
    s.Extends (f.convert kind a s).2 := by
  unfold convert
  split
  · exact lawful.toConst_extends _ s
  · exact lawful.toScript_extends _ s

/-- A field that is restored can be read from its property. -/
theorem ofScript_of_made {f : Field α} {kind : HandleKind} {a : α} {d : f.Data} {n : Nat} {s : Store} {v : Value}
    (restores : f.marshal.Restores (f.get a) d) (made : Made (f.convert kind a) n s v) :
    f.marshal.ofScript s v = .ok d := by
  unfold convert at made
  split at made
  · exact restores.toConst n s v made
  · exact restores.toScript n s v made

/-- A field is read if its property is converted; the instance then has the value. -/
theorem read_eq_ok_iff {f : Field α} {s : Store} {handle : ObjectId} {a b : α} :
    f.read s handle a = .ok b ↔ ∃ d, f.marshal.ofScript s (s.property handle f.name) = .ok d ∧ f.set a d = b := by
  unfold read Store.propertyAs
  cases f.marshal.ofScript s (s.property handle f.name) with
  | error e =>
    constructor
    · intro h
      exact nomatch h
    · rintro ⟨d, h, -⟩
      exact nomatch h
  | ok d =>
    constructor
    · intro h
      exact ⟨d, rfl, Except.ok.inj h⟩
    · rintro ⟨d', h, rfl⟩
      obtain rfl := Except.ok.inj h
      rfl

/-- All fields are read if the first is, and then the others. -/
theorem readAll_cons_eq_ok {s : Store} {handle : ObjectId} {a b : α} {f : Field α} {rest : List (Field α)}
    (h : readAll s handle a (f :: rest) = (b, none)) :
    ∃ d, f.marshal.ofScript s (s.property handle f.name) = .ok d ∧ readAll s handle (f.set a d) rest = (b, none) := by
  rw [readAll] at h
  cases here : f.read s handle a with
  | error e =>
    rw [here] at h
    exact nomatch h
  | ok next =>
    rw [here] at h
    obtain ⟨d, read, rfl⟩ := read_eq_ok_iff.1 here
    exact ⟨d, read, h⟩

/-- Reading a series of fields gives the same in another store if reading every single one does. -/
theorem readAll_congr {s t : Store} {handle : ObjectId} {fields : List (Field α)}
    (each : ∀ f ∈ fields, ∀ d, f.marshal.ofScript s (s.property handle f.name) = .ok d →
      f.marshal.ofScript t (t.property handle f.name) = .ok d) :
    ∀ a b, readAll s handle a fields = (b, none) → readAll t handle a fields = (b, none) := by
  induction fields with
  | nil => intro a b h; exact h
  | cons f rest ih =>
    intro a b h
    obtain ⟨d, read, h⟩ := readAll_cons_eq_ok h
    rw [readAll, read_eq_ok_iff.2 ⟨d, each f List.mem_cons_self d read, rfl⟩]
    exact ih (fun g mem => each g (List.mem_cons_of_mem _ mem)) _ b h

end Field

/-! ## §2. What writing makes. -/

namespace Layout

variable {c : ClassName}

/-- The fields have different names, and their conversions are lawful. -/
structure Lawful (l : Layout c) : Prop where
  distinct : (l.fields.map (·.name)).Nodup
  fields : ∀ f ∈ l.fields, f.marshal.Lawful

/-- Puts an instance onto an object in the form for a kind of handle. -/
def place (l : Layout c) (kind : HandleKind) (a : c.Instance) (handle : ObjectId) : StoreM Unit := do
  l.fields.forM (fun f => writeProperty handle f.name (f.flags kind) (f.convert kind a))
  l.carry a handle

/-- Makes a handle of a kind for an instance. -/
def make (l : Layout c) (kind : HandleKind) (a : c.Instance) : StoreM Value := do
  let handle ← newHandle l.type kind
  l.place kind a handle
  return .object handle

/-- Writing an instance puts it onto the object in the form for mutable handles. -/
theorem write_eq_place (l : Layout c) (a : c.Instance) (handle : ObjectId) :
    l.write a handle = l.place .mutable a handle := by
  unfold write place
  simp only [Field.write_eq]

/-- A conversion to a script makes a mutable handle. -/
theorem toScript_eq_make (l : Layout c) (a : c.Instance) : l.toScript a = l.make .mutable a := by
  unfold toScript make
  simp only [write_eq_place]

/-- A conversion to a constant makes a constant handle. -/
theorem toConst_eq_make (l : Layout c) (a : c.Instance) : l.toConst a = l.make .snapshot a := by
  unfold toConst make place
  simp only [Field.writeConst_eq]
  rfl

/-- The handle shows the instance: every field stands on it in the form for its kind, and the whole instance is
attached if the class asks for it. -/
structure Shows (l : Layout c) (kind : HandleKind) (a : c.Instance) (n : Nat) (s : Store) (handle : ObjectId)
    (o : Object) : Prop where
  object : s.object? handle = some o
  is_handle : o.kind = .handle kind
  field : ∀ f ∈ l.fields, ∃ v, o.property? f.name = some ⟨v, f.flags kind⟩ ∧ Made (f.convert kind a) n s v
  whole : l.whole = true → o.data? l.type = some a

/-- **A handle goes on showing its instance** while the objects that it consists of stay as they are. -/
theorem Shows.follows {l : Layout c} {kind : HandleKind} {a : c.Instance} {m n : Nat} {s t : Store}
    {handle : ObjectId} {o : Object} (h : l.Shows kind a n s handle o) (kept : s.Follows Eq m t)
    (from_m : m ≤ handle.index) (le : m ≤ n) : l.Shows kind a n t handle o where
  object := kept.object? from_m h.object
  is_handle := h.is_handle
  field := by
    intro f mem
    obtain ⟨v, own, made⟩ := h.field f mem
    exact ⟨v, own, made.follows (kept.from_le le)⟩
  whole := h.whole

/-- New objects do not change what a handle shows. -/
theorem Shows.extends {l : Layout c} {kind : HandleKind} {a : c.Instance} {n : Nat} {s t : Store}
    {handle : ObjectId} {o : Object} (h : l.Shows kind a n s handle o) (extended : s.Extends t) :
    l.Shows kind a n t handle o :=
  h.follows extended.objects (Nat.zero_le _) (Nat.zero_le _)

/-- What is attached to a handle: the whole instance, if the class asks for it. -/
theorem carry_run (l : Layout c) (a : c.Instance) (handle : ObjectId) (s : Store) :
    (l.carry a handle s).2 = if l.whole then s.attach handle ⟨l.type, a⟩ else s := by
  unfold carry
  split <;> rfl

/-- An instance is put onto an object field by field, and then as a whole. -/
theorem place_run (l : Layout c) (kind : HandleKind) (a : c.Instance) (handle : ObjectId) (s : Store) :
    (l.place kind a handle s).2 = (l.carry a handle
      (l.fields.forM (fun f => writeProperty handle f.name (f.flags kind) (f.convert kind a)) s).2).2 := rfl

/-- Writing an instance alters the object alone, which then shows it; properties of other names stay. -/
theorem place_shows {l : Layout c} (lawful : l.Lawful) (kind : HandleKind) (a : c.Instance) {handle : ObjectId}
    {s : Store} {o : Object} (found : s.object? handle = some o) (is_handle : o.kind = .handle kind) :
    s.Alters handle (l.place kind a handle s).2 ∧
      ∃ next, l.Shows kind a s.objects.length (l.place kind a handle s).2 handle next ∧
        ∀ other, other ∉ l.fields.map (·.name) → next.property? other = o.property? other := by
  obtain ⟨altered, next, found_next, written⟩ :=
    forM_writeProperty Field.name (Field.flags · kind)
      (fun f mem => Field.convert_extends (lawful.fields f mem) kind a) lawful.distinct found
  obtain ⟨same, same_found, same_kind, -⟩ := altered.own o found
  obtain rfl := Option.some.inj (found_next.symm.trans same_found)
  rw [place_run, carry_run]
  by_cases whole : l.whole = true
  · rw [if_pos whole]
    -- attaching the instance changes neither properties nor other objects
    have attached := Store.alters_attach (l.fields.forM (fun f => writeProperty handle f.name (f.flags kind)
      (f.convert kind a)) s).2 handle ⟨l.type, a⟩
    refine ⟨altered.trans attached, next.attach ⟨l.type, a⟩, ?_, written.others⟩
    exact {
      object := Store.object?_attach_self _ found_next
      is_handle := same_kind.trans is_handle
      field := by
        intro f mem
        obtain ⟨v, own, made⟩ := written.written f mem
        exact ⟨v, own, made.follows (attached.follows (Store.index_lt_of_object? found))⟩
      whole := fun _ => Object.data?_attach_self next ⟨l.type, a⟩ }
  · rw [if_neg whole]
    refine ⟨altered, next, ?_, written.others⟩
    exact {
      object := found_next
      is_handle := same_kind.trans is_handle
      field := written.written
      whole := fun h => absurd h whole }

theorem enlist_objects (s : Store) (type : NativeType) : (s.enlist type).objects = s.objects := by
  unfold Store.enlist
  split <;> rfl

theorem enlist_prototypes (s : Store) (type : NativeType) : (s.enlist type).prototypes = s.prototypes := by
  unfold Store.enlist
  split <;> rfl

/-- The object of a new handle, before anything is written onto it. -/
def blank (type : NativeType) (kind : HandleKind) (s : Store) : Object :=
  { Object.ofKind (.handle kind) with nativeType := some type, prototype := s.defaultPrototype? type }

/-- A new handle is a blank object at the next number. -/
theorem newHandle_run (type : NativeType) (kind : HandleKind) (s : Store) :
    newHandle type kind s = (⟨s.objects.length⟩, ((s.enlist type).alloc (blank type kind s)).2) := by
  have object : blank type kind (s.enlist type) = blank type kind s := by
    unfold blank Store.defaultPrototype?
    rw [enlist_prototypes]
  rw [← object, ← enlist_objects s type]
  rfl

/-- To make a handle is to put the instance onto a blank one. -/
theorem make_run (l : Layout c) (kind : HandleKind) (a : c.Instance) (s : Store) :
    l.make kind a s = (.object ⟨s.objects.length⟩,
      (l.place kind a ⟨s.objects.length⟩ ((s.enlist l.type).alloc (blank l.type kind s)).2).2) := by
  show (Value.object (newHandle l.type kind s).1,
    (l.place kind a (newHandle l.type kind s).1 (newHandle l.type kind s).2).2) = _
  rw [newHandle_run]

/-- The blank handle is found at its number. -/
theorem object?_blank (type : NativeType) (kind : HandleKind) (s : Store) :
    ((s.enlist type).alloc (blank type kind s)).2.object? ⟨s.objects.length⟩ = some (blank type kind s) := by
  rw [← enlist_objects s type]
  exact Store.object?_alloc_self _ _

/-- A blank handle leaves the objects as they are. -/
theorem extends_blank (type : NativeType) (kind : HandleKind) (s : Store) :
    s.Extends ((s.enlist type).alloc (blank type kind s)).2 :=
  (Store.extends_enlist s type).trans (Store.extends_alloc _ _)

/-- Making a handle only adds objects; the first of them is the handle, which shows the instance. -/
theorem make_shows {l : Layout c} (lawful : l.Lawful) (kind : HandleKind) (a : c.Instance) (s : Store) :
    s.Extends (l.make kind a s).2 ∧
      ∃ o, l.Shows kind a (s.objects.length + 1) (l.make kind a s).2 ⟨s.objects.length⟩ o ∧
        o.nativeType = some l.type ∧ o.prototype = s.defaultPrototype? l.type ∧
        ∀ other, other ∉ l.fields.map (·.name) → o.property? other = none := by
  have found := object?_blank l.type kind s
  obtain ⟨altered, o, shows, others⟩ := place_shows lawful kind a found rfl
  obtain ⟨own, own_found, -, nativeType, prototype⟩ := altered.own _ found
  obtain rfl := Option.some.inj (shows.object.symm.trans own_found)
  -- what the fields are converted to comes behind the handle
  have length : ((s.enlist l.type).alloc (blank l.type kind s)).2.objects.length = s.objects.length + 1 := by
    simp only [Store.alloc, enlist_objects, List.length_append, List.length_singleton]
  rw [length] at shows
  rw [make_run]
  refine ⟨altered.extends (extends_blank l.type kind s) (Store.object?_fresh s), o, shows, nativeType, prototype, ?_⟩
  intro other absent
  rw [others other absent]
  rfl

/-- A mutable handle has the next number. -/
theorem toScript_run (l : Layout c) (a : c.Instance) (s : Store) :
    l.toScript a s = (.object ⟨s.objects.length⟩, (l.make .mutable a s).2) := by
  rw [toScript_eq_make, make_run]

/-- What a handle looks like, as long as nothing happens to it. -/
theorem shows_of_made {l : Layout c} (lawful : l.Lawful) {kind : HandleKind} {a : c.Instance} {n : Nat} {s : Store}
    {v : Value} (made : Made (l.make kind a) n s v) :
    ∃ handle o, v = .object handle ∧ n ≤ handle.index ∧ l.Shows kind a (handle.index + 1) s handle o := by
  obtain ⟨origin, le, value, kept⟩ := made
  obtain ⟨-, o, shows, -⟩ := make_shows lawful kind a origin
  rw [make_run] at value
  exact ⟨⟨origin.objects.length⟩, o, value.symm, le, shows.follows kept (Nat.le_refl _) (Nat.le_succ _)⟩

/-- A snapshot is sealed, with everything in it. -/
theorem make_sealed {l : Layout c} (lawful : l.Lawful) (a : c.Instance) (s : Store) :
    (l.make .snapshot a s).2.SealedFrom s.objects.length := by
  have fresh : ((s.enlist l.type).alloc (blank l.type .snapshot s)).2.SealedFrom s.objects.length := by
    rw [← enlist_objects s l.type]
    exact Store.sealedFrom_alloc rfl (fun _ => rfl)
  -- all properties of a snapshot are fixed, and all their values constant
  rw [make_run]
  generalize ((s.enlist l.type).alloc (blank l.type .snapshot s)).2 = t at fresh
  have written : (l.fields.forM (fun f => writeProperty ⟨s.objects.length⟩ f.name .fixed
      (f.marshal.toConst (f.get a))) t).2.SealedFrom s.objects.length :=
    forM_writeProperty_sealed (fun f mem => (lawful.fields f mem).toConst_extends _)
      (fun f mem => (lawful.fields f mem).toConst_sealed _) fresh
  rw [place_run, carry_run]
  simp only [Field.convert_snapshot, Field.flags_snapshot]
  split
  · exact written.attach _ _
  · exact written

/-! ## §3. What reading makes of it. -/

/-- An instance that is read off a handle is made of its fields. -/
theorem readAll_of_read {l : Layout c} {s : Store} {handle : ObjectId} {base b : c.Instance}
    (h : l.read s (.object handle) base = .ok b) :
    Field.readAll s handle (l.start s handle base) l.fields = (b, none) := by
  unfold read readInto at h
  simp only at h
  cases here : Field.readAll s handle (l.start s handle base) l.fields with
  | mk got ended =>
    rw [here] at h
    cases ended with
    | some e => exact nomatch h
    | none =>
      obtain rfl := Except.ok.inj h
      rfl

/-- An instance is read off a handle if all its fields are. -/
theorem read_of_readAll {l : Layout c} {s : Store} {handle : ObjectId} {base b : c.Instance}
    (h : Field.readAll s handle (l.start s handle base) l.fields = (b, none)) :
    l.read s (.object handle) base = .ok b := by
  unfold read readInto
  simp only
  rw [h]

/-- An instance with the fields of another one. -/
def withFields (l : Layout c) (a base : c.Instance) : c.Instance :=
  l.fields.foldl (fun b f => f.set b (f.get a)) base

/-- What is read back of an instance by a reader that starts from `base`. -/
def regained (l : Layout c) (a base : c.Instance) : c.Instance :=
  l.withFields a (if l.whole then a else base)

/-- If every field can be read, so can all of them. -/
theorem readAll_eq {s : Store} {handle : ObjectId} {a : c.Instance} {fields : List (Field c.Instance)}
    (each : ∀ f ∈ fields, f.marshal.ofScript s (s.property handle f.name) = .ok (f.get a)) :
    ∀ base, Field.readAll s handle base fields = (fields.foldl (fun b f => f.set b (f.get a)) base, none) := by
  induction fields with
  | nil => intro base; rfl
  | cons f rest ih =>
    intro base
    rw [Field.readAll, Field.read_eq_ok_iff.2 ⟨f.get a, each f List.mem_cons_self, rfl⟩]
    exact ih (fun g mem => each g (List.mem_cons_of_mem _ mem)) _

/-- Of a class that attaches its instances, reading starts from what is attached. -/
theorem start_of_whole {l : Layout c} (whole : l.whole = true) (s : Store) (handle : ObjectId) (base : c.Instance) :
    l.start s handle base = (s.data? handle l.type).getD base :=
  if_pos whole

/-- Reading starts from the instance itself if the class attaches it. -/
theorem start_of_shows {l : Layout c} {kind : HandleKind} {a : c.Instance} {n : Nat} {s : Store} {handle : ObjectId}
    {o : Object} (shows : l.Shows kind a n s handle o) (base : c.Instance) :
    l.start s handle base = if l.whole then a else base := by
  by_cases whole : l.whole = true
  · rw [start_of_whole whole, if_pos whole, Store.data?, shows.object, Option.bind_some, shows.whole whole]
    rfl
  · rw [if_neg whole]
    exact if_neg whole

/-- **An instance is read back from a handle that shows it**, if its fields are. -/
theorem read_of_shows {l : Layout c} {kind : HandleKind} {a : c.Instance} {n : Nat} {s : Store} {handle : ObjectId}
    {o : Object} (shows : l.Shows kind a n s handle o)
    (restores : ∀ f ∈ l.fields, f.marshal.Restores (f.get a) (f.get a)) (base : c.Instance) :
    l.read s (.object handle) base = .ok (l.regained a base) := by
  have each : ∀ f ∈ l.fields, f.marshal.ofScript s (s.property handle f.name) = .ok (f.get a) := by
    intro f mem
    obtain ⟨v, own, made⟩ := shows.field f mem
    rw [Store.property_own shows.object own]
    exact Field.ofScript_of_made (restores f mem) made
  apply read_of_readAll
  rw [start_of_shows shows, readAll_eq each]
  rfl

/-- **What is read from a snapshot is read from it whatever scripts do.** -/
theorem read_of_ages {l : Layout c} (lawful : l.Lawful) {a : c.Instance} {n : Nat} {s t : Store} {handle : ObjectId}
    {o : Object} (shows : l.Shows .snapshot a n s handle o) (ages : s.Follows Object.Ages handle.index t)
    (behind : handle.index ≤ n) {base b : c.Instance} (read : l.read s (.object handle) base = .ok b) :
    l.read t (.object handle) base = .ok b := by
  obtain ⟨next, found, step⟩ := ages handle o (Nat.le_refl _) shows.object
  have still : o.isMutable = false := by
    apply Object.isMutable_eq_false
    rw [shows.is_handle]
    decide
  -- every field of a snapshot is fixed, and its value is constant in turn
  have each : ∀ f ∈ l.fields, ∀ d, f.marshal.ofScript s (s.property handle f.name) = .ok d →
      f.marshal.ofScript t (t.property handle f.name) = .ok d := by
    intro f mem d here
    obtain ⟨v, own, made⟩ := shows.field f mem
    rw [Field.convert_snapshot] at made
    rw [Store.property_own shows.object own] at here
    rw [Store.property_own found (step.fixed still _ _ own f.flags_snapshot)]
    exact (lawful.fields f mem).steady _ n s t v d made (ages.from_le behind) here
  -- and so is what is attached to it
  have started : l.start t handle base = l.start s handle base := by
    unfold start Store.data?
    rw [found, shows.object, Option.bind_some, Option.bind_some, Object.data?, Object.data?, step.payloads still]
  have all := readAll_of_read read
  apply read_of_readAll
  rw [started]
  exact Field.readAll_congr each _ _ all

/-! ## §4. The laws. -/

/-- **The conversions of a class are lawful** if those of its fields are. -/
theorem lawful_marshal {l : Layout c} (lawful : l.Lawful) : l.marshal.Lawful where
  toScript_extends := by
    intro a s
    show s.Extends (l.toScript a s).2
    rw [toScript_eq_make]
    exact (make_shows lawful .mutable a s).1
  toConst_extends := by
    intro a s
    show s.Extends (l.toConst a s).2
    rw [toConst_eq_make]
    exact (make_shows lawful .snapshot a s).1
  toConst_sealed := by
    intro a s
    show (l.toConst a s).2.SealedFrom _
    rw [toConst_eq_make]
    exact make_sealed lawful a s
  undefined := fun _ _ h => nomatch h
  steady := by
    intro a n s t v b made ages read
    have made' : Made (l.make .snapshot a) n s v := toConst_eq_make l a ▸ made
    obtain ⟨handle, o, rfl, le, shows⟩ := shows_of_made lawful made'
    exact read_of_ages lawful shows (ages.from_le le) (Nat.le_succ _) read

/-- **A class comes back** if all its fields do. -/
theorem restores_marshal {l : Layout c} (lawful : l.Lawful) {a : c.Instance}
    (restores : ∀ f ∈ l.fields, f.marshal.Restores (f.get a) (f.get a)) :
    l.marshal.Restores a (l.regained a l.fresh) where
  toScript := by
    intro n s v made
    have made' : Made (l.make .mutable a) n s v := toScript_eq_make l a ▸ made
    obtain ⟨handle, o, rfl, -, shows⟩ := shows_of_made lawful made'
    exact read_of_shows shows restores l.fresh
  toConst := by
    intro n s v made
    have made' : Made (l.make .snapshot a) n s v := toConst_eq_make l a ▸ made
    obtain ⟨handle, o, rfl, -, shows⟩ := shows_of_made lawful made'
    exact read_of_shows shows restores l.fresh

end Layout

end ScriptBridge.Script
