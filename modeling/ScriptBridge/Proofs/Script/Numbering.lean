import ScriptBridge.Proofs.FirstOccurrence
import ScriptBridge.Proofs.Script.FixedBinding
import ScriptBridge.Proofs.Script.Reachability

/-!
# ScriptBridge.Proofs.Script.Numbering

The numbers of native types.

A type gets its number when it is first used: when its number is asked for, when a handle is made for it, or when it is
published.  Handles are made by conversions and by calls as well, one for every instance that is converted, so their
types are used in the order in which the handles appear (`Store.handleTypes`).  Every operation uses a list of types in
this sense (`Store.Uses`), and a whole run of an engine uses the lists of its operations, one after the other
(`Engine.Course`).  Numbers are given in the order of first use, starting from `Store.firstNumber`, and stay.

Main results:
  * `Store.askTable_numbers` - a number is computed from how many there are, and kept in a table;
  * `publicationInvariant_counts` - conversions number the types of the handles that they make, in order;
  * `Store.Uses.numbered`, `Engine.Course.numbered` - what one operation and what a whole run does to numbers;
  * `Engine.Reachable.course` - every engine that a host can get to has a course;
  * `Engine.Reachable.numbering` - on all of these, numbers are given without gaps, to one type each, and for good.
-/

namespace ScriptBridge.Script

open ScriptBridge.Native

/-! ## §1. Numbers and handles. -/

namespace Store

variable {s t : Store} {type : NativeType} {uses : List NativeType} {n : Nat}

/-- A type that has a number keeps it. -/
theorem typeNumber_of_mem (mem : type ∈ s.numbered) :
    s.typeNumber type = (firstNumber + s.numbered.idxOf type, s) := by
  have same : s.enlist type = s := by simp [enlist, mem]
  simp only [typeNumber, same]

/-- A new type gets the next number. -/
theorem typeNumber_of_not_mem (new : type ∉ s.numbered) :
    s.typeNumber type = (firstNumber + s.numbered.length, { s with numbered := s.numbered ++ [type] }) := by
  have next : s.enlist type = { s with numbered := s.numbered ++ [type] } := by simp [enlist, new]
  simp [typeNumber, next, List.idxOf_append, new]

/-- The types that have a number, with their numbers. -/
def numbers (s : Store) : List (NativeType × Nat) :=
  s.numbered.zipIdx firstNumber

/-- The number of a type in a table.  The size of the table tells the next number, which a type without one gets. -/
def askTable (table : List (NativeType × Nat)) (type : NativeType) : Nat × List (NativeType × Nat) :=
  let next := firstNumber + table.length
  match table.lookup type with
  | some number => (number, table)
  | none => (next, table ++ [(type, next)])

/-- In a table of places, each element is found at its first one. -/
theorem lookup_zipIdx (known : List NativeType) (first : Nat) (type : NativeType) :
    (known.zipIdx first).lookup type = if type ∈ known then some (first + known.idxOf type) else none := by
  induction known generalizing first with
  | nil => rfl
  | cons other known ih =>
    rw [List.zipIdx_cons, List.lookup_cons, ih]
    by_cases same : type = other
    · simp [same]
    · have place : (other :: known).idxOf type = known.idxOf type + 1 := List.idxOf_cons_ne known (Ne.symm same)
      simp [beq_false_of_ne same, same, place, Nat.add_assoc, Nat.add_comm 1]

/-- **A number is computed from how many there are.** -/
theorem askTable_numbers (s : Store) (type : NativeType) :
    askTable s.numbers type = ((s.typeNumber type).1, (s.typeNumber type).2.numbers) := by
  unfold askTable
  by_cases known : type ∈ s.numbered
  · rw [typeNumber_of_mem known]
    simp only [numbers, lookup_zipIdx, if_pos known]
  · rw [typeNumber_of_not_mem known]
    simp only [numbers, lookup_zipIdx, if_neg known, List.length_zipIdx, List.zipIdx_append, List.zipIdx_singleton]

/-- Asking once more gives the same number. -/
theorem typeNumber_twice (s : Store) (type : NativeType) :
    (s.typeNumber type).2.typeNumber type = s.typeNumber type := by
  have listed : type ∈ (s.enlist type).numbered := by
    unfold enlist
    split
    next known => exact List.contains_iff_mem.1 known
    next => exact List.mem_append_right _ (List.mem_singleton_self type)
  exact typeNumber_of_mem listed

/-- One more use. -/
theorem numbered_enlist (h : s.numbered = uses.eraseDups) : (s.enlist type).numbered = (uses ++ [type]).eraseDups := by
  unfold enlist
  by_cases mem : type ∈ uses
  · rw [if_pos (by simp [h, mem]), eraseDups_concat_of_mem mem, h]
  · rw [if_neg (by simp [h, mem]), eraseDups_concat_of_not_mem mem, h]

/-- The types of the handles that stand from the place `n` on, in order. -/
def handleTypes (s : Store) (n : Nat) : List NativeType :=
  (s.objects.drop n).filterMap (·.nativeType)

/-- There are no handles behind the last object. -/
theorem handleTypes_end (s : Store) : s.handleTypes s.objects.length = [] := by
  rw [handleTypes, List.drop_length]
  rfl

/-- A new object adds its type, if it has one. -/
theorem handleTypes_alloc (o : Object) (since : n ≤ s.objects.length) :
    (s.alloc o).2.handleTypes n = s.handleTypes n ++ o.nativeType.toList := by
  show ((s.objects ++ [o]).drop n).filterMap _ = _
  rw [List.drop_append_of_le_length since, List.filterMap_append]
  cases type : o.nativeType with
  | none => simp [handleTypes, type]
  | some type' => simp [handleTypes, type]

/-- Only the types of the objects matter. -/
theorem handleTypes_congr (same : t.objects.map (·.nativeType) = s.objects.map (·.nativeType)) :
    t.handleTypes n = s.handleTypes n := by
  have types : ∀ u : Store, u.handleTypes n = ((u.objects.map (·.nativeType)).drop n).filterMap id := by
    intro u
    rw [handleTypes, ← List.map_drop, List.filterMap_map]
    rfl
  rw [types, types, same]

/-- A change that keeps the type of an object changes nothing here. -/
theorem handleTypes_update {id : ObjectId} {change : Object → Object}
    (same : ∀ o, (change o).nativeType = o.nativeType) : (s.update id change).handleTypes n = s.handleTypes n := by
  refine handleTypes_congr (List.ext_getElem? fun i => ?_)
  show ((s.objects.modify id.index change).map _)[i]? = _
  rw [List.getElem?_map, List.getElem?_map, List.getElem?_modify]
  cases s.objects[i]? with
  | none => rfl
  | some o =>
    by_cases here : id.index = i
    · simp [here, same]
    · simp [here]

/-- The numbers are those of the types `uses` and of the handles that stand from the place `n` on. -/
structure Counts (n : Nat) (uses : List NativeType) (s : Store) : Prop where
  since : n ≤ s.objects.length
  numbered : s.numbered = (uses ++ s.handleTypes n).eraseDups

namespace Counts

/-- At first, only the types used so far count. -/
theorem start (h : s.numbered = uses.eraseDups) : s.Counts s.objects.length uses where
  since := Nat.le_refl _
  numbered := by rw [handleTypes_end, List.append_nil, h]

/-- An object without a type uses none. -/
theorem alloc {o : Object} (h : s.Counts n uses) (untyped : o.nativeType = none) : (s.alloc o).2.Counts n uses where
  since := Nat.le_trans h.since (s.extends_alloc o).objects.length_le
  numbered := by
    rw [handleTypes_alloc o h.since, untyped, Option.toList_none, List.append_nil]
    exact h.numbered

/-- A change that keeps the type of an object uses none. -/
theorem update {id : ObjectId} {change : Object → Object} (h : s.Counts n uses)
    (same : ∀ o, (change o).nativeType = o.nativeType) : (s.update id change).Counts n uses where
  since := (List.length_modify _ _ _).symm ▸ h.since
  numbered := by
    rw [handleTypes_update same]
    exact h.numbered

/-- **A new handle is a use of its type.** -/
theorem newHandle (type : NativeType) (kind : HandleKind) (h : s.Counts n uses) :
    (Layout.newHandle type kind s).2.Counts n uses := by
  rw [Layout.newHandle_run]
  have since : n ≤ (s.enlist type).objects.length := by
    rw [Layout.enlist_objects]
    exact h.since
  refine ⟨Nat.le_trans since ((s.enlist type).extends_alloc _).objects.length_le, ?_⟩
  rw [handleTypes_alloc _ since, handleTypes_congr (congrArg _ (Layout.enlist_objects s type))]
  show (s.enlist type).numbered = (uses ++ (s.handleTypes n ++ [type])).eraseDups
  rw [← List.append_assoc, numbered_enlist h.numbered]

end Counts

end Store

/-- **Conversions number the types of the handles that they make**, in order, and so do publications, the number of the
class itself aside. -/
theorem publicationInvariant_counts (n : Nat) (uses : List NativeType) :
    PublicationInvariant (Store.Counts n uses) where
  plain := fun h => h.alloc rfl
  newHandle := fun type kind h => h.newHandle type kind
  define := fun _ _ _ _ _ h => h.update (fun _ => rfl)
  attach := fun _ _ h => h.update (fun _ => rfl)
  function := fun _ h => h.alloc rfl

/-! ## §2. What operations use. -/

namespace Store

variable {s t : Store} {uses : List NativeType}

/-- One operation, and the types that it uses, in order: for conversions the types of the handles that they make. -/
inductive Uses (s : Store) : List NativeType → Store → Prop where
  | newObject : Uses s [] (s.alloc (.ofKind .plain)).2
  | newHandle (type : NativeType) (kind : HandleKind) : Uses s [type] (Layout.newHandle type kind s).2
  | newFunction (name : String) (ref : FunctionRef) (length : Nat) :
      Uses s [] (Engine.newFunction name ref length s).2
  | newConstructor (name : String) (ref : FunctionRef) {prototype : ObjectId} (live : s.Live (.object prototype))
      (length : Nat) : Uses s [] (Engine.newConstructor name ref prototype length s).2
  | newReceiver (constructor : Value) : Uses s [] (s.withReceiver constructor)
  | setDefaultPrototype (type : NativeType) {prototype : ObjectId} (live : s.Live (.object prototype)) :
      Uses s [] (s.setDefaultPrototype type prototype)
  | typeNumber (type : NativeType) : Uses s [type] (s.typeNumber type).2
  | define (id : ObjectId) (name : String) {value : Value} (flags : Flags) (live : s.Live value) :
      Uses s [] (s.define id name value flags)
  | put {t : Store} {id : ObjectId} {name : String} {value : Value} (live : s.Live value)
      (done : s.put id name value = .ok t) : Uses s [] t
  | delete {t : Store} {id : ObjectId} {name : String} (done : s.delete id name = .ok t) : Uses s [] t
  | attach (id : ObjectId) (d : Datum) : Uses s [] (s.attach id d)
  | newCell (c : ClassName) (content : c.Instance) : Uses s [] (s.newCell c content).2
  | setContent {c : ClassName} (cell : Cell c) (content : c.Instance) : Uses s [] (s.setContent cell content)
  | toScript (τ : NativeType) (constant : Bool) (data : τ.Data) :
      Uses s ((Convert.toScript τ constant data s).2.handleTypes s.objects.length)
        (Convert.toScript τ constant data s).2
  | ofScript (τ : NativeType) (v : Value) : Uses s [] (Convert.ofScript τ v s).2
  | write {c : ClassName} (a : c.Instance) (handle : ObjectId) :
      Uses s (((Layout.ofClass c).write a handle s).2.handleTypes s.objects.length)
        ((Layout.ofClass c).write a handle s).2
  /-- The number of the class is asked for before its static fields are converted. -/
  | register (c : ClassName) :
      Uses s (.value (.object c) :: (Script.register c s).2.handleTypes s.objects.length) (Script.register c s).2

/-- Every operation uses some types, or none. -/
theorem Operation.exists_uses (operation : s.Operation t) : ∃ types, s.Uses types t := by
  cases operation with
  | newObject => exact ⟨_, .newObject⟩
  | newHandle type kind => exact ⟨_, .newHandle type kind⟩
  | newFunction name ref length => exact ⟨_, .newFunction name ref length⟩
  | newConstructor name ref live length => exact ⟨_, .newConstructor name ref live length⟩
  | newReceiver constructor => exact ⟨_, .newReceiver constructor⟩
  | setDefaultPrototype type live => exact ⟨_, .setDefaultPrototype type live⟩
  | typeNumber type => exact ⟨_, .typeNumber type⟩
  | define id name flags live => exact ⟨_, .define id name flags live⟩
  | put live done => exact ⟨_, .put live done⟩
  | delete done => exact ⟨_, .delete done⟩
  | attach id d => exact ⟨_, .attach id d⟩
  | newCell c content => exact ⟨_, .newCell c content⟩
  | setContent cell content => exact ⟨_, .setContent cell content⟩
  | toScript τ constant data => exact ⟨_, .toScript τ constant data⟩
  | ofScript τ v => exact ⟨_, .ofScript τ v⟩
  | write a handle => exact ⟨_, .write a handle⟩
  | register c => exact ⟨_, .register c⟩

/-- Changes by scripts number no type. -/
theorem numbered_tryUpdate {id : ObjectId} {change : Object → Except PropertyError Object}
    (done : s.tryUpdate id change = .ok t) : t.numbered = s.numbered := by
  rcases tryUpdate_eq_ok done with rfl | ⟨o, next, -, -, rfl⟩
  · rfl
  · rfl

/-- Nor do conversions from scripts. -/
theorem numbered_ofScript (τ : NativeType) (v : Value) (s : Store) :
    (Convert.ofScript τ v s).2.numbered = s.numbered := by
  obtain ⟨cells, read⟩ := Convert.exists_cells_ofScript τ v s
  rw [read]

/-- The prototype and the functions on it are made for no type. -/
theorem handleTypes_withPrototype (c : ClassName) (s : Store) :
    (withPrototype c s).handleTypes s.objects.length = [] := by
  have untyped : (withPrototype c s).UntypedFrom s.objects.length := by
    refine UntypedFrom.withPrototype c fun id o from_n found => ?_
    have := index_lt_of_object? found
    omega
  refine List.filterMap_eq_nil_iff.2 fun o mem => ?_
  obtain ⟨i, here⟩ := List.mem_iff_getElem?.1 mem
  rw [List.getElem?_drop] at here
  exact untyped ⟨_⟩ o (Nat.le_add_right _ _) here

/-- The prototype is adopted by its class, which gets a number. -/
theorem Counts.adopt {n : Nat} (h : s.Counts n uses) (none : s.handleTypes n = []) (c : ClassName)
    (prototype : ObjectId) : (Script.adopt c prototype s).Counts n (uses ++ [.value (.object c)]) := by
  have objects := Layout.enlist_objects s (.value (.object c))
  have listed : (s.enlist (.value (.object c))).Counts n (uses ++ [.value (.object c)]) := by
    refine ⟨objects.symm ▸ h.since, ?_⟩
    have numbered := h.numbered
    rw [none, List.append_nil] at numbered
    rw [handleTypes_congr (congrArg _ objects), none, List.append_nil, numbered_enlist numbered]
  have defined : ((s.enlist (.value (.object c))).define prototype "metaTypeId"
      (.count (s.typeNumber (.value (.object c))).1) .none).Counts n (uses ++ [.value (.object c)]) :=
    listed.update fun _ => rfl
  -- default prototypes do not count
  exact ⟨defined.since, defined.numbered⟩

/-- **What one operation does to numbers**: the types that it uses for the first time get theirs, in order. -/
theorem Uses.numbered {types : List NativeType} (step : s.Uses types t) (h : s.numbered = uses.eraseDups) :
    t.numbered = (uses ++ types).eraseDups := by
  have quiet : ∀ {t : Store}, t.numbered = s.numbered → t.numbered = (uses ++ []).eraseDups := by
    intro t same
    rw [same, h, List.append_nil]
  have start := Counts.start h
  have conversion := publicationInvariant_counts s.objects.length uses
  cases step with
  | newObject => exact quiet rfl
  | newHandle type kind =>
    rw [Layout.newHandle_run]
    exact numbered_enlist h
  | newFunction name ref length => exact quiet rfl
  | newConstructor name ref live length => exact quiet rfl
  | newReceiver constructor => exact quiet rfl
  | setDefaultPrototype type live => exact quiet rfl
  | typeNumber type => exact numbered_enlist h
  | define id name flags live => exact quiet rfl
  | put live done => exact quiet (numbered_tryUpdate done)
  | delete done => exact quiet (numbered_tryUpdate done)
  | attach id d => exact quiet rfl
  | newCell c content => exact quiet rfl
  | setContent cell content => exact quiet rfl
  | toScript τ constant data =>
    cases τ with
    | value type => exact (conversion.value type constant data start).numbered
    | shared c => exact (conversion.shared data (fun _ _ _ _ counts => counts.update fun _ => rfl) start).numbered
  | ofScript τ v => exact quiet (numbered_ofScript τ v s)
  | write a handle =>
    rw [Layout.write_eq_place]
    exact (conversion.place .mutable a handle start).numbered
  | register c =>
    -- the class gets its number between the prototype and the static fields
    have named := publicationInvariant_counts s.objects.length (uses ++ [.value (.object c)])
    have adopted := (conversion.withPrototype c start).adopt (handleTypes_withPrototype c s) c ⟨s.objects.length⟩
    have published := named.publishConstructor c (live_adopt c s) adopted
    rw [register_run, List.append_cons]
    exact (named.define _ c.name _ .fixed (live_publishConstructor c _ _) published).numbered

/-- Operations, one after the other, and the types that they use. -/
inductive Course (s : Store) : List NativeType → Store → Prop where
  | refl : Course s [] s
  | tail {types more : List NativeType} {t u : Store} (course : Course s types t) (step : t.Uses more u) :
      Course s (types ++ more) u

/-- Whatever is reached by operations has a course. -/
theorem Reaches.exists_course (reaches : s.Reaches t) : ∃ types, s.Course types t := by
  induction reaches with
  | refl => exact ⟨[], .refl⟩
  | tail _ operation ih =>
    obtain ⟨types, course⟩ := ih
    obtain ⟨more, step⟩ := operation.exists_uses
    exact ⟨types ++ more, course.tail step⟩

/-- **A course numbers the types that it uses**, in the order of their first use. -/
theorem Course.numbered {types : List NativeType} (course : s.Course types t) (h : s.numbered = uses.eraseDups) :
    t.numbered = (uses ++ types).eraseDups := by
  induction course with
  | refl => rw [List.append_nil, h]
  | tail _ step ih => rw [← List.append_assoc, step.numbered ih]

end Store

/-! ## §3. Runs of engines. -/

namespace Engine

variable {library : Library}

/-- What a host does with an engine, up to another one, and the types that are used meanwhile, in order.  A call uses
what the operations use that its functions do. -/
inductive Course (library : Library) (e : Engine) : List NativeType → Engine → Prop where
  | refl : Course library e [] e
  | operation {types more : List NativeType} {f : Engine} {s : Store} (course : Course library e types f)
      (step : f.store.Uses more s) : Course library e (types ++ more) { f with store := s }
  | switch {types : List NativeType} {f : Engine} (course : Course library e types f) (reporting : Bool) :
      Course library e types { f with reporting := reporting }
  | call {types more : List NativeType} {f last : Engine} {depth : Nat} {c : HostCall} {answer : CallResult}
      (course : Course library e types f) (live : c.request.Live f.store)
      (ran : Engine.run library depth f c.body = some (last, answer)) (inner : f.store.Course more last.store) :
      Course library e (types ++ more) last
  | within {types : List NativeType} {f : Engine} (course : Course library e types f) (frames : List String) :
      Course library e types { f with callStack := frames }

/-- **What a run does to numbers.** -/
theorem Course.numbered {e after : Engine} {uses types : List NativeType} (course : Course library e types after)
    (h : e.store.numbered = uses.eraseDups) : after.store.numbered = (uses ++ types).eraseDups := by
  induction course with
  | refl => rw [List.append_nil, h]
  | operation _ step ih => rw [← List.append_assoc, step.numbered ih]
  | switch _ _ ih => exact ih
  | call _ _ _ inner ih => rw [← List.append_assoc, inner.numbered ih]
  | within _ _ ih => exact ih

/-- From a new engine on, the numbered types are those that were used. -/
theorem Course.numbered_new {e : Engine} {reporting : Bool} {uses : List NativeType}
    (course : Course library (.new reporting) uses e) : e.store.numbered = uses.eraseDups := by
  have start : (Engine.new reporting).store.numbered = [].eraseDups := rfl
  exact course.numbered start

/-- **Every engine that a host can get to has a course.** -/
theorem Reachable.exists_course (permitted : library.Permitted) {e : Engine} (reachable : Reachable library e) :
    ∃ reporting uses, Course library (.new reporting) uses e := by
  induction reachable with
  | new reporting => exact ⟨reporting, [], .refl⟩
  | operation _ operation ih =>
    obtain ⟨reporting, uses, course⟩ := ih
    obtain ⟨more, step⟩ := operation.exists_uses
    exact ⟨reporting, uses ++ more, course.operation step⟩
  | switch _ switched ih =>
    obtain ⟨reporting, uses, course⟩ := ih
    exact ⟨reporting, uses, course.switch switched⟩
  | call reachable live ran ih =>
    obtain ⟨reporting, uses, course⟩ := ih
    obtain ⟨more, inner⟩ := (HostCall.reaches permitted (reachable.reached permitted) live ran).1.exists_course
    exact ⟨reporting, uses ++ more, course.call live ran inner⟩
  | within _ frames ih =>
    obtain ⟨reporting, uses, course⟩ := ih
    exact ⟨reporting, uses, course.within frames⟩

end Engine

/-! ## §4. The numbers that are given. -/

namespace Store

variable {s t : Store} {type : NativeType} {uses types : List NativeType}

/-- Numbers have to be below this one: they are signed integers of 32 bits. -/
def numberBound : Nat := 2147483648

/-- The numbers are given in the order in which the types `uses` come up first. -/
structure NumberedBy (s : Store) (uses : List NativeType) : Prop where
  /-- The numbers are the first ones, without gaps. -/
  inOrder : uses.eraseDups.map (fun type => (s.typeNumber type).1) = List.range' firstNumber uses.eraseDups.length
  /-- Asking for one of them again changes nothing. -/
  settled : ∀ type ∈ uses, (s.typeNumber type).2 = s
  /-- Any other type gets the next one. -/
  next : ∀ type, type ∉ uses → (s.typeNumber type).1 = firstNumber + uses.eraseDups.length
  /-- Numbers are small enough as long as there are not too many types. -/
  small : uses.eraseDups.length ≤ numberBound - firstNumber → ∀ type ∈ uses, (s.typeNumber type).1 < numberBound

/-- The number of a used type is the place of its first use. -/
theorem typeNumber_of_uses (h : s.numbered = uses.eraseDups) (used : type ∈ uses) :
    s.typeNumber type = (firstNumber + uses.eraseDups.idxOf type, s) := by
  rw [typeNumber_of_mem (by rwa [h, List.mem_eraseDups]), h]

/-- Numbers that follow the order of first use are stable, distinct and without gaps. -/
theorem numberedBy_of_numbered (h : s.numbered = uses.eraseDups) : s.NumberedBy uses where
  inOrder := by
    refine List.ext_getElem (by simp) fun i inside _ => ?_
    rw [List.length_map] at inside
    have used : uses.eraseDups[i] ∈ uses := List.mem_eraseDups.1 (List.getElem_mem inside)
    rw [List.getElem_map, typeNumber_of_uses h used, (nodup_eraseDups uses).idxOf_getElem, List.getElem_range',
      Nat.one_mul]
  settled type used := by rw [typeNumber_of_uses h used]
  next type new := by
    rw [typeNumber_of_not_mem (by rwa [h, List.mem_eraseDups]), h]
  small few type used := by
    have place := List.idxOf_lt_length_of_mem (List.mem_eraseDups.2 used)
    rw [typeNumber_of_uses h used]
    unfold numberBound firstNumber at few ⊢
    omega

/-- A number stays. -/
theorem typeNumber_later (h : s.numbered = uses.eraseDups) (later : t.numbered = (uses ++ types).eraseDups)
    (used : type ∈ uses) : t.typeNumber type = ((s.typeNumber type).1, t) := by
  rw [typeNumber_of_uses later (List.mem_append_left _ used), typeNumber_of_uses h used, List.eraseDups_append,
    List.idxOf_append_of_mem (List.mem_eraseDups.2 used)]

/-- A number belongs to one type. -/
theorem typeNumber_inj {other : NativeType} (numbered : type ∈ s.numbered)
    (same : (s.typeNumber other).1 = (s.typeNumber type).1) : other = type := by
  rw [typeNumber_of_mem numbered] at same
  by_cases known : other ∈ s.numbered
  · rw [typeNumber_of_mem known] at same
    exact (List.idxOf_inj known).1 (Nat.add_left_cancel same)
  · -- the next number was given to no type yet
    rw [typeNumber_of_not_mem known] at same
    have place := List.idxOf_lt_length_of_mem numbered
    exact absurd (Nat.add_left_cancel same) (Nat.ne_of_gt place)

end Store

namespace Engine

variable {library : Library} {e : Engine}

/-- The engine after the number of a type was asked for. -/
def asked (e : Engine) (type : NativeType) : Engine :=
  { e with store := (e.store.typeNumber type).2 }

/-- Numbers are given on the engine in the order of first use, and for good. -/
structure Numbering (library : Library) (e : Engine) : Prop where
  /-- Some course has led to the engine. -/
  course : ∃ reporting uses, Course library (.new reporting) uses e
  /-- Whichever it was, the numbers that were given are those of the types that were used, in order. -/
  numbered : ∀ reporting uses, Course library (.new reporting) uses e → e.store.NumberedBy uses
  /-- The course goes on with every operation. -/
  operation : ∀ s, e.store.Operation s → ∃ types, Course library e types { e with store := s }
  /-- The course goes on with every call. -/
  call : ∀ (depth : Nat) (c : HostCall) (last : Engine) (answer : CallResult), c.request.Live e.store →
    Engine.run library depth e c.body = some (last, answer) → ∃ types, Course library e types last
  /-- The number that a type has or gets now is its number for good, and no other type's. -/
  stays : ∀ type types after, Course library (e.asked type) types after →
    after.store.typeNumber type = ((e.store.typeNumber type).1, after.store) ∧
      ∀ other, (after.store.typeNumber other).1 = (e.store.typeNumber type).1 → other = type

/-- **On every engine that a host can get to, numbers are given without gaps in the order of first use**, to one type
each, and for good. -/
theorem Reachable.numbering (permitted : library.Permitted) (reachable : Reachable library e) :
    Numbering library e where
  course := reachable.exists_course permitted
  numbered _ _ course := Store.numberedBy_of_numbered course.numbered_new
  operation _ operation := by
    obtain ⟨types, step⟩ := operation.exists_uses
    exact ⟨[] ++ types, Course.refl.operation step⟩
  call _ _ _ _ live ran := by
    obtain ⟨types, inner⟩ := (HostCall.reaches permitted (reachable.reached permitted) live ran).1.exists_course
    exact ⟨[] ++ types, Course.refl.call live ran inner⟩
  stays type types after course := by
    obtain ⟨reporting, uses, before⟩ := reachable.exists_course permitted
    -- asking is a use, so from now on the type is among those used
    have now : (e.asked type).store.numbered = (uses ++ [type]).eraseDups :=
      (before.operation (.typeNumber type)).numbered_new
    have used : type ∈ uses ++ [type] := List.mem_append_right uses (List.mem_singleton_self type)
    have later := course.numbered now
    have number := Store.typeNumber_later now later used
    rw [asked, Store.typeNumber_twice] at number
    refine ⟨number, fun other same => Store.typeNumber_inj ?_ (same.trans (congrArg Prod.fst number).symm)⟩
    rw [later, List.mem_eraseDups]
    exact List.mem_append_left types used

/-- An engine on which two classes were published, the first one twice. -/
def published : Engine :=
  { Engine.new true with store := (register .entity (register .marker (register .entity .empty).2).2).2 }

/-- A host can get to the engine with the published classes. -/
theorem reachable_published : Reachable probing .published := by
  have start : Reachable probing (.new true) := .new true
  exact ((start.operation (.register .entity)).operation (.register .marker)).operation (.register .entity)

/-- Both have their numbers still, and the next type gets the next one. -/
theorem Reachable.numbering_published : probing.Permitted ∧ Reachable probing .published ∧
    Numbering probing .published ∧
      [.value (.object .entity), .value (.object .marker), .value .string].map
        (fun type => (published.store.typeNumber type).1) = [1024, 1025, 1026] :=
  ⟨permitted_probing, reachable_published, reachable_published.numbering permitted_probing, by decide +kernel⟩

end Engine

end ScriptBridge.Script
