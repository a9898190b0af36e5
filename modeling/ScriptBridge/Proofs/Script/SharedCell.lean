import ScriptBridge.Proofs.Script.Evolution
import ScriptBridge.Proofs.Script.ReceiverFrame

/-!
# ScriptBridge.Proofs.Script.SharedCell

Handles of shared cells.

The handle that a cell is converted to remembers the cell: it carries it as a payload.  Nothing that happens later takes
the payload away.  Instances that are written back onto the handle may come with a payload of their own, but that is of
another type and stands beside it (`Object.Recalls`).  So at any time reading the handle gives the cell itself, with its
content overwritten by the public fields on the handle, or it fails and the cell keeps its content.

Main results:
  * `Touched.recalls`, `Event.recalls` - objects keep the cells that they remember;
  * `Event.grows` - cells are never removed;
  * `Field.readAll_keeps` - reading a handle changes public fields only;
  * `Store.Remembers.regained` - what comes of reading a handle that remembers a cell;
  * `shared_handle_regains` - all this of any handle of any cell, whatever happened since it was made.
-/

namespace ScriptBridge.Native

/-- What an instance holds that its handles do not: the secret of an entity.  The bytes of a buffer go with the
handle. -/
def ClassName.secret? : (c : ClassName) → c.Instance → Option (Numeric.Whole .i32)
  | .entity, (e : Entity) => some e.secret
  | _, _ => none

end ScriptBridge.Native

namespace ScriptBridge.Script

open ScriptBridge.Native

/-! ## §1. Cells. -/

/-- A shared cell of whatever class. -/
abbrev AnyCell : Type :=
  (c : ClassName) × Cell c

namespace Store

/-- No cell is removed. -/
def Grows (s t : Store) : Prop :=
  ∀ c, (s.cells c).length ≤ (t.cells c).length

theorem Grows.of_eq {s t : Store} (same : t.cells = s.cells) : s.Grows t := by
  intro c
  exact Nat.le_of_eq (by rw [same])

theorem grows_setCells {s : Store} {c : ClassName} {contents : List c.Instance}
    (longer : (s.cells c).length ≤ contents.length) : s.Grows (s.setCells c contents) := by
  intro d
  by_cases same : c = d
  · subst same
    rw [cells_setCells_self]
    exact longer
  · exact Nat.le_of_eq (by rw [cells_setCells_of_ne same])

theorem grows_setContent {c : ClassName} (s : Store) (cell : Cell c) (a : c.Instance) :
    s.Grows (s.setContent cell a) :=
  grows_setCells (Nat.le_of_eq (List.length_set ..).symm)

theorem grows_newCell (s : Store) (c : ClassName) (a : c.Instance) : s.Grows (s.newCell c a).2 :=
  grows_setCells (by rw [List.length_append]; exact Nat.le_add_right _ _)

theorem content?_isSome_iff {c : ClassName} {s : Store} {cell : Cell c} :
    (s.content? cell).isSome ↔ cell.index < (s.cells c).length := by
  simp [content?]

theorem content?_setContent_self {c : ClassName} {s : Store} {cell : Cell c} (there : (s.content? cell).isSome)
    (a : c.Instance) : (s.setContent cell a).content? cell = some a := by
  unfold setContent content?
  rw [cells_setCells_self, List.getElem?_set_self (content?_isSome_iff.1 there)]

theorem content?_newCell (s : Store) (c : ClassName) (a : c.Instance) :
    (s.newCell c a).2.content? (s.newCell c a).1 = some a := by
  unfold newCell content?
  rw [cells_setCells_self, List.getElem?_append_right (Nat.le_refl _), Nat.sub_self]
  rfl

/-- The other cells keep their contents. -/
theorem content?_setContent_of_ne {c : ClassName} {s : Store} {cell : Cell c} {other : AnyCell}
    (apart : other ≠ ⟨c, cell⟩) (a : c.Instance) :
    (s.setContent cell a).content? other.2 = s.content? other.2 := by
  obtain ⟨d, ⟨place⟩⟩ := other
  obtain ⟨index⟩ := cell
  unfold setContent content?
  by_cases same : c = d
  · subst same
    have distinct : index ≠ place := by
      rintro rfl
      exact apart rfl
    rw [cells_setCells_self, List.getElem?_set_ne distinct]
  · rw [cells_setCells_of_ne same]

end Store

/-! ## §2. Objects keep the cells that they remember. -/

/-- The object remembers the same cells. -/
def Object.Recalls (o next : Object) : Prop :=
  ∀ c, next.data? (.shared c) = o.data? (.shared c)

namespace Object

theorem Recalls.refl (o : Object) : o.Recalls o :=
  fun _ => rfl

theorem Recalls.trans {o p q : Object} (first : o.Recalls p) (second : p.Recalls q) : o.Recalls q :=
  fun c => (second c).trans (first c)

/-- Properties do not matter. -/
theorem recalls_of_shape {o next : Object} (shape : ∃ properties, next = { o with properties := properties }) :
    o.Recalls next := by
  obtain ⟨properties, rfl⟩ := shape
  exact fun _ => rfl

/-- What is written back comes with a payload of another type, if with any. -/
theorem Rewritten.recalls {c : ClassName} {o next : Object} (rewritten : o.Rewritten c next) : o.Recalls next := by
  intro d
  exact rewritten.payloads (.shared d) (fun _ same => nomatch same)

end Object

theorem Store.Extends.recalls {s t : Store} (extended : s.Extends t) : s.Follows Object.Recalls 0 t :=
  extended.objects.of_unchanged Object.Recalls.refl (Nat.le_refl 0)

/-- What a step of a script leaves of the cells that objects remember. -/
theorem Touched.recalls {s t : Store} (touched : Touched s t) : s.Follows Object.Recalls 0 t := by
  cases touched with
  | refused => exact .refl Object.Recalls.refl 0 s
  | put done =>
    exact Store.follows_tryUpdate Object.Recalls.refl
      (fun _ _ put => Object.recalls_of_shape (Object.put_shape put)) done
  | delete done =>
    exact Store.follows_tryUpdate Object.Recalls.refl
      (fun _ _ deleted => Object.recalls_of_shape (Object.delete_shape deleted)) done
  | extended adds => exact adds.recalls
  | @wrote t c m ref next receiver arguments handle o prepared offered operation read found mutable =>
    refine prepared.recalls.trans Object.Recalls.trans ?_
    obtain ⟨altered, o', written, rewritten⟩ := Layout.place_rewrites .mutable (next receiver arguments) found
    intro id p _ there
    by_cases same : id = handle
    · subst same
      obtain rfl := Option.some.inj (found.symm.trans there)
      exact ⟨o', written, rewritten.recalls⟩
    · exact ⟨p, altered.others id p same there, .refl p⟩

/-- Scripts leave all cells alone. -/
theorem Touched.cells {s t : Store} (touched : Touched s t) : t.cells = s.cells := by
  cases touched with
  | refused => rfl
  | put done => rcases Store.tryUpdate_eq_ok done with rfl | ⟨o, next, -, -, rfl⟩ <;> rfl
  | delete done => rcases Store.tryUpdate_eq_ok done with rfl | ⟨o, next, -, -, rfl⟩ <;> rfl
  | extended adds => exact adds.cells
  | wrote prepared offered operation read found mutable =>
    exact (Layout.place_rewrites .mutable _ found).1.cells.trans prepared.cells

/-- **Objects keep the cells that they remember**, whatever happens. -/
theorem Event.recalls {e after : Engine} {event : Event} {depth : Nat}
    (performed : event.perform (depth + 1) e = some after) : e.store.Follows Object.Recalls 0 after.store := by
  refine Event.follows Object.Recalls.refl (fun c _ => ?_) Touched.recalls performed
  exact register_follows Object.Recalls.refl Object.Recalls.trans
    (fun _ _ _ _ _ => Object.recalls_of_shape ⟨_, rfl⟩) c e.store

/-- Reading as a shared cell changes the content of one cell, makes a new one, or does nothing. -/
theorem shareOfScript_grows (c : ClassName) (v : Value) (s : Store) : s.Grows (shareOfScript c v s).2 := by
  unfold shareOfScript
  simp only
  split
  · split
    · exact .of_eq rfl
    · exact s.grows_setContent _ _
  · split
    · exact .of_eq rfl
    · exact s.grows_newCell _ _

/-- **Cells are never removed**, whatever happens. -/
theorem Event.grows {e after : Engine} {event : Event} {depth : Nat}
    (performed : event.perform (depth + 1) e = some after) : e.store.Grows after.store := by
  cases event with
  | register c =>
    obtain rfl := Option.some.inj performed
    obtain ⟨t, -, -, cells, defined⟩ := register_defines c e.store
    refine .of_eq ?_
    show (Script.register c e.store).2.cells = e.store.cells
    rw [defined]
    exact cells
  | convert τ constant data =>
    obtain rfl := Option.some.inj performed
    exact .of_eq (Convert.toScript_extends τ constant data e.store).cells
  | read τ v =>
    obtain rfl := Option.some.inj performed
    cases τ with
    | value type => exact .of_eq rfl
    | shared c => exact shareOfScript_grows c v e.store
  | newCell c content =>
    obtain rfl := Option.some.inj performed
    exact e.store.grows_newCell c content
  | setContent c cell content =>
    obtain rfl := Option.some.inj performed
    exact e.store.grows_setContent cell content
  | script step =>
    obtain ⟨after', performed', touched⟩ := step.perform_touched depth e
    obtain rfl := Option.some.inj (performed.symm.trans performed')
    exact .of_eq touched.cells

/-! ## §3. What is read. -/

/-- What no field has a part in, reading fields does not change. -/
theorem Field.readAll_keeps {α β : Type} (part : α → β) {fields : List (Field α)}
    (apart : ∀ f ∈ fields, ∀ a d, part (f.set a d) = part a) {s : Store} {handle : ObjectId} {a b : α}
    (read : readAll s handle a fields = (b, none)) : part b = part a := by
  induction fields generalizing a with
  | nil =>
    obtain rfl : a = b := congrArg Prod.fst read
    rfl
  | cons f rest ih =>
    obtain ⟨d, -, others⟩ := readAll_cons_eq_ok read
    rw [ih (fun g mem => apart g (List.mem_cons_of_mem f mem)) others, apart f List.mem_cons_self]

/-- An instance that is overwritten by what a handle says keeps its secret. -/
theorem secret?_of_read {c : ClassName} {s : Store} {v : Value} {old b : c.Instance}
    (read : (Layout.ofClass c).read s v old = .ok b) : c.secret? b = c.secret? old := by
  cases c with
  | entity =>
    cases v with
    | object id =>
      refine Field.readAll_keeps ClassName.entity.secret? ?_ (Layout.readAll_of_read read)
      intro f mem e d
      change f ∈ entityLayout.fields at mem
      simp only [entityLayout, List.mem_cons, List.not_mem_nil, or_false] at mem
      rcases mem with rfl | rfl <;> rfl
    | _ => cases read
  | _ => rfl

/-- What comes of reading a value as a shared cell if it stands for the cell `cell` with the content `old`. -/
structure Store.Regains {c : ClassName} (s : Store) (cell : Cell c) (v : Value) (old : c.Instance)
    (result : Except ConvertError (Cell c)) (t : Store) : Prop where
  /-- The result is the cell, which now holds the old content overwritten by what the value says, and the secret is
  still that of the old content; or the value cannot be read, and the cell holds what it held. -/
  outcome : (∃ b, (Layout.ofClass c).read s v old = .ok b ∧ result = .ok cell ∧ t.content? cell = some b ∧
      c.secret? b = c.secret? old) ∨
    ∃ error, (Layout.ofClass c).read s v old = .error error ∧ result = .error error ∧ t.content? cell = some old
  /-- Nothing happens to objects and to what else is known of them. -/
  objects : t.objects = s.objects
  global : t.global = s.global
  prototypes : t.prototypes = s.prototypes
  numbered : t.numbered = s.numbered
  /-- Nothing happens to any other cell. -/
  others : ∀ other : AnyCell, other ≠ ⟨c, cell⟩ → t.content? other.2 = s.content? other.2

/-! ## §4. Handles of cells. -/

/-- The object remembers the cell, and the cell is there. -/
structure Store.Remembers {c : ClassName} (s : Store) (id : ObjectId) (cell : Cell c) : Prop where
  payload : s.data? id (.shared c) = some cell
  there : (s.content? cell).isSome

namespace Store.Remembers

variable {c : ClassName} {s t : Store} {id : ObjectId} {cell : Cell c}

theorem later (h : s.Remembers id cell) (recalls : s.Follows Object.Recalls 0 t) (grows : s.Grows t) :
    t.Remembers id cell where
  payload := by
    obtain ⟨o, found, payload⟩ := Option.bind_eq_some_iff.1 h.payload
    obtain ⟨next, found', same⟩ := recalls id o (Nat.zero_le _) found
    unfold Store.data?
    rw [found', Option.bind_some, same c, payload]
  there := content?_isSome_iff.2 (Nat.lt_of_lt_of_le (content?_isSome_iff.1 h.there) (grows c))

/-- **Reading a handle that remembers a cell.** -/
theorem regained (h : s.Remembers id cell) {old : c.Instance} (content : s.content? cell = some old) :
    s.Regains cell (.object id) old (Convert.ofScript (.shared c) (.object id) s).1
      (Convert.ofScript (.shared c) (.object id) s).2 := by
  have remembered : ((Value.object id).asObject?.bind (fun id => s.data? id (.shared c))) = some cell := h.payload
  -- the handle is read onto what the cell holds
  cases read : (Layout.ofClass c).read s (.object id) old with
  | error error =>
    have run : Convert.ofScript (.shared c) (.object id) s = (.error error, s) := by
      show shareOfScript c (.object id) s = _
      simp only [shareOfScript, remembered, content, Option.getD_some, read]
    rw [run]
    exact ⟨.inr ⟨error, read, rfl, content⟩, rfl, rfl, rfl, rfl, fun _ _ => rfl⟩
  | ok b =>
    have run : Convert.ofScript (.shared c) (.object id) s = (.ok cell, s.setContent cell b) := by
      show shareOfScript c (.object id) s = _
      simp only [shareOfScript, remembered, content, Option.getD_some, read]
    rw [run]
    refine ⟨.inl ⟨b, read, rfl, ?_, secret?_of_read read⟩, rfl, rfl, rfl, rfl, ?_⟩
    · exact content?_setContent_self h.there b
    · exact fun other apart => content?_setContent_of_ne apart b

end Store.Remembers

/-- Converting a cell makes a handle that remembers it. -/
theorem remembers_toScript {c : ClassName} {s : Store} {cell : Cell c} {a : c.Instance}
    (content : s.content? cell = some a) (constant : Bool) :
    ∃ id, (Convert.toScript (.shared c) constant cell s).1 = .object id ∧
      (Convert.toScript (.shared c) constant cell s).2.Remembers id cell := by
  obtain ⟨extended, o, shows, -⟩ := Layout.make_shows (Layout.lawful_ofClass c) .mutable a s
  have cells := (shareToScript_extends cell s).cells
  show ∃ id, (shareToScript cell s).1 = _ ∧ (shareToScript cell s).2.Remembers id cell
  rw [shareToScript_run cell content] at cells ⊢
  refine ⟨_, rfl, ?_, ?_⟩
  · -- whether or not the handle gets another prototype, the cell is attached to it last
    have found := shows.object
    generalize ((Layout.ofClass c).make .mutable a s).2 = t at found
    have attached : ∀ (u : Store) p, u.object? ⟨s.objects.length⟩ = some p →
        (u.attach ⟨s.objects.length⟩ ⟨.shared c, cell⟩).data? ⟨s.objects.length⟩ (.shared c) = some cell := by
      intro u p there
      unfold Store.data?
      rw [Store.object?_attach_self _ there]
      exact p.data?_attach_self ⟨.shared c, cell⟩
    unfold rememberCell
    cases t.defaultPrototype? (.shared c) with
    | none => exact attached t o found
    | some prototype =>
      refine attached _ { o with prototype := some prototype } ?_
      unfold Store.setPrototype
      rw [Store.object?_update, if_pos rfl, found]
      rfl
  · unfold Store.content? at content ⊢
    rw [cells, content]
    rfl

theorem Engine.useStore_pair {α : Type} (e : Engine) (action : StoreM α) :
    e.useStore action = ((e.useStore action).1, (e.useStore action).2) := rfl

/-- **Handles of shared cells keep them.**  Whatever happens after a cell was converted, publications, conversions and
changes of cells by the host as well as anything that scripts do, reading the handle as a shared cell gives that very
cell, overwritten by what the handle says, or it fails; in either case nothing else changes, and in the latter case
nothing at all.  As long as only scripts are at work, the cell holds what it held. -/
theorem shared_handle_regains {c : ClassName} {e start : Engine} {cell : Cell c} {a : c.Instance} {constant : Bool}
    {v : Value} (content : e.store.content? cell = some a)
    (shared : e.useStore (Convert.toScript (.shared c) constant cell) = (start, v)) :
    start.Always (fun after => after.store.content? cell = some a) ∧
      start.Throughout (fun _ => True) (fun after => ∃ old, after.store.content? cell = some old ∧
        after.store.Regains cell v old (Convert.ofScript (.shared c) v after.store).1
          (Convert.ofScript (.shared c) v after.store).2) := by
  obtain ⟨rfl, rfl⟩ := Engine.useStore_eq shared
  obtain ⟨id, handle, remembers⟩ := remembers_toScript content constant
  constructor
  -- scripts leave cells alone
  · refine always_of_step (p := fun s => s.content? cell = some a) ?_ ?_
    · intro s t touched same
      unfold Store.content? at same ⊢
      rw [touched.cells, same]
    · unfold Store.content? at content ⊢
      rw [(Convert.toScript_extends (.shared c) constant cell e.store).cells, content]
  · have throughout := throughout_of_event (fun _ => True) (p := fun s => s.Remembers id cell)
      (fun event _ _ _ _ performed h => h.later (Event.recalls performed) (Event.grows performed))
      (e := (e.useStore (Convert.toScript (.shared c) constant cell)).1) remembers
    refine throughout.mono ?_
    intro after h
    obtain ⟨old, there⟩ := Option.isSome_iff_exists.1 h.there
    rw [handle]
    exact ⟨old, there, h.regained there⟩

/-- An entity with a secret. -/
def spy : Entity :=
  { Entity.named (.clamp .u32 7) "torch" with secret := .clamp .i32 42 }

/-- The cell that is made for it. -/
def Engine.spyCell (e : Engine) : Cell .entity :=
  (e.store.newCell .entity spy).1

/-- An engine with the cell and a handle of it. -/
def Engine.withSpy (e : Engine) : Engine × Value :=
  (e.useStore (·.newCell .entity spy)).1.useStore (Convert.toScript (.shared .entity) false e.spyCell)

/-- A script gives it another name. -/
def Engine.renameSpy (e : Engine) : Event :=
  .script (.request (.invokeMethod e.withSpy.2 "Rename" [.string "lamp"]))

/-- A shared entity is renamed through its handle.  The cell knows of it when it is regained, and keeps its secret. -/
theorem shared_handle_regains_spy : ∃ after old,
    Event.performAll 1 Engine.bound.withSpy.1 [Engine.bound.renameSpy] = some after ∧
    after.store.Regains Engine.bound.spyCell Engine.bound.withSpy.2 old
      (Convert.ofScript (.shared .entity) Engine.bound.withSpy.2 after.store).1
      (Convert.ofScript (.shared .entity) Engine.bound.withSpy.2 after.store).2 ∧
    (Convert.ofScript (.shared .entity) Engine.bound.withSpy.2 after.store).2.content? Engine.bound.spyCell =
      some { spy with name := "lamp" } := by
  -- for any engine, so that nothing is computed here
  have regained : ∀ (e : Engine) event, ∃ after old, Event.performAll 1 e.withSpy.1 [event] = some after ∧
      after.store.Regains e.spyCell e.withSpy.2 old (Convert.ofScript (.shared .entity) e.withSpy.2 after.store).1
        (Convert.ofScript (.shared .entity) e.withSpy.2 after.store).2 := by
    intro e event
    obtain ⟨after, performed, old, -, regains⟩ :=
      (shared_handle_regains (Store.content?_newCell e.store .entity spy) (Engine.useStore_pair
        (e.useStore (·.newCell .entity spy)).1 (Convert.toScript (.shared .entity) false e.spyCell))).2 0 [event]
        (fun _ _ => trivial)
    exact ⟨after, old, performed, regains⟩
  obtain ⟨after, old, performed, regains⟩ := regained Engine.bound Engine.bound.renameSpy
  have renamed : (Event.performAll 1 Engine.bound.withSpy.1 [Engine.bound.renameSpy]).any (fun after =>
      (Convert.ofScript (.shared .entity) Engine.bound.withSpy.2 after.store).2.content? Engine.bound.spyCell =
        some { spy with name := "lamp" }) = true := by decide +kernel
  rw [performed, Option.any_some] at renamed
  exact ⟨after, old, performed, regains, of_decide_eq_true renamed⟩

end ScriptBridge.Script
