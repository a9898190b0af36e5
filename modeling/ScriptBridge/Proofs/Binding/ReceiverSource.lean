import ScriptBridge.Proofs.Binding.Callables
import ScriptBridge.Proofs.Binding.ClassFile
import ScriptBridge.Proofs.Binding.Execution

/-!
# ScriptBridge.Proofs.Binding.ReceiverSource

Which objects a wrapper changes.

Native code has no hold on objects: what it contributes to a wrapper (conversions, fields, the native function) makes
objects at most.  So everything that happens to objects that are there already is what the last statement does, which
writes the receiver back onto the handle that the method was called on.  That is where the receiver was read from, with
one exception: a function that describes its receiver prefers the first argument.

Main results:
  * `Statement.run_onlyTo`, `Wrapper.run_onlyTo` - what a statement and a whole wrapper do to objects;
  * `Wrapper.run_ok` - the course of a call that succeeds;
  * `changes_source` - for every class and every method, the only object that changes is the one that the receiver was
    read from, unless the call strays; `strays_badge` is a call that does.
-/

namespace ScriptBridge.Binding

open ScriptBridge.Native ScriptBridge.Symbol
open ScriptBridge.Script (Value Flags Object ObjectId HandleKind Store StoreM Marshal Layout ConvertError
  InvocationError CallContext)

/-! ## §1. Computations that relate stores. -/

/-- Whatever the computation does to a store, the store is related to what becomes of it. -/
def Relates (R : Store → Store → Prop) {β : Type} (action : StoreM β) : Prop :=
  ∀ s, R s (action s).2

namespace Relates

variable {R R' : Store → Store → Prop} {β γ : Type}

/-- A computation that stays in a relation stays in a weaker one. -/
theorem mono (weaker : ∀ s t, R s t → R' s t) {action : StoreM β} (h : Relates R action) : Relates R' action :=
  fun s => weaker _ _ (h s)

/-- A computation that does nothing stays in every reflexive relation. -/
theorem pure (refl : ∀ s, R s s) (b : β) : Relates R (Pure.pure b : StoreM β) :=
  fun s => refl s

/-- Two computations, one after the other, stay in a transitive relation. -/
theorem bind (trans : ∀ s t u, R s t → R t u → R s u) {action : StoreM β} {next : β → StoreM γ}
    (h : Relates R action) (rest : ∀ b, Relates R (next b)) : Relates R (action >>= next) :=
  fun s => trans _ _ _ (h s) (rest _ _)

/-- So does a computation that is repeated for each of some items. -/
theorem forM (refl : ∀ s, R s s) (trans : ∀ s t u, R s t → R t u → R s u) {ι : Type} {items : List ι}
    {action : ι → StoreM Unit} (each : ∀ i, Relates R (action i)) : Relates R (items.forM action) := by
  induction items with
  | nil => exact .pure refl _
  | cons i rest ih => exact .bind trans (each i) (fun _ => ih)

/-- An attempt goes on only if it has not failed. -/
theorem attempt (refl : ∀ s, R s s) (trans : ∀ s t u, R s t → R t u → R s u) {action : Attempt β}
    {next : β → Attempt γ} (h : Relates R action.run) (rest : ∀ b, Relates R (next b).run) :
    Relates R (action >>= next).run := by
  show Relates R (action.run >>= ExceptT.bindCont next)
  refine .bind trans h (fun result => ?_)
  cases result with
  | error e => exact .pure refl _
  | ok b => exact rest b

/-- A computation that cannot fail, as an attempt. -/
theorem lift {action : StoreM β} (h : Relates R action) : Relates R (liftM action : Attempt β).run :=
  h

end Relates

/-- All objects that are there stay as they are. -/
abbrev Spares (s t : Store) : Prop :=
  s.Follows Eq 0 t

/-- No object changes if nothing happens. -/
theorem spares_refl (s : Store) : Spares s s :=
  .refl (fun _ => rfl) 0 s

/-- No object changes in either step. -/
theorem spares_trans (s t u : Store) (first : Spares s t) (second : Spares t u) : Spares s u :=
  first.trans Eq.trans second

/-- All objects that are there stay as they are, except for one; and that keeps its kind. -/
structure Elsewhere (id : ObjectId) (s t : Store) : Prop where
  others : ∀ other o, other ≠ id → s.object? other = some o → t.object? other = some o
  kinds : s.Follows (fun o next => next.kind = o.kind) 0 t

namespace Elsewhere

variable {id : ObjectId}

/-- Where no object changes, none but the given one does. -/
theorem of_spares (s t : Store) (h : Spares s t) : Elsewhere id s t where
  others := fun _ _ _ found => h.object? (Nat.zero_le _) found
  kinds := h.mono (fun same => congrArg Object.kind same.symm) (Nat.le_refl 0)

/-- The one object may stay as it is, too. -/
theorem refl (s : Store) : Elsewhere id s s :=
  of_spares s s (spares_refl s)

/-- No other object changes in either step. -/
theorem trans (s t u : Store) (first : Elsewhere id s t) (second : Elsewhere id t u) : Elsewhere id s u where
  others := fun other o apart found => second.others other o apart (first.others other o apart found)
  kinds := first.kinds.trans (fun kind kind' => kind'.trans kind) second.kinds

/-- An update of one object that keeps its kind. -/
theorem update (s : Store) {change : Object → Object} (kept : ∀ o, (change o).kind = o.kind) :
    Elsewhere id s (s.update id change) where
  others := by
    intro other o apart found
    rw [Store.object?_update, if_neg apart, found]
  kinds := by
    intro other o _ found
    rw [Store.object?_update]
    by_cases same : other = id
    · subst same
      exact ⟨change o, by rw [if_pos rfl, found, Option.map_some], kept o⟩
    · exact ⟨o, by rw [if_neg same, found], rfl⟩

/-- Nothing happened to the objects that were there before the one. -/
theorem spares {s t u : Store} (first : Spares s t) (second : Elsewhere id t u) (fresh : s.object? id = none) :
    Spares s u := by
  intro other o _ found
  have apart : other ≠ id := by
    rintro rfl
    rw [fresh] at found
    cases found
  exact ⟨o, second.others other o apart (first.object? (Nat.zero_le _) found), rfl⟩

end Elsewhere

/-- All objects that are there stay as they are, except for the one that a value names if it is a mutable handle; and
that stays one. -/
structure OnlyTo (target : Value) (s t : Store) : Prop where
  others : ∀ id o, s.object? id = some o → target ≠ .object id ∨ o.isMutable = false → t.object? id = some o
  kinds : s.Follows (fun o next => next.kind = o.kind) 0 t

namespace OnlyTo

variable {target : Value}

/-- Where no object changes, none changes without permission. -/
theorem of_spares (s t : Store) (h : Spares s t) : OnlyTo target s t where
  others := fun _ _ found _ => h.object? (Nat.zero_le _) found
  kinds := h.mono (fun same => congrArg Object.kind same.symm) (Nat.le_refl 0)

/-- The object that may change does not have to. -/
theorem refl (s : Store) : OnlyTo target s s :=
  of_spares s s (spares_refl s)

/-- Nothing changes without permission in either step. -/
theorem trans (s t u : Store) (first : OnlyTo target s t) (second : OnlyTo target t u) : OnlyTo target s u where
  others := fun id o found apart => second.others id o (first.others id o found apart) apart
  kinds := first.kinds.trans (fun kind kind' => kind'.trans kind) second.kinds

/-- Nothing happened to other objects than a mutable handle. -/
theorem of_elsewhere {s t : Store} {id : ObjectId} {o : Object} (h : Elsewhere id s t) (found : s.object? id = some o)
    (mutable : o.isMutable = true) : OnlyTo (.object id) s t where
  others := by
    intro other p there apart
    refine h.others other p ?_ there
    rintro rfl
    obtain rfl := Option.some.inj (found.symm.trans there)
    rcases apart with apart | constant
    · exact apart rfl
    · rw [mutable] at constant
      cases constant
  kinds := h.kinds

end OnlyTo

/-! ## §2. What native code may do. -/

/-- Conversions make objects at most. -/
structure Crossing.Lawful {α : Type} (x : Crossing α) : Prop where
  toScript : ∀ a, Relates Spares (x.toScript a)
  toConst : ∀ a, Relates Spares (x.toConst a)
  ofScript : ∀ v, Relates Spares (x.ofScript v)

/-- The types of all fields have lawful conversions, and what is attached to an object does not change its kind. -/
structure NativeClass.Lawful {α : Type} (n : NativeClass α) : Prop where
  field : ∀ name, (n.field name).crossing.Lawful
  attach : ∀ a o, (n.attach a o).kind = o.kind

/-- Neither the native function nor the conversions around it change an object that is there. -/
structure NativeItem.Lawful {α : Type} (m : NativeItem α) : Prop where
  ofScript : ∀ index v, Relates Spares (m.ofScript index v)
  run : ∀ a arguments, Relates Spares (m.run a arguments)
  toScript : ∀ result, Relates Spares (m.toScript result)

/-- A lawful conversion of values makes a lawful crossing. -/
theorem Crossing.lawful_ofMarshal {α : Type} {m : Marshal α} (h : m.Lawful) : (ofMarshal m).Lawful where
  toScript a s := (h.toScript_extends a s).objects
  toConst a s := (h.toConst_extends a s).objects
  ofScript _ s := spares_refl s

section

variable {α : Type} {f : ClassFile} {n : NativeClass α} {w : Wrapper} {m : NativeItem α} {call : CallContext}

/-! ## §3. Reading and writing values. -/

/-- The conversion of a field to a constant changes no object. -/
theorem Field.convertConst_spares (lawful : n.Lawful) (field : Field) (a : α) :
    Relates Spares (field.convertConst n a) := by
  unfold convertConst
  split
  · exact (lawful.field _).toScript _
  · exact (lawful.field _).toConst _

/-- Writing a property changes its object at most. -/
theorem define_elsewhere {convert : StoreM Value} (h : Relates Spares convert) (id : ObjectId) (name : String)
    (flags : Flags) :
    Relates (Elsewhere id) (do let value ← convert; modify (·.define id name value flags) : StoreM Unit) :=
  .bind .trans (h.mono .of_spares) (fun _ s => .update s (fun _ => rfl))

/-- Writing a constant field changes its handle only. -/
theorem Field.writeConst_elsewhere (lawful : n.Lawful) (field : Field) (a : α) (id : ObjectId) :
    Relates (Elsewhere id) (field.writeConst n a id) :=
  define_elsewhere (field.convertConst_spares lawful a) id field.label .fixed

/-- Writing a field changes its handle only. -/
theorem Field.write_elsewhere (lawful : n.Lawful) (field : Field) (a : α) (id : ObjectId) :
    Relates (Elsewhere id) (field.write n a id) := by
  unfold write
  split
  · exact field.writeConst_elsewhere lawful a id
  · exact define_elsewhere ((lawful.field _).toScript _) id field.label .kept

/-- Reading a field changes no object. -/
theorem Field.read_spares (lawful : n.Lawful) (field : Field) (handle : ObjectId) (a : α) :
    Relates Spares (field.read n handle a) :=
  fun s => (lawful.field field.name).ofScript (s.property handle field.label) s

/-- Reading all fields changes no object. -/
theorem Field.readAll_spares (lawful : n.Lawful) (handle : ObjectId) (fields : List Field) :
    ∀ a, Relates Spares (readAll n handle fields a) := by
  induction fields with
  | nil => exact fun a => .pure spares_refl _
  | cons field rest ih =>
    intro a
    refine .bind spares_trans (field.read_spares lawful handle a) (fun result => ?_)
    cases result with
    | error e => exact .pure spares_refl _
    | ok next => exact ih next

/-- Reading an instance off a handle changes no object. -/
theorem ClassFile.read_spares (lawful : n.Lawful) (v : Value) (a : α) : Relates Spares (f.read n v a) := by
  intro s
  cases v with
  | object handle => exact Field.readAll_spares lawful handle _ _ s
  | _ => exact spares_refl s

/-- Attaching an instance changes its handle only. -/
theorem ClassFile.carry_elsewhere (lawful : n.Lawful) (a : α) (id : ObjectId) :
    Relates (Elsewhere id) (f.carry n a id) := by
  unfold carry
  split
  · exact fun s => .update s (lawful.attach a)
  · exact .pure .refl _

/-- Writing a value onto a handle changes no other object. -/
theorem ClassFile.write_elsewhere (lawful : n.Lawful) (a : α) (id : ObjectId) :
    Relates (Elsewhere id) (f.write n a id) :=
  .bind .trans (.forM .refl .trans (fun field => field.1.write_elsewhere lawful a id))
    (fun _ => carry_elsewhere lawful a id)

/-- Making a handle and writing onto it changes no object that was there before. -/
theorem newHandle_spares {write : ObjectId → StoreM Unit} (elsewhere : ∀ id, Relates (Elsewhere id) (write id))
    (type : NativeType) (kind : HandleKind) :
    Relates Spares (do
      let handle ← Layout.newHandle type kind
      write handle
      return .object handle : StoreM Value) := by
  intro s
  show Spares s (write (Layout.newHandle type kind s).1 (Layout.newHandle type kind s).2).2
  rw [Layout.newHandle_run]
  exact Elsewhere.spares (Layout.extends_blank type kind s).objects (elsewhere _ _) (Store.object?_fresh s)

/-- **The conversions of a class make objects at most**, if those of its fields do. -/
theorem ClassFile.crossing_lawful (lawful : n.Lawful) (type : NativeType) : (f.crossing n type).Lawful where
  toScript a := newHandle_spares (write_elsewhere lawful a) type .mutable
  toConst a := newHandle_spares (fun id => .bind .trans
    (.forM .refl .trans (fun field => field.1.writeConst_elsewhere lawful a id))
    (fun _ => carry_elsewhere lawful a id)) type .snapshot
  ofScript v := read_spares lawful v n.fresh

/-- **Writing back** changes the receiver only, and only if it is a mutable handle. -/
theorem ClassFile.writeBack_onlyTo (lawful : n.Lawful) (a : α) :
    Relates (OnlyTo call.receiver) (f.writeBack n call a) := by
  intro s
  unfold writeBack
  cases call.receiver with
  | object id =>
    show OnlyTo _ s ((if ((s.object? id).map (·.isMutable)).getD false then f.write n a id else Pure.pure ()) s).2
    -- only a mutable handle is written onto
    split
    · next mutable =>
      obtain ⟨o, found⟩ : ∃ o, s.object? id = some o := by
        cases there : s.object? id with
        | none =>
          rw [there] at mutable
          cases mutable
        | some o => exact ⟨o, rfl⟩
      rw [found] at mutable
      exact .of_elsewhere (write_elsewhere lawful a id s) found mutable
    · exact .refl s
  | _ => exact .refl s

/-! ## §4. Statements. -/

/-- A conversion with its error put into words changes no more objects than the conversion. -/
theorem Attempt.converting_spares {β : Type} {describe : ConvertError → InvocationError}
    {conversion : StoreM (Except ConvertError β)} (h : Relates Spares conversion) :
    Relates Spares (converting describe conversion).run :=
  .bind spares_trans h (fun _ => .pure spares_refl _)

/-- **A statement that does not write back leaves all objects as they are.** -/
theorem Statement.run_spares (class_lawful : n.Lawful) (item_lawful : m.Lawful) {st : Statement}
    (apart : st ≠ .writeBack) (locals : Locals m) : Relates Spares (st.run f n w m call locals).run := by
  cases st with
  | checkCount parameters =>
    exact .attempt spares_refl spares_trans (.pure spares_refl _) (fun _ => .pure spares_refl _)
  | receive r =>
    exact .attempt spares_refl spares_trans (Attempt.converting_spares (ClassFile.read_spares class_lawful _ _))
      (fun _ => .pure spares_refl _)
  | argument index a =>
    exact .attempt spares_refl spares_trans (Attempt.converting_spares (item_lawful.ofScript _ _))
      (fun _ => .pure spares_refl _)
  | invoke =>
    refine .attempt spares_refl spares_trans (.lift (item_lawful.run _ _)) (fun ran => ?_)
    cases w.outcome with
    | nothing => exact .pure spares_refl _
    | constructed | converted =>
      exact .attempt spares_refl spares_trans (.lift (item_lawful.toScript _)) (fun _ => .pure spares_refl _)
  | writeBack => exact absurd rfl apart

/-- **What a statement may change is the handle that the call was made on.** -/
theorem Statement.run_onlyTo (class_lawful : n.Lawful) (item_lawful : m.Lawful) (st : Statement) (locals : Locals m) :
    Relates (OnlyTo call.receiver) (st.run f n w m call locals).run := by
  by_cases last : st = .writeBack
  · subst last
    exact .attempt .refl .trans (.lift (ClassFile.writeBack_onlyTo class_lawful _)) (fun _ => .pure .refl _)
  · exact (Statement.run_spares class_lawful item_lawful last locals).mono .of_spares

/-- What every statement relates, a series of statements relates. -/
theorem Statement.runAll_relates {R : Store → Store → Prop} (refl : ∀ s, R s s)
    (trans : ∀ s t u, R s t → R t u → R s u) {statements : List Statement}
    (each : ∀ st ∈ statements, ∀ locals, Relates R (st.run f n w m call locals).run) :
    ∀ locals, Relates R (runAll f n w m call locals statements).run := by
  induction statements with
  | nil => exact fun locals => .pure refl _
  | cons st rest ih =>
    intro locals
    exact .attempt refl trans (each st List.mem_cons_self locals)
      (fun next => ih (fun other mem => each other (List.mem_cons_of_mem _ mem)) next)

/-- A wrapper relates what its statements relate. -/
theorem Wrapper.run_relates {R : Store → Store → Prop} (refl : ∀ s, R s s)
    (trans : ∀ s t u, R s t → R t u → R s u)
    (each : ∀ st ∈ w.statements, ∀ locals, Relates R (st.run f n w m call locals).run) :
    Relates R (w.run f n m call) :=
  .bind trans (Statement.runAll_relates refl trans each _) (fun _ => .pure refl _)

/-- **What a wrapper may change is the handle that the call was made on.** -/
theorem Wrapper.run_onlyTo (class_lawful : n.Lawful) (item_lawful : m.Lawful) :
    Relates (OnlyTo call.receiver) (w.run f n m call) :=
  run_relates .refl .trans (fun st _ locals => st.run_onlyTo class_lawful item_lawful locals)

/-- The wrappers that write back are those of methods that may change their receiver. -/
theorem Wrapper.writeBack_mem_iff :
    Statement.writeBack ∈ w.statements ↔ ∃ r, w.receiver = some r ∧ r.isConst = false := by
  unfold statements
  rcases w.receiver with _ | ⟨describes, isConst⟩
  · simp
  · cases describes <;> cases isConst <;> simp

/-- **The wrapper of a method that leaves its receiver alone changes no object.** -/
theorem Wrapper.run_spares (class_lawful : n.Lawful) (item_lawful : m.Lawful)
    (constant : ∀ r, w.receiver = some r → r.isConst = true) : Relates Spares (w.run f n m call) := by
  refine run_relates spares_refl spares_trans (fun st mem locals => ?_)
  refine st.run_spares class_lawful item_lawful ?_ locals
  rintro rfl
  obtain ⟨r, receiver, changes⟩ := writeBack_mem_iff.1 mem
  rw [constant r receiver] at changes
  cases changes

/-! ## §5. The course of a call. -/

/-- Two attempts succeed together if the first does and then the second. -/
theorem Attempt.bind_ok {β γ : Type} {action : Attempt β} {next : β → Attempt γ} {s t : Store} {c : γ}
    (h : (action >>= next).run s = (.ok c, t)) : ∃ b u, action.run s = (.ok b, u) ∧ (next b).run u = (.ok c, t) := by
  rw [bind_run] at h
  rcases first : action.run s with ⟨_ | b, u⟩
  · rw [first] at h
    cases h
  · rw [first] at h
    exact ⟨b, u, rfl, h⟩

/-- A conversion that succeeded did so in the same way without words for its errors. -/
theorem Attempt.converting_ok {β : Type} {describe : ConvertError → InvocationError}
    {conversion : StoreM (Except ConvertError β)} {s t : Store} {b : β}
    (h : (converting describe conversion).run s = (.ok b, t)) : conversion s = (.ok b, t) := by
  rw [converting_run] at h
  rcases converted : conversion s with ⟨_ | b', u⟩
  · rw [converted] at h
    cases h
  · rw [converted] at h
    cases h
    rfl

/-- What a call of a method comes to if it succeeds: the receiver `a` is read from where it is to be found, the native
function makes `b` of it, and nothing but `b` is written back, unless the method leaves its receiver alone. -/
structure Course (f : ClassFile) (n : NativeClass α) (m : NativeItem α) (call : CallContext) (r : Receiver) (a b : α)
    (s t : Store) : Prop where
  read : (f.read n (r.source call) n.fresh s).1 = .ok a
  ran : ∃ arguments u, (m.run a arguments u).1.1 = b
  written : ∃ u, Spares s u ∧ t = if r.isConst then u else (f.writeBack n call b u).2

namespace Statement

/-- Counting the arguments, where that is done, changes nothing. -/
theorem counting_ok {r : Receiver} {count : Nat} {locals next : Locals m} {s t : Store}
    (h : (runAll f n w m call locals (if r.describes then [] else [.checkCount count])).run s = (.ok next, t)) :
    t = s := by
  split at h
  · cases h
    rfl
  · obtain ⟨_, u, counted, h⟩ := Attempt.bind_ok h
    cases h
    obtain ⟨_, v, checked, counted⟩ := Attempt.bind_ok counted
    cases counted
    exact (Prod.mk.inj checked).2.symm

/-- A statement that receives succeeds with the receiver that it reads, and changes no object. -/
theorem receive_ok (class_lawful : n.Lawful) {r : Receiver} {locals next : Locals m} {s t : Store}
    (h : ((receive r).run f n w m call locals).run s = (.ok next, t)) :
    (f.read n (r.source call) n.fresh s).1 = .ok next.this ∧ Spares s t := by
  obtain ⟨a, u, converted, h⟩ := Attempt.bind_ok h
  cases h
  have read := Attempt.converting_ok converted
  have spared := ClassFile.read_spares (f := f) class_lawful (r.source call) n.fresh s
  rw [read] at spared ⊢
  exact ⟨rfl, spared⟩

/-- Reading arguments leaves the receiver alone, and all objects. -/
theorem arguments_ok (class_lawful : n.Lawful) (item_lawful : m.Lawful) {statements : List Statement}
    (all : ∀ st ∈ statements, ∃ index a, st = .argument index a) {locals next : Locals m} {s t : Store}
    (h : (runAll f n w m call locals statements).run s = (.ok next, t)) :
    next.this = locals.this ∧ Spares s t := by
  induction statements generalizing locals s with
  | nil =>
    cases h
    exact ⟨rfl, spares_refl _⟩
  | cons st rest ih =>
    obtain ⟨⟨index, a, rfl⟩, later⟩ := List.forall_mem_cons.1 all
    rw [runAll_cons] at h
    obtain ⟨mid, u, ran, h⟩ := Attempt.bind_ok h
    have here : Relates Spares ((argument index a).run f n w m call locals).run :=
      run_spares class_lawful item_lawful Statement.noConfusion locals
    have spared := here s
    rw [ran] at spared
    -- an argument that was read joins the others, and the receiver is what it was
    obtain ⟨argument, v, -, ran⟩ := Attempt.bind_ok ran
    cases ran
    obtain ⟨same, others⟩ := ih later h
    exact ⟨same, spares_trans _ _ _ spared others⟩

/-- A statement that invokes succeeds with what the native function makes of the receiver, and changes no object. -/
theorem invoke_ok (lawful : m.Lawful) {locals next : Locals m} {s t : Store}
    (h : (invoke.run f n w m call locals).run s = (.ok next, t)) :
    (m.run locals.this locals.arguments s).1.1 = next.this ∧ Spares s t := by
  obtain ⟨ran, u, run, h⟩ := Attempt.bind_ok h
  cases run
  have ran := lawful.run locals.this locals.arguments s
  cases outcome : w.outcome with
  | nothing =>
    rw [outcome] at h
    cases h
    exact ⟨rfl, ran⟩
  | constructed | converted =>
    rw [outcome] at h
    obtain ⟨value, v, converted, h⟩ := Attempt.bind_ok h
    cases converted
    cases h
    exact ⟨rfl, spares_trans _ _ _ ran (lawful.toScript _ _)⟩

/-- What is written back is the receiver, unless the method leaves it alone. -/
theorem writingBack_ok {r : Receiver} {locals next : Locals m} {s t : Store}
    (h : (runAll f n w m call locals (if r.isConst then [] else [.writeBack])).run s = (.ok next, t)) :
    t = if r.isConst then s else (f.writeBack n call locals.this s).2 := by
  split at h
  next constant =>
    cases h
    exact (if_pos constant).symm
  next changes =>
    obtain ⟨_, u, wrote, h⟩ := Attempt.bind_ok h
    cases h
    obtain ⟨_, v, back, wrote⟩ := Attempt.bind_ok wrote
    cases wrote
    cases back
    exact (if_neg changes).symm

end Statement

/-- A wrapper succeeds if its statements do. -/
theorem Wrapper.runAll_of_run {s : Store} {answer : Value} (h : (w.run f n m call s).1 = .ok answer) :
    ∃ locals, (Statement.runAll f n w m call ⟨n.fresh, [], .undefined⟩ w.statements).run s =
      (.ok locals, (w.run f n m call s).2) := by
  cases all : (Statement.runAll f n w m call ⟨n.fresh, [], .undefined⟩ w.statements).run s with
  | mk result t =>
    have run : w.run f n m call s = (result.map (·.ret), t) := by
      show (((Statement.runAll f n w m call ⟨n.fresh, [], .undefined⟩ w.statements).run s).1.map (·.ret),
        ((Statement.runAll f n w m call ⟨n.fresh, [], .undefined⟩ w.statements).run s).2) = _
      rw [all]
    rw [run] at h ⊢
    cases result with
    | error e => cases h
    | ok locals => exact ⟨locals, rfl⟩

/-- **The course of a call that succeeds.** -/
theorem Wrapper.run_ok (class_lawful : n.Lawful) (item_lawful : m.Lawful) {r : Receiver}
    (receiver : w.receiver = some r) {s : Store} {answer : Value} (h : (w.run f n m call s).1 = .ok answer) :
    ∃ a b, Course f n m call r a b s (w.run f n m call s).2 := by
  obtain ⟨locals, ran⟩ := runAll_of_run h
  generalize (w.run f n m call s).2 = t at ran
  -- one statement after the other
  unfold statements at ran
  simp only [receiver, List.append_assoc, List.cons_append, List.nil_append] at ran
  rw [Statement.runAll_append] at ran
  obtain ⟨start, s₀, counting, ran⟩ := Attempt.bind_ok ran
  rw [Statement.runAll_cons] at ran
  obtain ⟨received, s₁, receive, ran⟩ := Attempt.bind_ok ran
  rw [Statement.runAll_append] at ran
  obtain ⟨given, s₂, arguments, ran⟩ := Attempt.bind_ok ran
  rw [Statement.runAll_cons] at ran
  obtain ⟨invoked, s₃, invoke, last⟩ := Attempt.bind_ok ran
  obtain rfl := Statement.counting_ok counting
  obtain ⟨read, first⟩ := Statement.receive_ok class_lawful receive
  have all_arguments : ∀ st ∈ w.arguments.mapIdx Statement.argument, ∃ index a, st = .argument index a := by
    intro st mem
    obtain ⟨index, bound, rfl⟩ := List.mem_mapIdx.1 mem
    exact ⟨index, _, rfl⟩
  obtain ⟨same, second⟩ := Statement.arguments_ok class_lawful item_lawful all_arguments arguments
  obtain ⟨made, third⟩ := Statement.invoke_ok item_lawful invoke
  exact ⟨received.this, invoked.this, {
    read := read
    ran := ⟨given.arguments, s₂, same ▸ made⟩
    written := ⟨s₃, spares_trans _ _ _ first (spares_trans _ _ _ second third), Statement.writingBack_ok last⟩ }⟩

end

/-! ## §6. Where changes go. -/

/-- A call of a function that describes its receiver and yet may change it *strays* if it is made on one value and finds
its receiver in another, the first argument. -/
def Callable.Strays (c : Callable) (call : CallContext) : Prop :=
  c.declaration.isToString = true ∧ c.declaration.isConst = false ∧
    ∃ first, call.arguments.head? = some first ∧ first ≠ call.receiver

/-- What a call of the wrapper `w` of a method does to objects. -/
structure Wrapper.Changes {α : Type} (c : Callable) (f : ClassFile) (w : Wrapper) (r : Receiver) (n : NativeClass α)
    (m : NativeItem α) (call : CallContext) (s : Store) : Prop where
  /-- An object that changes is the mutable handle that the call was made on, and the method is not constant; and unless
  the call strays, this is the object that the receiver was read from. -/
  changed : ∀ id o, s.object? id = some o → (w.run f n m call s).2.object? id ≠ some o →
    o.isMutable = true ∧ call.receiver = .object id ∧ c.declaration.isConst = false ∧
      (¬ c.Strays call → r.source call = .object id)
  /-- If a call that strays succeeds, then what was made of the receiver in the first argument is written onto the other
  handle. -/
  strayed : c.Strays call → ∀ answer, (w.run f n m call s).1 = .ok answer → ∃ first a b u,
    call.arguments.head? = some first ∧ first ≠ call.receiver ∧ (f.read n first n.fresh s).1 = .ok a ∧
      (∃ arguments v, (m.run a arguments v).1.1 = b) ∧ Spares s u ∧
        (w.run f n m call s).2 = (f.writeBack n call b u).2

/-- A call that does not stray finds its receiver in the value that it is made on. -/
theorem Receiver.source_of_not_strays {c : Callable} {call : CallContext} (changes : c.declaration.isConst = false)
    (h : ¬ c.Strays call) :
    (Receiver.mk c.declaration.isToString c.declaration.isConst).source call = call.receiver := by
  unfold source
  split
  · next describes =>
    cases first : call.arguments.head? with
    | none => rfl
    | some v =>
      by_cases same : v = call.receiver
      · exact same
      · exact absurd ⟨describes, changes, v, first, same⟩ h
  · rfl

/-- A call that strays finds its receiver in the first argument. -/
theorem Receiver.source_of_strays {c : Callable} {call : CallContext} (h : c.Strays call) {first : Value}
    (given : call.arguments.head? = some first) :
    (Receiver.mk c.declaration.isToString c.declaration.isConst).source call = first := by
  unfold source
  rw [if_pos h.1, given]
  rfl

/-- The wrapper of a method has a receiver. -/
theorem Wrapper.receiver_ofCallable {c : Callable} {w : Wrapper} (h : Wrapper.ofCallable c = .ok w)
    (method : c.isConstructor = false) (onInstance : c.declaration.isStatic = false) :
    w.receiver = some ⟨c.declaration.isToString, c.declaration.isConst⟩ := by
  obtain ⟨name, -, h⟩ := bind_ok h
  obtain ⟨arguments, -, h⟩ := bind_ok h
  obtain ⟨target, -, h⟩ := bind_ok h
  cases h
  show Wrapper.receiverOf c = _
  unfold Wrapper.receiverOf
  rw [method, onInstance]
  rfl

/-- **Changes go where the receiver came from, unless the call strays.** -/
theorem changes_source {paths : Paths} {s : Scope} {f : ClassFile} (made : (ClassFile.ofScope paths s).2 = .ok f)
    {c : Callable} (kept : c ∈ (Callables.ofScope s).callables) (method : c.isConstructor = false)
    (onInstance : c.declaration.isStatic = false) :
    ∃ w ∈ f.wrappers, Wrapper.ofCallable c = .ok w ∧ ∃ r, w.receiver = some r ∧
      ∀ {α : Type} {n : NativeClass α} {m : NativeItem α}, n.Lawful → m.Lawful →
        ∀ call store, w.Changes c f r n m call store := by
  obtain ⟨w, mem, wrapper⟩ := exists_right_of_mem (forall₂_of_mapM (ClassFile.made_ofScope made).wrappers) kept
  have receiver := Wrapper.receiver_ofCallable wrapper method onInstance
  refine ⟨w, mem, wrapper, _, receiver, ?_⟩
  intro α n m class_lawful item_lawful call store
  refine ⟨?_, ?_⟩
  · intro id o found differs
    -- the run writes onto the receiver of the call only, and only if that is mutable and the function is not constant
    have onlyTo : OnlyTo call.receiver store (w.run f n m call store).2 :=
      Wrapper.run_onlyTo class_lawful item_lawful store
    have target : call.receiver = .object id := by
      by_contra apart
      exact differs (onlyTo.others id o found (.inl apart))
    have mutable : o.isMutable = true := by
      by_contra constant
      exact differs (onlyTo.others id o found (.inr (Bool.eq_false_iff.2 constant)))
    have changes : c.declaration.isConst = false := by
      by_contra constant
      have spares : Spares store (w.run f n m call store).2 := by
        refine Wrapper.run_spares class_lawful item_lawful (fun r same => ?_) store
        obtain rfl := Option.some.inj (receiver.symm.trans same)
        simpa using constant
      exact differs (spares.object? (Nat.zero_le _) found)
    exact ⟨mutable, target, changes, fun straight => (Receiver.source_of_not_strays changes straight).trans target⟩
  · intro strays answer ok
    obtain ⟨a, b, course⟩ := Wrapper.run_ok class_lawful item_lawful receiver ok
    -- what was read from the first argument is written back onto the receiver of the call
    obtain ⟨first, given, apart⟩ := strays.2.2
    obtain ⟨u, spares, final⟩ := course.written
    have read := course.read
    rw [Receiver.source_of_strays strays given] at read
    refine ⟨first, a, b, u, given, apart, read, course.ran, spares, ?_⟩
    rw [final, strays.2.1]
    rfl

/-- A class of badges that write their label down, which may change them. -/
def badge : Scope where
  owner := { (default : Declaration) with name := "Badge", kind := .classType }
  members :=
    [{ (default : Declaration) with name := "label", kind := .field, type := "QString" },
     { (default : Declaration) with name := "toString", kind := .function, type := "QString" }]

/-- The native side of badges: nothing but their label. -/
def badgeClass : NativeClass String where
  fresh := ""
  field _ := ⟨String, .ofMarshal (Script.marshalOf .string), id, fun _ label => label⟩
  attach _ o := o
  attached? _ := none

/-- The function that writes the label down. -/
def badgeToString : NativeItem String where
  Argument := Unit
  Result := String
  typeName _ := "()"
  ofScript _ _ := return .ok ()
  run label _ := return (label, label)
  toScript label := return .string label

/-- Badges and their function are lawful: they attach nothing and make no object. -/
theorem badge_lawful : badgeClass.Lawful ∧ badgeToString.Lawful where
  left := ⟨fun _ => Crossing.lawful_ofMarshal Script.lawful_string, fun _ _ => rfl⟩
  right := ⟨fun _ _ => .pure spares_refl _, fun _ _ => .pure spares_refl _, fun _ => .pure spares_refl _⟩

/-- The wrapper of the badges' function, with all that it is about. -/
theorem changes_source_badge : ∃ f, (ClassFile.ofScope .standard badge).2 = .ok f ∧
    ∃ c ∈ (Callables.ofScope badge).callables, c.isConstructor = false ∧ c.declaration.isStatic = false ∧
      ∃ w ∈ f.wrappers, Wrapper.ofCallable c = .ok w ∧ ∃ r, w.receiver = some r ∧
        badgeClass.Lawful ∧ badgeToString.Lawful ∧
          ∀ call store, w.Changes c f r badgeClass badgeToString call store := by
  obtain ⟨f, made⟩ : ∃ f, (ClassFile.ofScope .standard badge).2 = .ok f := exists_ok (by decide +kernel)
  obtain ⟨c, mem, method, onInstance⟩ : ∃ c ∈ (Callables.ofScope badge).callables, c.isConstructor = false ∧
      c.declaration.isStatic = false := ⟨_, List.mem_singleton_self _, rfl, rfl⟩
  obtain ⟨w, known, wrapper, r, receiver, changes⟩ := changes_source made mem method onInstance
  exact ⟨f, made, c, mem, method, onInstance, w, known, wrapper, r, receiver, badge_lawful.1, badge_lawful.2,
    changes badge_lawful.1 badge_lawful.2⟩

/-- Two badges, with the labels `left` and `right`. -/
def twoBadges : Store :=
  let handle (label : String) : Object :=
    (Object.ofKind (.handle .mutable)).define "label" (.string label) .kept
  { Store.empty with objects := [.ofKind .plain, handle "left", handle "right"] }

/-- Called on the right badge with the left one as argument, the function writes the left label onto the right badge. -/
theorem strays_badge : ∃ f w r, (ClassFile.ofScope .standard badge).2 = .ok f ∧ f.wrappers = [w] ∧
    w.receiver = some r ∧ badgeClass.Lawful ∧ badgeToString.Lawful ∧
      let call : CallContext := ⟨.object ⟨2⟩, [.object ⟨1⟩], [], false⟩
      r.source call = .object ⟨1⟩ ∧ twoBadges.property ⟨2⟩ "label" = .string "right" ∧
        (w.run f badgeClass badgeToString call twoBadges).2.property ⟨2⟩ "label" = .string "left" := by
  have run : ((ClassFile.ofScope .standard badge).2.toOption.any (fun f => f.wrappers.length == 1 &&
      f.wrappers.all (fun w => w.receiver == some ⟨true, false⟩ &&
        (w.run f badgeClass badgeToString ⟨.object ⟨2⟩, [.object ⟨1⟩], [], false⟩ twoBadges).2.property ⟨2⟩ "label" ==
          .string "left"))) = true := by decide +kernel
  obtain ⟨f, made, checked⟩ := exists_ok_of_any run
  simp only [Bool.and_eq_true, beq_iff_eq, List.all_eq_true] at checked
  obtain ⟨w, wrappers⟩ := List.length_eq_one_iff.1 checked.1
  obtain ⟨receiver, label⟩ := checked.2 w (wrappers ▸ List.mem_singleton_self w)
  exact ⟨f, w, _, made, wrappers, receiver, badge_lawful.1, badge_lawful.2, rfl, by decide +kernel, label⟩

end ScriptBridge.Binding
