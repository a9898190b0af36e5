import ScriptBridge.Script.Bound
import ScriptBridge.Proofs.Script.Frame

/-!
# ScriptBridge.Proofs.Script.Conversion

What conversions to scripts make, and what of it is read back.

A conversion only adds objects.  `Made convert n s v` says that `v` came out of a conversion and that the objects it
made, all of them from number `n` on, are in `s` as they were made.  The laws of a conversion are then about values
that were made:

  * `Marshal.Restores`: the value is read back as a given native one;
  * `Marshal.Lawful.steady`: what is read from a constant value is read from it whatever scripts do.

Main results:
  * `forM_writeProperty_written`, `forM_writeProperty` - what stands on an object after a series of properties was
    written onto it;
  * `lawful_of_pure` - conversions of plain values obey the laws;
  * `restores_of_pure` - what is read back of plain values.
-/

namespace ScriptBridge.Script

open ScriptBridge.Native ScriptBridge.Numeric

/-! ## §1. Values that were made. -/

/-- `v` is what a conversion made, and what it made is there in `s`, in objects from number `n` on. -/
def Made (convert : StoreM Value) (n : Nat) (s : Store) (v : Value) : Prop :=
  ∃ origin : Store, n ≤ origin.objects.length ∧ (convert origin).1 = v ∧
    (convert origin).2.Follows Eq origin.objects.length s

theorem Made.self (convert : StoreM Value) (s : Store) : Made convert s.objects.length (convert s).2 (convert s).1 :=
  ⟨s, Nat.le_refl _, rfl, Store.Follows.refl (fun _ => rfl) _ _⟩

/-- What was made is there while the objects that it consists of stay as they are. -/
theorem Made.follows {convert : StoreM Value} {n : Nat} {s t : Store} {v : Value} (made : Made convert n s v)
    (h : s.Follows Eq n t) : Made convert n t v := by
  obtain ⟨origin, le, value, kept⟩ := made
  exact ⟨origin, le, value, kept.trans Eq.trans (h.from_le le)⟩

theorem Made.from_le {convert : StoreM Value} {m n : Nat} {s : Store} {v : Value} (le : m ≤ n)
    (made : Made convert n s v) : Made convert m s v := by
  obtain ⟨origin, le', value, kept⟩ := made
  exact ⟨origin, Nat.le_trans le le', value, kept⟩

/-- From number `n` on, all objects refuse every change of the properties they have. -/
def Store.SealedFrom (n : Nat) (s : Store) : Prop :=
  ∀ id o, n ≤ id.index → s.object? id = some o →
    o.isMutable = false ∧ ∀ name p, o.property? name = some p → p.flags = .fixed

/-- Objects that are sealed stay so when sealed ones are added. -/
theorem Store.SealedFrom.extend {n : Nat} {s t : Store} (old : s.SealedFrom n) (h : s.Extends t)
    (new : t.SealedFrom s.objects.length) : t.SealedFrom n := by
  intro id o from_n found
  rcases h.objects.origin (Nat.zero_le _) found with ⟨p, found', rfl⟩ | behind
  · -- an object of `s` is in `t` as it was
    exact old id p from_n found'
  · exact new id o behind found

/-- A new object without properties leaves only itself to be sealed. -/
theorem Store.sealedFrom_alloc {s : Store} {o : Object} (still : o.isMutable = false)
    (bare : ∀ name, o.property? name = none) : (s.alloc o).2.SealedFrom s.objects.length := by
  intro id p from_n found
  rcases Store.of_object?_alloc found with ⟨-, rfl⟩ | found
  · refine ⟨still, ?_⟩
    intro name q here
    rw [bare name] at here
    exact nomatch here
  · -- every other object was there before
    have := Store.index_lt_of_object? found
    omega

/-- A change that leaves an object sealed leaves all of them sealed. -/
theorem Store.SealedFrom.update {n : Nat} {s : Store} (h : s.SealedFrom n) (id : ObjectId) {change : Object → Object}
    (kept : ∀ o, (change o).isMutable = o.isMutable)
    (fixed : ∀ o, (∀ name p, o.property? name = some p → p.flags = .fixed) →
      ∀ name p, (change o).property? name = some p → p.flags = .fixed) : (s.update id change).SealedFrom n := by
  intro other o from_n found
  rcases Store.of_object?_update found with ⟨rfl, p, found', rfl⟩ | ⟨-, found⟩
  · obtain ⟨still, before⟩ := h other p from_n found'
    exact ⟨(kept p).trans still, fixed p before⟩
  · exact h other o from_n found

/-- A fixed property leaves the objects sealed. -/
theorem Store.SealedFrom.define {n : Nat} {s : Store} (h : s.SealedFrom n) (id : ObjectId) (name : String)
    (value : Value) : (s.define id name value .fixed).SealedFrom n := by
  unfold Store.define
  refine h.update id (fun _ => rfl) ?_
  intro o before at_name p here
  rw [Object.property?_define] at here
  split at here
  · obtain rfl := Option.some.inj here
    rfl
  · exact before at_name p here

/-- Payloads do not matter to sealing. -/
theorem Store.SealedFrom.attach {n : Nat} {s : Store} (h : s.SealedFrom n) (id : ObjectId) (d : Datum) :
    (s.attach id d).SealedFrom n :=
  h.update id (fun _ => rfl) (fun _ before => before)

/-! ## §2. Writing properties. -/

/-- Puts what a conversion makes onto an object as a property. -/
def writeProperty (id : ObjectId) (name : String) (flags : Flags) (convert : StoreM Value) : StoreM Unit := do
  let value ← convert
  modify (·.define id name value flags)

/-- To write a property is to convert its value and then to define it. -/
theorem writeProperty_run (id : ObjectId) (name : String) (flags : Flags) (convert : StoreM Value) (s : Store) :
    (writeProperty id name flags convert s).2 = (convert s).2.define id name (convert s).1 flags := rfl

section

universe u

variable {ι : Type u} {name : ι → String} {flags : ι → Flags} {convert : ι → StoreM Value} {id : ObjectId}

theorem forM_cons_run (f : ι → StoreM Unit) (i : ι) (rest : List ι) (s : Store) :
    ((i :: rest).forM f s).2 = (rest.forM f (f i s).2).2 := rfl

/-- What writing one property preserves is preserved by writing a series of them. -/
theorem forM_writeProperty_preserves {P : Store → Prop} {items : List ι}
    (written : ∀ i ∈ items, ∀ s, P s → P ((convert i s).2.define id (name i) (convert i s).1 (flags i))) {s : Store}
    (h : P s) : P (items.forM (fun i => writeProperty id (name i) (flags i) (convert i)) s).2 := by
  induction items generalizing s with
  | nil => exact h
  | cons i rest ih =>
    rw [forM_cons_run, writeProperty_run]
    exact ih (fun j mem => written j (List.mem_cons_of_mem _ mem)) (written i List.mem_cons_self s h)

/-- So is what conversions and all definitions preserve. -/
theorem forM_writeProperty_induct {P : Store → Prop} {items : List ι}
    (converted : ∀ i ∈ items, ∀ s, P s → P (convert i s).2)
    (defined : ∀ i ∈ items, ∀ s v, P s → P (s.define id (name i) v (flags i))) {s : Store} (h : P s) :
    P (items.forM (fun i => writeProperty id (name i) (flags i) (convert i)) s).2 :=
  forM_writeProperty_preserves (fun i mem s holds => defined i mem _ _ (converted i mem s holds)) h

/-- What stands on an object after a series of properties was written onto it. -/
structure Written (name : ι → String) (flags : ι → Flags) (convert : ι → StoreM Value) (items : List ι)
    (n : Nat) (t : Store) (o next : Object) : Prop where
  payloads : next.payloads = o.payloads
  written : ∀ i ∈ items, ∃ v, next.property? (name i) = some ⟨v, flags i⟩ ∧ Made (convert i) n t v
  others : ∀ other, other ∉ items.map name → next.property? other = o.property? other

/-- Writing properties with different names does nothing to other objects that conversions spare, and all of them are
there afterwards. -/
theorem forM_writeProperty_written (name : ι → String) (flags : ι → Flags) {items : List ι} {n : Nat}
    (spares : ∀ i ∈ items, ∀ s : Store, s.Follows Eq n (convert i s).2) (distinct : (items.map name).Nodup)
    (newer : n ≤ id.index) {s : Store} {o : Object} (found : s.object? id = some o) :
    (∀ other p, n ≤ other.index → other ≠ id → s.object? other = some p →
        (items.forM (fun i => writeProperty id (name i) (flags i) (convert i)) s).2.object? other = some p) ∧
      ∃ next, (items.forM (fun i => writeProperty id (name i) (flags i) (convert i)) s).2.object? id = some next ∧
        (next.kind = o.kind ∧ next.nativeType = o.nativeType ∧ next.prototype = o.prototype) ∧
        Written name flags convert items s.objects.length
          (items.forM (fun i => writeProperty id (name i) (flags i) (convert i)) s).2 o next := by
  induction items generalizing s o with
  | nil => exact ⟨fun _ _ _ _ there => there, o, found, ⟨rfl, rfl, rfl⟩, rfl, by simp, fun _ _ => rfl⟩
  | cons i rest ih =>
    -- `t` is the store after the first property, which stands on `o'`
    have inside := Store.index_lt_of_object? found
    have spared := spares i List.mem_cons_self s
    have longer := spared.length_le_of_lt (Nat.lt_of_le_of_lt newer inside)
    rw [forM_cons_run, writeProperty_run]
    generalize t_eq : (convert i s).2.define id (name i) (convert i s).1 (flags i) = t
    have altered : (convert i s).2.Alters id t := t_eq ▸ Store.alters_define _ _ _ _ _
    have here : t.object? id = some (o.define (name i) (convert i s).1 (flags i)) :=
      t_eq ▸ Store.object?_define_self (name i) _ (flags i) (spared.object? newer found)
    rw [List.map_cons, List.nodup_cons] at distinct
    obtain ⟨rest_others, next, found_next, rest_same, rest_payloads, rest_written, rest_absent⟩ :=
      ih (fun j mem => spares j (List.mem_cons_of_mem _ mem)) distinct.2 here
    refine ⟨?_, next, found_next, rest_same, rest_payloads, ?_, ?_⟩
    · intro other p from_n apart there
      exact rest_others other p from_n apart (altered.others other p apart (spared.object? from_n there))
    · intro j mem
      rcases List.mem_cons.1 mem with rfl | mem
      · -- the first property: those written later have other names and stand on the same object
        refine ⟨(convert j s).1, ?_, s, Nat.le_refl _, rfl, ?_⟩
        · rw [rest_absent _ distinct.1, Object.property?_define, if_pos rfl]
        · intro other p behind there
          have apart : other ≠ id := by
            rintro rfl
            omega
          exact ⟨p, rest_others other p (by omega) apart (altered.others other p apart there), rfl⟩
      · obtain ⟨v, own, made⟩ := rest_written j mem
        exact ⟨v, own, made.from_le (Nat.le_trans longer altered.length_le)⟩
    · intro other absent
      rw [List.map_cons, List.mem_cons, not_or] at absent
      rw [rest_absent other absent.2, Object.property?_define, if_neg absent.1]

/-- If conversions only add objects, nothing but the object is altered. -/
theorem forM_writeProperty (name : ι → String) (flags : ι → Flags) {items : List ι}
    (extends_convert : ∀ i ∈ items, ∀ s : Store, s.Extends (convert i s).2)
    (distinct : (items.map name).Nodup) {s : Store} {o : Object} (found : s.object? id = some o) :
    s.Alters id (items.forM (fun i => writeProperty id (name i) (flags i) (convert i)) s).2 ∧
      ∃ next, (items.forM (fun i => writeProperty id (name i) (flags i) (convert i)) s).2.object? id = some next ∧
        Written name flags convert items s.objects.length
          (items.forM (fun i => writeProperty id (name i) (flags i) (convert i)) s).2 o next := by
  obtain ⟨others, next, found', same, written⟩ := forM_writeProperty_written name flags
    (fun i mem s => (extends_convert i mem s).objects) distinct (Nat.zero_le _) found
  -- what is no object is neither changed by conversions nor by definitions
  have kept := @forM_writeProperty_induct ι name flags convert id
    (fun t => t.global = s.global ∧ t.prototypes = s.prototypes ∧ s.numbered <+: t.numbered ∧ t.cells = s.cells) items
    (fun i mem t ⟨global, prototypes, numbered, cells⟩ =>
      have more := extends_convert i mem t
      ⟨more.global.trans global, more.prototypes.trans prototypes, numbered.trans more.numbered,
        more.cells.trans cells⟩)
    (fun _ _ _ _ kept => kept) s ⟨rfl, rfl, List.prefix_rfl, rfl⟩
  obtain ⟨global, prototypes, numbered, cells⟩ := kept
  refine ⟨⟨fun other p apart => others other p (Nat.zero_le _) apart, ?_, global, prototypes, numbered, cells⟩,
    next, found', written⟩
  intro p there
  obtain rfl := Option.some.inj (found.symm.trans there)
  exact ⟨next, found', same⟩

/-- Writing constant values as fixed properties leaves the objects sealed. -/
theorem forM_writeProperty_sealed {items : List ι} {n : Nat}
    (le : ∀ i ∈ items, ∀ s : Store, s.Extends (convert i s).2)
    (constant : ∀ i ∈ items, ∀ s : Store, (convert i s).2.SealedFrom s.objects.length) {s : Store}
    (h : s.SealedFrom n) :
    (items.forM (fun i => writeProperty id (name i) .fixed (convert i)) s).2.SealedFrom n :=
  forM_writeProperty_induct (fun i mem s sealed => sealed.extend (le i mem s) (constant i mem s))
    (fun i _ _ v sealed => sealed.define id (name i) v) h

end

/-! ## §3. The laws. -/

/-- The conversions only add objects, the constant one only sealed ones; an undefined value is read as nothing; and
what is read from a constant value is read from it whatever scripts do. -/
structure Marshal.Lawful {α : Type} (m : Marshal α) : Prop where
  toScript_extends : ∀ a (s : Store), s.Extends (m.toScript a s).2
  toConst_extends : ∀ a (s : Store), s.Extends (m.toConst a s).2
  toConst_sealed : ∀ a (s : Store), (m.toConst a s).2.SealedFrom s.objects.length
  undefined : ∀ s a, m.ofScript s .undefined ≠ .ok a
  steady : ∀ a n s t v b, Made (m.toConst a) n s v → s.Follows Object.Ages n t →
    m.ofScript s v = .ok b → m.ofScript t v = .ok b

/-- What was made of `a`, in either form, is read back as `b`. -/
structure Marshal.Restores {α : Type} (m : Marshal α) (a b : α) : Prop where
  toScript : ∀ n s v, Made (m.toScript a) n s v → m.ofScript s v = .ok b
  toConst : ∀ n s v, Made (m.toConst a) n s v → m.ofScript s v = .ok b

/-- A conversion that touches no store makes its value once and for all. -/
theorem Made.eq_of_pure {n : Nat} {s : Store} {v w : Value} (made : Made (pure w) n s v) : v = w := by
  obtain ⟨_, _, value, _⟩ := made
  exact value.symm

/-- There is nothing to seal behind the last object. -/
theorem sealedFrom_length (s : Store) : s.SealedFrom s.objects.length := by
  intro id o from_n found
  have := Store.index_lt_of_object? found
  omega

section

variable {α : Type} {m : Marshal α} {write : α → Value}

/-- Conversions that touch no store, in whichever form and direction, obey the laws. -/
theorem lawful_of_pure (toScript : ∀ a, m.toScript a = pure (write a)) (toConst : ∀ a, m.toConst a = pure (write a))
    (undefined : ∀ s a, m.ofScript s .undefined ≠ .ok a)
    (same : ∀ s t a b, m.ofScript s (write a) = .ok b → m.ofScript t (write a) = .ok b) : m.Lawful where
  toScript_extends := by
    intro a s
    rw [toScript]
    exact .refl s
  toConst_extends := by
    intro a s
    rw [toConst]
    exact .refl s
  toConst_sealed := by
    intro a s
    rw [toConst]
    exact sealedFrom_length s
  undefined := undefined
  steady := by
    intro a n s t v b made _ read
    rw [toConst] at made
    rw [made.eq_of_pure] at read ⊢
    exact same s t a b read

/-- What they make is read back as it is read anywhere. -/
theorem restores_of_pure (toScript : ∀ a, m.toScript a = pure (write a)) (toConst : ∀ a, m.toConst a = pure (write a))
    {a b : α} (read : ∀ s, m.ofScript s (write a) = .ok b) : m.Restores a b where
  toScript := by
    intro n s v made
    rw [toScript] at made
    rw [made.eq_of_pure, read s]
  toConst := by
    intro n s v made
    rw [toConst] at made
    rw [made.eq_of_pure, read s]

end

section

variable {α : Type} (f : α → Double) (g : Double → α)

/-- Conversions of numbers make no objects. -/
theorem lawful_ofNumber : (Marshal.ofNumber f g).Lawful :=
  lawful_of_pure (fun _ => rfl) (fun _ => rfl) (fun _ _ h => nomatch h) (fun _ _ _ _ read => read)

/-- A number comes back as what two conversions make of it. -/
theorem restores_ofNumber (a : α) : (Marshal.ofNumber f g).Restores a (g (f a)) :=
  restores_of_pure (fun _ => rfl) (fun _ => rfl) (fun _ => rfl)

end

theorem lawful_bool : (marshalOf .bool).Lawful :=
  lawful_of_pure (fun _ => rfl) (fun _ => rfl) (fun _ _ h => nomatch h) (fun _ _ _ _ read => read)

theorem lawful_string : (marshalOf .string).Lawful :=
  lawful_of_pure (fun _ => rfl) (fun _ => rfl) (fun _ _ h => nomatch h) (fun _ _ _ _ read => read)

theorem restores_string (a : String) : (marshalOf .string).Restores a a :=
  restores_of_pure (fun _ => rfl) (fun _ => rfl) (fun _ => rfl)

end ScriptBridge.Script
