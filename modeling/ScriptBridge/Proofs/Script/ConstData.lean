import ScriptBridge.Proofs.Script.ScriptRun

/-!
# ScriptBridge.Proofs.Script.ConstData

Scripts cannot change constant data.

A snapshot is safe because nothing in it is a mutable handle: everything made for it keeps its fixed properties, and
these are all that reading looks at.  The origin of a placement stands on a mutable handle, onto which methods write.
No method of another class has a field of that name, and the methods of placements write the origin that they read.

Main results:
  * `read_snapshot`, `always_snapshot` - snapshots can be read, and are read the same for ever;
  * `Touched.guards` - every step keeps the origin of a placement;
  * `const_data_stays` - both, for whatever scripts do.
-/

namespace ScriptBridge.Script

open ScriptBridge.Native

/-! ## §1. Snapshots. -/

/-- The objects with numbers from `n` on keep all the properties that they have on the first store, and all of these
are fixed. -/
def Store.Freezes (n : Nat) (s t : Store) : Prop :=
  ∀ id o name p, n ≤ id.index → s.object? id = some o → o.property? name = some p →
    p.flags = .fixed ∧ ∃ next, t.object? id = some next ∧ next.property? name = some p

/-- The value is an object with a fixed property for every field of the class. -/
def Store.DeclaresFixed (s : Store) (c : ClassName) (v : Value) : Prop :=
  ∃ id o, v = .object id ∧ s.object? id = some o ∧
    ∀ f ∈ (Layout.ofClass c).fields, ∃ w, o.property? f.name = some ⟨w, .fixed⟩

theorem Store.SealedFrom.freezes {n : Nat} {s t : Store} (sealed : s.SealedFrom n)
    (ages : s.Follows Object.Ages 0 t) : s.Freezes n t := by
  intro id o name p from_n found own
  obtain ⟨still, fixed⟩ := sealed id o from_n found
  obtain ⟨next, found', step⟩ := ages id o (Nat.zero_le _) found
  exact ⟨fixed name p own, next, found', step.fixed still name p own (fixed name p own)⟩

theorem toConst_declares {c : ClassName} (a : c.Instance) (s : Store) :
    ((Layout.ofClass c).toConst a s).2.DeclaresFixed c ((Layout.ofClass c).toConst a s).1 := by
  rw [Layout.toConst_eq_make]
  obtain ⟨-, o, shows, -⟩ := Layout.make_shows (Layout.lawful_ofClass c) .snapshot a s
  refine ⟨⟨s.objects.length⟩, o, ?_, shows.object, ?_⟩
  · rw [Layout.make_run]
  · intro f mem
    obtain ⟨v, own, -⟩ := shows.field f mem
    rw [Field.flags_snapshot] at own
    exact ⟨v, own⟩

/-- The declared properties of a frozen object stay declared. -/
theorem Store.DeclaresFixed.of_freezes {n : Nat} {s t : Store} {c : ClassName} {v : Value}
    (declares : s.DeclaresFixed c v) (freezes : s.Freezes n t) (ages : s.Follows Object.Ages 0 t)
    (behind : ∀ id, v = .object id → n ≤ id.index) : t.DeclaresFixed c v := by
  obtain ⟨id, o, handle, found, fields⟩ := declares
  obtain ⟨next, found', -⟩ := ages id o (Nat.zero_le _) found
  refine ⟨id, next, handle, found', ?_⟩
  intro f mem
  obtain ⟨w, own⟩ := fields f mem
  obtain ⟨-, next', found'', own'⟩ := freezes id o f.name _ (behind id handle) found own
  obtain rfl := Option.some.inj (found'.symm.trans found'')
  exact ⟨w, own'⟩

/-- A snapshot can be read, and what is read agrees with the instance. -/
theorem read_snapshot {e start : Engine} {c : ClassName} {a : c.Instance} {v : Value}
    (made : e.useStore (Convert.toScript (.value (.object c)) true a) = (start, v)) (countable : c.Countable a) :
    ∃ b, (marshalOf (.object c)).ofScript start.store v = .ok b ∧ c.Agree a b := by
  obtain ⟨rfl, rfl⟩ := Engine.useStore_eq made
  have restores := Layout.restores_regained countable
  exact ⟨_, restores.toConst _ _ _ (.self _ e.store), Layout.agree_regained c a _⟩

/-- **Snapshots are read the same for ever**, and keep their properties. -/
theorem always_snapshot {e start : Engine} {c : ClassName} {a : c.Instance} {v : Value}
    (made : e.useStore (Convert.toScript (.value (.object c)) true a) = (start, v)) :
    start.Always (fun after =>
      (∀ b, (marshalOf (.object c)).ofScript start.store v = .ok b →
        (marshalOf (.object c)).ofScript after.store v = .ok b) ∧
      start.store.Freezes e.store.objects.length after.store ∧ after.store.DeclaresFixed c v) := by
  have lawful := lawful_marshalOf (.object c)
  obtain ⟨rfl, rfl⟩ := Engine.useStore_eq made
  apply (always_ages _).mono
  intro after ages
  have frozen := (lawful.toConst_sealed a e.store).freezes ages
  refine ⟨?_, frozen, ?_⟩
  · intro b read
    exact lawful.steady a _ _ after.store _ b (.self _ e.store) (ages.from_le (Nat.zero_le _)) read
  · apply (toConst_declares a e.store).of_freezes frozen ages
    intro id handle
    rw [Layout.toConst_eq_make, Layout.make_run] at handle
    obtain rfl := Value.object.inj handle
    exact Nat.le_refl _

/-! ## §2. The origin of a placement. -/

/-- The object has an origin of its own that cannot be changed, and it is the given vector. -/
def Store.HasOrigin (s : Store) (id : ObjectId) (w : Vector3) : Prop :=
  ∃ v, s.property id "origin" = v ∧ (s.object? id).bind (·.property? "origin") = some ⟨v, .fixed⟩ ∧
    (marshalOf (.object .vector3)).ofScript s v = .ok w

/-- The same, and the origin is read as that vector whatever becomes of the store. -/
def Store.GuardsOrigin (s : Store) (id : ObjectId) (w : Vector3) : Prop :=
  ∃ o v, s.object? id = some o ∧ o.property? "origin" = some ⟨v, .fixed⟩ ∧
    ∀ t, s.Follows Object.Ages 0 t → (marshalOf (.object .vector3)).ofScript t v = .ok w

theorem Store.GuardsOrigin.hasOrigin {s : Store} {id : ObjectId} {w : Vector3} (h : s.GuardsOrigin id w) :
    s.HasOrigin id w := by
  obtain ⟨o, v, found, own, reads⟩ := h
  refine ⟨v, Store.property_own found own, ?_, reads s (.refl Object.Ages.refl 0 s)⟩
  rw [found, Option.bind_some, own]

/-- A handle that shows a placement guards its origin. -/
theorem guardsOrigin_of_shows {t : Transform} {n : Nat} {s : Store} {id : ObjectId} {o : Object}
    (shows : transformLayout.Shows .mutable t n s id o) : s.GuardsOrigin id t.origin := by
  have lawful := lawful_marshalOf (.object .vector3)
  obtain ⟨v, own, made⟩ := shows.field
    (.of "origin" true Transform.origin (fun t origin => { t with origin := origin })) (by simp [transformLayout])
  refine ⟨o, v, shows.object, own, ?_⟩
  intro u ages
  exact lawful.steady t.origin n s u v t.origin made (ages.from_le (Nat.zero_le n))
    ((restores_vector3 t.origin).toConst n s v made)

/-- A placement is read with the origin that stands on the handle. -/
theorem origin_of_read {s : Store} {id : ObjectId} {base t : Transform}
    (read : transformLayout.read s (.object id) base = .ok t) :
    (marshalOf (.object .vector3)).ofScript s (s.property id "origin") = .ok t.origin := by
  -- the fields are read in their order, the origin as the fourth
  have all := Layout.readAll_of_read read
  obtain ⟨position, -, all⟩ := Field.readAll_cons_eq_ok all
  obtain ⟨scale, -, all⟩ := Field.readAll_cons_eq_ok all
  obtain ⟨name, -, all⟩ := Field.readAll_cons_eq_ok all
  obtain ⟨origin, here, all⟩ := Field.readAll_cons_eq_ok all
  obtain ⟨tags, -, all⟩ := Field.readAll_cons_eq_ok all
  obtain rfl := (Prod.mk.inj all).1
  exact here

/-- No method of placements changes the origin. -/
theorem origin_of_change {m : Method .transform} {ref : FunctionRef} (offered : m.Offered ref)
    {next : Transform → Arguments m.parameters → Transform} (operation : m.operation = .change next) (t : Transform)
    (arguments : Arguments m.parameters) : (next t arguments).origin = t.origin := by
  cases offered with
  | constructor mem =>
    obtain rfl := List.mem_singleton.1 mem
    exact nomatch operation
  | method found mem =>
    obtain rfl := List.mem_singleton.1 (List.mem_of_find?_eq_some found)
    obtain rfl := List.mem_singleton.1 mem
    obtain rfl := Operation.change.inj operation
    rfl

/-- Among the bound classes only placements have an origin. -/
theorem origin_not_field {c : ClassName} (other : c ≠ .transform) :
    "origin" ∉ (Layout.ofClass c).fields.map (·.name) := by
  cases c with
  | transform => exact absurd rfl other
  | vector3 => decide
  | entity => decide
  | payload => decide
  | marker => decide

/-- What leaves the fixed properties of the handle alone keeps its origin. -/
theorem Store.GuardsOrigin.of_retains {s t : Store} {id : ObjectId} {w : Vector3} (h : s.GuardsOrigin id w)
    (retains : s.Follows Object.Retains 0 t) (ages : s.Follows Object.Ages 0 t) : t.GuardsOrigin id w := by
  obtain ⟨o, v, found, own, reads⟩ := h
  obtain ⟨next, found', step⟩ := retains id o (Nat.zero_le _) found
  exact ⟨next, v, found', step "origin" _ own rfl, fun u later => reads u (ages.trans Object.Ages.trans later)⟩

theorem Store.Extends.retains {s t : Store} (h : s.Extends t) : s.Follows Object.Retains 0 t :=
  h.objects.of_unchanged Object.Retains.refl (Nat.le_refl 0)

/-- **Every step keeps the origin.** -/
theorem Touched.guards {s t : Store} {id : ObjectId} {w : Vector3} (touched : Touched s t)
    (h : s.GuardsOrigin id w) : t.GuardsOrigin id w := by
  have ages := touched.ages
  cases touched with
  | refused => exact h
  | put done => exact h.of_retains (Store.retains_put done) ages
  | delete done => exact h.of_retains (Store.retains_delete done) ages
  | extended adds => exact h.of_retains adds.retains ages
  | @wrote t c m ref next receiver arguments handle o prepared offered operation read found mutable =>
    obtain ⟨altered, o', shows, others⟩ := Layout.place_shows (Layout.lawful_ofClass c) .mutable
      (next receiver arguments) found (Object.isMutable_iff.1 mutable)
    have before : t.GuardsOrigin id w := h.of_retains prepared.retains prepared.objects.ages
    obtain ⟨p, v, at_id, own, reads⟩ := before
    have later : t.Follows Object.Ages 0 ((Layout.ofClass c).place .mutable (next receiver arguments) handle t).2 :=
      altered.ages (fun q found' => Option.some.inj (found.symm.trans found') ▸ mutable)
    by_cases same : id = handle
    · subst same
      obtain rfl := Option.some.inj (at_id.symm.trans found)
      by_cases placement : c = .transform
      · -- the handle is written anew, with the origin that was read from it
        subst placement
        have was : receiver.origin = w := by
          have here := origin_of_read read
          rw [Store.property_own found own, reads t (.refl Object.Ages.refl 0 t)] at here
          exact (Except.ok.inj here).symm
        rw [← was, ← origin_of_change offered operation receiver arguments]
        exact guardsOrigin_of_shows shows
      · -- a class without a field of that name does not write there
        refine ⟨o', v, shows.object, ?_, fun u after => reads u (later.trans Object.Ages.trans after)⟩
        rw [others "origin" (origin_not_field placement), own]
    · -- another object is written onto, which is a mutable handle
      exact ⟨p, v, altered.others id p same at_id, own, fun u after => reads u (later.trans Object.Ages.trans after)⟩

/-- Whatever scripts do, the origin stays. -/
theorem always_origin {e : Engine} {id : ObjectId} {w : Vector3} (h : e.store.GuardsOrigin id w) :
    e.Always (fun after => after.store.HasOrigin id w) :=
  (always_of_step (fun _ _ touched guards => touched.guards guards) h).mono (fun _ guards => guards.hasOrigin)

/-- A new handle for a placement guards its origin. -/
theorem guardsOrigin_toScript (t : Transform) (s : Store) :
    (transformLayout.toScript t s).1 = .object ⟨s.objects.length⟩ ∧
      (transformLayout.toScript t s).2.GuardsOrigin ⟨s.objects.length⟩ t.origin := by
  rw [Layout.toScript_eq_make]
  obtain ⟨-, o, shows, -⟩ := Layout.make_shows lawful_transform .mutable t s
  refine ⟨?_, guardsOrigin_of_shows shows⟩
  rw [Layout.make_run]

/-- The handle for a placement is the next object. -/
theorem value_toScript_transform (t : Transform) (s : Store) :
    (Convert.toScript (.value (.object .transform)) false t s).1 = .object ⟨s.objects.length⟩ :=
  (guardsOrigin_toScript t s).1

/-- A call of the constructor of placements answers with a handle that guards its origin. -/
theorem guardsOrigin_construct {r : Request} {depth : Nat} {e start : Engine} {v : Value}
    (function : e.store.functionOf? (r.invocation e.store).function = some (.constructor .transform))
    (run : Engine.run bindings depth e r.body = some (start, .ok v)) :
    ∃ id, v = .object id ∧ start.store.GuardsOrigin id Transform.fresh.origin := by
  cases depth with
  | zero =>
    rw [Request.run_body] at run
    exact nomatch run
  | succ depth =>
    obtain ⟨after, result, run', outcome⟩ := r.run_outcome depth e
    obtain ⟨rfl, rfl⟩ := Prod.mk.inj (Option.some.inj (run'.symm.trans run))
    obtain ⟨s, prepared, extended, -⟩ := r.prepare_extends e
    generalize answered : Except.ok v = answer at outcome
    cases outcome with
    | failed => exact nomatch answered
    | @effected c m ref effect called offered evaluated =>
      -- preparing the call has not changed which function is called
      have same : ref = .constructor .transform := by
        rw [prepared, extended.functionOf? function] at called
        exact (Option.some.inj called).symm
      subst same
      cases offered with
      | constructor mem =>
        obtain rfl := List.mem_singleton.1 mem
        obtain rfl := Except.ok.inj evaluated
        obtain rfl := Except.ok.inj answered
        exact ⟨_, (guardsOrigin_toScript Transform.fresh _).1, (guardsOrigin_toScript Transform.fresh _).2⟩

/-! ## §3. Constant data. -/

/-- **Scripts cannot change constant data.**  Snapshots can be read.  Whatever scripts do, they are read as they were
read at first, and everything that was made for them keeps its properties; and the origin of a placement, whether its
handle was converted from a native one or constructed by a script, is read as it was at first from a property that
stays fixed. -/
theorem const_data_stays (e start : Engine) (v : Value) :
    (∀ (c : ClassName) (a : c.Instance), e.useStore (Convert.toScript (.value (.object c)) true a) = (start, v) →
      (c.Countable a → ∃ b, (marshalOf (.object c)).ofScript start.store v = .ok b ∧ c.Agree a b) ∧
      start.Always (fun after =>
        (∀ b, (marshalOf (.object c)).ofScript start.store v = .ok b →
          (marshalOf (.object c)).ofScript after.store v = .ok b) ∧
        start.store.Freezes e.store.objects.length after.store ∧ after.store.DeclaresFixed c v)) ∧
    (∀ t : Transform, e.useStore (Convert.toScript (.value (.object .transform)) false t) = (start, v) →
      ∃ id, v = .object id ∧ start.Always (fun after => after.store.HasOrigin id t.origin)) ∧
    (∀ (r : Request) (depth : Nat),
      e.store.functionOf? (r.invocation e.store).function = some (.constructor .transform) →
      Engine.run bindings depth e r.body = some (start, .ok v) →
      ∃ id, v = .object id ∧ start.Always (fun after => after.store.HasOrigin id Transform.fresh.origin)) := by
  refine ⟨fun c a made => ⟨read_snapshot made, always_snapshot made⟩, ?_, ?_⟩
  · intro t made
    obtain ⟨rfl, rfl⟩ := Engine.useStore_eq made
    obtain ⟨handle, guards⟩ := guardsOrigin_toScript t e.store
    exact ⟨_, handle, always_origin guards⟩
  · intro r depth function run
    obtain ⟨id, handle, guards⟩ := guardsOrigin_construct function run
    exact ⟨id, handle, always_origin guards⟩

/-- The construction of a placement, as scripts ask for it. -/
def Request.newTransform : Request :=
  .construct (Engine.bound.store.property Engine.bound.store.global "Transform") []

/-- A placement that is not where new ones are. -/
def lamp : Transform :=
  { Transform.fresh with position := vectorOf 1 0 0, name := "lamp", origin := vectorOf 1 2 2 }

/-- A script that tries to replace and to delete the origin of a placement, and then moves it by its own position. -/
def moving (s : Store) (id : ObjectId) : List ScriptStep :=
  [.put id "origin" (.bool true), .delete id "origin",
    .request (.invokeMethod (.object id) "Translate" [s.property id "position"])]

/-- The position is what the script changes. -/
theorem moving_lamp :
    (performAll 1 (Engine.bound.useStore (Convert.toScript (.value (.object .transform)) false lamp)).1
      (moving (Engine.bound.useStore (Convert.toScript (.value (.object .transform)) false lamp)).1.store
        ⟨Engine.bound.store.objects.length⟩)).all (fun after =>
      decide ((marshalOf (.object .transform)).ofScript after.store (.object ⟨Engine.bound.store.objects.length⟩) =
        .ok { lamp with position := vectorOf 2 0 0 })) = true := by
  decide +kernel

/-- A snapshot of a vector, the handle of a native placement, which moves but keeps its origin, and a placement that a
script constructs. -/
theorem const_data_stays_placement :
    (∃ start v w, Engine.bound.useStore (Convert.toScript (.value (.object .vector3)) true (vectorOf 1 2 2)) =
      (start, v) ∧ (marshalOf (.object .vector3)).ofScript start.store v = .ok w ∧
      ClassName.Agree .vector3 (vectorOf 1 2 2) w ∧
      start.Always (fun after =>
        (∀ b, (marshalOf (.object .vector3)).ofScript start.store v = .ok b →
          (marshalOf (.object .vector3)).ofScript after.store v = .ok b) ∧
        start.store.Freezes Engine.bound.store.objects.length after.store ∧ after.store.DeclaresFixed .vector3 v)) ∧
    (∃ start id after, Engine.bound.useStore (Convert.toScript (.value (.object .transform)) false lamp) =
      (start, .object id) ∧ start.Always (fun after => after.store.HasOrigin id (vectorOf 1 2 2)) ∧
      performAll 1 start (moving start.store id) = some after ∧ after.store.HasOrigin id (vectorOf 1 2 2) ∧
      (marshalOf (.object .transform)).ofScript after.store (.object id) =
        .ok { lamp with position := vectorOf 2 0 0 }) ∧
    (∃ start id, Engine.run bindings 1 Engine.bound Request.newTransform.body = some (start, .ok (.object id)) ∧
      start.Always (fun after => after.store.HasOrigin id Transform.fresh.origin)) := by
  refine ⟨?_, ?_, ?_⟩
  · cases made : Engine.bound.useStore (Convert.toScript (.value (.object .vector3)) true (vectorOf 1 2 2)) with
    | mk start v =>
      obtain ⟨reads, stays⟩ := (const_data_stays Engine.bound start v).1 .vector3 (vectorOf 1 2 2) made
      obtain ⟨w, read, agree⟩ := reads trivial
      exact ⟨start, v, w, rfl, read, agree, stays⟩
  · have moves := moving_lamp
    cases made : Engine.bound.useStore (Convert.toScript (.value (.object .transform)) false lamp) with
    | mk start v =>
      obtain ⟨id, rfl, stays⟩ := (const_data_stays Engine.bound start v).2.1 lamp made
      obtain rfl : id = ⟨Engine.bound.store.objects.length⟩ := by
        exact Value.object.inj ((Engine.useStore_eq made).2.trans (value_toScript_transform lamp Engine.bound.store))
      obtain ⟨after, performed, origin⟩ := stays 0 (moving start.store ⟨Engine.bound.store.objects.length⟩)
      rw [made, performed] at moves
      exact ⟨start, _, after, rfl, stays, performed, origin, of_decide_eq_true moves⟩
  -- the placement that a script constructs
  · have constructor : Engine.bound.store.functionOf?
        (Request.newTransform.invocation Engine.bound.store).function = some (.constructor .transform) := by
      decide +kernel
    have succeeds : (Engine.run bindings 1 Engine.bound Request.newTransform.body).any
        (fun r => r.2.toOption.isSome) = true := by decide +kernel
    obtain ⟨⟨start, result⟩, run, answered⟩ := (Option.any_eq_true _ _).1 succeeds
    cases result with
    | error error => exact nomatch answered
    | ok v =>
      obtain ⟨id, rfl, stays⟩ := (const_data_stays Engine.bound start v).2.2 Request.newTransform 1 constructor run
      exact ⟨start, id, run, stays⟩

end ScriptBridge.Script
