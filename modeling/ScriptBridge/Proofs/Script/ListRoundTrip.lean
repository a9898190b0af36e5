import ScriptBridge.Proofs.Script.RoundTrip

/-!
# ScriptBridge.Proofs.Script.ListRoundTrip

Lists come back element by element, whatever their elements are.

All that is asked of the elements is that each of them comes back (`Marshal.ReturnsFrom`), and that converting one does
nothing to the objects that were made since (`Marshal.SparesFrom`): to the list object, which nothing else refers to
yet, and to what the elements before became.  Objects that are older, those with numbers below `n`, may change.  Lists
of such elements are such elements in turn, so lists of lists come back as well.

Main results:
  * `sparesFrom_list`, `returnsFrom_list` - lists are what their elements are asked to be;
  * `lists_come_back` - what is made of a list passes for one and is read as that list, and if it is constant then all
    of its properties are fixed.
-/

namespace ScriptBridge.Script

open ScriptBridge.Native ScriptBridge.Numeric

-- powers are those of the core library, whatever else is imported
attribute [local instance (high)] instPowNat

/-! ## §1. What is asked of elements. -/

namespace Marshal

variable {α : Type}

/-- The conversion to the constant form, or to the mutable one. -/
def form (m : Marshal α) (constant : Bool) (a : α) : StoreM Value :=
  if constant then m.toConst a else m.toScript a

/-- Converting a value, to either form, does nothing to the objects with numbers from `n` on that are there. -/
def SparesFrom (m : Marshal α) (n : Nat) : Prop :=
  ∀ constant a (s : Store), s.Follows Eq n (m.form constant a s).2

/-- Whatever is made of the value, in either form and from number `n` on, is read as the value as long as nothing
happens to it. -/
def ReturnsFrom (m : Marshal α) (n : Nat) (a : α) : Prop :=
  ∀ constant s v, Made (m.form constant a) n s v → m.ofScript s v = .ok a

variable {m : Marshal α}

/-- Conversions that only add objects spare all of them. -/
theorem Lawful.sparesFrom (lawful : m.Lawful) (n : Nat) : m.SparesFrom n := by
  intro constant a s
  cases constant with
  | false => exact (lawful.toScript_extends a s).objects.from_le (Nat.zero_le n)
  | true => exact (lawful.toConst_extends a s).objects.from_le (Nat.zero_le n)

theorem Restores.returnsFrom {a : α} (restores : m.Restores a a) (n : Nat) : m.ReturnsFrom n a := by
  intro constant s v made
  cases constant with
  | false => exact restores.toScript n s v made
  | true => exact restores.toConst n s v made

end Marshal

/-! ## §2. Lists of lists. -/

section

variable {α : Type} [m : Marshal α] {n : Nat}

theorem form_list (constant : Bool) (elements : List α) : (inferInstance : Marshal (List α)).form constant elements =
    writeList (m.form constant) (elementFlags constant) elements := by
  cases constant <;> rfl

/-- **Converting a list spares what converting its elements does.** -/
theorem sparesFrom_list (spares : m.SparesFrom n) : (inferInstance : Marshal (List α)).SparesFrom n := by
  intro constant elements s
  rw [form_list]
  rcases Nat.lt_or_ge s.objects.length n with before | newer
  · -- there is nothing to spare
    intro id o from_n found
    have := Store.index_lt_of_object? found
    omega
  · exact (writeList_holds _ elements (spares constant) newer).1

/-- **A list comes back if its elements do**, and script numbers can count them. -/
theorem returnsFrom_list (spares : m.SparesFrom n) {elements : List α} (short : elements.length < 2 ^ (53 : Nat))
    (each : ∀ a ∈ elements, m.ReturnsFrom n a) : (inferInstance : Marshal (List α)).ReturnsFrom n elements := by
  intro constant s v made
  rw [form_list] at made
  obtain ⟨list, o, rfl, newer, holds⟩ := holdsList_of_made (spares constant) made
  refine readList_of_shows holds.toShowsList short (fun a mem v made => ?_)
  exact each a mem constant s v (made.from_le (by omega))

/-! ## §3. There and back. -/

/-- The value passes for a list, is read as the given list, and has the properties of a list and no others, which are
all fixed if it is to be constant. -/
structure ComesBack (constant : Bool) (elements : List α) (s : Store) (v : Value) : Prop where
  accepted : Marshal.accepts (List α) s v = true
  read : Marshal.ofScript s v = .ok elements
  properties : ∃ id o, v = .object id ∧ s.object? id = some o ∧
    ∀ name, ((o.property? name).isSome = true ↔ name = lengthName ∨ ∃ i < elements.length, name = indexName i) ∧
      (constant = true → ∀ p, o.property? name = some p → p.flags = .fixed)

theorem comesBack_of_made (spares : m.SparesFrom n) {elements : List α} (short : elements.length < 2 ^ (53 : Nat))
    (each : ∀ a ∈ elements, m.ReturnsFrom n a) {constant : Bool} {s : Store} {v : Value}
    (made : Made ((inferInstance : Marshal (List α)).form constant elements) n s v) :
    ComesBack constant elements s v := by
  have read := returnsFrom_list spares short each constant s v made
  rw [form_list] at made
  obtain ⟨list, o, rfl, -, holds⟩ := holdsList_of_made (spares constant) made
  refine ⟨?_, read, list, o, rfl, holds.object, fun name => ?_⟩
  · show looksLikeList s (.object list) = true
    rw [looksLikeList_eq]
    show (s.object? list).any _ = true
    rw [holds.object, Option.any_some, holds.untyped, Object.own?, holds.length]
    rfl
  · obtain ⟨names, fixed⟩ := holds.properties name
    refine ⟨names, ?_⟩
    rintro rfl
    exact fixed rfl

/-- **Lists come back**, from any engine and in either form, for all elements that come back themselves.  And lists of
such elements are such elements in turn. -/
theorem lists_come_back (spares : m.SparesFrom n) : (inferInstance : Marshal (List α)).SparesFrom n ∧
    ∀ elements : List α, elements.length < 2 ^ (53 : Nat) → (∀ a ∈ elements, m.ReturnsFrom n a) →
      (inferInstance : Marshal (List α)).ReturnsFrom n elements ∧
        ∀ constant (e : Engine), n ≤ e.store.objects.length → ∀ later,
          (e.useStore ((inferInstance : Marshal (List α)).form constant elements)).1.store.Follows Eq
            e.store.objects.length later →
          ComesBack constant elements later
            (e.useStore ((inferInstance : Marshal (List α)).form constant elements)).2 := by
  refine ⟨sparesFrom_list spares, fun elements short each => ⟨returnsFrom_list spares short each, ?_⟩⟩
  intro constant e newer later kept
  exact comesBack_of_made spares short each ⟨e.store, newer, rfl, kept⟩

end

/-- A row with a vector, and an empty one. -/
def vectorRows : List (List Vector3) :=
  [[Vector3.zero], []]

/-- Rows of vectors come back from a new engine as they were, and nothing in their constant form can be changed. -/
theorem lists_come_back_rows :
    let made := (Engine.new true).useStore ((inferInstance : Marshal (List (List Vector3))).form true vectorRows)
    ComesBack true vectorRows made.1.store made.2 := by
  have spares : (inferInstance : Marshal Vector3).SparesFrom 0 :=
    (lawful_marshalOf (.object .vector3)).sparesFrom 0
  have rows : ∀ row ∈ vectorRows, (inferInstance : Marshal (List Vector3)).ReturnsFrom 0 row := by
    intro row mem
    have short : row.length ≤ 1 := by
      rcases List.mem_cons.1 mem with rfl | mem
      · decide
      · obtain rfl := List.mem_singleton.1 mem
        decide
    exact returnsFrom_list spares (by omega) (fun v _ => (restores_vector3 v).returnsFrom 0)
  have back := (lists_come_back (sparesFrom_list spares)).2 vectorRows (by decide) rows
  exact back.2 true (.new true) (Nat.zero_le _) _ (Store.Follows.refl (fun _ => rfl) _ _)

end ScriptBridge.Script
