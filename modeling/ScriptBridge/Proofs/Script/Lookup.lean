import Mathlib.Data.List.Nodup
import Mathlib.Data.List.Perm.Subperm
import ScriptBridge.Proofs.Script.Frame

/-!
# ScriptBridge.Proofs.Script.Lookup

What a property is looked up as.

A property is looked up on an object, or else on its prototype, or else on the prototype of that, and so on
(`Store.LooksUp`).  The search makes no more steps than there are objects.  Wherever the chain of prototypes comes to
an end, these are enough: no object stands twice on a chain that ends, so there are at least as many objects as stand on
it.

Main results:
  * `Store.Chain.nodup` - no object stands twice on a chain that ends;
  * `Store.Chain.length_le` - so the number of objects bounds its length;
  * `Store.Chain.looksUp_iff` - where the chain ends, the search finds what is to be looked up.
-/

namespace ScriptBridge.Script

namespace Store

/-! ## §1. Prototype chains. -/

/-- The prototype chain from an object on, as far as there are objects on it. -/
inductive Chain (s : Store) : ObjectId → List ObjectId → Prop where
  | gone {id : ObjectId} (missing : s.object? id = none) : Chain s id []
  | last {id : ObjectId} {o : Object} (found : s.object? id = some o) (top : o.prototype = none) : Chain s id [id]
  | up {id above : ObjectId} {o : Object} {rest : List ObjectId} (found : s.object? id = some o)
      (prototype : o.prototype = some above) (chain : Chain s above rest) : Chain s id (id :: rest)

/-- All prototype chains come to an end. -/
def FiniteChains (s : Store) : Prop :=
  ∀ id, ∃ ids, s.Chain id ids

namespace Chain

variable {s : Store} {id : ObjectId} {ids : List ObjectId}

theorem unique (chain : s.Chain id ids) {ids' : List ObjectId} (chain' : s.Chain id ids') : ids = ids' := by
  induction chain generalizing ids' with
  | gone missing =>
    cases chain' with
    | gone => rfl
    | last found | up found => rw [missing] at found; cases found
  | last found top =>
    cases chain' with
    | gone missing => rw [missing] at found; cases found
    | last => rfl
    | up found' prototype =>
      obtain rfl := Option.some.inj (found.symm.trans found')
      rw [top] at prototype
      cases prototype
  | up found prototype _ ih =>
    cases chain' with
    | gone missing => rw [missing] at found; cases found
    | last found' top =>
      obtain rfl := Option.some.inj (found.symm.trans found')
      rw [top] at prototype
      cases prototype
    | up found' prototype' chain' =>
      obtain rfl := Option.some.inj (found.symm.trans found')
      obtain rfl := Option.some.inj (prototype.symm.trans prototype')
      rw [ih chain']

/-- What stands on a chain is there, and its own chain is a part of it. -/
theorem exists_of_mem (chain : s.Chain id ids) {x : ObjectId} (mem : x ∈ ids) :
    (s.object? x).isSome = true ∧ ∃ ids', s.Chain x ids' ∧ ids'.length ≤ ids.length := by
  induction chain with
  | gone => cases mem
  | last found top =>
    obtain rfl := List.mem_singleton.1 mem
    exact ⟨by rw [found]; rfl, _, .last found top, Nat.le_refl _⟩
  | up found prototype chain ih =>
    rcases List.mem_cons.1 mem with rfl | above
    · exact ⟨by rw [found]; rfl, _, .up found prototype chain, Nat.le_refl _⟩
    · obtain ⟨there, ids', chain', le⟩ := ih above
      exact ⟨there, ids', chain', Nat.le_succ_of_le le⟩

/-- **No object stands twice on a chain that ends.** -/
theorem nodup (chain : s.Chain id ids) : ids.Nodup := by
  induction chain with
  | gone => exact List.nodup_nil
  | last => exact List.nodup_singleton _
  | up found prototype chain ih =>
    refine List.nodup_cons.2 ⟨fun mem => ?_, ih⟩
    -- the object would have a second, shorter chain
    obtain ⟨-, ids', chain', le⟩ := chain.exists_of_mem mem
    obtain rfl := chain'.unique (.up found prototype chain)
    rw [List.length_cons] at le
    omega

/-- **The number of objects bounds the length of a chain.** -/
theorem length_le (chain : s.Chain id ids) : ids.length ≤ s.objects.length := by
  have distinct : (ids.map ObjectId.index).Nodup :=
    chain.nodup.map (fun a b same => congrArg ObjectId.mk same)
  have bounded : ids.map ObjectId.index ⊆ List.range s.objects.length := by
    intro index mem
    obtain ⟨x, mem', rfl⟩ := List.mem_map.1 mem
    exact List.mem_range.2 (object?_isSome_iff.1 (chain.exists_of_mem mem').1)
  have := (distinct.subperm bounded).length_le
  rwa [List.length_map, List.length_range] at this

end Chain

/-- Chains end if every prototype is older than the object that it is the prototype of. -/
theorem finiteChains_of_older {s : Store} (older : ∀ id o above, s.object? id = some o → o.prototype = some above →
    above.index < id.index) : s.FiniteChains := by
  have each : ∀ n (id : ObjectId), id.index < n → ∃ ids, s.Chain id ids := by
    intro n
    induction n with
    | zero => exact fun _ below => absurd below (Nat.not_lt_zero _)
    | succ n ih =>
      intro id below
      cases found : s.object? id with
      | none => exact ⟨[], .gone found⟩
      | some o =>
        cases prototype : o.prototype with
        | none => exact ⟨[id], .last found prototype⟩
        | some above =>
          have := older id o above found prototype
          obtain ⟨rest, chain⟩ := ih above (by omega)
          exact ⟨id :: rest, .up found prototype chain⟩
  exact fun id => each _ id (Nat.lt_succ_self _)

/-- Whether every prototype is older than the object that it is the prototype of. -/
def hasOlderPrototypes (s : Store) : Bool :=
  s.objects.zipIdx.all (fun (o, index) => o.prototype.all (·.index < index))

theorem finiteChains_of_check {s : Store} (check : s.hasOlderPrototypes = true) : s.FiniteChains := by
  apply finiteChains_of_older
  intro id o above found prototype
  have listed : (o, id.index) ∈ s.objects.zipIdx := List.mem_zipIdx_iff_getElem?.2 found
  have older := List.all_eq_true.1 check _ listed
  simpa only [prototype, Option.all_some, decide_eq_true_eq] using older

/-! ## §2. Looking up. -/

/-- What a name is looked up as on an object: its own property of the name, or else what the prototype has to offer.  If
there is nothing any more to look at, the answer is no value. -/
inductive LooksUp (s : Store) (name : String) : ObjectId → Value → Prop where
  | own {id : ObjectId} {o : Object} {v : Value} (found : s.object? id = some o) (own : o.own? name = some v) :
      LooksUp s name id v
  | up {id above : ObjectId} {o : Object} {v : Value} (found : s.object? id = some o) (absent : o.own? name = none)
      (prototype : o.prototype = some above) (looksUp : LooksUp s name above v) : LooksUp s name id v
  | top {id : ObjectId} {o : Object} (found : s.object? id = some o) (absent : o.own? name = none)
      (top : o.prototype = none) : LooksUp s name id .undefined
  | gone {id : ObjectId} (missing : s.object? id = none) : LooksUp s name id .undefined

section

variable {s : Store} {name : String} {id : ObjectId} {v w : Value}

/-- What the object that is looked at has to offer decides. -/
theorem LooksUp.of_found {o : Object} (looksUp : s.LooksUp name id v) (found : s.object? id = some o) :
    match o.own? name, o.prototype with
    | some value, _ => v = value
    | none, some above => s.LooksUp name above v
    | none, none => v = .undefined := by
  cases looksUp with
  | gone missing => rw [missing] at found; cases found
  | own found' own =>
    obtain rfl := Option.some.inj (found.symm.trans found')
    rw [own]
  | up found' absent prototype looksUp =>
    obtain rfl := Option.some.inj (found.symm.trans found')
    rw [absent, prototype]
    exact looksUp
  | top found' absent top =>
    obtain rfl := Option.some.inj (found.symm.trans found')
    rw [absent, top]

theorem LooksUp.unique (first : s.LooksUp name id v) (second : s.LooksUp name id w) : v = w := by
  induction first with
  | own found own =>
    have decided := second.of_found found
    rw [own] at decided
    exact decided.symm
  | up found absent prototype _ ih =>
    have decided := second.of_found found
    rw [absent, prototype] at decided
    exact ih decided
  | top found absent top =>
    have decided := second.of_found found
    rw [absent, top] at decided
    exact decided.symm
  | gone missing =>
    cases second with
    | own found | up found => rw [missing] at found; cases found
    | top | gone => rfl

/-- A search finds what is to be looked up if it makes as many steps as there are objects on the chain. -/
theorem Chain.looksUp_findAlong {ids : List ObjectId} (chain : s.Chain id ids) (name : String) {bound : Nat}
    (enough : ids.length ≤ bound) : s.LooksUp name id ((s.findAlong name bound (some id)).getD .undefined) := by
  induction chain generalizing bound with
  | gone missing =>
    cases bound with
    | zero => exact .gone missing
    | succ bound =>
      rw [findAlong, missing]
      exact .gone missing
  | @last id o found top =>
    obtain ⟨bound, rfl⟩ : ∃ k, bound = k + 1 := Nat.exists_eq_add_of_le' enough
    cases own : o.own? name with
    | some v =>
      simp only [findAlong, found, own, Option.getD_some]
      exact .own found own
    | none =>
      -- without a prototype the rest of the search finds nothing
      have nothing : s.findAlong name bound none = none := by cases bound <;> rfl
      simp only [findAlong, found, own, top, nothing, Option.getD_none]
      exact .top found own top
  | @up id above o rest found prototype chain ih =>
    obtain ⟨bound, rfl⟩ : ∃ k, bound = k + 1 := Nat.exists_eq_add_of_le' (Nat.le_trans (by simp) enough)
    cases own : o.own? name with
    | some v =>
      simp only [findAlong, found, own, Option.getD_some]
      exact .own found own
    | none =>
      simp only [findAlong, found, own, prototype]
      exact .up found own prototype (ih (Nat.le_of_succ_le_succ enough))

/-- **Where the chain ends, the search finds what is to be looked up.** -/
theorem Chain.looksUp_iff {ids : List ObjectId} (chain : s.Chain id ids) :
    s.LooksUp name id v ↔ s.property id name = v := by
  have search : s.LooksUp name id (s.property id name) := chain.looksUp_findAlong name chain.length_le
  constructor
  · exact search.unique
  · rintro rfl
    exact search

/-- So it does in every store whose chains all end. -/
theorem FiniteChains.looksUp_iff (finite : s.FiniteChains) : s.LooksUp name id v ↔ s.property id name = v := by
  obtain ⟨ids, chain⟩ := finite id
  exact chain.looksUp_iff

end

end Store

end ScriptBridge.Script
