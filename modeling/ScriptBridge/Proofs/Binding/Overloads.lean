import Mathlib.Data.List.Nodup
import ScriptBridge.Proofs.Binding.Callables

/-!
# ScriptBridge.Proofs.Binding.Overloads

The overload sets of a class are a partition of its callables.

The walk over the callables makes one set for each name, whose members are the places of the callables with that name.
So sets of different names have no member in common, every callable has a set, and the sets come in the order in which
their names first appear.  The set of the constructors is there in any case, as the last one if it has no members.

Main results:
  * `precedes_eraseDups` - of two names, the one that appears first is listed first;
  * `groups_overloadSets` - the sets are a partition of the callables;
  * `Callables.ofScope_groups` - the callables of a class are its first exposed functions, and its sets group them.
-/

namespace ScriptBridge.Binding

open ScriptBridge.Symbol

/-! ## §1. First appearances. -/

/-- In front of every `b` in the list there is an `a`. -/
def Precedes (names : List String) (a b : String) : Prop :=
  ∀ front back, names = front ++ b :: back → a ∈ front

/-- **What is left of a list without its repetitions comes in the order of the first appearances.** -/
theorem precedes_eraseDups : ∀ names : List String, names.eraseDups.Pairwise (Precedes names)
  | [] => .nil
  | name :: names => by
    rw [List.eraseDups_cons, List.pairwise_cons]
    constructor
    · -- nothing stands in front of the first name
      intro other mem front back split
      have differs : other ≠ name := by simpa using (List.mem_filter.1 (List.mem_eraseDups.1 mem)).2
      cases front with
      | nil => exact absurd (List.cons.inj split).1.symm differs
      | cons first front => simp [(List.cons.inj split).1]
    · have later := precedes_eraseDups (names.filter (fun other => !other == name))
      refine later.imp_of_mem (fun {a b} memA memB before front back split => ?_)
      have differs : b ≠ name := by simpa using (List.mem_filter.1 (List.mem_eraseDups.1 memB)).2
      cases front with
      | nil => exact absurd (List.cons.inj split).1.symm differs
      | cons first front =>
        have rest : names = front ++ b :: back := (List.cons.inj split).2
        have kept : a ∈ front.filter (fun other => !other == name) := by
          refine before _ (back.filter (fun other => !other == name)) ?_
          rw [rest, List.filter_append, List.filter_cons_of_pos (by simpa using differs)]
        exact List.mem_cons_of_mem _ (List.mem_of_mem_filter kept)
termination_by names => names.length
decreasing_by exact Nat.lt_succ_of_le (List.length_filter_le _ _)

/-! ## §2. Places. -/

section

variable {className name other : String} {callables : List Callable} {i j : Nat}

theorem mem_placesOf : i ∈ placesOf name callables ↔ ∃ c, callables[i]? = some c ∧ c.declaration.name = name := by
  unfold placesOf
  rw [List.mem_filter, List.mem_range]
  constructor
  · rintro ⟨bound, here⟩
    rw [List.getElem?_eq_getElem bound] at here ⊢
    exact ⟨_, rfl, by simpa using here⟩
  · rintro ⟨c, here, rfl⟩
    obtain ⟨bound, -⟩ := List.getElem?_eq_some_iff.1 here
    exact ⟨bound, by simp [here]⟩

theorem sorted_placesOf (name : String) (callables : List Callable) : (placesOf name callables).Pairwise (· < ·) :=
  List.pairwise_lt_range.filter _

/-- A place belongs to one name. -/
theorem placesOf_inj (here : i ∈ placesOf name callables) (there : i ∈ placesOf other callables) : name = other := by
  obtain ⟨c, at_, rfl⟩ := mem_placesOf.1 here
  obtain ⟨d, at', rfl⟩ := mem_placesOf.1 there
  rw [at_] at at'
  rw [Option.some.inj at']

/-- A name that precedes another one has a place in front of each place of that. -/
theorem exists_place_before (before : Precedes (callables.map (·.declaration.name)) name other)
    (there : j ∈ placesOf other callables) : ∃ i ∈ placesOf name callables, i < j := by
  obtain ⟨c, here, rfl⟩ := mem_placesOf.1 there
  obtain ⟨bound, same⟩ := List.getElem?_eq_some_iff.1 here
  have split : callables = callables.take j ++ c :: callables.drop (j + 1) := by
    rw [← same, List.getElem_cons_drop, List.take_append_drop]
  -- the name is that of a callable in front of the place `j`
  have mem : name ∈ (callables.take j).map (·.declaration.name) := by
    refine before _ ((callables.drop (j + 1)).map (·.declaration.name)) ?_
    conv_lhs => rw [split]
    rw [List.map_append, List.map_cons]
  obtain ⟨d, taken, known⟩ := List.mem_map.1 mem
  obtain ⟨i, low, rfl⟩ := List.mem_take_iff_getElem.1 taken
  have inside : i < callables.length := by omega
  exact ⟨i, mem_placesOf.2 ⟨_, List.getElem?_eq_getElem inside, known⟩, by omega⟩

/-- The names of the sets come in the order of their first appearance. -/
theorem precedes_setNames (className : String) (callables : List Callable) :
    (setNames className callables).Pairwise
      (fun a b => ∀ j ∈ placesOf b callables, ∃ i ∈ placesOf a callables, i < j) := by
  have names : (firstNames callables).Pairwise
      (fun a b => ∀ j ∈ placesOf b callables, ∃ i ∈ placesOf a callables, i < j) :=
    (precedes_eraseDups _).imp (fun before j there => exists_place_before before there)
  rw [setNames_eq]
  split
  next => exact names
  next absent =>
    -- the constructors have no place, so nothing has to be in front of one
    refine List.pairwise_append.2 ⟨names, List.pairwise_singleton _ _, ?_⟩
    intro a _ b last j there
    obtain ⟨c, here, known⟩ := mem_placesOf.1 there
    rw [List.mem_singleton.1 last] at known
    exact absurd (List.contains_iff_mem.2 (mem_firstNames.2 ⟨c, List.mem_of_getElem? here, known⟩)) absent

end

/-! ## §3. The partition. -/

/-- The sets group the callables by name. -/
structure Groups (className : String) (callables : List Callable) (sets : List OverloadSet) : Prop where
  /-- No two sets have one name. -/
  distinct : (sets.map (·.name)).Nodup
  /-- Sets come in the order of their first members; a set without members is behind all others. -/
  ordered : sets.Pairwise (fun a b => ∀ j ∈ b.members, ∃ i ∈ a.members, i < j)
  /-- Members come in the order of the callables. -/
  increasing : ∀ set ∈ sets, set.members.Pairwise (· < ·)
  /-- Every place is a member once. -/
  complete : (sets.flatMap (·.members)).Perm (List.range callables.length)
  /-- Members have the name of their set. -/
  named : ∀ set ∈ sets, ∀ i ∈ set.members, ∃ c, callables[i]? = some c ∧ c.declaration.name = set.name
  /-- One set is that of the constructors. -/
  constructors : ∃ set, sets.filter (·.isConstructor) = [set] ∧ set.name = constructorName className
  /-- No other set is empty. -/
  inhabited : ∀ set ∈ sets, set.isConstructor = false → set.members ≠ []

theorem perm_flatMap_placesOf (className : String) (callables : List Callable) :
    ((setNames className callables).flatMap (fun name => placesOf name callables)).Perm
      (List.range callables.length) := by
  -- neither side has repetitions, so it is enough that they have the same elements
  have nodup : ((setNames className callables).flatMap (fun name => placesOf name callables)).Nodup := by
    refine List.nodup_flatMap.2 ⟨fun name _ => (sorted_placesOf name callables).imp Nat.ne_of_lt, ?_⟩
    exact (nodup_setNames className callables).imp (fun {a b} differ i here there => differ (placesOf_inj here there))
  refine (List.perm_ext_iff_of_nodup nodup List.nodup_range).2 (fun i => ?_)
  rw [List.mem_flatMap, List.mem_range]
  constructor
  · rintro ⟨name, -, here⟩
    obtain ⟨c, here, -⟩ := mem_placesOf.1 here
    exact (List.getElem?_eq_some_iff.1 here).1
  · intro bound
    exact ⟨callables[i].declaration.name, mem_setNames.2 (.inl ⟨_, List.getElem_mem bound, rfl⟩),
      mem_placesOf.2 ⟨_, List.getElem?_eq_getElem bound, rfl⟩⟩

/-- **The overload sets are a partition of the callables.** -/
theorem groups_overloadSets {className : String} {callables : List Callable}
    (flags : ∀ c ∈ callables, c.isConstructor = (c.declaration.name == constructorName className)) :
    Groups className callables (overloadSets className callables) := by
  rw [overloadSets_eq flags]
  constructor
  case distinct =>
    have names : (List.map (setOf className callables) (setNames className callables)).map (·.name) =
        setNames className callables := by
      rw [List.map_map]
      exact List.map_id _
    rw [names]
    exact nodup_setNames className callables
  case ordered => exact List.pairwise_map.2 (precedes_setNames className callables)
  case increasing =>
    refine List.forall_mem_map.2 (fun name _ => ?_)
    exact sorted_placesOf name callables
  case complete =>
    rw [List.flatMap_map]
    exact perm_flatMap_placesOf className callables
  case named =>
    refine List.forall_mem_map.2 (fun name _ i here => ?_)
    exact mem_placesOf.1 here
  case constructors =>
    refine ⟨setOf className callables (constructorName className), ?_, rfl⟩
    have known : constructorName className ∈ setNames className callables := mem_setNames.2 (.inr rfl)
    -- names are different, so the constructors have one set
    have only : (setNames className callables).filter (· == constructorName className) =
        [constructorName className] := by
      rw [List.filter_beq, List.count_eq_one_of_mem (nodup_setNames className callables) known]
      rfl
    rw [List.filter_map]
    exact congrArg (List.map (setOf className callables)) only
  case inhabited =>
    refine List.forall_mem_map.2 (fun name known plain => ?_)
    obtain ⟨c, mem, same⟩ | same := mem_setNames.1 known
    · obtain ⟨i, here⟩ := List.mem_iff_getElem?.1 mem
      exact List.ne_nil_of_mem (mem_placesOf.2 ⟨c, here, same⟩)
    · exact absurd same (by simpa [setOf] using plain)

/-- **The callables of a class, and their sets.**  The callables are the exposed functions that do not have the
signature of an exposed function in front of them, in the order of their declaration, and the sets group them. -/
theorem Callables.ofScope_groups (s : Scope) :
    (∀ c, c ∈ (Callables.ofScope s).callables ↔ ∃ i d, FirstExposed s.members i d ∧ c = callableAt s.owner.name i d) ∧
      (Callables.ofScope s).callables.Pairwise (fun a b => a.position < b.position) ∧
      Groups s.owner.name (Callables.ofScope s).callables (Callables.ofScope s).sets :=
  ⟨mem_callables_iff s, callables_sorted s, groups_overloadSets (isConstructor_callables s)⟩

end ScriptBridge.Binding
