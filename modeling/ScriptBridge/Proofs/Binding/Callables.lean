import ScriptBridge.Binding.Callables
import ScriptBridge.Proofs.FirstOccurrence

/-!
# ScriptBridge.Proofs.Binding.Callables

Which functions get a wrapper, and which function a name is bound to.

`FirstExposed` says in terms of the members alone which functions are kept: those that are exposed, unless an earlier
exposed one has their signature.  The verdicts are passed in one walk that remembers the signatures kept so far; the
invariant of the walk is that these are the signatures of all exposed functions behind it.

The callables are grouped in a second walk, which keeps the index of the set of each name.  Its invariant is that the
sets are those of the names behind it, in the order of their first appearance, and that each name has the index of its
set.

Main results:
  * `judge_step`, `judge_at` — the verdict on a function, and how the walk comes to it;
  * `mem_callables_iff` — the callables are exactly the first exposed functions;
  * `callables_sorted` — they come in the order of their declaration, each once;
  * `repeated_reported` — an exposed function that is left out is reported;
  * `Grouping.Represents.add`, `overloadSets_eq` — a step of the grouping, and the sets that it makes;
  * `membersOf_setOf`, `bindingName_eq` — the set of a name holds its callables, in order, and its methods are all
    bound to one function.
-/

namespace ScriptBridge.Binding

open ScriptBridge.Symbol

/-! ## §1. First exposed functions. -/

/-- The function at the place `i` is exposed, and no exposed function before it has its signature. -/
structure FirstExposed (members : List Declaration) (i : Nat) (d : Declaration) : Prop where
  here : members[i]? = some d
  exposed : d.isExposedFunction = true
  first : ∀ j e, j < i → members[j]? = some e → e.isExposedFunction = true → e.signature ≠ d.signature

/-- The callable that a kept function makes. -/
def callableAt (className : String) (i : Nat) (d : Declaration) : Callable :=
  ⟨i, d, wrapperName className d, d.isConstructorOf className⟩

/-- The signatures seen are those of the exposed functions among the members already judged. -/
def Recalls (seen : List (String × List String × Bool)) (judged : List Declaration) : Prop :=
  ∀ signature, signature ∈ seen ↔ ∃ e ∈ judged, e.isExposedFunction = true ∧ e.signature = signature

/-- Only functions are exposed as functions. -/
theorem isFunction_of_exposed {d : Declaration} (h : d.isExposedFunction = true) : d.isFunction = true := by
  simp only [Declaration.isExposedFunction, Bool.and_eq_true] at h
  exact h.1.1.1

section

variable {className : String} {seen : List (String × List String × Bool)} {judged rest : List Declaration}
  {d : Declaration}

/-- A member that is not exposed adds no signature. -/
theorem Recalls.skip (h : Recalls seen judged) (hidden : d.isExposedFunction = false) : Recalls seen (judged ++ [d]) := by
  intro signature
  rw [h signature]
  simp [or_and_right, exists_or, hidden]

/-- A signature that was seen before adds nothing. -/
theorem Recalls.repeated (h : Recalls seen judged) (known : d.signature ∈ seen) : Recalls seen (judged ++ [d]) := by
  intro signature
  rw [h signature]
  constructor
  · rintro ⟨e, mem, same⟩
    exact ⟨e, by simp [mem], same⟩
  · rintro ⟨e, mem, exposed, same⟩
    rcases List.mem_append.1 mem with mem | mem
    · exact ⟨e, mem, exposed, same⟩
    · obtain rfl := List.mem_singleton.1 mem
      subst same
      exact (h e.signature).1 known

/-- A new exposed function adds its signature. -/
theorem Recalls.keep (h : Recalls seen judged) (exposed : d.isExposedFunction = true) :
    Recalls (d.signature :: seen) (judged ++ [d]) := by
  intro signature
  rw [List.mem_cons, h signature]
  constructor
  · rintro (rfl | ⟨e, mem, same⟩)
    · exact ⟨d, by simp, exposed, rfl⟩
    · exact ⟨e, by simp [mem], same⟩
  · rintro ⟨e, mem, exposed, same⟩
    rcases List.mem_append.1 mem with mem | mem
    · exact .inr ⟨e, mem, exposed, same⟩
    · obtain rfl := List.mem_singleton.1 mem
      exact .inl same.symm

/-- An exposed function is the first of its signature if that has not been seen. -/
theorem Recalls.first_iff (h : Recalls seen judged) :
    FirstExposed (judged ++ d :: rest) judged.length d ↔ d.isExposedFunction = true ∧ d.signature ∉ seen := by
  constructor
  · rintro ⟨-, exposed, first⟩
    refine ⟨exposed, fun known => ?_⟩
    obtain ⟨e, mem, shown, same⟩ := (h _).1 known
    obtain ⟨j, bound, rfl⟩ := List.getElem_of_mem mem
    exact first j _ bound (by rw [List.getElem?_append_left bound, List.getElem?_eq_getElem bound]) shown same
  · rintro ⟨exposed, fresh⟩
    refine ⟨by simp, exposed, fun j e before at_ shown same => fresh ?_⟩
    rw [List.getElem?_append_left before] at at_
    exact (h _).2 ⟨e, List.mem_of_getElem? at_, shown, same⟩

end

/-! ## §2. The walk. -/

/-- What the verdict on the function at the place `i` has to be. -/
inductive Judged (className : String) (members : List Declaration) (i : Nat) (d : Declaration) : Verdict → Prop where
  | kept (first : FirstExposed members i d) : Judged className members i d (.kept (callableAt className i d))
  | unexposed (hidden : d.isExposedFunction = false) : Judged className members i d (.unexposed d d.rejection?)
  | repeated (exposed : d.isExposedFunction = true) (again : ¬ FirstExposed members i d) :
      Judged className members i d (.repeated d)

/-- A function is judged to be repeated exactly if it is exposed and not the first of its signature. -/
theorem Judged.eq_repeated_iff {className : String} {members : List Declaration} {i : Nat} {d : Declaration}
    {v : Verdict} (h : Judged className members i d v) :
    v = .repeated d ↔ d.isExposedFunction = true ∧ ¬ FirstExposed members i d := by
  cases h with
  | kept first =>
    constructor
    · intro same
      cases same
    · intro again
      exact absurd first again.2
  | unexposed hidden =>
    constructor
    · intro same
      cases same
    · intro again
      rw [hidden] at again
      cases again.1
  | repeated exposed again => exact iff_of_true rfl ⟨exposed, again⟩

/-- **One step of the walk.**  A member that is no function is passed over, a function gets its verdict, and the walk
goes on with what it recalls. -/
theorem judge_step (className : String) {seen : List (String × List String × Bool)} {judged : List Declaration}
    (recalls : Recalls seen judged) (d : Declaration) (rest : List Declaration) :
    ∃ seen', Recalls seen' (judged ++ [d]) ∧
      (d.isFunction = false ∧
          judge className seen judged.length (d :: rest) = judge className seen' (judged ++ [d]).length rest ∨
        d.isFunction = true ∧ ∃ v, Judged className (judged ++ d :: rest) judged.length d v ∧
          judge className seen judged.length (d :: rest) = v :: judge className seen' (judged ++ [d]).length rest) := by
  have first : FirstExposed (judged ++ d :: rest) judged.length d ↔ d.isExposedFunction = true ∧ d.signature ∉ seen :=
    recalls.first_iff
  rw [List.length_append, List.length_singleton, judge]
  cases function : d.isFunction with
  | false =>
    have hidden : d.isExposedFunction = false := by
      rw [Bool.eq_false_iff]
      intro exposed
      rw [isFunction_of_exposed exposed] at function
      cases function
    exact ⟨seen, recalls.skip hidden, .inl ⟨rfl, rfl⟩⟩
  | true =>
    cases exposed : d.isExposedFunction with
    | false => exact ⟨seen, recalls.skip exposed, .inr ⟨rfl, _, .unexposed exposed, rfl⟩⟩
    | true =>
      -- among the exposed functions what was seen decides
      by_cases known : d.signature ∈ seen
      · have again : ¬ FirstExposed (judged ++ d :: rest) judged.length d := by
          intro fresh
          exact (first.1 fresh).2 known
        refine ⟨seen, recalls.repeated known, .inr ⟨rfl, _, .repeated exposed again, ?_⟩⟩
        rw [if_neg (by simp), if_neg (by simp), if_pos (by simpa using known)]
      · refine ⟨_, recalls.keep exposed, .inr ⟨rfl, _, .kept (first.2 ⟨exposed, known⟩), ?_⟩⟩
        rw [if_neg (by simp), if_neg (by simp), if_neg (by simpa using known)]
        rfl

/-- **The whole walk.**  The verdicts come in the order of the functions, so that on the function at the place `i`
stands behind as many others as there are functions before it. -/
theorem judge_at (className : String) (rest : List Declaration) :
    ∀ (seen : List (String × List String × Bool)) (judged : List Declaration), Recalls seen judged →
      ∀ (i : Nat) (d : Declaration), rest[i]? = some d → d.isFunction = true →
        ∃ v, (judge className seen judged.length rest)[(rest.take i).countP (·.isFunction)]? = some v ∧
          Judged className (judged ++ rest) (judged.length + i) d v := by
  -- induction on the members that are left; what is recalled of those behind is the invariant
  induction rest with
  | nil =>
    intro seen judged _ i d here
    cases here
  | cons e rest ih =>
    intro seen judged recalls i d here function
    obtain ⟨seen', recalls', step⟩ := judge_step className recalls e rest
    cases i with
    | zero =>
      obtain rfl : e = d := Option.some.inj here
      rcases step with ⟨other, -⟩ | ⟨-, v, verdict, walk⟩
      · rw [function] at other
        cases other
      · rw [walk]
        exact ⟨v, rfl, verdict⟩
    | succ i =>
      obtain ⟨v, there, verdict⟩ := ih seen' (judged ++ [e]) recalls' i d here function
      rw [List.append_assoc, List.length_append, List.length_singleton, Nat.add_right_comm, Nat.add_assoc] at verdict
      refine ⟨v, ?_, verdict⟩
      rw [List.take_succ_cons, List.countP_cons]
      rcases step with ⟨other, walk⟩ | ⟨isFunction, first, -, walk⟩
      · rw [walk, other]
        exact there
      · rw [walk, isFunction]
        exact there

/-- Every verdict is the one on some function. -/
theorem mem_judge (className : String) (rest : List Declaration) :
    ∀ (seen : List (String × List String × Bool)) (judged : List Declaration), Recalls seen judged →
      ∀ v ∈ judge className seen judged.length rest, ∃ i d, Judged className (judged ++ rest) i d v := by
  induction rest with
  | nil =>
    intro seen judged _ v mem
    cases mem
  | cons e rest ih =>
    intro seen judged recalls v mem
    obtain ⟨seen', recalls', step⟩ := judge_step className recalls e rest
    have later := ih seen' (judged ++ [e]) recalls' v
    rw [List.append_assoc] at later
    rcases step with ⟨-, walk⟩ | ⟨-, first, verdict, walk⟩
    · rw [walk] at mem
      exact later mem
    · rw [walk] at mem
      rcases List.mem_cons.1 mem with rfl | mem
      · exact ⟨judged.length, e, verdict⟩
      · exact later mem

/-- The verdict on the function at the place `i`. -/
def verdictAt? (s : Scope) (i : Nat) : Option Verdict :=
  (verdicts s)[(s.members.take i).countP (·.isFunction)]?

/-- There is a verdict on every function of a scope, and it is the right one. -/
theorem exists_verdictAt {s : Scope} {i : Nat} {d : Declaration} (here : s.members[i]? = some d)
    (function : d.isFunction = true) : ∃ v, verdictAt? s i = some v ∧ Judged s.owner.name s.members i d v := by
  obtain ⟨v, there, verdict⟩ :=
    judge_at s.owner.name s.members [] [] (fun signature => by simp) i d here function
  rw [List.length_nil, Nat.zero_add] at verdict
  exact ⟨v, there, verdict⟩

/-- **The callables of a scope** are made of the exposed functions whose signature comes for the first time. -/
theorem mem_callables_iff (s : Scope) (c : Callable) :
    c ∈ (Callables.ofScope s).callables ↔
      ∃ i d, FirstExposed s.members i d ∧ c = callableAt s.owner.name i d := by
  constructor
  · intro mem
    obtain ⟨v, known, kept⟩ := List.mem_filterMap.1 mem
    obtain ⟨i, d, verdict⟩ := mem_judge s.owner.name s.members [] [] (fun signature => by simp) v known
    cases verdict with
    | kept first => exact ⟨i, d, first, (Option.some.inj kept).symm⟩
    | unexposed | repeated => cases kept
  · intro h
    obtain ⟨i, d, first, rfl⟩ := h
    obtain ⟨v, there, verdict⟩ := exists_verdictAt first.here (isFunction_of_exposed first.exposed)
    cases verdict with
    | kept => exact List.mem_filterMap.2 ⟨_, List.mem_of_getElem? there, rfl⟩
    | unexposed hidden =>
      rw [first.exposed] at hidden
      cases hidden
    | repeated _ again => exact absurd first again

/-- The places of what the walk keeps go up from where it starts. -/
theorem judge_sorted (className : String) (rest : List Declaration) :
    ∀ (seen : List (String × List String × Bool)) (position : Nat),
      ((judge className seen position rest).filterMap (·.callable?)).Pairwise (fun a b => a.position < b.position) ∧
      ∀ c ∈ (judge className seen position rest).filterMap (·.callable?), position ≤ c.position := by
  -- the two go together: that places go up needs that those of the rest lie behind the first
  induction rest with
  | nil =>
    intro seen position
    exact ⟨.nil, fun c mem => by cases mem⟩
  | cons d rest ih =>
    intro seen position
    have later : ∀ seen', ((judge className seen' (position + 1) rest).filterMap (·.callable?)).Pairwise
          (fun a b => a.position < b.position) ∧
        ∀ c ∈ (judge className seen' (position + 1) rest).filterMap (·.callable?), position ≤ c.position :=
      fun seen' => ⟨(ih seen' _).1, fun c mem => Nat.le_of_succ_le ((ih seen' _).2 c mem)⟩
    unfold judge
    split
    · exact later seen
    split
    · exact later seen
    split
    · exact later seen
    · simp only [List.filterMap_cons, Verdict.callable?, List.pairwise_cons, List.forall_mem_cons]
      exact ⟨⟨fun c mem => (ih _ _).2 c mem, (ih _ _).1⟩, Nat.le_refl _, (later _).2⟩

/-- Callables come in the order of their declarations. -/
theorem callables_sorted (s : Scope) :
    (Callables.ofScope s).callables.Pairwise (fun a b => a.position < b.position) :=
  (judge_sorted s.owner.name s.members [] 0).1

/-- An exposed function that is left out is reported. -/
theorem repeated_reported {s : Scope} {i : Nat} {d : Declaration} (here : s.members[i]? = some d)
    (exposed : d.isExposedFunction = true) (other : ¬ FirstExposed s.members i d) :
    (⟨.warn, .overloads, s.owner.name ++ ": " ++ d.text ++
      " has the same script signature as an earlier overload; skipped"⟩ : Log.Entry) ∈ callableReports s := by
  obtain ⟨v, there, verdict⟩ := exists_verdictAt here (isFunction_of_exposed exposed)
  obtain rfl := verdict.eq_repeated_iff.2 ⟨exposed, other⟩
  exact List.mem_append_left _ (List.mem_filterMap.2 ⟨.repeated d, List.mem_of_getElem? there, rfl⟩)

/-! ## §3. Overload sets. -/

/-- The places of the callables with the given name. -/
def placesOf (name : String) (callables : List Callable) : List Nat :=
  (List.range callables.length).filter
    (fun i => (callables[i]?.map (·.declaration.name)) == some name)

/-- The overload set of a name. -/
def setOf (className : String) (callables : List Callable) (name : String) : OverloadSet :=
  ⟨name, name == constructorName className, placesOf name callables⟩

/-- The names of the callables, in the order of their first appearance. -/
def firstNames (callables : List Callable) : List String :=
  (callables.map (·.declaration.name)).eraseDups

/-- The names of the callables are those that some callable has. -/
theorem mem_firstNames {name : String} {callables : List Callable} :
    name ∈ firstNames callables ↔ ∃ c ∈ callables, c.declaration.name = name := by
  rw [firstNames, List.mem_eraseDups, List.mem_map]

/-- The names that have a set: those of the callables, and always that of the constructors. -/
def setNames (className : String) (callables : List Callable) : List String :=
  let names := (callables.map (·.declaration.name)).eraseDups
  if names.contains (constructorName className) then names else names ++ [constructorName className]

theorem setNames_eq (className : String) (callables : List Callable) : setNames className callables =
    if (firstNames callables).contains (constructorName className) then firstNames callables
    else firstNames callables ++ [constructorName className] := rfl

/-- The names with a set are those of the callables and that of the constructors. -/
theorem mem_setNames {className name : String} {callables : List Callable} :
    name ∈ setNames className callables ↔
      (∃ c ∈ callables, c.declaration.name = name) ∨ name = constructorName className := by
  rw [setNames_eq]
  split
  next known =>
    rw [mem_firstNames]
    refine ⟨.inl, ?_⟩
    rintro (here | rfl)
    · exact here
    · exact mem_firstNames.1 (List.contains_iff_mem.1 known)
  next => rw [List.mem_append, mem_firstNames, List.mem_singleton]

/-- No name has two sets. -/
theorem nodup_setNames (className : String) (callables : List Callable) : (setNames className callables).Nodup := by
  have names : (firstNames callables).Nodup := nodup_eraseDups _
  rw [setNames_eq]
  split
  · exact names
  next absent =>
    refine List.nodup_append.2 ⟨names, by simp, ?_⟩
    rintro name mem other last rfl
    rw [List.mem_singleton.1 last, ← List.contains_iff_mem] at mem
    exact absent mem

/-! ## §4. The walk over the callables. -/

section

variable {className name : String} {done : List Callable} {c : Callable} {g : Grouping}

/-- What stands in a list with one more name at its end. -/
theorem getElem?_snoc_iff {names : List String} {new : String} {index : Nat} :
    (names ++ [new])[index]? = some name ↔ names[index]? = some name ∨ (index = names.length ∧ new = name) := by
  rw [List.getElem?_append]
  split
  next bound => simp [Nat.ne_of_lt bound]
  next outside =>
    have last : index - names.length = 0 ↔ index = names.length := by omega
    rw [List.getElem?_eq_none (Nat.le_of_not_lt outside), List.getElem?_singleton]
    simp [last]

/-- A callable whose name is known adds no name. -/
theorem firstNames_snoc_known (known : c.declaration.name ∈ firstNames done) :
    firstNames (done ++ [c]) = firstNames done := by
  rw [firstNames, List.map_append]
  exact eraseDups_concat_of_mem (List.mem_eraseDups.1 known)

/-- A callable with a new name adds it at the end. -/
theorem firstNames_snoc_new (new : c.declaration.name ∉ firstNames done) :
    firstNames (done ++ [c]) = firstNames done ++ [c.declaration.name] := by
  rw [firstNames, List.map_append]
  exact eraseDups_concat_of_not_mem (fun mem => new (List.mem_eraseDups.2 mem))

/-- One more callable stands at the last place. -/
theorem placesOf_snoc (name : String) (done : List Callable) (c : Callable) :
    placesOf name (done ++ [c]) = placesOf name done ++ (if c.declaration.name = name then [done.length] else []) := by
  unfold placesOf
  rw [List.length_append, List.length_singleton, List.range_succ, List.filter_append]
  congr 1
  · refine List.filter_congr (fun i mem => ?_)
    rw [List.getElem?_append_left (List.mem_range.1 mem)]
  · rw [List.filter_cons, List.getElem?_concat_length]
    simp

/-- A name that no callable has stands nowhere. -/
theorem placesOf_eq_nil (absent : name ∉ firstNames done) : placesOf name done = [] := by
  refine List.filter_eq_nil_iff.2 (fun i mem here => absent ?_)
  have bound : i < done.length := List.mem_range.1 mem
  rw [List.getElem?_eq_getElem bound] at here
  exact mem_firstNames.2 ⟨_, List.getElem_mem bound, by simpa using here⟩

/-- The set of a name takes in a callable of the name, and no other. -/
theorem setOf_snoc (className name : String) (done : List Callable) (c : Callable) :
    setOf className (done ++ [c]) name =
      if c.declaration.name = name then
        { setOf className done name with members := (setOf className done name).members ++ [done.length] }
      else setOf className done name := by
  rw [setOf, placesOf_snoc]
  split
  · rfl
  · rw [List.append_nil]
    rfl

/-- The grouping has the sets of these names with the given callables as members, and finds each by its name. -/
structure Grouping.Represents (g : Grouping) (className : String) (names : List String) (callables : List Callable) :
    Prop where
  sets : g.sets = names.map (setOf className callables)
  indices : ∀ name index, g.indices.lookup name = some index ↔ names[index]? = some name

namespace Grouping.Represents

/-- Entering a callable makes the set of its name, if there is none, and finds it. -/
theorem enter (h : g.Represents className (firstNames done) done)
    (flag : c.isConstructor = (c.declaration.name == constructorName className)) :
    (g.enter c).1.Represents className (firstNames (done ++ [c])) done ∧
      (firstNames (done ++ [c]))[(g.enter c).2]? = some c.declaration.name := by
  unfold Grouping.enter
  simp only
  cases found : g.indices.lookup c.declaration.name with
  | some index =>
    have here := (h.indices _ _).1 found
    rw [firstNames_snoc_known (List.mem_of_getElem? here)]
    exact ⟨h, here⟩
  -- the name is new, so no callable of the walk has it and its set begins empty
  | none =>
    have new : c.declaration.name ∉ firstNames done := by
      intro mem
      obtain ⟨index, here⟩ := List.mem_iff_getElem?.1 mem
      rw [(h.indices _ _).2 here] at found
      cases found
    have length : g.sets.length = (firstNames done).length := by rw [h.sets, List.length_map]
    rw [firstNames_snoc_new new, length]
    refine ⟨⟨?_, fun name index => ?_⟩, List.getElem?_concat_length⟩
    · rw [h.sets, List.map_append, List.map_singleton, setOf, placesOf_eq_nil new, flag]
    · rw [getElem?_snoc_iff, ← h.indices, List.lookup_cons]
      by_cases same : name = c.declaration.name
      · subst same
        simp [found, eq_comm]
      · rw [beq_false_of_ne same]
        simp [Ne.symm same]

/-- One step of the walk: the callable goes into the set of its name. -/
theorem add (h : g.Represents className (firstNames done) done)
    (flag : c.isConstructor = (c.declaration.name == constructorName className)) :
    (g.add done.length c).Represents className (firstNames (done ++ [c])) (done ++ [c]) := by
  obtain ⟨entered, here⟩ := h.enter flag
  refine ⟨List.ext_getElem? (fun k => ?_), entered.indices⟩
  have stepped : (g.add done.length c).sets = (g.enter c).1.sets.modify (g.enter c).2
      (fun set => { set with members := set.members ++ [done.length] }) := rfl
  rw [stepped, entered.sets, List.getElem?_modify, List.getElem?_map, List.getElem?_map]
  cases there : (firstNames (done ++ [c]))[k]? with
  | none => rfl
  | some name =>
    -- the index that was found is the only one with the callable's name
    have only : (g.enter c).2 = k ↔ c.declaration.name = name := by
      constructor
      · rintro rfl
        exact Option.some.inj (here.symm.trans there)
      · rintro rfl
        exact Option.some.inj (((entered.indices _ _).2 here).symm.trans ((entered.indices _ _).2 there))
    rw [Option.map_some, Option.map_some, setOf_snoc]
    simp only [only]
    rfl

/-- The whole walk. -/
theorem addAll (h : g.Represents className (firstNames done) done) (rest : List Callable)
    (flags : ∀ c ∈ rest, c.isConstructor = (c.declaration.name == constructorName className)) :
    (g.addAll done.length rest).Represents className (firstNames (done ++ rest)) (done ++ rest) := by
  induction rest generalizing g done with
  | nil =>
    rw [List.append_nil]
    exact h
  | cons c rest ih =>
    obtain ⟨flag, flags⟩ := List.forall_mem_cons.1 flags
    have later := ih (h.add flag) flags
    rw [List.append_assoc, List.length_append] at later
    exact later

end Grouping.Represents

/-- **The walk makes the set of each name, and that of the constructors.** -/
theorem overloadSets_eq {callables : List Callable}
    (flags : ∀ c ∈ callables, c.isConstructor = (c.declaration.name == constructorName className)) :
    overloadSets className callables = (setNames className callables).map (setOf className callables) := by
  have start : Grouping.Represents ⟨[], []⟩ className (firstNames []) [] := ⟨rfl, fun _ _ => by simp [firstNames]⟩
  have walked : (Grouping.addAll ⟨[], []⟩ 0 callables).sets = (firstNames callables).map (setOf className callables) :=
    (start.addAll callables flags).sets
  have known : ((firstNames callables).map (setOf className callables)).any (·.isConstructor) =
      (firstNames callables).contains (constructorName className) := by
    rw [List.any_map, List.contains_eq_any_beq]
    exact List.any_congr rfl (fun name => Bool.beq_comm)
  unfold overloadSets
  simp only
  rw [walked, known, setNames_eq]
  split
  next => rfl
  next absent =>
    -- no callable is a constructor, so the set that is made for them is empty
    have none : placesOf (constructorName className) callables = [] :=
      placesOf_eq_nil (fun mem => absent (List.contains_iff_mem.2 mem))
    rw [List.map_append, List.map_singleton, setOf, none, beq_self_eq_true]

end

/-! ## §5. The sets of a class. -/

/-- The places of a name are those of its callables, in order. -/
theorem filterMap_placesOf (name : String) (callables : List Callable) :
    (placesOf name callables).filterMap (callables[·]?) = callables.filter (·.declaration.name == name) := by
  unfold placesOf
  induction callables with
  | nil => rfl
  | cons c callables ih =>
    -- in the whole list the places of the rest are one higher
    have later : ((List.range callables.length).filter
        ((fun i => ((c :: callables)[i]?.map (·.declaration.name)) == some name) ∘ Nat.succ)).filterMap
          ((fun i => (c :: callables)[i]?) ∘ Nat.succ) = callables.filter (·.declaration.name == name) := by
      rw [← ih]
      rfl
    rw [List.length_cons, List.range_succ_eq_map, List.filter_cons, List.filter_cons, List.filter_map]
    have first : (((c :: callables)[0]?.map (·.declaration.name)) == some name) = (c.declaration.name == name) := rfl
    rw [first]
    split
    · rw [List.filterMap_cons, List.filterMap_map, later]
      rfl
    · rw [List.filterMap_map, later]

/-- There are as many places of a name as callables that have it. -/
theorem length_placesOf (name : String) (callables : List Callable) :
    (placesOf name callables).length = (callables.filter (·.declaration.name == name)).length := by
  rw [← filterMap_placesOf]
  refine (List.filterMap_length_eq_length.2 (fun i mem => ?_)).symm
  have bound : i < callables.length := List.mem_range.1 (List.mem_filter.1 mem).1
  simp [bound]

section

variable {s : Scope} {name : String}

/-- The constructors are the callables with the name of a constructor. -/
theorem isConstructor_callables (s : Scope) : ∀ c ∈ (Callables.ofScope s).callables,
    c.isConstructor = (c.declaration.name == constructorName s.owner.name) := by
  intro c mem
  obtain ⟨i, d, first, rfl⟩ := (mem_callables_iff s c).1 mem
  have function : d.isFunction = true := isFunction_of_exposed first.exposed
  simp [callableAt, Declaration.isConstructorOf, function]

/-- **The sets of a scope**: one for each name, with the callables that have it. -/
theorem sets_ofScope (s : Scope) : (Callables.ofScope s).sets =
    (setNames s.owner.name (Callables.ofScope s).callables).map
      (setOf s.owner.name (Callables.ofScope s).callables) :=
  overloadSets_eq (isConstructor_callables s)

/-- The set of a name is found by the name. -/
theorem setNamed?_eq (known : name ∈ setNames s.owner.name (Callables.ofScope s).callables) :
    (Callables.ofScope s).setNamed? name = some (setOf s.owner.name (Callables.ofScope s).callables name) := by
  unfold Callables.setNamed?
  rw [sets_ofScope, List.find?_map]
  have found : (setNames s.owner.name (Callables.ofScope s).callables).find? (· == name) = some name := by
    cases here : (setNames s.owner.name (Callables.ofScope s).callables).find? (· == name) with
    | none => exact absurd (List.find?_eq_none.1 here name known) (by simp)
    | some other =>
      have same : (other == name) = true := List.find?_some (p := (· == name)) here
      rw [beq_iff_eq.1 same]
  exact congrArg (Option.map _) found

/-- The names that are reached through a selector. -/
def selectedNames (s : Scope) : List String :=
  (setNames s.owner.name (Callables.ofScope s).callables).filter
    (fun name => (setOf s.owner.name (Callables.ofScope s).callables name).needsSelector)

/-- No name has two selectors. -/
theorem nodup_selectedNames (s : Scope) : (selectedNames s).Nodup :=
  (nodup_setNames _ _).filter _

/-- The sets that need a selector are those of these names. -/
theorem selectedSets (s : Scope) : (Callables.ofScope s).sets.filter (·.needsSelector) =
    (selectedNames s).map (setOf s.owner.name (Callables.ofScope s).callables) := by
  rw [sets_ofScope, List.filter_map]
  rfl

/-- The members of the set of a name are the callables of that name, in order. -/
theorem membersOf_setOf (s : Scope) (name : String) :
    (Callables.ofScope s).membersOf (setOf s.owner.name (Callables.ofScope s).callables name) =
      (Callables.ofScope s).callables.filter (·.declaration.name == name) :=
  filterMap_placesOf _ _

/-- The callables that share the name of a callable, itself included. -/
def Callables.named (callables : Callables) (name : String) : List Callable :=
  callables.callables.filter (·.declaration.name == name)

/-- A name has a selector if several callables share it, or if it is that of the constructors. -/
theorem mem_selectedNames {s : Scope} {name : String} : name ∈ selectedNames s ↔
    2 ≤ ((Callables.ofScope s).named name).length ∨ name = constructorName s.owner.name := by
  have needs : (setOf s.owner.name (Callables.ofScope s).callables name).needsSelector = true ↔
      2 ≤ ((Callables.ofScope s).named name).length ∨ name = constructorName s.owner.name := by
    simp [OverloadSet.needsSelector, setOf, length_placesOf, or_comm, Callables.named]
  unfold selectedNames
  rw [List.mem_filter, needs, mem_setNames]
  refine ⟨fun h => h.2, fun h => ⟨?_, h⟩⟩
  rcases h with several | rfl
  · obtain ⟨c, mem⟩ := List.exists_mem_of_length_pos (Nat.lt_of_lt_of_le Nat.zero_lt_two several)
    obtain ⟨known, same⟩ := List.mem_filter.1 mem
    exact .inl ⟨c, known, by simpa using same⟩
  · exact .inr rfl

/-- The function that the methods of a name are reached through: the selector, unless there is only one method; then
it is the wrapper of that one. -/
def Callables.reached (callables : Callables) (className name : String) : String :=
  match callables.named name with
  | [c] => c.wrapper
  | _ => selectorName className name

/-- All methods of a name are bound to the function that the name is reached through. -/
theorem bindingName_eq {c : Callable} (mem : c ∈ (Callables.ofScope s).callables) (method : c.isConstructor = false) :
    (Callables.ofScope s).bindingName s.owner.name c =
      (Callables.ofScope s).reached s.owner.name c.declaration.name := by
  have known : c.declaration.name ∈ setNames s.owner.name (Callables.ofScope s).callables :=
    mem_setNames.2 (.inl ⟨c, mem, rfl⟩)
  have plain : (c.declaration.name == constructorName s.owner.name) = false := by
    rw [← isConstructor_callables s c mem, method]
  have self : c ∈ (Callables.ofScope s).named c.declaration.name := List.mem_filter.2 ⟨mem, by simp⟩
  unfold Callables.bindingName Callables.reached
  rw [setNamed?_eq known]
  simp only [OverloadSet.needsSelector, setOf, plain, Bool.false_or, length_placesOf, decide_eq_true_eq]
  unfold Callables.named at self ⊢
  -- a name of one callable is bound to its wrapper, and one of several to their selector
  cases list : (Callables.ofScope s).callables.filter (·.declaration.name == c.declaration.name) with
  | nil =>
    rw [list] at self
    cases self
  | cons first others =>
    cases others with
    | nil =>
      rw [list] at self
      rw [List.mem_singleton.1 self]
      rfl
    | cons => simp

end

end ScriptBridge.Binding
