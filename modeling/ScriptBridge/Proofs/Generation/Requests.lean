import ScriptBridge.Generation.Plan

/-!
# ScriptBridge.Proofs.Generation.Requests

What the decisions on a request list are.

The driver remembers the names it has seen and the modules that are taken.  Read without repetitions, a request list
has one decision for each name, and it depends on that name and the names before it only: a class is generated unless
a class before it has the same module.

Main results:
  * `Records.step` - what is remembered after one more name;
  * `settles_decisions` - every name has the decision that it deserves, in order;
  * `Settles.modules` - no two generated classes have the same module.
-/

namespace ScriptBridge.Generation

open ScriptBridge.Symbol

/-! ## §1. What a name deserves. -/

/-- The name stands for a class or struct. -/
def NamesClass (r : Registry) (name : String) (s : Symbol) : Prop :=
  r.find? name = some s ∧ s.declaration.kind.isClassLike = true

/-- One of the names stands for a class with this module. -/
def Taken (r : Registry) (names : List String) (module : String) : Prop :=
  ∃ name ∈ names, ∃ s, NamesClass r name s ∧ moduleOf s = module

/-- The decision is the one that a name deserves, given the names before it. -/
structure Answers (r : Registry) (earlier : List String) (name : String) (d : Decision) : Prop where
  unknown : d = .skip ⟨name, .unknownSymbol name⟩ ↔ r.find? name = none
  notAClass : ∀ kind, d = .skip ⟨name, .notAClass name kind⟩ ↔
    ∃ s, r.find? name = some s ∧ s.declaration.kind = kind ∧ kind.isClassLike = false
  collision : ∀ module, d = .skip ⟨name, .moduleCollision module⟩ ↔
    ∃ s, NamesClass r name s ∧ moduleOf s = module ∧ Taken r earlier module
  generated : ∀ s, d = .generate s ↔ NamesClass r name s ∧ ¬ Taken r earlier (moduleOf s)

/-- Each name has the decision that it deserves, in order. -/
inductive Settles (r : Registry) : List String → List String → List Decision → Prop where
  | nil {earlier : List String} : Settles r earlier [] []
  | cons {earlier : List String} {name : String} {names : List String} {d : Decision} {ds : List Decision}
      (first : Answers r earlier name d) (others : Settles r (earlier ++ [name]) names ds) :
      Settles r earlier (name :: names) (d :: ds)

namespace Decision

/-- Whether the decision settles a name.  A repetition does not: its name has a decision already. -/
def settles : Decision → Bool
  | .repeated _ => false
  | _ => true

/-- The class that is to be generated. -/
def class? : Decision → Option Symbol
  | .generate s => some s
  | _ => none

/-- The request that is skipped. -/
def skipped? : Decision → Option Skipped
  | .skip request => some request
  | _ => none

end Decision

section

variable {r : Registry} {earlier : List String} {name : String} {s : Symbol}

/-- A name stands for one class at most. -/
theorem NamesClass.exists_iff {P : Symbol → Prop} (h : NamesClass r name s) :
    (∃ t, NamesClass r name t ∧ P t) ↔ P s := by
  constructor
  · rintro ⟨t, same, here⟩
    obtain rfl := Option.some.inj (same.1.symm.trans h.1)
    exact here
  · exact fun here => ⟨s, h, here⟩

/-- What is no class has no module to take. -/
theorem not_namesClass (found : r.find? name = some s) (other : s.declaration.kind.isClassLike = false) (t : Symbol) :
    ¬ NamesClass r name t := by
  rintro ⟨same, classLike⟩
  obtain rfl := Option.some.inj (same.symm.trans found)
  rw [other] at classLike
  cases classLike

theorem taken_snoc_iff {module : String} : Taken r (earlier ++ [name]) module ↔
    Taken r earlier module ∨ ∃ s, NamesClass r name s ∧ moduleOf s = module := by
  unfold Taken
  constructor
  · rintro ⟨other, mem, found⟩
    rcases List.mem_append.1 mem with before | last
    · exact .inl ⟨other, before, found⟩
    · obtain rfl := List.mem_singleton.1 last
      exact .inr found
  · rintro (⟨other, before, found⟩ | found)
    · exact ⟨other, List.mem_append_left _ before, found⟩
    · exact ⟨name, List.mem_append_right _ (List.mem_singleton.2 rfl), found⟩

/-! ## §2. The four decisions. -/

theorem answers_unknown (missing : r.find? name = none) :
    Answers r earlier name (.skip ⟨name, .unknownSymbol name⟩) where
  unknown := iff_of_true rfl missing
  notAClass kind := by simp [missing]
  collision module := by simp [NamesClass, missing]
  generated s := by simp [NamesClass, missing]

theorem answers_notAClass (found : r.find? name = some s) (other : s.declaration.kind.isClassLike = false) :
    Answers r earlier name (.skip ⟨name, .notAClass name s.declaration.kind⟩) where
  unknown := by simp [found]
  notAClass kind := by
    simp only [Decision.skip.injEq, Skipped.mk.injEq, SkipReason.notAClass.injEq, true_and, found, Option.some.injEq,
      exists_eq_left']
    exact ⟨fun same => ⟨same, same ▸ other⟩, fun same => same.1⟩
  collision module := by simp [not_namesClass found other]
  generated t := by simp [not_namesClass found other]

/-- A class is not something else. -/
theorem NamesClass.not_other (h : NamesClass r name s) (kind : Kind) :
    ¬ ∃ t, r.find? name = some t ∧ t.declaration.kind = kind ∧ kind.isClassLike = false := by
  rintro ⟨t, found, rfl, other⟩
  exact not_namesClass found other s h

theorem answers_collision (named : NamesClass r name s) (taken : Taken r earlier (moduleOf s)) :
    Answers r earlier name (.skip ⟨name, .moduleCollision (moduleOf s)⟩) where
  unknown := by simp [named.1]
  notAClass kind := iff_of_false (by rintro ⟨⟩) (named.not_other kind)
  collision module := by
    rw [named.exists_iff]
    constructor
    · intro same
      cases same
      exact ⟨rfl, taken⟩
    · rintro ⟨rfl, -⟩
      rfl
  generated t := by
    refine iff_of_false (by rintro ⟨⟩) ?_
    intro both
    exact (named.exists_iff (P := fun t => ¬ Taken r earlier (moduleOf t))).1 ⟨t, both⟩ taken

theorem answers_generate (named : NamesClass r name s) (free : ¬ Taken r earlier (moduleOf s)) :
    Answers r earlier name (.generate s) where
  unknown := by simp [named.1]
  notAClass kind := iff_of_false (by rintro ⟨⟩) (named.not_other kind)
  collision module := by
    rw [named.exists_iff]
    refine iff_of_false (by rintro ⟨⟩) ?_
    rintro ⟨rfl, taken⟩
    exact free taken
  generated t := by
    constructor
    · intro same
      cases same
      exact ⟨named, free⟩
    · rintro ⟨⟨found, -⟩, -⟩
      rw [Option.some.inj (found.symm.trans named.1)]

/-! ## §3. The walk along the requests. -/

/-- What the driver remembers of the names before: the names, and the modules of the classes among them. -/
structure Records (r : Registry) (earlier seen modules : List String) : Prop where
  seen : ∀ name, seen.contains name = true ↔ name ∈ earlier
  modules : ∀ module, modules.contains module = true ↔ Taken r earlier module

theorem Records.start : Records r [] [] [] where
  seen name := by simp
  modules module := by simp [Taken]

/-- One more name is remembered, and the module of its class, if it stands for one. -/
theorem Records.step {seen modules next : List String} (h : Records r earlier seen modules)
    (modules' : ∀ module, next.contains module = true ↔
      modules.contains module = true ∨ ∃ s, NamesClass r name s ∧ moduleOf s = module) :
    Records r (earlier ++ [name]) (name :: seen) next where
  seen other := by
    rw [List.contains_cons, Bool.or_eq_true, beq_iff_eq, h.seen, List.mem_append, List.mem_singleton]
    exact or_comm
  modules module := by rw [modules', h.modules, taken_snoc_iff]

/-- Names that have been seen are left out; the first of the others is read, and its repetitions are left out, too. -/
theorem eraseDups_unseen {seen rest : List String} (new : name ∉ seen) :
    ((name :: rest).filter (· ∉ seen)).eraseDups = name :: (rest.filter (· ∉ seen ++ [name])).eraseDups := by
  rw [List.filter_cons_of_pos (by simpa using new), List.eraseDups_cons, List.filter_filter]
  congr 2
  apply List.filter_congr
  intro other _
  by_cases same : other = name
  · simp [same]
  · simp [same]

theorem settles_decisionsFrom {seen modules : List String} (names : List String) (h : Records r earlier seen modules) :
    Settles r earlier (names.filter (· ∉ earlier)).eraseDups
      ((decisionsFrom r seen modules names).filter Decision.settles) := by
  induction names generalizing earlier seen modules with
  | nil => exact .nil
  | cons name rest ih =>
    rw [decisionsFrom]
    by_cases again : seen.contains name = true
    · -- a repetition settles nothing
      rw [if_pos again, List.filter_cons_of_neg (by simpa using (h.seen name).1 again)]
      exact ih h
    · rw [if_neg again, eraseDups_unseen (fun mem => again ((h.seen name).2 mem))]
      unfold resolve
      cases found : r.find? name with
      | none =>
        exact .cons (answers_unknown found) (ih (h.step (by simp [NamesClass, found])))
      | some s =>
        by_cases classLike : s.declaration.kind.isClassLike = true
        · have named : NamesClass r name s := ⟨found, classLike⟩
          simp only [if_pos classLike]
          by_cases taken : modules.contains (moduleOf s) = true
          · rw [if_pos taken]
            refine .cons (answers_collision named ((h.modules _).1 taken)) (ih (h.step ?_))
            intro module
            rw [named.exists_iff]
            exact ⟨.inl, fun known => known.elim id (fun same => same ▸ taken)⟩
          · rw [if_neg taken]
            refine .cons (answers_generate named (fun before => taken ((h.modules _).2 before))) (ih (h.step ?_))
            intro module
            rw [named.exists_iff, List.contains_cons, Bool.or_eq_true, beq_iff_eq, or_comm, eq_comm (b := module)]
        · have other : s.declaration.kind.isClassLike = false := Bool.eq_false_iff.2 classLike
          simp only [if_neg classLike]
          exact .cons (answers_notAClass found other) (ih (h.step (by simp [not_namesClass found other])))

/-- **Every name has the decision that it deserves**, in the order of the list without repetitions. -/
theorem settles_decisions (r : Registry) (names : List String) :
    Settles r [] names.eraseDups ((decisions r names).filter Decision.settles) := by
  have all : names.filter (· ∉ ([] : List String)) = names := List.filter_eq_self.2 (fun _ _ => by simp)
  have settled := settles_decisionsFrom names (Records.start (r := r))
  rwa [all] at settled

/-! ## §4. The modules of generated classes. -/

/-- No two generated classes have the same module, and none has that of an earlier class. -/
theorem Settles.modules {names : List String} {ds : List Decision} (h : Settles r earlier names ds) :
    ((ds.filterMap Decision.class?).map moduleOf).Nodup ∧
      ∀ s ∈ ds.filterMap Decision.class?, ¬ Taken r earlier (moduleOf s) := by
  -- the classes generated so far count as earlier ones, so the two parts go together
  induction h with
  | nil => simp
  | @cons earlier name names d ds first _ ih =>
    obtain ⟨apart, free⟩ := ih
    have free' : ∀ s ∈ ds.filterMap Decision.class?, ¬ Taken r earlier (moduleOf s) :=
      fun s mem before => free s mem (taken_snoc_iff.2 (.inl before))
    cases d with
    | repeated => exact ⟨apart, free'⟩
    | skip => exact ⟨apart, free'⟩
    | generate s =>
      obtain ⟨named, here⟩ := (first.generated s).1 rfl
      show ((s :: ds.filterMap Decision.class?).map moduleOf).Nodup ∧ ∀ t ∈ s :: ds.filterMap Decision.class?, _
      rw [List.map_cons, List.nodup_cons, List.forall_mem_cons]
      refine ⟨⟨?_, apart⟩, here, free'⟩
      intro mem
      obtain ⟨t, later, same⟩ := List.mem_map.1 mem
      exact free t later (taken_snoc_iff.2 (.inr ⟨s, named, same.symm⟩))

end

end ScriptBridge.Generation
