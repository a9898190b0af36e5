import ScriptBridge.Proofs.Binding.Names

/-!
# ScriptBridge.Proofs.Binding.Verdicts

Which functions are dropped because of their wrapper names.

Whether a function is kept depends on the signatures before it, while the functions of the generated code go by their
wrapper names.  Both come to the same, since a wrapper name stands for one signature: two functions share a wrapper
name exactly if scripts cannot tell them apart, and a function is dropped exactly if a function that is kept before it
has its wrapper name.

Main results:
  * `repeated_iff` - a function is dropped exactly if a callable before it has its signature;
  * `wrapperName_identifies` - wrapper names identify signatures, and the verdicts follow them.
-/

namespace ScriptBridge.Binding

open ScriptBridge.Symbol ScriptBridge.Declared

/-! ## §1. What a dropped function repeats. -/

/-- Of the exposed functions of one signature there is a first one. -/
theorem exists_firstExposed {members : List Declaration} {i : Nat} {d : Declaration} (here : members[i]? = some d)
    (exposed : d.isExposedFunction = true) :
    ∃ j e, j ≤ i ∧ FirstExposed members j e ∧ e.signature = d.signature := by
  -- strong induction on the place: an earlier one of the signature has a first one before it
  induction i using Nat.strongRecOn generalizing d with
  | ind i ih =>
    by_cases first : FirstExposed members i d
    · exact ⟨i, d, Nat.le_refl i, first, rfl⟩
    · obtain ⟨j, e, before, there, shown, same⟩ : ∃ j e, j < i ∧ members[j]? = some e ∧ e.isExposedFunction = true ∧
          e.signature = d.signature := by
        by_contra none
        refine first ⟨here, exposed, ?_⟩
        intro j e before there shown same
        exact none ⟨j, e, before, there, shown, same⟩
      obtain ⟨k, f, earlier, leading, agree⟩ := ih j before there shown
      exact ⟨k, f, by omega, leading, agree.trans same⟩

/-- An exposed function is not the first of its signature exactly if a callable before it has that signature. -/
theorem not_firstExposed_iff {s : Scope} {i : Nat} {d : Declaration} (here : s.members[i]? = some d)
    (exposed : d.isExposedFunction = true) : ¬ FirstExposed s.members i d ↔
      ∃ c ∈ (Callables.ofScope s).callables, c.position < i ∧ c.declaration.signature = d.signature := by
  constructor
  · intro again
    obtain ⟨j, e, before, first, same⟩ := exists_firstExposed here exposed
    have apart : j ≠ i := by
      intro here'
      subst here'
      obtain rfl : e = d := Option.some.inj (first.here.symm.trans here)
      exact again first
    exact ⟨_, (mem_callables_iff s _).2 ⟨j, e, first, rfl⟩, Nat.lt_of_le_of_ne before apart, same⟩
  · intro earlier first
    obtain ⟨c, mem, before, same⟩ := earlier
    obtain ⟨j, e, leading, rfl⟩ := (mem_callables_iff s c).1 mem
    exact first.first j e before leading.here leading.exposed same

/-- **A function is dropped exactly if a callable before it has its signature.** -/
theorem repeated_iff {s : Scope} {i : Nat} {d : Declaration} (here : s.members[i]? = some d)
    (function : d.isFunction = true) : verdictAt? s i = some (.repeated d) ↔ d.isExposedFunction = true ∧
      ∃ c ∈ (Callables.ofScope s).callables, c.position < i ∧ c.declaration.signature = d.signature := by
  obtain ⟨v, there, verdict⟩ := exists_verdictAt here function
  rw [there, Option.some.injEq, verdict.eq_repeated_iff]
  refine and_congr_right ?_
  intro exposed
  exact not_firstExposed_iff here exposed

/-! ## §2. Wrapper names instead of signatures. -/

theorem signature_eq_iff {d e : Declaration} :
    d.signature = e.signature ↔ d.name = e.name ∧ d.basicTypes = e.basicTypes ∧ d.isConst = e.isConst := by
  rw [Declaration.signature, Declaration.signature, Prod.mk.injEq, Prod.mk.injEq]

/-- Functions that scripts cannot tell apart have one wrapper name. -/
theorem wrapperName_congr (className : String) {d e : Declaration} (h : d.signature = e.signature) :
    wrapperName className d = wrapperName className e := by
  obtain ⟨name, types, mutable⟩ := signature_eq_iff.1 h
  rw [← String.toList_inj, toList_wrapperName, toList_wrapperName, wrapperTexts, wrapperTexts, name, types, mutable]

theorem wrapperName_eq_iff (className : String) {d e : Declaration} (first : Spellable d) (second : Spellable e) :
    wrapperName className d = wrapperName className e ↔ d.signature = e.signature :=
  ⟨wrapperName_injective first second, wrapperName_congr className⟩

/-- The callables of a class whose exposed functions can be spelled can be spelled. -/
theorem spellable_of_exposed {s : Scope} (spellable : ∀ d ∈ s.members, d.isExposedFunction = true → Spellable d) :
    ∀ c ∈ (Callables.ofScope s).callables, Spellable c.declaration := by
  intro c mem
  obtain ⟨i, d, first, rfl⟩ := (mem_callables_iff s c).1 mem
  exact spellable d (List.mem_of_getElem? first.here) first.exposed

/-- **Wrapper names identify signatures.**  Functions share a wrapper name exactly if they agree in name, basic
parameter types and constness.  Hence the callables of a class have different wrapper names, and a function is dropped
exactly if its wrapper name would repeat that of a callable before it.  Only parameter types have to be spelled in such
a way that they can be read back; the name of the function may begin with a digit. -/
theorem wrapperName_identifies (className : String) :
    (∀ d e : Declaration, Spellable d → Spellable e →
      (wrapperName className d = wrapperName className e ↔
        d.name = e.name ∧ d.basicTypes = e.basicTypes ∧ d.isConst = e.isConst)) ∧
    ∀ s : Scope, s.owner.name = className → (∀ d ∈ s.members, d.isExposedFunction = true → Spellable d) →
      ((Callables.ofScope s).callables.map (·.wrapper)).Nodup ∧
      ∀ (i : Nat) (d : Declaration), s.members[i]? = some d → d.isFunction = true →
        (verdictAt? s i = some (.repeated d) ↔ d.isExposedFunction = true ∧
          ∃ c ∈ (Callables.ofScope s).callables, c.position < i ∧ c.wrapper = wrapperName className d) := by
  constructor
  · intro d e first second
    rw [wrapperName_eq_iff className first second, signature_eq_iff]
  · intro s owner spellable
    have callables := spellable_of_exposed spellable
    refine ⟨nodup_wrappers callables, ?_⟩
    intro i d here function
    rw [repeated_iff here function]
    refine and_congr_right ?_
    intro exposed
    have own := spellable d (List.mem_of_getElem? here) exposed
    refine exists_congr fun c => and_congr_right fun mem => and_congr_right fun _ => ?_
    rw [wrapper_eq mem, owner, wrapperName_eq_iff className (callables c mem) own]

/-- A class with three functions that read numbers.  The last one differs from the second only in how its parameter is
passed. -/
def gauge : Scope where
  owner := { (default : Declaration) with name := "Gauge", kind := .classType }
  members := [
    { (default : Declaration) with name := "get_int", kind := .function, type := "int" },
    { (default : Declaration) with name := "get", kind := .function, type := "int", parameters := [⟨"at", "int"⟩] },
    { (default : Declaration) with
      name := "get", kind := .function, type := "int", parameters := [⟨"at", "const int &"⟩] }]

theorem wrapperName_identifies_gauge : ∃ d e f, gauge.members = [d, e, f] ∧ Spellable d ∧ Spellable e ∧ Spellable f ∧
    wrapperName "Gauge" d ≠ wrapperName "Gauge" e ∧
    ((Callables.ofScope gauge).callables.map (·.wrapper)).Nodup ∧
    verdictAt? gauge 1 ≠ some (.repeated e) ∧ verdictAt? gauge 2 = some (.repeated f) := by
  have spellable : ∀ d ∈ gauge.members, ∀ p ∈ d.parameters, startsDigit p.basicType.toList = false := by decide +kernel
  obtain ⟨identify, classes⟩ := wrapperName_identifies "Gauge"
  obtain ⟨distinct, verdict⟩ := classes gauge rfl (fun d mem _ => spellable d mem)
  refine ⟨_, _, _, rfl, spellable _ (by simp [gauge]), spellable _ (by simp [gauge]), spellable _ (by simp [gauge]),
    ?_, distinct, ?_, ?_⟩
  · intro same
    have agree := (identify _ _ (spellable _ (by simp [gauge])) (spellable _ (by simp [gauge]))).1 same
    exact absurd agree.1 (by decide)
  · intro dropped
    have earlier := (verdict 1 _ rfl (by decide)).1 dropped
    exact absurd earlier.2 (by decide +kernel)
  · exact (verdict 2 _ rfl (by decide)).2 ⟨by decide, by decide +kernel⟩

end ScriptBridge.Binding
