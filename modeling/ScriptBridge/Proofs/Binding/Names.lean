import ScriptBridge.Proofs.Binding.Exposed
import ScriptBridge.Proofs.Declared.BasicType

/-!
# ScriptBridge.Proofs.Binding.Names

The names of the functions in a class file.

The name of a wrapper spells the function, its parameter types and its constness in escaped fragments, so it
determines all of them.  The name of a selector puts a fixed ending behind the name of the function as it is, so it can
be that of a wrapper: `Clash` lists the ways in which this happens, and in no other way do two functions of a file
share a name.

Main results:
  * `wrapperName_injective` — a wrapper name determines the signature;
  * `functions_distinct_iff` — the functions of a file have different names exactly if there is no clash.
-/

namespace ScriptBridge.Binding

open ScriptBridge.Symbol ScriptBridge.Declared ScriptBridge.Token

/-! ## §1. Wrapper names. -/

/-- The texts that the name of a wrapper spells. -/
def wrapperTexts (d : Declaration) : List (List Char) :=
  d.name.toList :: (d.basicTypes.map String.toList ++ if d.isConst then ["const".toList] else [])

theorem toList_wrapperName (className : String) (d : Declaration) :
    (wrapperName className d).toList = (classId className).toList ++ spelled (wrapperTexts d) := by
  have fragments : (canonicalIdText d.name :: d.parameters.map (·.canonicalId)).map String.toList =
      (d.name.toList :: d.basicTypes.map String.toList).map canonicalId := by
    simp [canonicalIdText, Declaration.basicTypes, Parameter.canonicalId, Function.comp_def]
  rw [wrapperName, String.toList_append, String.toList_intercalate, List.map_cons, fragments]
  have joined := intercalate_fragments (classId className).toList (d.name.toList :: d.basicTypes.map String.toList)
  rw [show "_".toList = ['_'] from rfl, joined, wrapperTexts, ← List.cons_append, spelled_append, List.append_assoc]
  split <;> rfl

theorem const_notMem_basicTypes (d : Declaration) : "const".toList ∉ d.basicTypes.map String.toList := by
  intro mem
  obtain ⟨type, known, same⟩ := List.mem_map.1 mem
  obtain ⟨p, -, rfl⟩ := List.mem_map.1 known
  rw [Parameter.basicType, basicTypeText, String.toList_ofList] at same
  exact basicType_ne_const _ same

/-- The texts in a wrapper name determine the signature. -/
theorem wrapperTexts_injective {d e : Declaration} (h : wrapperTexts d = wrapperTexts e) : d.signature = e.signature := by
  have name : d.name = e.name := String.toList_inj.1 (List.cons.inj h).1
  have rest := (List.cons.inj h).2
  have types : d.basicTypes.map String.toList = e.basicTypes.map String.toList → d.basicTypes = e.basicTypes :=
    fun same => List.map_injective_iff.2 (fun _ _ => String.toList_inj.1) same
  unfold Declaration.signature
  rw [name]
  cases first : d.isConst <;> cases second : e.isConst
  case false.false =>
    rw [types (by simpa [first, second] using rest)]
  case true.true =>
    simp only [first, second] at rest
    rw [types (List.append_cancel_right rest)]
  -- a parameter type would have to be the word `const`
  case false.true =>
    have listed : d.basicTypes.map String.toList = e.basicTypes.map String.toList ++ ["const".toList] := by
      simpa [first, second] using rest
    exact absurd (by simp [listed]) (const_notMem_basicTypes d)
  case true.false =>
    have listed : d.basicTypes.map String.toList ++ ["const".toList] = e.basicTypes.map String.toList := by
      simpa [first, second] using rest
    exact absurd (by simp [← listed]) (const_notMem_basicTypes e)

/-- No parameter type begins with a digit. -/
def Spellable (d : Declaration) : Prop :=
  ∀ p ∈ d.parameters, startsDigit p.basicType.toList = false

theorem Spellable.texts {d : Declaration} (h : Spellable d) : ∀ s ∈ (wrapperTexts d).tail, startsDigit s = false := by
  intro s mem
  rcases List.mem_append.1 mem with mem | mem
  · obtain ⟨type, known, rfl⟩ := List.mem_map.1 mem
    obtain ⟨p, parameter, rfl⟩ := List.mem_map.1 known
    exact h p parameter
  · split at mem
    · rw [List.mem_singleton.1 mem]
      rfl
    · cases mem

/-- A wrapper name determines the signature. -/
theorem wrapperName_injective {className : String} {d e : Declaration} (first : Spellable d) (second : Spellable e)
    (h : wrapperName className d = wrapperName className e) : d.signature = e.signature := by
  have texts := congrArg String.toList h
  rw [toList_wrapperName, toList_wrapperName] at texts
  exact wrapperTexts_injective (spelled_injective first.texts second.texts (List.append_cancel_left texts))

/-! ## §2. Selector names. -/

theorem toList_selectorName_ctor (className : String) :
    (selectorName className (constructorName className)).toList = (classId className).toList ++ '_' :: "ctor".toList := by
  rw [selectorName, if_pos rfl, String.toList_append]
  rfl

theorem toList_selectorName {className method : String} (other : method ≠ constructorName className) :
    (selectorName className method).toList =
      (classId className).toList ++ '_' :: (method.toList ++ '_' :: "selector".toList) := by
  rw [selectorName, if_neg other, String.toList_append, String.toList_append, String.toList_append,
    List.append_assoc, List.append_assoc]
  rfl

theorem exists_toList_selectorName (className method : String) :
    ∃ rest, (selectorName className method).toList = (classId className).toList ++ '_' :: rest := by
  by_cases h : method = constructorName className
  · exact ⟨_, h ▸ toList_selectorName_ctor className⟩
  · exact ⟨_, toList_selectorName h⟩

theorem selectorName_injective {className method other : String}
    (h : selectorName className method = selectorName className other) : method = other := by
  have texts := congrArg String.toList h
  by_cases first : method = constructorName className <;> by_cases second : other = constructorName className
  case pos => rw [first, second]
  case neg =>
    rw [first, toList_selectorName_ctor, toList_selectorName second] at texts
    have length := congrArg List.length texts
    simp at length
  case pos =>
    rw [second, toList_selectorName_ctor, toList_selectorName first] at texts
    have length := congrArg List.length texts
    simp at length
  case neg =>
    rw [toList_selectorName first, toList_selectorName second] at texts
    have same := List.append_cancel_right (List.cons.inj (List.append_cancel_left texts)).2
    exact String.toList_inj.1 same

/-! ## §3. All names. -/

theorem mem_classId {className : String} {c : Char} (h : c ∈ (classId className).toList) : c ≠ '#' := by
  rw [classId, String.toList_ofList] at h
  obtain ⟨d, -, rfl⟩ := List.mem_map.1 h
  split
  next known =>
    rintro rfl
    cases known
  next => decide

/-- No generated name is raw. -/
theorem name_of_text {className : String} {id : Identifier} {rest : List Char}
    (h : id.text.toList = (classId className).toList ++ '_' :: rest) : id.name = id.text := by
  have letters : ∀ c ∈ (classId className).toList, c ≠ '#' := fun c mem => mem_classId mem
  unfold Identifier.text at h ⊢
  cases raw : id.raw with
  | false => rfl
  | true =>
    rw [raw, if_pos rfl, String.toList_append] at h
    -- the sign of a raw name would be the second character of the class
    match front : (classId className).toList with
    | [] =>
      rw [front] at h
      cases h
    | [c] =>
      rw [front] at h
      cases h
    | c :: d :: others =>
      rw [front] at h
      have second : '#' = d := (List.cons.inj (List.cons.inj h).2).1
      exact absurd second.symm (letters d (by simp [front]))

theorem wrapper_eq {s : Scope} {c : Callable} (mem : c ∈ (Callables.ofScope s).callables) :
    c.wrapper = wrapperName s.owner.name c.declaration := by
  obtain ⟨i, d, -, rfl⟩ := (mem_callables_iff s c).1 mem
  rfl

/-- The names of the functions of a file, in order. -/
def functionNames (code : List Token) : List String :=
  (functions code).map (·.1.name)

/-- They are the names of its wrappers and selectors, and `register_prototype`. -/
theorem functionNames_eq {s : Scope} {code : List Token} (h : EmitsFunctions s code) : ∃ names : List String,
    names.Nodup ∧
    (∀ name, name ∈ names ↔ 2 ≤ ((Callables.ofScope s).named name).length ∨ name = constructorName s.owner.name) ∧
    functionNames code = (Callables.ofScope s).callables.map (·.wrapper) ++
      (names.map (selectorName s.owner.name) ++ ["register_prototype"]) := by
  obtain ⟨wrappers, selectors, registering, names, all, wrapped, distinct, known, selected⟩ := h
  -- wrappers come in the order of the callables, selectors in that of the names
  have first : (Callables.ofScope s).callables.map (·.wrapper) = wrappers.map (·.1.name) := by
    refine map_eq_of_forall₂ (((List.forall₂_and_left _ _).2 ⟨fun c mem => wrapper_eq mem, wrapped⟩).imp ?_)
    rintro c item ⟨name, text⟩
    have spelled := congrArg String.toList (text.trans name)
    rw [toList_wrapperName, wrapperTexts, spelled_cons] at spelled
    rw [name_of_text spelled, text]
  have second : names.map (selectorName s.owner.name) = selectors.map (·.1.name) := by
    refine map_eq_of_forall₂ (selected.imp ?_)
    intro name item selector
    obtain ⟨rest, spelled⟩ := exists_toList_selectorName s.owner.name name
    rw [name_of_text (selector.named ▸ spelled), selector.named]
  have last : (⟨"register_prototype", false⟩ : Identifier).name = "register_prototype" :=
    Identifier.name_mk false (by decide)
  refine ⟨names, distinct, known, ?_⟩
  rw [functionNames, all, first, second]
  simp [last]

/-- How two functions of a file come to share a name: the name of a wrapper is that of a selector, or the one that
every file uses to register its class. -/
inductive Clash (s : Scope) : Prop where
  /-- A method spells the ending of the selector of the constructors. -/
  | constructor {c : Callable} (mem : c ∈ (Callables.ofScope s).callables)
      (plain : c.declaration.signature = ("ctor", [], false))
  /-- The last text of a wrapper ends like the name of a selector. -/
  | selector {c : Callable} (mem : c ∈ (Callables.ofScope s).callables) {name : String}
      (several : 2 ≤ ((Callables.ofScope s).named name).length) (same : c.wrapper = selectorName s.owner.name name)
      (mutable : c.declaration.isConst = false)
      (ends : "selector".toList <:+ (c.declaration.basicTypes.getLast?.getD c.declaration.name).toList)
  /-- Class and method together spell the name that registers a class. -/
  | registration {c : Callable} (mem : c ∈ (Callables.ofScope s).callables)
      (owner : classId s.owner.name = "register") (plain : c.declaration.signature = ("prototype", [], false))

theorem spelled_word {word : String} (letters : word.toList.all Char.isAlpha = true) :
    spelled [word.toList] = '_' :: word.toList := by
  rw [spelled, spelled, canonicalId_letters (List.all_eq_true.1 letters), List.append_nil]

/-- The wrappers whose names spell one word are those of functions of that name without parameters. -/
theorem wrapperName_word {className : String} {d : Declaration} {word : String}
    (letters : word.toList.all Char.isAlpha = true) (spellable : Spellable d) :
    (wrapperName className d).toList = (classId className).toList ++ '_' :: word.toList ↔
      d.signature = (word, [], false) := by
  rw [toList_wrapperName, ← spelled_word letters, List.append_cancel_left_eq]
  constructor
  · intro same
    -- the parts of a spelling are determined, so there is the name alone
    have texts := spelled_injective spellable.texts (by simp) same
    have name : d.name = word := String.toList_inj.1 (List.cons.inj texts).1
    obtain ⟨none, plain⟩ := List.append_eq_nil_iff.1 (List.cons.inj texts).2
    have mutable : d.isConst = false := by
      cases fixed : d.isConst with
      | false => rfl
      | true =>
        rw [fixed] at plain
        cases plain
    rw [Declaration.signature, name, List.map_eq_nil_iff.1 none, mutable]
  · intro plain
    obtain ⟨name, rest⟩ := Prod.mk.inj plain
    obtain ⟨none, mutable⟩ := Prod.mk.inj rest
    rw [wrapperTexts, name, none, mutable]
    rfl

section

variable {s : Scope} {code : List Token}

/-- A clash makes two functions share a name. -/
theorem Clash.not_nodup (emits : EmitsFunctions s code)
    (spellable : ∀ c ∈ (Callables.ofScope s).callables, Spellable c.declaration) (clash : Clash s) :
    ¬ (functionNames code).Nodup := by
  obtain ⟨names, -, known, all⟩ := functionNames_eq emits
  rw [all]
  intro distinct
  obtain ⟨-, -, apart⟩ := List.nodup_append.1 distinct
  have wrapper : ∀ {c : Callable}, c ∈ (Callables.ofScope s).callables →
      c.wrapper ∈ (Callables.ofScope s).callables.map (·.wrapper) := fun mem => List.mem_map_of_mem mem
  have selector : ∀ {name : String}, name ∈ names → selectorName s.owner.name name ∈
      names.map (selectorName s.owner.name) ++ ["register_prototype"] :=
    fun mem => List.mem_append_left _ (List.mem_map_of_mem mem)
  -- in each case a wrapper has the name of a selector or of the registration
  cases clash with
  | constructor mem plain =>
    refine apart _ (wrapper mem) _ (selector ((known _).2 (.inr rfl))) (String.toList_inj.1 ?_)
    rw [wrapper_eq mem, (wrapperName_word (by decide) (spellable _ mem)).2 plain, toList_selectorName_ctor]
  | selector mem several same =>
    exact apart _ (wrapper mem) _ (selector ((known _).2 (.inl several))) same
  | registration mem owner plain =>
    refine apart _ (wrapper mem) "register_prototype" (by simp) (String.toList_inj.1 ?_)
    rw [wrapper_eq mem, (wrapperName_word (by decide) (spellable _ mem)).2 plain, owner]
    rfl

/-- Wrappers have different names, since callables have different signatures. -/
theorem nodup_wrappers (spellable : ∀ c ∈ (Callables.ofScope s).callables, Spellable c.declaration) :
    ((Callables.ofScope s).callables.map (·.wrapper)).Nodup := by
  refine List.pairwise_map.2 ((callables_sorted s).imp_of_mem ?_)
  intro a b first second before same
  rw [wrapper_eq first, wrapper_eq second] at same
  have agree := wrapperName_injective (spellable a first) (spellable b second) same
  obtain ⟨i, d, earlier, rfl⟩ := (mem_callables_iff s a).1 first
  obtain ⟨j, e, later, rfl⟩ := (mem_callables_iff s b).1 second
  exact later.first i d before earlier.here earlier.exposed agree

/-- Only one underscore stands in the name that registers a class. -/
theorem registration_split {front back : List Char} (h : front ++ '_' :: back = "register_prototype".toList) :
    front = "register".toList ∧ back = "prototype".toList := by
  have none : front.count '_' = 0 := by
    have count := congrArg (List.count '_') h
    have one : "register_prototype".toList.count '_' = 1 := by decide
    rw [one, List.count_append, List.count_cons_self] at count
    omega
  have words : ∀ c ∈ front, (c != '_') = true := by
    intro c mem
    rw [bne_iff_ne]
    rintro rfl
    exact absurd mem (List.count_eq_zero.1 none)
  have taken := congrArg (List.takeWhile (· != '_')) h
  have left := congrArg (List.dropWhile (· != '_')) h
  rw [List.takeWhile_append_of_pos words, List.takeWhile_cons_of_neg (by decide), List.append_nil] at taken
  rw [List.dropWhile_append_of_pos words, List.dropWhile_cons_of_neg (by decide)] at left
  exact ⟨taken, (List.cons.inj left).2⟩

/-- No selector has the name that registers a class. -/
theorem selectorName_ne_registration (className method : String) :
    selectorName className method ≠ "register_prototype" := by
  intro same
  have texts := congrArg String.toList same
  by_cases constructor : method = constructorName className
  · rw [constructor, toList_selectorName_ctor] at texts
    exact absurd (registration_split texts).2 (by decide)
  · rw [toList_selectorName constructor] at texts
    have underscore : '_' ∈ "prototype".toList := by
      rw [← (registration_split texts).2]
      simp
    exact absurd underscore (by decide)

/-- A wrapper whose name ends like that of a selector spells this ending in its last text. -/
theorem ends_of_suffix {d : Declaration} (h : "selector".toList <:+ spelled (wrapperTexts d)) :
    d.isConst = false ∧ "selector".toList <:+ (d.basicTypes.getLast?.getD d.name).toList := by
  have letters : ∀ c ∈ "selector".toList, c.isAlpha = true := List.all_eq_true.1 (by decide)
  unfold wrapperTexts at h
  cases fixed : d.isConst with
  | true =>
    rw [fixed, if_pos rfl, ← List.cons_append] at h
    exact absurd (letters_suffix_spelled _ _ letters h) (by decide)
  | false =>
    rw [fixed, if_neg (by decide), List.append_nil] at h
    refine ⟨rfl, ?_⟩
    obtain none | ⟨front, last, types⟩ := List.eq_nil_or_concat d.basicTypes
    · rw [none] at h ⊢
      exact letters_suffix_spelled [] _ letters h
    · rw [types, List.concat_eq_append] at h ⊢
      rw [List.map_append, ← List.cons_append] at h
      simpa using letters_suffix_spelled _ _ letters h

/-- Without a clash the names are different. -/
theorem nodup_functionNames (emits : EmitsFunctions s code)
    (spellable : ∀ c ∈ (Callables.ofScope s).callables, Spellable c.declaration) (free : ¬ Clash s) :
    (functionNames code).Nodup := by
  obtain ⟨names, distinct, known, all⟩ := functionNames_eq emits
  have selectors : (names.map (selectorName s.owner.name)).Nodup :=
    List.pairwise_map.2 (distinct.imp (fun different same => different (selectorName_injective same)))
  rw [all, List.nodup_append, List.nodup_append]
  refine ⟨nodup_wrappers spellable, ⟨selectors, by simp, ?_⟩, ?_⟩
  · intro a mem b last
    obtain ⟨name, -, rfl⟩ := List.mem_map.1 mem
    rw [List.mem_singleton.1 last]
    exact selectorName_ne_registration _ _
  · intro a mem b other same
    obtain ⟨c, callable, rfl⟩ := List.mem_map.1 mem
    have texts := congrArg String.toList ((wrapper_eq callable).symm.trans same)
    -- a name that ends in one word behind the class is that of a function without parameters
    have word : ∀ {word : String}, word.toList.all Char.isAlpha = true →
        b.toList = (classId s.owner.name).toList ++ '_' :: word.toList →
        c.declaration.signature = (word, [], false) :=
      fun letters spelling => (wrapperName_word letters (spellable c callable)).1 (texts.trans spelling)
    -- a wrapper with the name of a selector or of the registration is a clash
    rcases List.mem_append.1 other with selector | registration
    · obtain ⟨name, selected, rfl⟩ := List.mem_map.1 selector
      by_cases constructor : name = constructorName s.owner.name
      · exact free (.constructor callable (word (by decide) (constructor ▸ toList_selectorName_ctor _)))
      · have several := ((known name).1 selected).resolve_right constructor
        rw [toList_wrapperName, toList_selectorName constructor] at texts
        have ends : "selector".toList <:+ spelled (wrapperTexts c.declaration) := by
          rw [List.append_cancel_left texts]
          exact ⟨'_' :: (name.toList ++ ['_']), by simp⟩
        exact free (.selector callable several same (ends_of_suffix ends).1 (ends_of_suffix ends).2)
    · obtain rfl := List.mem_singleton.1 registration
      rw [toList_wrapperName, wrapperTexts, spelled_cons] at texts
      have owner : classId s.owner.name = "register" := String.toList_inj.1 (registration_split texts).1
      exact free (.registration callable owner (word (by decide) (by rw [owner]; rfl)))

end

namespace ClassFile

/-- Types that code could be made for do not begin with a digit. -/
theorem spellable_callables {paths : Paths} {s : Scope} {f : ClassFile} (made : Made paths s f) :
    ∀ c ∈ (Callables.ofScope s).callables, Spellable c.declaration := by
  intro c mem p parameter
  obtain ⟨w, -, wrapped⟩ := exists_right_of_mem (forall₂_of_mapM made.wrappers) mem
  obtain ⟨name, -, wrapped⟩ := bind_ok wrapped
  obtain ⟨arguments, converted, -⟩ := bind_ok wrapped
  obtain ⟨a, -, one⟩ := exists_right_of_mem (forall₂_of_mapM converted) parameter
  obtain ⟨type, typed, -⟩ := bind_ok one
  rw [Bool.eq_false_iff]
  exact fun digit => typeTokens_digit digit typed

/-- The functions of a file have different names exactly if there is no clash, whenever the file can be made. -/
theorem functions_distinct_iff {paths : Paths} {s : Scope} {f : ClassFile}
    (h : (ClassFile.ofScope paths s).2 = .ok f) : (functionNames f.tokens).Nodup ↔ ¬ Clash s := by
  have made := made_ofScope h
  have emits := emits_functions made
  have spellable := spellable_callables made
  exact ⟨fun distinct clash => clash.not_nodup emits spellable distinct, nodup_functionNames emits spellable⟩

theorem functions_distinct_iff_grove : ∃ f, (ClassFile.ofScope .standard grove).2 = .ok f ∧
    ((functionNames f.tokens).Nodup ↔ ¬ Clash grove) := by
  obtain ⟨f, made⟩ := grove_ok
  exact ⟨f, made, functions_distinct_iff made⟩

/-- A class whose only method is called like the ending of the selector of its constructors. -/
def forge : Scope where
  owner := { (default : Declaration) with name := "Forge", kind := .classType }
  members := [{ (default : Declaration) with name := "ctor", kind := .function, type := "void" }]

/-- Its code can be made, and it has two functions of one name. -/
theorem functions_clash_forge :
    ∃ f, (ClassFile.ofScope .standard forge).2 = .ok f ∧ ¬ (functionNames f.tokens).Nodup := by
  obtain ⟨f, made⟩ : ∃ f, (ClassFile.ofScope .standard forge).2 = .ok f := exists_ok (by decide +kernel)
  have first : FirstExposed forge.members 0 forge.members.head! :=
    ⟨rfl, by decide, fun j _ before => absurd before (Nat.not_lt_zero j)⟩
  have clash : Clash forge := .constructor ((mem_callables_iff forge _).2 ⟨0, _, first, rfl⟩) rfl
  exact ⟨f, made, clash.not_nodup (emits_functions (made_ofScope made)) (spellable_callables (made_ofScope made))⟩

end ClassFile

end ScriptBridge.Binding
