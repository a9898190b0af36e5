import ScriptBridge.Proofs.Generation.Submission
import ScriptBridge.Proofs.Symbol.Registry

/-!
# ScriptBridge.Proofs.Generation.Locality

The code of a class depends on its own entry and the options, and on nothing else.

A class is printed from its scope: its declaration with those of its members.  The symbols of an entry stand next to
each other in a registry, wherever that is, so the scope of a top-level class can be read off its entry.  What else the
database holds, and what else is requested, decides where the file comes in a run, but not what it says.

Main results:
  * `Represents.scope_of_entry` - the scope of a top-level symbol is that of its entry;
  * `SubmittedFor.entryCode` - what is submitted for a class is the code of its entry;
  * `submitted_local` - hence it is the same in any two runs.
-/

namespace ScriptBridge.Symbol

open ScriptBridge.Database

/-! ## §1. The scope of an entry. -/

/-- The declarations of an entry and its members. -/
def entryScope (e : Entry) : Except ModelError Scope := do
  let owner ← Declaration.ofEntry e
  let members ← e.memberList.mapM Declaration.ofEntry
  return ⟨owner, members⟩

/-- Elements that are looked up one after the other form a part of the list. -/
theorem filterMap_range' {α : Type} (l : List α) (start n : Nat) :
    (List.range' start n).filterMap (l[·]?) = (l.drop start).take n := by
  induction n generalizing start with
  | zero => rfl
  | succ n ih =>
    rw [List.range'_succ]
    by_cases inside : start < l.length
    · rw [List.filterMap_cons_some (List.getElem?_eq_getElem inside), ih, List.drop_eq_getElem_cons inside]
      rfl
    · have none : l[start]? = none := List.getElem?_eq_none (Nat.le_of_not_lt inside)
      rw [List.filterMap_cons_none none, ih, List.drop_eq_nil_of_le (Nat.le_of_not_lt inside),
        List.drop_eq_nil_of_le (by omega), List.take_nil, List.take_nil]

namespace Registry

/-- The entries from a top-level entry on begin with it and its members. -/
theorem drop_inOrder {entries : List Entry} {k : Nat} {e : Entry} (here : entries[k]? = some e) :
    (inOrder entries).drop (rootNumber entries k) = e :: (e.memberList ++ inOrder (entries.drop (k + 1))) := by
  have split := congrArg inOrder (split_at here)
  rw [inOrder, inOrder, List.flatMap_append, List.flatMap_cons] at split
  rw [inOrder, split]
  exact List.drop_left

namespace Represents

variable {r : Registry} {entries : List Entry}

/-- **The scope of a top-level symbol is that of its entry.** -/
theorem scope_of_entry (h : r.Represents entries) {e : Entry} (here : e ∈ entries) {s : Symbol}
    (found : r.find? e.name = some s) : entryScope e = .ok (r.scope s) := by
  obtain ⟨k, at_⟩ := List.mem_iff_getElem?.1 here
  obtain ⟨root, at_root, -, members⟩ := h.root k e at_
  obtain rfl : root = s := Option.some.inj ((h.find?_root at_ at_root).symm.trans found)
  -- the symbols from the top-level one on belong to the entry and its members
  have each := List.forall₂_drop (rootNumber entries k) h.symbols
  obtain ⟨bound, symbol⟩ := List.getElem?_eq_some_iff.1 at_root
  rw [drop_inOrder at_, List.drop_eq_getElem_cons bound, symbol] at each
  cases each with
  | cons owner others =>
    have children : r.children root = (r.symbols.drop (rootNumber entries k + 1)).take e.memberList.length := by
      rw [Registry.children, members, filterMap_range']
    have first := List.forall₂_take e.memberList.length others
    rw [List.take_left, ← children] at first
    have declared : e.memberList.mapM Declaration.ofEntry = .ok ((r.children root).map (·.declaration)) :=
      mapM_of_forall₂ (List.forall₂_map_right_iff.2 first)
    rw [entryScope, owner, declared]
    rfl

end Represents

end Registry

end ScriptBridge.Symbol

namespace ScriptBridge.Generation

open ScriptBridge.Database ScriptBridge.Symbol ScriptBridge.Binding ScriptBridge.Token

/-! ## §2. The code of an entry. -/

/-- The text is submitted for the class that goes by this name: it has the place among the files of the run that the
class has among those that are generated. -/
def SubmittedFor (paths : Paths) (r : Registry) (out : String) (names : List String) (name text : String) : Prop :=
  ∃ (i : Nat) (s : Symbol), r.find? name = some s ∧ (classesOf (decisions r names))[i]? = some s ∧
    (Plan.ofRequests paths r out names).files[i]? = some (filePath out (moduleOf s), text)

/-- The text is the code of an entry. -/
def EntryCode (paths : Paths) (e : Entry) (text : String) : Prop :=
  ∃ s, entryScope e = .ok s ∧ classCode paths s = .ok text

theorem EntryCode.unique {paths : Paths} {e : Entry} {text other : String} (h : EntryCode paths e text)
    (h' : EntryCode paths e other) : text = other := by
  obtain ⟨s, scope, code⟩ := h
  obtain ⟨s', scope', code'⟩ := h'
  obtain rfl := Except.ok.inj (scope.symm.trans scope')
  exact Except.ok.inj (code.symm.trans code')

/-- What is submitted for a class is the code of its entry. -/
theorem SubmittedFor.entryCode {paths : Paths} {entries : List Entry} {r : Registry} {out : String}
    {names : List String} {e : Entry} {text : String} (h : SubmittedFor paths r out names e.name text)
    (loaded : Registry.ofEntries entries = .ok r) (here : e ∈ entries) : EntryCode paths e text := by
  obtain ⟨i, s, found, asked, submitted⟩ := h
  obtain ⟨outputs, files, submits⟩ := submits_ofRequests paths r out names
  rw [files, List.getElem?_map] at submitted
  obtain ⟨o, at_, same⟩ := Option.map_eq_some_iff.1 submitted
  have codes := submits.codes_at asked at_
  have text' : o.text = text := congrArg Prod.snd same
  rw [← text']
  exact ⟨r.scope s, (Registry.represents_ofEntries loaded).scope_of_entry here found, codes.2⟩

/-- Something is submitted for a class that a run gets to. -/
theorem exists_submittedFor {paths : Paths} {r : Registry} {out : String} {names : List String} {name : String}
    (i : Nat) (known : (r.find? name).isSome = true) (asked : (classesOf (decisions r names))[i]? = r.find? name)
    (submitted : ((Plan.ofRequests paths r out names).files[i]?).isSome = true) :
    ∃ text, SubmittedFor paths r out names name text := by
  obtain ⟨s, found⟩ := Option.isSome_iff_exists.1 known
  obtain ⟨outputs, files, submits⟩ := submits_ofRequests paths r out names
  obtain ⟨file, there⟩ := Option.isSome_iff_exists.1 submitted
  rw [found] at asked
  have listed := there
  rw [files, List.getElem?_map] at listed
  obtain ⟨o, at_, rfl⟩ := Option.map_eq_some_iff.1 listed
  rw [Output.file, (submits.codes_at asked at_).1] at there
  exact ⟨o.text, i, s, found, asked, there⟩

/-- **Generation is local**: two databases that load and have an entry in common give its class the same code, namely
that of the entry, whatever else they hold and whatever else is requested. -/
theorem submitted_local {paths : Paths} {e : Entry} {first second : List Entry} {r₁ r₂ : Registry}
    {out₁ out₂ : String} {names₁ names₂ : List String} {text₁ text₂ : String}
    (loaded₁ : Registry.ofEntries first = .ok r₁) (loaded₂ : Registry.ofEntries second = .ok r₂)
    (here₁ : e ∈ first) (here₂ : e ∈ second)
    (submitted₁ : SubmittedFor paths r₁ out₁ names₁ e.name text₁)
    (submitted₂ : SubmittedFor paths r₂ out₂ names₂ e.name text₂) :
    text₁ = text₂ ∧ EntryCode paths e text₁ := by
  have code₁ := submitted₁.entryCode loaded₁ here₁
  have code₂ := submitted₂.entryCode loaded₂ here₂
  exact ⟨code₁.unique code₂, code₁⟩

-- symbols are compared in the check below
deriving instance DecidableEq for Symbol

/-- A class with a field. -/
def tree : Entry :=
  { (default : Entry) with
    kind := "class", name := "Tree",
    members := some [{ (default : Entry) with kind := "variable", name := "height", type := some "int" }] }

/-- The class alone. -/
def forest : List Entry := [tree]

/-- The class, behind another one. -/
def park : List Entry := [{ (default : Entry) with kind := "struct", name := "Bench" }, tree]

/-- The registry of entries that load. -/
def registryOf (entries : List Entry) : Registry :=
  (Registry.ofEntries entries).toOption.getD .empty

theorem submitted_local_tree : ∃ text₁ text₂,
    SubmittedFor .standard (registryOf forest) "gen" ["Tree"] tree.name text₁ ∧
      SubmittedFor .standard (registryOf park) "out" ["Bench", "Tree", "Bench"] tree.name text₂ ∧ text₁ = text₂ := by
  have alone : ∃ text, SubmittedFor .standard (registryOf forest) "gen" ["Tree"] tree.name text :=
    exists_submittedFor 0 (by decide +kernel) (by decide +kernel) (by decide +kernel)
  have behind : ∃ text, SubmittedFor .standard (registryOf park) "out" ["Bench", "Tree", "Bench"] tree.name text :=
    exists_submittedFor 1 (by decide +kernel) (by decide +kernel) (by decide +kernel)
  obtain ⟨text₁, submitted₁⟩ := alone
  obtain ⟨text₂, submitted₂⟩ := behind
  have forest_loads : Registry.ofEntries forest = .ok (registryOf forest) := rfl
  have park_loads : Registry.ofEntries park = .ok (registryOf park) := rfl
  have common := submitted_local forest_loads park_loads (by simp [forest]) (by simp [park]) submitted₁ submitted₂
  exact ⟨text₁, text₂, submitted₁, submitted₂, common.1⟩

end ScriptBridge.Generation
