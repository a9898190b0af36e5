import ScriptBridge.Command.Run
import ScriptBridge.Proofs.Generation.WellNamed

/-!
# ScriptBridge.Proofs.Generation.Everything

What a run does that is asked for all classes.

The classes of a registry are asked for by name, and the names are looked up again among all names, those of members
included.  They find the classes that they were taken from, and no name stands twice in the list, so that the decision
on each class depends on the modules of the classes before it only.  All this is about top-level classes: a class
among the members of another one is not in the list.

Main results:
  * `Represents.forall₂_classes` — the classes of a registry are those of its top-level entries, and found by name;
  * `decisionsFrom_names` — the decisions on classes that are found by their names;
  * `generate_ends` — how a run can end;
  * `generate_everything` — a run for all classes.
-/

namespace ScriptBridge.Symbol

open ScriptBridge.Database

/-! ## §1. The classes of a registry. -/

/-- Whether the entry declares a class or struct. -/
def isClassEntry (e : Entry) : Bool :=
  e.kind == "class" || e.kind == "struct"

theorem isClassLike_ofEntry {e : Entry} {d : Declaration} (h : Declaration.ofEntry e = .ok d) :
    d.kind.isClassLike = isClassEntry e := by
  have known : Kind.ofName? e.kind = some d.kind := by
    unfold Declaration.ofEntry at h
    split at h
    next => cases h
    next kind known =>
      split at h
      · cases h
      · cases h
        exact known
  unfold Kind.ofName? at known
  have word := List.find?_some known
  rw [isClassEntry, ← eq_of_beq word]
  cases d.kind <;> decide

/-- What stands at the places of a list, in order. -/
theorem forall₂_filterMap_range {α β : Type} {R : α → β → Prop} {l : List α} {f : Nat → Option β}
    (h : ∀ k a, l[k]? = some a → ∃ b, f k = some b ∧ R a b) :
    List.Forall₂ R l ((List.range l.length).filterMap f) := by
  induction l generalizing f with
  | nil => exact .nil
  | cons a l ih =>
    obtain ⟨b, first, related⟩ := h 0 a rfl
    rw [List.length_cons, List.range_succ_eq_map, List.filterMap_cons_some first, List.filterMap_map]
    exact .cons related (ih (fun k a here => h (k + 1) a here))

namespace Registry

/-- The symbol is found by the name of the entry, and has its scope: the declarations of the entry and its members. -/
structure StandsFor (r : Registry) (e : Entry) (s : Symbol) : Prop where
  found : r.find? e.name = some s
  scope : entryScope e = .ok (r.scope s)

section

variable {r : Registry} {entries : List Entry}

theorem StandsFor.read {e : Entry} {s : Symbol} (h : r.StandsFor e s) : Declaration.ofEntry e = .ok s.declaration := by
  obtain ⟨owner, read, rest⟩ := bind_ok h.scope
  obtain ⟨members, -, made⟩ := bind_ok rest
  have same : owner = s.declaration := congrArg Scope.owner (Except.ok.inj made)
  rw [read, same]

theorem StandsFor.name {e : Entry} {s : Symbol} (h : r.StandsFor e s) : s.declaration.name = e.name :=
  ofEntry_name h.read

/-- The top-level symbols stand for the top-level entries, in order. -/
theorem Represents.forall₂_rootSymbols (h : r.Represents entries) :
    List.Forall₂ r.StandsFor entries r.rootSymbols := by
  rw [rootSymbols, h.roots, List.filterMap_map]
  refine forall₂_filterMap_range (fun k e here => ?_)
  obtain ⟨s, at_, -⟩ := h.root k e here
  have found : r.find? e.name = some s := h.find?_root here at_
  exact ⟨s, at_, found, h.scope_of_entry (List.mem_of_getElem? here) found⟩

/-- **The classes of a registry** stand for the top-level entries that declare classes, in order. -/
theorem Represents.forall₂_classes (h : r.Represents entries) :
    List.Forall₂ r.StandsFor (entries.filter isClassEntry) r.classes := by
  refine List.rel_filter ?_ h.forall₂_rootSymbols
  intro e s stands
  show isClassEntry e = true ↔ s.declaration.kind.isClassLike = true
  rw [isClassLike_ofEntry stands.read]

theorem Represents.names_classes (h : r.Represents entries) :
    r.classes.map (·.declaration.name) = (entries.filter isClassEntry).map (·.name) :=
  (map_eq_of_forall₂ (h.forall₂_classes.imp (fun _ _ stands => stands.name.symm))).symm

end

end Registry

end ScriptBridge.Symbol

namespace ScriptBridge.Generation

open ScriptBridge.Database (Entry)
open ScriptBridge.Symbol ScriptBridge.Binding ScriptBridge.Token ScriptBridge.Files ScriptBridge.Command

/-! ## §2. Classes that are asked for by their names. -/

/-- The decision on a class that is asked for by its name: it is generated, unless an earlier class has its module. -/
def verdict (earlier : List Symbol) (s : Symbol) : Decision :=
  if moduleOf s ∈ earlier.map moduleOf then .skip ⟨s.declaration.name, .moduleCollision (moduleOf s)⟩
  else .generate s

/-- The decisions on classes that are asked for by their names, one behind the other. -/
def verdicts (earlier : List Symbol) : List Symbol → List Decision
  | [] => []
  | s :: rest => verdict earlier s :: verdicts (earlier ++ [s]) rest

section

variable {r : Registry}

theorem resolve_classes {entries : List Entry} (h : r.Represents entries) :
    ∀ s ∈ r.classes, resolve r s.declaration.name = .ok s := by
  intro s mem
  obtain ⟨e, -, stands⟩ := exists_left_of_mem h.forall₂_classes mem
  have classLike : s.declaration.kind.isClassLike = true := (List.mem_filter.1 mem).2
  rw [resolve, stands.name, stands.found]
  exact if_pos classLike

theorem nodup_classes {entries : List Entry} (h : r.Represents entries) :
    (r.classes.map (·.declaration.name)).Nodup := by
  rw [h.names_classes]
  exact h.distinct.sublist (List.filter_sublist.map _)

/-- **Decisions on classes by name.**  If every name finds its class, and none was seen before, then the modules decide. -/
theorem decisionsFrom_names {seen modules : List String} {earlier classes : List Symbol}
    (resolved : ∀ s ∈ classes, resolve r s.declaration.name = .ok s)
    (distinct : (classes.map (·.declaration.name)).Nodup) (fresh : ∀ s ∈ classes, s.declaration.name ∉ seen)
    (taken : ∀ module, module ∈ modules ↔ module ∈ earlier.map moduleOf) :
    decisionsFrom r seen modules (classes.map (·.declaration.name)) = verdicts earlier classes := by
  induction classes generalizing seen modules earlier with
  | nil => rfl
  | cons s rest ih =>
    obtain ⟨here, others⟩ := List.forall_mem_cons.1 resolved
    obtain ⟨new, later⟩ := List.forall_mem_cons.1 fresh
    obtain ⟨once, apart⟩ := List.nodup_cons.1 distinct
    have fresh' : ∀ t ∈ rest, t.declaration.name ∉ s.declaration.name :: seen := by
      intro t mem
      rw [List.mem_cons, not_or]
      exact ⟨fun same => once (List.mem_map.2 ⟨t, mem, same⟩), later t mem⟩
    rw [List.map_cons, decisionsFrom, if_neg (by simpa using new), here, verdicts, verdict]
    by_cases collides : moduleOf s ∈ modules
    · -- the module is taken already, so that no other one is taken
      have same : ∀ module, module ∈ modules ↔ module ∈ (earlier ++ [s]).map moduleOf := by
        intro module
        rw [List.map_append, List.mem_append, ← taken]
        refine ⟨.inl, fun known => known.elim id (fun last => ?_)⟩
        rw [List.mem_singleton.1 last]
        exact collides
      simp only [if_pos ((taken _).1 collides), List.contains_iff_mem.2 collides, if_true]
      rw [ih others apart fresh' same]
    · have same : ∀ module, module ∈ moduleOf s :: modules ↔ module ∈ (earlier ++ [s]).map moduleOf := by
        intro module
        rw [List.map_append, List.mem_append, List.mem_cons, taken]
        simp [or_comm]
      simp only [if_neg (fun known => collides ((taken _).2 known)), List.contains_iff_mem, collides, if_false]
      rw [ih others apart fresh' same]

/-! ## §3. How a run ends. -/

/-- Code that the decisions ask for cannot be made: that of a class, or the module file. -/
def Breaks (paths : Paths) (r : Registry) (ds : List Decision) (e : IdentifierError) : Prop :=
  (∃ s ∈ classesOf ds, classCode paths (r.scope s) = .error e) ∨
    modulesCode paths ((classesOf ds).map moduleOf) = .error e

/-- The run reports on these decisions, or it comes to a file that cannot be written or to code that cannot be made. -/
def EndsWith (options : Options) (r : Registry) (names : List String) (out : String) (t : Tree)
    (ds : List Decision) : Prop :=
  let result := ((generate options r names out : StateM Tree _) t).1.result
  result = .ok (reportOn out ds) ∨ (∃ path e, result = .error (.file path e)) ∨
    ∃ e, result = .error (.identifier e) ∧ Breaks options.paths r ds e

/-- **The ends of a run.** -/
theorem generate_ends (options : Options) (r : Registry) (names : List String) (out : String) (t : Tree) :
    EndsWith options r names out t (decisions r names) := by
  rcases generate_result options r names out t with result | file
  · obtain ⟨outputs, -, submits⟩ := submits_ofRequests options.paths r out names
    cases ending : (Plan.ofRequests options.paths r out names).ending with
    | ok report =>
      rw [ending] at result submits
      rw [submits.of_reported.1] at result
      exact .inl result
    | error e =>
      rw [ending] at result submits
      obtain ⟨before, rest, parts, -, why⟩ := submits.of_broken
      refine .inr (.inr ⟨e, result, ?_⟩)
      -- the plan ends at the first code that cannot be made: that of a class, or that of the modules
      rcases why with ⟨-, untied⟩ | ⟨s, later, rfl, failed⟩
      · rw [modules_reportOn] at untied
        exact .inr untied
      · exact .inl ⟨s, by simp [parts], failed⟩
  · exact .inr (.inl file)

/-! ## §4. Runs for all classes. -/

/-- A run for all classes of a database: each class is decided on, once. -/
structure CoversAll (entries : List Entry) (r : Registry) : Prop where
  /-- The names that are asked for are those of the top-level classes and structs, in order. -/
  names : Selection.all.names r = (entries.filter isClassEntry).map (·.name)
  /-- They find these classes. -/
  classes : List.Forall₂ r.StandsFor (entries.filter isClassEntry) r.classes
  /-- Each class is generated, unless an earlier one has its module. -/
  decided : decisions r (Selection.all.names r) = verdicts [] r.classes
  /-- This is what a run reports, if it comes to its end. -/
  runs : ∀ (options : Options) (out : String) (t : Tree),
    EndsWith options r (Selection.all.names r) out t (verdicts [] r.classes)

/-- **Asking for everything**: no name is unknown, stands for something else or is repeated, and every top-level class is
generated, unless an earlier one has its module. -/
theorem generate_everything {entries : List Entry} {r : Registry} (loaded : Registry.ofEntries entries = .ok r) :
    CoversAll entries r := by
  have h := Registry.represents_ofEntries loaded
  have decided : decisions r (Selection.all.names r) = verdicts [] r.classes :=
    decisionsFrom_names (resolve_classes h) (nodup_classes h) (fun _ _ => List.not_mem_nil) (fun _ => Iff.rfl)
  exact {
    names := h.names_classes
    classes := h.forall₂_classes
    decided := decided
    runs := fun options out t => decided ▸ generate_ends options r (Selection.all.names r) out t }

/-- A class in a scope, whose name is a key of a later member as well, and a struct that has the same module. -/
def allotment : List Entry := [
  { (default : Entry) with kind := "class", name := "garden::Bed" },
  { (default : Entry) with kind := "function", name := "plant" },
  { (default : Entry) with
    kind := "class", name := "garden", members := some [{ (default : Entry) with kind := "variable", name := "Bed" }] },
  { (default : Entry) with kind := "struct", name := "GardenBed" }]

theorem generate_everything_allotment : ∃ r, Registry.ofEntries allotment = .ok r ∧ CoversAll allotment r := by
  obtain ⟨r, loaded⟩ : ∃ r, Registry.ofEntries allotment = .ok r := exists_ok (by decide +kernel)
  exact ⟨r, loaded, generate_everything loaded⟩

/-- A name that is no identifier breaks the run off. -/
example : (Plan.ofRequests .standard (lone "a b") "gen" (Selection.all.names (lone "a b"))).ending =
    .error (.malformed "a b") := by decide +kernel

/-- A class with a struct among its members. -/
def shed : List Entry := [
  { (default : Entry) with
    kind := "class", name := "Shed", members := some [{ (default : Entry) with kind := "struct", name := "Shelf" }] }]

/-- **A struct among the members of a class is not asked for**: it can be requested by its key, but a run for all
classes neither generates nor skips it. -/
theorem generate_leaves_member : Registry.ofEntries shed = .ok (registryOf shed) ∧
    ((registryOf shed).find? "Shed::Shelf").any (fun s => s.declaration.kind == .structType) = true ∧
    Selection.all.names (registryOf shed) = ["Shed"] ∧
    ((generate .standard (registryOf shed) (Selection.all.names (registryOf shed)) "build/gen" : StateM Tree _)
      meadow).1.result = .ok ⟨[⟨"Shed", "shed", "build/gen/shed.rs"⟩], []⟩ :=
  ⟨rfl, by decide +kernel, by decide +kernel, generate_meadow (by decide +kernel) (by decide +kernel)⟩

end

end ScriptBridge.Generation
