import ScriptBridge.Proofs.Binding.Definitions
import ScriptBridge.Proofs.Generation.Locality
import ScriptBridge.Proofs.Generation.Overwriting
import ScriptBridge.Proofs.Script.GlobalName
import ScriptBridge.Proofs.Text.Quoted

/-!
# ScriptBridge.Proofs.Generation.GlobalName

Under which names scripts find the classes of a run.

The code of a class puts its constructor onto the global object under the name of the class without its scopes.  A run
keeps the modules of its classes apart, which come from whole names, but not these short names.  So of several generated
classes with one short name scripts find the one that is registered last.

Main results:
  * `publishesAs_of_classCode` - the one name that the code of a class publishes;
  * `generate_publishes` - the names that a run publishes, and the classes that are found under them;
  * `generate_hides_shed` - a class that another one hides.
-/

namespace ScriptBridge.Generation

open ScriptBridge.Symbol ScriptBridge.Binding ScriptBridge.Token ScriptBridge.Files
open ScriptBridge.Database (Entry)
open ScriptBridge.Script (ObjectId Store)

/-! ## §1. The name of a class. -/

/-- The code gives the global object one property: the constructor, which stays under this name. -/
def PublishesAs (code : List Token) (name : String) : Prop :=
  ∃ body, registering? code = some body ∧
    globalDefinitions body = [⟨Text.stringLiteral name, send (expr "ctor") "clone" [], expr "fixed"⟩]

/-- There is only one such name. -/
theorem PublishesAs.unique {code : List Token} {name other : String} (h : PublishesAs code name)
    (h' : PublishesAs code other) : name = other := by
  obtain ⟨body, registering, defines⟩ := h
  obtain ⟨body', registering', defines'⟩ := h'
  obtain rfl := Option.some.inj (registering.symm.trans registering')
  have same := (List.cons.inj (defines.symm.trans defines')).1
  exact Text.stringLiteral_injective (congrArg Definition.label same)

/-- **The code of a class publishes it under its name without scopes.** -/
theorem publishesAs_of_classCode {paths : Paths} {s : Scope} {text : String} (h : classCode paths s = .ok text) :
    ∃ code, text = layout code ∧ PublishesAs code (constructorName s.owner.name) := by
  unfold classCode at h
  cases made : (ClassFile.ofScope paths s).2 with
  | error e =>
    rw [made] at h
    cases h
  | ok f =>
    rw [made] at h
    have parts := ClassFile.made_ofScope made
    obtain ⟨constructor, -, registered⟩ := bind_ok parts.registration
    obtain ⟨instanceMethods, -, registered⟩ := bind_ok registered
    obtain ⟨staticMethods, -, registered⟩ := bind_ok registered
    obtain ⟨staticFields, -, registered⟩ := bind_ok registered
    -- the label of a registration is made of the name of the class, whatever else it holds
    have label : f.registration.label = constructorName s.owner.name :=
      congrArg Registration.label (Except.ok.inj registered).symm
    refine ⟨f.tokens, (Except.ok.inj h).symm, f.registration.body, ClassFile.registering?_tokens parts, ?_⟩
    rw [Registration.globalDefinitions_body, Registration.publishedDefinition, label]

/-- The name under which scripts find a generated class. -/
def Generated.globalName (g : Generated) : String :=
  constructorName g.name

/-- The file holds code that publishes the class. -/
def Generated.PublishedBy (g : Generated) (file : String × String) : Prop :=
  file.1 = g.path ∧ ∃ code, file.2 = layout code ∧ PublishesAs code g.globalName

/-! ## §2. The names of a run. -/

/-- What a run publishes that comes to its end with a report. -/
structure Publishes (paths : Paths) (r : Registry) (names : List String) (out : String) (report : Report) : Prop where
  /-- For each class of the report, in order, a file was submitted that publishes it, and then one that registers the
  classes in this order. -/
  submitted : ∃ files whole, (Plan.ofRequests paths r out names).files = files ++ [(filePath out "mod", layout whole)] ∧
    List.Forall₂ Generated.PublishedBy report.generated files ∧
    ModuleFile.Ties (report.generated.map (·.module)) whole
  /-- The published names are distinct unless one stands for classes with different files. -/
  distinct_iff : (report.generated.map (·.globalName)).Nodup ↔
    ∀ g ∈ report.generated, ∀ h ∈ report.generated, g.globalName = h.globalName → g.module = h.module
  /-- When the classes have been registered, scripts find those whose name no later class has. -/
  found_iff : ∀ {before after : List (String × ObjectId)} {name : String} {id : ObjectId} {s u : Store},
    (before ++ (name, id) :: after).map (·.1) = report.generated.map (·.globalName) →
    Store.GainsAll (before ++ (name, id) :: after) s u → (s.object? s.global).isSome →
    (u.Finds name id ↔ name ∉ (report.generated.map (·.globalName)).drop (before.length + 1))
  /-- These are all classes exactly if the names are distinct. -/
  all_found_iff : ∀ {gains : List (String × ObjectId)} {s u : Store},
    gains.map (·.1) = report.generated.map (·.globalName) → Store.GainsAll gains s u → (s.object? s.global).isSome →
    ((∀ gain ∈ gains, u.Finds gain.1 gain.2) ↔ (report.generated.map (·.globalName)).Nodup)

section

variable {paths : Paths} {r : Registry} {names : List String} {out : String} {report : Report} {done : List Output}

theorem Delivers.published (h : Delivers paths r out names report done) :
    ∃ files whole, (Plan.ofRequests paths r out names).files = files ++ [(filePath out "mod", layout whole)] ∧
      List.Forall₂ Generated.PublishedBy report.generated files ∧
      ModuleFile.Ties (report.generated.map (·.module)) whole := by
  have submitted := h.submitted
  obtain ⟨files, text, rfl, each, tied⟩ := h.files
  rw [h.settled, modules_reportOn] at tied
  obtain ⟨whole, rfl, ties⟩ := ties_of_modulesCode tied
  refine ⟨files.map (Output.file out), whole, ?_, ?_, ?_⟩
  · rw [submitted, List.map_append]
    rfl
  · rw [h.settled, reportOn, List.forall₂_map_left_iff, List.forall₂_map_right_iff]
    refine each.imp (fun s o codes => ?_)
    obtain ⟨code, text, publishes⟩ := publishesAs_of_classCode codes.2
    exact ⟨congrArg (filePath out) codes.1, code, text, publishes⟩
  · rwa [h.settled, modules_reportOn]

/-- Classes of one report are told apart by their modules. -/
theorem Delivers.distinct_iff (h : Delivers paths r out names report done) :
    (report.generated.map (·.globalName)).Nodup ↔
      ∀ g ∈ report.generated, ∀ h ∈ report.generated, g.globalName = h.globalName → g.module = h.module := by
  have modules := h.nodup_generated
  constructor
  · intro distinct g mem g' mem' same
    rw [List.inj_on_of_nodup_map distinct mem mem' same]
  · intro apart
    refine (List.Nodup.of_map _ modules).map_on (fun g mem g' mem' same => ?_)
    exact List.inj_on_of_nodup_map modules mem mem' (apart g mem g' mem' same)

/-- **What a run publishes**: every class under its name without scopes, which no check keeps apart from the others. -/
theorem generate_publishes {options : Options} {t : Tree}
    (result : ((generate options r names out : StateM Tree _) t).1.result = .ok report) :
    Publishes options.paths r names out report := by
  rcases generate_run options r names out t with ⟨-, none⟩ | ⟨place, done, -, -, -, -, complete⟩
  · exact absurd result (none report)
  · have delivers := complete report result
    refine ⟨delivers.published, delivers.distinct_iff, ?_, ?_⟩
    · intro before after name id s u named gained present
      have later : (report.generated.map (·.globalName)).drop (before.length + 1) = after.map (·.1) := by
        rw [← named, List.map_append, List.map_cons, ← List.length_map (·.1), List.drop_length_add_append]
        rfl
      rw [later]
      exact gained.finds_iff present
    · intro gains s u named gained present
      rw [gained.finds_all_iff present, named]

end

/-- Two classes that differ in their names without scopes. -/
def estate : List Entry := [
  { (default : Entry) with kind := "class", name := "yard::Shed" },
  { (default : Entry) with kind := "class", name := "garden::Barn" }]

/-- Both classes are published, in the order of the request, and scripts find both when they have been registered. -/
theorem generate_publishes_estate : ∃ report, Registry.ofEntries estate = .ok (registryOf estate) ∧
    ((generate .standard (registryOf estate) ["garden::Barn", "yard::Shed"] "build/gen" : StateM Tree _)
      meadow).1.result = .ok report ∧
    report.generated.map (·.globalName) = ["Barn", "Shed"] ∧
    Publishes .standard (registryOf estate) ["garden::Barn", "yard::Shed"] "build/gen" report ∧
    ∃ barn shed u, Store.GainsAll [("Barn", barn), ("Shed", shed)] .empty u ∧
      u.Finds "Barn" barn ∧ u.Finds "Shed" shed := by
  have result : ((generate .standard (registryOf estate) ["garden::Barn", "yard::Shed"] "build/gen" :
      StateM Tree _) meadow).1.result = .ok ⟨[⟨"garden::Barn", "garden_barn", "build/gen/garden_barn.rs"⟩,
        ⟨"yard::Shed", "yard_shed", "build/gen/yard_shed.rs"⟩], []⟩ :=
    generate_meadow (by decide +kernel) (by decide +kernel)
  have publishes := generate_publishes result
  obtain ⟨gains, u, named, gained⟩ := Store.exists_gainsAll ["Barn", "Shed"] .empty
  have found := (publishes.all_found_iff named gained rfl).2 (by decide)
  obtain ⟨⟨_, barn⟩, gains, rfl, rfl, others⟩ := List.map_eq_cons_iff.1 named
  obtain ⟨⟨_, shed⟩, gains, rfl, rfl, none⟩ := List.map_eq_cons_iff.1 others
  obtain rfl := List.map_eq_nil_iff.1 none
  exact ⟨_, rfl, result, rfl, publishes, barn, shed, u, gained, found ("Barn", barn) (by simp),
    found ("Shed", shed) (by simp)⟩

/-- Two classes that differ in their scopes. -/
def sheds : List Entry := [
  { (default : Entry) with kind := "class", name := "garden::Shed" },
  { (default : Entry) with kind := "class", name := "yard::Shed" }]

/-- **A class that another one hides**: the run for both succeeds and reports both, but both are published as `Shed`, and
when they have been registered scripts find only the second. -/
theorem generate_hides_shed : ∃ report, Registry.ofEntries sheds = .ok (registryOf sheds) ∧
    ((generate .standard (registryOf sheds) ["garden::Shed", "yard::Shed"] "build/gen" : StateM Tree _)
      meadow).1.result = .ok report ∧
    report.generated.map (·.path) = ["build/gen/garden_shed.rs", "build/gen/yard_shed.rs"] ∧
    ¬ (report.generated.map (·.globalName)).Nodup ∧
    ∃ first second u, Store.GainsAll [("Shed", first), ("Shed", second)] .empty u ∧
      u.Finds "Shed" second ∧ ¬ u.Finds "Shed" first := by
  refine ⟨⟨[⟨"garden::Shed", "garden_shed", "build/gen/garden_shed.rs"⟩,
    ⟨"yard::Shed", "yard_shed", "build/gen/yard_shed.rs"⟩], []⟩, rfl,
    generate_meadow (by decide +kernel) (by decide +kernel), rfl, by decide, ?_⟩
  obtain ⟨gains, u, named, gained⟩ := Store.exists_gainsAll ["Shed", "Shed"] .empty
  obtain ⟨⟨_, first⟩, gains, rfl, rfl, others⟩ := List.map_eq_cons_iff.1 named
  obtain ⟨⟨_, second⟩, gains, rfl, rfl, none⟩ := List.map_eq_cons_iff.1 others
  obtain rfl := List.map_eq_nil_iff.1 none
  refine ⟨first, second, u, gained, ?_, ?_⟩
  · have last : Store.GainsAll ([("Shed", first)] ++ ("Shed", second) :: []) .empty u := gained
    exact (last.finds_iff rfl).2 (by simp)
  · have earlier : Store.GainsAll ([] ++ ("Shed", first) :: [("Shed", second)]) .empty u := gained
    exact fun found => (earlier.finds_iff rfl).1 found (by simp)

end ScriptBridge.Generation
