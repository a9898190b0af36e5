import ScriptBridge.Proofs.Binding.WellNamed
import ScriptBridge.Proofs.Generation.Deposit
import ScriptBridge.Proofs.Generation.Locality

/-!
# ScriptBridge.Proofs.Generation.WellNamed

Runs on databases whose names and types are in order.

A run can end early for two reasons: a file cannot be written, or a name is no identifier.  The names come from the
database and the options alone, whatever is requested.  If these are in order, the code of every class can be made, so
that nothing but the file system can stop a run.

Main results:
  * `Represents.wellNamed_scope` - every class of a well-named database is well named;
  * `perform_error` - carrying out a plan fails at files only;
  * `generate_wellNamed` - a run on a well-named database comes to its end, or to a file that cannot be written.
-/

namespace ScriptBridge.Symbol

open ScriptBridge.Database ScriptBridge.Text

/-! ## §1. Well-named databases. -/

/-- The classes of an entry are well named: the one at the top, and those among its members. -/
structure Scope.ClassesWellNamed (s : Scope) : Prop where
  top : s.owner.kind.isClassLike = true → s.WellNamed
  inner : ∀ d ∈ s.members, d.kind.isClassLike = true → Scoped Usable d.name.toList

/-- All classes that the entries declare are well named. -/
def WellNamed (entries : List Entry) : Prop :=
  ∀ e ∈ entries, ∀ s, entryScope e = .ok s → s.ClassesWellNamed

namespace Registry

/-- **Every class of a well-named database is well named.** -/
theorem Represents.wellNamed_scope {r : Registry} {entries : List Entry} (h : r.Represents entries)
    (named : WellNamed entries) {s : Symbol} (known : s ∈ r.symbols)
    (classLike : s.declaration.kind.isClassLike = true) : (r.scope s).WellNamed := by
  obtain ⟨i, at_⟩ := List.mem_iff_getElem?.1 known
  have bound : i < (inOrder entries).length := by
    rw [← h.length]
    exact (List.getElem?_eq_some_iff.1 at_).1
  obtain ⟨k, e, here, place⟩ := exists_place entries bound
  obtain ⟨root, at_root, -, members⟩ := h.root k e here
  have found : r.find? e.name = some root := h.find?_root here at_root
  have classes := named e (List.mem_of_getElem? here) _ (h.scope_of_entry (List.mem_of_getElem? here) found)
  rcases place with rfl | ⟨j, inside, rfl⟩
  · obtain rfl := Option.some.inj (at_root.symm.trans at_)
    exact classes.top classLike
  · -- a class among the members has no members of its own
    obtain ⟨member, at_member, -, none⟩ := h.member k e j here inside
    obtain rfl := Option.some.inj (at_member.symm.trans at_)
    have declared : member.declaration ∈ (r.scope root).members := by
      refine List.mem_map_of_mem (List.mem_filterMap.2 ⟨rootNumber entries k + 1 + j, ?_, at_member⟩)
      rw [members, List.mem_range'_1]
      omega
    have alone : (r.scope member).members = [] := by
      rw [scope, children, none]
      rfl
    exact ⟨classes.inner _ declared classLike, by simp [alone]⟩

end Registry

end ScriptBridge.Symbol

namespace ScriptBridge.Generation

open ScriptBridge.Database (Entry)
open ScriptBridge.Symbol ScriptBridge.Binding ScriptBridge.Token ScriptBridge.Files ScriptBridge.Declared
open ScriptBridge.Text (Scoped)

/-! ## §2. The classes of a run. -/

section

variable {r : Registry}

/-- A class that is generated was asked for by name. -/
theorem Settles.exists_name {earlier names : List String} {ds : List Decision} (h : Settles r earlier names ds)
    {s : Symbol} (mem : s ∈ classesOf ds) : ∃ name ∈ names, NamesClass r name s := by
  induction h with
  | nil => cases mem
  | cons first _ ih =>
    obtain ⟨d, listed, generated⟩ := List.mem_filterMap.1 mem
    rcases List.mem_cons.1 listed with rfl | later
    · cases d with
      | repeated => cases generated
      | skip => cases generated
      | generate s =>
        cases generated
        exact ⟨_, List.mem_cons_self, ((first.generated s).1 rfl).1⟩
    · obtain ⟨name, known, named⟩ := ih (List.mem_filterMap.2 ⟨d, later, generated⟩)
      exact ⟨name, List.mem_cons_of_mem _ known, named⟩

/-- The classes of a run are classes of its registry. -/
theorem mem_symbols_of_classesOf {names : List String} {s : Symbol} (mem : s ∈ classesOf (decisions r names)) :
    s ∈ r.symbols ∧ s.declaration.kind.isClassLike = true := by
  rw [← classesOf_settled] at mem
  obtain ⟨name, -, found, classLike⟩ := (settles_decisions r names).exists_name mem
  obtain ⟨i, -, at_⟩ := Option.bind_eq_some_iff.1 found
  exact ⟨List.mem_of_getElem? at_, classLike⟩

end

/-! ## §3. What ends a run. -/

section

variable {t : Tree} {out : String} {options : Options} {r : Registry} {names : List String}

/-- Carrying out a plan fails at files only. -/
theorem perform_error {actions : List Action} {problem : Problem}
    (failed : ((perform actions : StateM Tree _) t).1.2 = .error problem) : ∃ path e, problem = .file path e := by
  induction actions generalizing t with
  | nil => cases failed
  | cons action rest ih =>
    cases action with
    | report entry =>
      rw [perform_report] at failed
      exact ih failed
    | write path text =>
      cases written : t.write path text with
      | error e =>
        rw [perform_write_error rest written] at failed
        cases failed
        exact ⟨path, e, rfl⟩
      | ok next =>
        rw [perform_write_ok rest written] at failed
        exact ih (map_eq_error_iff.1 failed)

/-- A run ends as its plan does, or at a file that cannot be written. -/
theorem generate_result (options : Options) (r : Registry) (names : List String) (out : String) (t : Tree) :
    ((generate options r names out : StateM Tree _) t).1.result =
        (Plan.ofRequests options.paths r out names).ending.mapError .identifier ∨
      ∃ path e, ((generate options r names out : StateM Tree _) t).1.result = .error (.file path e) := by
  cases made : (prepared options out t).2 with
  | error e =>
    rw [generate_unprepared made]
    exact .inr ⟨out, e, rfl⟩
  | ok =>
    rw [generate, run_bind, run_prepare, made]
    generalize Plan.ofRequests options.paths r out names = plan
    simp only [Except.mapError]
    rw [run_bind]
    rcases carried : (perform plan.actions : StateM Tree _) (prepared options out t).1 with
      ⟨⟨log, problem | count⟩, last⟩
    · obtain ⟨path, e, rfl⟩ := perform_error (congrArg (·.1.2) carried)
      exact .inr ⟨path, e, rfl⟩
    · left
      cases plan.ending with
      | error e => rfl
      | ok report => rfl

/-- If the code for a run can be made, it comes to its end, or to a file that cannot be written. -/
theorem generate_ended {report : Report} (ended : (Plan.ofRequests options.paths r out names).ending = .ok report) :
    ((generate options r names out : StateM Tree _) t).1.result = .ok report ∨
      ∃ path e, ((generate options r names out : StateM Tree _) t).1.result = .error (.file path e) := by
  refine (generate_result options r names out t).imp_left (fun result => ?_)
  rw [result, ended]
  rfl

end

/-! ## §4. Runs on well-named databases. -/

/-- A run that nothing but files can stop, and whose identifiers are valid. -/
structure RunsThrough (options : Options) (r : Registry) (names : List String) (out : String) : Prop where
  /-- On every tree, the run comes to its end, or to a file that cannot be written. -/
  ends : ∀ t : Tree,
    ((generate options r names out : StateM Tree _) t).1.result = .ok (reportOn out (decisions r names)) ∨
      ∃ path e, ((generate options r names out : StateM Tree _) t).1.result = .error (.file path e)
  /-- The code of every class can be made, and its identifiers are valid. -/
  classes : ∀ s ∈ classesOf (decisions r names), ∃ f, (ClassFile.ofScope options.paths (r.scope s)).2 = .ok f ∧
    ∀ id ∈ identifiers f.tokens, id.IsName
  /-- So can that of the module file, and its identifiers are valid as well. -/
  modules : ∃ f, ModuleFile.ofModules options.paths ((classesOf (decisions r names)).map moduleOf) = .ok f ∧
    ∀ id ∈ identifiers f.tokens, id.IsName

/-- The plan for classes whose code can be made ends with a report. -/
theorem ending_of_made {paths : Paths} {r : Registry} {names : List String} {out : String} {f : ModuleFile}
    (classes : ∀ s ∈ classesOf (decisions r names), ∃ f, (ClassFile.ofScope paths (r.scope s)).2 = .ok f)
    (modules : ModuleFile.ofModules paths ((classesOf (decisions r names)).map moduleOf) = .ok f) :
    (Plan.ofRequests paths r out names).ending = .ok (reportOn out (decisions r names)) := by
  obtain ⟨outputs, -, submits⟩ := submits_ofRequests paths r out names
  have code : ∀ s ∈ classesOf (decisions r names), ∃ text, classCode paths (r.scope s) = .ok text := by
    intro s mem
    obtain ⟨f, made⟩ := classes s mem
    exact ⟨layout f.tokens, by rw [classCode, made]; rfl⟩
  have tied : modulesCode paths ((reportOn out (decisions r names)).generated.map (·.module)) =
      .ok (layout f.tokens) := by
    rw [modules_reportOn, modulesCode, modules]
    rfl
  obtain ⟨report, ended⟩ := submits.exists_report_iff.2 ⟨code, _, tied⟩
  rw [ended] at submits
  rw [ended, submits.of_reported.1]

/-- **A run on a well-named database comes to its end**, or to a file that cannot be written, whatever is requested. -/
theorem generate_wellNamed {entries : List Entry} {r : Registry} {options : Options}
    (loaded : Registry.ofEntries entries = .ok r) (named : WellNamed entries) (known : options.paths.WellNamed)
    (names : List String) (out : String) : RunsThrough options r names out := by
  have wellNamed : ∀ s ∈ classesOf (decisions r names), (r.scope s).WellNamed := by
    intro s mem
    obtain ⟨symbol, classLike⟩ := mem_symbols_of_classesOf mem
    exact (Registry.represents_ofEntries loaded).wellNamed_scope named symbol classLike
  have classes : ∀ s ∈ classesOf (decisions r names), ∃ f, (ClassFile.ofScope options.paths (r.scope s)).2 = .ok f :=
    fun s mem => ClassFile.exists_ofScope known (wellNamed s mem)
  obtain ⟨f, modules⟩ : ∃ f,
      ModuleFile.ofModules options.paths ((classesOf (decisions r names)).map moduleOf) = .ok f := by
    -- modules are named after the classes, whose names are well-formed
    have byName : (classesOf (decisions r names)).map moduleOf =
        ((classesOf (decisions r names)).map (·.declaration.name)).map moduleName := by
      rw [List.map_map]
      rfl
    rw [byName]
    refine ModuleFile.exists_ofModules known (fun name mem => ?_)
    obtain ⟨s, listed, rfl⟩ := List.mem_map.1 mem
    exact (wellNamed s listed).owner
  exact {
    ends := fun t => generate_ended (ending_of_made classes modules)
    classes := by
      intro s mem
      obtain ⟨f, made⟩ := classes s mem
      exact ⟨f, made, ClassFile.isName_tokens made⟩
    modules := ⟨f, modules, ModuleFile.isName_tokens modules⟩ }

/-- A class in a scope, with overloaded methods, fields, and a class among its members. -/
def bed : Entry :=
  { (default : Entry) with
    kind := "class", name := "garden::Bed",
    members := some [
      { (default : Entry) with
        kind := "function", name := "plantAll",
        parameters := some [⟨"rows", "const QList<garden::Row<int, Plant *>> &"⟩] },
      { (default : Entry) with kind := "function", name := "plantAll", parameters := some [⟨"count", "int"⟩] },
      { (default : Entry) with kind := "variable", name := "type", type := some "QString", native := some "match" },
      { (default : Entry) with
        kind := "variable", name := "Size2D", type := some "const int", isStatic := some true },
      { (default : Entry) with kind := "struct", name := "Frame3D" }] }

/-- The declarations of the class and its members. -/
def bedScope : Scope :=
  (entryScope bed).toOption.getD ⟨default, []⟩

theorem isType_int : IsType "int".toList :=
  .builtin (b := .i32) (s := "int") (by decide) rfl

/-- Templates in templates, with decorations outside and inside. -/
theorem isType_rows : IsType "const QList<garden::Row<int, Plant *>> &".toList := by
  have plant : IsType " Plant *".toList :=
    .signBefore rfl (.signAfter rfl (.signAfter rfl (.name (s := "Plant".toList) (.one (by decide +kernel)))))
  have arguments : ∀ arg ∈ ["int".toList, " Plant *".toList], IsType arg :=
    List.forall_mem_cons.2 ⟨isType_int, List.forall_mem_singleton.2 plant⟩
  have row : Scoped Usable "garden::Row".toList :=
    .cons (w := "garden".toList) (s := "Row".toList) (by decide +kernel) (.one (by decide +kernel))
  have rows := IsType.template row (List.forall_mem_nil _) (.inl rfl) arguments (.inl rfl)
  have list := IsType.template (.one (by decide +kernel : Usable "QList".toList))
    (List.forall_mem_nil _) (.inl rfl) (List.forall_mem_singleton.2 rows) (.inl rfl)
  exact .wordBefore (w := "const".toList) rfl rfl (.signAfter rfl (.signAfter rfl list))

theorem wellNamed_bed : WellNamed [bed] := by
  have read : entryScope bed = .ok bedScope := rfl
  have names : ∀ d ∈ bedScope.members, Usable d.name.toList := by decide +kernel
  have natives : ∀ d ∈ bedScope.members, ∀ native ∈ d.native, Usable native.toList := by decide +kernel
  have parameters : ∀ d ∈ bedScope.members, ∀ p ∈ d.parameters,
      p.type = "int" ∨ p.type = "const QList<garden::Row<int, Plant *>> &" := by decide +kernel
  have fields : ∀ d ∈ bedScope.members, d.isExposedField = true → d.type = "QString" := by decide +kernel
  have string : IsType "QString".toList := .builtin (b := .string) (s := "QString") (by decide) rfl
  have owner : Scoped Usable "garden::Bed".toList :=
    .cons (w := "garden".toList) (s := "Bed".toList) (by decide +kernel) (.one (by decide +kernel))
  intro e mem s scope
  obtain rfl := List.mem_singleton.1 mem
  obtain rfl := Except.ok.inj (read.symm.trans scope)
  refine ⟨fun _ => ⟨owner, fun d member _ =>
    ⟨names d member, natives d member, fun _ p known => ?_, fun exposed => ?_⟩⟩, fun d member _ => .one (names d member)⟩
  · rcases parameters d member p known with same | same
    · rw [same]
      exact isType_int
    · rw [same]
      exact isType_rows
  · rw [fields d member exposed]
    exact string

theorem generate_wellNamed_bed : ∃ r, Registry.ofEntries [bed] = .ok r ∧ WellNamed [bed] ∧
    Options.standard.paths.WellNamed ∧
      RunsThrough .standard r ["garden::Bed", "garden::Bed::Frame3D", "garden::Bed", "garden"] "gen" := by
  obtain ⟨r, loaded⟩ : ∃ r, Registry.ofEntries [bed] = .ok r := exists_ok (by decide +kernel)
  have known : Options.standard.paths.WellNamed :=
    ⟨.one (by decide), .cons (w := "super".toList) (s := "super".toList) (by decide) (.one (by decide))⟩
  exact ⟨r, loaded, wellNamed_bed, known, generate_wellNamed loaded wellNamed_bed known _ _⟩

end ScriptBridge.Generation
