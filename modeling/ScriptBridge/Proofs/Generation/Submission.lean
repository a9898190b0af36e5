import ScriptBridge.Proofs.Binding.ModuleFile
import ScriptBridge.Proofs.Generation.Requests

/-!
# ScriptBridge.Proofs.Generation.Submission

What a run submits for its requests, and what it reports.

The plan follows the decisions: the file of a class comes when the class is decided, the module file at the end.  The
first name that is no identifier ends the plan, and then there is no report.  `Submits` says this for the decisions
that are left, with the report that they lead to; everything else is read off it.

Main results:
  * `submits_ofDecisions` - the plan submits what the decisions ask for;
  * `Submits.exists_report_iff` - when there is a report;
  * `Plan.accounts_ofRequests` - the decisions, the report, the files and the module file are in step.
-/

namespace ScriptBridge.Generation

open ScriptBridge.Symbol ScriptBridge.Binding ScriptBridge.Token

/-! ## §1. Files. -/

/-- The code of a class. -/
def classCode (paths : Paths) (s : Scope) : Except IdentifierError String :=
  (ClassFile.ofScope paths s).2.map (fun f => layout f.tokens)

/-- The code of the module file. -/
def modulesCode (paths : Paths) (modules : List String) : Except IdentifierError String :=
  (ModuleFile.ofModules paths modules).map (fun f => layout f.tokens)

/-- A file that is submitted, by its module. -/
structure Output where
  module : String
  text : String
  deriving DecidableEq, Repr

/-- The path of the file and its text. -/
def Output.file (out : String) (o : Output) : String × String :=
  (filePath out o.module, o.text)

/-- The file is that of the class. -/
def Codes (paths : Paths) (r : Registry) (s : Symbol) (o : Output) : Prop :=
  o.module = moduleOf s ∧ classCode paths (r.scope s) = .ok o.text

/-- Files of classes have the modules of these classes. -/
theorem modules_of_codes {paths : Paths} {r : Registry} {classes : List Symbol} {files : List Output}
    (each : List.Forall₂ (Codes paths r) classes files) : files.map (·.module) = classes.map moduleOf :=
  (map_eq_of_forall₂ (each.imp (fun _ _ codes => codes.1.symm))).symm

/-- The file that an action writes. -/
def Action.file? : Action → Option (String × String)
  | .report _ => none
  | .write path text => some (path, text)

/-- The files that a plan submits, in order. -/
def Plan.files (p : Plan) : List (String × String) :=
  p.actions.filterMap Action.file?

theorem Plan.files_after (first : List Action) (p : Plan) :
    (p.after first).files = first.filterMap Action.file? ++ p.files :=
  List.filterMap_append

/-! ## §2. The report. -/

/-- The classes that decisions generate. -/
def classesOf (ds : List Decision) : List Symbol :=
  ds.filterMap Decision.class?

/-- The report on decisions. -/
def reportOn (out : String) (ds : List Decision) : Report :=
  ⟨(classesOf ds).map (Generated.ofSymbol out), ds.filterMap Decision.skipped?⟩

/-- A report, continued by another one. -/
def Report.append (first second : Report) : Report :=
  ⟨first.generated ++ second.generated, first.skipped ++ second.skipped⟩

/-- What says nothing about repetitions can be read off the other decisions. -/
theorem filterMap_settles {α : Type} {f : Decision → Option α} (silent : ∀ name, f (.repeated name) = none)
    (ds : List Decision) : (ds.filter Decision.settles).filterMap f = ds.filterMap f := by
  rw [List.filterMap_filter]
  congr 1
  funext d
  cases d with
  | repeated name => exact (silent name).symm
  | skip => rfl
  | generate => rfl

theorem classesOf_settled (ds : List Decision) : classesOf (ds.filter Decision.settles) = classesOf ds :=
  filterMap_settles (fun _ => rfl) ds

/-- No two generated classes have the same module. -/
theorem nodup_modules (r : Registry) (names : List String) : ((classesOf (decisions r names)).map moduleOf).Nodup := by
  have apart : ((classesOf ((decisions r names).filter Decision.settles)).map moduleOf).Nodup :=
    (settles_decisions r names).modules.1
  rwa [classesOf_settled] at apart

theorem append_reportOn_skip (report : Report) (out : String) (request : Skipped) (ds : List Decision) :
    report.append (reportOn out (.skip request :: ds)) = (report.addSkipped request).append (reportOn out ds) :=
  congrArg (Report.mk _) (List.append_assoc report.skipped [request] _).symm

theorem append_reportOn_generate (report : Report) (out : String) (s : Symbol) (ds : List Decision) :
    report.append (reportOn out (.generate s :: ds)) =
      (report.addGenerated (.ofSymbol out s)).append (reportOn out ds) :=
  congrArg (Report.mk · _) (List.append_assoc report.generated [.ofSymbol out s] _).symm

/-- The modules of the report are those of the classes. -/
theorem modules_reportOn (out : String) (ds : List Decision) :
    (reportOn out ds).generated.map (·.module) = (classesOf ds).map moduleOf := by
  rw [reportOn, List.map_map]
  rfl

/-! ## §3. What is submitted. -/

/-- The files that are submitted for the classes that are left, and how it ends, if the run has this report. -/
inductive Submits (paths : Paths) (r : Registry) (report : Report) :
    List Symbol → List Output → Except IdentifierError Report → Prop where
  /-- The code of the next class cannot be made. -/
  | broken {s : Symbol} {later : List Symbol} {e : IdentifierError} (failed : classCode paths (r.scope s) = .error e) :
      Submits paths r report (s :: later) [] (.error e)
  /-- The file of the next class. -/
  | next {s : Symbol} {later : List Symbol} {o : Output} {outputs : List Output}
      {ending : Except IdentifierError Report} (made : Codes paths r s o)
      (others : Submits paths r report later outputs ending) :
      Submits paths r report (s :: later) (o :: outputs) ending
  /-- The module file cannot be made. -/
  | untied {e : IdentifierError} (failed : modulesCode paths (report.generated.map (·.module)) = .error e) :
      Submits paths r report [] [] (.error e)
  /-- The module file ends the run. -/
  | reported {text : String} (made : modulesCode paths (report.generated.map (·.module)) = .ok text) :
      Submits paths r report [] [⟨"mod", text⟩] (.ok report)

section

variable {paths : Paths} {r : Registry} {out : String}

/-- Reports come before the file of a class, and the file comes if its code can be made. -/
theorem classActions_eq (s : Symbol) : ∃ reports : List Action, reports.filterMap Action.file? = [] ∧
    classActions paths r out s = match classCode paths (r.scope s) with
      | .error e => (reports, .error e)
      | .ok text => (reports ++ [.write (filePath out (moduleOf s)) text], .ok ()) := by
  unfold classActions classCode
  rcases ClassFile.ofScope paths (r.scope s) with ⟨log, file⟩
  refine ⟨note .debug ("generating bindings for " ++ s.declaration.name) :: log.map Action.report, ?_, ?_⟩
  · show (log.map Action.report).filterMap Action.file? = []
    rw [List.filterMap_map]
    exact List.filterMap_eq_nil_iff.2 (fun _ _ => rfl)
  · cases file with
    | error e => rfl
    | ok file => rfl

theorem submits_close (report : Report) : ∃ outputs : List Output,
    (Plan.close paths out report).files = outputs.map (Output.file out) ∧
      Submits paths r report [] outputs (Plan.close paths out report).ending := by
  unfold Plan.close
  cases tied : ModuleFile.ofModules paths (report.generated.map (·.module)) with
  | error e =>
    refine ⟨[], rfl, .untied ?_⟩
    rw [modulesCode, tied]
    rfl
  | ok file =>
    refine ⟨[⟨"mod", layout file.tokens⟩], rfl, .reported ?_⟩
    rw [modulesCode, tied]
    rfl

/-- **The plan submits what the decisions ask for**, whatever was reported before. -/
theorem submits_ofDecisions (ds : List Decision) (report : Report) : ∃ outputs : List Output,
    (Plan.ofDecisions paths r out report ds).files = outputs.map (Output.file out) ∧
      Submits paths r (report.append (reportOn out ds)) (classesOf ds) outputs
        (Plan.ofDecisions paths r out report ds).ending := by
  -- every decision adds to the report, and the report in the end is the same
  induction ds generalizing report with
  | nil =>
    have whole : report.append (reportOn out []) = report := by simp [Report.append, reportOn, classesOf]
    rw [whole]
    exact submits_close report
  | cons d ds ih =>
    cases d with
    | repeated name => exact ih report
    | skip request =>
      rw [append_reportOn_skip]
      exact ih (report.addSkipped request)
    | generate s =>
      obtain ⟨reports, silent, actions⟩ : ∃ reports, _ ∧ classActions paths r out s = _ := classActions_eq s
      rw [append_reportOn_generate, Plan.ofDecisions, actions]
      show ∃ outputs, _ ∧ Submits paths r _ (s :: classesOf ds) outputs _
      cases code : classCode paths (r.scope s) with
      | error e => exact ⟨[], silent, .broken code⟩
      | ok text =>
        obtain ⟨outputs, files, submits⟩ := ih (report.addGenerated (.ofSymbol out s))
        refine ⟨⟨moduleOf s, text⟩ :: outputs, ?_, .next ⟨rfl, code⟩ submits⟩
        show Plan.files (.after _ _) = _
        rw [Plan.files_after, List.filterMap_append, silent, files]
        rfl

theorem submits_ofRequests (paths : Paths) (r : Registry) (out : String) (names : List String) :
    ∃ outputs : List Output, (Plan.ofRequests paths r out names).files = outputs.map (Output.file out) ∧
      Submits paths r (reportOn out (decisions r names)) (classesOf (decisions r names)) outputs
        (Plan.ofRequests paths r out names).ending :=
  submits_ofDecisions (decisions r names) ⟨[], []⟩

/-! ## §4. The two ends of a run. -/

namespace Submits

variable {report : Report} {classes : List Symbol} {outputs : List Output}

/-- At its end, a run has submitted the files of all classes and the module file, in this order. -/
theorem of_reported {found : Report} (h : Submits paths r report classes outputs (.ok found)) :
    found = report ∧ ∃ (files : List Output) (text : String), outputs = files ++ [⟨"mod", text⟩] ∧
      List.Forall₂ (Codes paths r) classes files ∧ modulesCode paths (report.generated.map (·.module)) = .ok text := by
  generalize ended : Except.ok found = ending at h
  induction h with
  | broken => cases ended
  | untied => cases ended
  | next made _ ih =>
    obtain ⟨same, files, text, rfl, each, tied⟩ := ih ended
    exact ⟨same, _ :: files, text, rfl, .cons made each, tied⟩
  | reported made => exact ⟨Except.ok.inj ended, [], _, rfl, .nil, made⟩

/-- If a run breaks off, it has submitted the files of the classes before the one whose code could not be made. -/
theorem of_broken {e : IdentifierError} (h : Submits paths r report classes outputs (.error e)) :
    ∃ before rest, classes = before ++ rest ∧ List.Forall₂ (Codes paths r) before outputs ∧
      (rest = [] ∧ modulesCode paths (report.generated.map (·.module)) = .error e ∨
        ∃ s later, rest = s :: later ∧ classCode paths (r.scope s) = .error e) := by
  generalize ended : Except.error e = ending at h
  induction h with
  | @broken s later _ failed => exact ⟨[], s :: later, rfl, .nil, .inr ⟨s, later, rfl, Except.error.inj ended ▸ failed⟩⟩
  | untied failed => exact ⟨[], [], rfl, .nil, .inl ⟨rfl, Except.error.inj ended ▸ failed⟩⟩
  | @next s _ _ _ _ made _ ih =>
    obtain ⟨before, rest, rfl, each, why⟩ := ih ended
    exact ⟨s :: before, rest, rfl, .cons made each, why⟩
  | reported => cases ended

/-- There is a report exactly if all code can be made. -/
theorem exists_report_iff {ending : Except IdentifierError Report} (h : Submits paths r report classes outputs ending) :
    (∃ found, ending = .ok found) ↔ (∀ s ∈ classes, ∃ text, classCode paths (r.scope s) = .ok text) ∧
      ∃ text, modulesCode paths (report.generated.map (·.module)) = .ok text := by
  induction h with
  | broken failed =>
    refine iff_of_false (by rintro ⟨_, ⟨⟩⟩) ?_
    rintro ⟨all, -⟩
    obtain ⟨text, made⟩ := all _ List.mem_cons_self
    rw [failed] at made
    cases made
  | untied failed =>
    refine iff_of_false (by rintro ⟨_, ⟨⟩⟩) ?_
    rintro ⟨-, text, made⟩
    rw [failed] at made
    cases made
  | next made _ ih =>
    rw [ih, List.forall_mem_cons]
    exact and_congr_left' (iff_and_self.2 (fun _ => ⟨_, made.2⟩))
  | reported made => exact iff_of_true ⟨report, rfl⟩ ⟨List.forall_mem_nil _, _, made⟩

/-- The file at the place of a class is that of the class. -/
theorem codes_at {ending : Except IdentifierError Report} (h : Submits paths r report classes outputs ending) {i : Nat}
    {s : Symbol} {o : Output} (asked : classes[i]? = some s) (submitted : outputs[i]? = some o) :
    Codes paths r s o := by
  induction h generalizing i with
  | broken => cases submitted
  | untied => cases submitted
  | reported => cases asked
  | next made _ ih =>
    cases i with
    | zero =>
      cases asked
      cases submitted
      exact made
    | succ i => exact ih asked submitted

end Submits

/-- The module file of a run ties the modules of its classes together. -/
theorem ties_of_modulesCode {classes : List Symbol} {text : String}
    (h : modulesCode paths (classes.map moduleOf) = .ok text) :
    ∃ code, text = layout code ∧ ModuleFile.Ties (classes.map moduleOf) code := by
  have named : classes.map moduleOf = (classes.map (·.declaration.name)).map moduleName := by
    rw [List.map_map]
    rfl
  unfold modulesCode at h
  cases made : ModuleFile.ofModules paths (classes.map moduleOf) with
  | error e =>
    rw [made] at h
    cases h
  | ok file =>
    rw [made] at h
    cases h
    rw [named] at made ⊢
    exact ⟨file.tokens, rfl, ModuleFile.ties_ofModules made⟩

end

/-! ## §5. The account of a request list. -/

/-- What a plan has to show for a request list: settled decisions, and a report and files that are in step with them. -/
structure Plan.Accounts (paths : Paths) (r : Registry) (out : String) (names : List String) (settled : List Decision)
    (p : Plan) : Prop where
  /-- The list without repetitions has one decision for each name, in order. -/
  settles : Settles r [] names.eraseDups settled
  /-- No two generated classes have the same module. -/
  apart : ((classesOf settled).map moduleOf).Nodup
  /-- There is a report if all code can be made. -/
  reports_iff : (∃ report, p.ending = .ok report) ↔
    (∀ s ∈ classesOf settled, ∃ text, classCode paths (r.scope s) = .ok text) ∧
      ∃ text, modulesCode paths ((classesOf settled).map moduleOf) = .ok text
  /-- The report lists what was settled.  A file was submitted for each generated class, in order, and then the one that
  declares and registers their modules, in order. -/
  reported : ∀ report, p.ending = .ok report → report = reportOn out settled ∧
    ∃ (outputs : List Output) (code : List Token), List.Forall₂ (Codes paths r) (classesOf settled) outputs ∧
      p.files = (outputs ++ [Output.mk "mod" (layout code)]).map (Output.file out) ∧
      ModuleFile.Ties ((classesOf settled).map moduleOf) code
  /-- Otherwise the files before the first that could not be made were submitted. -/
  broken : ∀ e, p.ending = .error e → ∃ before rest outputs, classesOf settled = before ++ rest ∧
    List.Forall₂ (Codes paths r) before outputs ∧ p.files = outputs.map (Output.file out) ∧
      (rest = [] ∧ modulesCode paths ((classesOf settled).map moduleOf) = .error e ∨
        ∃ s later, rest = s :: later ∧ classCode paths (r.scope s) = .error e)

end ScriptBridge.Generation
