import ScriptBridge.Generation.Run
import ScriptBridge.Proofs.Files.Tree
import ScriptBridge.Proofs.Generation.Submission
import ScriptBridge.Proofs.Symbol.Registry

/-!
# ScriptBridge.Proofs.Generation.Deposit

What a run does to a file tree.

A module name is a single part of a path, so all files of a run stand next to each other in one directory, and each is
written where it belongs.  A run clears and makes that directory and then puts files into it, up to the first that
cannot be written.

Main results:
  * `perform_deposits` - carrying out a plan puts its files into the directory, and does nothing else;
  * `generate_run` - a whole run, taken apart;
  * `generate_ok` - when a run succeeds.
-/

namespace ScriptBridge.Generation

open ScriptBridge.Symbol ScriptBridge.Binding ScriptBridge.Token ScriptBridge.Files

/-! ## §1. Files in a directory. -/

/-- The name of the file in its directory. -/
def Output.fileName (o : Output) : String :=
  o.module ++ ".rs"

/-- The tree with files put into a directory, one after the other. -/
def deposit (place : Place) (t : Tree) (outputs : List Output) : Tree :=
  outputs.foldl (fun t o => t.set (place ++ [o.fileName]) (.file o.text.toUTF8)) t

/-- Module names are names, and that of the module file is one as well. -/
theorem isName_fileName {module : String} (plain : '/' ∉ module.toList) : IsName (module ++ ".rs") where
  slash := by
    rw [String.toList_append, List.mem_append, not_or]
    exact ⟨plain, by decide⟩
  down := by
    have ending : (module ++ ".rs").toList = module.toList ++ ['.', 'r', 's'] := String.toList_append
    have long : 3 ≤ (module ++ ".rs").toList.length := by
      rw [ending, List.length_append]
      exact Nat.le_add_left 3 _
    unfold Step.ofPart?
    rw [if_neg, if_neg, String.ofList_toList]
    · intro same
      rw [same] at long
      exact absurd long (by decide)
    · rintro (same | same)
      · rw [same] at long
        exact absurd long (by decide)
      · rw [same] at long
        exact absurd long (by decide)

/-- Two outputs are written to the same file only if they are of one module. -/
theorem fileName_injective {o p : Output} (same : o.fileName = p.fileName) : o.module = p.module :=
  (String.append_left_inj ".rs").1 same

section

variable {place : Place} {t : Tree}

/-- Outputs are written one series after the other. -/
theorem deposit_append (first second : List Output) :
    deposit place t (first ++ second) = deposit place (deposit place t first) second :=
  List.foldl_append

/-- A file that is put into a directory changes nothing outside. -/
theorem node?_deposit_of_ne {outputs : List Output} {other : Place}
    (apart : ∀ o ∈ outputs, other ≠ place ++ [o.fileName]) : (deposit place t outputs).node? other = t.node? other := by
  induction outputs generalizing t with
  | nil => rfl
  | cons o outputs ih =>
    show (deposit place (t.set (place ++ [o.fileName]) (.file o.text.toUTF8)) outputs).node? other = _
    rw [ih (fun p mem => apart p (List.mem_cons_of_mem o mem)), Tree.node?_set (by simp),
      if_neg (apart o List.mem_cons_self)]

/-- Files do not make directories. -/
theorem node?_deposit_ne_directory {outputs : List Output} {other : Place} (free : t.node? other ≠ some .directory) :
    (deposit place t outputs).node? other ≠ some .directory := by
  induction outputs generalizing t with
  | nil => exact free
  | cons o outputs ih =>
    apply ih
    rw [Tree.node?_set (by simp)]
    split
    · rintro ⟨⟩
    · exact free

/-- Files do not take anything away. -/
theorem isSome_node?_deposit {outputs : List Output} {other : Place} (here : (t.node? other).isSome = true) :
    ((deposit place t outputs).node? other).isSome = true := by
  induction outputs generalizing t with
  | nil => exact here
  | cons o outputs ih =>
    apply ih
    rw [Tree.node?_set (by simp)]
    split
    · rfl
    · exact here

/-- What is held stays held when outputs are written. -/
theorem held_deposit (outputs : List Output) : (deposit place t outputs).held = t.held := by
  induction outputs generalizing t with
  | nil => rfl
  | cons o outputs ih => exact ih

/-- Of several files with one name the last one stays. -/
theorem node?_deposit_last {before after : List Output} {o : Output} (last : ∀ p ∈ after, p.module ≠ o.module) :
    (deposit place t (before ++ o :: after)).node? (place ++ [o.fileName]) = some (.file o.text.toUTF8) := by
  rw [deposit_append]
  show (deposit place (Tree.set _ (place ++ [o.fileName]) (.file o.text.toUTF8)) after).node? _ = _
  rw [node?_deposit_of_ne, Tree.node?_set (by simp), if_pos rfl]
  intro p mem same
  have name : o.fileName = p.fileName := by simpa using same
  exact last p mem (fileName_injective name).symm

/-- What a series of files leaves behind: one of them for each name. -/
theorem exists_deposit (place : Place) (t : Tree) {outputs : List Output} {o : Output} (mem : o ∈ outputs) :
    ∃ p ∈ outputs, p.module = o.module ∧
      (deposit place t outputs).node? (place ++ [o.fileName]) = some (.file p.text.toUTF8) := by
  -- induction from the last file on, since a later file of a name replaces the earlier ones
  induction outputs using List.reverseRecOn with
  | nil => cases mem
  | append_singleton outputs last ih =>
    by_cases same : last.module = o.module
    · refine ⟨last, by simp, same, ?_⟩
      have name : o.fileName = last.fileName := by rw [Output.fileName, Output.fileName, same]
      rw [name]
      exact node?_deposit_last (List.forall_mem_nil _)
    · have before : o ∈ outputs := by
        rcases List.mem_append.1 mem with before | only
        · exact before
        · exact absurd (by rw [List.mem_singleton.1 only]) same
      obtain ⟨p, known, module, here⟩ := ih before
      refine ⟨p, List.mem_append_left _ known, module, ?_⟩
      rw [deposit_append, node?_deposit_of_ne, here]
      intro q only name
      obtain rfl := List.mem_singleton.1 only
      exact same (fileName_injective (by simpa using name)).symm

end

/-! ## §2. Carrying out a plan. -/

/-- The files have been put into the directory at a place, and each could be. -/
structure Deposits (out : String) (place : Place) (t : Tree) (done : List Output) (last : Tree) : Prop where
  tree : last = deposit place t done
  reached : last.walk [] (steps out) = .ok place
  takes : ∀ o ∈ done, Tree.Takes (filePath out o.module) o.fileName

section

variable {out : String} {place : Place} {t : Tree}

theorem Deposits.nil (reached : t.walk [] (steps out) = .ok place) : Deposits out place t [] t :=
  ⟨rfl, reached, List.forall_mem_nil _⟩

/-- One more file in front. -/
theorem Deposits.cons {o : Output} {done : List Output} {last : Tree}
    (takes : Tree.Takes (filePath out o.module) o.fileName)
    (h : Deposits out place (t.set (place ++ [o.fileName]) (.file o.text.toUTF8)) done last) :
    Deposits out place t (o :: done) last :=
  ⟨h.tree, h.reached, List.forall_mem_cons.2 ⟨takes, h.takes⟩⟩

/-- A file can be written into the directory if it can have its name there, and no directory has that name. -/
theorem write_output_iff {o : Output} {next : Tree} (plain : '/' ∉ o.module.toList)
    (reached : t.walk [] (steps out) = .ok place) : t.write (filePath out o.module) o.text = .ok next ↔
      Tree.Takes (filePath out o.module) o.fileName ∧ t.node? (place ++ [o.fileName]) ≠ some .directory ∧
        next = t.set (place ++ [o.fileName]) (.file o.text.toUTF8) := by
  have name : IsName o.fileName := isName_fileName plain
  have named : steps (filePath out o.module) = steps out ++ [.down o.fileName] := steps_join out name
  constructor
  · exact Tree.write_eq_ok named reached
  · rintro ⟨takes, free, rfl⟩
    exact Tree.write_ok named reached takes (demandsDirectory_join out name) free

-- the operations on a tree, as functions of the tree

theorem run_bind {α β : Type} (first : StateM Tree α) (next : α → StateM Tree β) (t : Tree) :
    (first >>= next) t = next (first t).1 (first t).2 := rfl

theorem run_write (path text : String) (t : Tree) : (FileSystem.write path text : StateM Tree _) t =
    match t.write path text with
    | .ok next => (Except.ok (), next)
    | .error e => (Except.error e, t) := rfl

theorem run_makeDirectories (path : String) (t : Tree) : (FileSystem.makeDirectories path : StateM Tree _) t =
    ((t.makeDirectories path).2, (t.makeDirectories path).1) := rfl

/-- A report is added to the log, and the run goes on. -/
theorem perform_report (entry : Log.Entry) (rest : List Action) (t : Tree) :
    (perform (.report entry :: rest) : StateM Tree _) t =
      ((entry :: ((perform rest : StateM Tree _) t).1.1, ((perform rest : StateM Tree _) t).1.2),
        ((perform rest : StateM Tree _) t).2) := rfl

/-- A write that fails ends the run. -/
theorem perform_write_error {path text : String} {e : Failure} (rest : List Action)
    (failed : t.write path text = .error e) :
    (perform (.write path text :: rest) : StateM Tree _) t = (([], .error (.file path e)), t) := by
  rw [perform, run_bind, run_write, failed]
  rfl

/-- A file that is written counts as one, and the run goes on. -/
theorem perform_write_ok {path text : String} {next : Tree} (rest : List Action)
    (written : t.write path text = .ok next) :
    (perform (.write path text :: rest) : StateM Tree _) t =
      ((((perform rest : StateM Tree _) next).1.1, ((perform rest : StateM Tree _) next).1.2.map (· + 1)),
        ((perform rest : StateM Tree _) next).2) := by
  rw [perform, run_bind, run_write, written]
  rfl

/-- **The next file of a plan** cannot be written, or it is put into the directory, which is still there then. -/
theorem write_next {path text : String} {actions : List Action} {outputs : List Output}
    (files : (Action.write path text :: actions).filterMap Action.file? = outputs.map (Output.file out))
    (plain : ∀ o ∈ outputs, '/' ∉ o.module.toList) (reached : t.walk [] (steps out) = .ok place) :
    ∃ o others, outputs = o :: others ∧ path = filePath out o.module ∧ text = o.text ∧ '/' ∉ o.module.toList ∧
      actions.filterMap Action.file? = others.map (Output.file out) ∧ (∀ p ∈ others, '/' ∉ p.module.toList) ∧
      ((∃ e, t.write path text = .error e) ∨
        Tree.Takes path o.fileName ∧ t.node? (place ++ [o.fileName]) ≠ some .directory ∧
          t.write path text = .ok (t.set (place ++ [o.fileName]) (.file o.text.toUTF8)) ∧
          (t.set (place ++ [o.fileName]) (.file o.text.toUTF8)).walk [] (steps out) = .ok place) := by
  obtain ⟨o, others, rfl, here, others_files⟩ := List.map_eq_cons_iff.1 files.symm
  obtain ⟨first, others_plain⟩ := List.forall_mem_cons.1 plain
  cases here
  refine ⟨o, others, rfl, rfl, rfl, first, others_files.symm, others_plain, ?_⟩
  cases written : t.write (filePath out o.module) o.text with
  | error e => exact .inl ⟨e, rfl⟩
  | ok next =>
    obtain ⟨takes, free, rfl⟩ := (write_output_iff first reached).1 written
    exact .inr ⟨takes, free, rfl, (Tree.Keeps.set_file (by simp) free o.text.toUTF8).walk reached⟩

/-- **Carrying out a plan puts its files into the directory**, up to the first that cannot be written, and does nothing
else. -/
theorem perform_deposits {actions : List Action} {outputs : List Output}
    (files : actions.filterMap Action.file? = outputs.map (Output.file out))
    (plain : ∀ o ∈ outputs, '/' ∉ o.module.toList) (reached : t.walk [] (steps out) = .ok place) :
    ∃ done rest, outputs = done ++ rest ∧ Deposits out place t done ((perform actions : StateM Tree _) t).2 ∧
      ((∃ count, ((perform actions : StateM Tree _) t).1.2 = .ok count) ↔ rest = []) ∧
      ∀ o ∈ rest.head?, ¬ (Tree.Takes (filePath out o.module) o.fileName ∧
        (deposit place t done).node? (place ++ [o.fileName]) ≠ some .directory) := by
  induction actions generalizing outputs t with
  | nil =>
    obtain rfl : outputs = [] := by simpa using files.symm
    exact ⟨[], [], rfl, .nil reached, iff_of_true ⟨0, rfl⟩ rfl, by rintro o ⟨⟩⟩
  | cons action actions ih =>
    cases action with
    | report entry =>
      rw [perform_report]
      exact ih files plain reached
    | write path text =>
      obtain ⟨o, outputs, rfl, rfl, rfl, first, others_files, others, next⟩ := write_next files plain reached
      rcases next with ⟨e, written⟩ | ⟨takes, free, written, still⟩
      · -- this is the file that cannot be written
        rw [perform_write_error actions written]
        refine ⟨[], o :: outputs, rfl, .nil reached, iff_of_false (by rintro ⟨_, ⟨⟩⟩) (List.cons_ne_nil _ _), ?_⟩
        rintro p ⟨rfl⟩ ⟨takes, free⟩
        rw [(write_output_iff first reached).2 ⟨takes, free, rfl⟩] at written
        cases written
      · obtain ⟨done, rest, split, deposits, complete, stopped⟩ := ih others_files others still
        rw [perform_write_ok actions written]
        refine ⟨o :: done, rest, congrArg (o :: ·) split, deposits.cons takes, ?_, stopped⟩
        rw [← complete]
        exact exists_map_eq_ok_iff

/-- A plan can be carried out if its files can have their names, and no directory has one of them. -/
theorem perform_ok {actions : List Action} {outputs : List Output}
    (files : actions.filterMap Action.file? = outputs.map (Output.file out))
    (plain : ∀ o ∈ outputs, '/' ∉ o.module.toList) (reached : t.walk [] (steps out) = .ok place)
    (takes : ∀ o ∈ outputs, Tree.Takes (filePath out o.module) o.fileName)
    (free : ∀ o ∈ outputs, t.node? (place ++ [o.fileName]) ≠ some .directory) :
    ∃ count, ((perform actions : StateM Tree _) t).1.2 = .ok count := by
  obtain ⟨done, rest, rfl, -, complete, stopped⟩ := perform_deposits files plain reached
  refine complete.2 ?_
  cases rest with
  | nil => rfl
  | cons o later =>
    have here : o ∈ done ++ o :: later := by simp
    exact absurd ⟨takes o here, node?_deposit_ne_directory (free o here)⟩ (stopped o rfl)

/-! ## §3. A whole run. -/

/-- The tree after clearing, if that is asked for. -/
def cleared (options : Options) (out : String) (t : Tree) : Tree :=
  if options.clean then (t.removeTree out).1 else t

/-- The tree with the output directory, and whether it could be made. -/
def prepared (options : Options) (out : String) (t : Tree) : Tree × Except Failure Unit :=
  (cleared options out t).makeDirectories out

/-- A run that comes to its end has this report and these files. -/
structure Delivers (paths : Paths) (r : Registry) (out : String) (names : List String) (report : Report)
    (done : List Output) : Prop where
  settled : report = reportOn out (decisions r names)
  submitted : (Plan.ofRequests paths r out names).files = done.map (Output.file out)
  files : ∃ (files : List Output) (text : String), done = files ++ [⟨"mod", text⟩] ∧
    List.Forall₂ (Codes paths r) (classesOf (decisions r names)) files ∧
    modulesCode paths (report.generated.map (·.module)) = .ok text

/-- A plan with a report delivers what it submits. -/
theorem delivers_of_submits {paths : Paths} {r : Registry} {names : List String} {report : Report} {done : List Output}
    (files : (Plan.ofRequests paths r out names).files = done.map (Output.file out))
    (submits : Submits paths r (reportOn out (decisions r names)) (classesOf (decisions r names)) done (.ok report)) :
    Delivers paths r out names report done := by
  obtain ⟨settled, classes, text, whole, each, tied⟩ := submits.of_reported
  exact ⟨settled, files, classes, text, whole, each, settled ▸ tied⟩

/-- The modules of the files are those of the generated classes, and then `mod`. -/
theorem Delivers.modules {paths : Paths} {r : Registry} {names : List String} {report : Report} {done : List Output}
    (h : Delivers paths r out names report done) :
    done.map (·.module) = report.generated.map (·.module) ++ ["mod"] := by
  obtain ⟨files, text, rfl, each, -⟩ := h.files
  rw [List.map_append, h.settled, modules_reportOn, modules_of_codes each]
  rfl

/-- The modules of what is submitted are single parts of paths. -/
theorem Submits.plain {paths : Paths} {r : Registry} {report : Report} {classes : List Symbol} {outputs : List Output}
    {ending : Except IdentifierError Report} (h : Submits paths r report classes outputs ending) :
    ∀ o ∈ outputs, '/' ∉ o.module.toList := by
  induction h with
  | broken => exact List.forall_mem_nil _
  | untied => exact List.forall_mem_nil _
  | reported => exact List.forall_mem_singleton.2 (by simp)
  | @next s _ _ _ _ made _ ih =>
    refine List.forall_mem_cons.2 ⟨?_, ih⟩
    rw [made.1]
    exact slash_notMem_moduleName s.declaration.name

variable {options : Options} {r : Registry} {names : List String}

/-- A run is prepared by what becomes of the tree, with failures put into words. -/
theorem run_prepare : (prepare options out : StateM Tree _) t =
    ((prepared options out t).2.mapError (.file out), (prepared options out t).1) := by
  have making : ∀ start : Tree, (prepare ⟨options.paths, false⟩ out : StateM Tree _) start =
      ((start.makeDirectories out).2.mapError (.file out), (start.makeDirectories out).1) := by
    intro start
    show (FileSystem.makeDirectories out >>= _ : StateM Tree _) start = _
    rw [run_bind, run_makeDirectories]
    cases (start.makeDirectories out).2 with
    | error e => rfl
    | ok => rfl
  unfold prepared cleared
  rcases options with ⟨paths, _ | _⟩
  · exact making t
  · exact making (t.removeTree out).1

/-- Without its directory, a run does nothing. -/
theorem generate_unprepared {e : Failure} (failed : (prepared options out t).2 = .error e) :
    (generate options r names out : StateM Tree _) t = (⟨[], .error (.file out e)⟩, (prepared options out t).1) := by
  rw [generate, run_bind, run_prepare, failed]
  rfl

/-- With it, a run carries out its plan. -/
theorem generate_prepared (r : Registry) (names : List String) (made : (prepared options out t).2 = .ok ()) :
    ((generate options r names out : StateM Tree _) t).2 =
      ((perform (Plan.ofRequests options.paths r out names).actions : StateM Tree _) (prepared options out t).1).2 ∧
    ∀ report, ((generate options r names out : StateM Tree _) t).1.result = .ok report ↔
      (Plan.ofRequests options.paths r out names).ending = .ok report ∧ ∃ count,
        ((perform (Plan.ofRequests options.paths r out names).actions : StateM Tree _)
          (prepared options out t).1).1.2 = .ok count := by
  rw [generate, run_bind, run_prepare, made]
  generalize Plan.ofRequests options.paths r out names = plan
  simp only [Except.mapError]
  rw [run_bind]
  -- a file that cannot be written comes before the end of the plan
  rcases (perform plan.actions : StateM Tree _) (prepared options out t).1 with ⟨⟨log, problem | count⟩, last⟩
  · refine ⟨rfl, fun report => iff_of_false (by rintro ⟨⟩) ?_⟩
    rintro ⟨-, count, ⟨⟩⟩
  · cases ending : plan.ending with
    | error e => exact ⟨rfl, fun report => iff_of_false (by rintro ⟨⟩) (by rintro ⟨⟨⟩, -⟩)⟩
    | ok found => exact ⟨rfl, fun report => ⟨fun same => ⟨congrArg Except.ok (Except.ok.inj same), count, rfl⟩,
        fun same => congrArg Except.ok (Except.ok.inj same.1)⟩⟩

/-- **A run, taken apart.**  Either it gets no directory and does nothing more, or it puts files into its directory; if
it comes to its end, these are the files of its report. -/
theorem generate_run (options : Options) (r : Registry) (names : List String) (out : String) (t : Tree) :
    (((generate options r names out : StateM Tree _) t).2 = (prepared options out t).1 ∧
      ∀ report, ((generate options r names out : StateM Tree _) t).1.result ≠ .ok report) ∨
    ∃ place done, (prepared options out t).2 = .ok () ∧ (prepared options out t).1.walk [] (steps out) = .ok place ∧
      Deposits out place (prepared options out t).1 done ((generate options r names out : StateM Tree _) t).2 ∧
      (∀ o ∈ done, '/' ∉ o.module.toList) ∧
      ∀ report, ((generate options r names out : StateM Tree _) t).1.result = .ok report →
        Delivers options.paths r out names report done := by
  cases made : (prepared options out t).2 with
  | error e =>
    rw [generate_unprepared made]
    exact .inl ⟨rfl, by rintro report ⟨⟩⟩
  | ok =>
    obtain ⟨place, reached⟩ := Tree.makeDirectories_reaches made
    obtain ⟨outputs, files, submits⟩ := submits_ofRequests options.paths r out names
    obtain ⟨carried, ended⟩ := generate_prepared r names made
    -- as many files as could be written; all of them if the run comes to its end
    obtain ⟨done, rest, rfl, deposits, complete, -⟩ := perform_deposits files submits.plain reached
    refine .inr ⟨place, done, rfl, reached, carried ▸ deposits, ?_, ?_⟩
    · exact fun o mem => submits.plain o (List.mem_append_left rest mem)
    · intro report result
      obtain ⟨ending, counted⟩ := (ended report).1 result
      obtain rfl := complete.1 counted
      rw [List.append_nil] at submits files
      rw [ending] at submits
      exact delivers_of_submits files submits

/-- **When a run succeeds**: if its directory can be made, its code as well, and its files can have their names there,
which no directories have. -/
theorem generate_ok {report : Report} (made : (prepared options out t).2 = .ok ())
    (reached : (prepared options out t).1.walk [] (steps out) = .ok place)
    (ended : (Plan.ofRequests options.paths r out names).ending = .ok report)
    (takes : ∀ module ∈ report.generated.map (·.module) ++ ["mod"],
      Tree.Takes (filePath out module) (module ++ ".rs"))
    (free : ∀ module ∈ report.generated.map (·.module) ++ ["mod"],
      (prepared options out t).1.node? (place ++ [module ++ ".rs"]) ≠ some .directory) :
    ((generate options r names out : StateM Tree _) t).1.result = .ok report := by
  obtain ⟨outputs, files, submits⟩ := submits_ofRequests options.paths r out names
  rw [(generate_prepared r names made).2 report]
  refine ⟨ended, ?_⟩
  have plain := submits.plain
  rw [ended] at submits
  rw [← (delivers_of_submits files submits).modules] at takes free
  exact perform_ok files plain reached (fun o mem => takes _ (List.mem_map_of_mem mem))
    (fun o mem => free _ (List.mem_map_of_mem mem))

end

/-! ## §4. A tree to run on. -/

/-- A tree with an output directory that holds a file, and another file next to it. -/
def meadow : Tree where
  nodes := [(["build"], .directory), (["build", "gen"], .directory), (["build", "gen", "old.rs"], .file "old".toUTF8),
    (["build", "notes"], .file "notes".toUTF8)]
  held := []

/-- The tree after the output directory is cleared and made. -/
def mown : Tree where
  nodes := [(["build"], .directory), (["build", "notes"], .file "notes".toUTF8), (["build", "gen"], .directory)]
  held := []

/-- The meadow, mown. -/
theorem prepared_meadow : prepared .standard "build/gen" meadow = (mown, .ok ()) := by
  have checked : checkPath "build/gen" = .ok () := checkPath_eq_ok_iff.2 (by decide)
  have removed : (meadow.removeTree "build/gen").1 =
      ⟨[(["build"], .directory), (["build", "notes"], .file "notes".toUTF8)], []⟩ := by
    unfold Tree.removeTree
    rw [checked]
    decide +kernel
  unfold prepared cleared
  rw [if_pos (show Options.standard.clean = true from rfl), removed]
  exact Tree.makeDirectories_of_makeDirectory checked (by decide +kernel)

/-- A run on this tree succeeds if its code can be made and its files can have their names. -/
theorem generate_meadow {r : Registry} {names : List String} {report : Report}
    (ended : (Plan.ofRequests .standard r "build/gen" names).ending = .ok report)
    (takes : ∀ module ∈ report.generated.map (·.module) ++ ["mod"],
      Tree.Takes (filePath "build/gen" module) (module ++ ".rs")) :
    ((generate .standard r names "build/gen" : StateM Tree _) meadow).1.result = .ok report := by
  have reached : (prepared .standard "build/gen" meadow).1.walk [] (steps "build/gen") = .ok ["build", "gen"] := by
    rw [prepared_meadow]
    decide +kernel
  refine generate_ok ?_ reached ended takes ?_
  · rw [prepared_meadow]
  · intro module _
    rw [prepared_meadow]
    simp [mown, Tree.node?, List.lookup_cons]

/-- The registry of a single class without members. -/
def lone (name : String) : Registry :=
  Registry.empty.extend { (default : Declaration) with name := name, kind := .classType } []

/-- A run for a class in a namespace. -/
theorem generate_grove :
    ((generate .standard (lone "garden::Grove") ["garden::Grove"] "build/gen" : StateM Tree _) meadow).1.result =
      .ok ⟨[⟨"garden::Grove", "garden_grove", "build/gen/garden_grove.rs"⟩], []⟩ :=
  generate_meadow (by decide +kernel) (by decide +kernel)

end ScriptBridge.Generation
