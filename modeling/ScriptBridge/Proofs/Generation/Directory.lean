import ScriptBridge.Proofs.Files.Repetition
import ScriptBridge.Proofs.Generation.Deposit

/-!
# ScriptBridge.Proofs.Generation.Directory

What a run changes on a file tree, and what it leaves in its directory.

Whatever the classes of a database are called, and whether the run succeeds or not, nothing changes outside the output
directory, except that it and missing directories above it are made.  A run that clears its directory first and
succeeds leaves nothing in it but the files of its report, the module file and what could not be removed.  A run does
not look at how the removal ended, so entries that cannot be removed stay, and so does everything if the path is empty.

Main results:
  * `generate_confined` - nothing outside changes;
  * `prepared_below` - a cleared directory holds what could not be removed;
  * `generate_cleared` - what the directory holds in the end;
  * `stale_files_stay` - files of earlier runs may be among it.
-/

namespace ScriptBridge.Generation

open ScriptBridge.Symbol ScriptBridge.Binding ScriptBridge.Token ScriptBridge.Files

/-! ## §1. Confinement. -/

/-- Outside a directory nothing has changed, but that missing directories above it are there. -/
def Confined (place : Place) (t next : Tree) : Prop :=
  ∀ other, ¬ place <+: other → next.node? other = t.node? other ∨
    other <+: place ∧ t.node? other = none ∧ next.node? other = some .directory

section

variable {place : Place} {t next last : Tree}

/-- Directories on the way to a place are no change elsewhere. -/
theorem Confined.of_grown (h : Tree.Grown place t next) : Confined place t next :=
  fun other _ => h other

theorem Confined.refl (place : Place) (t : Tree) : Confined place t t :=
  .of_grown (.refl place t)

/-- Two changes at one place are a change at this place. -/
theorem Confined.trans (first : Confined place t next) (second : Confined place next last) : Confined place t last := by
  intro other outside
  rcases second other outside with same | ⟨above, missing, made⟩
  · rw [same]
    exact first other outside
  · rcases first other outside with same | ⟨-, -, already⟩
    · exact .inr ⟨above, same ▸ missing, made⟩
    · rw [already] at missing
      cases missing

/-- What a removal takes away is below the place that it is about. -/
theorem Confined.prune (place : Place) (t : Tree) : Confined place t (t.prune place) := by
  intro other outside
  by_cases root : other = []
  · subst root
    exact .inl rfl
  · rw [Tree.node?_prune root, if_neg]
    · exact .inl rfl
    · intro gone
      exact outside (List.isPrefixOf_iff_prefix.1 (Bool.and_eq_true_iff.1 gone).1)

/-- Outputs are written below their place. -/
theorem Confined.deposit (place : Place) (t : Tree) (outputs : List Output) :
    Confined place t (deposit place t outputs) := by
  intro other outside
  refine .inl (node?_deposit_of_ne ?_)
  rintro o - rfl
  exact outside (List.prefix_append place _)

/-! ## §2. The cleared directory. -/

/-- Making the directory changes nothing below it. -/
theorem node?_grown_below (grown : Tree.Grown place t next) {below : Place} (nonempty : below ≠ []) :
    next.node? (place ++ below) = t.node? (place ++ below) := by
  rcases grown (place ++ below) with same | ⟨before, -⟩
  · exact same
  · exact absurd (List.append_right_eq_self.1 (before.eq_of_length_le (by simp))) nonempty

variable {out : String}

/-- Directories are made for a path that can be used, or for the empty one. -/
theorem checkPath_of_makeDirectories (made : (t.makeDirectories out).2 = .ok ()) (some : out ≠ "") :
    checkPath out = .ok () := by
  unfold Tree.makeDirectories at made
  rw [if_neg (fun empty => some (String.isEmpty_iff.1 empty))] at made
  split at made
  · cases made
  · assumption

end

section

variable {options : Options} {r : Registry} {names : List String} {out : String} {place : Place} {t : Tree}

/-- Clearing and making the directory changes nothing outside. -/
theorem prepared_confined (down : LeadsDown out place) : Confined place t (prepared options out t).1 := by
  have made := Confined.of_grown (Tree.makeDirectories_grown (t := cleared options out t) down)
  refine Confined.trans ?_ made
  unfold cleared
  split
  · rcases Tree.removeTree_cases (t := t) down with pruned | ⟨same, -⟩
    · rw [pruned]
      exact .prune place t
    · rw [same]
      exact .refl place t
  · exact .refl place t

/-- **Nothing changes outside the output directory**, however the run ends. -/
theorem generate_confined (down : LeadsDown out place) :
    Confined place t ((generate options r names out : StateM Tree _) t).2 := by
  have start : Confined place t (prepared options out t).1 := prepared_confined down
  rcases generate_run options r names out t with ⟨only, -⟩ | ⟨target, done, -, reached, deposits, -, -⟩
  · rw [only]
    exact start
  · obtain rfl : target = place := Tree.walk_names (down.steps ▸ reached)
    rw [deposits.tree]
    exact start.trans (.deposit target _ done)

/-- **A cleared directory** holds what the removal left, once it is made. -/
theorem prepared_below (down : LeadsDown out place) (closed : t.Closed) (clean : options.clean = true)
    (made : (prepared options out t).2 = .ok ()) {below : Place} (nonempty : below ≠ []) :
    (prepared options out t).1.node? (place ++ below) = t.spared out (place ++ below) := by
  have reached : (prepared options out t).1.Reaches place := by
    obtain ⟨target, walked⟩ := Tree.makeDirectories_reaches made
    rw [down.steps] at walked
    obtain rfl : target = place := Tree.walk_names walked
    exact walked
  have left := Tree.node?_removeTree_below down closed (checkPath_of_makeDirectories made) reached.fits nonempty
  have start : (cleared options out t).node? (place ++ below) = t.spared out (place ++ below) := by
    rw [cleared, if_pos clean, left]
  rw [← start]
  exact node?_grown_below (Tree.makeDirectories_grown down) nonempty

/-- The place, seen from the output directory, is that of a file of the report or of the module file. -/
def Report.Names (report : Report) (below : Place) : Prop :=
  below = ["mod.rs"] ∨ ∃ g ∈ report.generated, below = [g.module ++ ".rs"]

/-- The directory at a place holds the files of a report and the module file, and beside them what was left there. -/
structure Holds (report : Report) (place : Place) (left : Place → Option Node) (t : Tree) : Prop where
  directory : t.node? place = some .directory
  written : ∀ below, report.Names below → ∃ content, t.node? (place ++ below) = some (.file content)
  rest : ∀ below, below ≠ [] → ¬ report.Names below → t.node? (place ++ below) = left (place ++ below)

/-- Nothing is left. -/
def bare : Place → Option Node := fun _ => none

/-- The names of the files that a run delivers. -/
theorem Delivers.names_iff {paths : Paths} {report : Report} {done : List Output}
    (h : Delivers paths r out names report done) (below : Place) :
    report.Names below ↔ ∃ o ∈ done, below = [o.fileName] := by
  have named : (∃ o ∈ done, below = [o.fileName]) ↔ ∃ module ∈ done.map (·.module), below = [module ++ ".rs"] := by
    simp [Output.fileName]
  rw [named, h.modules, iff_comm, Report.Names]
  constructor
  · rintro ⟨module, mem, rfl⟩
    rcases List.mem_append.1 mem with known | only
    · obtain ⟨g, listed, rfl⟩ := List.mem_map.1 known
      exact .inr ⟨g, listed, rfl⟩
    · rw [List.mem_singleton.1 only]
      exact .inl rfl
  · rintro (rfl | ⟨g, mem, rfl⟩)
    · exact ⟨"mod", by simp, rfl⟩
    · exact ⟨g.module, List.mem_append_left _ (List.mem_map_of_mem mem), rfl⟩

/-- Files that are put into a directory stand beside what was there. -/
theorem holds_deposit {paths : Paths} {report : Report} {done : List Output}
    (reached : (deposit place t done).Reaches place) (delivers : Delivers paths r out names report done) :
    Holds report place t.node? (deposit place t done) where
  directory := reached.directory (List.prefix_refl place)
  written below named := by
    obtain ⟨o, mem, rfl⟩ := (delivers.names_iff below).1 named
    obtain ⟨p, -, -, here⟩ := exists_deposit place t mem
    exact ⟨_, here⟩
  rest below _ unnamed := by
    apply node?_deposit_of_ne
    intro o mem same
    exact unnamed ((delivers.names_iff below).2 ⟨o, mem, List.append_cancel_left same⟩)

/-- A clean run that comes to its end puts its files beside what the removal left. -/
theorem generate_holds {report : Report} (down : LeadsDown out place) (closed : t.Closed)
    (clean : options.clean = true) (result : ((generate options r names out : StateM Tree _) t).1.result = .ok report) :
    Holds report place (t.spared out) ((generate options r names out : StateM Tree _) t).2 := by
  rcases generate_run options r names out t with ⟨-, none⟩ | ⟨target, done, made, -, deposits, -, complete⟩
  · exact absurd result (none report)
  · have reached := deposits.reached
    rw [down.steps] at reached
    obtain rfl : target = place := Tree.walk_names reached
    rw [deposits.tree] at reached ⊢
    have holds := holds_deposit reached (complete report result)
    exact { holds with
      rest := fun below nonempty unnamed =>
        (holds.rest below nonempty unnamed).trans (prepared_below down closed clean made nonempty) }

/-- **What a clean run leaves**: outside its directory everything is as it was, and in it there are the files of its
report, the module file and what the removal left of the directory.  So nothing is left from before exactly if nothing
there was held, or only places at which there is a new file now; a removal that does not fail is enough. -/
theorem generate_cleared (down : LeadsDown out place) (closed : t.Closed) (clean : options.clean = true) :
    let last := ((generate options r names out : StateM Tree _) t).2
    Confined place t last ∧
    ∀ report, ((generate options r names out : StateM Tree _) t).1.result = .ok report →
      Holds report place (t.spared out) last ∧
      (Holds report place bare last ↔
        ∀ below, below ≠ [] → ¬ report.Names below → t.spared out (place ++ below) = none) ∧
      ((t.removeTree out).2 = .ok () → Holds report place bare last) := by
  intro last
  refine ⟨generate_confined down, fun report result => ?_⟩
  have holds : Holds report place (t.spared out) last := generate_holds down closed clean result
  have alone : (∀ below, below ≠ [] → ¬ report.Names below → t.spared out (place ++ below) = none) →
      Holds report place bare last := fun free =>
    { holds with rest := fun below some unnamed => (holds.rest below some unnamed).trans (free below some unnamed) }
  refine ⟨holds, ⟨fun only below some unnamed => ?_, alone⟩, fun removed => alone (fun below _ _ => ?_)⟩
  · exact (holds.rest below some unnamed).symm.trans (only.rest below some unnamed)
  · -- what stays below the directory would keep the directory as well
    obtain ⟨named, gone⟩ := Tree.removeTree_eq_ok down removed
    have free : t.stays (place ++ below) ≠ true := fun stays => by
      rw [Tree.stays_above stays] at gone
      cases gone
    exact if_neg (not_or.2 ⟨named, free⟩)

end

/-! ## §3. A file that cannot be removed. -/

/-- A tree with two files in the output directory, of which one is held. -/
def heath : Tree where
  nodes := [(["build"], .directory), (["build", "gen"], .directory), (["build", "gen", "old.rs"], .file "old".toUTF8),
    (["build", "gen", "older.rs"], .file "older".toUTF8), (["build", "notes"], .file "notes".toUTF8)]
  held := [["build", "gen", "old.rs"]]

/-- The tree when the other file is gone. -/
def grazed : Tree where
  nodes := [(["build"], .directory), (["build", "gen"], .directory), (["build", "gen", "old.rs"], .file "old".toUTF8),
    (["build", "notes"], .file "notes".toUTF8)]
  held := [["build", "gen", "old.rs"]]

theorem leadsDown_gen : LeadsDown "build/gen" ["build", "gen"] :=
  ⟨by decide +kernel, fun _ => ⟨by decide +kernel, by decide⟩⟩

/-- The directory cannot be removed, since an entry below is held. -/
theorem removeTree_heath : heath.removeTree "build/gen" = (grazed, .error .notPermitted) := by
  have checked : checkPath "build/gen" = .ok () := checkPath_eq_ok_iff.2 (by decide)
  unfold Tree.removeTree
  rw [checked]
  decide +kernel

/-- The run goes on all the same. -/
theorem prepared_heath : prepared .standard "build/gen" heath = (grazed, .ok ()) := by
  have checked : checkPath "build/gen" = .ok () := checkPath_eq_ok_iff.2 (by decide)
  unfold prepared cleared
  rw [if_pos (show Options.standard.clean = true from rfl), removeTree_heath]
  have reached : grazed.Reaches ["build", "gen"] := by
    unfold Tree.Reaches
    decide +kernel
  exact Tree.makeDirectories_reached leadsDown_gen checked reached

/-- The report of a run for a class in a namespace. -/
def groveReport (out : String) : Report :=
  ⟨[⟨"garden::Grove", "garden_grove", filePath out "garden_grove"⟩], []⟩

/-- It reports that it wrote the class. -/
theorem generate_heath :
    ((generate .standard (lone "garden::Grove") ["garden::Grove"] "build/gen" : StateM Tree _) heath).1.result =
      .ok (groveReport "build/gen") := by
  have reached : (prepared .standard "build/gen" heath).1.walk [] (steps "build/gen") = .ok ["build", "gen"] := by
    rw [prepared_heath]
    decide +kernel
  refine generate_ok ?_ reached (by decide +kernel) (by decide +kernel) ?_
  · rw [prepared_heath]
  · rw [prepared_heath]
    decide +kernel

theorem generate_cleared_heath :
    LeadsDown "build/gen" ["build", "gen"] ∧ heath.Closed ∧ Options.standard.clean = true ∧
    ((generate .standard (lone "garden::Grove") ["garden::Grove"] "build/gen" : StateM Tree _) heath).1.result =
      .ok (groveReport "build/gen") ∧
    Holds (groveReport "build/gen") ["build", "gen"] (heath.spared "build/gen")
      ((generate .standard (lone "garden::Grove") ["garden::Grove"] "build/gen" : StateM Tree _) heath).2 ∧
    heath.spared "build/gen" ["build", "gen", "old.rs"] = some (.file "old".toUTF8) ∧
    heath.spared "build/gen" ["build", "gen", "older.rs"] = none := by
  have closed : heath.Closed := Tree.closed_of_nodes (by decide +kernel)
  have left := ((generate_cleared leadsDown_gen closed rfl).2 _ generate_heath).1
  exact ⟨leadsDown_gen, closed, rfl, generate_heath, left, by decide +kernel, by decide +kernel⟩

/-- A clean run for a class comes to its end, and in its directory there still stands what is none of its files. -/
structure LeavesStale (out : String) (place below : Place) (t : Tree) : Prop where
  down : LeadsDown out place
  closed : t.Closed
  result : ((generate .standard (lone "garden::Grove") ["garden::Grove"] out : StateM Tree _) t).1.result =
    .ok (groveReport out)
  stays : (t.node? (place ++ below)).isSome = true ∧
    ((generate .standard (lone "garden::Grove") ["garden::Grove"] out : StateM Tree _) t).2.node? (place ++ below) =
      t.node? (place ++ below)
  unclean : ¬ Holds (groveReport out) place bare
    ((generate .standard (lone "garden::Grove") ["garden::Grove"] out : StateM Tree _) t).2

theorem leavesStale_of_spared {out : String} {place below : Place} {t : Tree} {node : Node}
    (down : LeadsDown out place) (closed : t.Closed)
    (result : ((generate .standard (lone "garden::Grove") ["garden::Grove"] out : StateM Tree _) t).1.result =
      .ok (groveReport out)) (nonempty : below ≠ []) (unnamed : ¬ (groveReport out).Names below)
    (before : t.node? (place ++ below) = some node) (spared : t.spared out (place ++ below) = some node) :
    LeavesStale out place below t := by
  have after := (generate_holds down closed rfl result).rest below nonempty unnamed
  rw [spared, ← before] at after
  refine ⟨down, closed, result, ⟨by rw [before]; rfl, after⟩, fun only => ?_⟩
  have gone := only.rest below nonempty unnamed
  rw [after, before] at gone
  cases gone

/-- **Stale files stay** if they cannot be removed, and if the path is empty, so that there is no removal: the run comes
to its end all the same. -/
theorem stale_files_stay :
    LeavesStale "build/gen" ["build", "gen"] ["old.rs"] heath ∧ LeavesStale "" [] ["build", "notes"] meadow := by
  have closed : heath.Closed := Tree.closed_of_nodes (by decide +kernel)
  have unnamed : ¬ (groveReport "build/gen").Names ["old.rs"] := by
    unfold Report.Names
    decide +kernel
  refine ⟨leavesStale_of_spared leadsDown_gen closed generate_heath (by simp) unnamed rfl (by decide +kernel), ?_⟩
  have unprepared : prepared .standard "" meadow = (meadow, .ok ()) := rfl
  have result : ((generate .standard (lone "garden::Grove") ["garden::Grove"] "" : StateM Tree _) meadow).1.result =
      .ok (groveReport "") := by
    have reached : (prepared .standard "" meadow).1.walk [] (steps "") = .ok [] := rfl
    refine generate_ok (by rw [unprepared]) reached (by decide +kernel) (by decide +kernel) ?_
    rw [unprepared]
    decide +kernel
  have root : LeadsDown "" [] := ⟨by decide +kernel, fun some => absurd rfl some⟩
  have closed : meadow.Closed := Tree.closed_of_nodes (by decide +kernel)
  have unnamed : ¬ (groveReport "").Names ["build", "notes"] := by
    unfold Report.Names
    decide +kernel
  exact leavesStale_of_spared root closed result (by simp) unnamed rfl (by decide +kernel)

end ScriptBridge.Generation
