import Mathlib.Data.List.Nodup
import ScriptBridge.Proofs.Generation.Deposit

/-!
# ScriptBridge.Proofs.Generation.Overwriting

Which files of a run are written twice.

The modules of generated classes are kept apart from each other, but not from `mod`, the module of the file that ties
them together.  So the file of a class whose module is `mod` is overwritten at the end of the run; all other files keep
the code that their class was given, and can be read back.

Main results:
  * `Deposits.read` - the last file of a name can be read;
  * `generate_reads_back` - which files a run writes, when they are different, and what they hold in the end;
  * `mod_overwritten` - a class whose file is lost.
-/

namespace ScriptBridge.Generation

open ScriptBridge.Symbol ScriptBridge.Binding ScriptBridge.Token ScriptBridge.Files

section

variable {options : Options} {r : Registry} {names : List String} {out : String} {place : Place} {t last : Tree}

theorem filePath_injective (out : String) : Function.Injective (filePath out) := by
  intro first second same
  unfold filePath join at same
  split at same
  · exact (String.append_left_inj ".rs").1 ((String.append_right_inj out).1 same)
  · exact (String.append_left_inj ".rs").1 ((String.append_right_inj (out ++ "/")).1 same)

/-- A file that no later file has replaced can be read. -/
theorem Deposits.read {before after : List Output} {o : Output} (h : Deposits out place t (before ++ o :: after) last)
    (plain : '/' ∉ o.module.toList) (later : ∀ p ∈ after, p.module ≠ o.module) :
    last.read (filePath out o.module) = .ok o.text := by
  have name : IsName o.fileName := isName_fileName plain
  refine Tree.read_of_node (steps_join out name) h.reached (h.takes o (by simp)) (demandsDirectory_join out name) ?_
  rw [h.tree]
  exact node?_deposit_last later

namespace Delivers

variable {paths : Paths} {report : Report} {done : List Output}

/-- The generated classes have different modules. -/
theorem nodup_generated (h : Delivers paths r out names report done) : (report.generated.map (·.module)).Nodup := by
  rw [h.settled, modules_reportOn]
  exact nodup_modules r names

/-- The paths are made of the modules. -/
theorem written_eq (h : Delivers paths r out names report done) :
    (Plan.ofRequests paths r out names).files.map (·.1) = (done.map (·.module)).map (filePath out) := by
  rw [h.submitted, List.map_map, List.map_map]
  rfl

/-- They are those of the generated classes, and then that of the module file. -/
theorem written (h : Delivers paths r out names report done) :
    (Plan.ofRequests paths r out names).files.map (·.1) = report.generated.map (·.path) ++ [filePath out "mod"] := by
  rw [h.written_eq, h.modules, List.map_append, h.settled, reportOn, List.map_map, List.map_map, List.map_map]
  rfl

/-- No path is written twice unless a class has the module `mod`. -/
theorem nodup_written_iff (h : Delivers paths r out names report done) :
    ((Plan.ofRequests paths r out names).files.map (·.1)).Nodup ↔ "mod" ∉ report.generated.map (·.module) := by
  rw [h.written_eq, List.nodup_map_iff (filePath_injective out), h.modules, ← List.concat_eq_append, List.nodup_concat]
  exact and_iff_left h.nodup_generated

/-- After the file of a class no other is written to its path, unless its module is `mod`. -/
theorem exists_last (h : Delivers paths r out names report done) {s : Symbol} (mem : s ∈ classesOf (decisions r names))
    (other : moduleOf s ≠ "mod") :
    ∃ before o after, done = before ++ o :: after ∧ Codes paths r s o ∧ ∀ p ∈ after, p.module ≠ o.module := by
  obtain ⟨files, text, rfl, each, -⟩ := h.files
  obtain ⟨o, known, codes⟩ := exists_right_of_mem each mem
  obtain ⟨before, after, rfl⟩ := List.append_of_mem known
  have apart := nodup_modules r names
  rw [← modules_of_codes each, List.map_append, List.map_cons] at apart
  -- the classes behind it have other modules, and the module file is none of theirs
  have fresh : o.module ∉ after.map (·.module) := (List.nodup_cons.1 (List.nodup_append.1 apart).2.1).1
  refine ⟨before, o, after ++ [⟨"mod", text⟩], by rw [List.append_assoc, List.cons_append], codes, ?_⟩
  intro p later
  rcases List.mem_append.1 later with later | only
  · exact fun same => fresh (same ▸ List.mem_map_of_mem later)
  · rw [List.mem_singleton.1 only]
    exact fun same => other (codes.1.symm.trans same.symm)

end Delivers

/-- What the paths of a run hold in the end: each path of the report the code of its class, unless its module is `mod`,
and the path of the module file the code that ties the modules together. -/
structure ReadsBack (paths : Paths) (r : Registry) (out : String) (names : List String) (report : Report) (t : Tree) :
    Prop where
  classes : ∀ g ∈ report.generated, g.module ≠ "mod" → ∃ s ∈ classesOf (decisions r names),
    g = .ofSymbol out s ∧ ∃ text, classCode paths (r.scope s) = .ok text ∧ t.read g.path = .ok text
  modules : ∃ code, ModuleFile.Ties (report.generated.map (·.module)) code ∧
    t.read (filePath out "mod") = .ok (layout code)

/-- **Which files are written twice**: that of a class whose module is `mod`, and no other.  All others hold the code of
their class in the end. -/
theorem generate_reads_back {report : Report}
    (result : ((generate options r names out : StateM Tree _) t).1.result = .ok report) :
    (Plan.ofRequests options.paths r out names).files.map (·.1) =
      report.generated.map (·.path) ++ [filePath out "mod"] ∧
    (((Plan.ofRequests options.paths r out names).files.map (·.1)).Nodup ↔
      "mod" ∉ report.generated.map (·.module)) ∧
    ReadsBack options.paths r out names report ((generate options r names out : StateM Tree _) t).2 := by
  rcases generate_run options r names out t with ⟨-, none⟩ | ⟨place, done, -, -, deposits, plain, complete⟩
  · exact absurd result (none report)
  · have delivers := complete report result
    refine ⟨delivers.written, delivers.nodup_written_iff, ?_, ?_⟩
    · intro g listed other
      rw [delivers.settled] at listed
      obtain ⟨s, mem, rfl⟩ := List.mem_map.1 listed
      -- no file of the same name comes later
      obtain ⟨before, o, after, rfl, codes, later⟩ := delivers.exists_last mem other
      have kept := deposits.read (plain o (by simp)) later
      rw [codes.1] at kept
      exact ⟨s, mem, rfl, o.text, codes.2, kept⟩
    · obtain ⟨files, text, rfl, each, tied⟩ := delivers.files
      rw [delivers.settled, modules_reportOn] at tied ⊢
      obtain ⟨code, rfl, ties⟩ := ties_of_modulesCode tied
      exact ⟨code, ties, deposits.read (by simp) (List.forall_mem_nil _)⟩

end

theorem generate_reads_back_grove : ∃ report,
    ((generate .standard (lone "garden::Grove") ["garden::Grove"] "build/gen" : StateM Tree _) meadow).1.result =
      .ok report ∧
    ((Plan.ofRequests .standard (lone "garden::Grove") "build/gen" ["garden::Grove"]).files.map (·.1)).Nodup ∧
    ReadsBack .standard (lone "garden::Grove") "build/gen" ["garden::Grove"] report
      ((generate .standard (lone "garden::Grove") ["garden::Grove"] "build/gen" : StateM Tree _) meadow).2 := by
  obtain ⟨-, distinct, read⟩ := generate_reads_back generate_grove
  exact ⟨_, generate_grove, distinct.2 (by decide), read⟩

/-- **A class called `Mod` loses its file**: the run succeeds and reports the class, but the module file has the same
path. -/
theorem mod_overwritten :
    ((generate .standard (lone "Mod") ["Mod"] "build/gen" : StateM Tree _) meadow).1.result =
      .ok ⟨[⟨"Mod", "mod", "build/gen/mod.rs"⟩], []⟩ ∧
    (Plan.ofRequests .standard (lone "Mod") "build/gen" ["Mod"]).files.map (·.1) =
      ["build/gen/mod.rs", "build/gen/mod.rs"] ∧
    ¬ ((Plan.ofRequests .standard (lone "Mod") "build/gen" ["Mod"]).files.map (·.1)).Nodup := by
  have twice : (Plan.ofRequests .standard (lone "Mod") "build/gen" ["Mod"]).files.map (·.1) =
      ["build/gen/mod.rs", "build/gen/mod.rs"] := by decide +kernel
  refine ⟨generate_meadow (by decide +kernel) (by decide +kernel), twice, ?_⟩
  rw [twice]
  decide

end ScriptBridge.Generation
