import ScriptBridge.Command.Run
import ScriptBridge.Proofs.Command.Strict
import ScriptBridge.Proofs.Generation.WellNamed

/-!
# ScriptBridge.Proofs.Command.Ending

How the command ends, and what it leaves behind.

Loading only reads, and nothing else happens before it.  So a database that cannot be loaded costs nothing, whatever is
wrong with it; only its exit code depends on what that is, since an unknown field without value breaks the command off.
With a database, the files are those of a run for the classes, and the exit code sums up how that ended.

Main results:
  * `loaded_eq_error_iff` - why a database cannot be loaded;
  * `command_ends` - the files and the exit code, for every request, every environment and every tree;
  * `broken_valueless` - a malformed database that breaks the command off.
-/

namespace ScriptBridge.Database

/-- Where a database begins with an unknown field, this field has to have a value. -/
theorem ofText_valueless {s key : String} {found : Lexeme} {rest : List Lexeme}
    (lexed : lexemes s.toList = .openBrace :: .text key :: .colon :: found :: rest)
    (unknown : RecordKind.document.fields.lookup key = none)
    (nothing : skipValue (found :: rest) = .error (.valueless found)) :
    Document.ofText s = .error (.valueless found) := by
  have fields : readFields .document (.text key :: .colon :: found :: rest) = .error (.valueless found) := by
    rw [readFields, unknown]
    simp only [nothing]
    rfl
  have value : readValue (.record .document) (lexemes s.toList) = .error (.valueless found) := by
    rw [lexed, readValue, fields]
  rw [Document.ofText, value]

end ScriptBridge.Database

namespace ScriptBridge.Command

open ScriptBridge.Symbol ScriptBridge.Generation ScriptBridge.Files
open ScriptBridge.Database (Document)

/-! ## §1. Loading. -/

/-- What loading gives on a tree. -/
def loaded (t : Tree) (path : String) : Except Problem Registry :=
  match t.read path with
  | .error failure => .error (.file path failure)
  | .ok text => (Registry.ofText text).mapError (.database path)

/-- Loading only reads. -/
theorem load_run (path : String) (t : Tree) : (load path : StateM Tree _) t = (loaded t path, t) := by
  have reading : (FileSystem.read path : StateM Tree _) t = (t.read path, t) := rfl
  unfold loaded load
  rw [run_bind, reading]
  cases t.read path with
  | error e => rfl
  | ok text =>
    cases made : Registry.ofText text with
    | error e => simp only [made]; rfl
    | ok r => simp only [made]; rfl

/-- The text of a database has an unknown field without value. -/
def BreaksOff (t : Tree) (path : String) : Prop :=
  ∃ text found, t.read path = .ok text ∧ Document.ofText text = .error (.valueless found)

/-- **Why a database cannot be loaded**: it cannot be read, its text is no database or too new, or what it declares is
impossible. -/
theorem loaded_eq_error_iff {t : Tree} {path : String} {problem : Problem} :
    loaded t path = .error problem ↔
      (∃ e, t.read path = .error e ∧ problem = .file path e) ∨
      (∃ text e, t.read path = .ok text ∧ Document.ofText text = .error e ∧ problem = .database path (.format e)) ∨
      ∃ text document e, t.read path = .ok text ∧ Document.ofText text = .ok document ∧
        Registry.ofEntries document.symbols = .error e ∧ problem = .database path (.model e) := by
  unfold loaded Registry.ofText
  cases reading : t.read path with
  | error e => simp [eq_comm]
  | ok text =>
    cases format : Document.ofText text with
    | error e => simp [format, Except.mapError, eq_comm]
    | ok document =>
      cases model : Registry.ofEntries document.symbols with
      | error e => simp [format, model, Except.mapError, eq_comm]
      | ok r => simp [format, model, Except.mapError]

/-- Such a field is the only thing in a database that breaks the command off. -/
theorem isAbrupt_of_loaded {t : Tree} {path : String} {problem : Problem} (h : loaded t path = .error problem) :
    problem.isAbrupt = true ↔ BreaksOff t path := by
  -- reading the file, its format or its entries can fail, and only the format can be such that the command breaks off
  rcases loaded_eq_error_iff.1 h with
    ⟨e, unread, rfl⟩ | ⟨text, e, read, format, rfl⟩ | ⟨text, document, e, read, format, -, rfl⟩
  · refine iff_of_false nofun ?_
    rintro ⟨text, found, read, -⟩
    rw [unread] at read
    cases read
  · constructor
    · intro abrupt
      cases e with
      | malformed => cases abrupt
      | newer version => cases abrupt
      | valueless found => exact ⟨text, found, read, format⟩
    · rintro ⟨text', found, read', format'⟩
      obtain rfl := Except.ok.inj (read.symm.trans read')
      obtain rfl := Except.error.inj (format.symm.trans format')
      rfl
  · refine iff_of_false nofun ?_
    rintro ⟨text', found, read', format'⟩
    obtain rfl := Except.ok.inj (read.symm.trans read')
    rw [format] at format'
    cases format'

/-- A database without such a field fails to load in a way that is reported. -/
theorem ofProblem_of_loaded {t : Tree} {path : String} {problem : Problem} (h : loaded t path = .error problem)
    (reported : ¬ BreaksOff t path) : Exit.ofProblem problem = .failure := by
  unfold Exit.ofProblem
  rw [if_neg (mt (isAbrupt_of_loaded h).1 reported)]

/-- A database with such a field cannot be loaded. -/
theorem loaded_of_breaksOff {t : Tree} {path : String} (h : BreaksOff t path) :
    ∃ problem, loaded t path = .error problem ∧ Exit.ofProblem problem = .broken := by
  obtain ⟨text, found, read, format⟩ := h
  have failed := loaded_eq_error_iff.2 (.inr (.inl ⟨text, _, read, format, rfl⟩))
  exact ⟨_, failed, if_pos rfl⟩

/-! ## §2. Carrying out a request. -/

/-- The run for a request, once there is a registry. -/
def made (a : Arguments) (r : Registry) (t : Tree) : Outcome Report × Tree :=
  (generate a.options r (a.selection.names r) a.out : StateM Tree _) t

/-- How the command ends on the result of a run. -/
def Exit.ofResult (strict : Bool) : Except Problem Report → Exit
  | .error problem => .ofProblem problem
  | .ok report => if strict = true ∧ report.skipped ≠ [] then .failure else .success

/-- A run that ended fails only if it was to be strict and classes were skipped. -/
theorem conclude_exit (strict : Bool) (report : Report) :
    (conclude strict report).2 = if strict = true ∧ report.skipped ≠ [] then .failure else .success := by
  have skipped : report.hasSkipped = true ↔ report.skipped ≠ [] := by simp [Report.hasSkipped]
  unfold conclude
  by_cases h : strict = true ∧ report.skipped ≠ []
  · rw [if_pos h, if_pos (by rw [Bool.and_eq_true, skipped]; exact h)]
  · rw [if_neg h, if_neg (by rw [Bool.and_eq_true, skipped]; exact h)]

variable {a : Arguments} {t : Tree}

/-- Without a registry the command ends with a complaint and writes nothing. -/
theorem execute_unloaded {problem : Problem} (failed : loaded t a.symbols = .error problem) :
    (execute a : StateM Tree _) t = ((complaint problem, .ofProblem problem), t) := by
  unfold execute
  rw [run_bind, load_run, failed]
  rfl

/-- With a registry the command ends as the run does. -/
theorem execute_loaded {r : Registry} (there : loaded t a.symbols = .ok r) :
    ((execute a : StateM Tree _) t).1.2 = .ofResult a.strict (made a r t).1.result ∧
      ((execute a : StateM Tree _) t).2 = (made a r t).2 := by
  unfold execute made
  rw [run_bind, load_run, there]
  simp only
  rw [run_bind]
  cases ((generate a.options r (a.selection.names r) a.out : StateM Tree _) t).1.result with
  | error problem => exact ⟨rfl, rfl⟩
  | ok report => exact ⟨conclude_exit a.strict report, rfl⟩

/-- What the command does, once its arguments are understood and what is shown is settled. -/
structure EndsWith (a : Arguments) (t : Tree) (exit : Exit) (last : Tree) : Prop where
  /-- A database that cannot be loaded costs nothing, whatever is wrong with it. -/
  unloaded : ∀ problem, loaded t a.symbols = .error problem → last = t
  /-- The command fails then, unless an unknown field without value breaks it off. -/
  refused : ∀ problem, loaded t a.symbols = .error problem → ¬ BreaksOff t a.symbols → exit = .failure
  brokenOff : BreaksOff t a.symbols → exit = .broken
  /-- With a database, the files are those of the run for the classes. -/
  files : ∀ r, loaded t a.symbols = .ok r → last = (made a r t).2
  /-- A run that comes to its end is a success, unless a class was skipped and none may be. -/
  ended : ∀ r report, loaded t a.symbols = .ok r → (made a r t).1.result = .ok report →
    exit = if a.strict = true ∧ report.skipped ≠ [] then .failure else .success
  /-- A run ends early only at a file or directory that cannot be made, and the command fails, or at a name that is no
  identifier, and the command is broken off. -/
  stopped : ∀ r problem, loaded t a.symbols = .ok r → (made a r t).1.result = .error problem →
    (∃ path e, problem = .file path e ∧ exit = .failure) ∨ ∃ e, problem = .identifier e ∧ exit = .broken

/-- **The end of a command** whose arguments were read. -/
theorem execute_endsWith (a : Arguments) (t : Tree) :
    EndsWith a t ((execute a : StateM Tree _) t).1.2 ((execute a : StateM Tree _) t).2 where
  unloaded := by
    intro problem failed
    rw [execute_unloaded failed]
  refused := by
    intro problem failed reported
    rw [execute_unloaded failed]
    exact ofProblem_of_loaded failed reported
  brokenOff := by
    intro valueless
    obtain ⟨problem, failed, exit⟩ := loaded_of_breaksOff valueless
    rw [execute_unloaded failed]
    exact exit
  files := fun r there => (execute_loaded there).2
  ended := by
    intro r report there result
    rw [(execute_loaded there).1, result]
    rfl
  stopped := by
    intro r problem there result
    rw [(execute_loaded there).1, result]
    -- what was made ends as the plan does, unless a file could not be written
    unfold made at result
    rcases generate_result a.options r (a.selection.names r) a.out t with ending | ⟨path, e, unwritten⟩
    · rw [result] at ending
      cases plan : (Plan.ofRequests a.options.paths r a.out (a.selection.names r)).ending with
      | ok report =>
        rw [plan] at ending
        cases ending
      | error e =>
        rw [plan] at ending
        cases ending
        exact .inr ⟨e, rfl, rfl⟩
    · rw [result] at unwritten
      cases unwritten
      exact .inl ⟨path, e, rfl, rfl⟩

/-- The files do not depend on whether skipped classes are tolerated. -/
theorem execute_strictly (a : Arguments) (t : Tree) :
    ((execute a.strictly : StateM Tree _) t).2 = ((execute a : StateM Tree _) t).2 := by
  cases there : loaded t a.symbols with
  | error problem =>
    have there' : loaded t a.strictly.symbols = .error problem := there
    rw [execute_unloaded there, execute_unloaded there']
  | ok r =>
    have there' : loaded t a.strictly.symbols = .ok r := there
    rw [(execute_loaded there).2, (execute_loaded there').2]
    rfl

/-! ## §3. The command. -/

section

variable {arguments : List String} {environment : Option String}

/-- Without a filter for the log the command breaks off at once. -/
theorem run_unfiltered (parsed : Request.ofArguments arguments = .run a)
    (unfiltered : filterFor? environment a.level = none) :
    (run arguments environment : StateM Tree _) t = (([], .broken), t) := by
  unfold run
  rw [parsed]
  simp only [unfiltered]
  rfl

/-- With a filter for the log the command ends as it does without a log. -/
theorem run_filtered (parsed : Request.ofArguments arguments = .run a) {filter : Filter}
    (filtered : filterFor? environment a.level = some filter) :
    ((run arguments environment : StateM Tree _) t).1.2 = ((execute a : StateM Tree _) t).1.2 ∧
      ((run arguments environment : StateM Tree _) t).2 = ((execute a : StateM Tree _) t).2 := by
  unfold run
  rw [parsed]
  simp only [filtered]
  exact ⟨rfl, rfl⟩

/-- Requests that differ in their strictness leave the same files. -/
theorem run_strictly {others : List String} (parsed : Request.ofArguments arguments = .run a)
    (parsed' : Request.ofArguments others = .run a.strictly) :
    ((run others environment : StateM Tree _) t).2 = ((run arguments environment : StateM Tree _) t).2 := by
  have level : filterFor? environment a.strictly.level = filterFor? environment a.level := rfl
  cases filtered : filterFor? environment a.level with
  | none => rw [run_unfiltered parsed filtered, run_unfiltered parsed' (level.trans filtered)]
  | some filter =>
    rw [(run_filtered parsed filtered).2, (run_filtered parsed' (level.trans filtered)).2]
    exact execute_strictly a t

/-- What the command comes to, for arguments that make a request. -/
structure Comes (arguments : List String) (a : Arguments) (environment : Option String) (t : Tree) : Prop where
  /-- A filter text that cannot be cut breaks the command off before anything else. -/
  unfiltered : filterFor? environment a.level = none →
    (run arguments environment : StateM Tree _) t = (([], .broken), t)
  filtered : ∀ filter, filterFor? environment a.level = some filter →
    EndsWith a t ((run arguments environment : StateM Tree _) t).1.2 ((run arguments environment : StateM Tree _) t).2
  /-- The files are the same for a request that differs in its strictness only. -/
  strictly : ∀ others, Request.ofArguments others = .run a.strictly →
    ((run others environment : StateM Tree _) t).2 = ((run arguments environment : StateM Tree _) t).2
  /-- Such a request is made by the flag in front. -/
  flag : a.strict = false → Request.ofArguments ("--strict" :: arguments) = .run a.strictly

/-- **How the command ends and what it leaves behind**, for every request, environment and tree.  Loading a database
within a program costs nothing either if it fails. -/
theorem command_ends (parsed : Request.ofArguments arguments = .run a) (environment : Option String) (t : Tree) :
    Comes arguments a environment t ∧
      ∀ (options : Options) (path : String) (names : List String) (out : String) (problem : Problem),
        loaded t path = .error problem →
        (generateFrom options path names out : StateM Tree _) t = (⟨[], .error problem⟩, t) := by
  refine ⟨⟨run_unfiltered parsed, ?_, fun others => run_strictly parsed, ofArguments_strict parsed⟩, ?_⟩
  · intro filter filtered
    obtain ⟨exit, last⟩ := run_filtered (t := t) parsed filtered
    rw [exit, last]
    exact execute_endsWith a t
  · intro options path names out problem failed
    unfold generateFrom
    rw [run_bind, load_run, failed]
    rfl

end

/-- A tree with an earlier output, and a database of this text. -/
def plot (text : String) : Tree :=
  meadow.set ["db"] (.file text.toUTF8)

theorem read_plot (text : String) : (plot text).read "db" = .ok text := by
  have named : steps "db" = [] ++ [.down "db"] := by decide +kernel
  refine Tree.read_of_node named rfl ?_ ?_ ?_
  · decide +kernel
  · decide +kernel
  · rw [plot, List.nil_append, Tree.node?_set (by simp), if_pos rfl]

/-- The request for one class of the database. -/
def bench : Arguments :=
  ⟨"db", "build/gen", .standard, false, .warn, .named ["Bench"]⟩

theorem ofArguments_bench : Request.ofArguments ["--symbols", "db", "--out", "build/gen", "Bench"] = .run bench := by
  decide +kernel

/-- A database without value for a field that it does not know. -/
def unfinished : String := "\x7b\"note\":\x7d"

theorem breaksOff_unfinished : BreaksOff (plot unfinished) "db" := by
  have lexed : Database.lexemes unfinished.toList =
      [.openBrace, .text "note", .colon, .closeBrace, .finished] := by cbv
  exact ⟨_, _, read_plot unfinished, Database.ofText_valueless lexed rfl rfl⟩

/-- Without a database there is nothing to read. -/
theorem loaded_meadow : loaded meadow "db" = .error (.file "db" .notFound) := by
  have named : steps "db" = [] ++ [.down "db"] := by decide +kernel
  have takes : Tree.Takes "db" "db" := by decide +kernel
  have resolved := (Tree.resolve_eq_ok_iff (t := meadow) named rfl).2 ⟨takes, rfl⟩
  have missing : meadow.node? ([] ++ ["db"]) = none := by simp [meadow, Tree.node?, List.lookup_cons]
  have unread : meadow.read "db" = .error .notFound := by
    unfold Tree.read Tree.readBytes
    rw [resolved, missing]
    rfl
  rw [loaded, unread]

theorem command_ends_bench :
    Request.ofArguments ["--symbols", "db", "--out", "build/gen", "Bench"] = .run bench ∧
    loaded meadow "db" = .error (.file "db" .notFound) ∧
    ((run ["--symbols", "db", "--out", "build/gen", "Bench"] none : StateM Tree _) meadow).1.2 = .failure ∧
    ((run ["--symbols", "db", "--out", "build/gen", "Bench"] none : StateM Tree _) meadow).2 = meadow ∧
    (generateFrom .standard "db" ["Bench"] "build/gen" : StateM Tree _) meadow =
      (⟨[], .error (.file "db" .notFound)⟩, meadow) := by
  obtain ⟨comes, library⟩ := command_ends ofArguments_bench none meadow
  have ends := comes.filtered _ rfl
  have reported : ¬ BreaksOff meadow "db" := mt (isAbrupt_of_loaded loaded_meadow).2 (by decide)
  exact ⟨ofArguments_bench, loaded_meadow, ends.refused _ loaded_meadow reported, ends.unloaded _ loaded_meadow,
    library _ _ _ _ _ loaded_meadow⟩

/-- **A malformed database that breaks the command off**: nothing is lost, but the exit code is not 1. -/
theorem broken_valueless :
    (∃ problem, loaded (plot unfinished) "db" = .error problem) ∧
    ((run ["--symbols", "db", "--out", "build/gen", "Bench"] none : StateM Tree _) (plot unfinished)).2 =
      plot unfinished ∧
    ((run ["--symbols", "db", "--out", "build/gen", "Bench"] none : StateM Tree _) (plot unfinished)).1.2.code = 101 := by
  obtain ⟨problem, failed, exit⟩ := loaded_of_breaksOff breaksOff_unfinished
  have executed := execute_unloaded (a := bench) failed
  have filtered : filterFor? none bench.level = some (.upTo .warn) := rfl
  obtain ⟨ends, last⟩ := run_filtered (t := plot unfinished) ofArguments_bench filtered
  rw [executed] at ends last
  rw [ends, last, exit]
  exact ⟨⟨problem, failed⟩, rfl, rfl⟩

end ScriptBridge.Command
