import ScriptBridge.Command.Arguments
import ScriptBridge.Command.Filter
import ScriptBridge.Text.Terminal

/-!
# ScriptBridge.Command.Run

The command: it loads a database, generates the bindings asked for, and sums up what it did.

The exit code is 0 on success, 1 if the database or a file was in the way or if skipped classes are not tolerated,
2 if the arguments make no sense, and 101 if the work is broken off: by a name that is no identifier, by an unknown
field without value in the database, or by a filter text that is cut within a character.
-/

namespace ScriptBridge.Command

open ScriptBridge.Symbol ScriptBridge.Generation ScriptBridge.Files

/-- How the command ends. -/
inductive Exit where
  | success
  | failure
  | misuse
  | broken
  deriving DecidableEq, Repr

/-- The exit code. -/
def Exit.code : Exit → Nat
  | success => 0
  | failure => 1
  | misuse => 2
  | broken => 101

/-- A report of the command itself. -/
def remark (level : Log.Level) (message : String) : Log.Entry :=
  ⟨level, .command, message⟩

/-- The classes that a selection names. -/
def Selection.names (s : Selection) (r : Registry) : List String :=
  match s with
  | all => r.classes.map (·.declaration.name)
  | named classes => classes

/-- What is said about a finished run. -/
def summary (report : Report) : List Log.Entry :=
  report.generated.map (fun g => remark .info (g.name ++ " -> " ++ g.path)) ++
    [remark .info (toString report.generated.length ++ " classes generated, " ++ toString report.skipped.length ++
      " skipped")]

/-- How a finished run ends, and what is said about it. -/
def conclude (strict : Bool) (report : Report) : List Log.Entry × Exit :=
  if strict && report.hasSkipped then
    (summary report ++ [remark .error (toString report.skipped.length ++ " classes skipped (--strict)")], .failure)
  else (summary report, .success)

/-- How the command ends on a problem. -/
def Exit.ofProblem (p : Problem) : Exit :=
  if p.isAbrupt then broken else failure

/-- What is said about a problem. -/
def complaint (p : Problem) : List Log.Entry :=
  [remark .error p.message]

section

variable {m : Type → Type} [Monad m] [FileSystem m]

/-- Carries out a request. -/
def execute (a : Arguments) : m (List Log.Entry × Exit) := do
  match ← load a.symbols with
  | .error problem => return (complaint problem, .ofProblem problem)
  | .ok r =>
    let outcome ← generate a.options r (a.selection.names r) a.out
    match outcome.result with
    | .error problem => return (outcome.log ++ complaint problem, .ofProblem problem)
    | .ok report =>
      let (said, exit) := conclude a.strict report
      return (outcome.log ++ said, exit)

end

/-- The filter for a run: the one that the environment states, unless it makes no sense, else all up to a level.
There is none if the text of the environment cannot be cut. -/
def filterFor? (environment : Option String) (level : Log.Level) : Option Filter :=
  match environment.map Filter.ofText with
  | some (.ok filter) => some filter
  | some (.error .brokenCharacter) => none
  | some (.error .malformed) | none => some (.upTo level)

/-- A report as it is shown. -/
def line (e : Log.Entry) : String :=
  String.ofList (List.replicate (5 - e.level.name.length) ' ') ++ e.level.name ++ " " ++ Text.forTerminal e.message

/-- The lines shown for the reports of a run. -/
def shown (filter : Filter) (log : List Log.Entry) : List String :=
  (log.filter filter.shows).map line

/-- The command on its arguments and the filter text from the environment. -/
def run {m : Type → Type} [Monad m] [FileSystem m] (arguments : List String) (environment : Option String) :
    m (List String × Exit) := do
  match Request.ofArguments arguments with
  | .help | .version => return ([], .success)
  | .misused => return ([], .misuse)
  | .run a =>
    match filterFor? environment a.level with
    | none => return ([], .broken)
    | some filter =>
      let (log, exit) ← execute a
      return (shown filter log, exit)

end ScriptBridge.Command
