import ScriptBridge.Files.Basic
import ScriptBridge.Generation.Plan
import ScriptBridge.Symbol.Load

/-!
# ScriptBridge.Generation.Run

Loading a database and carrying out a plan on a file system.

A run clears the output directory if asked to, as far as that can be done, makes it, and then acts in the order of the
plan.  The first write that fails ends it; what was written before stays.  A database that cannot be loaded costs
nothing, since loading only reads.
-/

namespace ScriptBridge.Generation

open ScriptBridge.Symbol ScriptBridge.Binding ScriptBridge.Token ScriptBridge.Files

/-- How bindings are generated. -/
structure Options where
  paths : Paths
  /-- Whether the output directory is emptied first. -/
  clean : Bool
  deriving Repr, DecidableEq

/-- The options that hold unless others are given. -/
def Options.standard : Options :=
  ⟨Paths.standard, true⟩

/-- Why there are no bindings. -/
inductive Problem where
  | file (path : String) (failure : Files.Failure)
  | database (path : String) (error : LoadError)
  /-- A name in the database or the options is no identifier. -/
  | identifier (error : IdentifierError)
  deriving DecidableEq, Repr

/-- The words for a problem. -/
def Problem.message : Problem → String
  | file path failure => "I/O error at " ++ path ++ ": " ++ failure.message
  | database path error => error.message path
  | identifier error => error.message

/-- Whether a problem ends the program at once, without a report. -/
def Problem.isAbrupt : Problem → Bool
  | file _ _ => false
  | database _ error => error.isAbrupt
  | identifier _ => true

/-- What came out of a run, with everything it reported. -/
structure Outcome (α : Type) where
  log : List Log.Entry
  result : Except Problem α

namespace Outcome

/-- The outcome of a run that first reported something else. -/
def after {α : Type} (log : List Log.Entry) (o : Outcome α) : Outcome α :=
  ⟨log ++ o.log, o.result⟩

end Outcome

/-- A report of a run as a whole. -/
def remark (level : Log.Level) (message : String) : Log.Entry :=
  ⟨level, .generator, message⟩

section

variable {m : Type → Type} [Monad m] [FileSystem m]

/-! ## §1. Loading. -/

/-- The registry that a database file describes. -/
def load (path : String) : m (Except Problem Registry) := do
  match ← FileSystem.read path with
  | .error failure => return .error (.file path failure)
  | .ok text =>
    match Registry.ofText text with
    | .error e => return .error (.database path e)
    | .ok registry => return .ok registry

/-! ## §2. Carrying out a plan. -/

/-- Does what a plan lists, as far as the files allow, and answers with the reports and the number of files. -/
def perform : List Action → m (List Log.Entry × Except Problem Nat)
  | [] => return ([], .ok 0)
  | .report entry :: rest => do
    let (log, count) ← perform rest
    return (entry :: log, count)
  | .write path text :: rest => do
    match ← FileSystem.write path text with
    | .error failure => return ([], .error (.file path failure))
    | .ok () =>
      let (log, count) ← perform rest
      return (log, count.map (· + 1))

/-- Clears the output directory, if asked to, and makes it.  Nothing comes of a removal that fails. -/
def prepare (options : Options) (out : String) : m (Except Problem Unit) := do
  if options.clean then
    let _ ← FileSystem.removeTree out
  match ← FileSystem.makeDirectories out with
  | .error failure => return .error (.file out failure)
  | .ok () => return .ok ()

/-- Generates the bindings of the requested classes. -/
def generate (options : Options) (r : Registry) (names : List String) (out : String) : m (Outcome Report) := do
  match ← prepare options out with
  | .error problem => return ⟨[], .error problem⟩
  | .ok () =>
    let plan := Plan.ofRequests options.paths r out names
    match ← perform plan.actions with
    | (log, .error problem) => return ⟨log, .error problem⟩
    | (log, .ok count) =>
      match plan.ending with
      | .error e => return ⟨log, .error (.identifier e)⟩
      | .ok report =>
        return ⟨log ++ [remark .debug ("generated " ++ toString count ++ " files in " ++ out)], .ok report⟩

/-- Loads a database and generates the bindings of the requested classes. -/
def generateFrom (options : Options) (database : String) (names : List String) (out : String) :
    m (Outcome Report) := do
  match ← load database with
  | .error problem => return ⟨[], .error problem⟩
  | .ok r =>
    let outcome ← generate options r names out
    return outcome.after [remark .debug ("loaded " ++ toString r.symbols.length ++ " symbols from " ++ database)]

end

end ScriptBridge.Generation
