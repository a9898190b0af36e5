import ScriptBridge.Binding.ClassFile
import ScriptBridge.Files.Basic
import ScriptBridge.Symbol.Registry
import ScriptBridge.Token.Layout

/-!
# ScriptBridge.Generation.Plan

What a run does with the classes it is asked for, before anything is written.

A request list is worked through in order.  Repetitions are passed over; a name that is unknown, that is no class,
or whose module another class has taken is skipped with a reason; every other class gets a file named after its
module.  A file with all modules comes last.  The plan lists the reports and files in the order of the work.  A name
that is no identifier ends it.
-/

namespace ScriptBridge.Generation

open ScriptBridge.Symbol ScriptBridge.Binding ScriptBridge.Token

/-! ## §1. Outcomes for requests. -/

/-- Why a requested class is not generated. -/
inductive SkipReason where
  | unknownSymbol (name : String)
  | notAClass (name : String) (kind : Kind)
  /-- Another requested class has the same file. -/
  | moduleCollision (module : String)
  deriving DecidableEq, Repr

/-- The words for a reason. -/
def SkipReason.message : SkipReason → String
  | unknownSymbol name => "Symbol " ++ name ++ " not found"
  | notAClass name kind => name ++ " is not a class or a struct (but a " ++ kind.name ++ ")"
  | moduleCollision m => "module `" ++ m ++ "` is already generated for another class"

/-- A class that got a file. -/
structure Generated where
  name : String
  module : String
  path : String
  deriving DecidableEq, Repr

/-- A request that got none. -/
structure Skipped where
  name : String
  reason : SkipReason
  deriving DecidableEq, Repr

/-- The report on a skipped request.  A collision does not name the class, so that is added. -/
def Skipped.message (s : Skipped) : String :=
  match s.reason with
  | .moduleCollision _ => s.reason.message ++ "; skipped " ++ s.name
  | _ => s.reason.message ++ "; skipped"

/-- What became of the requests. -/
structure Report where
  generated : List Generated
  skipped : List Skipped
  deriving DecidableEq, Repr

/-- Whether some request was skipped. -/
def Report.hasSkipped (r : Report) : Bool :=
  !r.skipped.isEmpty

/-! ## §2. Verdicts. -/

/-- The decision on one request. -/
inductive Decision where
  /-- The name was requested before. -/
  | repeated (name : String)
  | skip (request : Skipped)
  | generate (symbol : Symbol)
  deriving Repr

/-- The class that a name stands for. -/
def resolve (r : Registry) (name : String) : Except SkipReason Symbol :=
  match r.find? name with
  | none => .error (.unknownSymbol name)
  | some s => if s.declaration.kind.isClassLike then .ok s else .error (.notAClass name s.declaration.kind)

/-- The module of a symbol's file. -/
def moduleOf (s : Symbol) : String :=
  moduleName s.declaration.name

/-- The decisions on requests, given the names seen and the modules taken so far. -/
def decisionsFrom (r : Registry) (seen modules : List String) : List String → List Decision
  | [] => []
  | name :: rest =>
    if seen.contains name then .repeated name :: decisionsFrom r seen modules rest
    else match resolve r name with
      | .error reason => .skip ⟨name, reason⟩ :: decisionsFrom r (name :: seen) modules rest
      | .ok s =>
        if modules.contains (moduleOf s) then
          .skip ⟨name, .moduleCollision (moduleOf s)⟩ :: decisionsFrom r (name :: seen) modules rest
        else .generate s :: decisionsFrom r (name :: seen) (moduleOf s :: modules) rest

/-- The decisions on a request list. -/
def decisions (r : Registry) (names : List String) : List Decision :=
  decisionsFrom r [] [] names

/-! ## §3. The plan. -/

/-- One thing a run does. -/
inductive Action where
  | report (entry : Log.Entry)
  | write (path text : String)
  deriving DecidableEq, Repr

/-- A run: what it does in order, and how it ends. -/
structure Plan where
  actions : List Action
  ending : Except IdentifierError Report

/-- The path of the file of a module in the output directory. -/
def filePath (out module : String) : String :=
  Files.join out (module ++ ".rs")

/-- The record of a class that got a file. -/
def Generated.ofSymbol (out : String) (s : Symbol) : Generated :=
  ⟨s.declaration.name, moduleOf s, filePath out (moduleOf s)⟩

/-- A report on the requests. -/
def note (level : Log.Level) (message : String) : Action :=
  .report ⟨level, .classes, message⟩

/-- Reports and the file of a class. -/
def classActions (paths : Paths) (r : Registry) (out : String) (s : Symbol) :
    List Action × Except IdentifierError Unit :=
  let (log, file) := ClassFile.ofScope paths (r.scope s)
  let reports := note .debug ("generating bindings for " ++ s.declaration.name) :: log.map Action.report
  match file with
  | .error e => (reports, .error e)
  | .ok file => (reports ++ [.write (filePath out (moduleOf s)) (layout file.tokens)], .ok ())

namespace Report

/-- A report with one more class. -/
def addGenerated (report : Report) (g : Generated) : Report :=
  ⟨report.generated ++ [g], report.skipped⟩

/-- A report with one more skipped request. -/
def addSkipped (report : Report) (s : Skipped) : Report :=
  ⟨report.generated, report.skipped ++ [s]⟩

end Report

namespace Plan

/-- The plan that first does something else. -/
def after (first : List Action) (p : Plan) : Plan :=
  ⟨first ++ p.actions, p.ending⟩

/-- The module file, and the end of the run. -/
def close (paths : Paths) (out : String) (report : Report) : Plan :=
  match ModuleFile.ofModules paths (report.generated.map (·.module)) with
  | .error e => ⟨[], .error e⟩
  | .ok file => ⟨[.write (filePath out "mod") (layout file.tokens)], .ok report⟩

/-- The plan for the remaining decisions. -/
def ofDecisions (paths : Paths) (r : Registry) (out : String) (report : Report) : List Decision → Plan
  | [] => close paths out report
  | .repeated name :: rest =>
    (ofDecisions paths r out report rest).after
      [note .debug ("class " ++ name ++ " requested twice; generated once")]
  | .skip request :: rest =>
    (ofDecisions paths r out (report.addSkipped request) rest).after [note .error request.message]
  | .generate s :: rest =>
    match classActions paths r out s with
    | (actions, .error e) => ⟨actions, .error e⟩
    | (actions, .ok ()) =>
      (ofDecisions paths r out (report.addGenerated (.ofSymbol out s)) rest).after actions

/-- The plan for a request list. -/
def ofRequests (paths : Paths) (r : Registry) (out : String) (names : List String) : Plan :=
  ofDecisions paths r out ⟨[], []⟩ (decisions r names)

end Plan

end ScriptBridge.Generation
