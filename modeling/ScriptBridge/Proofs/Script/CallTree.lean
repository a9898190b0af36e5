import ScriptBridge.Proofs.Script.Calls
import ScriptBridge.Session.Probe

/-!
# ScriptBridge.Proofs.Script.CallTree

How calls nest, what each of them gets to know, and what is reported.

A call is recorded as a tree: what the call stack was when it started and when it had ended, the backtrace that its
function was given, the calls that this function made, and the result.  `Engine.trace` runs calls and keeps this record;
forgetting it gives back the engine (`Engine.trace_invoke`).  Native functions are arbitrary: they may call back as often
and as deep as they like, and do with failures what they like.

Main results:
  * `Engine.trace_disciplined` - the record of a call, and what is left of it on the engine;
  * `Engine.Hosted.disciplined` - the same for all calls of a host.
-/

namespace ScriptBridge.Script

/-! ## §1. Records of calls. -/

/-- The error of a call with this result, if it failed. -/
def errorsOf : CallResult → List InvocationError
  | .ok _ => []
  | .error error => [error]

/-- The record of a call. -/
inductive CallTree where
  /-- The name of the call, the call stack before it, the backtrace that its function was given, if there is one, the
  calls that this made, in order, the call stack after the call, and its result. -/
  | node (label : String) (before : List String) (seen : Option (List String)) (inner : List CallTree)
    (after : List String) (result : CallResult)

namespace CallTree

/-- The name of the call. -/
def label : CallTree → String
  | node label _ _ _ _ _ => label

/-- What the call came to. -/
def result : CallTree → CallResult
  | node _ _ _ _ _ result => result

/-- The error of the call, if it failed. -/
def errors (tree : CallTree) : List InvocationError :=
  errorsOf tree.result

/-- All calls keep the call stack, below which these calls are under way, and every function is given its own name and
then theirs. -/
inductive Nested : List String → CallTree → Prop where
  | node {label : String} {enclosing : List String} {seen : Option (List String)} {inner : List CallTree}
      {result : CallResult} (own : ∀ frames ∈ seen, frames = label :: enclosing)
      (deeper : ∀ tree ∈ inner, Nested (label :: enclosing) tree) :
      Nested enclosing (.node label enclosing seen inner enclosing result)

end CallTree

namespace Engine

/-- What makes a call and keeps a record of it. -/
abbrev Tracer := Engine → Invocation → Option (CallTree × Engine × CallResult)

/-- Runs a body, with `tracer` for its calls. -/
def traceBody (tracer : Tracer) {α : Type} (e : Engine) : Body α → Option (List CallTree × Engine × α)
  | .done answer => some ([], e, answer)
  | .read next => traceBody tracer e (next e.store)
  | .write s next => traceBody tracer { e with store := s } next
  | .invoke call next =>
    (tracer e call).bind (fun r =>
      (traceBody tracer r.2.1 (next r.2.2)).map (fun rest => (r.1 :: rest.1, rest.2)))

/-- The engine on which the function of a call runs. -/
def pushed (e : Engine) (call : Invocation) : Engine :=
  { e with callStack := call.label :: e.callStack }

/-- The engine after the function of a call has come to a result. -/
def popped (e : Engine) (result : CallResult) : Engine :=
  (settle { e with callStack := e.callStack.tail } result).1

/-- The error of a call of something that is no function. -/
def notCallable (e : Engine) (call : Invocation) : InvocationError :=
  ⟨call.label, .notCallable (e.store.typeName call.function)⟩

/-- Runs a call, with at most `depth` calls nested in each other. -/
def trace (library : Library) : (depth : Nat) → Tracer
  | 0, _, _ => none
  | depth + 1, e, call =>
    match (e.store.functionOf? call.function).bind library with
    | none =>
      let last := e.report (e.notCallable call)
      some (.node call.label e.callStack none [] last.callStack (.error (e.notCallable call)), last,
        .error (e.notCallable call))
    | some native =>
      (traceBody (trace library depth) (e.pushed call) (native (e.contextOf call))).map (fun r =>
        let last := r.2.1.popped r.2.2
        (.node call.label e.callStack (some (e.contextOf call).backtrace) r.1 last.callStack r.2.2, last, r.2.2))

/-! ## §2. Forgetting records. -/

theorem settle_eq (e : Engine) (result : CallResult) : e.settle result = ((e.settle result).1, result) := by
  cases result with
  | ok value => rfl
  | error error => rfl

/-- **The trace of a body is the run of the body**, with the calls noted down. -/
theorem traceBody_runBody {tracer : Tracer} {caller : Caller}
    (same : ∀ e call, (tracer e call).map (·.2) = caller e call) {α : Type} (e : Engine) (body : Body α) :
    (traceBody tracer e body).map (·.2) = runBody caller e body := by
  induction body generalizing e with
  | done answer => rfl
  | read next ih => exact ih e.store e
  | write s next ih => exact ih _
  | invoke call next ih =>
    rw [traceBody, runBody, ← same]
    cases tracer e call with
    | none => rfl
    | some r =>
      show ((traceBody tracer r.2.1 (next r.2.2)).map _).map _ = runBody caller r.2.1 (next r.2.2)
      rw [← ih, Option.map_map]
      rfl

/-- **Without its record a call is what the engine does.** -/
theorem trace_invoke (library : Library) (depth : Nat) (e : Engine) (call : Invocation) :
    (trace library depth e call).map (·.2) = invoke library depth e call := by
  induction depth generalizing e call with
  | zero => rfl
  | succ depth ih =>
    cases called : (e.store.functionOf? call.function).bind library with
    | none =>
      rw [trace, invoke, called]
      rfl
    | some native =>
      rw [trace, invoke_of_native depth called, called, ← traceBody_runBody ih, Option.map_map, Option.map_map]
      exact congrArg (Option.map · _) (funext (fun r => (settle_eq _ r.2.2).symm))

/-- So is a body. -/
theorem trace_run (library : Library) (depth : Nat) {α : Type} (e : Engine) (body : Body α) :
    (traceBody (trace library depth) e body).map (·.2) = run library depth e body :=
  traceBody_runBody (trace_invoke library depth) e body

/-! ## §3. Depth. -/

/-- A tracer that traces more calls traces more bodies, and these in the same way. -/
theorem traceBody_mono {tracer deeper : Tracer}
    (more : ∀ e call r, tracer e call = some r → deeper e call = some r) {α : Type} {e : Engine} {body : Body α}
    {r : List CallTree × Engine × α} (ran : traceBody tracer e body = some r) : traceBody deeper e body = some r := by
  induction body generalizing e r with
  | done answer => exact ran
  | read next ih => exact ih e.store ran
  | write s next ih => exact ih ran
  | invoke call next ih =>
    obtain ⟨first, called, ran⟩ := Option.bind_eq_some_iff.1 ran
    obtain ⟨rest, went, rfl⟩ := Option.map_eq_some_iff.1 ran
    rw [traceBody, more _ _ _ called, Option.bind_some, ih _ went]
    rfl

/-- **The bound on nesting decides only whether there is a result**, not which. -/
theorem trace_mono {library : Library} {depth : Nat} {e : Engine} {call : Invocation}
    {r : CallTree × Engine × CallResult} (ran : trace library depth e call = some r) :
    trace library (depth + 1) e call = some r := by
  induction depth generalizing e call r with
  | zero => cases ran
  | succ depth ih =>
    rw [trace] at ran ⊢
    cases called : (e.store.functionOf? call.function).bind library with
    | none =>
      rw [called] at ran
      exact ran
    | some native =>
      rw [called] at ran
      obtain ⟨inner, went, rfl⟩ := Option.map_eq_some_iff.1 ran
      simp only
      rw [traceBody_mono (fun _ _ _ => ih) went]
      rfl

/-- More depth does not change the trace of a body. -/
theorem traceBody_deeper {library : Library} {depth : Nat} {α : Type} {e : Engine} {body : Body α}
    {r : List CallTree × Engine × α} (ran : traceBody (trace library depth) e body = some r) (more : Nat) :
    traceBody (trace library (depth + more)) e body = some r := by
  induction more with
  | zero => exact ran
  | succ more ih => exact traceBody_mono (fun _ _ _ => trace_mono) ih

/-! ## §4. Discipline. -/

/-- What an engine reports of calls that start on it: nothing if reporting is off or other calls are under way. -/
def reports (e : Engine) (trees : List CallTree) : List InvocationError :=
  if e.reporting && e.callStack.isEmpty then trees.flatMap CallTree.errors else []

/-- What is left of calls on an engine, apart from objects. -/
structure Keeps (e : Engine) (trees : List CallTree) (last : Engine) : Prop where
  nested : ∀ tree ∈ trees, tree.Nested e.callStack
  callStack : last.callStack = e.callStack
  reporting : last.reporting = e.reporting
  reported : last.reported = e.reported ++ e.reports trees

namespace Keeps

variable {e middle last : Engine} {trees others : List CallTree}

theorem nil (e : Engine) : e.Keeps [] e where
  nested := List.forall_mem_nil _
  callStack := rfl
  reporting := rfl
  reported := by simp [reports]

/-- The store is no matter. -/
theorem of_store {s : Store} (h : Keeps { e with store := s } trees last) : e.Keeps trees last :=
  ⟨h.nested, h.callStack, h.reporting, h.reported⟩

/-- Two series of calls, one after the other. -/
theorem append (first : e.Keeps trees middle) (second : middle.Keeps others last) : e.Keeps (trees ++ others) last where
  nested := by
    intro tree mem
    rcases List.mem_append.1 mem with mem | mem
    · exact first.nested tree mem
    · exact first.callStack ▸ second.nested tree mem
  callStack := second.callStack.trans first.callStack
  reporting := second.reporting.trans first.reporting
  reported := by
    rw [second.reported, first.reported, List.append_assoc]
    unfold reports
    rw [first.reporting, first.callStack]
    split
    · rw [List.flatMap_append]
    · rfl

end Keeps

/-- What a call leaves, and what its record says. -/
structure Disciplined (e : Engine) (call : Invocation) (tree : CallTree) (last : Engine) (result : CallResult) :
    Prop where
  keeps : e.Keeps [tree] last
  label : tree.label = call.label
  result : tree.result = result

/-- **A body keeps the discipline** if the calls that it makes do. -/
theorem traceBody_keeps {tracer : Tracer}
    (each : ∀ {e call tree last result}, tracer e call = some (tree, last, result) → Disciplined e call tree last result)
    {α : Type} {e last : Engine} {body : Body α} {trees : List CallTree} {answer : α}
    (ran : traceBody tracer e body = some (trees, last, answer)) : Keeps e trees last := by
  induction body generalizing e trees with
  | done answer =>
    cases ran
    exact .nil _
  | read next ih => exact ih e.store ran
  | write s next ih => exact .of_store (ih ran)
  | invoke call next ih =>
    obtain ⟨⟨tree, middle, result⟩, called, ran⟩ := Option.bind_eq_some_iff.1 ran
    obtain ⟨⟨others, rest⟩, went, same⟩ := Option.map_eq_some_iff.1 ran
    cases same
    exact (each called).keeps.append (ih result went)

/-- A report is made if reporting is on and no call is under way. -/
theorem report_keeps (e : Engine) (error : InvocationError) : (e.report error).callStack = e.callStack ∧
    (e.report error).reporting = e.reporting ∧
    (e.report error).reported = e.reported ++ if e.reporting && e.callStack.isEmpty then [error] else [] := by
  unfold report
  split
  · exact ⟨rfl, rfl, rfl⟩
  · exact ⟨rfl, rfl, (List.append_nil _).symm⟩

/-- So it is when a function has come to its result. -/
theorem popped_keeps (e : Engine) (result : CallResult) : (e.popped result).callStack = e.callStack.tail ∧
    (e.popped result).reporting = e.reporting ∧ (e.popped result).reported =
      e.reported ++ if e.reporting && e.callStack.tail.isEmpty then errorsOf result else [] := by
  cases result with
  | ok value => exact ⟨rfl, rfl, by simp [popped, settle, errorsOf]⟩
  | error error => exact report_keeps _ error

/-- **What a call leaves on the engine, and what its record says**, for every native function and every depth. -/
theorem trace_disciplined {library : Library} {depth : Nat} {e last : Engine} {call : Invocation} {tree : CallTree}
    {result : CallResult} (ran : trace library depth e call = some (tree, last, result)) :
    Disciplined e call tree last result := by
  induction depth generalizing e call tree last result with
  | zero => cases ran
  | succ depth ih =>
    rw [trace] at ran
    cases called : (e.store.functionOf? call.function).bind library with
    | none =>
      -- nothing is called, so nothing is put onto the call stack
      rw [called] at ran
      obtain ⟨callStack, reporting, reported⟩ := e.report_keeps (e.notCallable call)
      cases ran
      refine ⟨⟨List.forall_mem_singleton.2 ?_, callStack, reporting, reported⟩, rfl, rfl⟩
      rw [callStack]
      exact .node (by simp) (List.forall_mem_nil _)
    | some native =>
      rw [called] at ran
      obtain ⟨⟨inner, after, answer⟩, went, same⟩ := Option.map_eq_some_iff.1 ran
      -- the calls of the function find its name on the call stack, so they report nothing
      have keeps := traceBody_keeps ih went
      have silent : (e.pushed call).reports inner = [] := by simp [reports, pushed]
      obtain ⟨callStack, reporting, reported⟩ := after.popped_keeps answer
      rw [keeps.callStack] at callStack reported
      rw [keeps.reporting] at reporting reported
      rw [keeps.reported, silent, List.append_nil] at reported
      cases same
      refine ⟨⟨List.forall_mem_singleton.2 ?_, callStack, reporting, ?_⟩, rfl, rfl⟩
      · rw [callStack]
        exact .node (fun frames mem => (Option.some.inj mem).symm) keeps.nested
      · rw [reported]
        simp [reports, CallTree.errors, CallTree.result, pushed]

end Engine

/-! ## §5. Calls of a host. -/

/-- A call that a host makes: one whose failure it is told, or one whose failure gives nothing. -/
inductive HostCall where
  | strict (request : Request)
  | soft (function receiver : Value) (arguments : List Value)

namespace HostCall

/-- What is asked for. -/
def request : HostCall → Request
  | strict request => request
  | soft function receiver arguments => .call function receiver arguments

/-- What the host is told of the result. -/
def told : HostCall → CallResult → CallResult
  | strict _, result => result
  | soft .., .ok value => .ok value
  | soft .., .error _ => .ok .undefined

/-- How the call is carried out. -/
def body : HostCall → Body CallResult
  | strict request => request.body
  | soft function receiver arguments => (Body.callOrUndefined function receiver arguments).bind (fun v => .done (.ok v))

theorem traceBody_single (tracer : Engine.Tracer) (e : Engine) (call : Invocation) (next : CallResult → Body CallResult)
    (f : CallResult → CallResult) (ends : ∀ result, next result = .done (f result)) :
    Engine.traceBody tracer e (.invoke call next) = (tracer e call).map (fun r => ([r.1], r.2.1, f r.2.2)) := by
  rw [Engine.traceBody]
  cases tracer e call with
  | none => rfl
  | some r =>
    rw [Option.bind_some, ends]
    rfl

/-- **A host call is a single call on the engine.** -/
theorem traceBody_body (tracer : Engine.Tracer) (e : Engine) (c : HostCall) : Engine.traceBody tracer e c.body =
    (tracer (c.request.prepare e) (c.request.invocation e.store)).map (fun r => ([r.1], r.2.1, c.told r.2.2)) := by
  cases c with
  | strict request =>
    have single := traceBody_single tracer (request.prepare e) (request.invocation e.store) .done id (fun _ => rfl)
    refine Eq.trans ?_ single
    cases request with
    | call function receiver arguments => rfl
    | invokeMethod receiver name arguments => rfl
    | construct constructor arguments =>
      unfold body Request.body Body.construct Request.prepare
      rw [Engine.traceBody]
      simp only
      -- whether or not there is a prototype, only the new receiver differs
      cases e.store.propertyOf constructor "prototype" with
      | object prototype => rfl
      | _ => rfl
  | soft function receiver arguments =>
    refine traceBody_single tracer e (Request.invocation (.call function receiver arguments) e.store)
      (fun _ => (Body.bind _ _).bind _) (told (.soft function receiver arguments)) (fun result => ?_)
    cases result with
    | ok value => rfl
    | error error => rfl

/-- What a host call leaves, and what its record says. -/
theorem traceBody_disciplined {library : Library} {depth : Nat} {e last : Engine} {c : HostCall}
    {trees : List CallTree} {answer : CallResult}
    (ran : Engine.traceBody (Engine.trace library depth) e c.body = some (trees, last, answer)) :
    ∃ tree : CallTree, trees = [tree] ∧ e.Keeps [tree] last ∧ tree.label = (c.request.invocation e.store).label ∧
      answer = c.told tree.result := by
  rw [traceBody_body] at ran
  obtain ⟨⟨tree, after, result⟩, traced, same⟩ := Option.map_eq_some_iff.1 ran
  cases same
  have disciplined := Engine.trace_disciplined traced
  -- the call starts on an engine with another store at most
  obtain ⟨s, prepared, -⟩ := c.request.prepare_extends e
  rw [prepared] at disciplined
  exact ⟨tree, rfl, .of_store disciplined.keeps, disciplined.label, congrArg c.told disciplined.result.symm⟩

end HostCall

/-- A call that a host has made: its record, and whether reporting was on. -/
structure Outermost where
  reporting : Bool
  tree : CallTree

/-- What is reported of it. -/
def Outermost.lines (call : Outermost) : List InvocationError :=
  if call.reporting then call.tree.errors else []

/-- An engine after calls of a host, in order, each with its record.  Between them the host does with the store what it
likes, and switches reporting on and off. -/
inductive Engine.Hosted (library : Library) : List Outermost → Engine → Prop where
  | new (reporting : Bool) : Hosted library [] (Engine.new reporting)
  | change {calls : List Outermost} {e : Engine} (s : Store) (so_far : Hosted library calls e) :
      Hosted library calls { e with store := s }
  | switch {calls : List Outermost} {e : Engine} (reporting : Bool) (so_far : Hosted library calls e) :
      Hosted library calls { e with reporting := reporting }
  | call {calls : List Outermost} {e last : Engine} {depth : Nat} {c : HostCall} {trees : List CallTree}
      {answer : CallResult} (so_far : Hosted library calls e)
      (ran : Engine.run library depth e c.body = some (last, answer))
      (recorded : (Engine.traceBody (Engine.trace library depth) e c.body).map (·.1) = some trees) :
      Hosted library (calls ++ trees.map (Outermost.mk e.reporting)) last

/-- What a host makes of the engine and of its calls. -/
structure Engine.HostDiscipline (library : Library) (calls : List Outermost) (e : Engine) : Prop where
  /-- No call is under way. -/
  idle : e.callStack = []
  /-- Every call, those of native functions included, has left the call stack as it was, and every native function was
  given its own name and then those of the calls that it was made by. -/
  nested : ∀ call ∈ calls, call.tree.Nested []
  /-- Of each call of the host that failed one error was reported, and nothing of the others, or of calls within them. -/
  reported : e.reported = calls.flatMap Outermost.lines
  /-- Keeping records changes nothing: without them, the engine does the same, whatever it runs. -/
  faithful : ∀ (depth : Nat) {α : Type} (start : Engine) (body : Body α),
    (Engine.traceBody (Engine.trace library depth) start body).map (·.2) = Engine.run library depth start body
  /-- The next call of the host is recorded, whatever it is and however deep it goes.  It is a single call on the
  engine, and its result does not depend on the bound on nesting. -/
  next : ∀ (c : HostCall) (depth : Nat) (last : Engine) (answer : CallResult),
    Engine.run library depth e c.body = some (last, answer) →
    ∃ tree : CallTree, Hosted library (calls ++ [⟨e.reporting, tree⟩]) last ∧
      tree.label = (c.request.invocation e.store).label ∧ answer = c.told tree.result ∧
      ∀ more, Engine.run library (depth + more) e c.body = some (last, answer)

namespace Engine.Hosted

variable {library : Library} {calls : List Outermost} {e last : Engine} {depth : Nat} {c : HostCall}
  {trees : List CallTree} {answer : CallResult}

/-- A run of the engine and its record, taken together. -/
theorem traced_of_run (ran : Engine.run library depth e c.body = some (last, answer))
    (recorded : (Engine.traceBody (Engine.trace library depth) e c.body).map (·.1) = some trees) :
    Engine.traceBody (Engine.trace library depth) e c.body = some (trees, last, answer) := by
  rw [← trace_run] at ran
  obtain ⟨⟨found, rest⟩, traced, rfl⟩ := Option.map_eq_some_iff.1 ran
  rw [traced] at recorded ⊢
  obtain rfl := Option.some.inj recorded
  rfl

/-- A call whose record is kept is a run of the engine. -/
theorem of_traced (so_far : Hosted library calls e)
    (traced : Engine.traceBody (Engine.trace library depth) e c.body = some (trees, last, answer)) :
    Hosted library (calls ++ trees.map (Outermost.mk e.reporting)) last := by
  have ran : Engine.run library depth e c.body = some (last, answer) := by
    rw [← trace_run, traced]
    rfl
  exact .call so_far ran (by rw [traced]; rfl)

/-- What is true between the calls of a host. -/
theorem keeps (h : Hosted library calls e) :
    e.callStack = [] ∧ (∀ call ∈ calls, call.tree.Nested []) ∧ e.reported = calls.flatMap Outermost.lines := by
  induction h with
  | new reporting => exact ⟨rfl, List.forall_mem_nil _, rfl⟩
  | change s so_far ih => exact ih
  | switch reporting so_far ih => exact ih
  | call so_far ran recorded ih =>
    obtain ⟨idle, nested, reported⟩ := ih
    obtain ⟨tree, rfl, keeps, -⟩ := HostCall.traceBody_disciplined (traced_of_run ran recorded)
    refine ⟨keeps.callStack.trans idle, ?_, ?_⟩
    · intro call mem
      rcases List.mem_append.1 mem with earlier | this
      · exact nested call earlier
      · rw [List.mem_singleton.1 this]
        exact idle ▸ keeps.nested tree List.mem_cons_self
    · rw [keeps.reported, reported, List.flatMap_append]
      simp [reports, idle, Outermost.lines]

/-- **Calls of a host**: the call stack is empty between them, all calls nest properly, and each failed one is reported
once. -/
theorem disciplined (h : Hosted library calls e) : HostDiscipline library calls e := by
  obtain ⟨idle, nested, reported⟩ := h.keeps
  refine ⟨idle, nested, reported, trace_run library, fun c depth last answer ran => ?_⟩
  rw [← trace_run] at ran
  obtain ⟨⟨trees, rest⟩, traced, rfl⟩ := Option.map_eq_some_iff.1 ran
  obtain ⟨tree, rfl, -, label, told⟩ := HostCall.traceBody_disciplined traced
  refine ⟨tree, h.of_traced traced, label, told, fun more => ?_⟩
  rw [← trace_run, traceBody_deeper traced more]
  rfl

end Engine.Hosted

/-- The functions of a host that tries the engine out. -/
def probing : Library :=
  library Session.probe?

/-- A function that calls another one and swallows its failure, one that passes it on, and one that fails. -/
def relay : StoreM (Value × Value × Value) := do
  let swallowing ← Engine.newFunction "swallowing" (.hosted "nested_soft") 1
  let passing ← Engine.newFunction "passing" (.hosted "nested") 1
  let failing ← Engine.newFunction "failing" (.hosted "custom_error") 1
  return (.object swallowing, .object passing, .object failing)

/-- Of two calls with a failure inside one fails, and that is reported. -/
theorem Engine.Hosted.disciplined_relay : ∃ calls e, Engine.Hosted probing calls e ∧
    Engine.HostDiscipline probing calls e ∧ calls.length = 2 ∧ e.reported.length = 1 := by
  have start : Engine.Hosted probing [] { Engine.new true with store := (relay .empty).2 } := .change _ (.new true)
  have both : ((Engine.traceBody (Engine.trace probing 2) { Engine.new true with store := (relay .empty).2 }
      (HostCall.strict (.call (relay .empty).1.1 .undefined [(relay .empty).1.2.2])).body).bind (fun r =>
        Engine.traceBody (Engine.trace probing 2) r.2.1
          (HostCall.strict (.call (relay .empty).1.2.1 .undefined [(relay .empty).1.2.2])).body)).any
      (fun r => r.2.1.reported.length == 1) = true := by decide +kernel
  obtain ⟨⟨trees', last', answer'⟩, ran, once⟩ := (Option.any_eq_true _ _).1 both
  obtain ⟨⟨trees, last, answer⟩, first, second⟩ := Option.bind_eq_some_iff.1 ran
  have calls := (start.of_traced first).of_traced second
  refine ⟨_, _, calls, calls.disciplined, ?_, beq_iff_eq.1 once⟩
  obtain ⟨tree, rfl, -⟩ := HostCall.traceBody_disciplined first
  obtain ⟨tree', rfl, -⟩ := HostCall.traceBody_disciplined second
  rfl

end ScriptBridge.Script
