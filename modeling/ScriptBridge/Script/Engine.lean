import ScriptBridge.Script.Body

/-!
# ScriptBridge.Script.Engine

The engine: a store, the calls under way, and the errors that were reported.

A call pushes its name onto the call stack, runs the body of its native function and pops the name again, however
the body ends.  The error of a call is reported when no other call is under way, so a failure is reported once, by
the outermost call.  Calls nest at most as deep as a given bound; a run that would go deeper has no result.
-/

namespace ScriptBridge.Script

open ScriptBridge.Native

/-- The state of an engine. -/
structure Engine where
  store : Store
  /-- The names of the calls under way, the innermost first. -/
  callStack : List String
  /-- Whether errors are reported. -/
  reporting : Bool
  /-- The errors that were reported, in order. -/
  reported : List InvocationError

/-- The native functions that references stand for. -/
abbrev Library := FunctionRef → Option NativeFunction

namespace Engine

/-- An engine before anything happened. -/
def new (reporting : Bool) : Engine :=
  ⟨.empty, [], reporting, []⟩

/-- Reports an error, if no call is under way. -/
def report (e : Engine) (error : InvocationError) : Engine :=
  if e.reporting && e.callStack.isEmpty then { e with reported := e.reported ++ [error] } else e

/-- Reports the error of a call, if it failed. -/
def settle (e : Engine) (result : CallResult) : Engine × CallResult :=
  match result with
  | .ok value => (e, .ok value)
  | .error error => (e.report error, .error error)

/-- What runs a call. -/
abbrev Caller := Engine → Invocation → Option (Engine × CallResult)

/-- Runs a body, with `caller` for its calls. -/
def runBody (caller : Caller) {α : Type} (e : Engine) : Body α → Option (Engine × α)
  | .done result => some (e, result)
  | .read next => runBody caller e (next e.store)
  | .write s next => runBody caller { e with store := s } next
  | .invoke call next =>
    match caller e call with
    | none => none
    | some (after, result) => runBody caller after (next result)

/-- Running one body after the other. -/
theorem runBody_bind {α β : Type} (caller : Caller) (b : Body α) (f : α → Body β) (e : Engine) :
    runBody caller e (b.bind f) = (runBody caller e b).bind (fun r => runBody caller r.1 (f r.2)) := by
  induction b generalizing e with
  | done a => rfl
  | read next ih => simp only [Body.bind, runBody, ih]
  | write s next ih => simp only [Body.bind, runBody, ih]
  | invoke call next ih =>
    simp only [Body.bind, runBody]
    cases caller e call with
    | none => rfl
    | some r => simp only [ih]

/-- Runs a call, with at most `depth` calls nested in each other. -/
def invoke (library : Library) : (depth : Nat) → Caller
  | 0, _, _ => none
  | depth + 1, e, call =>
    match (e.store.functionOf? call.function).bind library with
    | none => some (e.settle (.error ⟨call.label, .notCallable (e.store.typeName call.function)⟩))
    | some native =>
      let stack := call.label :: e.callStack
      let context : CallContext := ⟨call.receiver, call.arguments, stack, call.constructs⟩
      match runBody (invoke library depth) { e with callStack := stack } (native context) with
      | none => none
      | some (after, result) => some ({ after with callStack := after.callStack.tail }.settle result)

/-- Runs a body on behalf of the host. -/
def run (library : Library) (depth : Nat) {α : Type} (e : Engine) (body : Body α) : Option (Engine × α) :=
  runBody (invoke library depth) e body

/-- Uses the store on behalf of the host. -/
def useStore (e : Engine) {α : Type} (action : StoreM α) : Engine × α :=
  let (a, s) := action e.store
  ({ e with store := s }, a)

/-! ## §2. What the host makes. -/

/-- Makes a function object with a declared number of parameters. -/
def newFunction (name : String) (ref : FunctionRef) (length : Nat) : StoreM ObjectId := do
  let id ← modifyGet (·.alloc (.ofKind (.function ref)))
  modify (·.define id "name" (.string name) .fixed)
  modify (·.define id "length" (.count length) .fixed)
  return id

/-- Makes a function object that constructs objects with a prototype. -/
def newConstructor (name : String) (ref : FunctionRef) (prototype : ObjectId) (length : Nat) : StoreM ObjectId := do
  let id ← newFunction name ref length
  modify (·.define id "prototype" (.object prototype) .fixed)
  return id

end Engine

end ScriptBridge.Script
