import ScriptBridge.Log
import ScriptBridge.Symbol.Exposure

/-!
# ScriptBridge.Binding.Callables

The functions of a class that scripts can call, grouped by name.

Of the exposed functions, in the order of their declaration, each signature is kept once: a function that agrees
with an earlier one in name, basic parameter types and constness cannot be told apart by scripts and is dropped.
Functions of one name form an overload set; a set with several members, and always that of the constructors, is
reached through a selector.
-/

namespace ScriptBridge.Binding

open ScriptBridge.Symbol

/-! ## §1. Callables. -/

/-- A function that gets a wrapper. -/
structure Callable where
  /-- The place of the function among the members of its class. -/
  position : Nat
  declaration : Declaration
  wrapper : String
  isConstructor : Bool
  deriving Repr

/-- What becomes of a function. -/
inductive Verdict where
  /-- It gets a wrapper. -/
  | kept (callable : Callable)
  /-- It is not exposed, for this reason if it is not scriptable. -/
  | unexposed (declaration : Declaration) (rejection : Option Rejection)
  /-- An earlier function has its signature. -/
  | repeated (declaration : Declaration)
  deriving Repr

/-- The verdicts on the functions among `members`, of which the first has the given position; `seen` holds the
signatures kept so far. -/
def judge (className : String) (seen : List (String × List String × Bool)) (position : Nat) :
    List Declaration → List Verdict
  | [] => []
  | d :: rest =>
    if !d.isFunction then judge className seen (position + 1) rest
    else if !d.isExposedFunction then
      .unexposed d d.rejection? :: judge className seen (position + 1) rest
    else if seen.contains d.signature then
      .repeated d :: judge className seen (position + 1) rest
    else
      .kept ⟨position, d, wrapperName className d, d.isConstructorOf className⟩ ::
        judge className (d.signature :: seen) (position + 1) rest

/-- The verdicts on all functions of a class. -/
def verdicts (s : Scope) : List Verdict :=
  judge s.owner.name [] 0 s.members

/-- The callable that a verdict keeps. -/
def Verdict.callable? : Verdict → Option Callable
  | kept callable => some callable
  | _ => none

/-! ## §2. Overload sets. -/

/-- All callables of one name, by their places among the callables. -/
structure OverloadSet where
  name : String
  isConstructor : Bool
  members : List Nat
  deriving Repr, DecidableEq

/-- Whether the set is reached through a selector. -/
def OverloadSet.needsSelector (set : OverloadSet) : Bool :=
  set.isConstructor || 2 ≤ set.members.length

/-- The callables of a class with their overload sets. -/
structure Callables where
  callables : List Callable
  sets : List OverloadSet
  deriving Repr

/-- The sets made so far, and where the set of a name is among them. -/
structure Grouping where
  sets : List OverloadSet
  indices : List (String × Nat)

namespace Grouping

/-- The grouping with a set for the callable's name, which is made if there is none, and the index of that set. -/
def enter (g : Grouping) (callable : Callable) : Grouping × Nat :=
  let name := callable.declaration.name
  match g.indices.lookup name with
  | some index => (g, index)
  | none => (⟨g.sets ++ [⟨name, callable.isConstructor, []⟩], (name, g.sets.length) :: g.indices⟩, g.sets.length)

/-- Takes the callable at the given place into the set of its name. -/
def add (g : Grouping) (place : Nat) (callable : Callable) : Grouping :=
  let (entered, index) := g.enter callable
  ⟨entered.sets.modify index (fun set => { set with members := set.members ++ [place] }), entered.indices⟩

/-- Takes in one callable after the other, of which the first is at the given place. -/
def addAll (g : Grouping) (place : Nat) : List Callable → Grouping
  | [] => g
  | callable :: rest => (g.add place callable).addAll (place + 1) rest

end Grouping

/-- Groups callables by name, in the order in which the names first appear.  The constructors always have a set. -/
def overloadSets (className : String) (callables : List Callable) : List OverloadSet :=
  let sets := (Grouping.addAll ⟨[], []⟩ 0 callables).sets
  if sets.any (·.isConstructor) then sets else sets ++ [⟨constructorName className, true, []⟩]

/-- The callables of a class. -/
def Callables.ofScope (s : Scope) : Callables :=
  let callables := (verdicts s).filterMap (·.callable?)
  ⟨callables, overloadSets s.owner.name callables⟩

namespace Callables

/-- The set of the given name. -/
def setNamed? (c : Callables) (name : String) : Option OverloadSet :=
  c.sets.find? (·.name == name)

/-- The set of the constructors. -/
def constructorSet? (c : Callables) : Option OverloadSet :=
  c.sets.find? (·.isConstructor)

/-- The members of a set. -/
def membersOf (c : Callables) (set : OverloadSet) : List Callable :=
  set.members.filterMap (c.callables[·]?)

/-- The function that is bound under the name of a callable: the selector of its set if that needs one, else its own
wrapper. -/
def bindingName (c : Callables) (className : String) (callable : Callable) : String :=
  match c.setNamed? callable.declaration.name with
  | some set => if set.needsSelector then selectorName className set.name else callable.wrapper
  | none => callable.wrapper

end Callables

/-! ## §3. Native functions. -/

/-- The native function that a wrapper calls.  A constructor without parameters makes the default value. -/
def nativeTarget (d : Declaration) (isConstructor : Bool) : String :=
  match d.native with
  | some native => native
  | none =>
    if isConstructor then (if d.parameters.isEmpty then "default" else "new") else nativeMethodName d

/-- Two callables of one set that call the same native function. -/
structure Collision where
  earlier : String
  later : String
  target : String
  deriving Repr, DecidableEq

/-- The collisions in a set, each between a callable and the last one before it with its target. -/
def collisionsIn (seen : List (String × String)) : List Callable → List Collision
  | [] => []
  | c :: rest =>
    let target := nativeTarget c.declaration c.isConstructor
    let others := collisionsIn ((target, c.wrapper) :: seen) rest
    match seen.lookup target with
    | some earlier => ⟨earlier, c.wrapper, target⟩ :: others
    | none => others

/-- The collisions in all sets of a class. -/
def Callables.collisions (c : Callables) : List Collision :=
  c.sets.flatMap (fun set => collisionsIn [] (c.membersOf set))

/-! ## §4. Reports. -/

/-- The report on a verdict. -/
def Verdict.report? (className : String) : Verdict → Option Log.Entry
  | kept _ => none
  | unexposed d (some rejection) =>
    some ⟨.debug, .overloads, className ++ ": skipping " ++ d.text ++ ": " ++ rejection.message⟩
  | unexposed d none =>
    some ⟨.debug, .overloads, className ++ ": skipping non-public or operator " ++ d.text⟩
  | repeated d =>
    some ⟨.warn, .overloads,
      className ++ ": " ++ d.text ++ " has the same script signature as an earlier overload; skipped"⟩

/-- The report on a collision. -/
def Collision.report (className : String) (c : Collision) : Log.Entry :=
  ⟨.warn, .overloads,
    className ++ ": overloads `" ++ c.earlier ++ "` and `" ++ c.later ++ "` both call native `" ++ c.target ++
      "`; set `native` in the symbol database"⟩

/-- The reports on the functions of a class. -/
def callableReports (s : Scope) : List Log.Entry :=
  (verdicts s).filterMap (·.report? s.owner.name) ++
    (Callables.ofScope s).collisions.map (·.report s.owner.name)

end ScriptBridge.Binding
