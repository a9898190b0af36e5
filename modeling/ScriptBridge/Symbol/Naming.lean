import ScriptBridge.Text.Words
import ScriptBridge.Declared.CanonicalId

/-!
# ScriptBridge.Symbol.Naming

The names that follow from a class or member name: the snake-case name of a native function, the module of a class,
the class as part of an identifier, and the name of its constructor.
-/

namespace ScriptBridge.Symbol

open ScriptBridge.Text

/-- Names whose snake-case form is fixed rather than derived. -/
def fixedSnakeCase : List (String × String) :=
  [("toString", "to_string"), ("AABB", "aabb"), ("OBB", "obb")]

/-- The snake-case form of a name.  The suffixes `2D` and `3D` count as words of their own, so `Circle2D` becomes
`circle_2d`. -/
def snakeCase (name : String) : String :=
  match fixedSnakeCase.lookup name with
  | some fixed => fixed
  | none =>
    String.ofList (snakeWords (replacePair '3' 'D' "_3d".toList (replacePair '2' 'D' "_2d".toList name.toList)))

/-- The module that holds the bindings of a class: `math::Float3x3` goes to `math_float3x3`. -/
def moduleName (className : String) : String :=
  snakeCase (String.ofList (replacePair ':' ':' ['_'] className.toList))

/-- A class name as part of an identifier: scopes are flattened, and characters that no identifier holds become
underscores. -/
def classId (className : String) : String :=
  String.ofList ((replacePair ':' ':' ['_'] className.toList).map
    (fun c => if c.isAlphanum || c == '_' then c else '_'))

/-- The class name without its scopes, which is also the name of its constructors. -/
def constructorName (className : String) : String :=
  String.ofList (afterLastScope className.toList)

end ScriptBridge.Symbol
