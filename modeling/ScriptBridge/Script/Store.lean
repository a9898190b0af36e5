import ScriptBridge.Script.Object
import ScriptBridge.Text.Quoted

/-!
# ScriptBridge.Script.Store

Everything that script values can refer to: the objects, the global object among them, the default prototypes and
numbers of native types, and the shared cells of native values.

Objects are never removed.  A property is looked up on an object and then along its prototypes; since the prototypes
of an object do not repeat, the number of objects bounds the search.
-/

namespace ScriptBridge.Script

open ScriptBridge.Native ScriptBridge.Text

/-- Objects, types and cells. -/
structure Store where
  objects : List Object
  global : ObjectId
  /-- The prototypes of new handles, by the type they are made for. -/
  prototypes : List (NativeType × ObjectId)
  /-- The types that have a number, in the order of their numbers. -/
  numbered : List NativeType
  /-- The contents of the shared cells of each class. -/
  cells : (c : ClassName) → List c.Instance

namespace Store

/-- A store with nothing but a global object. -/
def empty : Store :=
  ⟨[.ofKind .plain], ⟨0⟩, [], [], fun _ => []⟩

/-! ## §1. Objects. -/

/-- The object with an identity. -/
def object? (s : Store) (id : ObjectId) : Option Object :=
  s.objects[id.index]?

/-- Adds an object. -/
def alloc (s : Store) (o : Object) : ObjectId × Store :=
  (⟨s.objects.length⟩, { s with objects := s.objects ++ [o] })

/-- Changes an object. -/
def update (s : Store) (id : ObjectId) (change : Object → Object) : Store :=
  { s with objects := s.objects.modify id.index change }

/-- Makes or replaces a property, as the host does. -/
def define (s : Store) (id : ObjectId) (name : String) (value : Value) (flags : Flags) : Store :=
  s.update id (·.define name value flags)

/-- Replaces an object by what a refusable change makes of it. -/
def tryUpdate (s : Store) (id : ObjectId) (change : Object → Except PropertyError Object) :
    Except PropertyError Store :=
  match s.object? id with
  | none => .ok s
  | some o => (change o).map (fun next => s.update id (fun _ => next))

/-- Assigns to a property, as scripts do. -/
def put (s : Store) (id : ObjectId) (name : String) (value : Value) : Except PropertyError Store :=
  s.tryUpdate id (·.put name value)

/-- Deletes a property, as scripts do. -/
def delete (s : Store) (id : ObjectId) (name : String) : Except PropertyError Store :=
  s.tryUpdate id (·.delete name)

/-- Gives an object another prototype, or none. -/
def setPrototype (s : Store) (id : ObjectId) (prototype : Option ObjectId) : Store :=
  s.update id (fun o => { o with prototype := prototype })

/-- Attaches a native value to an object. -/
def attach (s : Store) (id : ObjectId) (d : Datum) : Store :=
  s.update id (·.attach d)

/-- The native value of a type that is attached to an object. -/
def data? (s : Store) (id : ObjectId) (type : NativeType) : Option type.Data :=
  (s.object? id).bind (·.data? type)

/-! ## §2. Looking up. -/

/-- The nearest value of a name on at most `bound` objects of a prototype chain. -/
def findAlong (s : Store) (name : String) : Nat → Option ObjectId → Option Value
  | 0, _ => none
  | _ + 1, none => none
  | bound + 1, some id =>
    match s.object? id with
    | none => none
    | some o =>
      match o.own? name with
      | some value => some value
      | none => findAlong s name bound o.prototype

/-- The value of a property, on the object or along its prototypes. -/
def property (s : Store) (id : ObjectId) (name : String) : Value :=
  (s.findAlong name s.objects.length (some id)).getD .undefined

/-- The value of a property of a value.  Only objects have properties. -/
def propertyOf (s : Store) (v : Value) (name : String) : Value :=
  match v with
  | .object id => s.property id name
  | _ => .undefined

/-- The object that a value names. -/
def objectOf? (s : Store) (v : Value) : Option Object :=
  v.asObject?.bind s.object?

/-- The function behind a value, if there is one. -/
def functionOf? (s : Store) (v : Value) : Option FunctionRef :=
  (s.objectOf? v).bind (·.function?)

/-- Whether a value is a handle that was made for a type. -/
def isInstanceOf (s : Store) (v : Value) (type : NativeType) : Bool :=
  (s.objectOf? v).bind (·.nativeType) == some type

/-! ## §3. Types. -/

/-- The first number that types get; those below are reserved. -/
def firstNumber : Nat := 1024

/-- Gives a type a number, unless it has one. -/
def enlist (s : Store) (type : NativeType) : Store :=
  if s.numbered.contains type then s else { s with numbered := s.numbered ++ [type] }

/-- The number of a type, which is given on first use. -/
def typeNumber (s : Store) (type : NativeType) : Nat × Store :=
  let next := s.enlist type
  (firstNumber + next.numbered.idxOf type, next)

/-- The prototype of new handles for a type. -/
def defaultPrototype? (s : Store) (type : NativeType) : Option ObjectId :=
  s.prototypes.lookup type

/-- Sets the prototype of new handles for a type. -/
def setDefaultPrototype (s : Store) (type : NativeType) (prototype : ObjectId) : Store :=
  { s with prototypes := Keyed.set type prototype s.prototypes }

/-! ## §4. Cells. -/

/-- The content of a cell. -/
def content? {c : ClassName} (s : Store) (cell : Cell c) : Option c.Instance :=
  (s.cells c)[cell.index]?

/-- Replaces the cells of one class. -/
def setCells (s : Store) (c : ClassName) (contents : List c.Instance) : Store :=
  { s with cells := fun d => if h : c = d then h ▸ contents else s.cells d }

/-- Adds a cell. -/
def newCell (s : Store) (c : ClassName) (content : c.Instance) : Cell c × Store :=
  (⟨(s.cells c).length⟩, s.setCells c (s.cells c ++ [content]))

/-- Changes the content of a cell. -/
def setContent {c : ClassName} (s : Store) (cell : Cell c) (content : c.Instance) : Store :=
  s.setCells c ((s.cells c).set cell.index content)

/-! ## §5. Words. -/

/-- The name of the dynamic type of a value. -/
def typeName (s : Store) : Value → String
  | .undefined => "undefined"
  | .bool _ => "bool"
  | .number _ => "number"
  | .string _ => "string"
  | .object id => ((s.object? id).map (·.typeName)).getD "object"

/-- A value in messages. -/
def text (s : Store) : Value → String
  | .undefined => "undefined"
  | .bool b => if b then "true" else "false"
  | .number n => n.text
  | .string t => quoted t
  | .object id => ((s.object? id).map (·.text)).getD "[object]"

/-! ## §6. What the operations show. -/

/-- A new object is found under its identity, and the others stay where they are. -/
theorem object?_alloc (s : Store) (o : Object) (id : ObjectId) :
    (s.alloc o).2.object? id = if id = (s.alloc o).1 then some o else s.object? id := by
  obtain ⟨index⟩ := id
  simp only [alloc, object?, ObjectId.mk.injEq]
  by_cases last : index = s.objects.length
  · simp [last]
  · rw [if_neg last]
    by_cases inside : index < s.objects.length
    · rw [List.getElem?_append_left inside]
    · rw [List.getElem?_eq_none (by simp; omega), List.getElem?_eq_none (by omega)]

/-- A change reaches its object and no other. -/
theorem object?_update (s : Store) (id other : ObjectId) (change : Object → Object) :
    (s.update id change).object? other =
      if other = id then (s.object? id).map change else s.object? other := by
  obtain ⟨index⟩ := id
  obtain ⟨place⟩ := other
  simp only [update, object?, ObjectId.mk.injEq, List.getElem?_modify]
  by_cases same : place = index
  · subst same
    cases s.objects[place]? <;> simp
  · have apart : ¬index = place := fun h => same h.symm
    cases s.objects[place]? <;> simp [same, apart]

/-- A cell that was set holds what it was set to. -/
theorem cells_setCells_self (s : Store) (c : ClassName) (contents : List c.Instance) :
    (s.setCells c contents).cells c = contents := by
  simp [setCells]

/-- The cells of other classes stay as they are. -/
theorem cells_setCells_of_ne {s : Store} {c d : ClassName} {contents : List c.Instance} (h : c ≠ d) :
    (s.setCells c contents).cells d = s.cells d := by
  simp [setCells, h]

end Store

/-- Computations that use a store. -/
abbrev StoreM := StateM Store

end ScriptBridge.Script
