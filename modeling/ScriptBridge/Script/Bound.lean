import ScriptBridge.Script.Layout

/-!
# ScriptBridge.Script.Bound

The layouts of the bound classes, and with them the conversions of all native types.
-/

namespace ScriptBridge.Script

open ScriptBridge.Native ScriptBridge.Numeric

/-! ## §1. Layouts. -/

/-- A field whose type is marshalled. -/
def Field.of {α β : Type} [m : Marshal β] (name : String) (isConst : Bool) (get : α → β) (set : α → β → α) : Field α :=
  ⟨β, m, name, isConst, get, set⟩

/-- The three components. -/
def vector3Layout : Layout .vector3 where
  fields := [
    .of "x" false Vector3.x (fun v x => { v with x := x }),
    .of "y" false Vector3.y (fun v y => { v with y := y }),
    .of "z" false Vector3.z (fun v z => { v with z := z })]
  whole := false
  fresh := .zero

instance : Marshal Vector3 := vector3Layout.marshal

/-- All five fields; the origin is constant. -/
def transformLayout : Layout .transform where
  fields := [
    .of "position" false Transform.position (fun t position => { t with position := position }),
    .of "scale" false Transform.scale (fun t scale => { t with scale := scale }),
    .of "name" false Transform.name (fun t name => { t with name := name }),
    .of "origin" true Transform.origin (fun t origin => { t with origin := origin }),
    .of "tags" false Transform.tags (fun t tags => { t with tags := tags })]
  whole := false
  fresh := .fresh

instance : Marshal Transform := transformLayout.marshal

/-- Number and name; the secret stays behind. -/
def entityLayout : Layout .entity where
  fields := [
    .of "id" false Entity.id (fun e id => { e with id := id }),
    .of "name" false Entity.name (fun e name => { e with name := name })]
  whole := false
  fresh := .fresh

instance : Marshal Entity := entityLayout.marshal

/-- The size; the bytes travel as part of the whole buffer. -/
def payloadLayout : Layout .payload where
  fields := [.of "size" false Payload.size (fun p size => { p with size := size })]
  whole := true
  fresh := .fresh

instance : Marshal Payload := payloadLayout.marshal

/-- No fields. -/
def markerLayout : Layout .marker where
  fields := []
  whole := false
  fresh := ⟨⟩

instance : Marshal Marker := markerLayout.marshal

/-- The layout of a class. -/
def Layout.ofClass : (c : ClassName) → Layout c
  | .vector3 => vector3Layout
  | .transform => transformLayout
  | .entity => entityLayout
  | .payload => payloadLayout
  | .marker => markerLayout

/-- The conversions of a value type. -/
@[reducible]
def marshalOf : (τ : ValueType) → Marshal τ.Data
  | .whole t => inferInstanceAs (Marshal (Whole t))
  | .single => inferInstanceAs (Marshal Single)
  | .double => inferInstanceAs (Marshal Double)
  | .bool => inferInstanceAs (Marshal Bool)
  | .string => inferInstanceAs (Marshal String)
  | .list element =>
    let _ := marshalOf element
    inferInstanceAs (Marshal (List element.Data))
  | .object c => (Layout.ofClass c).marshal

instance (τ : ValueType) : Marshal τ.Data := marshalOf τ

/-! ## §2. Shared cells. -/

/-- Makes a handle for the content of a cell; it remembers the cell. -/
def shareToScript {c : ClassName} (cell : Cell c) : StoreM Value := do
  let s ← get
  match s.content? cell with
  | none => return .undefined
  | some content =>
    let handle ← (Layout.ofClass c).toScript content
    match handle with
    | .object id =>
      if let some prototype := (← get).defaultPrototype? (.shared c) then
        modify (·.setPrototype id (some prototype))
      modify (·.attach id ⟨.shared c, cell⟩)
      return handle
    | _ => return handle

/-- The cell that a value stands for.  A handle that remembers a cell gives that one, updated with what the handle
says; any other value gives a new cell.  If the value cannot be read, nothing changes. -/
def shareOfScript (c : ClassName) (v : Value) : StoreM (Except ConvertError (Cell c)) := fun s =>
  let layout := Layout.ofClass c
  let remembered : Option (Cell c) := v.asObject?.bind (fun id => s.data? id (.shared c))
  match remembered with
  | some cell =>
    match layout.read s v ((s.content? cell).getD layout.fresh) with
    | .error e => (.error e, s)
    | .ok content => (.ok cell, s.setContent cell content)
  | none =>
    match layout.read s v layout.fresh with
    | .error e => (.error e, s)
    | .ok content => let (cell, next) := s.newCell c content; (.ok cell, next)

/-! ## §3. All native types. -/

namespace Convert

/-- The script value for a native one; `constant` asks for the constant form.  A shared cell has no such form. -/
def toScript (τ : NativeType) (constant : Bool) (data : τ.Data) : StoreM Value :=
  match τ, data with
  | .value type, data => if constant then (marshalOf type).toConst data else (marshalOf type).toScript data
  | .shared _, cell => shareToScript cell

/-- The native value for a script value. -/
def ofScript (τ : NativeType) (v : Value) : StoreM (Except ConvertError τ.Data) :=
  match τ with
  | .value type => fun s => ((marshalOf type).ofScript s v, s)
  | .shared c => shareOfScript c v

/-- The native value of a property; a failure is attributed to the property. -/
def propertyAs (τ : NativeType) (id : ObjectId) (name : String) : StoreM (Except ConvertError τ.Data) := do
  let result ← ofScript τ ((← get).property id name)
  return result.mapError (.inProperty name)

/-- Whether a script value passes for one of the type. -/
def accepts (τ : NativeType) (s : Store) (v : Value) : Bool :=
  match τ with
  | .value type => (marshalOf type).accepts s v
  | .shared c => s.isInstanceOf v (.value (.object c))

end Convert

end ScriptBridge.Script
