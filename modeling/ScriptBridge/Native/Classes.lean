import ScriptBridge.Native.Vector3
import ScriptBridge.Numeric.Whole

/-!
# ScriptBridge.Native.Classes

The native classes that are bound beside the vector: placements, named entities, buffers that scripts cannot look
into, and a marker without any state.
-/

namespace ScriptBridge.Native

open ScriptBridge.Numeric

/-! ## §1. Placements. -/

/-- A position and a scale with a name and tags; the origin never changes. -/
structure Transform where
  position : Vector3
  scale : Single
  name : String
  origin : Vector3
  tags : List String
  deriving DecidableEq

namespace Transform

/-- The placement that a new object has. -/
def fresh : Transform :=
  ⟨.zero, .ofInt .single 1, "", .zero, []⟩

/-- Moves the position. -/
def translate (t : Transform) (offset : Vector3) : Transform :=
  { t with position := t.position.add offset }

end Transform

/-! ## §2. Entities. -/

/-- A numbered and named entity with a number that scripts do not see. -/
structure Entity where
  id : Whole .u32
  name : String
  secret : Whole .i32
  deriving DecidableEq

namespace Entity

/-- An entity with the given number and name. -/
def named (id : Whole .u32) (name : String) : Entity :=
  ⟨id, name, .clamp .i32 0⟩

/-- The entity that a new object has. -/
def fresh : Entity :=
  named (.clamp .u32 0) ""

/-- Changes the name. -/
def rename (e : Entity) (name : String) : Entity :=
  { e with name := name }

/-- The entity in words. -/
def describe (e : Entity) : String :=
  "Entity #" ++ toString e.id.val ++ " (" ++ e.name ++ ")"

end Entity

/-! ## §3. Buffers. -/

/-- A buffer: scripts see its size, the bytes travel with the handle. -/
structure Payload where
  size : Whole .i32
  cache : List UInt8
  deriving DecidableEq

namespace Payload

/-- The buffer that a new object has. -/
def fresh : Payload :=
  ⟨.clamp .i32 0, []⟩

/-- Fills the buffer with the bytes 0, 1, 2, …, starting over after 255.  A negative count empties it. -/
def fill (_ : Payload) (count : Whole .i32) : Payload :=
  ⟨.clamp .i32 (max count.val 0), (List.range count.val.toNat).map UInt8.ofNat⟩

/-- The sum of the bytes.  A sum that is too great wraps around. -/
def checksum (p : Payload) : Whole .i32 :=
  .wrap .i32 (p.cache.foldr (fun byte total => byte.toNat + total) 0)

end Payload

/-! ## §4. Markers. -/

/-- A marker: it has a class and nothing else. -/
structure Marker where
  deriving DecidableEq

namespace Marker

/-- What kind of thing a marker is. -/
def kind (_ : Marker) : String :=
  "marker"

end Marker

end ScriptBridge.Native
