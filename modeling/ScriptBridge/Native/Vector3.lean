import ScriptBridge.Numeric.Shortest

/-!
# ScriptBridge.Native.Vector3

Vectors of three single-precision numbers.
-/

namespace ScriptBridge.Native

open ScriptBridge.Numeric

/-- A vector in space. -/
structure Vector3 where
  x : Single
  y : Single
  z : Single
  deriving DecidableEq

namespace Vector3

/-- The vector whose components are zero. -/
def zero : Vector3 :=
  ⟨.zero .single false, .zero .single false, .zero .single false⟩

/-- The inner product; the products are added from left to right. -/
def dot (a b : Vector3) : Single :=
  ((a.x.mul b.x).add (a.y.mul b.y)).add (a.z.mul b.z)

/-- The Euclidean length. -/
def length (v : Vector3) : Single :=
  (dot v v).sqrt

/-- Every component times a factor. -/
def scale (v : Vector3) (factor : Single) : Vector3 :=
  ⟨v.x.mul factor, v.y.mul factor, v.z.mul factor⟩

/-- Every component times its own factor. -/
def scaleBy (v factors : Vector3) : Vector3 :=
  ⟨v.x.mul factors.x, v.y.mul factors.y, v.z.mul factors.z⟩

/-- The sum of two vectors. -/
def add (v w : Vector3) : Vector3 :=
  ⟨v.x.add w.x, v.y.add w.y, v.z.add w.z⟩

/-- The vector of length one in the same direction.  A vector whose length has no finite positive inverse becomes
zero. -/
def normalize (v : Vector3) : Vector3 :=
  let inverse := (Binary.ofInt .single 1).div v.length
  if inverse.isFinitePositive then v.scale inverse else zero

/-- The vector as a text. -/
def text (v : Vector3) : String :=
  "Vector3(" ++ v.x.text ++ ", " ++ v.y.text ++ ", " ++ v.z.text ++ ")"

end Vector3

end ScriptBridge.Native
