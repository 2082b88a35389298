import HilBridge.Geometry.Vec3

/-!
# `HilBridge.Geometry.Quaternion` — rotations

A rotation is a quaternion of norm one. The type does not insist on the norm: a quaternion read from
outside, or normalized from zero, keeps whatever the arithmetic gives. `rotate` agrees with the product
`q * v * q⁻¹` exactly when the norm is one.
-/

namespace HilBridge

/-- `w + i·x + j·y + k·z`, the imaginary part as a vector. -/
structure Quaternion (α : Type) where
  w : α
  imag : Vec3 α
  deriving Repr, DecidableEq

namespace Quaternion

variable {α : Type}

/-- The components, scalar first. -/
def toList (q : Quaternion α) : List α :=
  q.w :: q.imag.toList

variable [Scalar α]

/-- The rotation that turns nothing. -/
def identity : Quaternion α :=
  ⟨1.0, Vec3.zero⟩

/-- The Hamilton product: first `b`, then `a`. -/
instance : Mul (Quaternion α) where
  mul a b :=
    ⟨a.w * b.w - a.imag.x * b.imag.x - a.imag.y * b.imag.y - a.imag.z * b.imag.z,
     ⟨a.w * b.imag.x + a.imag.x * b.w + a.imag.y * b.imag.z - a.imag.z * b.imag.y,
      a.w * b.imag.y - a.imag.x * b.imag.z + a.imag.y * b.w + a.imag.z * b.imag.x,
      a.w * b.imag.z + a.imag.x * b.imag.y - a.imag.y * b.imag.x + a.imag.z * b.w⟩⟩

/-- The reverse rotation: the imaginary part changes sign. -/
def conj (q : Quaternion α) : Quaternion α :=
  ⟨q.w, -q.imag⟩

def normSquared (q : Quaternion α) : α :=
  (q.imag.x * q.imag.x + q.imag.z * q.imag.z) + (q.imag.y * q.imag.y + q.w * q.w)

def norm (q : Quaternion α) : α :=
  Scalar.sqrt q.normSquared

/-- Divided by its norm. -/
def normalize (q : Quaternion α) : Quaternion α :=
  ⟨q.w / q.norm, q.imag / q.norm⟩

/-- The vector turned by the rotation, for a quaternion of norm one. -/
def rotate (q : Quaternion α) (v : Vec3 α) : Vec3 α :=
  let t := q.imag.cross v * (2.0 : α)
  t * q.w + q.imag.cross t + v

/-- The rotation by `angle` about an axis of length one. -/
def ofAxisAngle (axis : Vec3 α) (angle : α) : Quaternion α :=
  let half := angle / 2.0
  ⟨Scalar.cos half, axis * Scalar.sin half⟩

/--
The axis of the rotation times its angle, the angle at most a half turn. A rotation that turns nothing
has no axis and gives zero.
-/
def scaledAxis (q : Quaternion α) : Vec3 α :=
  let axis := if Scalar.le 0.0 q.w then q.imag else -q.imag
  if Scalar.lt 0.0 axis.normSquared then
    axis / axis.norm * (Scalar.atan2 q.imag.norm (Scalar.abs q.w) * (2.0 : α))
  else Vec3.zero

end Quaternion

end HilBridge
