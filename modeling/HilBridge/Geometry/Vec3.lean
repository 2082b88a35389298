import HilBridge.Scalar

/-!
# `HilBridge.Geometry.Vec3` — vectors of three components
-/

namespace HilBridge

/-- A vector in some right-handed frame; which one is said where it is used. -/
structure Vec3 (α : Type) where
  x : α
  y : α
  z : α
  deriving Repr, DecidableEq

namespace Vec3

variable {α : Type}

/-- The components in order. -/
def toList (v : Vec3 α) : List α :=
  [v.x, v.y, v.z]

/-- A function applied to each component. -/
def map {β : Type} (f : α → β) (v : Vec3 α) : Vec3 β :=
  ⟨f v.x, f v.y, f v.z⟩

variable [Scalar α]

def zero : Vec3 α :=
  ⟨0.0, 0.0, 0.0⟩

/-- The unit vector of the first axis. -/
def unitX : Vec3 α :=
  ⟨1.0, 0.0, 0.0⟩

/-- The unit vector of the third axis. -/
def unitZ : Vec3 α :=
  ⟨0.0, 0.0, 1.0⟩

instance : Add (Vec3 α) where
  add v w := ⟨v.x + w.x, v.y + w.y, v.z + w.z⟩

instance : Sub (Vec3 α) where
  sub v w := ⟨v.x - w.x, v.y - w.y, v.z - w.z⟩

instance : Neg (Vec3 α) where
  neg v := ⟨-v.x, -v.y, -v.z⟩

/-- Each component times `k`. -/
instance : HMul (Vec3 α) α (Vec3 α) where
  hMul v k := ⟨v.x * k, v.y * k, v.z * k⟩

/-- Each component divided by `k`. -/
instance : HDiv (Vec3 α) α (Vec3 α) where
  hDiv v k := ⟨v.x / k, v.y / k, v.z / k⟩

/-- The vector product. -/
def cross (v w : Vec3 α) : Vec3 α :=
  ⟨v.y * w.z - v.z * w.y, v.z * w.x - v.x * w.z, v.x * w.y - v.y * w.x⟩

def normSquared (v : Vec3 α) : α :=
  v.x * v.x + v.y * v.y + v.z * v.z

def norm (v : Vec3 α) : α :=
  Scalar.sqrt v.normSquared

/-- Length of the first two components. -/
def horizontalNorm (v : Vec3 α) : α :=
  Scalar.sqrt (v.x * v.x + v.y * v.y)

end Vec3

end HilBridge
