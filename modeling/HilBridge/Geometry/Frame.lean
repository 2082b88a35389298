import HilBridge.Geometry.Quaternion

/-!
# `HilBridge.Geometry.Frame` — between the simulation's frames and the autopilot's

The simulation reports body quantities as forward, left, up and world quantities as east, north, up. The
autopilot expects forward, right, down and north, east, down. Both changes of basis are rotations, held in
a `FrameChange`, so that another convention is another value and not another function.
-/

namespace HilBridge

variable {α : Type} [Scalar α]

/-- Forward, left, up to forward, right, down: a half turn about the forward axis. -/
def fluToFrd : Quaternion α :=
  Quaternion.ofAxisAngle Vec3.unitX Scalar.pi

/-- East, north, up to north, east, down: a half turn about the horizontal axis between east and north. -/
def enuToNed : Quaternion α :=
  Quaternion.normalize ⟨0.0, ⟨Scalar.sqrt 0.5, Scalar.sqrt 0.5, 0.0⟩⟩

/-- The rotation of the body axes and that of the world axes. -/
structure FrameChange (α : Type) where
  body : Quaternion α
  world : Quaternion α
  deriving Repr, DecidableEq

namespace FrameChange

/-- From the simulation's conventions to the autopilot's. -/
def simToAutopilot : FrameChange α :=
  ⟨fluToFrd, enuToNed⟩

/-- A body vector of the simulation in the autopilot's axes. -/
def bodyVector (f : FrameChange α) (v : Vec3 α) : Vec3 α :=
  f.body.rotate v

/-- A body vector of the autopilot in the simulation's axes. -/
def bodyVectorInverse (f : FrameChange α) (v : Vec3 α) : Vec3 α :=
  f.body.conj.rotate v

/-- A world vector of the simulation in the autopilot's axes. -/
def worldVector (f : FrameChange α) (v : Vec3 α) : Vec3 α :=
  f.world.rotate v

/-- A world vector of the autopilot in the simulation's axes. -/
def worldVectorInverse (f : FrameChange α) (v : Vec3 α) : Vec3 α :=
  f.world.conj.rotate v

/-- The attitude of the body in the world, from the simulation's conventions to the autopilot's. -/
def orientation (f : FrameChange α) (q : Quaternion α) : Quaternion α :=
  f.world * q * f.body.conj

/-- The attitude of the body in the world, from the autopilot's conventions to the simulation's. -/
def inverseOrientation (f : FrameChange α) (q : Quaternion α) : Quaternion α :=
  f.world.conj * q * f.body

end FrameChange

end HilBridge
