import HilBridge.Geometry.Vec3

/-!
# `HilBridge.Noise` — Gaussian disturbance within three standard deviations

A `Noise` says how a reading is disturbed, a `NoiseSource` yields the disturbances. Where the standard
deviation is zero or negative, and where it is not a finite number, nothing is drawn and the disturbance is
exactly the mean, so the settings without spread leave every result predictable.
-/

namespace HilBridge

/-- Mean and standard deviation of what is added to a reading. -/
structure Noise (α : Type) where
  mean : α
  stddev : α
  deriving Repr, DecidableEq

variable {α : Type} [Scalar α]

namespace Noise

/-- Nothing is added. -/
def none : Noise α :=
  ⟨0.0, 0.0⟩

/-- Both numbers finite, the deviation not negative. -/
def isValid (n : Noise α) : Bool :=
  Scalar.isFinite n.mean && Scalar.isFinite n.stddev && !Scalar.lt n.stddev 0.0

/-- Whether a disturbance is drawn at all; otherwise it is the mean. -/
def isRandom (n : Noise α) : Bool :=
  !Scalar.le n.stddev 0.0 && Scalar.isFinite n.stddev

/-- The least disturbance that is drawn. -/
def low (n : Noise α) : α :=
  n.mean - 3.0 * n.stddev

/-- The largest disturbance that is drawn. -/
def high (n : Noise α) : α :=
  n.mean + 3.0 * n.stddev

end Noise

/--
A source that so many draws were taken from. `fault` is set for good once a disturbance is asked for whose limits
are out of order or not numbers; valid noise has no such limits.
-/
structure NoiseSource where
  seed : Seed
  drawn : Nat
  fault : Bool
  deriving Repr, DecidableEq

namespace NoiseSource

/-- A source of the given seed. Sources without one are told apart by a number. -/
def ofSeed (seed : Option UInt64) (source : Nat := 0) : NoiseSource :=
  ⟨seed.elim (.found source) .given, 0, false⟩

/-- The next draw. -/
def nextNormal (s : NoiseSource) : α × NoiseSource :=
  (Scalar.normal s.seed s.drawn, { s with drawn := s.drawn + 1 })

/-- A disturbance. -/
def sample (s : NoiseSource) (n : Noise α) : α × NoiseSource :=
  if n.isRandom then
    let (z, s) := (s.nextNormal : α × NoiseSource)
    match Scalar.clamp? n.low n.high (n.mean + n.stddev * z) with
    | some x => (x, s)
    | none => (n.mean, { s with fault := true })
  else (n.mean, s)

/-- A reading with its disturbance. -/
def add (s : NoiseSource) (x : α) (n : Noise α) : α × NoiseSource :=
  let (d, s) := s.sample n
  (x + d, s)

/-- A disturbance drawn for each component in turn. -/
def addVec (s : NoiseSource) (v : Vec3 α) (n : Noise α) : Vec3 α × NoiseSource :=
  let (x, s) := s.add v.x n
  let (y, s) := s.add v.y n
  let (z, s) := s.add v.z n
  (⟨x, y, z⟩, s)

end NoiseSource

end HilBridge
