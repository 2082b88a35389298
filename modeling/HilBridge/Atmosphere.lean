import HilBridge.Scalar

/-!
# `HilBridge.Atmosphere` — pressure, temperature and altitude of the standard troposphere

Temperature falls linearly with altitude, pressure by a power of the temperature ratio. The barometer
reading of the vehicle comes from `pressureAt`, the altitude that the autopilot is told from
`pressureAltitude`; the two undo each other up to the altitude where the temperature would reach zero.
-/

namespace HilBridge

/-- Conditions at mean sea level and the fall of temperature per metre. -/
structure Atmosphere (α : Type) where
  /-- Pascal. -/
  pressure : α
  /-- Kelvin. -/
  temperature : α
  /-- Kelvin per metre. -/
  lapseRate : α
  deriving Repr, DecidableEq

namespace Atmosphere

variable {α : Type} [Scalar α]

/-- The international standard atmosphere. -/
def standard : Atmosphere α :=
  ⟨101325.0, 288.15, 0.0065⟩

/-- Exponent of the temperature ratio in the pressure law. -/
def pressureExponent : α :=
  5.25588

/-- Zero degrees Celsius in kelvin. -/
def kelvinOffset : α :=
  273.15

/-- The altitude at which the pressure prevails. Pressures below zero count as vacuum. -/
def pressureAltitude (a : Atmosphere α) (pressure : α) : α :=
  let ratio := Scalar.max (pressure / a.pressure) 0.0
  a.temperature / a.lapseRate * (1.0 - Scalar.pow ratio (1.0 / pressureExponent))

/-- Temperature in kelvin at an altitude in metres. -/
def temperatureAt (a : Atmosphere α) (altitude : α) : α :=
  a.temperature - a.lapseRate * altitude

/-- Pressure in pascal at an altitude in metres. -/
def pressureAt (a : Atmosphere α) (altitude : α) : α :=
  a.pressure * Scalar.pow (a.temperatureAt altitude / a.temperature) pressureExponent

/-- Temperature in degrees Celsius at the altitude where the pressure prevails. -/
def celsiusForPressure (a : Atmosphere α) (pressure : α) : α :=
  a.temperatureAt (a.pressureAltitude pressure) - kelvinOffset

end Atmosphere

end HilBridge
