/-!
# `HilBridge.Lockstep.Tick` — one step of the simulation

The simulation announces every step it is about to make, and again after it has made it.
-/

namespace HilBridge

/-- The timing of a tick: simulation time and step in microseconds. -/
structure Tick where
  time : Nat
  step : Nat
  paused : Bool
  deriving Repr, DecidableEq

end HilBridge
