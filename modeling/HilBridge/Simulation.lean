import HilBridge.Bridge.Basic
import HilBridge.Vehicle

/-!
# `HilBridge.Simulation` — a bridge with a vehicle

Each tick of a simulation takes the actuator state from the bridge, moves the vehicle one step and hands
what its sensors read back to the bridge.
-/

namespace HilBridge

/-- A bridge and the vehicle on its simulation side. -/
structure Simulation (L α : Type) where
  bridge : Bridge L α
  vehicle : Vehicle α

/-- Equal outcomes in a row, each with their number. -/
def runLengths : List SyncStatus → List (SyncStatus × Nat)
  | [] => []
  | status :: rest =>
    match runLengths rest with
    | [] => [(status, 1)]
    | (next, n) :: runs => if status = next then (next, n + 1) :: runs else (status, 1) :: (next, n) :: runs

namespace Simulation

variable {L α : Type} [Scalar α]

/-- Hands all readings of the vehicle to the bridge. -/
def deliver (s : Simulation L α) : Simulation L α :=
  let (samples, vehicle) := s.vehicle.samples
  let bridge := samples.foldl (fun b sample => (b.onSample sample).2) s.bridge
  let links := bridge.assembler.rangeLinks
  { bridge := links.foldl (fun b link => (b.onRange link.name vehicle.rangeSample).2) bridge
    vehicle }

variable [AutopilotLink L α]

/-- What a tick came to. -/
structure Ticked (L α : Type) where
  /-- How the actuator state was obtained. -/
  status : SyncStatus
  published : List (Publication α)
  /-- The messages of the bridge's cycle, if there was one. -/
  messages : List (Message α)
  /-- Those that went out. -/
  sent : List (Message α)
  simulation : Simulation L α
  /-- What has not happened yet, counted from the end of the wait. -/
  ahead : List (Burst α)

/-- One tick, while bursts happen if it waits. A shutdown ends the tick. -/
def stepDuring (s : Simulation L α) (bursts : List (Burst α)) : Ticked L α :=
  let start := s.bridge.preUpdate s.vehicle.tick bursts
  let vehicle := s.vehicle.receiveAll start.published
  if start.status = .shutdown then
    ⟨.shutdown, start.published, [], [], ⟨start.bridge, vehicle⟩, start.ahead⟩
  else
    let s := Simulation.deliver ⟨start.bridge, vehicle.advance⟩
    let e := s.bridge.tickEnd s.vehicle.tick
    ⟨start.status, start.published, e.messages, e.sent, { s with bridge := e.bridge }, start.ahead⟩

/-- One tick during which nothing happens. -/
def step (s : Simulation L α) : SyncStatus × Simulation L α :=
  let r := s.stepDuring []
  (r.status, r.simulation)

/--
So many ticks while bursts happen; the first result are their outcomes in order. What a tick leaves ahead
happens during those after it.
-/
def runDuring (s : Simulation L α) (bursts : List (Burst α)) :
    Nat → List SyncStatus × Simulation L α
  | 0 => ([], s)
  | n + 1 =>
    let r := s.stepDuring bursts
    let (statuses, s) := r.simulation.runDuring r.ahead n
    (r.status :: statuses, s)

/-- Whether something was asked of either side that has no answer. -/
def hasFault (s : Simulation L α) : Bool :=
  s.bridge.assembler.noise.fault || s.vehicle.hasFault

end Simulation

end HilBridge
