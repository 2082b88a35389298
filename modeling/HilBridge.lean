import HilBridge.Main
import HilBridge.Config.Override
import HilBridge.Connection.ScriptedLink
import HilBridge.NoiseTrial
import HilBridge.Proofs.Recording
import HilBridge.Proofs.Lockstep.Sighting
import HilBridge.Proofs.Lockstep.WaitRun
import HilBridge.Proofs.Lockstep.Accounting
import HilBridge.Proofs.Lockstep.Acknowledgement
import HilBridge.Proofs.Lockstep.AfterCall
import HilBridge.Proofs.Lockstep.Degradation
import HilBridge.Proofs.Bridge.Journal
import HilBridge.Proofs.Bridge.Run
import HilBridge.Proofs.Bridge.Records
import HilBridge.Proofs.Bridge.Epoch
import HilBridge.Proofs.Bridge.Pending
import HilBridge.Proofs.Sensor.Bookkeeping
import HilBridge.Proofs.Sensor.Order
import HilBridge.Proofs.Bridge.Samples
import HilBridge.Proofs.Sensor.Feeding
import HilBridge.Proofs.Simulation.PromptLink
import HilBridge.Proofs.Simulation.ClosedLoop
import HilBridge.Proofs.Simulation.VehicleTick
import HilBridge.Proofs.Simulation.Faults
import HilBridge.Proofs.Actuator.Reference
import HilBridge.Proofs.Number.FloatOrder
import HilBridge.Proofs.Actuator.Finiteness
import HilBridge.Proofs.Lockstep.Timetable
import HilBridge.Proofs.Bridge.Numbering
import HilBridge.Proofs.Simulation.Pausing
import HilBridge.Proofs.Connection.Attempts
import HilBridge.Proofs.Connection.Order
import HilBridge.Proofs.Bridge.Ranging
import HilBridge.Proofs.Bridge.Delivery
import HilBridge.Proofs.Sensor.Spacing
import HilBridge.Proofs.Bridge.Cadence
import HilBridge.Proofs.Wire.Payload
import HilBridge.Proofs.Wire.Framing
import HilBridge.Proofs.Wire.RoundTrip
import HilBridge.Proofs.Sensor.SharedStore
import HilBridge.Proofs.Simulation.Mirror
import HilBridge.Proofs.Config.Defaults
import HilBridge.Proofs.Actuator.Fallbacks
import HilBridge.Proofs.Rearranging
import HilBridge.Proofs.Sensor.Independence
import HilBridge.Proofs.Number.Exact
import HilBridge.Proofs.Geometry.Rotation
import HilBridge.Proofs.Sensor.CycleReports
import HilBridge.Proofs.Simulation.TrueMotion
import HilBridge.Proofs.Number.FloatValue
import HilBridge.Proofs.Number.FloatRounding
import HilBridge.Proofs.Number.FloatMonotone
import HilBridge.Proofs.Number.FloatNearest
import HilBridge.Proofs.Lockstep.Pacing
import HilBridge.Proofs.Sensor.Displacement
import HilBridge.Proofs.Connection.UdpSession
import HilBridge.Proofs.Atmosphere
import HilBridge.Proofs.Simulation.Altimeter
import HilBridge.Proofs.Bridge.Distances
