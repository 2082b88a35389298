import HilBridge.Actuator.Outputs
import HilBridge.Connection.Endpoint
import HilBridge.Sensor.Message

/-!
# `HilBridge.Connection.Link` — what a transport to the autopilot offers

A link is opened towards an endpoint, sends messages and is closed again; each of the three may fail. While
an operation runs, the rest of the world goes on: commands may arrive and the bridge may be told to shut
down. An outcome therefore says not only how the operation ended but also what happened meanwhile.
-/

namespace HilBridge

/-- Why an operation of the connection failed. -/
inductive BridgeError where
  | connectionFailed (reason : String)
  | protocolError (reason : String)
  | resolutionFailed (host : String) (attempts : Nat)
  | notReady
  | shutdown
  /-- The system refused to send or receive. -/
  | network (reason : String)
  deriving Repr, DecidableEq

/-- The error in words. -/
def BridgeError.message : BridgeError → String
  | .connectionFailed reason => "Connection failed: " ++ reason
  | .protocolError reason => "Protocol error: " ++ reason
  | .resolutionFailed host attempts => "Could not resolve " ++ host ++ s!" after {attempts} attempts"
  | .notReady => "Link not ready"
  | .shutdown => "Shutdown requested"
  | .network reason => "IO error: " ++ reason

/-- How an operation on a link ended, and what happened meanwhile. -/
structure LinkOutcome (L α : Type) where
  result : Except BridgeError Unit
  link : L
  /-- Values that the link published, oldest first. -/
  published : List (Option (Command α))
  /-- Whether the bridge was told to shut down. -/
  isShutdown : Bool

/-- An outcome during which nothing else happened. -/
def LinkOutcome.quiet {L α : Type} (result : Except BridgeError Unit) (link : L) :
    LinkOutcome L α :=
  ⟨result, link, [], false⟩

/-- A transport to the autopilot. -/
class AutopilotLink (L : Type) (α : outParam Type) where
  /-- A short name for logs. -/
  name : L → String
  openTo : L → Endpoint → LinkOutcome L α
  send : L → Message α → LinkOutcome L α
  close : L → LinkOutcome L α
  isOpen : L → Bool
  /-- Whether commands that come in are published. -/
  isListening : L → Bool

end HilBridge
