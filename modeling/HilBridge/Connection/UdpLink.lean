import HilBridge.Connection.Link
import HilBridge.Wire.Frame
import HilBridge.Wire.Telemetry

/-!
# `HilBridge.Connection.UdpLink` — frames in datagrams

An open link has a socket, a receive task that publishes the commands in every datagram that comes in, and
the signal that stops that task. What the network makes of an attempt to open a socket or to send is given
as the outcome of the attempt, so that nothing here depends on a system.
-/

namespace HilBridge

open Wire

/-- What comes of an attempt to reach an endpoint. -/
inductive SocketAttempt where
  /-- The local port cannot be had. -/
  | bindRefused
  /-- There is no way to the endpoint. -/
  | connectRefused
  | connected
  deriving Repr, DecidableEq

/-- What a network makes of attempts. -/
structure Network where
  reach : UInt16 → Endpoint → SocketAttempt
  /-- Whether a datagram can be sent. -/
  takes : List UInt8 → Bool

namespace Network

/-- A network to which nothing is connected. -/
def absent : Network :=
  ⟨fun _ _ => .bindRefused, fun _ => false⟩

/-- A network on which every single host can be reached, from every local port that is not taken. -/
def reaching (isTaken : UInt16 → Bool) : Network :=
  { reach := fun localPort remote =>
      if isTaken localPort then .bindRefused
      else if remote.isBroadcast then .connectRefused
      else .connected
    takes := fun _ => true }

end Network

/-- Who the bridge is on the wire. -/
structure UdpSettings where
  /-- Zero lets the system choose. -/
  localPort : UInt16
  protocolVersion : Binary32
  systemId : UInt8
  componentId : UInt8
  deriving Repr, DecidableEq

namespace UdpSettings

def ofConfig {α : Type} (c : Config α) : UdpSettings :=
  ⟨c.localPort, c.protocolVersion, 1, 200⟩

def framing (s : UdpSettings) : Framing :=
  .ofVersion s.protocolVersion

end UdpSettings

/-- A link over datagrams. Receive tasks are told apart by numbers, in the order of their start. -/
structure UdpLink where
  settings : UdpSettings
  network : Network
  others : OtherPackets
  /-- The peer of the open socket. -/
  socket : Option Endpoint
  /-- The peer of the last socket. -/
  remote : Option Endpoint
  /-- The number of the next frame. -/
  sequence : UInt8
  /-- The receive task that the link holds. -/
  receiver : Option Nat
  /-- The receive task that the stop signal which the link holds reaches. -/
  stopSignal : Option Nat
  /-- How many receive tasks were ever started. -/
  started : Nat
  /-- The receive tasks that have not ended. -/
  running : List Nat

namespace UdpLink

/-- A link that was never open. -/
def new (settings : UdpSettings) (network : Network) (others : OtherPackets := .neverRefused) : UdpLink :=
  { settings, network, others
    socket := none
    remote := none
    sequence := 0
    receiver := none
    stopSignal := none
    started := 0
    running := [] }

def isOpen (l : UdpLink) : Bool :=
  l.socket.isSome

/-- Closes the link: its receive task is told to stop and has ended afterwards. -/
def close (l : UdpLink) : UdpLink :=
  { l with
    socket := none
    receiver := none
    stopSignal := none
    running := l.running.filter fun task => l.stopSignal != some task }

/-- Opens a socket, with the given outcome of the attempt. An open link is closed first. -/
def openWith (l : UdpLink) (remote : Endpoint) (attempt : SocketAttempt) :
    Except BridgeError Unit × UdpLink :=
  let l := if l.isOpen then l.close else l
  match attempt with
  | .bindRefused => (.error (.connectionFailed s!"Failed to bind port {l.settings.localPort.toNat}"), l)
  | .connectRefused => (.error (.connectionFailed ("Failed to connect to " ++ remote.toText)), l)
  | .connected =>
    (.ok (),
     { l with
       socket := some remote
       remote := some remote
       sequence := 0
       receiver := some l.started
       stopSignal := some l.started
       started := l.started + 1
       running := l.running ++ [l.started] })

/-- The frame of a packet, which takes a number. -/
def encode (l : UdpLink) (p : Packet) : List UInt8 × UdpLink :=
  (encodeFrame l.settings.framing ⟨l.settings.systemId, l.settings.componentId, l.sequence⟩ p,
   { l with sequence := l.sequence + 1 })

/-- Sends a message if the link is open and the network takes it. The frame has its number either way. -/
def sendWith (l : UdpLink) (message : Message Float) (takes : List UInt8 → Bool) :
    Except BridgeError (List UInt8) × UdpLink :=
  if l.isOpen then
    let (frame, l) := l.encode (ofMessage message)
    if takes frame then (.ok frame, l) else (.error (.network "datagram refused"), l)
  else (.error .notReady, l)

/-- Opens a socket on the network of the link. -/
def openTo (l : UdpLink) (remote : Endpoint) : Except BridgeError Unit × UdpLink :=
  l.openWith remote (l.network.reach l.settings.localPort remote)

/-- Sends a message on the network of the link; the result is the frame that went out. -/
def send (l : UdpLink) (message : Message Float) : Except BridgeError (List UInt8) × UdpLink :=
  l.sendWith message l.network.takes

/-! ## Receiving -/

/-- Bytes of a datagram that are received at most. -/
def maxDatagram : Nat :=
  2048

/-- The commands in a datagram, in order. -/
def commandsIn (l : UdpLink) (datagram : List UInt8) : List (Command Float) :=
  (decodeDatagram l.settings.framing (datagram.take maxDatagram) l.others).filterMap fun
    | .actuators p => some p.command
    | _ => none

/--
What is published when a datagram comes in. If nobody looks at the channel any more, the receive task ends
afterwards.
-/
def receive (l : UdpLink) (datagram : List UInt8) (isWatched : Bool) :
    List (Command Float) × UdpLink :=
  (l.running.flatMap fun _ => l.commandsIn datagram, if isWatched then l else { l with running := [] })

/-- The link after the bridge was told to shut down, at which receive tasks end by themselves. -/
def stopReceiving (l : UdpLink) : UdpLink :=
  { l with running := [] }

/-- A summary of the link for logs. -/
def describe (l : UdpLink) : String :=
  "MavlinkUdpLink \x7b remote: " ++ l.remote.elim "None" (fun r => "Some(" ++ r.toText ++ ")")
    ++ s!", open: {l.isOpen}, v2: {l.settings.framing == .v2} \x7d"

end UdpLink

instance : AutopilotLink UdpLink Float where
  name _ := "mavlink_udp"
  openTo l remote :=
    let (result, l) := l.openTo remote
    .quiet result l
  send l message :=
    let (result, l) := l.send message
    .quiet (result.map fun _ => ()) l
  close l := .quiet (.ok ()) l.close
  isOpen := UdpLink.isOpen
  isListening l := !l.running.isEmpty

end HilBridge
