import Mathlib.Data.Nat.Bitwise
import HilBridge.Connection.UdpLink
import HilBridge.Proofs.Wire.Framing

/-!
# `HilBridge.Proofs.Wire.RoundTrip` — out of a datagram comes what was put in

A datagram can carry any number of frames, with other bytes around them and the beginning of a further frame at
its end. The bridge's messages come out of it as they went in. So do the commands of an autopilot, but for those
of their flags that nobody knows: a reader forgets them.

**Main statement.** `UdpLink.datagram_comes_through`, for both framings.
-/

namespace HilBridge

open Wire

/-! ## Cargo -/

/-- What a frame can carry: a message of the bridge, or a command of an autopilot with a header of its own. -/
inductive Cargo where
  | message (m : Message Float)
  | command (h : FrameHeader) (p : ActuatorPacket)

namespace Cargo

/-- The packet that comes out at the other end. -/
def received : Cargo → Packet
  | .message m => ofMessage m
  | .command _ p => .actuators { p with flags := p.flags &&& knownActuatorFlags }

/-- The command that an autopilot gives: it is armed if the highest bit of its mode says so. -/
def command? : Cargo → Option (Command Float)
  | .message _ => none
  | .command _ p => some ⟨p.time.toNat, p.controls.toList.map Binary32.toFloat, p.mode.toNat.testBit 7⟩

end Cargo

/-- The command that a packet carries. -/
def Wire.Packet.command? : Packet → Option (Command Float)
  | .actuators p => some p.command
  | _ => none

theorem Wire.ActuatorPacket.isArmed_eq_testBit (p : ActuatorPacket) : p.isArmed = p.mode.toNat.testBit 7 := by
  have hbit : (p.mode &&& armedMode).toNat = (p.mode.toNat.testBit 7).toNat * 2 ^ 7 := by
    rw [UInt8.toNat_and]
    exact Nat.and_two_pow p.mode.toNat 7
  rw [isArmed, Bool.eq_iff_iff, bne_iff_ne, ne_eq, ← UInt8.toNat_inj, hbit]
  cases p.mode.toNat.testBit 7 <;> simp

/-- A command means what the autopilot meant. -/
theorem Cargo.command?_received (cargo : Cargo) : cargo.received.command? = cargo.command? := by
  cases cargo with
  | message m =>
    cases m with
    | heartbeat => rfl
    | report report =>
      obtain ⟨time, value⟩ := report
      cases value <;> rfl
  | command h p =>
    simp only [Cargo.received, Packet.command?, Cargo.command?, ActuatorPacket.command,
      ActuatorPacket.isArmed_eq_testBit]

theorem Cargo.length_controls {cargo : Cargo} {command : Command Float} (h : cargo.command? = some command) :
    command.controls.length = 16 := by
  cases cargo with
  | message m => cases h
  | command header p =>
    cases h
    rw [List.length_map, Vector.length_toList]

namespace UdpLink

/-! ## Datagrams -/

/-- The frame of some cargo. Only the link's own messages take its numbers. -/
def load (l : UdpLink) : Cargo → List UInt8 × UdpLink
  | .message m => l.encode (ofMessage m)
  | .command h p => (encodeFrame l.settings.framing h (.actuators p), l)

/-- The frames of some cargoes, each behind other bytes. -/
def datagram : UdpLink → List (List UInt8 × Cargo) → List UInt8
  | _, [] => []
  | l, (gap, cargo) :: rest => gap ++ ((l.load cargo).1 ++ (l.load cargo).2.datagram rest)

theorem settings_load (l : UdpLink) (cargo : Cargo) : (l.load cargo).2.settings = l.settings := by
  cases cargo <;> rfl

/-- One frame gives one packet. -/
theorem decodeDatagram_load (l : UdpLink) (cargo : Cargo) (rest : List UInt8) (others : OtherPackets) :
    decodeDatagram l.settings.framing ((l.load cargo).1 ++ rest) others
      = cargo.received :: decodeDatagram l.settings.framing rest others := by
  cases cargo with
  | message m =>
    rw [load, encode, decodeDatagram_encodeFrame _ (isValid_ofMessage m), known_ofMessage, Cargo.received]
  | command h p =>
    rw [load, decodeDatagram_encodeFrame h rfl, Packet.known, Cargo.received]

theorem decodeDatagram_datagram (l : UdpLink) {parts : List (List UInt8 × Cargo)}
    (hgaps : ∀ part ∈ parts, l.settings.framing.start ∉ part.1) (rest : List UInt8) (others : OtherPackets) :
    decodeDatagram l.settings.framing (l.datagram parts ++ rest) others
      = parts.map (·.2.received) ++ decodeDatagram l.settings.framing rest others := by
  induction parts generalizing l with
  | nil => rfl
  | cons part parts ih =>
    obtain ⟨gap, cargo⟩ := part
    obtain ⟨hgap, hgaps⟩ := List.forall_mem_cons.mp hgaps
    -- the frame takes a number of the link, which then goes on with the same settings
    have hrest := ih (l.load cargo).2 (by rwa [settings_load])
    rw [settings_load] at hrest
    rw [datagram, List.append_assoc, List.append_assoc, decodeDatagram_append hgap, decodeDatagram_load, hrest]
    rfl

/-- The commands of a datagram that is not too long are those of its packets. -/
theorem commandsIn_eq (l : UdpLink) {datagram : List UInt8} (h : datagram.length ≤ maxDatagram) :
    l.commandsIn datagram = (decodeDatagram l.settings.framing datagram l.others).filterMap Packet.command? := by
  rw [commandsIn, List.take_of_length_le h]
  rfl

/--
Whatever a link and autopilots put into a datagram comes out of it, in order and field for field; only the
unknown flags of commands are forgotten. Bytes between the frames that do not start one change nothing, nor does
the beginning of one more frame. What the reader makes of packets that the bridge has no use for is left open.
Each command keeps its time, its sixteen controls and whether it is armed.
-/
theorem datagram_comes_through (l : UdpLink) (parts : List (List UInt8 × Cargo)) (gap : List UInt8)
    (hgaps : ∀ part ∈ parts, l.settings.framing.start ∉ part.1) (hgap : l.settings.framing.start ∉ gap)
    (h : FrameHeader) (p : Packet) {n : Nat} (hn : n < (encodeFrame l.settings.framing h p).length) :
    let bytes := l.datagram parts ++ (gap ++ (encodeFrame l.settings.framing h p).take n)
    let packets := decodeDatagram l.settings.framing bytes l.others
    packets = parts.map (·.2.received)
      ∧ packets.filterMap Packet.command? = parts.filterMap (·.2.command?)
      ∧ (∀ command ∈ packets.filterMap Packet.command?, command.controls.length = 16)
      ∧ (bytes.length ≤ maxDatagram → l.commandsIn bytes = parts.filterMap (·.2.command?)) := by
  intro bytes packets
  have hpackets : packets = parts.map (·.2.received) := by
    show decodeDatagram _ bytes l.others = _
    rw [decodeDatagram_datagram l hgaps, decodeDatagram_append hgap, decodeDatagram_take h p hn, List.append_nil]
  have hcommands : packets.filterMap Packet.command? = parts.filterMap (·.2.command?) := by
    rw [hpackets, List.filterMap_map]
    exact congrArg (List.filterMap · parts) (funext fun part => part.2.command?_received)
  refine ⟨hpackets, hcommands, fun command hcommand => ?_,
    fun hlength => (commandsIn_eq l hlength).trans hcommands⟩
  rw [hcommands, List.mem_filterMap] at hcommand
  obtain ⟨part, -, hpart⟩ := hcommand
  exact Cargo.length_controls hpart

/-- A link of some version whose numbers are about to start again. -/
def worn (version : Binary32) : UdpLink :=
  { new ⟨0, version, 1, 200⟩ .absent with sequence := 255 }

/-- A command that ends with zeros and has a flag that is known and one that is not. -/
def resting : ActuatorPacket :=
  ⟨7, 3, .replicate 16 ⟨0⟩, 0⟩

/-- A command of an armed vehicle, with controls that are not numbers. -/
def straying : ActuatorPacket :=
  ⟨8, 0, .replicate 16 ⟨0x7fc00001⟩, 129⟩

/-- A sign of life and two commands, with some bytes between them. -/
def mixed (between : UInt8) : List (List UInt8 × Cargo) :=
  [([], .message .heartbeat), ([between, 9], .command ⟨1, 1, 9⟩ resting), ([], .command ⟨1, 1, 10⟩ straying)]

/-- The same with the first twenty bytes of one more frame. -/
def mixedBytes (l : UdpLink) (between : UInt8) : List UInt8 :=
  l.datagram (mixed between)
    ++ ([0] ++ (encodeFrame l.settings.framing ⟨1, 1, 11⟩ (.actuators straying)).take 20)

/-- In either framing the start byte of the other one means nothing, and in the newer one seventy-two bytes of
the first command are cut off. -/
theorem mixed_comes_through :
    ((worn ⟨0x40000000⟩).settings.framing = .v2 ∧ (Framing.v2.sent (Packet.actuators resting).payload).length = 9
      ∧ decodeDatagram .v2 (mixedBytes (worn ⟨0x40000000⟩) 0xfe)
        = [.heartbeat heartbeat, .actuators { resting with flags := 1 }, .actuators straying]
      ∧ ((worn ⟨0x40000000⟩).commandsIn (mixedBytes (worn ⟨0x40000000⟩) 0xfe)).map (·.armed) = [false, true])
    ∧ (worn ⟨0x3f800000⟩).settings.framing = .v1
      ∧ decodeDatagram .v1 (mixedBytes (worn ⟨0x3f800000⟩) 0xfd)
        = [.heartbeat heartbeat, .actuators { resting with flags := 1 }, .actuators straying] := by
  constructor
  · have hthrough := datagram_comes_through (worn ⟨0x40000000⟩) (mixed 0xfe) [0]
      (by decide) (by decide) ⟨1, 1, 11⟩ (.actuators straying) (n := 20) (by decide +kernel)
    refine ⟨by decide, by decide +kernel, hthrough.1, ?_⟩
    exact congrArg (List.map Command.armed) (hthrough.2.2.2 (by decide +kernel))
  · have hthrough := datagram_comes_through (worn ⟨0x3f800000⟩) (mixed 0xfd) [0]
      (by decide) (by decide) ⟨1, 1, 11⟩ (.actuators straying) (n := 20) (by decide +kernel)
    exact ⟨by decide, hthrough.1⟩

/-- The flag that nobody knows is gone. -/
theorem unknown_flag_gets_lost :
    decodeDatagram .v2 (encodeFrame .v2 ⟨1, 1, 0⟩ (.actuators ⟨7, 2, .replicate 16 ⟨0⟩, 128⟩))
        = [.actuators ⟨7, 0, .replicate 16 ⟨0⟩, 128⟩]
      ∧ decodeDatagram .v2 (encodeFrame .v2 ⟨1, 1, 0⟩ (.actuators ⟨7, 2, .replicate 16 ⟨0⟩, 128⟩))
        ≠ [.actuators ⟨7, 2, .replicate 16 ⟨0⟩, 128⟩] := by
  have hread : decodeDatagram .v2 (encodeFrame .v2 ⟨1, 1, 0⟩ (.actuators ⟨7, 2, .replicate 16 ⟨0⟩, 128⟩))
      = [.actuators ⟨7, 0, .replicate 16 ⟨0⟩, 128⟩] := by
    rw [← List.append_nil (encodeFrame _ _ _), decodeDatagram_encodeFrame ⟨1, 1, 0⟩ rfl [], decodeDatagram_nil]
    rfl
  refine ⟨hread, ?_⟩
  rw [hread]
  decide

end UdpLink

end HilBridge
