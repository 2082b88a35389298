import HilBridge.Wire.Checksum
import HilBridge.Wire.Packet

/-!
# `HilBridge.Wire.Frame` — packets in frames, frames in datagrams

A frame is a start byte, a header with the length and the name of the packet, the packet's bytes and a check.
There are two framings. The newer one leaves out zeros at the end of a packet, though never all of it, and
knows signatures, which are passed over unread.

Between frames a reader skips whatever does not begin one. What begins like a frame and fails its check is no
frame, and the search goes on behind its first byte; what begins like a frame and runs past the end of the
datagram ends the reading, and so does the first frame whose packet is unknown or not valid.
-/

namespace HilBridge.Wire

/-- The two framings. -/
inductive Framing where
  | v1
  | v2
  deriving Repr, DecidableEq

namespace Framing

/-- The byte that a frame starts with. -/
def start : Framing → UInt8
  | .v1 => 0xfe
  | .v2 => 0xfd

/-- The framing of a protocol version. -/
def ofVersion (version : Binary32) : Framing :=
  if 2.0 ≤ version.toFloat then .v2 else .v1

end Framing

/-- Who sends a frame, and the frame's place among the frames of that sender. -/
structure FrameHeader where
  systemId : UInt8
  componentId : UInt8
  sequence : UInt8
  deriving Repr, DecidableEq

/-! ## Writing -/

/-- The bytes without zeros at the end, though not fewer than one. -/
def trimZeros (payload : List UInt8) : List UInt8 :=
  let trimmed := (payload.reverse.dropWhile (· == 0)).reverse
  if trimmed.isEmpty then payload.take 1 else trimmed

/-- Header and packet. -/
def frameBody (framing : Framing) (h : FrameHeader) (p : Packet) : List UInt8 :=
  match framing with
  | .v1 =>
    UInt8.ofNat p.payload.length :: h.sequence :: h.systemId :: h.componentId
      :: UInt8.ofNat p.kind.id :: p.payload
  | .v2 =>
    let payload := trimZeros p.payload
    UInt8.ofNat payload.length :: 0 :: 0 :: h.sequence :: h.systemId :: h.componentId
      :: (toBytes 3 p.kind.id ++ payload)

/-- The frame of a packet. -/
def encodeFrame (framing : Framing) (h : FrameHeader) (p : Packet) : List UInt8 :=
  let body := frameBody framing h p
  framing.start :: (body ++ toBytes 2 (checksum (body ++ [p.kind.seed])).toNat)

/-! ## Reading -/

/-- A frame that passed its check. -/
structure RawFrame where
  id : Nat
  payload : List UInt8
  deriving Repr, DecidableEq

/-- What a reader makes of a frame. -/
inductive FrameContent where
  | packet (packet : Packet)
  /-- A packet of the dialect that the bridge has no use for. -/
  | passedOver
  /-- A packet that is not known or not valid. -/
  | unreadable
  deriving Repr, DecidableEq

/--
What is left open about the packets of the dialect that the bridge has no use for: their fields are not described here,
and neither is which bytes are those of a valid packet.
-/
structure OtherPackets where
  isValid : RawFrame → Bool

/-- The assumption under which the bridge runs here: no such packet is ever refused. -/
def OtherPackets.neverRefused : OtherPackets :=
  ⟨fun _ => true⟩

def RawFrame.content (others : OtherPackets) (f : RawFrame) : FrameContent :=
  match PacketKind.ofId? f.id with
  | some kind => (Packet.ofPayload? kind f.payload).elim .unreadable .packet
  | none => if (otherSeed? f.id).isSome && others.isValid f then .passedOver else .unreadable

/-- What stands behind a start byte. -/
inductive Candidate where
  /-- A frame that runs past the end. -/
  | cutOff
  | noFrame
  /-- A frame with the number of its bytes. -/
  | frame (frame : RawFrame) (size : Nat)
  deriving Repr, DecidableEq

/--
What stands in bytes that begin with a header of the given size, according to which there follow so many
bytes of a packet of that name, and so many bytes of a signature behind the check.
-/
def Candidate.ofExtent (bytes : List UInt8) (header length signature id : Nat) : Candidate :=
  let body := header + length
  if bytes.length < body + 2 + signature then .cutOff
  else if (checksum (bytes.take body ++ [PacketKind.seedOf id])).toNat
      = ofBytes ((bytes.drop body).take 2) then
    .frame ⟨id, (bytes.drop header).take length⟩ (body + 2 + signature)
  else .noFrame

/-- What stands behind a start byte. Of the newer framing's marks only the one of a signature is known. -/
def Framing.candidate (framing : Framing) (bytes : List UInt8) : Candidate :=
  match framing, bytes with
  | .v1, length :: _ :: _ :: _ :: id :: _ => .ofExtent bytes 5 length.toNat 0 id.toNat
  | .v2, length :: marks :: _ :: _ :: _ :: _ :: id₀ :: id₁ :: id₂ :: _ =>
    if marks = 0 ∨ marks = 1 then
      .ofExtent bytes 9 length.toNat (if marks = 1 then 13 else 0) (ofBytes [id₀, id₁, id₂])
    else .noFrame
  | _, _ => .cutOff

/-- The frames in some bytes. -/
def Framing.frames (framing : Framing) : List UInt8 → List RawFrame
  | [] => []
  | b :: rest =>
    if b = framing.start then
      match framing.candidate rest with
      | .cutOff => []
      | .noFrame => framing.frames rest
      | .frame frame size => frame :: framing.frames (rest.drop size)
    else framing.frames rest
termination_by bytes => bytes.length
decreasing_by
  all_goals simp only [List.length_cons, List.length_drop]
  all_goals omega

/-- The packets in front of the first frame that is unreadable. -/
def readable (others : OtherPackets) : List RawFrame → List Packet
  | [] => []
  | frame :: rest =>
    match frame.content others with
    | .packet packet => packet :: readable others rest
    | .passedOver => readable others rest
    | .unreadable => []

/-- The packets in a datagram, in order. -/
def decodeDatagram (framing : Framing) (bytes : List UInt8) (others : OtherPackets := .neverRefused) : List Packet :=
  readable others (framing.frames bytes)

end HilBridge.Wire
