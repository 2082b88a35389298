import HilBridge.Proofs.Wire.Payload

/-!
# `HilBridge.Proofs.Wire.Framing` — frames among other bytes

What a reader makes of a start byte depends on the bytes of the frame alone: it finds the same frame whatever
comes behind (`Framing.candidate_append`), and of a frame that was cut short it says that it runs past the end
(`Framing.candidate_take`). The frame of a packet is found as the packet's name and bytes
(`Framing.candidate_encoded`), which carries over to the search through a datagram: bytes that do not start a
frame are skipped, a frame is found and left behind, and a cut frame ends the search.

**Main statement.** `decodeDatagram_append`, `decodeDatagram_encodeFrame` and `decodeDatagram_take`.
-/

namespace HilBridge.Wire

/-! ## Extents -/

namespace Candidate

variable {bytes : List UInt8} {header length signature id size : Nat} {frame : RawFrame}

/-- A frame is there if it fits and its check does. -/
theorem ofExtent_eq_frame_iff :
    ofExtent bytes header length signature id = .frame frame size
      ↔ header + length + 2 + signature ≤ bytes.length
        ∧ (checksum (bytes.take (header + length) ++ [PacketKind.seedOf id])).toNat
            = ofBytes ((bytes.drop (header + length)).take 2)
        ∧ frame = ⟨id, (bytes.drop header).take length⟩
        ∧ size = header + length + 2 + signature := by
  unfold ofExtent
  dsimp only
  constructor
  · intro h
    split at h
    next => cases h
    next hfits =>
      split at h
      next hcheck =>
        cases h
        exact ⟨by omega, hcheck, rfl, rfl⟩
      next => cases h
  · rintro ⟨hfits, hcheck, rfl, rfl⟩
    rw [if_neg (by omega), if_pos hcheck]

/-- A frame is the same whatever comes behind it. -/
theorem ofExtent_append (h : ofExtent bytes header length signature id = .frame frame size)
    (rest : List UInt8) : ofExtent (bytes ++ rest) header length signature id = .frame frame size := by
  obtain ⟨hfits, hcheck, hframe, hsize⟩ := ofExtent_eq_frame_iff.mp h
  have htake : (bytes ++ rest).take (header + length) = bytes.take (header + length) :=
    List.take_append_of_le_length (by omega)
  have hcrc : ((bytes ++ rest).drop (header + length)).take 2 = (bytes.drop (header + length)).take 2 := by
    rw [List.drop_append_of_le_length (by omega), List.take_append_of_le_length (by simp; omega)]
  have hpayload : ((bytes ++ rest).drop header).take length = (bytes.drop header).take length := by
    rw [List.drop_append_of_le_length (by omega), List.take_append_of_le_length (by simp; omega)]
  refine ofExtent_eq_frame_iff.mpr ⟨?_, ?_, ?_, hsize⟩
  · rw [List.length_append]
    omega
  · rw [htake, hcrc, hcheck]
  · rw [hpayload, hframe]

/-- A frame of which the end is missing runs past the end. -/
theorem ofExtent_take (h : ofExtent bytes header length signature id = .frame frame size) {n : Nat}
    (hn : n < size) : ofExtent (bytes.take n) header length signature id = .cutOff := by
  obtain ⟨hfits, -, -, rfl⟩ := ofExtent_eq_frame_iff.mp h
  refine if_pos ?_
  rw [List.length_take]
  omega

/-- Header and packet with their check behind them are a frame. -/
theorem ofExtent_checked (head payload : List UInt8) (id : Nat) :
    ofExtent (head ++ payload ++ toBytes 2 (checksum (head ++ payload ++ [PacketKind.seedOf id])).toNat)
        head.length payload.length 0 id
      = .frame ⟨id, payload⟩ (head.length + payload.length + 2) := by
  generalize hcrc : checksum (head ++ payload ++ [PacketKind.seedOf id]) = crc
  have hread : ofBytes (toBytes 2 crc.toNat) = crc.toNat := ofBytes_toBytes crc.toNat_lt
  have hbody : head.length + payload.length = (head ++ payload).length := List.length_append.symm
  refine ofExtent_eq_frame_iff.mpr ⟨?_, ?_, ?_, rfl⟩
  · simp only [List.length_append, length_toBytes]
    omega
  · rw [hbody, List.take_left, List.drop_left, List.take_of_length_le (by simp), hcrc, hread]
  · rw [List.append_assoc, List.drop_left, List.take_left]

end Candidate

namespace Framing

/-- The bytes of a header behind its start byte. -/
def headerLength : Framing → Nat
  | .v1 => 5
  | .v2 => 9

/-- Without a whole header there is no telling. -/
theorem candidate_of_short {framing : Framing} {bytes : List UInt8} (h : bytes.length < framing.headerLength) :
    framing.candidate bytes = .cutOff := by
  unfold candidate
  split
  next =>
    simp only [headerLength, List.length_cons] at h
    omega
  next =>
    simp only [headerLength, List.length_cons] at h
    omega
  next => rfl

/-- Where there is a frame, there is a header that says how far it reaches, whatever stands behind the header. -/
theorem candidate_eq_frame {framing : Framing} {bytes : List UInt8} {frame : RawFrame} {size : Nat}
    (h : framing.candidate bytes = .frame frame size) :
    ∃ head tail length signature id, bytes = head ++ tail ∧ head.length = framing.headerLength
      ∧ ∀ tail', framing.candidate (head ++ tail')
          = .ofExtent (head ++ tail') framing.headerLength length signature id := by
  unfold candidate at h
  split at h
  next length b₁ b₂ b₃ id rest =>
    exact ⟨[length, b₁, b₂, b₃, id], rest, length.toNat, 0, id.toNat, rfl, rfl, fun tail' => rfl⟩
  next length marks b₁ b₂ b₃ b₄ id₀ id₁ id₂ rest =>
    split at h
    next hmarks =>
      exact ⟨[length, marks, b₁, b₂, b₃, b₄, id₀, id₁, id₂], rest, length.toNat, if marks = 1 then 13 else 0,
        ofBytes [id₀, id₁, id₂], rfl, rfl, fun tail' => if_pos hmarks⟩
    next => cases h
  next => cases h

/-- A frame is the same whatever comes behind it. -/
theorem candidate_append {framing : Framing} {bytes : List UInt8} {frame : RawFrame} {size : Nat}
    (h : framing.candidate bytes = .frame frame size) (rest : List UInt8) :
    framing.candidate (bytes ++ rest) = .frame frame size := by
  obtain ⟨head, tail, length, signature, id, rfl, -, hextent⟩ := candidate_eq_frame h
  rw [hextent] at h
  rw [List.append_assoc, hextent, ← List.append_assoc]
  exact Candidate.ofExtent_append h rest

/-- A frame of which the end is missing runs past the end. -/
theorem candidate_take {framing : Framing} {bytes : List UInt8} {frame : RawFrame} {size : Nat}
    (h : framing.candidate bytes = .frame frame size) {n : Nat} (hn : n < size) :
    framing.candidate (bytes.take n) = .cutOff := by
  obtain ⟨head, tail, length, signature, id, rfl, hhead, hextent⟩ := candidate_eq_frame h
  by_cases hshort : n < framing.headerLength
  · refine candidate_of_short ?_
    rw [List.length_take]
    omega
  · -- the header is whole, so it still says where the frame should end
    have htake : (head ++ tail).take n = head ++ tail.take (n - head.length) := by
      rw [List.take_append, List.take_of_length_le (by omega)]
    rw [hextent] at h
    rw [htake, hextent, ← htake]
    exact Candidate.ofExtent_take h hn

/-! ## The frame of a packet -/

/-- The bytes of a packet that go out. -/
def sent : Framing → List UInt8 → List UInt8
  | .v1, bytes => bytes
  | .v2, bytes => trimZeros bytes

theorem sent_append_zeros (framing : Framing) (bytes : List UInt8) :
    ∃ n, framing.sent bytes ++ List.replicate n 0 = bytes := by
  cases framing with
  | v1 => exact ⟨0, List.append_nil bytes⟩
  | v2 => exact trimZeros_append_zeros bytes

/-- A header, behind its start byte. -/
def header (h : FrameHeader) (id length : Nat) : Framing → List UInt8
  | .v1 => [.ofNat length, h.sequence, h.systemId, h.componentId, .ofNat id]
  | .v2 => [.ofNat length, 0, 0, h.sequence, h.systemId, h.componentId] ++ toBytes 3 id

theorem frameBody_eq_append (framing : Framing) (h : FrameHeader) (p : Packet) :
    frameBody framing h p
      = framing.header h p.kind.id (framing.sent p.payload).length ++ framing.sent p.payload := by
  cases framing <;> rfl

theorem length_header (framing : Framing) (h : FrameHeader) (id length : Nat) :
    (framing.header h id length).length = framing.headerLength := by
  cases framing <;> rfl

/-- A header that was written says how far its frame reaches. -/
theorem candidate_header (framing : Framing) (h : FrameHeader) {id length : Nat} (hid : id < 256)
    (hlength : length < 256) (rest : List UInt8) :
    framing.candidate (framing.header h id length ++ rest)
      = .ofExtent (framing.header h id length ++ rest) framing.headerLength length 0 id := by
  have hbyte {n : Nat} (hn : n < 256) : (UInt8.ofNat n).toNat = n := by simpa using hn
  cases framing with
  | v1 =>
    calc candidate .v1 (header h id length .v1 ++ rest)
        = .ofExtent (header h id length .v1 ++ rest) 5 (UInt8.ofNat length).toNat 0 (UInt8.ofNat id).toNat := rfl
      _ = _ := by rw [hbyte hid, hbyte hlength]; rfl
  | v2 =>
    calc candidate .v2 (header h id length .v2 ++ rest)
        = .ofExtent (header h id length .v2 ++ rest) 9 (UInt8.ofNat length).toNat 0 (ofBytes (toBytes 3 id)) := rfl
      _ = _ := by rw [hbyte hlength, ofBytes_toBytes (Nat.lt_trans hid (by decide))]; rfl

end Framing

/-- A kind is told by what it is called on the wire. -/
theorem PacketKind.ofId?_id (kind : PacketKind) : PacketKind.ofId? kind.id = some kind := by
  cases kind <;> rfl

theorem PacketKind.seedOf_id (kind : PacketKind) : PacketKind.seedOf kind.id = kind.seed := by
  rw [seedOf, ofId?_id]

theorem PacketKind.id_lt (kind : PacketKind) : kind.id < 256 := by
  cases kind <;> decide

/-- The length of what goes out is a byte. -/
theorem length_sent_lt (framing : Framing) (p : Packet) : (framing.sent p.payload).length < 256 := by
  obtain ⟨n, hn⟩ := framing.sent_append_zeros p.payload
  have hpayload : p.payload.length < 256 := p.length_payload_lt
  rw [← hn, List.length_append] at hpayload
  omega

/-- The frame of a packet is found as the packet's name and bytes. -/
theorem encodeFrame_eq (framing : Framing) (h : FrameHeader) (p : Packet) :
    ∃ bytes, encodeFrame framing h p = framing.start :: bytes
      ∧ framing.candidate bytes = .frame ⟨p.kind.id, framing.sent p.payload⟩ bytes.length := by
  let payload := framing.sent p.payload
  let head := framing.header h p.kind.id payload.length
  let check := toBytes 2 (checksum (head ++ payload ++ [PacketKind.seedOf p.kind.id])).toNat
  have hframe : encodeFrame framing h p = framing.start :: (head ++ payload ++ check) := by
    rw [encodeFrame, Framing.frameBody_eq_append, ← PacketKind.seedOf_id]
  have hhead : head.length = framing.headerLength := framing.length_header h _ _
  have hextent : framing.candidate (head ++ payload ++ check)
      = .ofExtent (head ++ payload ++ check) head.length payload.length 0 p.kind.id := by
    rw [List.append_assoc, hhead]
    exact framing.candidate_header h p.kind.id_lt (length_sent_lt framing p) (payload ++ check)
  refine ⟨head ++ payload ++ check, hframe, ?_⟩
  rw [hextent, Candidate.ofExtent_checked, List.length_append, List.length_append, length_toBytes]

/-! ## The search through a datagram -/

namespace Framing

variable {framing : Framing}

/-- Bytes that start no frame are skipped. -/
theorem frames_append_of_not_mem {gap : List UInt8} (h : framing.start ∉ gap) (rest : List UInt8) :
    framing.frames (gap ++ rest) = framing.frames rest := by
  induction gap with
  | nil => rfl
  | cons b gap ih =>
    rw [List.mem_cons, not_or] at h
    rw [List.cons_append, frames, if_neg (Ne.symm h.1), ih h.2]

/-- A frame is found and left behind. -/
theorem frames_encodeFrame (h : FrameHeader) (p : Packet) (rest : List UInt8) :
    framing.frames (encodeFrame framing h p ++ rest)
      = ⟨p.kind.id, framing.sent p.payload⟩ :: framing.frames rest := by
  obtain ⟨bytes, hbytes, hcandidate⟩ := encodeFrame_eq framing h p
  rw [hbytes, List.cons_append, frames, if_pos rfl, candidate_append hcandidate rest]
  simp only [List.drop_left]

/-- A frame of which the end is missing ends the search. -/
theorem frames_take_encodeFrame (h : FrameHeader) (p : Packet) {n : Nat}
    (hn : n < (encodeFrame framing h p).length) :
    framing.frames ((encodeFrame framing h p).take n) = [] := by
  obtain ⟨bytes, hbytes, hcandidate⟩ := encodeFrame_eq framing h p
  rw [hbytes] at hn ⊢
  cases n with
  | zero => rw [List.take_zero, frames]
  | succ n =>
    have hcut := candidate_take hcandidate (Nat.lt_of_succ_lt_succ hn)
    rw [List.take_succ_cons, frames, if_pos rfl, hcut]

end Framing

/-- What the bytes of a valid packet are taken for. -/
theorem content_sent (framing : Framing) (others : OtherPackets) {p : Packet} (hvalid : p.isValid = true) :
    RawFrame.content others ⟨p.kind.id, framing.sent p.payload⟩ = .packet p.known := by
  obtain ⟨n, hn⟩ := framing.sent_append_zeros p.payload
  simp only [RawFrame.content, PacketKind.ofId?_id, Packet.ofPayload?_of_zeros hvalid hn, Option.elim]

section Datagrams

variable {framing : Framing} {others : OtherPackets}

theorem decodeDatagram_nil : decodeDatagram framing [] others = [] := by
  rw [decodeDatagram, Framing.frames, readable]

/-- Bytes that start no frame change nothing. -/
theorem decodeDatagram_append {gap : List UInt8} (h : framing.start ∉ gap) (rest : List UInt8) :
    decodeDatagram framing (gap ++ rest) others = decodeDatagram framing rest others := by
  rw [decodeDatagram, Framing.frames_append_of_not_mem h, decodeDatagram]

/-- A packet comes out of its frame as it went in, but for flags that are not known. -/
theorem decodeDatagram_encodeFrame (h : FrameHeader) {p : Packet} (hvalid : p.isValid = true)
    (rest : List UInt8) :
    decodeDatagram framing (encodeFrame framing h p ++ rest) others
      = p.known :: decodeDatagram framing rest others := by
  rw [decodeDatagram, Framing.frames_encodeFrame, readable, content_sent framing others hvalid, decodeDatagram]

/-- Nothing comes out of a frame of which the end is missing. -/
theorem decodeDatagram_take (h : FrameHeader) (p : Packet) {n : Nat} (hn : n < (encodeFrame framing h p).length) :
    decodeDatagram framing ((encodeFrame framing h p).take n) others = [] := by
  rw [decodeDatagram, Framing.frames_take_encodeFrame h p hn, readable]

end Datagrams

end HilBridge.Wire
