import HilBridge.Wire.Frame
import HilBridge.Wire.Telemetry

/-!
# `HilBridge.Proofs.Wire.Payload` — what is read of a packet's bytes

A reader takes bytes that are missing at the end for zeros. So a payload may go out without the zeros that it
ends with, and only zeros are ever left out (`trimZeros_append_zeros`). What is read is what was written, but for
the flags that nobody knows (`Packet.known`); the bridge's own packets have none of those (`known_ofMessage`).

**Main statement.** `Packet.ofPayload?_of_zeros`.
-/

namespace HilBridge.Wire

/-! ## Zeros at the end -/

theorem ofBytes_append_zeros (bytes : List UInt8) (n : Nat) :
    ofBytes (bytes ++ List.replicate n 0) = ofBytes bytes := by
  induction bytes with
  | nil =>
    induction n with
    | zero => rfl
    | succ n ih =>
      simp only [List.nil_append, List.replicate_succ, ofBytes] at ih ⊢
      rw [ih]
      rfl
  | cons b bytes ih => rw [List.cons_append, ofBytes, ofBytes, ih]

/-- Missing bytes are taken for zeros. -/
theorem readWords_append_zeros (widths : List Nat) (bytes : List UInt8) (n : Nat) :
    readWords widths (bytes ++ List.replicate n 0) = readWords widths bytes := by
  induction widths generalizing bytes n with
  | nil => rfl
  | cons width widths ih =>
    simp only [readWords, List.take_append, List.drop_append, List.take_replicate, List.drop_replicate,
      ofBytes_append_zeros, ih]

/-- What goes from the front is zeros. -/
theorem dropWhile_zeros (bytes : List UInt8) :
    ∃ n, List.replicate n 0 ++ bytes.dropWhile (· == 0) = bytes := by
  have hzeros : ∀ b ∈ bytes.takeWhile (· == 0), b = 0 := fun b hb => by
    simpa using List.all_eq_true.mp List.all_takeWhile b hb
  refine ⟨(bytes.takeWhile (· == 0)).length, ?_⟩
  rw [← List.eq_replicate_of_mem hzeros, List.takeWhile_append_dropWhile]

/-- Only zeros are cut off. -/
theorem trimZeros_append_zeros (bytes : List UInt8) :
    ∃ n, trimZeros bytes ++ List.replicate n 0 = bytes := by
  obtain ⟨n, hn⟩ := dropWhile_zeros bytes.reverse
  have hsplit : (bytes.reverse.dropWhile (· == 0)).reverse ++ List.replicate n 0 = bytes := by
    calc (bytes.reverse.dropWhile (· == 0)).reverse ++ List.replicate n 0
        = (List.replicate n 0 ++ bytes.reverse.dropWhile (· == 0)).reverse := by
          rw [List.reverse_append, List.reverse_replicate]
      _ = bytes := by rw [hn, List.reverse_reverse]
  unfold trimZeros
  cases htrimmed : (bytes.reverse.dropWhile (· == 0)).reverse with
  | nil =>
    -- there are only zeros, and the first of them stays
    rw [htrimmed, List.nil_append] at hsplit
    refine ⟨n - 1, ?_⟩
    simp only [List.isEmpty_nil, if_true, ← hsplit, List.take_replicate, List.replicate_append_replicate]
    congr 1
    omega
  | cons b trimmed => exact ⟨n, by simpa [htrimmed] using hsplit⟩

/-! ## Words that fit -/

/-- Two rows that fit, fit one behind the other. -/
theorem Fits.append {widths widths' words words' : List Nat} (h : Fits widths words)
    (h' : Fits widths' words') : Fits (widths ++ widths') (words ++ words') := by
  fun_induction Fits widths words with
  | case1 => exact h'
  | case2 width widths n words ih => exact ⟨h.1, ih h.2⟩
  | case3 => exact h.elim

theorem length_writeWords {widths words : List Nat} (h : Fits widths words) :
    (writeWords widths words).length = widths.foldr (· + ·) 0 := by
  fun_induction Fits widths words with
  | case1 => rfl
  | case2 width widths n words ih =>
    rw [writeWords, List.length_append, length_toBytes, ih h.2, List.foldr_cons]
  | case3 => exact h.elim

/-- Values that are written alike fit a row of equal widths. -/
theorem fits_map {β : Type} {width count : Nat} {word : β → Nat} (h : ∀ x, word x < Nat.pow 256 width)
    {values : List β} (hcount : values.length = count) :
    Fits (List.replicate count width) (values.map word) := by
  induction values generalizing count with
  | nil =>
    subst hcount
    trivial
  | cons x values ih =>
    subst hcount
    exact ⟨h x, ih rfl⟩

/-! ## Fields as words -/

theorem floatWord_lt (x : Binary32) : floatWord x < Nat.pow 256 4 :=
  x.bits.toNat_lt

theorem int16Word_lt (x : Int16) : int16Word x < Nat.pow 256 2 :=
  x.toUInt16.toNat_lt

theorem int32Word_lt (x : Int32) : int32Word x < Nat.pow 256 4 :=
  x.toUInt32.toNat_lt

theorem byte_lt (x : UInt8) : x.toNat < Nat.pow 256 1 :=
  x.toNat_lt

theorem half_lt (x : UInt16) : x.toNat < Nat.pow 256 2 :=
  x.toNat_lt

theorem single_lt (x : UInt32) : x.toNat < Nat.pow 256 4 :=
  x.toNat_lt

theorem double_lt (x : UInt64) : x.toNat < Nat.pow 256 8 :=
  x.toNat_lt

theorem wordFloat_floatWord (x : Binary32) : wordFloat (floatWord x) = x := by
  simp [wordFloat, floatWord]

theorem wordInt16_int16Word (x : Int16) : wordInt16 (int16Word x) = x := by
  simp [wordInt16, int16Word]

theorem wordInt32_int32Word (x : Int32) : wordInt32 (int32Word x) = x := by
  simp [wordInt32, int32Word]

namespace Packet

/-- Every field fits its width. -/
theorem fits_words (p : Packet) : Fits p.kind.widths p.words := by
  cases p with
  | actuators p =>
    refine ⟨double_lt _, double_lt _, Fits.append (fits_map floatWord_lt p.controls.length_toList) ?_⟩
    exact ⟨byte_lt _, trivial⟩
  | _ p =>
    simp only [kind, PacketKind.widths, words, Vec3.toList, Quaternion.toList, List.replicate, List.map,
      List.cons_append, List.nil_append, Fits]
    simp only [byte_lt, half_lt, single_lt, double_lt, floatWord_lt, int16Word_lt, int32Word_lt, and_self]

/-- A packet without the flags that nobody knows. -/
def known : Packet → Packet
  | .sensors p => .sensors { p with updated := p.updated &&& knownUpdates }
  | .actuators p => .actuators { p with flags := p.flags &&& knownActuatorFlags }
  | p => p

theorem isValid_known (p : Packet) : p.known.isValid = p.isValid := by
  cases p <;> rfl

/-! ## Packets from their words -/

/-- The controls stand behind two other words. -/
theorem controls_words (p : ActuatorPacket) (i : Fin 16) :
    wordFloat ((actuators p).words.getD (i + 2) 0) = p.controls[i] := by
  have hi : (i : Nat) < (p.controls.toList.map floatWord).length := by simp
  simp [words, List.getElem?_append_left hi, wordFloat_floatWord]

theorem mode_words (p : ActuatorPacket) : (actuators p).words.getD 18 0 = p.mode.toNat := by
  simp [words]

/-- A packet is told by its words, but for unknown flags. -/
theorem ofWords_words (p : Packet) : ofWords p.kind (fun i => p.words.getD i 0) = p.known := by
  cases p with
  | actuators p =>
    -- the words of the controls are as many as the vector is long, so they are not spelled out
    have hcontrols : (Vector.ofFn fun i : Fin 16 => wordFloat ((actuators p).words.getD (i + 2) 0))
        = p.controls := by
      ext i hi
      rw [Vector.getElem_ofFn]
      exact controls_words p ⟨i, hi⟩
    simp only [kind, ofWords, known, hcontrols, mode_words, UInt8.ofNat_toNat]
    simp [words]
  | _ p =>
    simp [kind, words, ofWords, known, wordVec, wordQuaternion, Vec3.toList, Quaternion.toList,
      wordFloat_floatWord, wordInt16_int16Word, wordInt32_int32Word]

/-- A valid packet is read of bytes that lack nothing but zeros at the end. -/
theorem ofPayload?_of_zeros {p : Packet} (hvalid : p.isValid = true) {bytes : List UInt8} {n : Nat}
    (hbytes : bytes ++ List.replicate n 0 = p.payload) : ofPayload? p.kind bytes = some p.known := by
  have hwords : readWords p.kind.widths bytes = p.words := by
    calc readWords p.kind.widths bytes
        = readWords p.kind.widths (bytes ++ List.replicate n 0) := by rw [readWords_append_zeros]
      _ = readWords p.kind.widths (p.payload ++ []) := by rw [hbytes, List.append_nil]
      _ = p.words := readWords_writeWords p.fits_words []
  simp only [ofPayload?, hwords, ofWords_words, isValid_known, hvalid, if_true]

/-- The length of a packet is a byte. -/
theorem length_payload_lt (p : Packet) : p.payload.length < 256 := by
  rw [payload, length_writeWords p.fits_words]
  cases p.kind <;> decide

end Packet

/-! ## The bridge's packets -/

theorem isValid_ofMessage (m : Message Float) : (ofMessage m).isValid = true := by
  cases m with
  | heartbeat => rfl
  | report report =>
    obtain ⟨time, value⟩ := report
    cases value with
    | range r =>
      obtain ⟨kind, _⟩ := r
      cases kind <;> rfl
    | _ => rfl

theorem known_sensors {p : SensorPacket} (h : p.updated &&& knownUpdates = p.updated) :
    (Packet.sensors p).known = .sensors p := by
  simp only [Packet.known, h]

/-- The bridge raises no flag that a reader does not know. -/
theorem known_ofMessage (m : Message Float) : (ofMessage m).known = ofMessage m := by
  cases m with
  | heartbeat => rfl
  | report report =>
    obtain ⟨time, value⟩ := report
    cases value with
    | imu r => exact known_sensors (by decide : inertialUpdate &&& knownUpdates = inertialUpdate)
    | barometer r => exact known_sensors (by decide : pressureUpdate &&& knownUpdates = pressureUpdate)
    | magnetometer field => exact known_sensors (by decide : magneticUpdate &&& knownUpdates = magneticUpdate)
    | _ => rfl

end HilBridge.Wire
