import HilBridge.Proofs.Bridge.Ranging
import HilBridge.Proofs.Number.FloatMonotone
import HilBridge.Proofs.Number.FloatNearest

/-!
# `HilBridge.Proofs.Bridge.Distances` — distances on the wire keep within limits

A distance is moved between the limits of its sensor, turned into hundredths and rounded. Each of these keeps the order
of numbers (`Wire.hundredths_le_hundredths`, `Binary64.clamp_le_clamp`), so a packet keeps within its own limits, for
infinite distances as well. "Not a number" goes through all of them and becomes zero, which is below the least distance
of every sensor.

**Main statement.** `within_limits_iff_number`: along every run, of every distance packet.
-/

namespace HilBridge

/-! ## Whole numbers on the wire -/

namespace Wire

theorem toNat_nearestU16 (x : Float) : (nearestU16 x).toNat = (Binary64.roundClamped 0 65535 x).toNat := by
  obtain ⟨hlo, hhi⟩ := Binary64.roundClamped_mem 0 65535 (by decide) (by decide) x
  show (UInt16.ofNat (Binary64.roundClamped 0 65535 x % 2 ^ 16).toNat).toNat = _
  rw [UInt16.toNat_ofNat']
  omega

theorem unpack_hundred :
    (100.0 : Float).toModel.unpack = .finite .positive (100 * 2 ^ 46) (-46) (by decide) :=
  rfl

/-- The larger of two numbers has no fewer hundredths, up to a limit that has as many as can be told. -/
theorem hundredths_le_hundredths {x y limit : Float} (hx : 0.0 ≤ x) (hle : x ≤ y) (hlimit : y ≤ limit)
    (hfinite : limit.isFinite = true) (hproduct : (limit * 100.0).isFinite = true) : hundredths x ≤ hundredths y := by
  have hscale {x y : Float} (hx : 0.0 ≤ x) (hle : x ≤ y) (hfinite : y.isFinite = true) : x * 100.0 ≤ y * 100.0 :=
    Binary64.mul_le_mul_right hx hle hfinite unpack_hundred (by decide)
  have hy := Binary64.nonneg_of_le hx hle
  have hyfinite := Binary64.isFinite_of_le hy hlimit hfinite
  have hnonneg {x : Float} (hx : 0.0 ≤ x) (hfinite : x.isFinite = true) : 0.0 ≤ x * 100.0 :=
    (Binary64.isRounding_mul hx hfinite unpack_hundred (by decide)).nonneg
  have hround := Binary64.roundClamped_le_roundClamped 0 65535
    (hnonneg hx (Binary64.isFinite_of_le hx hle hyfinite)) (hscale hx hle hyfinite)
    (Binary64.isFinite_of_le (hnonneg hy hyfinite) (hscale hy hlimit hfinite) hproduct)
  rw [UInt16.le_iff_toNat_le, hundredths, hundredths, toNat_nearestU16, toNat_nearestU16]
  exact Int.toNat_le_toNat hround

/-- "Not a number" has none. -/
theorem hundredths_of_isNaN {x : Float} (h : Scalar.isNaN x = true) : hundredths x = 0 := by
  rw [hundredths, nearestU16, Binary64.roundClamped_of_isNaN (Binary64.isNaN_mul h _)]
  rfl

/-! ## Distance packets -/

/-- The packet of a distance of a sensor of some kind. -/
def distancePacket (kind : RangeKind) (x : Stamped Float) : DistancePacket :=
  ofRange x.time (rangeReport kind x.value) (distanceSensorId kind)

/-- The distance is one that the sensor can measure, by what the packet itself says. -/
def DistancePacket.WithinLimits (packet : DistancePacket) : Prop :=
  packet.least ≤ packet.current ∧ packet.current ≤ packet.greatest

section
variable {kind : RangeKind}

/-- The limits of every kind are numbers that can be told in hundredths. -/
theorem limits_ordered (kind : RangeKind) :
    let limits : Float × Float := kind.limits
    0.0 ≤ limits.1 ∧ limits.1 ≤ limits.2 ∧ limits.2.isFinite = true ∧ (limits.2 * 100.0).isFinite = true
      ∧ 0 < hundredths limits.1 := by
  cases kind <;> decide

/-- The packet of a greater distance tells no smaller one. -/
theorem current_le_current {x y : Stamped Float} (hle : x.value ≤ y.value) :
    (distancePacket kind x).current ≤ (distancePacket kind y).current := by
  obtain ⟨hleast, hordered, hfinite, hproduct, -⟩ := limits_ordered kind
  obtain ⟨hx, hy⟩ := Binary64.isNaN_of_le hle
  have hxmem := Binary64.clamp_mem_of_isNaN hordered hx
  have hymem := Binary64.clamp_mem_of_isNaN hordered hy
  exact hundredths_le_hundredths (Binary64.nonneg_of_le hleast hxmem.1)
    (Binary64.clamp_le_clamp hleast hordered hfinite hle) hymem.2 hfinite hproduct

/-- A distance that is a number is told within the limits. -/
theorem withinLimits_of_isNaN {x : Stamped Float} (h : Scalar.isNaN x.value = false) :
    (distancePacket kind x).WithinLimits := by
  obtain ⟨hleast, hordered, hfinite, hproduct, -⟩ := limits_ordered kind
  have hmem := Binary64.clamp_mem_of_isNaN hordered h
  exact ⟨hundredths_le_hundredths hleast hmem.1 hmem.2 hfinite hproduct,
    hundredths_le_hundredths (Binary64.nonneg_of_le hleast hmem.1) hmem.2 (Binary64.le_refl hfinite) hfinite hproduct⟩

/-- One that is not is told as zero, which is below them. -/
theorem current_of_isNaN {x : Stamped Float} (h : Scalar.isNaN x.value = true) :
    (distancePacket kind x).current = 0 ∧ (distancePacket kind x).current < (distancePacket kind x).least := by
  have hcurrent : (distancePacket kind x).current = 0 := by
    show hundredths (Scalar.clamp _ _ x.value) = 0
    rw [Binary64.clamp_of_isNaN h, hundredths_of_isNaN h]
  exact ⟨hcurrent, hcurrent ▸ (limits_ordered kind).2.2.2.2⟩

theorem withinLimits_iff {x : Stamped Float} :
    (distancePacket kind x).WithinLimits ↔ Scalar.isNaN x.value = false := by
  refine ⟨fun hwithin => ?_, withinLimits_of_isNaN⟩
  by_contra hnumber
  have hbelow : (distancePacket kind x).current < (distancePacket kind x).least :=
    (current_of_isNaN (Bool.eq_true_of_not_eq_false hnumber)).2
  exact absurd hbelow (UInt16.not_lt.mpr hwithin.1)

end

end Wire

/-! ## Every run -/

namespace Bridge

variable {L : Type} [AutopilotLink L Float]

/-- A tick reports only what was accepted before it. -/
theorem accepted_of_tick {b₀ : Bridge L Float} {calls : List (Call L Float)} {tick : Tick} {x : Arrival Float}
    (h : .accepted x ∈ ledger b₀ (calls ++ [.postUpdate tick])) : .accepted x ∈ ledger b₀ calls := by
  rw [ledger_postUpdate] at h
  rcases List.mem_append.mp h with hbefore | hduring
  · exact hbefore
  · cases arrival?_of_mem_postUpdateEntries hduring

/-- A distance packet that is handed to the connection is that of a distance accepted for a sensor. -/
theorem sample_of_handed {c : Config Float} {link : L} {names : NameService} {b₀ : Bridge L Float}
    (hb : configure c link names = .ok b₀) (calls : List (Call L Float)) {tick : Tick} {message : Message Float}
    {packet : Wire.DistancePacket} (hmessage : message ∈ (((bookkeeper L Float).run b₀ calls).1.tickEnd tick).handed)
    (hpacket : Wire.ofMessage message = .distance packet) :
    ∃ (i : Nat) (sensor : RangeLink) (x : Stamped Float), c.rangeSensors[i]? = some sensor
      ∧ .accepted (.range i x) ∈ ledger b₀ calls ∧ packet = Wire.distancePacket sensor.kind x := by
  obtain ⟨i, report, hreport, hmade⟩ := reported_of_handed hb calls hmessage hpacket
  obtain ⟨sensor, x, hsensor, haccepted, rfl⟩ := sensor_of_reported hb hreport
  obtain rfl : Wire.distancePacket sensor.kind x = packet := Wire.Packet.distance.inj hmade
  exact ⟨i, sensor, x, hsensor, accepted_of_tick haccepted, rfl⟩

/--
**A distance keeps within the limits of its sensor exactly if it is a number.** In every run of a configured bridge
each distance packet that is handed to the connection is that of a distance which was accepted for a sensor that is
known. The packet is within its own limits if and only if that distance is a number, an infinite one included; "not a
number" is told as zero, below the least distance. Of two numbers the greater is never told as a smaller distance.
-/
theorem within_limits_iff_number {c : Config Float} {link : L} {names : NameService} {b₀ : Bridge L Float}
    (hb : configure c link names = .ok b₀) :
    (∀ calls tick message packet, message ∈ (((bookkeeper L Float).run b₀ calls).1.tickEnd tick).handed →
        Wire.ofMessage message = .distance packet →
          ∃ (i : Nat) (sensor : RangeLink) (x : Stamped Float), c.rangeSensors[i]? = some sensor
            ∧ .accepted (.range i x) ∈ ledger b₀ calls ∧ packet = Wire.distancePacket sensor.kind x
            ∧ (packet.WithinLimits ↔ Scalar.isNaN x.value = false)
            ∧ (Scalar.isNaN x.value = true → packet.current = 0 ∧ packet.current < packet.least))
      ∧ ∀ (kind : RangeKind) (x y : Stamped Float), x.value ≤ y.value →
        (Wire.distancePacket kind x).current ≤ (Wire.distancePacket kind y).current := by
  refine ⟨fun calls tick message packet hmessage hpacket => ?_, fun kind x y => Wire.current_le_current⟩
  obtain ⟨i, sensor, x, hsensor, haccepted, rfl⟩ := sample_of_handed hb calls hmessage hpacket
  exact ⟨i, sensor, x, hsensor, haccepted, rfl, Wire.withinLimits_iff, Wire.current_of_isNaN⟩

/-- The distances that were accepted: the positions of their sensors, and whether they are numbers. -/
def acceptedDistances (l : Ledger Float) : List (Nat × Bool) :=
  l.filterMap fun
    | .accepted (.range i x) => some (i, !Scalar.isNaN x.value)
    | _ => none

/-- The distances in the packets of some messages, each between its limits. -/
def toldDistances (messages : List (Message Float)) : List (UInt16 × UInt16 × UInt16) :=
  messages.filterMap fun message =>
    match Wire.ofMessage message with
    | .distance packet => some (packet.least, packet.current, packet.greatest)
    | _ => none

theorem exists_of_toldDistances {messages : List (Message Float)} {least current greatest : UInt16}
    (h : toldDistances messages = [(least, current, greatest)]) :
    ∃ message ∈ messages, ∃ packet, Wire.ofMessage message = .distance packet
      ∧ packet.least = least ∧ packet.current = current ∧ packet.greatest = greatest := by
  have hmem : (least, current, greatest) ∈ toldDistances messages := h ▸ List.mem_singleton_self _
  obtain ⟨message, hmessage, htold⟩ := List.mem_filterMap.mp hmem
  split at htold
  case h_1 packet hpacket =>
    cases htold
    exact ⟨message, hmessage, packet, hpacket, rfl, rfl, rfl⟩
  case h_2 => cases htold

/-- A laser sensor that sees nothing, and so reports an infinite distance, is told at its greatest one. -/
theorem infinite_is_within_limits :
    let c := ranging "front::lidar::link" "rear::sonar::link"
    let calls := Trial.opening ++ [.range "front::lidar::link" ⟨4000, 1.0 / 0.0⟩]
    ∃ b₀, configure c Trial.link Trial.names = .ok b₀
      ∧ ∃ message ∈ (((bookkeeper (ScriptedLink Float) Float).run b₀ calls).1.tickEnd (Trial.tick 4000)).handed,
        ∃ packet, Wire.ofMessage message = .distance packet ∧ packet.current = 3500 ∧ packet.WithinLimits := by
  intro c calls
  have hrun : (configure c Trial.link Trial.names).toOption.map (fun b₀ =>
      (acceptedDistances (ledger b₀ calls),
        toldDistances ((((bookkeeper (ScriptedLink Float) Float).run b₀ calls).1.tickEnd (Trial.tick 4000)).handed)))
      = some ([(0, true)], [(6, 3500, 3500)]) := by
    decide +kernel
  obtain ⟨b₀, hb, hresult⟩ := Trial.exists_of_map hrun
  obtain ⟨haccepted, htold⟩ := Prod.mk.inj hresult
  obtain ⟨message, hmessage, packet, hpacket, -, hcurrent, -⟩ := exists_of_toldDistances htold
  obtain ⟨i, sensor, x, -, hmem, -, hwithin, -⟩ :=
    (within_limits_iff_number hb).1 calls (Trial.tick 4000) message packet hmessage hpacket
  have hnumber : (i, !Scalar.isNaN x.value) ∈ acceptedDistances (ledger b₀ calls) :=
    List.mem_filterMap.mpr ⟨_, hmem, rfl⟩
  rw [haccepted, List.mem_singleton] at hnumber
  refine ⟨b₀, hb, message, hmessage, packet, hpacket, hcurrent, hwithin.mpr ?_⟩
  simpa using (Prod.mk.inj hnumber).2

/-- "Not a number" is accepted of a laser sensor and told as zero, below its least distance. -/
theorem not_a_number_is_below_limits :
    let c := ranging "front::lidar::link" "rear::sonar::link"
    let calls := Trial.opening ++ [.range "front::lidar::link" ⟨4000, 0.0 / 0.0⟩]
    ∃ b₀, configure c Trial.link Trial.names = .ok b₀ ∧ acceptedDistances (ledger b₀ calls) = [(0, false)]
      ∧ ∃ message ∈ (((bookkeeper (ScriptedLink Float) Float).run b₀ calls).1.tickEnd (Trial.tick 4000)).handed,
        ∃ packet, Wire.ofMessage message = .distance packet ∧ packet.current = 0 ∧ packet.least = 6
          ∧ ¬ packet.WithinLimits := by
  intro c calls
  have hrun : (configure c Trial.link Trial.names).toOption.map (fun b₀ =>
      (acceptedDistances (ledger b₀ calls),
        toldDistances ((((bookkeeper (ScriptedLink Float) Float).run b₀ calls).1.tickEnd (Trial.tick 4000)).handed)))
      = some ([(0, false)], [(6, 0, 3500)]) := by
    decide +kernel
  obtain ⟨b₀, hb, hresult⟩ := Trial.exists_of_map hrun
  obtain ⟨haccepted, htold⟩ := Prod.mk.inj hresult
  obtain ⟨message, hmessage, packet, hpacket, hleast, hcurrent, -⟩ := exists_of_toldDistances htold
  refine ⟨b₀, hb, haccepted, message, hmessage, packet, hpacket, hcurrent, hleast, fun hwithin => ?_⟩
  have hle := hwithin.1
  rw [hleast, hcurrent] at hle
  exact absurd hle (by decide)

end Bridge

end HilBridge
