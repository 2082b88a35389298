import HilBridge.Proofs.Sensor.Bookkeeping

/-!
# `HilBridge.Proofs.Sensor.Unnumbered` — what the numbers of inertial samples have no part in

Two assemblers may differ in nothing but the numbers of their inertial samples. Numbers are passed on and compared,
and the comparison is counted; nothing else ever depends on them. So what such assemblers put out differs in the
numbers only, and so do the assemblers afterwards (`assemble_congr`).

The operations that follow the inertial one in a cycle do not even touch the numbers (`Blind`).
-/

namespace HilBridge

variable {α β : Type}

/-! ## Messages and assemblers without their numbers -/

/-- A report as if its sample had the number zero. -/
def Report.unnumbered : Report α → Report α
  | .imu report => .imu { report with seq := 0 }
  | report => report

namespace Message

def unnumbered : Message α → Message α
  | .heartbeat => .heartbeat
  | .report r => .report ⟨r.time, r.value.unnumbered⟩

/-- The number of the sample of an inertial message. -/
def imuNumber? : Message α → Option UInt8
  | .report ⟨_, .imu r⟩ => some r.seq
  | _ => none

@[simp]
theorem imuTime?_unnumbered (message : Message α) : message.unnumbered.imuTime? = message.imuTime? := by
  cases message with
  | heartbeat => rfl
  | report report =>
    obtain ⟨time, value⟩ := report
    cases value <;> rfl

@[simp]
theorem isSome_imuNumber?_unnumbered (message : Message α) :
    message.unnumbered.imuNumber?.isSome = message.imuNumber?.isSome := by
  cases message with
  | heartbeat => rfl
  | report report =>
    obtain ⟨time, value⟩ := report
    cases value <;> rfl

end Message

def ImuStore.unnumbered (s : ImuStore α) : ImuStore α :=
  ⟨{ s.slot with latest := s.slot.latest.map fun sample => { sample with seq := 0 } }, 0⟩

@[simp]
theorem ImuStore.unnumbered_unnumbered (s : ImuStore α) : s.unnumbered.unnumbered = s.unnumbered := by
  obtain ⟨⟨latest, updated⟩, nextSeq⟩ := s
  cases latest <;> rfl

namespace Assembler

/-- All of an assembler but the numbers and what is remembered of comparing them. -/
def unnumbered (a : Assembler α) : Assembler α :=
  { a with imu := a.imu.unnumbered, previousImuSeq := none, stats.imuSeqGaps := 0 }

@[simp]
theorem unnumbered_unnumbered (a : Assembler α) : a.unnumbered.unnumbered = a.unnumbered := by
  show { a with imu := a.imu.unnumbered.unnumbered, previousImuSeq := none, stats.imuSeqGaps := 0 } = a.unnumbered
  rw [ImuStore.unnumbered_unnumbered]
  rfl

theorem pending?_unnumbered (a : Assembler α) :
    a.unnumbered.imu.slot.pending? = a.imu.slot.pending?.map fun sample => { sample with seq := 0 } := by
  show (if a.imu.slot.updated then a.imu.slot.latest.map _ else none) = _
  rw [Slot.pending?]
  split <;> rfl

/-- The messages of some reports, without their numbers. -/
def unnumberedMessages (reports : List (Stamped (Report α))) : List (Message α) :=
  reports.map fun report => (Message.report report).unnumbered

theorem unnumberedMessages_append (r t : List (Stamped (Report α))) :
    unnumberedMessages (r ++ t) = unnumberedMessages r ++ unnumberedMessages t :=
  List.map_append

variable [Scalar α]

/-! ## The inertial report -/

/-- Which sample is reported does not depend on its number. -/
theorem takeImuDue_unnumbered (a : Assembler α) (plan : CyclePlan) :
    unnumberedMessages ((a.unnumbered.takeImuDue plan).1.map (wrap .imu)).toList
        = unnumberedMessages ((a.takeImuDue plan).1.map (wrap .imu)).toList
      ∧ (a.unnumbered.takeImuDue plan).2.unnumbered = (a.takeImuDue plan).2.unnumbered := by
  have hpending := a.pending?_unnumbered
  -- whichever of the three cases it is, the sample in the store counts as taken afterwards
  have htaken : (⟨a.unnumbered.imu.slot.take.2, a.unnumbered.imu.nextSeq⟩ : ImuStore α).unnumbered
      = (⟨a.imu.slot.take.2, a.imu.nextSeq⟩ : ImuStore α).unnumbered :=
    ImuStore.unnumbered_unnumbered ⟨a.imu.slot.take.2, a.imu.nextSeq⟩
  unfold takeImuDue
  by_cases hsend : plan.sendImu = true
  · rw [if_pos hsend, if_pos hsend]
    cases hwaits : a.imu.slot.pending? with
    | none =>
      rw [hwaits] at hpending
      rw [takeImu_of_none hwaits, takeImu_of_none hpending]
      refine ⟨rfl, ?_⟩
      exact congrArg (fun imu => ({ a with imu, previousImuSeq := none, stats.imuSeqGaps := 0 } : Assembler α)) htaken
    | some sample =>
      rw [hwaits] at hpending
      by_cases hold : a.lastImuSent.any (sample.value.time < ·) = true
      · rw [takeImu_of_stale hwaits hold, takeImu_of_stale hpending hold]
        refine ⟨rfl, ?_⟩
        exact congrArg (fun imu => ({ a with imu, previousImuSeq := none, stats := ⟨0, a.stats.staleDropped + 1⟩ } :
          Assembler α)) htaken
      · rw [takeImu_of_fresh hwaits hold, takeImu_of_fresh hpending hold]
        refine ⟨rfl, ?_⟩
        exact congrArg (fun imu => ({ a with
          imu, lastImuSent := some sample.value.time, previousImuSeq := none, stats.imuSeqGaps := 0 } :
          Assembler α)) htaken
  · rw [if_neg hsend, if_neg hsend]
    exact ⟨rfl, a.unnumbered_unnumbered⟩

/-! ## The other reports -/

/-- Numbers are neither looked at nor changed. -/
def Blind (f : Assembler α → β × Assembler α) : Prop :=
  ∀ a, f a.unnumbered = ((f a).1, (f a).2.unnumbered)

omit [Scalar α] in
theorem Blind.congr {f : Assembler α → β × Assembler α} (h : Blind f) {a b : Assembler α}
    (hab : a.unnumbered = b.unnumbered) : (f a).1 = (f b).1 ∧ (f a).2.unnumbered = (f b).2.unnumbered := by
  have ha := h a
  have hb := h b
  rw [hab, hb] at ha
  obtain ⟨hfirst, hsecond⟩ := Prod.mk.inj ha
  exact ⟨hfirst.symm, hsecond.symm⟩

theorem blind_takeBarometer (now : Nat) : Blind fun a : Assembler α => a.takeBarometer now := by
  intro a
  rcases hsent : a.barometer.sendDue now a.settings.barometerInterval with ⟨_ | sample, feed⟩ <;>
    simp only [takeBarometer, unnumbered, hsent]

theorem blind_takeMagnetometer (now : Nat) : Blind fun a : Assembler α => a.takeMagnetometer now := by
  intro a
  rcases hsent : a.magnetometer.sendDue now a.settings.magnetometerInterval with ⟨_ | sample, feed⟩ <;>
    simp only [takeMagnetometer, unnumbered, hsent]

theorem blind_takeGps (now : Nat) : Blind fun a : Assembler α => a.takeGps now := by
  intro a
  rcases hsent : a.gps.sendDue now a.settings.gpsInterval with ⟨_ | sample, feed⟩ <;>
    simp only [takeGps, unnumbered, hsent]

theorem blind_takeTruth : Blind fun a : Assembler α => a.takeTruth := by
  intro a
  rcases hsent : a.pose.send with ⟨_ | sample, feed⟩ <;>
    simp only [takeTruth, unnumbered, hsent]

theorem blind_takeRanges : Blind fun a : Assembler α => a.takeRanges :=
  fun _ => rfl

/-! ## The cycle -/

/-- Assemblers that differ in the numbers put out reports that do, and differ in nothing else afterwards. -/
theorem assemble_congr {a b : Assembler α} (hab : a.unnumbered = b.unnumbered) (plan : CyclePlan) :
    unnumberedMessages (a.assemble plan).1 = unnumberedMessages (b.assemble plan).1
      ∧ (a.assemble plan).2.unnumbered = (b.assemble plan).2.unnumbered := by
  obtain ⟨hfirstA, hrestA⟩ := a.takeImuDue_unnumbered plan
  obtain ⟨hfirstB, hrestB⟩ := b.takeImuDue_unnumbered plan
  rw [hab] at hfirstA hrestA
  have himu := hfirstA.symm.trans hfirstB
  have hafter := hrestA.symm.trans hrestB
  obtain ⟨hbarometer, hafter⟩ := (blind_takeBarometer plan.now).congr hafter
  obtain ⟨hmagnetometer, hafter⟩ := (blind_takeMagnetometer plan.now).congr hafter
  obtain ⟨hgps, hafter⟩ := (blind_takeGps plan.now).congr hafter
  obtain ⟨htruth, hafter⟩ := blind_takeTruth.congr hafter
  obtain ⟨hranges, hafter⟩ := blind_takeRanges.congr hafter
  constructor
  · simp only [assemble_eq, unnumberedMessages_append]
    rw [himu, hbarometer, hmagnetometer, hgps, htruth, hranges]
  · simp only [assemble_eq]
    exact hafter

end Assembler

end HilBridge
