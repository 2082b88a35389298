import HilBridge.Proofs.Sensor.Bookkeeping

/-!
# `HilBridge.Proofs.Sensor.Feeding` — samples of one moment, and the cycle after them

A simulation that hands over its samples in order of time never has one refused: no report can be later than
the samples of the moment (`NotAfter`), so all of them are accepted (`Accepts`).

`Assembler.InStep` is what such a simulation keeps true between its cycles: nothing is late, nothing has gone
wrong, and the number of the next inertial sample is so many steps ahead of the last one reported. A cycle that
reports when the steps are as many as expected finds no gap (`InStep.cycle`).
-/

namespace HilBridge

variable {α : Type} [Scalar α]

namespace Assembler

variable {a a' a'' : Assembler α} {now : Nat}

/-! ## Nothing is later than a moment -/

/-- Neither what waits nor what was reported is later than a moment, in any category. -/
def NotAfter (a : Assembler α) (now : Nat) : Prop :=
  ∀ k, (a.tray k).NotAfter now

omit [Scalar α] in
theorem NotAfter.mono {later : Nat} (h : a.NotAfter now) (hle : now ≤ later) : a.NotAfter later :=
  fun k => (h k).mono hle

omit [Scalar α] in
theorem notAfter_of_empty (hempty : ∀ k, a.tray k = .empty) (now : Nat) : a.NotAfter now := by
  intro k
  rw [hempty k]
  exact ⟨nofun, nofun⟩

omit [Scalar α] in
/-- What is stamped with that moment is not too old for an inertial report. -/
theorem NotAfter.imu_fresh (h : a.NotAfter now) : ¬ a.lastImuSent.any (now < ·) = true := by
  intro hold
  obtain ⟨last, hlast, hlt⟩ := any_lt_iff.mp hold
  exact absurd hlt (Nat.not_lt.mpr ((h .imu).2 last hlast))

theorem Books.notAfter {l : Ledger α} (h : a.Books l a') (ha : a.NotAfter now)
    (hl : ∀ x ∈ l.arrivals, x.time ≤ now) : a'.NotAfter now := by
  refine fun k => (h.trays k).notAfter (ha k) fun x hx => hl x ?_
  exact (List.filter_sublist.filterMap Entry.arrival?).subset hx

/-! ## Samples of one moment -/

/-- The assembler has become another by accepting samples of a moment. -/
def Accepts (now : Nat) (a a' : Assembler α) : Prop :=
  ∃ xs : List (Arrival α), (∀ x ∈ xs, x.time = now) ∧ a.Books (xs.map .accepted) a'

theorem Accepts.refl (a : Assembler α) : Accepts now a a :=
  ⟨[], nofun, .refl a⟩

theorem Accepts.trans (h : Accepts now a a') (h' : Accepts now a' a'') : Accepts now a a'' := by
  obtain ⟨xs, hxs, hbooks⟩ := h
  obtain ⟨ys, hys, hbooks'⟩ := h'
  refine ⟨xs ++ ys, fun x hx => ?_, ?_⟩
  · exact (List.mem_append.mp hx).elim (hxs x) (hys x)
  · rw [List.map_append]
    exact hbooks.trans hbooks'

theorem Accepts.notAfter (h : Accepts now a a') (ha : a.NotAfter now) : a'.NotAfter now := by
  obtain ⟨xs, hxs, hbooks⟩ := h
  refine hbooks.notAfter ha fun x hx => ?_
  have hmem : x ∈ xs := by simpa [Ledger.arrivals, Entry.arrival?, List.filterMap_map] using hx
  exact Nat.le_of_eq (hxs x hmem)

theorem Accepts.inOrder (h : Accepts now a a') (ha : a.InOrder) : a'.InOrder := by
  obtain ⟨xs, -, hbooks⟩ := h
  exact hbooks.inOrder ha

theorem Accepts.stale (h : Accepts now a a') : a'.stats.staleDropped = a.stats.staleDropped := by
  obtain ⟨xs, -, hbooks⟩ := h
  have hnone : (xs.map Entry.accepted).countP Entry.isStale = 0 := by
    rw [List.countP_eq_zero]
    intro e he
    obtain ⟨x, -, rfl⟩ := List.mem_map.mp he
    nofun
  rw [hbooks.stale, hnone, Nat.add_zero]

/-- A sample is accepted if nothing is later than it. -/
theorem accepts_deliver (sample : Sample α) (ha : a.NotAfter sample.time) :
    Accepts sample.time a (a.deliver sample).2 := by
  have htime : (sample.arrival a.imu.nextSeq).time = sample.time := by
    obtain ⟨time, reading⟩ := sample
    cases reading <;> rfl
  rcases a.deliver_cases sample with ⟨-, last, hlast, hlt⟩ | ⟨a', haccepted, hbooks⟩
  · rw [htime] at hlt
    exact absurd hlt (Nat.not_lt.mpr ((ha _).2 last hlast))
  · rw [haccepted]
    refine ⟨[sample.arrival a.imu.nextSeq], fun x hx => ?_, hbooks⟩
    rw [List.mem_singleton.mp hx, htime]

theorem accepts_deliverRange (link : String) (sample : Stamped α) (ha : a.NotAfter sample.time) :
    Accepts sample.time a (a.deliverRange link sample).2 := by
  rcases a.deliverRange_cases link sample with ⟨hunknown, -⟩ | ⟨-, -, last, hlast, hlt⟩ |
    ⟨a', haccepted, hbooks⟩
  · rw [hunknown]
    exact .refl a
  · exact absurd hlt (Nat.not_lt.mpr ((ha _).2 last hlast))
  · rw [haccepted]
    refine ⟨[.range _ sample], fun x hx => ?_, hbooks⟩
    rw [List.mem_singleton.mp hx]
    rfl

/-! ## The inertial side -/

/-- Store, numbering and gaps are the same. -/
structure SameImu (a a' : Assembler α) : Prop where
  imu : a'.imu = a.imu
  previous : a'.previousImuSeq = a.previousImuSeq
  gaps : a'.stats.imuSeqGaps = a.stats.imuSeqGaps

omit [Scalar α] in
theorem SameImu.refl (a : Assembler α) : SameImu a a :=
  ⟨rfl, rfl, rfl⟩

omit [Scalar α] in
theorem SameImu.trans (h : SameImu a a') (h' : SameImu a' a'') : SameImu a a'' :=
  ⟨h'.imu.trans h.imu, h'.previous.trans h.previous, h'.gaps.trans h.gaps⟩

omit [Scalar α] in
/-- Samples of other sensors leave the inertial side alone. -/
theorem sameImu_deliver {sample : Sample α} (h : ∀ reading, sample.value ≠ .imu reading) :
    SameImu a (a.deliver sample).2 := by
  obtain ⟨time, reading⟩ := sample
  cases reading with
  | imu reading => exact absurd rfl (h reading)
  | _ =>
    simp only [deliver]
    split <;> exact ⟨rfl, rfl, rfl⟩

omit [Scalar α] in
theorem sameImu_deliverRange (link : String) (sample : Stamped α) :
    SameImu a (a.deliverRange link sample).2 := by
  unfold deliverRange
  split <;> exact ⟨rfl, rfl, rfl⟩

/-! ## The samples of a tick -/

/-- Samples of a moment were accepted, and none of them was inertial. -/
structure Passes (now : Nat) (a a' : Assembler α) : Prop extends SameImu a a' where
  accepts : Accepts now a a'

/-- Samples of a moment were accepted, and one of them was inertial. -/
structure Fed (now : Nat) (a a' : Assembler α) : Prop where
  accepts : Accepts now a a'
  imu : ∃ reading, a'.imu = (a.imu.store ⟨now, reading⟩).2
  previous : a'.previousImuSeq = a.previousImuSeq
  gaps : a'.stats.imuSeqGaps = a.stats.imuSeqGaps

theorem passes_deliver (sample : Sample α) (ha : a.NotAfter sample.time)
    (h : ∀ reading, sample.value ≠ .imu reading) : Passes sample.time a (a.deliver sample).2 :=
  ⟨sameImu_deliver h, accepts_deliver sample ha⟩

/-- The same distance may be delivered for any sensors. -/
theorem passes_ranges (sample : Stamped α) (ha : a.NotAfter sample.time) (links : List RangeLink) :
    Passes sample.time a (links.foldl (fun a link => (a.deliverRange link.name sample).2) a) := by
  induction links generalizing a with
  | nil => exact ⟨.refl a, .refl a⟩
  | cons link rest ih =>
    -- the first delivery leaves nothing later than the sample, so the others are accepted, too
    have hfirst := accepts_deliverRange link.name sample ha
    have hrest := ih (hfirst.notAfter ha)
    exact ⟨(sameImu_deliverRange link.name sample).trans hrest.toSameImu, hfirst.trans hrest.accepts⟩

omit [Scalar α] in
/-- An inertial sample that nothing is later than is stored. -/
theorem deliver_imu (reading : ImuReading α) (ha : a.NotAfter now) :
    a.deliver ⟨now, .imu reading⟩ = (true, (a.storeImu ⟨now, reading⟩).2) := by
  simp only [deliver, if_neg ha.imu_fresh]

theorem fed_deliver (reading : ImuReading α) (ha : a.NotAfter now) :
    Fed now a (a.deliver ⟨now, .imu reading⟩).2 := by
  have haccepts := accepts_deliver ⟨now, .imu reading⟩ ha
  rw [deliver_imu reading ha] at haccepts ⊢
  exact ⟨haccepts, ⟨reading, rfl⟩, rfl, rfl⟩

theorem Passes.fed (h : Passes now a a') (h' : Fed now a' a'') : Fed now a a'' where
  accepts := h.accepts.trans h'.accepts
  imu := by
    obtain ⟨reading, himu⟩ := h'.imu
    exact ⟨reading, by rw [himu, h.imu]⟩
  previous := h'.previous.trans h.previous
  gaps := h'.gaps.trans h.gaps

theorem Fed.passes (h : Fed now a a') (h' : Passes now a' a'') : Fed now a a'' where
  accepts := h.accepts.trans h'.accepts
  imu := by
    obtain ⟨reading, himu⟩ := h.imu
    exact ⟨reading, h'.imu.trans himu⟩
  previous := h'.previous.trans h.previous
  gaps := h'.gaps.trans h.gaps

/-! ## The cycle -/

/-- What follows the inertial report in a cycle changes the other stores, the last motion and the noise only. -/
theorem read_assemble {β : Type} (read : Assembler α → β)
    (hread : ∀ a pose barometer magnetometer gps ranges previousMotion noise,
      read { a with pose, barometer, magnetometer, gps, ranges, previousMotion, noise } = read a)
    (a : Assembler α) (plan : CyclePlan) : read (a.assemble plan).2 = read (a.takeImuDue plan).2 := by
  have hbarometer : ∀ b : Assembler α, read (b.takeBarometer plan.now).2 = read b := by
    intro b
    obtain ⟨noise, -, htaken⟩ := b.takeBarometer_eq plan.now
    rw [htaken]
    exact hread b b.pose _ b.magnetometer b.gps b.ranges b.previousMotion noise
  have hmagnetometer : ∀ b : Assembler α, read (b.takeMagnetometer plan.now).2 = read b := by
    intro b
    obtain ⟨noise, -, htaken⟩ := b.takeMagnetometer_eq plan.now
    rw [htaken]
    exact hread b b.pose b.barometer _ b.gps b.ranges b.previousMotion noise
  have hgps : ∀ b : Assembler α, read (b.takeGps plan.now).2 = read b := by
    intro b
    obtain ⟨noise, -, htaken⟩ := b.takeGps_eq plan.now
    rw [htaken]
    exact hread b b.pose b.barometer b.magnetometer _ b.ranges b.previousMotion noise
  have htruth : ∀ b : Assembler α, read b.takeTruth.2 = read b := by
    intro b
    obtain ⟨motion, htaken⟩ := b.takeTruth_eq
    rw [htaken]
    exact hread b _ b.barometer b.magnetometer b.gps b.ranges motion b.noise
  have hranges : ∀ b : Assembler α, read b.takeRanges.2 = read b :=
    fun b => hread b b.pose b.barometer b.magnetometer b.gps _ b.previousMotion b.noise
  rw [assemble_eq]
  dsimp only
  rw [hranges, htruth, hgps, hmagnetometer, hbarometer]

/-- So it leaves the inertial side alone. -/
theorem sameImu_assemble (a : Assembler α) (plan : CyclePlan) :
    SameImu (a.takeImuDue plan).2 (a.assemble plan).2 where
  imu := read_assemble (·.imu) (fun _ _ _ _ _ _ _ _ => rfl) a plan
  previous := read_assemble (·.previousImuSeq) (fun _ _ _ _ _ _ _ _ => rfl) a plan
  gaps := read_assemble (·.stats.imuSeqGaps) (fun _ _ _ _ _ _ _ _ => rfl) a plan

/-- Nothing is late or has gone wrong, and the numbering is `ahead` steps ahead of the last inertial report. -/
structure InStep (now ahead : Nat) (a : Assembler α) : Prop where
  notAfter : a.NotAfter now
  inOrder : a.InOrder
  stale : a.stats.staleDropped = 0
  gaps : a.stats.imuSeqGaps = 0
  numbered : ∀ previous ∈ a.previousImuSeq, a.imu.nextSeq = previous + UInt8.ofNat ahead

/-- Where the numbering starts over nothing is expected of it. -/
theorem InStep.resetSequence {ahead : Nat} (h : a.InStep now ahead) : a.resetSequence.InStep now ahead where
  notAfter := (books_resetSequence a).notAfter h.notAfter nofun
  inOrder := (books_resetSequence a).inOrder h.inOrder
  stale := h.stale
  gaps := h.gaps
  numbered := nofun

/-- The times of the inertial reports among some reports. -/
def imuTimes (reports : List (Stamped (Report α))) : List Nat :=
  (reports.map Message.report).filterMap Message.imuTime?

omit [Scalar α] in
theorem imuTimes_append (r t : List (Stamped (Report α))) : imuTimes (r ++ t) = imuTimes r ++ imuTimes t := by
  rw [imuTimes, List.map_append, List.filterMap_append]
  rfl

omit [Scalar α] in
/-- Reports of other kinds have no such time. -/
theorem imuTimes_map_wrap {β : Type} (kind : β → Report α) (hkind : ∀ x report, kind x ≠ .imu report)
    (samples : List (Stamped β)) : imuTimes (samples.map (wrap kind)) = [] := by
  rw [imuTimes, List.map_map, List.filterMap_map, List.filterMap_eq_nil_iff]
  intro x _
  show (Message.report ⟨x.time, kind x.value⟩).imuTime? = none
  cases hx : kind x.value with
  | imu report => exact absurd hx (hkind _ _)
  | _ => rfl

/-- An inertial report can only come first in a cycle. -/
theorem imuTimes_assemble (a : Assembler α) (plan : CyclePlan) :
    imuTimes (a.assemble plan).1 = ((a.takeImuDue plan).1.map (·.time)).toList := by
  have others : ∀ {β : Type} (kind : β → Report α), (∀ x report, kind x ≠ .imu report) →
      ∀ report : Option (Stamped β), imuTimes (report.map (wrap kind)).toList = [] := by
    intro β kind hkind report
    rw [Option.toList_map]
    exact imuTimes_map_wrap kind hkind _
  simp only [assemble_eq, imuTimes_append]
  rw [others .barometer nofun, others .magnetometer nofun, others .gps nofun, others .groundTruth nofun,
    imuTimes_map_wrap .range nofun]
  cases (a.takeImuDue plan).1 <;> rfl

/-- A cycle after a feeding finds nothing late, and no gap when it reports. -/
theorem InStep.cycle {ahead later : Nat} (h : a.InStep now ahead) (hle : now ≤ later) (hfed : Fed later a a')
    (plan : CyclePlan) (hstep : plan.sendImu = true → plan.imuStep = some (UInt8.ofNat ahead)) :
    (a'.assemble plan).2.InStep later (if plan.sendImu then 1 else ahead + 1)
      ∧ imuTimes (a'.assemble plan).1 = if plan.sendImu then [later] else [] := by
  have hordered := hfed.accepts.inOrder h.inOrder
  have hnotAfter := hfed.accepts.notAfter (h.notAfter.mono hle)
  have hbooks := books_assemble hordered plan
  have hsame := a'.sameImu_assemble plan
  obtain ⟨reading, himu⟩ := hfed.imu
  -- what remains is what the inertial report does
  suffices hdue : (a'.takeImuDue plan).2.stats.imuSeqGaps = 0
      ∧ (∀ previous ∈ (a'.takeImuDue plan).2.previousImuSeq,
        (a'.takeImuDue plan).2.imu.nextSeq = previous + UInt8.ofNat (if plan.sendImu then 1 else ahead + 1))
      ∧ (a'.takeImuEntries plan).countP Entry.isStale = 0
      ∧ (a'.takeImuDue plan).1.map (·.time) = if plan.sendImu then some later else none by
    obtain ⟨hgaps, hnumbered, hstale, htime⟩ := hdue
    refine ⟨⟨?_, hbooks.inOrder hordered, ?_, ?_, ?_⟩, ?_⟩
    · refine hbooks.notAfter hnotAfter fun x hx => ?_
      obtain ⟨e, he, hex⟩ := List.mem_filterMap.mp hx
      rw [arrival?_of_mem_assembleEntries he] at hex
      cases hex
    · have hnone : (a'.assembleEntries plan).countP Entry.isStale = 0 := by
        simp only [assembleEntries, List.countP_append, hstale, countP_isStale_reported,
          countP_isStale_takeRangesEntries]
      rw [hbooks.stale, hnone, hfed.accepts.stale, h.stale]
    · rw [hsame.gaps, hgaps]
    · rw [hsame.previous, hsame.imu]
      exact hnumbered
    · rw [imuTimes_assemble, htime]
      split <;> rfl
  have hgaps : a'.stats.imuSeqGaps = 0 := hfed.gaps.trans h.gaps
  by_cases hsend : plan.sendImu = true
  · have hpending : a'.imu.slot.pending? = some ⟨a.imu.nextSeq, later, reading⟩ := by
      rw [himu]
      rfl
    -- the number stored is as many steps ahead of the last one as the cycle expects
    have hgap : isGap a'.previousImuSeq plan.imuStep a.imu.nextSeq = false := by
      rw [hfed.previous, hstep hsend]
      cases hprevious : a.previousImuSeq with
      | none => rfl
      | some previous =>
        have hsub : a.imu.nextSeq - previous = UInt8.ofNat ahead := by
          rw [h.numbered previous hprevious, UInt8.add_comm, UInt8.add_sub_cancel]
        simp [isGap, hsub]
    rw [takeImuEntries, takeImuDue, if_pos hsend, takeImu_of_fresh hpending hnotAfter.imu_fresh, hgap,
      if_pos hsend, if_pos hsend]
    refine ⟨hgaps, fun previous hprevious => ?_, rfl, rfl⟩
    rw [← Option.some.inj hprevious, himu]
    rfl
  · -- no report, and the stored sample has taken one more number
    have hstored : a'.imu.nextSeq = a.imu.nextSeq + 1 := by
      rw [himu]
      rfl
    rw [takeImuEntries, takeImuDue, if_neg hsend, (Bool.not_eq_true _).mp hsend]
    refine ⟨hgaps, fun previous hprevious => ?_, rfl, rfl⟩
    rw [hfed.previous] at hprevious
    rw [if_neg Bool.false_ne_true, hstored, h.numbered previous hprevious, UInt8.ofNat_add, UInt8.add_assoc]
    rfl

end Assembler

end HilBridge
