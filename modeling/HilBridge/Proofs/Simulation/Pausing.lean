import HilBridge.Bridge.Diagnostics
import HilBridge.Proofs.Simulation.Ticks

/-!
# `HilBridge.Proofs.Simulation.Pausing` — what pausing does to the numbers of inertial messages

Every tick numbers one inertial sample, paused or not, so the number of an inertial message tells how many ticks
there have been. In lockstep the bridge expects the number to advance by the skip factor from one message to the
next, which it does where nothing is paused in between. `stretches` reads off the record of a run how many ticks
there were from one message to the next, those that were paused and the others.

**Main statement.** `paused_ticks_show_in_numbers_only`: runs that differ by paused ticks have the same outcomes,
publications and messages, but for the numbers of the inertial ones and, in lockstep, for the gaps counted because of
them.
-/

namespace HilBridge

variable {L α : Type}

/-! ## The numbers of a cycle -/

/-- By how much the bridge expects the number of an inertial report to advance, if it expects anything. -/
def Scheduler.imuStep (s : Scheduler) : Option UInt8 :=
  match s.mode with
  | .lockstep _ => some (UInt8.ofNat s.skipFactor)
  | .freeRunning _ => none

theorem Scheduler.imuStep_cyclePlan (s : Scheduler) (cycle now : Nat) :
    (s.cyclePlan cycle now).imuStep = s.imuStep := by
  unfold cyclePlan imuStep
  cases s.mode <;> rfl

theorem Scheduler.SamePace.imuStep {s t : Scheduler} (h : s.SamePace t) : t.imuStep = s.imuStep := by
  unfold Scheduler.imuStep
  rw [h.mode, h.skipFactor]

namespace Assembler

variable [Scalar α]

omit [Scalar α] in
theorem imuNumbers_eq (reports : List (Stamped (Report α))) :
    (reports.map Message.report).filterMap Message.imuNumber? = (imuReports reports).map (·.value.seq) := by
  rw [imuReports, List.filterMap_map, List.map_filterMap]
  refine List.filterMap_congr fun report _ => ?_
  obtain ⟨time, value⟩ := report
  cases value <;> rfl

/-- A cycle reports the sample that waits under its number, or it leaves the numbering alone. -/
theorem assemble_numbers {a : Assembler α} {x : Numbered (Stamped (ImuReading α))}
    (hpending : a.imu.slot.pending? = some x) (hfresh : ¬ a.lastImuSent.any (x.value.time < ·) = true)
    (plan : CyclePlan) :
    let after := (a.assemble plan).2
    let numbers := ((a.assemble plan).1.map Message.report).filterMap Message.imuNumber?
    after.imu.nextSeq = a.imu.nextSeq
      ∧ (numbers = [] ∧ after.previousImuSeq = a.previousImuSeq ∧ after.stats.imuSeqGaps = a.stats.imuSeqGaps
        ∨ numbers = [x.seq] ∧ after.previousImuSeq = some x.seq ∧ after.stats.imuSeqGaps
          = a.stats.imuSeqGaps + if isGap a.previousImuSeq plan.imuStep x.seq then 1 else 0) := by
  intro after numbers
  have hsame := a.sameImu_assemble plan
  have hnumbers : numbers = (a.takeImuDue plan).1.toList.map (·.value.seq) := by
    simp only [numbers, imuNumbers_eq, imuReports_assemble]
  rw [hnumbers, hsame.imu, hsame.previous, hsame.gaps, takeImuDue]
  by_cases hsend : plan.sendImu = true
  · rw [if_pos hsend, takeImu_of_fresh hpending hfresh]
    exact ⟨rfl, .inr ⟨rfl, rfl, rfl⟩⟩
  · rw [if_neg hsend]
    exact ⟨rfl, .inl ⟨rfl, rfl, rfl⟩⟩

end Assembler

/-! ## From one message to the next -/

/-- So many ticks that were paused, and so many that were not. -/
structure Stretch where
  awake : Nat
  paused : Nat
  deriving Repr, DecidableEq

namespace Stretch

def ticks (s : Stretch) : Nat :=
  s.awake + s.paused

/-- One more tick. -/
def extend (paused : Bool) (s : Stretch) : Stretch :=
  if paused then { s with paused := s.paused + 1 } else { s with awake := s.awake + 1 }

/-- Without the paused ticks. -/
def unpaused (s : Stretch) : Stretch :=
  ⟨s.awake, 0⟩

/-- Whether a number that has advanced by the ticks has not advanced by what was expected, if anything was. -/
def misses (step : Option UInt8) (s : Stretch) : Bool :=
  step.any (UInt8.ofNat s.ticks != ·)

theorem ticks_extend (paused : Bool) (s : Stretch) : (s.extend paused).ticks = s.ticks + 1 := by
  unfold extend ticks
  cases paused with
  | true => rfl
  | false => exact Nat.add_right_comm ..

/-- A number that is as far from the last one as there were ticks makes a gap if they miss what was expected. -/
theorem countP_misses (last : Option Stretch) (step : Option UInt8) (seq : UInt8) :
    last.toList.countP (·.misses step)
      = if Assembler.isGap (last.map fun stretch => seq - UInt8.ofNat stretch.ticks) step seq then 1 else 0 := by
  cases last with
  | none => cases step <;> rfl
  | some stretch =>
    cases step with
    | none => rfl
    | some step =>
      have hdistance : seq - (seq - UInt8.ofNat stretch.ticks) = UInt8.ofNat stretch.ticks := by
        grind
      show [stretch].countP _ = if (_ - _ != step) = true then 1 else 0
      rw [hdistance, List.countP_singleton]
      rfl

/-- Where the ticks that are not paused are as many as expected, it is the paused ones that decide. -/
theorem misses_of_unpaused {s : Stretch} {step : UInt8} (h : s.unpaused.misses (some step) = false) :
    s.misses (some step) = (UInt8.ofNat s.paused != 0) := by
  have hawake : UInt8.ofNat s.awake = step := by
    simpa only [misses, ticks, unpaused, Option.any_some, bne_eq_false_iff_eq, Nat.add_zero] using h
  have hmoved : UInt8.ofNat s.awake + UInt8.ofNat s.paused = UInt8.ofNat s.awake ↔ UInt8.ofNat s.paused = 0 := by
    grind
  rw [misses, Option.any_some, ticks, UInt8.ofNat_add, ← hawake, Bool.eq_iff_iff, bne_iff_ne, bne_iff_ne]
  exact not_congr hmoved

theorem countP_misses_of_unpaused {between : List Stretch} {step : UInt8}
    (h : (between.map unpaused).countP (·.misses (some step)) = 0) :
    between.countP (·.misses (some step)) = between.countP fun s => UInt8.ofNat s.paused != 0 := by
  refine List.countP_congr fun s hs => ?_
  have hawake := List.countP_eq_zero.mp h _ (List.mem_map_of_mem hs)
  rw [misses_of_unpaused (Bool.eq_false_iff.mpr hawake)]

end Stretch

/-- The ticks since the last inertial message, that of the message among them, and those between the ones before. -/
structure Stretches where
  current : Option Stretch
  closed : List Stretch
  deriving Repr, DecidableEq

namespace Stretches

def tick (t : Stretches) (e : TickRecord α) : Stretches :=
  if e.numbers = [] then { t with current := t.current.map (Stretch.extend e.paused) }
  else ⟨some ⟨1, 0⟩, t.closed ++ t.current.toList⟩

def unpaused (t : Stretches) : Stretches :=
  ⟨t.current.map Stretch.unpaused, t.closed.map Stretch.unpaused⟩

end Stretches

/-- The stretches of a record, if so many ticks since the last inertial message are to be added. -/
def stretches (before : Option Nat) (log : List (TickRecord α)) : Stretches :=
  log.foldl Stretches.tick ⟨before.map (⟨·, 0⟩), []⟩

theorem stretches_concat (before : Option Nat) (log : List (TickRecord α)) (e : TickRecord α) :
    stretches before (log ++ [e]) = (stretches before log).tick e := by
  rw [stretches, List.foldl_append]
  rfl

theorem TickRecord.numbers_unnumbered (e : TickRecord α) : e.unnumbered.numbers = [] ↔ e.numbers = [] := by
  unfold numbers unnumbered
  rw [List.filterMap_map, List.filterMap_eq_nil_iff, List.filterMap_eq_nil_iff]
  refine forall_congr' fun message => forall_congr' fun _ => ?_
  rw [← Option.isNone_iff_eq_none, ← Option.isNone_iff_eq_none, ← Option.not_isSome, ← Option.not_isSome]
  rw [Function.comp_apply, Message.isSome_imuNumber?_unnumbered]

/-- The numbers themselves do not matter to the stretches. -/
theorem stretches_unnumbered (before : Option Nat) (log : List (TickRecord α)) :
    stretches before (log.map TickRecord.unnumbered) = stretches before log := by
  induction log using List.reverseRecOn with
  | nil => rfl
  | append_singleton front e ih =>
    rw [List.map_append, List.map_singleton, stretches_concat, stretches_concat, ih]
    unfold Stretches.tick
    simp only [e.numbers_unnumbered]
    rfl

/-- Without its silent ticks, a record has the same stretches without their paused ticks. -/
theorem stretches_awake {before : Option Nat} {log : List (TickRecord α)}
    (hsilent : ∀ e ∈ log, e.paused = true → e = .silent) :
    stretches before (awake log) = (stretches before log).unpaused := by
  induction log using List.reverseRecOn with
  | nil => cases before <;> rfl
  | append_singleton front e ih =>
    have hfront := ih fun d hd => hsilent d (List.mem_append_left _ hd)
    have he := hsilent e (List.mem_append_right _ (List.mem_singleton.mpr rfl))
    rw [stretches_concat]
    cases hpaused : e.paused with
    | true =>
      obtain rfl := he hpaused
      rw [awake_concat_silent, hfront]
      show _ = Stretches.unpaused { stretches before front with
        current := (stretches before front).current.map (Stretch.extend true) }
      unfold Stretches.unpaused
      rw [Option.map_map]
      rfl
    | false =>
      rw [awake_concat front hpaused, stretches_concat, hfront]
      unfold Stretches.tick Stretches.unpaused
      split
      · rw [Option.map_map, Option.map_map, hpaused]
        rfl
      · rw [List.map_append]
        cases (stretches before front).current <;> rfl

theorem stretches_of_never_paused {before : Option Nat} {log : List (TickRecord α)}
    (h : ∀ e ∈ log, e.paused = false) : (stretches before log).unpaused = stretches before log := by
  have hawake : awake log = log := by
    refine List.filter_eq_self.mpr fun e he => ?_
    rw [h e he]
    rfl
  have hsilent : ∀ e ∈ log, e.paused = true → e = .silent := by
    intro e he hpaused
    rw [h e he] at hpaused
    cases hpaused
  rw [← stretches_awake hsilent, hawake]

/-! ## The numbering along a run -/

/-- A tick numbers one inertial sample. If the sample is sent, its number is compared with the one sent before. -/
structure Numbers (step : Option UInt8) (a : Assembler α) (e : TickRecord α) (a' : Assembler α) : Prop where
  nextSeq : a'.imu.nextSeq = a.imu.nextSeq + 1
  sent : e.numbers = [] ∧ a'.previousImuSeq = a.previousImuSeq ∧ a'.stats.imuSeqGaps = a.stats.imuSeqGaps
    ∨ e.numbers = [a.imu.nextSeq] ∧ a'.previousImuSeq = some a.imu.nextSeq ∧ a'.stats.imuSeqGaps
      = a.stats.imuSeqGaps + if Assembler.isGap a.previousImuSeq step a.imu.nextSeq then 1 else 0

namespace Simulation

variable [Scalar α] [AutopilotLink L α] {s : Simulation L α}

theorem Ready.numbersPaused (h : s.Ready) (hpaused : s.vehicle.paused = true) :
    Numbers s.bridge.scheduler.imuStep s.bridge.assembler s.record s.step.2.bridge.assembler
      ∧ s.step.2.bridge.scheduler.imuStep = s.bridge.scheduler.imuStep := by
  obtain ⟨hrecord, hstep, -⟩ := h.stepPaused hpaused
  rw [hrecord, hstep]
  exact ⟨⟨rfl, .inl ⟨rfl, rfl, rfl⟩⟩, rfl⟩

theorem Ready.numbersAwake (h : s.Ready) (hpaused : s.vehicle.paused = false)
    (hsends : ∀ messages, (Bridge.sendAll s.fed.connection messages).sent = messages) :
    Numbers s.bridge.scheduler.imuStep s.bridge.assembler s.record s.step.2.bridge.assembler
      ∧ s.step.2.bridge.scheduler.imuStep = s.bridge.scheduler.imuStep := by
  obtain ⟨hrecord, hstep, hrunning, hpace, -, hnotAfter⟩ := h.stepAwake hpaused
  have hstill := (s.moved_cases (s.bridge.preUpdate s.vehicle.tick []).published).2.1
  have hassembler : s.fed.assembler
      = (s.moved (s.bridge.preUpdate s.vehicle.tick []).published).refill s.bridge.assembler := rfl
  rw [hrecord, hstep, ← hpace.imuStep]
  generalize s.moved (s.bridge.preUpdate s.vehicle.tick []).published = v at *
  rcases hrunning.tickEnd (show v.tick.paused = false from hstill.trans hpaused) with
    ⟨-, hidle⟩ | ⟨scheduler, -, hcycle, hmode, hskip, -⟩
  · rw [hidle, hassembler]
    exact ⟨⟨rfl, .inl ⟨rfl, rfl, rfl⟩⟩, rfl⟩
  · rw [hcycle]
    have himuStep := s.fed.scheduler.imuStep_cyclePlan s.fed.scheduler.stats.cycles v.tick.time
    generalize s.fed.scheduler.cyclePlan s.fed.scheduler.stats.cycles v.tick.time = plan at *
    -- the sample that was delivered is the one that waits
    have hpending : (v.refill s.bridge.assembler).imu.slot.pending?
        = some ⟨s.bridge.assembler.imu.nextSeq, v.time, v.imuReading.1⟩ := rfl
    obtain ⟨hnext, hcases⟩ := Assembler.assemble_numbers hpending hnotAfter.imu_fresh plan
    have hnumbers : ∀ (paused : Bool) (status : SyncStatus) (published : List (Publication α)),
        (⟨paused, status, published, (Bridge.runCycle { s.fed with scheduler } plan).sent⟩ : TickRecord α).numbers
        = (((v.refill s.bridge.assembler).assemble plan).1.map Message.report).filterMap Message.imuNumber? := by
      intro paused status published
      have hsent : (Bridge.runCycle { s.fed with scheduler } plan).sent
          = (Bridge.cycleMessages { s.fed with scheduler } plan).1 := hsends _
      rw [TickRecord.numbers, hsent, Bridge.cycleMessages_fst, List.filterMap_append, hassembler]
      split <;> rfl
    refine ⟨⟨?_, ?_⟩, ?_⟩
    · rw [Bridge.assembler_runCycle, hassembler]
      exact hnext
    · rw [Bridge.assembler_runCycle, hnumbers, hassembler, ← himuStep]
      exact hcases
    · have hafter : scheduler.SamePace (Bridge.runCycle { s.fed with scheduler } plan).bridge.scheduler :=
        (scheduler.samePace_heartbeatDue _).trans (Scheduler.samePace_markSent _ _ _)
      rw [hafter.imuStep]
      unfold Scheduler.imuStep
      rw [hmode, hskip]

/-- How many samples have been numbered since the last one that was sent. -/
def numberedSince (s : Simulation L α) : Option Nat :=
  s.bridge.assembler.previousImuSeq.map fun previous => (s.bridge.assembler.imu.nextSeq - previous).toNat

/-- What the record of a run tells about the numbering at its end. -/
structure Counts (s : Simulation L α) (r : Simulation L α × List (TickRecord α)) : Prop where
  imuStep : r.1.bridge.scheduler.imuStep = s.bridge.scheduler.imuStep
  nextSeq : r.1.bridge.assembler.imu.nextSeq = s.bridge.assembler.imu.nextSeq + UInt8.ofNat r.2.length
  previous : r.1.bridge.assembler.previousImuSeq = (stretches s.numberedSince r.2).current.map fun stretch =>
    r.1.bridge.assembler.imu.nextSeq - UInt8.ofNat stretch.ticks
  gaps : r.1.bridge.assembler.stats.imuSeqGaps = s.bridge.assembler.stats.imuSeqGaps
    + (stretches s.numberedSince r.2).closed.countP (·.misses s.bridge.scheduler.imuStep)
  numbers : ∀ i e, r.2[i]? = some e → ∀ number ∈ e.numbers, number = s.bridge.assembler.imu.nextSeq + UInt8.ofNat i

omit [Scalar α] [AutopilotLink L α] in
theorem counts_nil (s : Simulation L α) : Counts s (s, []) := by
  refine ⟨rfl, (UInt8.add_zero _).symm, ?_, rfl, nofun⟩
  show s.bridge.assembler.previousImuSeq = (s.numberedSince.map fun n => (⟨n, 0⟩ : Stretch)).map _
  rw [numberedSince, Option.map_map, Option.map_map]
  cases s.bridge.assembler.previousImuSeq with
  | none => rfl
  | some previous =>
    show some previous = some (s.bridge.assembler.imu.nextSeq
      - UInt8.ofNat ((s.bridge.assembler.imu.nextSeq - previous).toNat + 0))
    rw [Nat.add_zero, UInt8.ofNat_toNat]
    congr 1
    grind

omit [Scalar α] [AutopilotLink L α] in
theorem Counts.concat {r : Simulation L α × List (TickRecord α)} (h : Counts s r) {t : Simulation L α}
    {e : TickRecord α} (hone : Numbers r.1.bridge.scheduler.imuStep r.1.bridge.assembler e t.bridge.assembler)
    (hstep : t.bridge.scheduler.imuStep = r.1.bridge.scheduler.imuStep) : Counts s (t, r.2 ++ [e]) := by
  have hnext : t.bridge.assembler.imu.nextSeq
      = s.bridge.assembler.imu.nextSeq + UInt8.ofNat (r.2 ++ [e]).length := by
    rw [hone.nextSeq, h.nextSeq, List.length_append, List.length_singleton, UInt8.ofNat_add, UInt8.add_assoc]
    rfl
  have hnumbers : ∀ number ∈ e.numbers, number = s.bridge.assembler.imu.nextSeq + UInt8.ofNat r.2.length := by
    intro number hnumber
    rw [← h.nextSeq]
    rcases hone.sent with ⟨hnone, -⟩ | ⟨hsent, -⟩
    · rw [hnone] at hnumber
      cases hnumber
    · rw [hsent] at hnumber
      exact List.mem_singleton.mp hnumber
  refine ⟨hstep.trans h.imuStep, hnext, ?_, ?_, ?_⟩
  · rw [stretches_concat, Stretches.tick]
    dsimp only
    rcases hone.sent with ⟨hnone, hprevious, -⟩ | ⟨hsent, hprevious, -⟩
    · rw [if_pos hnone, hprevious, h.previous, Option.map_map]
      refine congrArg (Option.map · _) (funext fun stretch => ?_)
      rw [Function.comp_apply, Stretch.ticks_extend, hone.nextSeq, UInt8.ofNat_add]
      grind
    · rw [if_neg (hsent ▸ List.cons_ne_nil _ _), hprevious, hone.nextSeq]
      show some _ = some (r.1.bridge.assembler.imu.nextSeq + 1 - 1)
      congr 1
      grind
  · rw [stretches_concat, Stretches.tick]
    dsimp only
    rcases hone.sent with ⟨hnone, -, hgaps⟩ | ⟨hsent, -, hgaps⟩
    · rw [if_pos hnone, hgaps]
      exact h.gaps
    · rw [if_neg (hsent ▸ List.cons_ne_nil _ _), hgaps, h.gaps, List.countP_append, Nat.add_assoc, h.imuStep,
        h.previous]
      exact congrArg _ (congrArg _ (Stretch.countP_misses _ _ _).symm)
  · intro i d hd number hnumber
    rcases Nat.lt_or_ge i r.2.length with hi | hi
    · rw [List.getElem?_append_left hi] at hd
      exact h.numbers i d hd number hnumber
    · rw [List.getElem?_append_right hi, List.getElem?_singleton] at hd
      split at hd
      · obtain rfl := Option.some.inj hd
        obtain rfl : i = r.2.length := by omega
        exact hnumbers number hnumber
      · cases hd

/-! ## Runs -/

variable {alike : L → L → Prop}

theorem paused_run (s : Simulation L α) (flags : List Bool) :
    ((pausing L α).run s flags).2.map (·.paused) = flags := by
  induction flags using List.reverseRecOn with
  | nil => rfl
  | append_singleton front paused ih =>
    rw [Recorder.run_concat, Recorder.step, List.map_append, ih]
    rfl

theorem counts_run (hlink : Unfailing alike) (hready : s.Ready)
    (halike : alike s.bridge.connection.link s.bridge.connection.link) (flags : List Bool) :
    Counts s ((pausing L α).run s flags) := by
  induction flags using List.reverseRecOn with
  | nil => exact counts_nil s
  | append_singleton front paused ih =>
    obtain ⟨hfirst, hbehind, hstill, -, -⟩ := follows_run hlink hready halike front
    rw [Recorder.run_concat]
    generalize (pausing L α).run s front = r at *
    cases paused with
    | true =>
      obtain ⟨hone, hstep⟩ := (hbehind.withPaused true).numbersPaused rfl
      exact ih.concat hone hstep
    | false =>
      obtain ⟨-, -, -, -, hsends⟩ := (hstill.withPaused false).stepAwake hlink (hfirst.withPaused false)
        (hbehind.withPaused false) hstill.vehicle rfl
      obtain ⟨hone, hstep⟩ := (hbehind.withPaused false).numbersAwake rfl fun messages => (hsends messages).2
      exact ih.concat hone hstep

omit [AutopilotLink L α] in
/-- Alike simulations have counted the same, except for gaps. -/
theorem Alike.diagnostics (h : s.Alike alike t) :
    { s.bridge.diagnostics with imuSeqGaps := 0 } = { t.bridge.diagnostics with imuSeqGaps := 0 } := by
  have hdropped : s.bridge.assembler.stats.staleDropped = t.bridge.assembler.stats.staleDropped :=
    congrArg (·.stats.staleDropped) (h.assembler s.vehicle)
  obtain ⟨hsame, -⟩ := h.bridge.connection
  unfold Bridge.diagnostics
  rw [hsame, h.bridge.scheduler, h.bridge.dispatcher, h.bridge.messagesSent, hdropped]

/--
Pausing shows in the numbers of the inertial messages only. Whatever ticks are paused, nothing is obtained, published
or sent in them, every inertial message has the number of the tick it is sent in, and the gaps are the stretches
between two such messages that do not have as many ticks, paused ones included, as the bridge expects.

Two runs in which as many ticks are not paused obtain, publish and send the same in these, apart from the numbers, and
end with the same vehicle and the same counters, apart from the gaps. If one of them never pauses and counts no gap,
then the other one counts a gap wherever it pauses between two messages, unless that adds to a multiple of 256 ticks.
-/
theorem paused_ticks_show_in_numbers_only (hlink : Unfailing alike) (hready : s.Ready)
    (halike : alike s.bridge.connection.link s.bridge.connection.link) :
    (∀ flags,
      let r := (pausing L α).run s flags
      let between := (stretches s.numberedSince r.2).closed
      r.2.map (·.paused) = flags ∧ (∀ e ∈ r.2, e.paused = true → e = .silent)
        ∧ (∀ i e, r.2[i]? = some e →
          ∀ number ∈ e.numbers, number = s.bridge.assembler.imu.nextSeq + UInt8.ofNat i)
        ∧ r.1.bridge.diagnostics.imuSeqGaps
          = s.bridge.diagnostics.imuSeqGaps + between.countP (·.misses s.bridge.scheduler.imuStep))
    ∧ ∀ flags flags', flags.count false = flags'.count false →
      let r := (pausing L α).run s flags
      let r' := (pausing L α).run s flags'
      let between := (stretches s.numberedSince r.2).closed
      let between' := (stretches s.numberedSince r'.2).closed
      (awake r.2).map TickRecord.unnumbered = (awake r'.2).map TickRecord.unnumbered
        ∧ (r.1.withPaused false).vehicle = (r'.1.withPaused false).vehicle
        ∧ { r.1.bridge.diagnostics with imuSeqGaps := 0 } = { r'.1.bridge.diagnostics with imuSeqGaps := 0 }
        ∧ between.map Stretch.unpaused = between'.map Stretch.unpaused
        ∧ (true ∉ flags' → r'.1.bridge.diagnostics.imuSeqGaps = s.bridge.diagnostics.imuSeqGaps →
          s.bridge.scheduler.imuStep.isSome = true → r.1.bridge.diagnostics.imuSeqGaps
            = s.bridge.diagnostics.imuSeqGaps + between.countP fun stretch => UInt8.ofNat stretch.paused != 0) := by
  have hfollows := follows_run hlink hready halike
  have hcounts := counts_run hlink hready halike
  refine ⟨fun flags => ⟨paused_run s flags, (hfollows flags).silent, (hcounts flags).numbers, (hcounts flags).gaps⟩, ?_⟩
  intro flags flags' hcount r r' between between'
  have hleft := hfollows flags
  have hright := hfollows flags'
  rw [← hcount] at hright
  have hunpaused : (stretches s.numberedSince r.2).unpaused = (stretches s.numberedSince r'.2).unpaused := by
    rw [← stretches_awake hleft.silent, ← stretches_awake hright.silent, ← stretches_unnumbered, hleft.awake,
      ← hright.awake, stretches_unnumbered]
  have hbetween : between.map Stretch.unpaused = between'.map Stretch.unpaused := congrArg Stretches.closed hunpaused
  refine ⟨hleft.awake.trans hright.awake.symm, hleft.alike.vehicle.trans hright.alike.vehicle.symm,
    hleft.alike.diagnostics.symm.trans hright.alike.diagnostics, hbetween, ?_⟩
  intro hnever hnone hlockstep
  obtain ⟨step, hstep⟩ := Option.isSome_iff_exists.mp hlockstep
  have hgaps := (hcounts flags).gaps
  have hgaps' := (hcounts flags').gaps
  rw [hstep] at hgaps hgaps'
  -- the run that never pauses has as many ticks between its messages as are expected
  have hstill : ∀ e ∈ r'.2, e.paused = false := by
    intro e he
    have hpaused : e.paused ∈ flags' := paused_run s flags' ▸ List.mem_map_of_mem he
    exact Bool.eq_false_iff.mpr fun h => hnever (h ▸ hpaused)
  have hself : between.map Stretch.unpaused = between' :=
    hbetween.trans (congrArg Stretches.closed (stretches_of_never_paused hstill))
  have hnothing : between'.countP (·.misses (some step)) = 0 := Nat.add_eq_left.mp (hgaps'.symm.trans hnone)
  rw [← hself] at hnothing
  exact hgaps.trans (congrArg _ (Stretch.countP_misses_of_unpaused hnothing))

/-! ## A pause of one tick -/

/-- Lockstep without noise on any reading. -/
def quiet : Config Float :=
  { Trial.config with noise := ⟨.none, .none, .none, .none, .none, .none⟩ }

/-- A simulation after the tick that opens the link. -/
def opened (b : Bridge (ScriptedLink Float) Float) : Simulation (ScriptedLink Float) Float :=
  (step ⟨Call.apply b (.resolve (some resolved) 0), .new VehicleSettings.default⟩).2

/-- The link is open and its autopilot answers at once. A pause between two messages counts as a gap. -/
theorem exists_opened :
    ∃ b, Bridge.configure quiet answering Trial.names = .ok b ∧
      let s := opened b
      let pauses := (pausing (ScriptedLink Float) Float).run s [false, true, false]
      let goesOn := (pausing (ScriptedLink Float) Float).run s [false, false]
      (s.Ready ∧ s.bridge.connection.link.Alike s.bridge.connection.link ∧ s.bridge.connection.link.IsPrompt)
        ∧ s.bridge.scheduler.imuStep = some 1 ∧ s.bridge.diagnostics.imuSeqGaps = 0
        ∧ pauses.2.map (·.numbers) = [[1], [], [3]] ∧ pauses.1.bridge.diagnostics.imuSeqGaps = 1
        ∧ goesOn.2.map (·.numbers) = [[1], [2]] ∧ goesOn.1.bridge.diagnostics.imuSeqGaps = 0 := by
  have hruns : (Bridge.configure quiet answering Trial.names).toOption.map (fun b =>
      let s := opened b
      let pauses := (pausing (ScriptedLink Float) Float).run s [false, true, false]
      let goesOn := (pausing (ScriptedLink Float) Float).run s [false, false]
      decide ((s.vehicle.fault = false ∧ s.bridge.connection.link.isOpen = true
          ∧ s.vehicle.settings.gyroNoise.isRandom = false ∧ s.vehicle.settings.accelerationNoise.isRandom = false)
        ∧ s.bridge.scheduler.imuStep = some 1 ∧ s.bridge.diagnostics.imuSeqGaps = 0
        ∧ pauses.2.map (·.numbers) = [[1], [], [3]] ∧ pauses.1.bridge.diagnostics.imuSeqGaps = 1
        ∧ goesOn.2.map (·.numbers) = [[1], [2]] ∧ goesOn.1.bridge.diagnostics.imuSeqGaps = 0)) = some true := by
    decide +kernel
  obtain ⟨b, hb, hfacts⟩ := Trial.exists_of_map hruns
  obtain ⟨⟨hfault, hopen, hgyro, hacceleration⟩, hnumbers⟩ := of_decide_eq_true hfacts
  refine ⟨b, hb, ?_, hnumbers⟩
  have hstart := inStep_resolve (v := .new VehicleSettings.default) rfl hb isPrompt_answering
    (show resolved.state = _ from rfl) 0 rfl (by decide)
  obtain ⟨-, -, hafter⟩ := hstart.step ScriptedLink.promptLink (by decide) hfault
  have hprompt : (opened b).bridge.connection.link.IsPrompt := hafter.bridge.connection.link
  exact ⟨⟨⟨hafter.bridge.connection.running, hopen, hafter.bridge.synced⟩, hafter.bridge.assembler.notAfter,
    hafter.bridge.assembler.inOrder, hgyro, hacceleration⟩, ⟨rfl, hopen, hprompt.sends, hprompt.stays⟩, hprompt⟩

/-- What the two runs have in common, and how many gaps there are in the first one. -/
theorem one_pause_is_one_gap :
    ∃ b, Bridge.configure quiet answering Trial.names = .ok b ∧
      let s := opened b
      let pauses := (pausing (ScriptedLink Float) Float).run s [false, true, false]
      let goesOn := (pausing (ScriptedLink Float) Float).run s [false, false]
      Unfailing (ScriptedLink.Alike : ScriptedLink Float → ScriptedLink Float → Prop) ∧ s.Ready
        ∧ s.bridge.connection.link.Alike s.bridge.connection.link
        ∧ pauses.2.map (·.paused) = [false, true, false]
        ∧ (awake pauses.2).map TickRecord.unnumbered = (awake goesOn.2).map TickRecord.unnumbered
        ∧ { pauses.1.bridge.diagnostics with imuSeqGaps := 0 } = { goesOn.1.bridge.diagnostics with imuSeqGaps := 0 }
        ∧ pauses.1.bridge.diagnostics.imuSeqGaps
          = (stretches s.numberedSince pauses.2).closed.countP fun stretch => UInt8.ofNat stretch.paused != 0 := by
  obtain ⟨b, hb, ⟨hready, halike, -⟩, hstep, hnone, -, -, -, hgaps⟩ := exists_opened
  obtain ⟨hone, htwo⟩ := paused_ticks_show_in_numbers_only ScriptedLink.unfailing hready halike
  obtain ⟨hpaused, -⟩ := hone [false, true, false]
  obtain ⟨hsame, -, hdiagnostics, -, hcount⟩ := htwo [false, true, false] [false, false] rfl
  have hpauses := hcount (by decide) (hgaps.trans hnone.symm) (by rw [hstep]; rfl)
  rw [hnone, Nat.zero_add] at hpauses
  exact ⟨b, hb, ScriptedLink.unfailing, hready, halike, hpaused, hsame, hdiagnostics, hpauses⟩

/-- Messages and counters of a run that pauses and of one that does not are not the same. -/
theorem pausing_is_noticed :
    ∃ b, Bridge.configure quiet answering Trial.names = .ok b ∧
      let s := opened b
      let pauses := (pausing (ScriptedLink Float) Float).run s [false, true, false]
      let goesOn := (pausing (ScriptedLink Float) Float).run s [false, false]
      s.Ready ∧ s.bridge.connection.link.Alike s.bridge.connection.link ∧ s.bridge.connection.link.IsPrompt
        ∧ pauses.2.flatMap (·.sent) ≠ goesOn.2.flatMap (·.sent)
        ∧ pauses.1.bridge.diagnostics ≠ goesOn.1.bridge.diagnostics
        ∧ goesOn.1.bridge.diagnostics.imuSeqGaps = 0 ∧ pauses.1.bridge.diagnostics.imuSeqGaps = 1 := by
  obtain ⟨b, hb, ⟨hready, halike, hprompt⟩, -, -, hpauses, hgap, hgoesOn, hnone⟩ := exists_opened
  refine ⟨b, hb, hready, halike, hprompt, fun hsame => ?_, fun hsame => ?_, hnone, hgap⟩
  · have hnumbers : ∀ log : List (TickRecord Float),
        (log.flatMap (·.sent)).filterMap Message.imuNumber? = (log.map (·.numbers)).flatten := by
      intro log
      rw [List.filterMap_flatMap, ← List.flatMap_def]
      rfl
    have hnot := congrArg (List.filterMap Message.imuNumber?) hsame
    rw [hnumbers, hnumbers, hpauses, hgoesOn] at hnot
    exact absurd hnot (by decide)
  · have hnot := congrArg Diagnostics.imuSeqGaps hsame
    rw [hgap, hnone] at hnot
    exact absurd hnot (by decide)

end Simulation

end HilBridge
