import HilBridge.Proofs.Bridge.Samples
import HilBridge.Proofs.Lockstep.Timetable
import HilBridge.Proofs.Sensor.Pace

/-!
# `HilBridge.Proofs.Bridge.Numbering` — the numbers of inertial reports along the runs of a bridge

To its assembler a call on a bridge is a list of calls (`Call.assembly`): a sample is delivered, the numbering starts
over when the link was opened anew, a planned cycle is assembled. So the log of the numbering is kept along the runs of
a bridge, too, and it is the scheduler that plans the cycles of which it tells.

**Main statement.** `gaps_are_exact`: the count of gaps is exact for every assembler, and in lockstep there are none
where one sample is stored for each cycle and none of them comes late.
-/

namespace HilBridge

variable {L α : Type}

/-! ## Who plans the cycles -/

namespace Scheduler

/-- What the plan of the next cycle depends on, but for its time, is the same. -/
structure SamePace (s t : Scheduler) : Prop where
  mode : t.mode = s.mode
  skipFactor : t.skipFactor = s.skipFactor
  cycles : t.stats.cycles = s.stats.cycles

theorem SamePace.refl (s : Scheduler) : s.SamePace s :=
  ⟨rfl, rfl, rfl⟩

theorem SamePace.trans {s t u : Scheduler} (h : s.SamePace t) (k : t.SamePace u) : s.SamePace u :=
  ⟨k.mode.trans h.mode, k.skipFactor.trans h.skipFactor, k.cycles.trans h.cycles⟩

theorem samePace_onEpoch (s : Scheduler) (epoch : Nat) : s.SamePace (s.onEpoch epoch).2 := by
  unfold onEpoch
  split <;> exact ⟨rfl, rfl, rfl⟩

theorem samePace_heartbeatDue (s : Scheduler) (now : Nat) : s.SamePace (s.heartbeatDue now).2 := by
  unfold heartbeatDue
  split <;> exact ⟨rfl, rfl, rfl⟩

theorem samePace_markSent (s : Scheduler) (now : Nat) (time : Option Nat) : s.SamePace (s.markSent now time) := by
  unfold markSent
  split
  · exact .refl s
  · dsimp only
    split <;> exact ⟨rfl, rfl, rfl⟩

theorem samePace_awaitControls (s : Scheduler) (channel : CommandChannel α) (receivedFirst isShutdown : Bool)
    (bursts : List (Burst α)) :
    s.SamePace (s.awaitControls channel receivedFirst isShutdown bursts).scheduler := by
  have h := s.listened_awaitControls channel receivedFirst isShutdown bursts
  exact ⟨by rw [h.eq], by rw [h.eq], h.cycles⟩

/-- The next cycle is planned and counted, or nothing happens. -/
theorem planCycle_cases (s : Scheduler) (tick : Tick) :
    s.planCycle tick = (none, s)
      ∨ ∃ t, s.planCycle tick = (some (s.cyclePlan s.stats.cycles tick.time), t)
        ∧ t.mode = s.mode ∧ t.skipFactor = s.skipFactor ∧ t.stats.cycles = s.stats.cycles + 1 := by
  unfold planCycle
  split
  · exact .inl rfl
  · exact .inr ⟨_, rfl, rfl, rfl, rfl⟩

/-- In lockstep with a skip factor: who plans every so many cycles for a report. -/
structure Steady (step : UInt8) (cycles : Nat) (s : Scheduler) : Prop where
  isLockstep : s.mode.isLockstep = true
  skipFactor : s.skipFactor = step.toNat
  cycles : s.stats.cycles = cycles

variable {step : UInt8} {cycles : Nat} {s t : Scheduler}

theorem Steady.of_samePace (h : s.Steady step cycles) (hpace : s.SamePace t) : t.Steady step cycles :=
  ⟨hpace.mode ▸ h.isLockstep, hpace.skipFactor.trans h.skipFactor, hpace.cycles.trans h.cycles⟩

theorem Steady.plan (h : s.Steady step cycles) (now : Nat) :
    (s.cyclePlan s.stats.cycles now).sendImu = decide (cycles % step.toNat = 0)
      ∧ (s.cyclePlan s.stats.cycles now).imuStep = some step := by
  have hlockstep := h.isLockstep
  unfold cyclePlan
  cases hmode : s.mode with
  | freeRunning speedFactor =>
    rw [hmode] at hlockstep
    cases hlockstep
  | lockstep timeout =>
    dsimp only
    rw [h.skipFactor, h.cycles, UInt8.ofNat_toNat]
    exact ⟨rfl, rfl⟩

end Scheduler

/-! ## What a bridge does with its assembler -/

namespace Bridge

/-- The numbering starts over if the link was opened anew. -/
def epochCalls (b : Bridge L α) : List (Assembler.Call α) :=
  if b.connection.epoch = b.scheduler.epoch then [] else [.resetSequence]

variable [AutopilotLink L α]

def pollCalls (b : Bridge L α) : List (Assembler.Call α) :=
  (b.mapConnection Connection.pollReady).2.epochCalls

variable [Scalar α]

/-- Polling, and then the cycle that is planned. -/
def postUpdateCalls (b : Bridge L α) (tick : Tick) : List (Assembler.Call α) :=
  if tick.paused || b.connection.isShutdown then []
  else b.pollCalls ++ ((b.planCycle tick).1.map .assemble).toList

end Bridge

namespace Call

variable [Scalar α] [AutopilotLink L α]

/-- What a call on a bridge is to its assembler. -/
def assembly (b : Bridge L α) : Call L α → List (Assembler.Call α)
  | .sample s => [.deliver s]
  | .storeImu s => [.storeImu s]
  | .range link s => [.deliverRange link s]
  | .preUpdate tick _ => if b.connection.isShutdown || tick.paused then [] else b.pollCalls
  | .postUpdate tick => b.postUpdateCalls tick
  | .reconnect => (b.mapConnection Connection.reconnect).2.epochCalls
  | .happen _ => []
  | .resolve .. => []
  | .relink _ => []

/-- What a call means to the numbering. -/
def imuEvents (b : Bridge L α) (call : Call L α) : List (ImuEvent α) :=
  ((Assembler.numbering α).run b.assembler (call.assembly b)).2

end Call

namespace Bridge

variable [Scalar α]

/-- Runs of a bridge with what they mean to the numbering. -/
def numbering (L α : Type) [Scalar α] [AutopilotLink L α] : Recorder (Bridge L α) (Call L α) (ImuEvent α) :=
  ⟨Call.apply, Call.imuEvents⟩

theorem assembler_syncEpoch (b : Bridge L α) :
    b.syncEpoch.assembler = ((Assembler.numbering α).run b.assembler b.epochCalls).1 := by
  unfold syncEpoch Scheduler.onEpoch epochCalls
  split <;> rename_i hsync
  · split at hsync
    · cases hsync
    · rename_i hnew
      rw [if_neg hnew]
      rfl
  · split at hsync
    · rename_i hsame
      rw [if_pos hsame]
      rfl
    · cases hsync

omit [Scalar α] in
theorem samePace_syncEpoch (b : Bridge L α) : b.scheduler.SamePace b.syncEpoch.scheduler := by
  rw [scheduler_syncEpoch]
  exact b.scheduler.samePace_onEpoch _

variable [AutopilotLink L α]

theorem assembler_pollReady (b : Bridge L α) :
    b.pollReady.2.assembler = ((Assembler.numbering α).run b.assembler b.pollCalls).1 :=
  assembler_syncEpoch (b.mapConnection Connection.pollReady).2

omit [Scalar α] in
theorem samePace_pollReady (b : Bridge L α) : b.scheduler.SamePace b.pollReady.2.scheduler :=
  samePace_syncEpoch (b.mapConnection Connection.pollReady).2

theorem preUpdate_numbering (b : Bridge L α) (tick : Tick) (bursts : List (Burst α)) :
    let calls := if b.connection.isShutdown || tick.paused then [] else b.pollCalls
    (b.preUpdate tick bursts).bridge.assembler = ((Assembler.numbering α).run b.assembler calls).1
      ∧ b.scheduler.SamePace (b.preUpdate tick bursts).bridge.scheduler := by
  have hcommand : ∀ (b : Bridge L α) command, (b.applyCommand command).assembler = b.assembler := by
    intro b command
    cases command <;> rfl
  have hawaited : b.scheduler.SamePace (b.pollReady.2.awaitControls bursts).2.1.scheduler :=
    b.samePace_pollReady.trans (Scheduler.samePace_awaitControls ..)
  intro calls
  unfold preUpdate
  by_cases hshutdown : b.connection.isShutdown = true
  · have hcalls : calls = [] := by simp only [calls, hshutdown, Bool.true_or, if_true]
    rw [if_pos hshutdown, hcalls]
    exact ⟨rfl, .refl _⟩
  · by_cases hpaused : tick.paused = true
    · have hcalls : calls = [] := by simp only [calls, hpaused, Bool.or_true, if_true]
      rw [if_neg hshutdown, if_pos hpaused, hcalls]
      exact ⟨rfl, .refl _⟩
    · have hcalls : calls = b.pollCalls := by
        simp only [calls, hshutdown, hpaused, Bool.or_self, Bool.false_eq_true, if_false]
      rw [if_neg hshutdown, if_neg hpaused, hcalls, ← assembler_pollReady]
      dsimp only
      split
      · exact ⟨rfl, hawaited⟩
      · rw [hcommand, scheduler_applyCommand]
        exact ⟨rfl, hawaited⟩

/-- Without a planned cycle the second half of a tick polls the link at most. -/
theorem idle_numbering {b : Bridge L α} {tick : Tick} (h : (b.planCycle tick).1 = none) :
    (b.postUpdate tick).2.assembler = ((Assembler.numbering α).run b.assembler (b.postUpdateCalls tick)).1
      ∧ b.scheduler.SamePace (b.postUpdate tick).2.scheduler := by
  have hplans := b.plans_planCycle tick
  have hcalls : b.postUpdateCalls tick = if tick.paused || b.connection.isShutdown then [] else b.pollCalls := by
    rw [postUpdateCalls, h]
    exact congrArg _ (List.append_nil _)
  rcases hplanned : b.planCycle tick with ⟨plan?, b'⟩
  rw [hplanned] at h hplans
  rw [hcalls, postUpdate]
  cases hplans with
  | idle hidle =>
    rw [tickEnd_of_unplanned hplanned, if_pos hidle]
    exact ⟨rfl, .refl _⟩
  | closed hrunning | repeated hrunning =>
    rw [tickEnd_of_unplanned hplanned, hrunning]
    exact ⟨b.assembler_pollReady, b.samePace_pollReady⟩
  | cycle => cases h

/-- A planned cycle is assembled after the link was polled, and it is counted. -/
theorem cycle_numbering {b b' : Bridge L α} {tick : Tick} {plan : CyclePlan}
    (h : b.planCycle tick = (some plan, b')) {step : UInt8} {cycles : Nat}
    (hsteady : b.scheduler.Steady step cycles) :
    b.postUpdateCalls tick = b.pollCalls ++ [.assemble plan]
      ∧ (b.postUpdate tick).2.assembler
        = (((Assembler.numbering α).run b.assembler b.pollCalls).1.assemble plan).2
      ∧ plan.sendImu = decide (cycles % step.toNat = 0) ∧ plan.imuStep = some step
      ∧ (b.postUpdate tick).2.scheduler.Steady step (cycles + 1) := by
  have hpolled := hsteady.of_samePace b.samePace_pollReady
  obtain ⟨hrunning, hplan, -, hassembler⟩ := planCycle_eq_some h
  rw [b.assembler_pollReady] at hassembler
  have hcalls : b.postUpdateCalls tick = b.pollCalls ++ [.assemble plan] := by
    rw [postUpdateCalls, h, hrunning]
    rfl
  rcases b.pollReady.2.scheduler.planCycle_cases tick with hnone | ⟨t, hsome, hmode, hskip, hcycles⟩
  · rw [hplan] at hnone
    cases hnone
  · obtain ⟨hplan, ht⟩ := Prod.mk.inj (hplan.symm.trans hsome)
    obtain ⟨hsend, hstep⟩ := hpolled.plan tick.time
    rw [← Option.some.inj hplan] at hsend hstep
    have ht : b'.scheduler.Steady step (cycles + 1) := by
      rw [ht]
      exact ⟨hmode ▸ hpolled.isLockstep, hskip.trans hpolled.skipFactor, by rw [hcycles, hpolled.cycles]⟩
    rw [postUpdate, tickEnd_of_planned h]
    refine ⟨hcalls, ?_, hsend, hstep, ?_⟩
    · rw [← hassembler]
      rfl
    · exact ht.of_samePace ((b'.scheduler.samePace_heartbeatDue _).trans (Scheduler.samePace_markSent _ _ _))

/-! ## Runs in pace -/

/-- A bridge in lockstep whose assembler is in pace with the cycles that were planned. -/
structure InPace (step : UInt8) (log : List (ImuEvent α)) (b : Bridge L α) : Prop where
  steady : b.scheduler.Steady step b.scheduler.stats.cycles
  paced : b.assembler.Paced step b.scheduler.stats.cycles log

/-- A call that plans no cycle comes to calls on the assembler that assemble nothing. -/
theorem InPace.quiet {step : UInt8} {log : List (ImuEvent α)} {b : Bridge L α} (h : b.InPace step log)
    (call : Call L α) (hpace : b.scheduler.SamePace (call.apply b).scheduler)
    (hassembler : (call.apply b).assembler = ((Assembler.numbering α).run b.assembler (call.assembly b)).1)
    (hcalls : ∀ made ∈ call.assembly b, ∀ plan, made ≠ .assemble plan) :
    (call.apply b).InPace step (log ++ call.imuEvents b) := by
  constructor
  · rw [hpace.cycles]
    exact h.steady.of_samePace hpace
  · rw [hassembler, hpace.cycles]
    exact h.paced.calls (call.assembly b) hcalls

omit [Scalar α] [AutopilotLink L α] in
theorem not_assemble_of_mem_epochCalls {b : Bridge L α} {call : Assembler.Call α} (h : call ∈ b.epochCalls)
    (plan : CyclePlan) : call ≠ .assemble plan := by
  unfold epochCalls at h
  split at h
  · cases h
  · rw [List.mem_singleton.mp h]
    nofun

theorem InPace.call {step : UInt8} {log : List (ImuEvent α)} {b : Bridge L α} (h : b.InPace step log)
    (hstep : 0 < step.toNat) (call : Call L α) : (call.apply b).InPace step (log ++ call.imuEvents b) := by
  cases call with
  | sample s =>
    refine h.quiet (.sample s) (.refl _) rfl fun made hmem plan => ?_
    obtain rfl : made = .deliver s := List.mem_singleton.mp hmem
    nofun
  | storeImu s =>
    refine h.quiet (.storeImu s) (.refl _) rfl fun made hmem plan => ?_
    obtain rfl : made = .storeImu s := List.mem_singleton.mp hmem
    nofun
  | range link s =>
    refine h.quiet (.range link s) (.refl _) rfl fun made hmem plan => ?_
    obtain rfl : made = .deliverRange link s := List.mem_singleton.mp hmem
    nofun
  | happen events => exact h.quiet (.happen events) (.refl _) rfl nofun
  | resolve resolver moment => exact h.quiet (.resolve resolver moment) (.refl _) rfl nofun
  | relink change => exact h.quiet (.relink change) (.refl _) rfl nofun
  | reconnect =>
    exact h.quiet .reconnect (samePace_syncEpoch (b.mapConnection Connection.reconnect).2) (assembler_syncEpoch _)
      fun made hmem => not_assemble_of_mem_epochCalls hmem
  | preUpdate tick bursts =>
    obtain ⟨hassembler, hpace⟩ := b.preUpdate_numbering tick bursts
    refine h.quiet (.preUpdate tick bursts) hpace hassembler fun made hmem => ?_
    have hpolls : made ∈ if b.connection.isShutdown || tick.paused then [] else b.pollCalls := hmem
    split at hpolls
    · cases hpolls
    · exact not_assemble_of_mem_epochCalls hpolls
  | postUpdate tick =>
    rcases hplanned : b.planCycle tick with ⟨_ | plan, b'⟩
    · have hnone : (b.planCycle tick).1 = none := congrArg Prod.fst hplanned
      obtain ⟨hassembler, hpace⟩ := idle_numbering hnone
      refine h.quiet (.postUpdate tick) hpace hassembler fun made hmem => ?_
      have hpolls : made ∈ b.postUpdateCalls tick := hmem
      unfold postUpdateCalls at hpolls
      rw [hnone] at hpolls
      split at hpolls
      · cases hpolls
      · have hpolls : made ∈ b.pollCalls ++ [] := hpolls
        rw [List.append_nil] at hpolls
        exact not_assemble_of_mem_epochCalls hpolls
    · obtain ⟨hcalls, hassembler, hsend, hexpects, hsteady⟩ := cycle_numbering hplanned h.steady
      have hpolled := h.paced.calls b.pollCalls fun call hmem => not_assemble_of_mem_epochCalls hmem
      have hcycles : (b.postUpdate tick).2.scheduler.stats.cycles = b.scheduler.stats.cycles + 1 := hsteady.cycles
      constructor
      · show (b.postUpdate tick).2.scheduler.Steady step (b.postUpdate tick).2.scheduler.stats.cycles
        rw [hcycles]
        exact hsteady
      · show (b.postUpdate tick).2.assembler.Paced step (b.postUpdate tick).2.scheduler.stats.cycles _
        rw [hcycles, hassembler, Call.imuEvents, Call.assembly, hcalls, Recorder.run_concat, Recorder.step,
          ← List.append_assoc]
        exact hpolled.assemble hstep hsend hexpects

omit [AutopilotLink L α] in
theorem inPace_configure {c : Config α} {link : L} {names : NameService} {b : Bridge L α}
    (hb : configure c link names = .ok b) (hlockstep : c.lockstep = true) : b.InPace c.skipFactor [] := by
  obtain ⟨hvalid, dispatcher, rfl⟩ := eq_of_configure hb
  constructor
  · refine ⟨?_, Nat.max_eq_left hvalid.skipFactor_pos, rfl⟩
    show (TimeMode.ofConfig c).isLockstep = true
    rw [TimeMode.ofConfig, if_pos hlockstep]
    rfl
  · exact Assembler.paced_new c.skipFactor 0 c _

theorem inPace_run {step : UInt8} {b : Bridge L α} (h : b.InPace step []) (hstep : 0 < step.toNat)
    (calls : List (Call L α)) : ((numbering L α).run b calls).1.InPace step ((numbering L α).run b calls).2 := by
  refine (numbering L α).run_induction (P := fun b log => b.InPace step log) h (fun b log call h => ?_) calls
  exact h.call hstep call

/-! ## The theorem -/

open ImuEvent

/--
**The count of gaps is exact.** Where all cycles expect the same step, as many gaps are counted as there are two
reports in a row, with no restart between them, that are not as many samples apart, modulo 256; each report is that of
the sample stored last before it. In lockstep, where one sample is stored from each cycle to the next and none is older
than the last report when the report of its cycle is due, two reports in a row are as many samples and numbers apart as
the skip factor says, and there is no gap.
-/
theorem gaps_are_exact :
    (∀ (c : Config α) (links : List RangeLink) (step : UInt8) (calls : List (Assembler.Call α)),
      (∀ call ∈ calls, call.Expects step) →
      let r := (Assembler.numbering α).run (.new c links) calls
      r.1.stats.imuSeqGaps = (spans report? r.2).closed.countP (fun span => span.stores % 256 ≠ step.toNat)
        ∧ Assembler.Made c.assembly r.2)
    ∧ ∀ (c : Config α) (link : L) (names : NameService) (b : Bridge L α) (calls : List (Call L α)),
      configure c link names = .ok b → c.lockstep = true →
      let r := (numbering L α).run b calls
      OncePerCycle r.2 → Punctual r.2 →
        (∀ span ∈ (spans report? r.2).closed,
          span.stores = c.skipFactor.toNat ∧ span.last.value.seq - span.first.value.seq = c.skipFactor)
        ∧ r.1.assembler.stats.imuSeqGaps = 0 := by
  constructor
  · intro c links step calls hcalls r
    have htracks : r.1.Tracks step r.2 := Assembler.tracks_run (Assembler.tracks_new step c links) calls hcalls
    have hsettings : r.1.settings = c.assembly := Assembler.settings_run (.new c links) calls
    refine ⟨htracks.gaps, ?_⟩
    rw [← hsettings]
    exact htracks.made
  · intro c link names b calls hb hlockstep r hone hpunctual
    have hvalid := (eq_of_configure hb).1
    have hpace : r.1.InPace c.skipFactor r.2 :=
      inPace_run (inPace_configure hb hlockstep) hvalid.skipFactor_pos calls
    have hphase := hpace.paced.phase hone hpunctual
    refine ⟨fun span hspan => ⟨hphase.apart span hspan, ?_⟩, ?_⟩
    · rw [hpace.paced.tracks.advance span hspan, hphase.apart span hspan, UInt8.ofNat_toNat]
    · rw [hpace.paced.tracks.gaps, List.countP_eq_zero]
      intro span hspan
      have hbyte : c.skipFactor.toNat % 256 = c.skipFactor.toNat := Nat.mod_eq_of_lt c.skipFactor.toNat_lt
      rw [hphase.apart span hspan, hbyte]
      simp

/-- A sample for the store. -/
def still (time : Nat) : Stamped (ImuReading Float) :=
  ⟨time, ⟨0.0, 0.0, 0.0⟩, ⟨0.0, 0.0, 9.8⟩⟩

/-- A sample is stored, and then a cycle planned. -/
def oneCycle (time : Nat) (sample : Nat) : List (Call (ScriptedLink Float) Float) :=
  [.storeImu (still sample), .postUpdate (Trial.tick time)]

/-- Between two cycles two samples are stored. -/
def twoBetween : List (Assembler.Call Float) :=
  [.storeImu (still 4000), .assemble ⟨4000, true, some 1⟩, .storeImu (still 8000), .storeImu (still 12000),
    .assemble ⟨12000, true, some 1⟩]

/-- Two samples for a report are one too many for a step of one. With a skip factor of two they are not. -/
theorem two_samples_for_a_report :
    ((Assembler.numbering Float).run (.new .default []) twoBetween).1.stats.imuSeqGaps = 1
    ∧ ∃ b, configure { Trial.config with skipFactor := 2 } Trial.link Trial.names = .ok b ∧
      let calls := Trial.opening ++ oneCycle 4000 4000 ++ oneCycle 8000 8000 ++ oneCycle 12000 12000
      let r := (numbering (ScriptedLink Float) Float).run b calls
      (spans report? r.2).closed.map (fun span => (span.first.value.seq, span.last.value.seq)) = [(0, 2)]
        ∧ r.1.assembler.stats.imuSeqGaps = 0 := by
  constructor
  · have hcalls : ∀ call ∈ twoBetween, call.Expects 1 := by simp [twoBetween, Assembler.Call.Expects]
    have hexact := (gaps_are_exact (L := ScriptedLink Float)).1 .default [] 1 twoBetween hcalls
    rw [hexact.1]
    decide +kernel
  · have hrun : (configure { Trial.config with skipFactor := 2 } Trial.link Trial.names).toOption.map (fun b =>
        let calls := Trial.opening ++ oneCycle 4000 4000 ++ oneCycle 8000 8000 ++ oneCycle 12000 12000
        let r := (numbering (ScriptedLink Float) Float).run b calls
        (decide (OncePerCycle r.2), decide (Punctual r.2),
          (spans report? r.2).closed.map fun span => (span.first.value.seq, span.last.value.seq)))
        = some (true, true, [(0, 2)]) := by
      decide +kernel
    obtain ⟨b, hb, hvalues⟩ := Trial.exists_of_map hrun
    simp only [Prod.mk.injEq, decide_eq_true_eq] at hvalues
    obtain ⟨hone, hpunctual, hreports⟩ := hvalues
    refine ⟨b, hb, hreports, ?_⟩
    exact (gaps_are_exact.2 _ _ _ b _ hb rfl hone hpunctual).2

/-- A sample that is older than the last report is dropped when its own is due, and the next one leaves a gap. -/
theorem gap_behind_a_dropped_sample :
    ∃ b, configure Trial.config Trial.link Trial.names = .ok b ∧
      let calls := Trial.opening ++ oneCycle 8000 8000 ++ oneCycle 12000 4000 ++ oneCycle 16000 16000
      let r := (numbering (ScriptedLink Float) Float).run b calls
      OncePerCycle r.2
        ∧ (spans report? r.2).closed.map (fun span => (span.first.value.seq, span.last.value.seq)) = [(0, 2)]
        ∧ r.1.assembler.stats.imuSeqGaps = 1 := by
  have hrun : (configure Trial.config Trial.link Trial.names).toOption.map (fun b =>
      let calls := Trial.opening ++ oneCycle 8000 8000 ++ oneCycle 12000 4000 ++ oneCycle 16000 16000
      let r := (numbering (ScriptedLink Float) Float).run b calls
      (decide (OncePerCycle r.2),
        (spans report? r.2).closed.map (fun span => (span.first.value.seq, span.last.value.seq)),
        r.1.assembler.stats.imuSeqGaps)) = some (true, [(0, 2)], 1) := by
    decide +kernel
  obtain ⟨b, hb, hvalues⟩ := Trial.exists_of_map hrun
  simp only [Prod.mk.injEq, decide_eq_true_eq] at hvalues
  exact ⟨b, hb, hvalues⟩

end Bridge

end HilBridge
