import HilBridge.Proofs.Lockstep.AfterCall
import HilBridge.Proofs.Sensor.ValidNoise
import HilBridge.Proofs.Simulation.Faults
import HilBridge.Proofs.Simulation.PromptLink

/-!
# `HilBridge.Proofs.Simulation.ClosedLoop` — a vehicle, a bridge and an autopilot that keeps up

In lockstep over a prompt link everything a simulation does repeats with the skip factor: the inertial report
goes out in every so many ticks, its answer is unread until the next tick, and that one takes it without
waiting.

Scheduler, connection and assembler each have their part of the invariant, and `Bridge.InStep` puts them
together. Between two ticks it is known how many ticks there have been, how many inertial samples were numbered
since the last report, and whether an answer is unread (`Simulation.InStep`).

**Main statement.** `run_in_step`: the outcome of every tick is known, nothing is ever late, lost or waited for.
-/

namespace HilBridge

variable {L α : Type}

/-! ## The scheduler -/

namespace Scheduler

/-- Nothing has gone wrong in so many cycles, and no cycle was planned for later than a moment. -/
structure InStep (timeout skip cycles now : Nat) (s : Scheduler) : Prop where
  mode : s.mode = .lockstep timeout
  skip : s.skipFactor = skip
  cycles : s.stats.cycles = cycles
  timeouts : s.stats.timeouts = 0
  late : s.stats.late = 0
  degraded : s.stats.degraded = false
  planned : ∀ time ∈ s.lastPlanned, time ≤ now

/-- Whether an answer to the last report is unread. If not, none is awaited. -/
inductive Expects (s : Scheduler) (channel : CommandChannel α) : Bool → Prop where
  | answer (command : Command α) (unread : channel.unread = some command) (answers : s.answers command = true) :
    Expects s channel true
  | nothing (unread : channel.unread = none) (awaiting : s.awaiting = false) : Expects s channel false

namespace InStep

variable {timeout skip cycles now : Nat} {s : Scheduler}

theorem acknowledge (h : s.InStep timeout skip cycles now) : s.acknowledge.InStep timeout skip cycles now :=
  ⟨h.mode, h.skip, h.cycles, h.timeouts, h.late, rfl, h.planned⟩

theorem onEpoch (h : s.InStep timeout skip cycles now) (epoch : Nat) :
    (s.onEpoch epoch).2.InStep timeout skip cycles now := by
  unfold Scheduler.onEpoch
  split
  · exact h
  · exact ⟨h.mode, h.skip, h.cycles, h.timeouts, h.late, rfl, h.planned⟩

theorem heartbeatDue (h : s.InStep timeout skip cycles now) (time : Nat) :
    (s.heartbeatDue time).2.InStep timeout skip cycles now := by
  unfold Scheduler.heartbeatDue
  split
  · exact ⟨h.mode, h.skip, h.cycles, h.timeouts, h.late, h.degraded, h.planned⟩
  · exact h

/-- A later tick has a cycle, in which it reports once every so many times. -/
theorem planCycle (h : s.InStep timeout skip cycles now) {tick : Tick} (hpaused : tick.paused = false)
    (hlater : now < tick.time) :
    ∃ s', s.planCycle tick = (some ⟨tick.time, decide (cycles % skip = 0), some (UInt8.ofNat skip)⟩, s')
      ∧ s'.InStep timeout skip (cycles + 1) tick.time := by
  -- every earlier plan was for an earlier time, so this one was not planned before
  have hnew : (s.lastPlanned == some tick.time) = false := by
    rw [beq_eq_false_iff_ne]
    exact fun hsame => absurd (h.planned tick.time hsame) (Nat.not_le.mpr hlater)
  refine ⟨{ s with stats.cycles := s.stats.cycles + 1, lastPlanned := some tick.time }, ?_, ?_⟩
  · simp [Scheduler.planCycle, hpaused, hnew, cyclePlan, h.mode, h.skip, h.cycles]
  · refine ⟨h.mode, h.skip, congrArg (· + 1) h.cycles, h.timeouts, h.late, h.degraded, fun time htime => ?_⟩
    exact Nat.le_of_eq (Option.some.inj htime).symm

theorem markSent (h : s.InStep timeout skip cycles now) (time : Nat) (imuTime : Option Nat) :
    (s.markSent time imuTime).InStep timeout skip cycles now := by
  unfold Scheduler.markSent
  cases imuTime with
  | none => exact h
  | some time =>
    dsimp only
    split <;> exact ⟨h.mode, h.skip, h.cycles, h.timeouts, h.late, h.degraded, h.planned⟩

end InStep

/-- What is unread answers a scheduler that has forgotten its reports, too. -/
theorem Expects.onEpoch {s : Scheduler} {channel : CommandChannel α} {unread : Bool}
    (h : s.Expects channel unread) (epoch : Nat) : (s.onEpoch epoch).2.Expects channel unread := by
  unfold Scheduler.onEpoch
  split
  · exact h
  · cases h with
    | answer command unread answers => exact .answer command unread rfl
    | nothing unread awaiting => exact .nothing unread rfl

end Scheduler

/-! ## The bridge -/

namespace Bridge

/-- The parts of a bridge are in step with each other. -/
structure InStep (good : L → Prop) (moment timeout skip cycles now ahead : Nat) (unread : Bool)
    (b : Bridge L α) : Prop where
  scheduler : b.scheduler.InStep timeout skip cycles now
  connection : b.connection.Serves good moment
  synced : b.scheduler.epoch = b.connection.epoch
  assembler : b.assembler.InStep now ahead
  expects : b.scheduler.Expects b.connection.channel unread

namespace InStep

variable [Scalar α] {good : L → Prop} {moment timeout skip cycles now ahead : Nat} {unread : Bool}
  {b : Bridge L α}

/-- The parts stay in step when the scheduler learns of an opening, and then it knows the epoch. -/
theorem syncEpoch {b : Bridge L α} (hscheduler : b.scheduler.InStep timeout skip cycles now)
    (hconnection : b.connection.Serves good moment) (hassembler : b.assembler.InStep now ahead)
    (hexpects : b.scheduler.Expects b.connection.channel unread) :
    b.syncEpoch.InStep good moment timeout skip cycles now ahead unread where
  scheduler := by
    rw [scheduler_syncEpoch]
    exact hscheduler.onEpoch _
  connection := by rwa [connection_syncEpoch]
  synced := by
    rw [scheduler_syncEpoch, connection_syncEpoch, Scheduler.onEpoch]
    split
    · exact Eq.symm ‹_›
    · rfl
  assembler := by
    unfold Bridge.syncEpoch
    split
    · exact hassembler.resetSequence
    · exact hassembler
  expects := by
    rw [scheduler_syncEpoch, connection_syncEpoch]
    exact hexpects.onEpoch _

variable [AutopilotLink L α]

/-- The link is open or opens; what is forgotten then was not needed. -/
theorem pollReady (h : b.InStep good moment timeout skip cycles now ahead unread) (hprompt : PromptLink good) :
    ∃ b', b.pollReady = (true, b') ∧ b'.InStep good moment timeout skip cycles now ahead unread
      ∧ AutopilotLink.isOpen b'.connection.link = true := by
  obtain ⟨c, hpoll, hserves, hopen, hchannel⟩ := h.connection.pollReady hprompt
  refine ⟨{ b with connection := c }.syncEpoch, by simp only [Bridge.pollReady, mapConnection, hpoll], ?_, ?_⟩
  · refine syncEpoch h.scheduler hserves h.assembler ?_
    rw [hchannel]
    exact h.expects
  · rw [connection_syncEpoch]
    exact hopen

omit [Scalar α] in
/-- An unread answer is taken, and otherwise there is nothing to wait for. -/
theorem awaitControls (h : b.InStep good moment timeout skip cycles now ahead unread) :
    let r := b.awaitControls []
    r.1.status = (if unread then .acknowledged else .holding) ∧ r.2.2 = []
      ∧ r.2.1.InStep good moment timeout skip cycles now ahead false
      ∧ r.2.1.connection.link = b.connection.link := by
  have hmode := h.scheduler.mode
  have hcall : (b.awaitControls []).1
      = b.scheduler.awaitControls b.connection.channel b.dispatcher.receivedFirst false [] := by
    rw [← h.connection.running]
    rfl
  -- either way there is no wait, and nothing is awaited afterwards
  obtain ⟨command, scheduler, channel, hresult, hscheduler, hawaiting, hepoch⟩ :
      ∃ command scheduler channel, (b.awaitControls []).1
          = ⟨if unread then .acknowledged else .holding, command, scheduler, channel, false, 0, []⟩
        ∧ scheduler.InStep timeout skip cycles now ∧ scheduler.awaiting = false
        ∧ scheduler.epoch = b.scheduler.epoch := by
    rw [hcall]
    cases h.expects with
    | answer command hunread hanswers =>
      obtain ⟨channel, hr⟩ := Scheduler.awaitControls_answered hmode h.connection.channelOpen hunread hanswers
        b.dispatcher.receivedFirst []
      exact ⟨some command, _, channel, hr, h.scheduler.acknowledge, rfl, rfl⟩
    | nothing hunread hawaiting =>
      exact ⟨none, _, _, Scheduler.awaitControls_nothing hmode hawaiting hunread b.dispatcher.receivedFirst [],
        h.scheduler, hawaiting, rfl⟩
  have hafter := b.afterCall h.connection.channelOpen []
  rw [hresult] at hafter
  have hbridge : (b.awaitControls []).2.1 =
      { b with
        scheduler
        connection := { b.connection with channel, isShutdown := b.connection.isShutdown || false } } := by
    show ({ b with
      scheduler := (b.awaitControls []).1.scheduler
      connection := { b.connection with
        channel := (b.awaitControls []).1.channel
        isShutdown := b.connection.isShutdown || (b.awaitControls []).1.isShutdown
        now := b.connection.now + (b.awaitControls []).1.waited } } : Bridge L α) = _
    rw [hresult]
    rfl
  intro r
  refine ⟨by rw [hresult], ?_, ?_, by rw [hbridge]⟩
  · simp [r, Bridge.awaitControls, Burst.countedFrom]
  · rw [hbridge]
    exact
      { scheduler := hscheduler
        connection := ⟨h.connection.link, by simp [h.connection.running], hafter.closed, h.connection.resolved,
          h.connection.now⟩
        synced := hepoch.trans h.synced
        assembler := h.assembler
        expects := .nothing (hafter.drained rfl) hawaiting }

/-- A tick takes the answer if there is one, and does not wait. -/
theorem preUpdate (h : b.InStep good moment timeout skip cycles now ahead unread) (hprompt : PromptLink good)
    (tick : Tick) (hpaused : tick.paused = false) :
    let start := b.preUpdate tick []
    start.status = (if unread then .acknowledged else .holding) ∧ start.ahead = []
      ∧ start.bridge.InStep good moment timeout skip cycles now ahead false
      ∧ AutopilotLink.isOpen start.bridge.connection.link = true := by
  obtain ⟨b', hpoll, h', hopen⟩ := h.pollReady hprompt
  obtain ⟨hstatus, hahead, hstep, hlink⟩ := h'.awaitControls
  -- applying the command touches the dispatcher, which no part of the invariant is about
  have hrunning : (b'.awaitControls []).1.status ≠ .shutdown := by
    rw [hstatus]
    split <;> nofun
  have happlied : ∀ command, (b'.awaitControls []).2.1.applyCommand command
      |>.InStep good moment timeout skip cycles now ahead false := fun command => by
    cases command <;> exact ⟨hstep.scheduler, hstep.connection, hstep.synced, hstep.assembler, hstep.expects⟩
  have hstart : b.preUpdate tick [] =
      let r := b'.awaitControls []
      let after := r.2.1.applyCommand r.1.command
      ⟨r.1.status, after.dispatcher.outputs.publications, after, r.2.2⟩ := by
    simp only [Bridge.preUpdate, h.connection.running, hpaused, Bool.false_eq_true, if_false, hpoll, if_neg hrunning]
  rw [hstart]
  refine ⟨hstatus, hahead, happlied _, ?_⟩
  dsimp only
  rw [connection_applyCommand, hlink]
  exact hopen

omit [Scalar α] in
/-- While the link is open and the epoch known, polling changes nothing. -/
theorem pollReady_of_open (hrunning : b.connection.isShutdown = false)
    (hopen : AutopilotLink.isOpen b.connection.link = true) (hsynced : b.scheduler.epoch = b.connection.epoch) :
    b.pollReady = (true, b) := by
  have hpoll : b.connection.pollReady = (true, b.connection) := by
    simp [Connection.pollReady, hrunning, hopen]
  simp only [Bridge.pollReady, mapConnection, hpoll, Bridge.syncEpoch, Scheduler.onEpoch, hsynced, if_true]

/-- The messages of a cycle go out, and if a report was among them, its answer is unread. -/
theorem runCycle (hprompt : PromptLink good) (hscheduler : b.scheduler.InStep timeout skip cycles now)
    (hconnection : b.connection.Serves good moment) (hopen : AutopilotLink.isOpen b.connection.link = true)
    (hsynced : b.scheduler.epoch = b.connection.epoch) (hidle : b.scheduler.Expects b.connection.channel false)
    {plan : CyclePlan} (hassembled : (b.assembler.assemble plan).2.InStep now ahead)
    (htimes : Assembler.imuTimes (b.assembler.assemble plan).1 = if plan.sendImu then [now] else []) :
    (b.runCycle plan).bridge.InStep good moment timeout skip cycles now ahead plan.sendImu := by
  have hscheduler' := hscheduler.heartbeatDue plan.now
  have honward := b.scheduler.onward_heartbeatDue plan.now
  rcases hbeat : b.scheduler.heartbeatDue plan.now with ⟨beat, scheduler⟩
  rcases hassemble : b.assembler.assemble plan with ⟨reports, assembler⟩
  rw [hbeat] at hscheduler' honward
  rw [hassemble] at hassembled htimes
  dsimp only at hscheduler' honward hassembled htimes
  obtain ⟨c, hsend, hserves, -, hepoch, hanswered⟩ := hconnection.sendAll hprompt hopen
    ((if beat then [Message.heartbeat] else []) ++ reports.map .report)
  have hsent : ((if beat then [Message.heartbeat] else []) ++ reports.map Message.report).filterMap
      Message.imuTime? = if plan.sendImu then [now] else [] := by
    rw [← htimes, List.filterMap_append]
    cases beat <;> rfl
  rw [hsent] at hanswered
  have hcycle : (b.runCycle plan).bridge =
      { b with
        connection := c
        assembler
        scheduler := scheduler.markSent plan.now (if plan.sendImu then [now] else []).getLast?
        messagesSent := b.messagesSent
          + ((if beat then [Message.heartbeat] else []) ++ reports.map Message.report).length } := by
    simp only [Bridge.runCycle, cycleMessages, hbeat, hassemble, hsend, hsent]
  rw [hcycle]
  -- nothing was unread or awaited before, so what is now is the answer to this cycle's report, if it has one
  cases hidle with
  | nothing hunread hawaiting =>
  refine ⟨hscheduler'.markSent _ _, hserves, ?_, hassembled, ?_⟩
  · dsimp only
    rw [Scheduler.epoch_markSent, honward.epoch, hsynced, hepoch]
  · cases hplan : plan.sendImu with
    | true =>
      rw [hplan] at hanswered
      obtain ⟨command, hcommand, htime⟩ := hanswered
      have hlast : (scheduler.markSent plan.now (some now)).lastSend = some now := by
        rw [Scheduler.lastSend_markSent _ _ _ (by rw [hscheduler'.mode]; rfl)]
        rfl
      refine .answer command hcommand (Scheduler.answers_eq_true_iff.mpr fun time hmem => ?_)
      obtain rfl := Option.some.inj (hlast.symm.trans hmem)
      exact Nat.le_of_eq htime.symm
    | false =>
      rw [hplan] at hanswered
      exact .nothing (hanswered.trans hunread) (honward.awaiting.trans hawaiting)

/-- The samples of a later tick are sent when it is their turn, and then the answer is unread. -/
theorem tickEnd (h : b.InStep good moment timeout skip cycles now ahead false) (hprompt : PromptLink good)
    (hopen : AutopilotLink.isOpen b.connection.link = true) (tick : Tick) (hpaused : tick.paused = false)
    (hlater : now < tick.time) {a : Assembler α} (hfed : Assembler.Fed tick.time b.assembler a)
    (hround : cycles % skip = 0 → ahead = skip) :
    ({ b with assembler := a }.tickEnd tick).bridge.InStep good moment timeout skip (cycles + 1) tick.time
      (if cycles % skip = 0 then 1 else ahead + 1) (decide (cycles % skip = 0)) := by
  obtain ⟨scheduler, hplan, hscheduler⟩ := h.scheduler.planCycle hpaused hlater
  have honward := b.scheduler.onward_planCycle tick
  rw [hplan] at honward
  have hpoll := pollReady_of_open (b := { b with assembler := a }) h.connection.running hopen h.synced
  have hend : { b with assembler := a }.tickEnd tick = Bridge.runCycle { b with assembler := a, scheduler }
      ⟨tick.time, decide (cycles % skip = 0), some (UInt8.ofNat skip)⟩ := by
    refine Bridge.tickEnd_of_planned ?_
    simp only [Bridge.planCycle, h.connection.running, hpaused, Bool.or_self, Bool.false_eq_true, if_false,
      hpoll, hplan]
  obtain ⟨hassembled, htimes⟩ := h.assembler.cycle (Nat.le_of_lt hlater) hfed
    ⟨tick.time, decide (cycles % skip = 0), some (UInt8.ofNat skip)⟩ fun hsend => by
      rw [hround (of_decide_eq_true hsend)]
  rw [hend]
  have hstep := runCycle (b := { b with assembler := a, scheduler }) hprompt hscheduler h.connection hopen
    (honward.epoch.trans h.synced) ?_ hassembled htimes
  · simpa only [decide_eq_true_eq] using hstep
  · cases h.expects with
    | nothing hunread hawaiting => exact .nothing hunread (honward.awaiting.trans hawaiting)

end InStep

end Bridge

/-! ## The simulation -/

namespace Simulation

/-- Whether the tick with a number, counted from 0, finds the answer to a report. -/
def finds (skip : Nat) : Nat → Bool
  | 0 => false
  | k + 1 => k % skip = 0

/-- The outcome of the tick with a number. -/
def outcome (skip tick : Nat) : SyncStatus :=
  if finds skip tick then .acknowledged else .holding

/-- How many inertial samples were numbered since the last report before the tick with a number. -/
def numbered (skip : Nat) : Nat → Nat
  | 0 => skip
  | k + 1 => k % skip + 1

/-- The remainder grows by one until it is back at zero. -/
theorem succ_mod_cases {skip : Nat} (hskip : 0 < skip) (k : Nat) :
    (k + 1) % skip = 0 ∧ k % skip + 1 = skip ∨ (k + 1) % skip = k % skip + 1 := by
  rw [← Nat.mod_add_mod]
  rcases Nat.lt_or_eq_of_le (Nat.succ_le_of_lt (Nat.mod_lt k hskip)) with hlt | heq
  · exact .inr (Nat.mod_eq_of_lt hlt)
  · have hback : k % skip + 1 = skip := heq
    exact .inl ⟨by rw [hback, Nat.mod_self], hback⟩

/-- The numbering has gone as far as expected whenever a report is due. -/
theorem numbered_of_due {skip k : Nat} (hskip : 0 < skip) (hdue : k % skip = 0) : numbered skip k = skip := by
  cases k with
  | zero => rfl
  | succ k =>
    rcases succ_mod_cases hskip k with ⟨-, hback⟩ | hgrows
    · exact hback
    · rw [hgrows] at hdue
      cases hdue

theorem numbered_succ {skip : Nat} (hskip : 0 < skip) (k : Nat) :
    numbered skip (k + 1) = if k % skip = 0 then 1 else numbered skip k + 1 := by
  split
  case isTrue hdue => exact congrArg (· + 1) hdue
  case isFalse hdue =>
    cases k with
    | zero => exact absurd (Nat.zero_mod skip) hdue
    | succ k =>
      rcases succ_mod_cases hskip k with ⟨hback, -⟩ | hgrows
      · exact absurd hback hdue
      · exact congrArg (· + 1) hgrows

variable [Scalar α] [AutopilotLink L α] {good : L → Prop} {moment timeout skip : Nat}

/-- A simulation before the tick with a number. -/
structure InStep (good : L → Prop) (moment timeout skip tick : Nat) (s : Simulation L α) : Prop where
  unpaused : s.vehicle.paused = false
  moves : 0 < s.vehicle.settings.step
  bridge : s.bridge.InStep good moment timeout skip tick s.vehicle.time (numbered skip tick) (finds skip tick)

/-- A tick without a fault of the vehicle has the outcome of its number, and the next one can follow. -/
theorem InStep.step {s : Simulation L α} {tick : Nat} (h : s.InStep good moment timeout skip tick)
    (hprompt : PromptLink good) (hskip : 0 < skip) (hfault : (s.stepDuring []).simulation.vehicle.fault = false) :
    let r := s.stepDuring []
    r.status = outcome skip tick ∧ r.ahead = [] ∧ r.simulation.InStep good moment timeout skip (tick + 1) := by
  obtain ⟨hstatus, hahead, hbridge, hopen⟩ := h.bridge.preUpdate hprompt s.vehicle.tick h.unpaused
  have hrunning : (s.bridge.preUpdate s.vehicle.tick []).status ≠ .shutdown := by
    rw [hstatus]
    split <;> nofun
  obtain ⟨rotors, servos, external, wrench, hreceived⟩ :=
    s.vehicle.receiveAll_eq (s.bridge.preUpdate s.vehicle.tick []).published
  simp only [stepDuring, if_neg hrunning, hreceived] at hfault ⊢
  rcases Vehicle.advance_cases { s.vehicle with rotors, servos, external, wrench } with
    ⟨-, hadvanced⟩ | ⟨state, hadvanced⟩
  · -- a step that was not made leaves a fault behind, and there is none
    rw [hadvanced, deliver_eq] at hfault
    cases hfault
  have hunpaused : ¬ s.vehicle.paused = true := by
    rw [h.unpaused]
    exact Bool.false_ne_true
  rw [hadvanced, if_neg hunpaused]
  -- the samples are later than all before, so none is refused and the cycle is a new one
  have hlater : s.vehicle.time < s.vehicle.time + s.vehicle.settings.step := Nat.lt_add_of_pos_right h.moves
  obtain ⟨assembler, noise, hdelivered, hfed⟩ := fed_deliver
    ⟨(s.bridge.preUpdate s.vehicle.tick []).bridge,
      { s.vehicle with
        rotors, servos, external, wrench, state
        time := s.vehicle.time + s.vehicle.settings.step }⟩
    (hbridge.assembler.notAfter.mono (Nat.le_of_lt hlater))
  rw [hdelivered]
  refine ⟨hstatus, hahead, h.unpaused, h.moves, ?_⟩
  rw [numbered_succ hskip]
  exact hbridge.tickEnd hprompt hopen
    ⟨s.vehicle.time + s.vehicle.settings.step, s.vehicle.settings.step, s.vehicle.paused⟩
    h.unpaused hlater hfed (numbered_of_due hskip)

/-- So have all ticks that follow, up to a fault. -/
theorem InStep.run {s : Simulation L α} {tick : Nat} (h : s.InStep good moment timeout skip tick)
    (hprompt : PromptLink good) (hskip : 0 < skip) {n : Nat} (hfault : (s.runDuring [] n).2.vehicle.fault = false) :
    let r := s.runDuring [] n
    r.1 = (List.range' tick n).map (outcome skip) ∧ r.2.InStep good moment timeout skip (tick + n) := by
  induction n generalizing s tick with
  | zero => exact ⟨rfl, h⟩
  | succ n ih =>
    -- a fault in the first tick would be there at the end
    have hfaultless : (s.stepDuring []).simulation.vehicle.fault = false := by
      rw [Bool.eq_false_iff]
      intro hstep
      have hlast := fault_runDuring hstep (s.stepDuring []).ahead n
      exact absurd hlast (Bool.eq_false_iff.mp hfault)
    obtain ⟨hstatus, hahead, hnext⟩ := h.step hprompt hskip hfaultless
    simp only [runDuring, hahead] at hfault ⊢
    obtain ⟨hrest, hlast⟩ := ih hnext hfault
    rw [Nat.add_right_comm] at hlast
    exact ⟨congrArg₂ List.cons hstatus hrest, hlast⟩

section
variable {c : Config α} {link : L} {names : NameService} {b : Bridge L α} {resolver : Resolver} {remote : Endpoint}
  {v : Vehicle α}

/-- A configured bridge that gets to know the autopilot's address is in step before the first tick. -/
theorem inStep_resolve (hlockstep : c.lockstep = true) (hb : Bridge.configure c link names = .ok b)
    (hlink : good link) (hresolved : resolver.state = .resolved remote) (moment : Nat) (hunpaused : v.paused = false)
    (hmoves : 0 < v.settings.step) :
    InStep good moment c.lockstepTimeoutMs c.skipFactor.toNat 0
      ⟨Call.apply b (.resolve (some resolver) moment), v⟩ := by
  obtain ⟨hvalid, dispatcher, rfl⟩ := Bridge.eq_of_configure hb
  have hempty : ∀ k, (Assembler.new c (discoverRangeLinks NamingPattern.standard c.rangeSensorLinks)).tray k
      = .empty := Assembler.tray_new c _
  refine ⟨hunpaused, hmoves, ?_, ?_, rfl, ?_, .nothing rfl rfl⟩
  · exact ⟨if_pos hlockstep, Nat.max_eq_left hvalid.skipFactor_pos, rfl, rfl, rfl, rfl, nofun⟩
  · exact ⟨hlink, rfl, rfl, ⟨remote, hresolved⟩, rfl⟩
  · exact ⟨Assembler.notAfter_of_empty hempty _, Assembler.inOrder_of_empty hempty, rfl, rfl, nofun⟩

/--
**A closed loop in lockstep never waits and loses nothing.** A configured bridge in lockstep knows the address of
an autopilot that answers every inertial report at once, and its vehicle is not paused and moves on. Then after any
number of ticks without a fault none has timed out, no answer was late, no sample was too old and no number is
missing; the first tick finds no answer, one tick in so many after it does, and none lets time pass. Where the
vehicle's settings are in order there is no fault, for those of the bridge were found valid: in arithmetic that keeps
the limits of valid noise in order, as double precision does (`SensorNoise.boundedIfValid`), that is enough.
-/
theorem run_in_step (hprompt : PromptLink good) (hlockstep : c.lockstep = true)
    (hb : Bridge.configure c link names = .ok b) (hlink : good link)
    (hresolved : resolver.state = .resolved remote) (moment : Nat) (hunpaused : v.paused = false)
    (hmoves : 0 < v.settings.step) (n : Nat) :
    let start : Simulation L α := ⟨Call.apply b (.resolve (some resolver) moment), v⟩
    let r := start.runDuring [] n
    (r.2.hasFault = false →
      r.1 = (List.range n).map (outcome c.skipFactor.toNat)
        ∧ r.2.bridge.scheduler.stats.timeouts = 0
        ∧ r.2.bridge.scheduler.stats.late = 0
        ∧ r.2.bridge.scheduler.stats.degraded = false
        ∧ r.2.bridge.assembler.stats.imuSeqGaps = 0
        ∧ r.2.bridge.assembler.stats.staleDropped = 0
        ∧ r.2.bridge.connection.now = moment)
      ∧ (v.settings.Sound → c.noise.BoundedIfValid → r.2.hasFault = v.hasFault) := by
  intro start
  have hstart : start.InStep good moment c.lockstepTimeoutMs c.skipFactor.toNat 0 :=
    inStep_resolve hlockstep hb hlink hresolved moment hunpaused hmoves
  obtain ⟨hvalid, dispatcher, rfl⟩ := Bridge.eq_of_configure hb
  refine ⟨fun hfault => ?_, fun hsettings hnoise => ?_⟩
  · have hvehicle : (start.runDuring [] n).2.vehicle.fault = false := by
      simp only [hasFault, Vehicle.hasFault, Bool.or_eq_false_iff] at hfault
      exact hfault.2.1
    obtain ⟨hstatuses, hafter⟩ := hstart.run hprompt hvalid.skipFactor_pos hvehicle
    refine ⟨?_, hafter.bridge.scheduler.timeouts, hafter.bridge.scheduler.late, hafter.bridge.scheduler.degraded,
      hafter.bridge.assembler.gaps, hafter.bridge.assembler.stale, hafter.bridge.connection.now⟩
    rw [hstatuses, List.range_eq_range']
  · have hsound : start.Sound :=
      ⟨hsettings, hnoise.bounded hvalid.noise, Assembler.inOrder_of_empty (Assembler.tray_new c _)⟩
    exact (hsound.runDuring [] n).2

end

/-- The address is known. -/
def resolved : Resolver :=
  ⟨.default, .settled (.resolved ⟨.v4 [127, 0, 0, 1], 4560⟩), 1⟩

/-- A link in memory that answers inertial reports at once. -/
def answering : ScriptedLink Float :=
  { Trial.link with echo := some ⟨Trial.command 0, 0⟩ }

theorem isPrompt_answering : answering.IsPrompt :=
  ⟨rfl, rfl, rfl, nofun, _, rfl, rfl⟩

/-- With a skip factor of two and no time to wait, every other tick finds its answer. -/
theorem every_other_tick_is_answered :
    let c : Config Float := { Trial.config with skipFactor := 2, lockstepTimeoutMs := 0 }
    ∃ b, Bridge.configure c answering Trial.names = .ok b ∧
      let start : Simulation (ScriptedLink Float) Float :=
        ⟨Call.apply b (.resolve (some resolved) 0), .new VehicleSettings.default⟩
      let r := start.runDuring [] 5
      r.1 = [.holding, .acknowledged, .holding, .acknowledged, .holding]
        ∧ r.2.bridge.scheduler.stats.timeouts = 0
        ∧ r.2.bridge.connection.now = 0
        ∧ r.2.hasFault = false := by
  intro c
  have hconfigured : (Bridge.configure c answering Trial.names).toOption.map (fun _ => ()) = some () := by
    decide +kernel
  obtain ⟨b, hb, -⟩ := Trial.exists_of_map hconfigured
  obtain ⟨hruns, hfaultless⟩ := run_in_step ScriptedLink.promptLink rfl hb isPrompt_answering
    (show resolved.state = _ from rfl) 0 (v := .new VehicleSettings.default) rfl (by decide) 5
  have hsettings : (VehicleSettings.default : VehicleSettings Float).Sound := by
    constructor <;> decide +kernel
  have hfault := hfaultless hsettings (SensorNoise.boundedIfValid _)
  obtain ⟨hstatuses, htimeouts, -, -, -, -, hnow⟩ := hruns hfault
  have houtcomes : (List.range 5).map (outcome 2)
      = [.holding, .acknowledged, .holding, .acknowledged, .holding] := by decide
  exact ⟨b, hb, hstatuses.trans houtcomes, htimeouts, hnow, hfault⟩

/-- A vehicle that is not paused and does not move on has its time planned once only, so nothing is sent any more. -/
theorem standing_still_holds :
    ∃ b, Bridge.configure Trial.config answering Trial.names = .ok b ∧
      let v : Vehicle Float := .new { VehicleSettings.default with step := 0 }
      let start : Simulation (ScriptedLink Float) Float := ⟨Call.apply b (.resolve (some resolved) 0), v⟩
      answering.IsPrompt ∧ v.paused = false ∧ (start.runDuring [] 3).1 = [.holding, .acknowledged, .holding]
        ∧ (List.range 3).map (outcome Trial.config.skipFactor.toNat) = [.holding, .acknowledged, .acknowledged] := by
  have hrun : (Bridge.configure Trial.config answering Trial.names).toOption.map (fun b =>
      let v : Vehicle Float := .new { VehicleSettings.default with step := 0 }
      let start : Simulation (ScriptedLink Float) Float := ⟨Call.apply b (.resolve (some resolved) 0), v⟩
      (start.runDuring [] 3).1) = some [.holding, .acknowledged, .holding] := by
    decide +kernel
  obtain ⟨b, hb, hstatuses⟩ := Trial.exists_of_map hrun
  exact ⟨b, hb, isPrompt_answering, rfl, hstatuses, by decide⟩

end Simulation

end HilBridge
