import HilBridge.Proofs.Bridge.Samples
import HilBridge.Proofs.Lockstep.Timetable
import HilBridge.Proofs.Sensor.Feeding

/-!
# `HilBridge.Proofs.Bridge.Cadence` — which ticks of a run have a cycle, and what is due in it

The second half of a tick has a cycle if the link is open and the time is new. What comes of the cycle depends on
those before it, and how far back the scheduler remembers them depends on the epochs of the connection: along a run
there are pauses, repeated ticks, failed reports, and openings at any moment. A `Timetable` is kept of all that.

**Main statement.** `cycles_keep_time`: where the time of the ticks never goes back, none is planned twice, and in
every cycle the inertial report and the heartbeat are due exactly when they should be.
-/

namespace HilBridge

variable {L α : Type}

/-! ## What a call means to the timetable -/

/-- A new epoch, if the connection has one. -/
def Bridge.openedEvents (b b' : Bridge L α) : List TimetableEvent :=
  if b'.connection.epoch = b.connection.epoch then [] else [.reopened]

namespace Bridge

variable [Scalar α] [AutopilotLink L α]

/-- The time of the inertial report that went out last in a second half. -/
def TickEnd.reportTime (e : TickEnd L α) : Option Nat :=
  (e.sent.filterMap Message.imuTime?).getLast?

/-- Whether a second half has a heartbeat among its messages. -/
def TickEnd.hasBeat (e : TickEnd L α) : Bool :=
  e.messages.any fun
    | .heartbeat => true
    | .report _ => false

/-- The cycle of a tick, with what comes of it. -/
def cycleOf (b : Bridge L α) (tick : Tick) : Option PlannedCycle :=
  (b.planCycle tick).1.map fun plan =>
    { tick, plan, beat := (b.tickEnd tick).hasBeat, reported := (b.tickEnd tick).reportTime.isSome }

end Bridge

namespace Call

variable [AutopilotLink L α]

/-- The time of a second half. -/
def postTime? : Call L α → Option Nat
  | .postUpdate tick => some tick.time
  | .sample _ => none
  | .storeImu _ => none
  | .range .. => none
  | .preUpdate .. => none
  | .reconnect => none
  | .happen _ => none
  | .resolve .. => none
  | .relink _ => none

variable [Scalar α]

/-- The cycle that a call plans. -/
def cycle? (b : Bridge L α) : Call L α → Option PlannedCycle
  | .postUpdate tick => b.cycleOf tick
  | .sample _ => none
  | .storeImu _ => none
  | .range .. => none
  | .preUpdate .. => none
  | .reconnect => none
  | .happen _ => none
  | .resolve .. => none
  | .relink _ => none

/-- A link that has to be opened is opened before a cycle is planned. -/
def timetableEvents (b : Bridge L α) (call : Call L α) : List TimetableEvent :=
  b.openedEvents (call.apply b) ++ ((call.cycle? b).map .planned).toList

theorem timetableEvents_of_cycle?_eq_none {b : Bridge L α} {call : Call L α} (h : call.cycle? b = none) :
    call.timetableEvents b = b.openedEvents (call.apply b) := by
  rw [timetableEvents, h]
  exact List.append_nil _

end Call

namespace Bridge

variable [Scalar α] [AutopilotLink L α]

/-- Runs of a bridge with what matters to the timetable. -/
def timekeeper (L α : Type) [Scalar α] [AutopilotLink L α] : Recorder (Bridge L α) (Call L α) TimetableEvent :=
  ⟨Call.apply, Call.timetableEvents⟩

/-! ## The second half of a tick -/

/-- A tick without a cycle polls the link at most. -/
theorem tickEnd_of_none {b : Bridge L α} {tick : Tick} (h : (b.planCycle tick).1 = none) :
    (b.tickEnd tick).bridge = b ∨ (b.tickEnd tick).bridge = b.pollReady.2 := by
  have hplans := b.plans_planCycle tick
  rcases hplanned : b.planCycle tick with ⟨plan?, b'⟩
  rw [hplanned] at h hplans
  cases hplans with
  | idle => exact .inl (by rw [tickEnd_of_unplanned hplanned])
  | closed | repeated => exact .inr (by rw [tickEnd_of_unplanned hplanned])
  | cycle => cases h

omit [Scalar α] in
/-- Sending opens nothing. -/
theorem epoch_sendAll (c : Connection L α) (messages : List (Message α)) :
    (sendAll c messages).connection.epoch = c.epoch := by
  have hnone : (sendAllEvents c messages).countP Event.isOpened = 0 := by
    refine List.countP_eq_zero.mpr fun e he => ?_
    rcases eq_of_mem_sendAllEvents he with ⟨time, rfl⟩ | ⟨value, rfl⟩ | rfl <;> exact Bool.false_ne_true
  rw [(moves_sendAll c messages).epoch, hnone, Nat.add_zero]

/-- A cycle sends an inertial report only if its plan says so. -/
theorem sendImu_of_reported {b : Bridge L α} {plan : CyclePlan}
    (h : (b.runCycle plan).reportTime.isSome = true) : plan.sendImu = true := by
  obtain ⟨time, htime⟩ := Option.isSome_iff_exists.mp h
  obtain ⟨message, hsent, himu⟩ := List.mem_filterMap.mp (List.mem_of_getLast? htime)
  have hhanded := handed_prefix b.connection (b.cycleMessages plan).1
  have hmem : message ∈ (b.cycleMessages plan).1 :=
    hhanded.subset ((sent_sublist_handed _ _).subset hsent)
  have htimes : time ∈ Assembler.imuTimes (b.assembler.assemble plan).1 := by
    rcases List.mem_append.mp hmem with hbeat | hreport
    · split at hbeat
      · rw [List.mem_singleton.mp hbeat] at himu
        cases himu
      · cases hbeat
    · exact List.mem_filterMap.mpr ⟨message, hreport, himu⟩
  rw [Assembler.imuTimes_assemble, Assembler.takeImuDue] at htimes
  by_contra hsend
  rw [if_neg hsend] at htimes
  cases htimes

/-- The heartbeat of a cycle is the one that the scheduler claims. -/
theorem hasBeat_runCycle (b : Bridge L α) (plan : CyclePlan) :
    (b.runCycle plan).hasBeat = (b.scheduler.heartbeatDue plan.now).1 := by
  have hreports : ∀ reports : List (Stamped (Report α)), ((reports.map Message.report).any fun
      | .heartbeat => true
      | .report _ => false) = false := by
    intro reports
    rw [List.any_map, List.any_eq_false]
    exact fun _ _ => Bool.false_ne_true
  show (b.cycleMessages plan).1.any _ = _
  rw [cycleMessages_fst, List.any_append, hreports, Bool.or_false]
  cases (b.scheduler.heartbeatDue plan.now).1 <;> rfl

/-! ## Every call -/

/-- What the bridge has in common with the timetable. -/
structure KeepsTime (s₀ : Scheduler) (log : List TimetableEvent) (b : Bridge L α) : Prop where
  keeps : s₀.Keeps (Timetable.ofLog log) b.scheduler
  synced : b.scheduler.epoch = b.connection.epoch

namespace KeepsTime

variable {s₀ : Scheduler} {log : List TimetableEvent} {b b' : Bridge L α}

omit [Scalar α] [AutopilotLink L α] in
/-- After a move of the connection that the scheduler has heard of, whatever it listened to besides. -/
theorem moved (h : b.KeepsTime s₀ log)
    (hs : (b.scheduler.onEpoch b'.connection.epoch).2.Listened b'.scheduler) :
    b'.KeepsTime s₀ (log ++ b.openedEvents b') := by
  have hepoch : b'.scheduler.epoch = (b.scheduler.onEpoch b'.connection.epoch).2.epoch := by
    rw [hs.eq]
  unfold openedEvents
  by_cases hsame : b'.connection.epoch = b.connection.epoch
  · have hstay : (b.scheduler.onEpoch b'.connection.epoch).2 = b.scheduler := by
      rw [hsame, ← h.synced, Scheduler.onEpoch, if_pos rfl]
    rw [hstay] at hs hepoch
    rw [if_pos hsame, List.append_nil]
    exact ⟨h.keeps.listened hs, by rw [hepoch, h.synced, hsame]⟩
  · have hnew : b'.connection.epoch ≠ b.scheduler.epoch := by rwa [h.synced]
    rw [if_neg hsame]
    constructor
    · rw [Timetable.ofLog_append]
      exact (h.keeps.reopened hnew).listened hs
    · rw [hepoch, Scheduler.onEpoch, if_neg hnew]

omit [Scalar α] [AutopilotLink L α] in
theorem stayed (h : b.KeepsTime s₀ log) (hscheduler : b'.scheduler = b.scheduler)
    (hepoch : b'.connection.epoch = b.connection.epoch) : b'.KeepsTime s₀ (log ++ b.openedEvents b') := by
  refine h.moved ?_
  rw [hepoch, ← h.synced, Scheduler.onEpoch, if_pos rfl, hscheduler]
  exact .refl _

omit [Scalar α] in
theorem polled (h : b.KeepsTime s₀ log) : b.pollReady.2.KeepsTime s₀ (log ++ b.openedEvents b.pollReady.2) := by
  refine h.moved ?_
  rw [scheduler_pollReady, connection_pollReady]
  exact .refl _

theorem preUpdate (h : b.KeepsTime s₀ log) (tick : Tick) (bursts : List (Burst α)) :
    (b.preUpdate tick bursts).bridge.KeepsTime s₀ (log ++ b.openedEvents (b.preUpdate tick bursts).bridge) := by
  have hcases := preUpdate_cases
    (P := fun _ s c => (s = b.scheduler ∧ c = b.connection)
      ∨ (s = (b.pollReady.2.awaitControls bursts).2.1.scheduler
        ∧ c = (b.pollReady.2.awaitControls bursts).2.1.connection))
    (j := []) (.inl ⟨rfl, rfl⟩) (.inr ⟨rfl, rfl⟩) tick
  rcases hcases with ⟨hscheduler, hconnection⟩ | ⟨hscheduler, hconnection⟩
  · exact h.stayed hscheduler (congrArg Connection.epoch hconnection)
  · refine h.moved ?_
    have hepoch : (b.pollReady.2.awaitControls bursts).2.1.connection.epoch = b.pollReady.2.connection.epoch := rfl
    rw [hscheduler, hconnection, hepoch, connection_pollReady, ← scheduler_pollReady]
    exact Scheduler.listened_awaitControls ..

/-- The second half of a tick with a cycle. -/
theorem cycle (h : b.KeepsTime s₀ log) {tick : Tick} {plan : CyclePlan}
    (hplanned : b.planCycle tick = (some plan, b')) :
    let e := b.tickEnd tick
    e.bridge.KeepsTime s₀ (log ++ (b.openedEvents e.bridge
      ++ [.planned ⟨tick, plan, e.hasBeat, e.reportTime.isSome⟩])) := by
  intro e
  obtain ⟨-, hplan, hconnection, -⟩ := planCycle_eq_some hplanned
  have hend := tickEnd_of_planned hplanned
  have hepoch : e.bridge.connection.epoch = b.pollReady.2.connection.epoch := by
    rw [← hconnection]
    exact (congrArg (fun e : TickEnd L α => e.bridge.connection.epoch) hend).trans (epoch_sendAll _ _)
  have hscheduler : e.bridge.scheduler
      = (b'.scheduler.heartbeatDue plan.now).2.markSent plan.now e.reportTime := by
    simp only [e, hend]
    rfl
  have hbeat : e.hasBeat = (b'.scheduler.heartbeatDue plan.now).1 := by
    simp only [e, hend, hasBeat_runCycle]
  have himu : e.reportTime.isSome = true → plan.sendImu = true := by
    simp only [e, hend]
    exact sendImu_of_reported
  have hopened : b.openedEvents e.bridge = b.openedEvents b.pollReady.2 := by
    rw [openedEvents, openedEvents, hepoch]
  rw [hopened, ← List.append_assoc, hbeat]
  constructor
  · rw [Timetable.ofLog_append, hscheduler]
    exact h.polled.keeps.planned hplan himu
  · have honward := b.pollReady.2.scheduler.onward_planCycle tick
    rw [hplan] at honward
    rw [hscheduler, hepoch, Scheduler.epoch_markSent, (b'.scheduler.onward_heartbeatDue plan.now).epoch,
      honward.epoch]
    exact h.polled.synced

/-- Every call keeps bridge and timetable together. -/
theorem step (h : b.KeepsTime s₀ log) (call : Call L α) :
    (call.apply b).KeepsTime s₀ (log ++ call.timetableEvents b) := by
  cases call with
  | postUpdate tick =>
    rcases hplanned : b.planCycle tick with ⟨_ | plan, b'⟩
    · have hnone : (b.planCycle tick).1 = none := congrArg Prod.fst hplanned
      have hcycle : Call.cycle? b (.postUpdate tick) = none := by
        show b.cycleOf tick = none
        rw [cycleOf, hnone]
        rfl
      rw [Call.timetableEvents_of_cycle?_eq_none hcycle]
      show (b.tickEnd tick).bridge.KeepsTime s₀ (log ++ b.openedEvents (b.tickEnd tick).bridge)
      rcases tickEnd_of_none hnone with hsame | hpolled
      · rw [hsame]
        exact h.stayed rfl rfl
      · rw [hpolled]
        exact h.polled
    · have hcycle : b.cycleOf tick
          = some ⟨tick, plan, (b.tickEnd tick).hasBeat, (b.tickEnd tick).reportTime.isSome⟩ := by
        rw [cycleOf, hplanned]
        rfl
      show (b.tickEnd tick).bridge.KeepsTime s₀ (log ++ (b.openedEvents (b.tickEnd tick).bridge
        ++ ((b.cycleOf tick).map TimetableEvent.planned).toList))
      rw [hcycle]
      exact h.cycle hplanned
  | preUpdate tick bursts =>
    rw [Call.timetableEvents_of_cycle?_eq_none rfl]
    exact h.preUpdate tick bursts
  | reconnect =>
    rw [Call.timetableEvents_of_cycle?_eq_none rfl]
    refine h.moved ?_
    show (b.scheduler.onEpoch b.reconnect.2.connection.epoch).2.Listened b.reconnect.2.scheduler
    rw [scheduler_reconnect, connection_reconnect]
    exact .refl _
  | _ =>
    rw [Call.timetableEvents_of_cycle?_eq_none rfl]
    exact h.stayed rfl rfl

end KeepsTime

/-! ## Every run -/

/-- A call adds the cycle that it plans. -/
theorem cycles_timetableEvents (t : Timetable) (b : Bridge L α) (call : Call L α) :
    ((call.timetableEvents b).foldl Timetable.note t).cycles = t.cycles ++ (call.cycle? b).toList := by
  rw [Call.timetableEvents, List.foldl_append]
  have hopened : ((b.openedEvents (call.apply b)).foldl Timetable.note t).cycles = t.cycles := by
    unfold openedEvents
    split
    · rfl
    · exact t.cycles_reopened
  cases call.cycle? b with
  | none => rw [Option.map_none, Option.toList_none, Option.toList_none, List.append_nil]; exact hopened
  | some c =>
    show (Timetable.note _ (.planned c)).cycles = _
    rw [Timetable.cycles_planned, hopened]
    rfl

/-- A cycle is that of the tick. -/
theorem postTime?_of_cycle? {b : Bridge L α} {call : Call L α} {c : PlannedCycle} (h : call.cycle? b = some c) :
    call.postTime? = some c.tick.time := by
  cases call with
  | postUpdate tick =>
    obtain ⟨planned, -, rfl⟩ := Option.map_eq_some_iff.mp h
    rfl
  | _ => cases h

/-- The cycles are some of the ticks, in their order. -/
theorem times_sublist (b : Bridge L α) (calls : List (Call L α)) :
    ((Timetable.ofLog ((timekeeper L α).run b calls).2).cycles.map (·.tick.time)).Sublist
      (calls.filterMap Call.postTime?) := by
  induction calls using List.reverseRecOn with
  | nil => exact .refl _
  | append_singleton front call ih =>
    rw [Recorder.run_concat, Recorder.step, Timetable.ofLog_append]
    show (List.map _ ((call.timetableEvents _).foldl Timetable.note _).cycles).Sublist _
    rw [cycles_timetableEvents, List.map_append, List.filterMap_append]
    refine ih.append ?_
    cases hcycle : call.cycle? ((timekeeper L α).run b front).1 with
    | none => exact List.nil_sublist _
    | some c =>
      rw [List.filterMap_cons, postTime?_of_cycle? hcycle]
      exact .refl _

theorem keepsTime_run {c : Config α} {link : L} {names : NameService} {b : Bridge L α}
    (hb : configure c link names = .ok b) (calls : List (Call L α)) :
    ((timekeeper L α).run b calls).1.KeepsTime (.new c) ((timekeeper L α).run b calls).2 := by
  obtain ⟨hscheduler, hconnection⟩ := configure_eq hb
  refine (timekeeper L α).run_induction (P := fun b log => b.KeepsTime (.new c) log) ?_
    (fun b log call h => h.step call) calls
  constructor
  · rw [hscheduler]
    exact
      { mode := rfl, skipFactor := rfl, imuInterval := rfl, heartbeatInterval := rfl, counted := rfl
        lastPlanned := rfl, lastImuSent := rfl, lastHeartbeat := rfl
        onTime := fun cycles hmem => by
          rw [List.mem_singleton.mp hmem]
          exact .nil
        inTurn := fun _ => .nil, renewed := .nil }
  · rw [hscheduler, hconnection]
    rfl

/--
**The cycles keep time.** Whatever is done with a configured bridge, where the time of the second halves never goes
back: no time is planned twice and no paused tick at all. In lockstep the inertial report is asked for in every
cycle whose number, counted from 0 over all epochs, the skip factor divides; outside lockstep two reports of an
epoch are an interval apart, and it is asked for when the interval has passed since the last one of the epoch or
there is none. A heartbeat is claimed in the first cycle of an epoch, and when its interval has passed since the
last one. Which tick has a cycle is decided by nothing but the pause, the shutdown, the link and the last time
planned; a cycle assembles its plan, and a tick without one leaves all samples alone.
-/
theorem cycles_keep_time {c : Config α} {link : L} {names : NameService} {b : Bridge L α}
    (hb : configure c link names = .ok b) (calls : List (Call L α))
    (htimes : (calls.filterMap Call.postTime?).Pairwise (· ≤ ·)) :
    let r := (timekeeper L α).run b calls
    let t := Timetable.ofLog r.2
    (t.cycles.map (·.tick.time)).Pairwise (· < ·)
      ∧ (∀ cycles ∈ t.epochs, EachAfter (Scheduler.new c).OnTime cycles)
      ∧ (c.lockstep = true → EachAfter
        (fun before cycle => cycle.plan.sendImu = true ↔ c.skipFactor.toNat ∣ before.length) t.cycles)
      ∧ (c.lockstep = false → ∀ cycles ∈ t.epochs, (cycles.filter (·.reported)).Pairwise
        fun d e => d.tick.time + microseconds c.imuInterval ≤ e.tick.time)
      ∧ ∀ tick,
        ((r.1.planCycle tick).1.isSome = true ↔ tick.paused = false ∧ r.1.connection.isShutdown = false
          ∧ r.1.connection.pollReady.1 = true ∧ t.cycles.getLast?.map (·.tick.time) ≠ some tick.time)
        ∧ (∀ plan b', r.1.planCycle tick = (some plan, b') →
          (r.1.postUpdate tick).2.assembler = (b'.assembler.assemble plan).2
            ∧ (r.1.tickEnd tick).messages.filterMap Message.report? = (b'.assembler.assemble plan).1)
        ∧ ((r.1.planCycle tick).1 = none → (r.1.tickEnd tick).messages = [] ∧ (r.1.postUpdate tick).1 = 0
          ∧ ∀ k, (r.1.postUpdate tick).2.assembler.tray k = r.1.assembler.tray k) := by
  intro r t
  have h := (keepsTime_run hb calls).keeps
  have hlater : (t.cycles.map (·.tick.time)).Pairwise (· < ·) :=
    Timetable.times_pairwise_lt (htimes.sublist (times_sublist b calls)) h.renewed
  refine ⟨hlater, h.onTime, fun hlockstep => ?_, fun hfree cycles hmem => ?_, fun tick => ⟨?_, ?_, ?_⟩⟩
  · have hmode : (Scheduler.new c).mode.isLockstep = true := by
      simp [Scheduler.new, TimeMode.ofConfig, hlockstep, TimeMode.isLockstep]
    have hskip : (Scheduler.new c).skipFactor = c.skipFactor.toNat :=
      Nat.max_eq_left (eq_of_configure hb).1.skipFactor_pos
    rw [← hskip]
    exact h.inTurn hmode
  · have hmode : (Scheduler.new c).mode.isLockstep = false := by
      simp [Scheduler.new, TimeMode.ofConfig, hfree, TimeMode.isLockstep]
    have hepoch : (cycles.map (·.tick.time)).Sublist (t.cycles.map (·.tick.time)) :=
      (List.sublist_flatten_of_mem hmem).map _
    exact Scheduler.reports_apart (h.onTime cycles hmem) hmode (hlater.sublist hepoch)
  · rw [← h.lastPlanned]
    exact isSome_planCycle_iff r.1 tick
  · intro plan b' hplanned
    rw [postUpdate, tickEnd_of_planned hplanned]
    exact ⟨rfl, reports_cycleMessages b' plan⟩
  · intro hnone
    rcases r.1.tickEnd_eq_or tick with ⟨b', -, hend, hbooks⟩ | ⟨plan, b', hplanned, -⟩
    · rw [postUpdate, hend]
      exact ⟨rfl, rfl, fun k => (hbooks.trays k).eq_of_nil rfl⟩
    · rw [hplanned] at hnone
      cases hnone

/-- Outside lockstep, a tick made twice, one that is paused, and a link that is opened again. -/
def reopeningCalls : List (Call (ScriptedLink Float) Float) :=
  Trial.opening ++ Trial.report 0 ++ [.postUpdate (Trial.tick 0), .postUpdate { Trial.tick 2000 with paused := true }]
    ++ Trial.report 2000 ++ Trial.report 4000 ++ [.reconnect] ++ Trial.report 6000 ++ Trial.report 7000

/-- With 4 ms from report to report, the first cycle after the opening need not wait for them. -/
theorem reopened_link_reports_at_once :
    let config := { Trial.config with lockstep := false }
    (reopeningCalls.filterMap Call.postTime?).Pairwise (· ≤ ·)
      ∧ microseconds config.imuInterval = 4000
      ∧ ∃ b, configure config Trial.link Trial.names = .ok b ∧
        let t := Timetable.ofLog ((timekeeper _ _).run b reopeningCalls).2
        t.epochs.map (·.map fun c => (c.tick.time, c.plan.sendImu, c.reported, c.beat))
            = [[], [(0, true, true, true), (2000, false, false, false), (4000, true, true, false)],
              [(6000, true, true, true), (7000, false, false, false)]]
          ∧ (t.cycles.map (·.tick.time)).Pairwise (· < ·)
          ∧ (∀ cycles ∈ t.epochs, EachAfter (Scheduler.new config).OnTime cycles)
          ∧ ∀ cycles ∈ t.epochs, (cycles.filter (·.reported)).Pairwise
            fun d e => d.tick.time + microseconds config.imuInterval ≤ e.tick.time := by
  intro config
  have htimes : (reopeningCalls.filterMap Call.postTime?).Pairwise (· ≤ ·) := by decide
  have hrun : (configure config Trial.link Trial.names).toOption.map (fun b =>
      (Timetable.ofLog ((timekeeper _ _).run b reopeningCalls).2).epochs.map
        (·.map fun c => (c.tick.time, c.plan.sendImu, c.reported, c.beat)))
      = some [[], [(0, true, true, true), (2000, false, false, false), (4000, true, true, false)],
        [(6000, true, true, true), (7000, false, false, false)]] := by
    decide +kernel
  obtain ⟨b, hb, hepochs⟩ := Trial.exists_of_map hrun
  obtain ⟨hlater, honTime, -, hapart, -⟩ := cycles_keep_time hb reopeningCalls htimes
  exact ⟨htimes, by decide +kernel, b, hb, hepochs, hlater, honTime, hapart rfl⟩

end Bridge

end HilBridge
