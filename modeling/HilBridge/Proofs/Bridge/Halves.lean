import HilBridge.Proofs.Bridge.Run

/-!
# `HilBridge.Proofs.Bridge.Halves` — the two halves of a tick, step by step

Of a bridge only the scheduler and the connection show in a journal. What is to be shown of the two halves of
a tick can be shown of the steps that they are made of: polling the link, obtaining the actuator state, going
on with the timetable, and sending (`preUpdate_cases`, `tickEnd_cases`).

Which ticks have a cycle, and from which bridge it starts, is said by `Plans`, for all that is to be shown of
the second half.
-/

namespace HilBridge

variable {L α : Type}

/-! ## The timetable -/

namespace Scheduler

/-- The timetable may have gone on, but nothing else. -/
structure Onward (s t : Scheduler) : Prop extends s.SameTerms t where
  awaiting : t.awaiting = s.awaiting
  acknowledged : t.stats.acknowledged = s.stats.acknowledged

theorem Onward.trans {s t u : Scheduler} (h : s.Onward t) (k : t.Onward u) : s.Onward u :=
  ⟨h.toSameTerms.trans k.toSameTerms, k.awaiting.trans h.awaiting, k.acknowledged.trans h.acknowledged⟩

theorem onward_planCycle (s : Scheduler) (tick : Tick) : s.Onward (s.planCycle tick).2 := by
  unfold planCycle
  split <;> exact ⟨⟨rfl, rfl, rfl⟩, rfl, rfl⟩

/-- No time is planned twice. -/
theorem planCycle_of_planned {s : Scheduler} {tick : Tick} (h : s.lastPlanned = some tick.time) :
    s.planCycle tick = (none, s) := by
  rw [planCycle, h]
  simp

theorem planCycle_of_new {s : Scheduler} {tick : Tick} (hpaused : tick.paused = false)
    (h : s.lastPlanned ≠ some tick.time) :
    s.planCycle tick = (some (s.cyclePlan s.stats.cycles tick.time),
      { s with stats.cycles := s.stats.cycles + 1, lastPlanned := some tick.time }) := by
  rw [planCycle, if_neg]
  simp [hpaused, h]

theorem onward_heartbeatDue (s : Scheduler) (now : Nat) : s.Onward (s.heartbeatDue now).2 := by
  unfold heartbeatDue
  split <;> exact ⟨⟨rfl, rfl, rfl⟩, rfl, rfl⟩

end Scheduler

namespace Bridge

@[simp]
theorem connection_syncEpoch (b : Bridge L α) : b.syncEpoch.connection = b.connection := by
  unfold syncEpoch
  split <;> rfl

theorem scheduler_syncEpoch (b : Bridge L α) :
    b.syncEpoch.scheduler = (b.scheduler.onEpoch b.connection.epoch).2 := by
  unfold syncEpoch
  split <;> rename_i h <;> rw [h]

section
variable [Scalar α]

@[simp]
theorem connection_applyCommand (b : Bridge L α) (command : Option (Command α)) :
    (b.applyCommand command).connection = b.connection := by
  cases command <;> rfl

@[simp]
theorem scheduler_applyCommand (b : Bridge L α) (command : Option (Command α)) :
    (b.applyCommand command).scheduler = b.scheduler := by
  cases command <;> rfl

end

variable [AutopilotLink L α]

@[simp]
theorem connection_pollReady (b : Bridge L α) : b.pollReady.2.connection = b.connection.pollReady.2 :=
  connection_syncEpoch _

theorem scheduler_pollReady (b : Bridge L α) :
    b.pollReady.2.scheduler = (b.scheduler.onEpoch b.connection.pollReady.2.epoch).2 :=
  scheduler_syncEpoch _

@[simp]
theorem connection_reconnect (b : Bridge L α) : b.reconnect.2.connection = b.connection.reconnect.2 :=
  connection_syncEpoch _

theorem scheduler_reconnect (b : Bridge L α) :
    b.reconnect.2.scheduler = (b.scheduler.onEpoch b.connection.reconnect.2.epoch).2 :=
  scheduler_syncEpoch _

theorem lastPlanned_pollReady (b : Bridge L α) :
    b.pollReady.2.scheduler.lastPlanned = b.scheduler.lastPlanned := by
  rw [scheduler_pollReady, Scheduler.onEpoch]
  split <;> rfl

/-- What holds of every call of the scheduler holds of the one that a tick makes. -/
theorem afterCall (b : Bridge L α) (hopen : b.connection.channel.closed = false) (bursts : List (Burst α)) :
    b.scheduler.AfterCall b.connection.channel (b.heard bursts) (b.awaitControls bursts).1 :=
  b.scheduler.afterCall_awaitControls hopen b.dispatcher.receivedFirst b.connection.isShutdown
    (b.heard bursts)

/-! ## The cycle of a tick -/

/-- What planning the cycle of a tick can come to. -/
inductive Plans (b : Bridge L α) (tick : Tick) : Option CyclePlan × Bridge L α → Prop
  | idle (hidle : (tick.paused || b.connection.isShutdown) = true) : Plans b tick (none, b)
  | closed (hrunning : (tick.paused || b.connection.isShutdown) = false) (hclosed : b.pollReady.1 = false) :
    Plans b tick (none, b.pollReady.2)
  | repeated (hrunning : (tick.paused || b.connection.isShutdown) = false)
    (htime : b.scheduler.lastPlanned = some tick.time) : Plans b tick (none, b.pollReady.2)
  | cycle {s : Scheduler} (hrunning : (tick.paused || b.connection.isShutdown) = false)
    (hopen : b.pollReady.1 = true) (hnew : b.scheduler.lastPlanned ≠ some tick.time) {plan : CyclePlan}
    (hplan : b.pollReady.2.scheduler.planCycle tick = (some plan, s)) :
    Plans b tick (some plan, { b.pollReady.2 with scheduler := s })

theorem plans_planCycle (b : Bridge L α) (tick : Tick) : b.Plans tick (b.planCycle tick) := by
  have hplanned := b.lastPlanned_pollReady
  unfold planCycle
  cases hrunning : tick.paused || b.connection.isShutdown with
  | true => exact .idle hrunning
  | false =>
    obtain ⟨hpaused, -⟩ := Bool.or_eq_false_iff.mp hrunning
    rcases hpoll : b.pollReady with ⟨_ | _, polled⟩
    · have h := Plans.closed hrunning (congrArg Prod.fst hpoll)
      rwa [hpoll] at h
    · rw [hpoll] at hplanned
      by_cases htime : b.scheduler.lastPlanned = some tick.time
      · have h := Plans.repeated hrunning htime
        rw [hpoll] at h
        simpa only [Bool.false_eq_true, if_false, Scheduler.planCycle_of_planned (hplanned.trans htime)] using h
      · have hnew := Scheduler.planCycle_of_new hpaused (hplanned.symm ▸ htime)
        have hplan : b.pollReady.2.scheduler.planCycle tick = _ :=
          (congrArg (fun r => r.2.scheduler.planCycle tick) hpoll).trans hnew
        have h := Plans.cycle hrunning (congrArg Prod.fst hpoll) htime hplan
        rw [hpoll] at h
        simpa only [Bool.false_eq_true, if_false, hnew] using h

/-- A cycle starts from the bridge that has polled the link, with the timetable gone on. -/
theorem planCycle_eq_some {b b' : Bridge L α} {tick : Tick} {plan : CyclePlan}
    (h : b.planCycle tick = (some plan, b')) :
    (tick.paused || b.connection.isShutdown) = false
      ∧ b.pollReady.2.scheduler.planCycle tick = (some plan, b'.scheduler)
      ∧ b'.connection = b.pollReady.2.connection ∧ b'.assembler = b.pollReady.2.assembler := by
  have hplans := b.plans_planCycle tick
  rw [h] at hplans
  cases hplans with
  | cycle hrunning _ _ hplan => exact ⟨hrunning, hplan, rfl, rfl⟩

section
variable [Scalar α] {b b' : Bridge L α} {tick : Tick}

omit [AutopilotLink L α] in
theorem cycleMessages_fst (b : Bridge L α) (plan : CyclePlan) :
    (b.cycleMessages plan).1 = (if (b.scheduler.heartbeatDue plan.now).1 then [.heartbeat] else [])
      ++ (b.assembler.assemble plan).1.map .report :=
  rfl

theorem assembler_runCycle (b : Bridge L α) (plan : CyclePlan) :
    (b.runCycle plan).bridge.assembler = (b.assembler.assemble plan).2 :=
  rfl

theorem tickEnd_of_unplanned (h : b.planCycle tick = (none, b')) : b.tickEnd tick = ⟨[], [], [], b'⟩ := by
  rw [tickEnd, h]

theorem tickEnd_of_planned {plan : CyclePlan} (h : b.planCycle tick = (some plan, b')) :
    b.tickEnd tick = b'.runCycle plan := by
  rw [tickEnd, h]

end

/-! ## The halves -/

section
variable [Scalar α] {P : Journal α → Scheduler → Connection L α → Prop} {j : Journal α} {b : Bridge L α}

/-- The first half does nothing, or it polls the link and obtains the actuator state. -/
theorem preUpdate_cases {bursts : List (Burst α)} (idle : P j b.scheduler b.connection)
    (ticked : P (j ++ b.connection.pollEvents ++ Journal.publications (b.pollReady.2.meanwhile bursts)
        ++ [Event.tick (b.pollReady.2.awaitControls bursts).1.status
          (b.pollReady.2.awaitControls bursts).1.command])
      (b.pollReady.2.awaitControls bursts).2.1.scheduler
      (b.pollReady.2.awaitControls bursts).2.1.connection) (tick : Tick) :
    P (j ++ b.preUpdateEvents tick bursts) (b.preUpdate tick bursts).bridge.scheduler
      (b.preUpdate tick bursts).bridge.connection := by
  unfold preUpdateEvents preUpdate
  cases hs : b.connection.isShutdown with
  | true => simpa [hs] using idle
  | false =>
    cases hp : tick.paused with
    | true => simpa [hs, hp] using idle
    | false =>
      simp only [Bool.or_self, Bool.false_eq_true, if_false]
      rw [← List.append_assoc, ← List.append_assoc]
      split
      · exact ticked
      · simp only [scheduler_applyCommand, connection_applyCommand]
        exact ticked

/-- The second half does nothing, or it polls the link and goes on with the timetable, and may send. -/
theorem tickEnd_cases (idle : P j b.scheduler b.connection)
    (polled : ∀ s, b.pollReady.2.scheduler.Onward s →
      P (j ++ b.connection.pollEvents) s b.pollReady.2.connection)
    (sent : ∀ s messages now, b.pollReady.2.scheduler.Onward s →
      P (j ++ b.connection.pollEvents ++ sendAllEvents b.pollReady.2.connection messages)
        (s.markSent now ((sendAll b.pollReady.2.connection messages).sent.filterMap Message.imuTime?).getLast?)
        (sendAll b.pollReady.2.connection messages).connection) (tick : Tick) :
    P (j ++ b.postUpdateEvents tick) (b.tickEnd tick).bridge.scheduler (b.tickEnd tick).bridge.connection := by
  have hplans := b.plans_planCycle tick
  have hstays := polled _ ⟨.refl _, rfl, rfl⟩
  unfold postUpdateEvents
  rcases hplanned : b.planCycle tick with ⟨plan?, b'⟩
  rw [hplanned] at hplans
  cases hplans with
  | idle hidle =>
    rw [tickEnd_of_unplanned hplanned, if_pos hidle, List.append_nil]
    exact idle
  | closed hrunning | repeated hrunning =>
    rw [tickEnd_of_unplanned hplanned, hrunning, if_neg Bool.false_ne_true]
    simpa [sendAllEvents] using hstays
  | @cycle s hrunning _ _ plan hplan =>
    have honward := b.pollReady.2.scheduler.onward_planCycle tick
    rw [hplan] at honward
    rw [tickEnd_of_planned hplanned, hrunning, if_neg Bool.false_ne_true, ← List.append_assoc]
    exact sent _ _ plan.now (honward.trans (s.onward_heartbeatDue plan.now))

end

end Bridge

end HilBridge
