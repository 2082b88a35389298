import HilBridge.Proofs.Bridge.Records

/-!
# `HilBridge.Proofs.Bridge.Epoch` — which connection an acknowledgement comes from

The channel outlives the connections, and the scheduler forgets the last report when the link is opened. A
command that came in before the opening and has not been read can therefore be taken for an answer
afterwards.

**Main statement.** `preUpdate_acknowledged_from`: this is the only way in which a command of an earlier
connection acknowledges, and it always does if no report of the new connection is later than the command.
Otherwise the acknowledgement came in over the connection that is open. `leftover_acknowledges` is a run in
which it happens.
-/

namespace HilBridge

variable {L α : Type}

/-! ## Where a command came in -/

namespace Journal

variable {j : Journal α} {c : Command α}

/-- The command came in after the last opening. -/
def IsCurrent (j : Journal α) (c : Command α) : Prop :=
  ∃ before after, j = before ++ .published (some c) :: after ∧ Event.opened ∉ after

/-- The command came in before the last opening, and no tick has read it nor has it been overtaken. -/
def IsLeftOver (j : Journal α) (c : Command α) : Prop :=
  ∃ before after, j = before ++ .published (some c) :: after ∧ Event.opened ∈ after
    ∧ ∀ e ∈ after, unreadEffect e = none

theorem IsLeftOver.leftUnread (h : j.IsLeftOver c) : j.leftUnread = some c := by
  obtain ⟨before, after, rfl, -, hafter⟩ := h
  exact latest_of_split rfl hafter

/-- What is unread came in over this connection or is left over from an earlier one. -/
theorem isCurrent_or_isLeftOver (h : j.leftUnread = some c) : j.IsCurrent c ∨ j.IsLeftOver c := by
  obtain ⟨before, e, after, rfl, he, hafter⟩ := exists_of_latest h
  obtain rfl : e = .published (some c) := by
    cases e <;> simp_all [unreadEffect]
  by_cases hopened : Event.opened ∈ after
  · exact .inr ⟨before, after, rfl, hopened, hafter⟩
  · exact .inl ⟨before, after, rfl, hopened⟩

/-- What has just come in came in over this connection. -/
theorem isCurrent_append_publications {values : List (Option (Command α))} (h : some c ∈ values)
    (j : Journal α) : (j ++ publications values).IsCurrent c := by
  obtain ⟨front, back, rfl⟩ := List.append_of_mem h
  refine ⟨j ++ publications front, publications back, by simp [publications], fun hopened => ?_⟩
  obtain ⟨value, -, hvalue⟩ := List.mem_map.mp hopened
  cases hvalue

end Journal

/-! ## The tick -/

namespace Bridge

variable [AutopilotLink L α]

/-- Nothing is published while a tick does not wait, or finds at once what it waits for. -/
theorem meanwhile_eq_nil {b : Bridge L α} {bursts : List (Burst α)}
    (h : (b.awaitControls bursts).1.ahead = b.heard bursts) :
    b.meanwhile bursts = [] := by
  simp [meanwhile, h]

/-- What a tick is handed was unread in the channel or came in while the tick waited. -/
theorem origin_awaitControls {b : Bridge L α} (hopen : b.connection.channel.closed = false)
    (bursts : List (Burst α)) {c : Command α} (hc : (b.awaitControls bursts).1.command = some c) :
    b.connection.channel.unread = some c ∨ some c ∈ b.meanwhile bursts := by
  obtain ⟨happened, hsplit, horigin⟩ := (b.afterCall hopen bursts).origin
  refine (horigin c hc).imp_right fun ⟨burst, hburst, hnewest⟩ => ?_
  have hhappened : (b.heard bursts).take ((b.heard bursts).length
      - (b.awaitControls bursts).1.ahead.length) = happened := by
    rw [hsplit]
    exact List.take_left' (by simp)
  rw [meanwhile, hhappened]
  exact List.mem_flatMap.mpr ⟨burst, hburst, WaitEvent.mem_published_of_newest hnewest⟩

section
variable [Scalar α]

/-- A tick obtains nothing when the bridge was told to shut down or the simulation is paused. -/
theorem status_preUpdate {b : Bridge L α} {tick : Tick} (hs : b.connection.isShutdown = false)
    (hp : tick.paused = false) (bursts : List (Burst α)) :
    (b.preUpdate tick bursts).status = (b.pollReady.2.awaitControls bursts).1.status := by
  simp only [preUpdate, hs, hp, Bool.false_eq_true, if_false]
  split
  · exact Eq.symm ‹_›
  · rfl

theorem running_of_acknowledged {b : Bridge L α} {tick : Tick} {bursts : List (Burst α)}
    (h : (b.preUpdate tick bursts).status = .acknowledged) :
    b.connection.isShutdown = false ∧ tick.paused = false := by
  unfold preUpdate at h
  cases hs : b.connection.isShutdown with
  | true =>
    rw [hs] at h
    cases h
  | false =>
    cases hp : tick.paused with
    | true =>
      rw [hs, hp] at h
      cases h
    | false => exact ⟨rfl, rfl⟩

end

theorem preUpdateEvents_of_running {b : Bridge L α} {tick : Tick} (hs : b.connection.isShutdown = false)
    (hp : tick.paused = false) (bursts : List (Burst α)) :
    b.preUpdateEvents tick bursts
      = b.connection.pollEvents ++ Journal.publications (b.pollReady.2.meanwhile bursts)
        ++ [.tick (b.pollReady.2.awaitControls bursts).1.status
          (b.pollReady.2.awaitControls bursts).1.command] := by
  simp [preUpdateEvents, hs, hp]

end Bridge

/-! ## The acknowledgement -/

namespace Bridge

variable [AutopilotLink L α]

section
variable {j : Journal α} {mode : TimeMode} {b : Bridge L α}
  (h : j.Records mode b.scheduler b.connection)
include h

/-- Where an acknowledgement comes from, if it comes. -/
theorem origin_of_acknowledged {bursts : List (Burst α)}
    (hstatus : (b.awaitControls bursts).1.status = .acknowledged) :
    ∃ c, (b.awaitControls bursts).1.command = some c
      ∧ ((j ++ Journal.publications (b.meanwhile bursts)).IsCurrent c
        ∨ b.meanwhile bursts = [] ∧ j.IsLeftOver c ∧ ∀ time ∈ j.lastReport, time ≤ c.time) := by
  obtain ⟨hs, timeout, hmode⟩ := Scheduler.lockstep_of_acknowledged hstatus
  obtain ⟨c, hc, ha⟩ := (b.afterCall h.channelOpen bursts).answered hstatus
  refine ⟨c, hc, ?_⟩
  -- it was unread when the tick first looked, or it came in while the tick waited
  rcases origin_awaitControls h.channelOpen bursts hc with hunread | hmem
  · have hnil : b.meanwhile bursts = [] := by
      have hahead := (Scheduler.awaitControls_unread_answer hmode h.channelOpen hunread ha
        b.dispatcher.receivedFirst (b.heard bursts)).2.2
      rw [← hs] at hahead
      exact meanwhile_eq_nil hahead
    rw [hnil, Journal.publications_nil, List.append_nil]
    refine (Journal.isCurrent_or_isLeftOver ((h.unread hs).symm.trans hunread)).imp_right fun hleft => ?_
    refine ⟨rfl, hleft, ?_⟩
    rw [← h.lastReport (by rw [hmode]; rfl)]
    exact Scheduler.answers_eq_true_iff.mp ha
  · exact .inl (Journal.isCurrent_append_publications hmem j)

/-- What is left over and no earlier than the last report acknowledges, at once. -/
theorem acknowledged_of_isLeftOver (hmode : mode.isLockstep = true) (hs : b.connection.isShutdown = false)
    {c : Command α} (hc : j.IsLeftOver c) (htime : ∀ time ∈ j.lastReport, time ≤ c.time)
    (bursts : List (Burst α)) :
    (b.awaitControls bursts).1.status = .acknowledged ∧ (b.awaitControls bursts).1.command = some c
      ∧ b.meanwhile bursts = [] := by
  rw [← h.mode] at hmode
  have hunread : b.connection.channel.unread = some c := (h.unread hs).trans hc.leftUnread
  have ha : b.scheduler.answers c = true := by
    rw [Scheduler.answers_eq_true_iff, h.lastReport hmode]
    exact htime
  cases hlockstep : b.scheduler.mode with
  | freeRunning speedFactor =>
    rw [hlockstep] at hmode
    cases hmode
  | lockstep timeout =>
    have hresult := Scheduler.awaitControls_unread_answer hlockstep h.channelOpen hunread ha
      b.dispatcher.receivedFirst (b.heard bursts)
    rw [← hs] at hresult
    exact ⟨hresult.1, hresult.2.1, meanwhile_eq_nil hresult.2.2⟩

end

end Bridge

namespace Recorded

variable [Scalar α] [AutopilotLink L α]

/--
**An acknowledgement comes from the open connection, or it is what an earlier one left unread.** Of the first
two parts the one says that there is nothing else, the other that a command left over always acknowledges if
no report of the connection is later. All acknowledgements are counted, and nothing else is.
-/
theorem preUpdate_acknowledged_from {c : Config α} (hlockstep : c.lockstep = true) {link : L}
    {names : NameService} {b : Bridge L α} (hb : Bridge.configure c link names = .ok b)
    (calls : List (Call L α)) (tick : Tick) (bursts : List (Burst α)) :
    let r := run b calls
    let next := r.step (.preUpdate tick bursts)
    let j := r.journal ++ r.bridge.connection.pollEvents
    ((r.bridge.preUpdate tick bursts).status = .acknowledged →
        ∃ values command, next.journal = j ++ .publications values ++ [.tick .acknowledged (some command)]
          ∧ ((j ++ .publications values).IsCurrent command
            ∨ values = [] ∧ j.IsLeftOver command ∧ ∀ time ∈ j.lastReport, time ≤ command.time))
      ∧ (∀ command, tick.paused = false → r.bridge.pollReady.2.connection.isShutdown = false →
          j.IsLeftOver command → (∀ time ∈ j.lastReport, time ≤ command.time) →
          (r.bridge.preUpdate tick bursts).status = .acknowledged
            ∧ next.journal = j ++ [.tick .acknowledged (some command)])
      ∧ next.bridge.scheduler.stats.acknowledged = next.journal.countP Event.isAcknowledged := by
  intro r next j
  have h := records_run hb calls
  have hpolled := Bridge.records_pollReady h
  refine ⟨fun hstatus => ?_, fun command hp hs hleft htime => ?_, (records_step h _).acknowledged⟩
  · obtain ⟨hs, hp⟩ := Bridge.running_of_acknowledged hstatus
    rw [Bridge.status_preUpdate hs hp] at hstatus
    obtain ⟨command, hcommand, horigin⟩ := Bridge.origin_of_acknowledged hpolled hstatus
    refine ⟨r.bridge.pollReady.2.meanwhile bursts, command, ?_, horigin⟩
    show r.journal ++ r.bridge.preUpdateEvents tick bursts = _
    rw [Bridge.preUpdateEvents_of_running hs hp, hstatus, hcommand, ← List.append_assoc, ← List.append_assoc]
  · have hrunning : r.bridge.connection.isShutdown = false := by
      rw [Bridge.connection_pollReady] at hs
      rw [Bool.eq_false_iff]
      exact fun hc => by simp [r.bridge.connection.moves_pollReady.isShutdown hc] at hs
    obtain ⟨hstatus, hcommand, hnil⟩ :=
      Bridge.acknowledged_of_isLeftOver hpolled (by simp [TimeMode.ofConfig, hlockstep, TimeMode.isLockstep])
        hs hleft htime bursts
    refine ⟨(Bridge.status_preUpdate hrunning hp bursts).trans hstatus, ?_⟩
    show r.journal ++ r.bridge.preUpdateEvents tick bursts = _
    rw [Bridge.preUpdateEvents_of_running hrunning hp, hstatus, hcommand, hnil, Journal.publications_nil,
      List.append_nil, ← List.append_assoc]

end Recorded

namespace Recorded

/-- A late command comes in after the report of 8 ms, and before anyone reads it there is a reconnection. -/
def leftoverCalls : List (Call (ScriptedLink Float) Float) :=
  Trial.opening ++ Trial.report 8000 ++ [.happen [.publish (some (Trial.command 4000))], .reconnect]

/-- The late command of the first connection is what the second one holds, and it acknowledges. -/
theorem acknowledged_from_first_connection :
    ∃ b, Bridge.configure Trial.config Trial.link Trial.names = .ok b ∧
      let r := run b leftoverCalls
      Trial.config.lockstep = true
        ∧ r.journal.IsLeftOver (Trial.command 4000)
        ∧ (r.bridge.preUpdate (Trial.tick 8000) []).status = .acknowledged := by
  have hrun : (Bridge.configure Trial.config Trial.link Trial.names).toOption.map (fun b =>
      let r := run b leftoverCalls
      (r.journal, r.bridge.connection.pollEvents, r.bridge.pollReady.2.connection.isShutdown))
      = some ([.opened, .tick .holding none, .reported 8000, .published (some (Trial.command 4000)),
          .closing, .opened], [], false) := by
    decide +kernel
  obtain ⟨b, hb, hr⟩ := Trial.exists_of_map hrun
  simp only [Prod.mk.injEq] at hr
  obtain ⟨hjournal, hpoll, hs⟩ := hr
  have hleft : (run b leftoverCalls).journal.IsLeftOver (Trial.command 4000) :=
    ⟨[.opened, .tick .holding none, .reported 8000], [.closing, .opened], hjournal, by simp, by
      simp [Journal.unreadEffect]⟩
  obtain ⟨-, hanswers, -⟩ := preUpdate_acknowledged_from rfl hb leftoverCalls (Trial.tick 8000) []
  refine ⟨b, hb, rfl, hleft, (hanswers (Trial.command 4000) rfl hs ?_ ?_).1⟩
  · rw [hpoll, List.append_nil]
    exact hleft
  · rw [hpoll, List.append_nil, hjournal]
    nofun

/-- A command that came in over the first connection, and late at that, is counted over the second. -/
theorem leftover_acknowledges :
    ∃ b, Bridge.configure Trial.config Trial.link Trial.names = .ok b ∧
      let r := run b leftoverCalls
      let next := r.step (.preUpdate (Trial.tick 8000) [])
      r.bridge.connection.epoch = 2
        ∧ next.journal = [.opened, .tick .holding none, .reported 8000,
            .published (some (Trial.command 4000)), .closing, .opened,
            .tick .acknowledged (some (Trial.command 4000))]
        ∧ (r.bridge.preUpdate (Trial.tick 8000) []).status = .acknowledged
        ∧ next.bridge.scheduler.stats.acknowledged = 1 := by
  have hrun : (Bridge.configure Trial.config Trial.link Trial.names).toOption.map (fun b =>
      let r := run b leftoverCalls
      let next := r.step (.preUpdate (Trial.tick 8000) [])
      (r.bridge.connection.epoch, next.journal, (r.bridge.preUpdate (Trial.tick 8000) []).status,
        next.bridge.scheduler.stats.acknowledged))
      = some (2, [.opened, .tick .holding none, .reported 8000,
            .published (some (Trial.command 4000)), .closing, .opened,
            .tick .acknowledged (some (Trial.command 4000))], .acknowledged, 1) := by
    decide +kernel
  obtain ⟨b, hb, hr⟩ := Trial.exists_of_map hrun
  simp only [Prod.mk.injEq] at hr
  exact ⟨b, hb, hr⟩

end Recorded

end HilBridge
