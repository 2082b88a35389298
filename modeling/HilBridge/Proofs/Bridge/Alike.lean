import HilBridge.Proofs.Bridge.Numbering
import HilBridge.Proofs.Simulation.ClosedLoop
import HilBridge.Proofs.Simulation.Refill

/-!
# `HilBridge.Proofs.Bridge.Alike` — two bridges that differ in the numbers of inertial samples

Two bridges are used side by side, each over a link of its own, and nothing that they are asked differs. If they
differ in the numbers of their inertial samples only, then they still do after either half of a tick: they obtain the
same actuator state, publish the same, and send the same messages but for the numbers. What it takes is that the
autopilots do not tell the difference (`Unfailing`).

What the assemblers hold is left out of `Bridge.Alike`, since it is replaced in the middle of a tick; the first half
leaves it alone, and the second is told that it differs in the numbers only.
-/

namespace HilBridge

variable {L α : Type}

/--
The laws of two open links in use side by side that never fail, and whose autopilots answer messages in the same way
whatever the numbers in them. When and what they answer is up to them.
-/
structure Unfailing [AutopilotLink L α] (alike : L → L → Prop) : Prop where
  isOpen : ∀ link link', alike link link' → AutopilotLink.isOpen link = true ∧ AutopilotLink.isOpen link' = true
  sends : ∀ link link' message message', alike link link' → message.unnumbered = message'.unnumbered →
    let o := AutopilotLink.send link message
    let o' := AutopilotLink.send link' message'
    o.result = .ok () ∧ o.isShutdown = false ∧ o'.result = .ok () ∧ o'.isShutdown = false
      ∧ o'.published = o.published ∧ alike o.link o'.link

/-! ## Links in memory -/

namespace ScriptedLink

/-- Open links that nothing is set to fail at, and that may differ in what was sent. -/
structure Alike (l l' : ScriptedLink α) : Prop where
  same : l' = { l with sent := l'.sent }
  isOpen : l.isOpen = true
  sends : l.refusesSend = false
  stays : l.endsAtSend = false

theorem send_of_willing {l : ScriptedLink α} (hsends : l.refusesSend = false) (hstays : l.endsAtSend = false)
    (message : Message α) :
    l.send message = ⟨.ok (), { l with sent := message :: l.sent, endsAtSend := false }, l.answers message, false⟩ := by
  rw [ScriptedLink.send, hsends, hstays, Bool.false_and, if_neg Bool.false_ne_true]

/-- Whether they answer, and with what, does not depend on numbers. -/
theorem unfailing : Unfailing (Alike : ScriptedLink α → ScriptedLink α → Prop) where
  isOpen link link' h := by
    refine ⟨h.isOpen, ?_⟩
    rw [h.same]
    exact h.isOpen
  sends link link' message message' h hmessage := by
    have hsend := send_of_willing h.sends h.stays message
    have hsend' : link'.send message' = ⟨.ok (), { link with sent := message' :: link'.sent, endsAtSend := false },
        link.answers message', false⟩ := by
      rw [h.same]
      exact send_of_willing (l := { link with sent := link'.sent }) h.sends h.stays message'
    have htime : message'.imuTime? = message.imuTime? := by
      rw [← message.imuTime?_unnumbered, hmessage, message'.imuTime?_unnumbered]
    have hanswers : link.answers message' = link.answers message := by
      rw [answers, htime, answers]
    intro o o'
    rw [show o = _ from hsend, show o' = _ from hsend', hanswers]
    exact ⟨rfl, rfl, rfl, rfl, rfl, rfl, h.isOpen, h.sends, rfl⟩

end ScriptedLink

/-! ## Connections -/

namespace Connection

/-- Connections that differ in their links only. -/
structure Alike (alike : L → L → Prop) (c c' : Connection L α) : Prop where
  same : c' = { c with link := c'.link }
  link : alike c.link c'.link

variable [AutopilotLink L α] {alike : L → L → Prop} {c c' : Connection L α}

/-- Messages that differ in their numbers go out over both. -/
theorem Alike.send (h : c.Alike alike c') (hlink : Unfailing alike) (hrunning : c.isShutdown = false)
    {message message' : Message α} (hmessage : message.unnumbered = message'.unnumbered) :
    ∃ d d', c.send message = (.ok (), d) ∧ c'.send message' = (.ok (), d') ∧ d.Alike alike d'
      ∧ d.isShutdown = false ∧ d.epoch = c.epoch := by
  obtain ⟨hsame, halike⟩ := h
  obtain ⟨hopen, hopen'⟩ := hlink.isOpen _ _ halike
  obtain ⟨hresult, hshutdown, hresult', hshutdown', hpublished, hafter⟩ :=
    hlink.sends _ _ message message' halike hmessage
  refine ⟨c.absorb (AutopilotLink.send c.link message), c'.absorb (AutopilotLink.send c'.link message'),
    ?_, ?_, ⟨?_, hafter⟩, ?_, rfl⟩
  · simp only [Connection.send, hrunning, Bool.false_eq_true, if_false, hopen, if_true, hresult]
  · have hrunning' : c'.isShutdown = false := by rw [hsame, hrunning]
    simp only [Connection.send, hrunning', Bool.false_eq_true, if_false, hopen', if_true, hresult']
  · generalize c'.link = link' at *
    subst hsame
    simp only [absorb, hpublished, hshutdown, hshutdown']
  · simp only [absorb, hrunning, hshutdown, Bool.or_self]

theorem Alike.sendAll (h : c.Alike alike c') (hlink : Unfailing alike) (hrunning : c.isShutdown = false)
    {messages messages' : List (Message α)}
    (hmessages : messages.map Message.unnumbered = messages'.map Message.unnumbered) :
    ∃ d d', Bridge.sendAll c messages = ⟨messages, messages, d⟩
      ∧ Bridge.sendAll c' messages' = ⟨messages', messages', d'⟩
      ∧ d.Alike alike d' ∧ d.isShutdown = false ∧ d.epoch = c.epoch := by
  induction messages generalizing c c' messages' with
  | nil =>
    obtain rfl : messages' = [] := List.map_eq_nil_iff.mp hmessages.symm
    exact ⟨c, c', rfl, rfl, h, hrunning, rfl⟩
  | cons message rest ih =>
    cases messages' with
    | nil => cases hmessages
    | cons message' rest' =>
      obtain ⟨hmessage, hrest⟩ := List.cons.inj hmessages
      obtain ⟨d, d', hsend, hsend', halike, hd, hepoch⟩ := h.send hlink hrunning hmessage
      obtain ⟨e, e', hall, hall', halike', he, hepoch'⟩ := ih halike hd hrest
      refine ⟨e, e', ?_, ?_, halike', he, hepoch'.trans hepoch⟩
      · rw [Bridge.sendAll, hsend]
        simp only [hall]
      · rw [Bridge.sendAll, hsend']
        simp only [hall']

end Connection

namespace Scheduler

theorem look_cases (s : Scheduler) (channel : CommandChannel α) :
    (∃ status command s', s.look channel = .ended status command s' ∧ status ≠ .shutdown ∧ s'.epoch = s.epoch)
      ∨ ∃ s', s.look channel = .waiting s' ∧ s'.epoch = s.epoch := by
  unfold look
  split
  · split
    · exact .inl ⟨_, _, _, rfl, nofun, rfl⟩
    · split
      · exact .inl ⟨_, _, _, rfl, nofun, rfl⟩
      · exact .inr ⟨_, rfl, rfl⟩
  · split
    · exact .inl ⟨_, _, _, rfl, nofun, rfl⟩
    · exact .inr ⟨_, rfl, rfl⟩

/-- When nothing happens during a call, there is no shutdown in it either. -/
theorem awaitControls_nil (s : Scheduler) (channel : CommandChannel α) (receivedFirst : Bool) :
    let r := s.awaitControls channel receivedFirst false []
    r.status ≠ .shutdown ∧ r.isShutdown = false ∧ r.scheduler.epoch = s.epoch := by
  unfold awaitControls
  rw [if_neg Bool.false_ne_true]
  cases s.mode with
  | freeRunning speedFactor => exact ⟨nofun, rfl, rfl⟩
  | lockstep timeout =>
    dsimp only
    split
    · rcases s.look_cases channel with ⟨status, command, s', hlook, hstatus, hepoch⟩ | ⟨s', hlook, hepoch⟩
      · rw [waitFrom_ended hlook]
        exact ⟨hstatus, rfl, hepoch⟩
      · have hnothing : ∀ burst ∈ ([] : List (Burst α)).head?, ¬ burst.time < timeout := by
          intro burst hburst
          cases hburst
        rw [waitFrom_deadline hlook hnothing]
        exact ⟨nofun, rfl, hepoch⟩
    · rcases s.takeUnawaited_cases channel receivedFirst [] with ⟨-, hr⟩ | ⟨_, -, -, hr⟩ | ⟨_, -, -, hr⟩ <;>
        rw [hr] <;> exact ⟨nofun, rfl, rfl⟩

end Scheduler

/-! ## Bridges -/

namespace Bridge

/-- Bridges that differ in their links and in what their assemblers hold. -/
structure Alike (alike : L → L → Prop) (b b' : Bridge L α) : Prop where
  connection : b.connection.Alike alike b'.connection
  scheduler : b'.scheduler = b.scheduler
  dispatcher : b'.dispatcher = b.dispatcher
  messagesSent : b'.messagesSent = b.messagesSent

variable [AutopilotLink L α]

/-- A bridge that is not shut down, has its link open and knows of the opening. -/
structure Running (b : Bridge L α) : Prop where
  running : b.connection.isShutdown = false
  isOpen : AutopilotLink.isOpen b.connection.link = true
  synced : b.scheduler.epoch = b.connection.epoch

variable {alike : L → L → Prop} {b b' : Bridge L α}

theorem Alike.running (h : b.Alike alike b') (hlink : Unfailing alike) (hb : b.Running) : b'.Running where
  running := by
    rw [h.connection.same]
    exact hb.running
  isOpen := (hlink.isOpen _ _ h.connection.link).2
  synced := by
    rw [h.scheduler, h.connection.same]
    exact hb.synced

/-- Over either of two such links all messages go out. -/
theorem Alike.sends (h : b.Alike alike b') (hlink : Unfailing alike) (hb : b.Running) (messages : List (Message α)) :
    (sendAll b.connection messages).sent = messages ∧ (sendAll b'.connection messages).sent = messages := by
  obtain ⟨c, c', hsend, hsend', -⟩ := h.connection.sendAll hlink hb.running (Eq.refl (messages.map Message.unnumbered))
  exact ⟨congrArg Sending.sent hsend, congrArg Sending.sent hsend'⟩

variable [Scalar α]

/-! ### The first half of a tick -/

omit [Scalar α] in
theorem Running.pollReady (h : b.Running) : b.pollReady = (true, b) :=
  InStep.pollReady_of_open h.running h.isOpen h.synced

/-- What a call of the scheduler comes to for the bridge. -/
def obtained (b : Bridge L α) (r : WaitResult α) : Bridge L α :=
  { b with
    scheduler := r.scheduler
    connection := { b.connection with
      channel := r.channel
      isShutdown := b.connection.isShutdown || r.isShutdown
      now := b.connection.now + r.waited } }

/-- A running bridge obtains the actuator state and publishes it. -/
theorem Running.preUpdate (h : b.Running) {tick : Tick} (hpaused : tick.paused = false) :
    let r := b.scheduler.awaitControls b.connection.channel b.dispatcher.receivedFirst false []
    let after := (b.obtained r).applyCommand r.command
    (b.preUpdate tick []).status = r.status ∧ r.status ≠ .shutdown
      ∧ (b.preUpdate tick []).published = after.dispatcher.outputs.publications
      ∧ (b.preUpdate tick []).bridge = after := by
  intro r after
  obtain ⟨hstatus, -, -⟩ :=
    b.scheduler.awaitControls_nil b.connection.channel b.dispatcher.receivedFirst
  have hresult : (b.awaitControls []).1 = r := by
    simp only [r, ← h.running]
    rfl
  have hbridge : (b.awaitControls []).2.1 = b.obtained r := by
    rw [← hresult]
    rfl
  have hgoes : ¬ (b.awaitControls []).1.status = .shutdown := by
    rw [hresult]
    exact hstatus
  have hstart : b.preUpdate tick [] =
      let r := b.awaitControls []
      let after := r.2.1.applyCommand r.1.command
      ⟨r.1.status, after.dispatcher.outputs.publications, after, r.2.2⟩ := by
    simp only [Bridge.preUpdate, h.running, hpaused, Bool.false_eq_true, if_false, h.pollReady, if_neg hgoes]
  rw [hstart]
  dsimp only
  rw [hresult, hbridge]
  exact ⟨rfl, hstatus, rfl, rfl⟩

/-- The first half of a tick leaves a bridge running and its assembler alone. -/
theorem Running.afterPreUpdate (h : b.Running) {tick : Tick} (hpaused : tick.paused = false) :
    let after := (b.preUpdate tick []).bridge
    after.Running ∧ after.assembler = b.assembler ∧ b.scheduler.SamePace after.scheduler := by
  intro after
  obtain ⟨-, -, -, hbridge⟩ := h.preUpdate hpaused
  obtain ⟨-, hshutdown, hepoch⟩ :=
    b.scheduler.awaitControls_nil b.connection.channel b.dispatcher.receivedFirst
  have hassembler : ∀ (b : Bridge L α) command, (b.applyCommand command).assembler = b.assembler := by
    intro b command
    cases command <;> rfl
  simp only [after, hbridge]
  refine ⟨⟨?_, ?_, ?_⟩, hassembler _ _, ?_⟩
  · rw [connection_applyCommand]
    show (b.connection.isShutdown || _) = false
    rw [h.running, hshutdown]
    rfl
  · rw [connection_applyCommand]
    exact h.isOpen
  · rw [connection_applyCommand, scheduler_applyCommand]
    exact hepoch.trans h.synced
  · rw [scheduler_applyCommand]
    exact Scheduler.samePace_awaitControls ..

/-- Both obtain the same actuator state. -/
theorem Alike.preUpdate (h : b.Alike alike b') (hlink : Unfailing alike) (hb : b.Running) {tick : Tick}
    (hpaused : tick.paused = false) :
    (b'.preUpdate tick []).status = (b.preUpdate tick []).status
      ∧ (b'.preUpdate tick []).published = (b.preUpdate tick []).published
      ∧ (b.preUpdate tick []).bridge.Alike alike (b'.preUpdate tick []).bridge := by
  obtain ⟨hstatus, -, hpublished, hbridge⟩ := hb.preUpdate hpaused
  obtain ⟨hstatus', -, hpublished', hbridge'⟩ := (h.running hlink hb).preUpdate hpaused
  have hchannel : b'.connection.channel = b.connection.channel := by rw [h.connection.same]
  rw [hchannel, h.scheduler, h.dispatcher] at hstatus' hpublished' hbridge'
  generalize b.scheduler.awaitControls b.connection.channel b.dispatcher.receivedFirst false [] = r at *
  -- what is obtained is applied by equal dispatchers
  have happlied : ((b'.obtained r).applyCommand r.command).dispatcher
      = ((b.obtained r).applyCommand r.command).dispatcher := by
    cases r.command with
    | none => exact h.dispatcher
    | some command => exact congrArg (fun d => (d.apply command).2) h.dispatcher
  have hsent : ∀ (b : Bridge L α) command, (b.applyCommand command).messagesSent = b.messagesSent := by
    intro b command
    cases command <;> rfl
  refine ⟨hstatus'.trans hstatus.symm, ?_, ?_⟩
  · rw [hpublished', hpublished, happlied]
  · rw [hbridge, hbridge']
    constructor
    · rw [connection_applyCommand, connection_applyCommand]
      constructor
      · exact congrArg (fun c : Connection L α => { c with
          channel := r.channel, isShutdown := c.isShutdown || r.isShutdown, now := c.now + r.waited }) h.connection.same
      · exact h.connection.link
    · rw [scheduler_applyCommand, scheduler_applyCommand]
      rfl
    · exact happlied
    · rw [hsent, hsent]
      exact h.messagesSent

/-! ### The second half of a tick -/

omit [Scalar α] in
/-- A running bridge goes on with the timetable. -/
theorem Running.planCycle (h : b.Running) {tick : Tick} (hpaused : tick.paused = false) :
    b.planCycle tick = ((b.scheduler.planCycle tick).1, { b with scheduler := (b.scheduler.planCycle tick).2 }) := by
  simp only [Bridge.planCycle, hpaused, h.running, Bool.or_self, Bool.false_eq_true, if_false, h.pollReady]

/-- Its second half is without a cycle, or the one that is planned. -/
theorem Running.tickEnd (h : b.Running) {tick : Tick} (hpaused : tick.paused = false) :
    (b.scheduler.planCycle tick = (none, b.scheduler) ∧ b.tickEnd tick = ⟨[], [], [], b⟩)
      ∨ ∃ s, b.scheduler.planCycle tick = (some (b.scheduler.cyclePlan b.scheduler.stats.cycles tick.time), s)
        ∧ b.tickEnd tick
          = { b with scheduler := s }.runCycle (b.scheduler.cyclePlan b.scheduler.stats.cycles tick.time)
        ∧ s.mode = b.scheduler.mode ∧ s.skipFactor = b.scheduler.skipFactor ∧ s.epoch = b.scheduler.epoch := by
  have honward := b.scheduler.onward_planCycle tick
  have hplanned := h.planCycle hpaused
  rcases b.scheduler.planCycle_cases tick with hplan | ⟨s, hplan, hmode, hskip, -⟩
  · rw [hplan] at hplanned
    exact .inl ⟨hplan, tickEnd_of_unplanned hplanned⟩
  · rw [hplan] at honward hplanned
    exact .inr ⟨s, hplan, tickEnd_of_planned hplanned, hmode, hskip, honward.epoch⟩

theorem runCycle_of_sendAll {plan : CyclePlan} {messages : List (Message α)} {c : Connection L α}
    (hmessages : (b.cycleMessages plan).1 = messages)
    (hsend : sendAll b.connection messages = ⟨messages, messages, c⟩) :
    b.runCycle plan =
      { messages, handed := messages, sent := messages
        bridge :=
          { b with
            connection := c
            assembler := (b.assembler.assemble plan).2
            scheduler :=
              (b.scheduler.heartbeatDue plan.now).2.markSent plan.now (messages.filterMap Message.imuTime?).getLast?
            messagesSent := b.messagesSent + messages.length } } := by
  subst hmessages
  have hsend : sendAll (b.cycleMessages plan).2.connection (b.cycleMessages plan).1 = _ := hsend
  unfold runCycle
  dsimp only
  rw [hsend]
  rfl

/-- Equal plans make messages that differ in their numbers, and all of these go out. -/
theorem Alike.runCycle (h : b.Alike alike b') (hlink : Unfailing alike) (hb : b.Running)
    (hassembler : b.assembler.unnumbered = b'.assembler.unnumbered) (plan : CyclePlan) :
    let e := b.runCycle plan
    let e' := b'.runCycle plan
    e.sent = e.messages ∧ e'.sent = e'.messages
      ∧ e.messages.map Message.unnumbered = e'.messages.map Message.unnumbered
      ∧ e.bridge.Alike alike e'.bridge ∧ e.bridge.Running := by
  intro e e'
  obtain ⟨hreports, -⟩ := Assembler.assemble_congr hassembler plan
  have hmessages : (b.cycleMessages plan).1.map Message.unnumbered
      = (b'.cycleMessages plan).1.map Message.unnumbered := by
    rw [cycleMessages_fst, cycleMessages_fst, h.scheduler, List.map_append, List.map_append, List.map_map,
      List.map_map]
    exact congrArg _ hreports
  obtain ⟨c, c', hsend, hsend', halike, hrunning, hepoch⟩ := h.connection.sendAll hlink hb.running hmessages
  have hbeat := b.scheduler.onward_heartbeatDue plan.now
  simp only [e, e', runCycle_of_sendAll rfl hsend, runCycle_of_sendAll rfl hsend']
  refine ⟨trivial, trivial, hmessages, ?_, ?_⟩
  · -- what is remembered of the messages are their times and how many they are
    have htimes : (b'.cycleMessages plan).1.filterMap Message.imuTime?
        = (b.cycleMessages plan).1.filterMap Message.imuTime? := by
      have hread := congrArg (List.filterMap Message.imuTime?) hmessages
      simp only [List.filterMap_map, Function.comp_def, Message.imuTime?_unnumbered] at hread
      exact hread.symm
    have hcount : (b'.cycleMessages plan).1.length = (b.cycleMessages plan).1.length := by
      have hlength := congrArg List.length hmessages
      rw [List.length_map, List.length_map] at hlength
      exact hlength.symm
    constructor
    · exact halike
    · dsimp only
      rw [htimes, h.scheduler]
    · exact h.dispatcher
    · dsimp only
      rw [hcount, h.messagesSent]
  · constructor
    · exact hrunning
    · exact (hlink.isOpen _ _ halike.link).1
    · dsimp only
      rw [Scheduler.epoch_markSent, hbeat.epoch, hb.synced, hepoch]

/-- Both send the same messages, but for the numbers, and differ in nothing else afterwards. -/
theorem Alike.tickEnd (h : b.Alike alike b') (hlink : Unfailing alike) (hb : b.Running)
    (hassembler : b.assembler.unnumbered = b'.assembler.unnumbered) {tick : Tick} (hpaused : tick.paused = false) :
    let e := b.tickEnd tick
    let e' := b'.tickEnd tick
    e.sent.map Message.unnumbered = e'.sent.map Message.unnumbered
      ∧ e.bridge.Alike alike e'.bridge ∧ e.bridge.Running
      ∧ e.bridge.assembler.unnumbered = e'.bridge.assembler.unnumbered := by
  intro e e'
  have hb' := h.running hlink hb
  rcases hb.tickEnd hpaused with ⟨hplan, hidle⟩ | ⟨s, hplan, hcycle, -, -, hepoch⟩
  · rw [← h.scheduler] at hplan
    rcases hb'.tickEnd hpaused with ⟨-, hidle'⟩ | ⟨s', hplan', -⟩
    · simp only [e, e', hidle, hidle']
      exact ⟨trivial, h, hb, hassembler⟩
    · rw [hplan] at hplan'
      cases hplan'
  · rw [← h.scheduler] at hplan
    rcases hb'.tickEnd hpaused with ⟨hplan', -⟩ | ⟨s', hplan', hcycle', -⟩
    · rw [hplan] at hplan'
      cases hplan'
    · obtain rfl : s = s' := congrArg Prod.snd (hplan.symm.trans hplan')
      simp only [e, e', hcycle, hcycle', h.scheduler]
      generalize b.scheduler.cyclePlan b.scheduler.stats.cycles tick.time = plan
      have hplanning : ({ b with scheduler := s } : Bridge L α).Alike alike { b' with scheduler := s } :=
        ⟨h.connection, rfl, h.dispatcher, h.messagesSent⟩
      have hrunning : ({ b with scheduler := s } : Bridge L α).Running :=
        ⟨hb.running, hb.isOpen, hepoch.trans hb.synced⟩
      obtain ⟨hsent, hsent', hmessages, halike, hafter⟩ := hplanning.runCycle hlink hrunning hassembler plan
      refine ⟨?_, halike, hafter, ?_⟩
      · rw [hsent, hsent']
        exact hmessages
      · rw [assembler_runCycle, assembler_runCycle]
        exact (Assembler.assemble_congr hassembler plan).2

end Bridge

end HilBridge
