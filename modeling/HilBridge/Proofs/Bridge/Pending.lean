import HilBridge.Proofs.Bridge.Records

/-!
# `HilBridge.Proofs.Bridge.Pending` — which report a tick waits for

The scheduler knows of the link only how often it was opened. That a tick waits for a report that really went
out, over the connection that is there and not settled since, is a fact about whole runs.

**Main statement.** `waits_only_for_outstanding`. Where the waiting tick finds the link closed, it has dropped
after the report or a reconnection has closed it, and it was not opened again; `waits_with_closed_link` is a
run with such a tick.
-/

namespace HilBridge

variable {L α : Type}

/-! ## Links that may be closed -/

namespace Journal

variable {j k : Journal α}

/-- Only an opening or a report makes sure of the link again. -/
theorem isAdrift_append (h : j.isAdrift = true) (hk : ∀ e ∈ k, closingEffect e ≠ some none) :
    (j ++ k).isAdrift = true :=
  isSome_latest_append h hk

theorem isAdrift_append_of_mem (j : Journal α) {e : Event α} (he : e ∈ k)
    (heffect : closingEffect e = some (some ())) (hk : ∀ e ∈ k, closingEffect e ≠ some none) :
    (j ++ k).isAdrift = true := by
  obtain ⟨front, back, rfl⟩ := List.append_of_mem he
  rw [List.append_cons, ← List.append_assoc, ← List.append_assoc]
  refine isAdrift_append ?_ fun e he => hk e (by simp [he])
  rw [isAdrift, latest_concat, heffect]
  rfl

/-- After the last report there was a reconnection, or the link dropped. -/
theorem mem_of_isAdrift {before after : Journal α} {time : Nat}
    (h : (before ++ .reported time :: after).isAdrift = true)
    (hafter : ∀ e ∈ after, outstandingEffect e = none) :
    Event.closing ∈ after ∨ Event.dropped ∈ after := by
  by_contra hnone
  rw [not_or] at hnone
  have hquiet : ∀ e ∈ after, closingEffect e = none := by
    intro e he
    have heffect := hafter e he
    cases e with
    | closing => exact absurd he hnone.1
    | dropped => exact absurd he hnone.2
    | published _ => rfl
    | tick _ _ => rfl
    | opened => cases heffect
    | reported _ => cases heffect
  have hforgotten : latest closingEffect (before ++ .reported time :: after) = none :=
    latest_of_split rfl hquiet
  rw [isAdrift, hforgotten] at h
  cases h

end Journal

/-! ## The invariant -/

theorem Scheduler.awaiting_onEpoch {s : Scheduler} {epoch : Nat} (h : (s.onEpoch epoch).2.awaiting = true) :
    epoch = s.epoch ∧ s.awaiting = true := by
  unfold onEpoch at h
  split at h
  · exact ⟨‹_›, h⟩
  · cases h

/-- The link is open, or it may have been closed since the last report. -/
def OpenOrAdrift [AutopilotLink L α] (j : Journal α) (c : Connection L α) : Prop :=
  AutopilotLink.isOpen c.link = true ∨ j.isAdrift = true

/-- While an answer is awaited the link is open, or it may have been closed since the report. -/
def Moored [AutopilotLink L α] (j : Journal α) (s : Scheduler) (c : Connection L α) : Prop :=
  s.awaiting = true → OpenOrAdrift j c

namespace Moored

variable [AutopilotLink L α] {j k : Journal α} {mode : TimeMode} {s s' : Scheduler} {c c' : Connection L α}

/-- The invariant stays if the link does and no report or opening is added. -/
theorem beside (h : Moored j s c) (hk : ∀ e ∈ k, Journal.closingEffect e ≠ some none)
    (hawaiting : s'.awaiting = true → s.awaiting = true)
    (hlink : AutopilotLink.isOpen c.link = true → AutopilotLink.isOpen c'.link = true) :
    Moored (j ++ k) s' c' :=
  fun ha => (h (hawaiting ha)).imp hlink fun hadrift => Journal.isAdrift_append hadrift hk

/-- Opening and closing keep the invariant: what is awaited is forgotten, or nothing was opened. -/
theorem connecting (h : Moored j s c) (hrecords : j.Records mode s c) (hmoves : c.Moves k c')
    (hk : ∀ e ∈ k, e.isConnecting = true)
    (hlink : AutopilotLink.isOpen c.link = true →
      AutopilotLink.isOpen c'.link = true ∨ Event.closing ∈ k) :
    Moored (j ++ k) (s.onEpoch c'.epoch).2 c' := by
  intro ha
  -- an answer that is still awaited was awaited before, and there was no opening
  obtain ⟨hepoch, ha⟩ := Scheduler.awaiting_onEpoch ha
  have hnone : k.countP Event.isOpened = 0 := by
    have hcount := hmoves.epoch
    have hsynced := hrecords.synced
    omega
  have hquiet : ∀ e ∈ k, Journal.closingEffect e ≠ some none := by
    intro e he heffect
    have hopened := List.countP_eq_zero.mp hnone e he
    have hconnecting := hk e he
    cases e <;> simp_all [Journal.closingEffect, Event.isOpened, Event.isConnecting]
  rcases h ha with hopen | hadrift
  · exact (hlink hopen).imp_right fun hclosing => Journal.isAdrift_append_of_mem j hclosing rfl hquiet
  · exact .inr (Journal.isAdrift_append hadrift hquiet)

end Moored

namespace Connection

variable [AutopilotLink L α]

theorem pollReady_of_isOpen {c : Connection L α} (h : AutopilotLink.isOpen c.link = true) :
    c.pollReady.2 = c := by
  unfold pollReady
  cases c.isShutdown <;> simp [h]

/-- Nothing can be sent over a closed link. -/
theorem sendAll_of_closed {c : Connection L α} (h : AutopilotLink.isOpen c.link = false)
    (messages : List (Message α)) :
    (Bridge.sendAll c messages).sent = [] ∧ (Bridge.sendAll c messages).connection = c
      ∧ Bridge.sendAllEvents c messages = [] := by
  induction messages with
  | nil => exact ⟨rfl, rfl, rfl⟩
  | cons message rest ih =>
    have hevents : c.sendEvents message = [] := by simp [sendEvents, h]
    unfold Bridge.sendAll Bridge.sendAllEvents
    cases hs : c.isShutdown with
    | true => simp [send, hs, hevents]
    | false => simp [send, hs, h, hevents, ih]

/-- An open link stays open or drops. -/
theorem openOrAdrift_append_dropEvents {before : L} (h : AutopilotLink.isOpen before = true) (j : Journal α)
    (c : Connection L α) : OpenOrAdrift (j ++ dropEvents before c.link) c := by
  cases hopen : AutopilotLink.isOpen c.link with
  | true => exact .inl hopen
  | false =>
    have hdropped : dropEvents before c.link = [.dropped] := by simp [dropEvents, h, hopen]
    rw [hdropped, OpenOrAdrift, Journal.isAdrift, Journal.latest_concat]
    exact .inr rfl

theorem openOrAdrift_send {j : Journal α} {c : Connection L α} (h : OpenOrAdrift j c) (message : Message α) :
    OpenOrAdrift (j ++ c.sendEvents message) (c.send message).2 := by
  unfold sendEvents send
  cases hs : c.isShutdown with
  | true => simpa using h
  | false =>
    cases hopen : AutopilotLink.isOpen c.link with
    | false => simpa using h
    | true =>
      simp only [Bool.not_true, Bool.or_self, Bool.false_eq_true, if_false, if_true]
      rw [← List.append_assoc]
      cases (AutopilotLink.send c.link message).result <;> exact openOrAdrift_append_dropEvents hopen _ _

theorem openOrAdrift_sendAll {j : Journal α} {c : Connection L α} (h : OpenOrAdrift j c)
    (messages : List (Message α)) :
    OpenOrAdrift (j ++ Bridge.sendAllEvents c messages) (Bridge.sendAll c messages).connection := by
  induction messages generalizing j c with
  | nil => simpa [Bridge.sendAllEvents, Bridge.sendAll] using h
  | cons message rest ih =>
    have hsend := openOrAdrift_send h message
    unfold Bridge.sendAllEvents Bridge.sendAll
    rw [← List.append_assoc]
    rcases hsent : c.send message with ⟨e | _, c'⟩ <;> rw [hsent] at hsend
    · cases e <;> first | exact ih hsend | simpa using hsend
    · exact ih hsend

end Connection

namespace Bridge

variable [AutopilotLink L α]

section
variable {j : Journal α} {mode : TimeMode} {b : Bridge L α} (h : Moored j b.scheduler b.connection)
  (hrecords : j.Records mode b.scheduler b.connection)
include h hrecords

theorem moored_pollReady :
    Moored (j ++ b.connection.pollEvents) b.pollReady.2.scheduler b.pollReady.2.connection := by
  rw [scheduler_pollReady, connection_pollReady]
  refine h.connecting hrecords b.connection.moves_pollReady
    (fun _ => Connection.isConnecting_of_mem_pollEvents) fun hopen => .inl ?_
  rw [Connection.pollReady_of_isOpen hopen, hopen]

theorem moored_reconnect :
    Moored (j ++ b.connection.reconnectEvents) b.reconnect.2.scheduler b.reconnect.2.connection := by
  have hreconnected := h.connecting hrecords b.connection.moves_reconnect
    (fun _ => Connection.isConnecting_of_mem_reconnectEvents) fun hopen => by
      cases hs : b.connection.isShutdown with
      | true => exact .inl (by simp [Connection.reconnect, hs, hopen])
      | false => exact .inr (by simp [Connection.reconnectEvents, hs])
  rw [scheduler_reconnect, connection_reconnect]
  exact hreconnected

/-- While a tick obtains its actuator state nothing happens to the link. -/
theorem moored_awaitControls (bursts : List (Burst α)) :
    Moored (j ++ Journal.publications (b.meanwhile bursts)
        ++ [Event.tick (b.awaitControls bursts).1.status (b.awaitControls bursts).1.command])
      (b.awaitControls bursts).2.1.scheduler (b.awaitControls bursts).2.1.connection := by
  have hafter := b.afterCall hrecords.channelOpen bursts
  rw [List.append_assoc]
  refine h.beside (fun e he => ?_) (fun ha => ?_) id
  · rcases List.mem_append.mp he with he | he
    · obtain ⟨value, -, rfl⟩ := List.mem_map.mp he
      nofun
    · rw [List.mem_singleton.mp he]
      nofun
  · have hboth := hafter.awaiting.symm.trans ha
    rw [Bool.and_eq_true] at hboth
    exact hboth.1

omit hrecords in
/-- A report goes out over an open link. -/
theorem moored_cycle {s : Scheduler} (honward : b.scheduler.Onward s)
    (messages : List (Message α)) (now : Nat) :
    Moored (j ++ sendAllEvents b.connection messages)
      (s.markSent now ((sendAll b.connection messages).sent.filterMap Message.imuTime?).getLast?)
      (sendAll b.connection messages).connection := by
  intro ha
  cases hopen : AutopilotLink.isOpen b.connection.link with
  | true => exact Connection.openOrAdrift_sendAll (.inl hopen) messages
  | false =>
    -- nothing goes out, so an answer is awaited only if one was before
    obtain ⟨hsent, hconnection, hevents⟩ := Connection.sendAll_of_closed hopen messages
    rw [hsent] at ha
    rw [hconnection, hevents, List.append_nil]
    exact h (honward.awaiting.symm.trans ha)

variable [Scalar α]

theorem moored_preUpdate (tick : Tick) (bursts : List (Burst α)) :
    Moored (j ++ b.preUpdateEvents tick bursts) (b.preUpdate tick bursts).bridge.scheduler
      (b.preUpdate tick bursts).bridge.connection :=
  preUpdate_cases (P := Moored) h
    (moored_awaitControls (moored_pollReady h hrecords) (records_pollReady hrecords) bursts) tick

theorem moored_postUpdate (tick : Tick) :
    Moored (j ++ b.postUpdateEvents tick) (b.postUpdate tick).2.scheduler
      (b.postUpdate tick).2.connection :=
  have hpolled := moored_pollReady h hrecords
  tickEnd_cases (P := Moored) h
    (fun _ honward ha => hpolled (honward.awaiting.symm.trans ha))
    (fun _ messages now honward =>
      moored_cycle hpolled honward messages now) tick

end

end Bridge

namespace Recorded

variable [Scalar α] [AutopilotLink L α]

theorem moored_step {mode : TimeMode} {r : Recorded L α}
    (h : Moored r.journal r.bridge.scheduler r.bridge.connection)
    (hrecords : r.journal.Records mode r.bridge.scheduler r.bridge.connection) (call : Call L α) :
    Moored (r.step call).journal (r.step call).bridge.scheduler (r.step call).bridge.connection := by
  cases call with
  | sample _ => exact h.beside nofun id id
  | storeImu _ => exact h.beside nofun id id
  | range _ _ => exact h.beside nofun id id
  | preUpdate tick bursts => exact Bridge.moored_preUpdate h hrecords tick bursts
  | postUpdate tick => exact Bridge.moored_postUpdate h hrecords tick
  | reconnect => exact Bridge.moored_reconnect h hrecords
  | happen events =>
    refine h.beside (fun e he => ?_) id id
    obtain ⟨value, -, rfl⟩ := List.mem_map.mp he
    nofun
  | resolve resolver moment => exact h.beside nofun id id
  | relink change =>
    intro ha
    rcases h ha with hopen | hadrift
    · exact Connection.openOrAdrift_append_dropEvents hopen _ _
    · refine .inr (Journal.isAdrift_append hadrift fun e he => ?_)
      rw [eq_of_mem_dropEvents he]
      nofun

theorem moored_run {c : Config α} {link : L} {names : NameService} {b : Bridge L α}
    (hb : Bridge.configure c link names = .ok b) (calls : List (Call L α)) :
    Moored (run b calls).journal (run b calls).bridge.scheduler (run b calls).bridge.connection := by
  have hboth := run_induction (P := fun r =>
      r.journal.Records (.ofConfig c) r.bridge.scheduler r.bridge.connection
        ∧ Moored r.journal r.bridge.scheduler r.bridge.connection)
    ⟨records_run hb [], fun ha => by simp [Bridge.configure_eq hb, Scheduler.new] at ha⟩
    (fun r call h => ⟨records_step h.1 call, moored_step h.2 h.1 call⟩) calls
  exact hboth.2

end Recorded

/-! ## The tick that waits -/

namespace Bridge

variable [AutopilotLink L α]

/-- Whether a tick waits for an answer when it obtains its actuator state. -/
def Waits (b : Bridge L α) (tick : Tick) : Prop :=
  b.connection.isShutdown = false ∧ tick.paused = false
    ∧ b.pollReady.2.scheduler.Waits b.pollReady.2.dispatcher.receivedFirst
      b.pollReady.2.connection.isShutdown

instance (b : Bridge L α) (tick : Tick) : Decidable (b.Waits tick) :=
  inferInstanceAs (Decidable (_ ∧ _ ∧ _))

theorem now_pollReady (b : Bridge L α) : b.pollReady.2.connection.now = b.connection.now := by
  rw [connection_pollReady]
  unfold Connection.pollReady
  split
  · rfl
  · split
    · rfl
    · split
      · rfl
      · dsimp only [Connection.openLink]
        split <;> rfl

theorem timeouts_pollReady (b : Bridge L α) :
    b.pollReady.2.scheduler.stats.timeouts = b.scheduler.stats.timeouts := by
  rw [scheduler_pollReady, Scheduler.onEpoch]
  split <;> rfl

/-- A tick that does not wait lets no time pass and counts no timeout. -/
theorem preUpdate_instant [Scalar α] {b : Bridge L α} {tick : Tick} (h : ¬ b.Waits tick)
    (bursts : List (Burst α)) :
    (b.preUpdate tick bursts).bridge.connection.now = b.connection.now
      ∧ (b.preUpdate tick bursts).bridge.scheduler.stats.timeouts = b.scheduler.stats.timeouts := by
  cases hs : b.connection.isShutdown with
  | true => simp [preUpdate, hs]
  | false =>
    cases hp : tick.paused with
    | true => simp [preUpdate, hs, hp]
    | false =>
      have hno : ¬ b.pollReady.2.scheduler.Waits b.pollReady.2.dispatcher.receivedFirst
          b.pollReady.2.connection.isShutdown := fun hwaits => h ⟨hs, hp, hwaits⟩
      obtain ⟨hwaited, -, htimeouts⟩ := Scheduler.awaitControls_instant hno
        b.pollReady.2.connection.channel (b.pollReady.2.heard bursts)
      have hnow : (b.pollReady.2.awaitControls bursts).2.1.connection.now = b.connection.now := by
        rw [← b.now_pollReady]
        exact congrArg (b.pollReady.2.connection.now + ·) hwaited
      have hcount : (b.pollReady.2.awaitControls bursts).2.1.scheduler.stats.timeouts
          = b.scheduler.stats.timeouts := htimeouts.trans b.timeouts_pollReady
      simp only [preUpdate, hs, hp, Bool.false_eq_true, if_false]
      split
      · exact ⟨hnow, hcount⟩
      · rw [connection_applyCommand, scheduler_applyCommand]
        exact ⟨hnow, hcount⟩

end Bridge

namespace Recorded

variable [Scalar α] [AutopilotLink L α]

/--
**A tick waits only for a report that went out over the connection that it finds, and that nothing has settled
since.** The link is open then, unless a reconnection since the report has failed to open it again.
-/
theorem waits_only_for_outstanding {c : Config α} {link : L} {names : NameService} {b : Bridge L α}
    (hb : Bridge.configure c link names = .ok b) (calls : List (Call L α)) (tick : Tick) :
    let r := run b calls
    (r.bridge.Waits tick → ∃ before time after, r.journal = before ++ .reported time :: after
        ∧ (Event.opened ∉ after ∧ r.bridge.pollReady.2.connection.epoch = r.bridge.connection.epoch)
        ∧ (∀ command, Event.tick .acknowledged command ∉ after ∧ Event.tick .timedOut command ∉ after)
        ∧ (AutopilotLink.isOpen r.bridge.pollReady.2.connection.link = true
          ∨ Event.closing ∈ after ∨ Event.dropped ∈ after))
      ∧ (¬ r.bridge.Waits tick → ∀ bursts,
          (r.bridge.preUpdate tick bursts).bridge.connection.now = r.bridge.connection.now
            ∧ (r.bridge.preUpdate tick bursts).bridge.scheduler.stats.timeouts
              = r.bridge.scheduler.stats.timeouts) := by
  intro r
  have h := records_run hb calls
  have hmoored := moored_run hb calls
  refine ⟨fun hwaits => ?_, fun hno bursts => Bridge.preUpdate_instant hno bursts⟩
  -- the poll of this tick has opened nothing, or the answer would not be awaited any more
  have ha := hwaits.2.2.2.2.1
  rw [Bridge.scheduler_pollReady] at ha
  obtain ⟨hepoch, ha⟩ := Scheduler.awaiting_onEpoch ha
  obtain ⟨time, htime⟩ := h.outstanding ha
  obtain ⟨before, e, after, hsplit, he, hafter⟩ := Journal.exists_of_latest htime
  obtain rfl : e = .reported time := by
    cases e <;> simp_all [Journal.outstandingEffect]
  refine ⟨before, time, after, hsplit, ⟨fun hopened => ?_, ?_⟩,
    fun command => ⟨fun hmem => ?_, fun hmem => ?_⟩, ?_⟩
  · cases hafter _ hopened
  · rw [Bridge.connection_pollReady, hepoch, h.synced]
  · cases hafter _ hmem
  · cases hafter _ hmem
  · refine (hmoored ha).imp (fun hopen => ?_) fun hadrift => ?_
    · rw [Bridge.connection_pollReady, Connection.pollReady_of_isOpen hopen, hopen]
    · exact Journal.mem_of_isAdrift (hsplit ▸ hadrift) hafter

end Recorded

namespace Recorded

/-- A report goes out once the autopilot has sent a first command, which the tick before the report reads. -/
def reportedCalls : List (Call (ScriptedLink Float) Float) :=
  Trial.opening ++ [.happen [.publish (some (Trial.command 0))], .preUpdate (Trial.tick 0) []]
    ++ Trial.report 8000

/-- A reconnection closes the link and does not get it open again. -/
def stranding : List (Call (ScriptedLink Float) Float) :=
  [.relink fun l => { l with refusesOpen := true }, .reconnect]

/-- The tick after a report waits for the answer, over the open link. -/
theorem waits_after_report :
    ∃ b, Bridge.configure Trial.config Trial.link Trial.names = .ok b ∧
      let r := run b reportedCalls
      r.bridge.Waits (Trial.tick 8000)
        ∧ ∃ before time after, r.journal = before ++ .reported time :: after
          ∧ (Event.opened ∉ after ∧ r.bridge.pollReady.2.connection.epoch = r.bridge.connection.epoch)
          ∧ (∀ command, Event.tick .acknowledged command ∉ after ∧ Event.tick .timedOut command ∉ after)
          ∧ (r.bridge.pollReady.2.connection.link.isOpen = true
            ∨ Event.closing ∈ after ∨ Event.dropped ∈ after) := by
  have hrun : (Bridge.configure Trial.config Trial.link Trial.names).toOption.map (fun b =>
      decide ((run b reportedCalls).bridge.Waits (Trial.tick 8000))) = some true := by
    decide +kernel
  obtain ⟨b, hb, hr⟩ := Trial.exists_of_map hrun
  have hwaits := of_decide_eq_true hr
  exact ⟨b, hb, hwaits, (waits_only_for_outstanding hb reportedCalls (Trial.tick 8000)).1 hwaits⟩

/-- After a reconnection that failed half-way a tick waits for an answer that cannot come. -/
theorem waits_with_closed_link :
    ∃ b, Bridge.configure Trial.config Trial.link Trial.names = .ok b ∧
      let r := run b (reportedCalls ++ stranding)
      let start := r.bridge.preUpdate (Trial.tick 8000) []
      r.bridge.Waits (Trial.tick 8000)
        ∧ r.bridge.pollReady.2.connection.link.isOpen = false
        ∧ start.status = .timedOut
        ∧ start.bridge.connection.now = r.bridge.connection.now + 10
        ∧ start.bridge.scheduler.stats.timeouts = 1 := by
  have hrun : (Bridge.configure Trial.config Trial.link Trial.names).toOption.map (fun b =>
      let r := run b (reportedCalls ++ stranding)
      let start := r.bridge.preUpdate (Trial.tick 8000) []
      (decide (r.bridge.Waits (Trial.tick 8000)), r.bridge.pollReady.2.connection.link.isOpen,
        start.status, decide (start.bridge.connection.now = r.bridge.connection.now + 10),
        start.bridge.scheduler.stats.timeouts))
      = some (true, false, .timedOut, true, 1) := by
    decide +kernel
  obtain ⟨b, hb, hr⟩ := Trial.exists_of_map hrun
  simp only [Prod.mk.injEq, decide_eq_true_eq] at hr
  exact ⟨b, hb, hr⟩

end Recorded

end HilBridge
