import HilBridge.Proofs.Bridge.Halves
import HilBridge.Proofs.Bridge.Moves
import HilBridge.Proofs.Config.Validity
import Mathlib.Data.List.Basic

/-!
# `HilBridge.Proofs.Bridge.Records` — what a bridge and its journal have in common

`Journal.Records` is the invariant of all runs: the epoch counts the openings, the scheduler knows the last
report of the connection, a report that it awaits the answer to stands out in the journal, and the channel
holds what the journal leaves unread.

Each step of a call keeps it. Where the connection moves, the scheduler follows by forgetting what was in
flight if there was an opening.
-/

namespace HilBridge

variable {L α : Type}

/-! ## The invariant -/

/-- What the scheduler and the connection of a bridge have in common with its journal. -/
structure Journal.Records (j : Journal α) (mode : TimeMode) (s : Scheduler) (c : Connection L α) : Prop where
  mode : s.mode = mode
  synced : s.epoch = c.epoch
  epoch : c.epoch = j.countP Event.isOpened
  channelOpen : c.channel.closed = false
  acknowledged : s.stats.acknowledged = j.countP Event.isAcknowledged
  lastReport : s.mode.isLockstep = true → s.lastSend = j.lastReport
  outstanding : s.awaiting = true → ∃ time, j.outstanding = some time
  /-- After the shutdown nobody reads the channel any more. -/
  unread : c.isShutdown = false → c.channel.unread = j.leftUnread

namespace Journal.Records

variable {j : Journal α} {mode : TimeMode} {s : Scheduler} {c c' : Connection L α}

/-- What an operation publishes is left unread, unless there has been a shutdown. -/
theorem unread_of_moves (h : j.Records mode s c) {k : Journal α} (hmoves : c.Moves k c')
    (hs : c'.isShutdown = false) : c'.channel.unread = (j ++ k).leftUnread := by
  refine hmoves.unread h.channelOpen j (h.unread ?_)
  rw [Bool.eq_false_iff]
  exact fun hc => by simp [hmoves.isShutdown hc] at hs

/-! ### Connecting -/

/-- The scheduler forgets what was in flight exactly if there was an opening. -/
theorem connecting (h : j.Records mode s c) {k : Journal α} (hmoves : c.Moves k c')
    (hk : ∀ e ∈ k, e.isConnecting = true) : (j ++ k).Records mode (s.onEpoch c'.epoch).2 c' := by
  have hepoch : c'.epoch = (j ++ k).countP Event.isOpened := by
    rw [hmoves.epoch, h.epoch, List.countP_append]
  have hacknowledged : s.stats.acknowledged = (j ++ k).countP Event.isAcknowledged := by
    rw [List.countP_append, countP_isAcknowledged_connecting hk, h.acknowledged, Nat.add_zero]
  have hunread := h.unread_of_moves hmoves
  have hopen : c'.channel.closed = false := hmoves.closed.trans h.channelOpen
  -- the epochs agreed before, so they still do exactly if nothing was opened
  unfold Scheduler.onEpoch
  split
  case isTrue hsame =>
    have hnone : k.countP Event.isOpened = 0 := by
      have hcount := hmoves.epoch
      have hsynced := h.synced
      omega
    refine ⟨h.mode, hsame.symm, hepoch, hopen, hacknowledged, fun hmode => ?_, fun hawaiting => ?_, hunread⟩
    · rw [lastReport_append_connecting j hk, if_pos hnone]
      exact h.lastReport hmode
    · rw [outstanding_append_connecting j hk, if_pos hnone]
      exact h.outstanding hawaiting
  case isFalse hnew =>
    have hsome : k.countP Event.isOpened ≠ 0 := by
      have hcount := hmoves.epoch
      have hsynced := h.synced
      omega
    refine ⟨h.mode, rfl, hepoch, hopen, hacknowledged, fun _ => ?_, nofun, hunread⟩
    rw [lastReport_append_connecting j hk, if_neg hsome]

/-- Where nothing is opened the scheduler stays. -/
theorem beside (h : j.Records mode s c) {k : Journal α} (hmoves : c.Moves k c')
    (hk : ∀ e ∈ k, e.isConnecting = true) (hepoch : c'.epoch = c.epoch) : (j ++ k).Records mode s c' := by
  have hsame : (s.onEpoch c'.epoch).2 = s := by
    rw [hepoch, ← h.synced, Scheduler.onEpoch, if_pos rfl]
  exact hsame ▸ h.connecting hmoves hk

/-! ### Sending -/

/-- The timetable does not show in a journal. -/
theorem onward (h : j.Records mode s c) {s' : Scheduler} (honward : s.Onward s') : j.Records mode s' c where
  mode := honward.mode.trans h.mode
  synced := honward.epoch.trans h.synced
  epoch := h.epoch
  channelOpen := h.channelOpen
  acknowledged := honward.acknowledged.trans h.acknowledged
  lastReport hmode := by
    rw [honward.lastSend]
    exact h.lastReport (honward.mode ▸ hmode)
  outstanding ha := h.outstanding (honward.awaiting.symm.trans ha)
  unread := h.unread

variable [AutopilotLink L α]

/-- The last report that went out is the one that is recorded as sent. -/
theorem cycle (h : j.Records mode s c) (messages : List (Message α)) (now : Nat) :
    (j ++ Bridge.sendAllEvents c messages).Records mode
      (s.markSent now ((Bridge.sendAll c messages).sent.filterMap Message.imuTime?).getLast?)
      (Bridge.sendAll c messages).connection := by
  have hmoves := Bridge.moves_sendAll c messages
  -- a cycle adds reports, and nothing that settles one
  have hkinds : ∀ e ∈ Bridge.sendAllEvents c messages,
      e.isOpened = false ∧ e.isAcknowledged = false ∧ outstandingEffect e = reportEffect e := by
    intro e he
    rcases Bridge.eq_of_mem_sendAllEvents he with ⟨time, rfl⟩ | ⟨value, rfl⟩ | rfl <;>
      exact ⟨rfl, rfl, rfl⟩
  have hopened : (Bridge.sendAllEvents c messages).countP Event.isOpened = 0 :=
    List.countP_eq_zero.mpr fun e he => by simp [(hkinds e he).1]
  have hacknowledged : (Bridge.sendAllEvents c messages).countP Event.isAcknowledged = 0 :=
    List.countP_eq_zero.mpr fun e he => by simp [(hkinds e he).2.1]
  have hreports := Bridge.reportEffect_sendAllEvents c messages
  have houtstanding : (Bridge.sendAllEvents c messages).filterMap outstandingEffect
      = ((Bridge.sendAll c messages).sent.filterMap Message.imuTime?).map some := by
    rw [← hreports]
    exact List.filterMap_congr fun e he => (hkinds e he).2.2
  have hlast := latest_append_reports hreports j
  have hstanding := latest_append_reports houtstanding j
  refine
    { mode := (s.mode_markSent now _).trans h.mode
      synced := ?_, epoch := ?_, channelOpen := hmoves.closed.trans h.channelOpen, acknowledged := ?_
      lastReport := fun hmode => ?_, outstanding := fun hawaiting => ?_
      unread := h.unread_of_moves hmoves }
  · rw [Scheduler.epoch_markSent, h.synced, hmoves.epoch, hopened, Nat.add_zero]
  · rw [hmoves.epoch, h.epoch, List.countP_append]
  · rw [Scheduler.stats_markSent, h.acknowledged, List.countP_append, hacknowledged, Nat.add_zero]
  · rw [Scheduler.mode_markSent] at hmode
    rw [Scheduler.lastSend_markSent s now _ hmode, h.lastReport hmode]
    exact hlast.symm
  · rw [Scheduler.awaiting_markSent, Bool.or_eq_true, Bool.and_eq_true] at hawaiting
    rw [Journal.outstanding, hstanding]
    cases hsent : ((Bridge.sendAll c messages).sent.filterMap Message.imuTime?).getLast? with
    | some time => exact ⟨time, rfl⟩
    | none =>
      rw [hsent] at hawaiting
      exact h.outstanding (hawaiting.resolve_right fun hboth => by simp at hboth)

/-! ### Obtaining the actuator state -/

omit [AutopilotLink L α] in
/-- A tick reads the channel, whatever was published while it waited. -/
theorem tick (h : j.Records mode s c) (values : List (Option (Command α))) {bursts : List (Burst α)}
    {r : WaitResult α} (hafter : s.AfterCall c.channel bursts r) (hepoch : c'.epoch = c.epoch)
    (hchannel : c'.channel = r.channel) (hshutdown : c'.isShutdown = (c.isShutdown || r.isShutdown)) :
    (j ++ publications values ++ [Event.tick r.status r.command]).Records mode r.scheduler c' := by
  have hquiet : ∀ e ∈ publications values, e.isConnecting = true := fun _ =>
    isConnecting_of_mem_publications
  have hopened := countP_isOpened_publications values
  -- of the new events only the tick itself matters: it reads the channel and may settle the report
  refine
    { mode := hafter.terms.mode.trans h.mode
      synced := ?_, epoch := ?_, channelOpen := by rw [hchannel, hafter.closed], acknowledged := ?_
      lastReport := fun hmode => ?_, outstanding := fun hawaiting => ?_, unread := fun hs => ?_ }
  · rw [hafter.terms.epoch, h.synced, hepoch]
  · rw [hepoch, h.epoch, List.countP_append, List.countP_append, hopened]
    rfl
  · rw [hafter.acknowledged, h.acknowledged, List.countP_append, List.countP_append,
      countP_isAcknowledged_connecting hquiet]
    cases r.status <;> rfl
  · rw [hafter.terms.mode] at hmode
    rw [hafter.terms.lastSend, h.lastReport hmode, Journal.lastReport, Journal.lastReport, latest_concat]
    exact (latest_append_of_none (by simp [publications, reportEffect]) j).symm
  · rw [hafter.awaiting, Bool.and_eq_true, Bool.not_eq_true'] at hawaiting
    obtain ⟨time, htime⟩ := h.outstanding hawaiting.1
    refine ⟨time, ?_⟩
    rw [Journal.outstanding, latest_concat, outstandingEffect, hawaiting.2, if_neg Bool.false_ne_true,
      Option.getD_none, latest_append_of_none (by simp [publications, outstandingEffect])]
    exact htime
  · rw [hshutdown, Bool.or_eq_false_iff] at hs
    rw [hchannel, hafter.drained hs.2, Journal.leftUnread, latest_concat]
    rfl

end Journal.Records

namespace Bridge

variable [AutopilotLink L α]

/-! ### Every call -/

section
variable {j : Journal α} {mode : TimeMode} {b : Bridge L α} (h : j.Records mode b.scheduler b.connection)
include h

theorem records_pollReady :
    (j ++ b.connection.pollEvents).Records mode b.pollReady.2.scheduler b.pollReady.2.connection := by
  have hpolled := h.connecting b.connection.moves_pollReady fun _ =>
    Connection.isConnecting_of_mem_pollEvents
  rw [scheduler_pollReady, connection_pollReady]
  exact hpolled

theorem records_reconnect :
    (j ++ b.connection.reconnectEvents).Records mode b.reconnect.2.scheduler b.reconnect.2.connection := by
  have hreconnected := h.connecting b.connection.moves_reconnect fun _ =>
    Connection.isConnecting_of_mem_reconnectEvents
  rw [scheduler_reconnect, connection_reconnect]
  exact hreconnected

theorem records_awaitControls (bursts : List (Burst α)) :
    (j ++ Journal.publications (b.meanwhile bursts)
        ++ [Event.tick (b.awaitControls bursts).1.status (b.awaitControls bursts).1.command]).Records mode
      (b.awaitControls bursts).2.1.scheduler (b.awaitControls bursts).2.1.connection :=
  h.tick (b.meanwhile bursts) (b.afterCall h.channelOpen bursts) rfl rfl rfl

variable [Scalar α]

theorem records_preUpdate (tick : Tick) (bursts : List (Burst α)) :
    (j ++ b.preUpdateEvents tick bursts).Records mode (b.preUpdate tick bursts).bridge.scheduler
      (b.preUpdate tick bursts).bridge.connection :=
  preUpdate_cases (P := fun j s c => j.Records mode s c) h
    (records_awaitControls (records_pollReady h) bursts) tick

theorem records_postUpdate (tick : Tick) :
    (j ++ b.postUpdateEvents tick).Records mode (b.postUpdate tick).2.scheduler
      (b.postUpdate tick).2.connection :=
  tickEnd_cases (P := fun j s c => j.Records mode s c) h
    (fun _ honward => (records_pollReady h).onward honward)
    (fun _ messages now honward => ((records_pollReady h).onward honward).cycle messages now) tick

end

end Bridge

/-! ## Every run -/

/-- Only a valid configuration makes a bridge, and this is the one. -/
theorem Bridge.eq_of_configure [Scalar α] {c : Config α} {link : L} {names : NameService} {b : Bridge L α}
    (hb : Bridge.configure c link names = .ok b) :
    c.IsValid ∧ ∃ dispatcher, b =
      { assembler := .new c (discoverRangeLinks NamingPattern.standard c.rangeSensorLinks)
        dispatcher
        scheduler := .new c
        connection := .new c link names
        messagesSent := 0 } := by
  unfold Bridge.configure Dispatcher.new at hb
  cases hvalid : c.validate with
  | error e =>
    rw [hvalid] at hb
    cases hb
  | ok _ =>
    rw [hvalid] at hb
    cases hb
    exact ⟨Config.validate_eq_ok_iff.mp hvalid, _, rfl⟩

/-- What the configuration makes of scheduler and connection. -/
theorem Bridge.configure_eq [Scalar α] {c : Config α} {link : L} {names : NameService} {b : Bridge L α}
    (hb : Bridge.configure c link names = .ok b) :
    b.scheduler = .new c ∧ b.connection = .new c link names := by
  obtain ⟨-, dispatcher, rfl⟩ := Bridge.eq_of_configure hb
  exact ⟨rfl, rfl⟩

namespace Recorded

variable [Scalar α] [AutopilotLink L α]

theorem records_step {mode : TimeMode} {r : Recorded L α}
    (h : r.journal.Records mode r.bridge.scheduler r.bridge.connection)
    (call : Call L α) :
    (r.step call).journal.Records mode (r.step call).bridge.scheduler (r.step call).bridge.connection := by
  cases call with
  | sample _ => exact h.beside (.refl _) nofun rfl
  | storeImu _ => exact h.beside (.refl _) nofun rfl
  | range _ _ => exact h.beside (.refl _) nofun rfl
  | preUpdate tick bursts => exact Bridge.records_preUpdate h tick bursts
  | postUpdate tick => exact Bridge.records_postUpdate h tick
  | reconnect => exact Bridge.records_reconnect h
  | happen events =>
    exact h.beside (r.bridge.connection.moves_happen events)
      (fun _ => Journal.isConnecting_of_mem_publications) rfl
  | resolve resolver moment => exact h.beside (.nothing rfl rfl id) nofun rfl
  | relink change =>
    have hlink : r.bridge.connection.Moves [] (r.step (.relink change)).bridge.connection :=
      .nothing rfl rfl id
    exact h.beside (hlink.drop _ _) (fun _ he => by rw [eq_of_mem_dropEvents he]; rfl) rfl

/-- **After every run the bridge and its journal have the invariant in common.** -/
theorem records_run {c : Config α} {link : L} {names : NameService} {b : Bridge L α}
    (hb : Bridge.configure c link names = .ok b) (calls : List (Call L α)) :
    (run b calls).journal.Records (.ofConfig c) (run b calls).bridge.scheduler
      (run b calls).bridge.connection := by
  refine run_induction
    (P := fun r => r.journal.Records (.ofConfig c) r.bridge.scheduler r.bridge.connection) ?_
    (fun r call h => records_step h call) calls
  obtain ⟨hscheduler, hconnection⟩ := Bridge.configure_eq hb
  rw [hscheduler, hconnection]
  exact
    { mode := rfl, synced := rfl, epoch := rfl, channelOpen := rfl, acknowledged := rfl
      lastReport := fun _ => rfl, outstanding := nofun, unread := fun _ => rfl }

end Recorded

end HilBridge
