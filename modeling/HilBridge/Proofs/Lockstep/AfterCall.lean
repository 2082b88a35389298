import HilBridge.Proofs.Lockstep.Accounting

/-!
# `HilBridge.Proofs.Lockstep.AfterCall` — what a call finds again and what it leaves

`Accounting` says what one call may do in lockstep. A run of the bridge needs a few facts that hold of a call
in every mode, waiting or not. On any channel the status decides what the call does to the flag that an answer is
awaited, to the counts of acknowledgements and timeouts and to the degraded flag (`Ends`), and the terms under which
commands are answers stay (`SameTerms`). And an open channel stays open and is read empty, what is handed out was
unread before or was published meanwhile, and a report stays unanswered only if nothing settles it (`AfterCall`).
-/

namespace HilBridge

variable {α : Type}

/-- Whether a tick with this status leaves no report unanswered. -/
def SyncStatus.settles : SyncStatus → Bool
  | .acknowledged => true
  | .timedOut => true
  | .freeRunning => false
  | .holding => false
  | .shutdown => false

/-- Whether the state is degraded after a tick with this status. -/
def SyncStatus.degradedAfter (status : SyncStatus) (before : Bool) : Bool :=
  match status with
  | .timedOut => true
  | .acknowledged => false
  | .freeRunning => before
  | .holding => before
  | .shutdown => before

namespace Scheduler

/-! ## The terms -/

/-- The two schedulers agree on the mode, the epoch and the last report. -/
structure SameTerms (s t : Scheduler) : Prop where
  mode : t.mode = s.mode
  epoch : t.epoch = s.epoch
  lastSend : t.lastSend = s.lastSend

theorem SameTerms.refl (s : Scheduler) : s.SameTerms s :=
  ⟨rfl, rfl, rfl⟩

theorem SameTerms.trans {s t u : Scheduler} (h : s.SameTerms t) (k : t.SameTerms u) : s.SameTerms u :=
  ⟨k.mode.trans h.mode, k.epoch.trans h.epoch, k.lastSend.trans h.lastSend⟩

theorem sameTerms_note (s : Scheduler) (c : Command α) : s.SameTerms (s.note c) := by
  unfold note
  split <;> exact ⟨rfl, rfl, rfl⟩

theorem sameTerms_foldl_note (s : Scheduler) (cs : List (Command α)) :
    s.SameTerms (cs.foldl note s) := by
  induction cs generalizing s with
  | nil => exact .refl s
  | cons c rest ih => exact (sameTerms_note s c).trans (ih (s.note c))

theorem sameTerms_settle (s : Scheduler) (status : SyncStatus) : s.SameTerms (s.settle status) := by
  cases status <;> exact ⟨rfl, rfl, rfl⟩

/-! ## Sending a report -/

section
variable (s : Scheduler) (now : Nat) (time : Option Nat)

@[simp]
theorem mode_markSent : (s.markSent now time).mode = s.mode := by
  cases time with
  | none => rfl
  | some time => cases hmode : s.mode <;> simp [markSent, hmode, TimeMode.isLockstep]

@[simp]
theorem epoch_markSent : (s.markSent now time).epoch = s.epoch := by
  cases time with
  | none => rfl
  | some time => cases hmode : s.mode <;> simp [markSent, hmode, TimeMode.isLockstep]

@[simp]
theorem stats_markSent : (s.markSent now time).stats = s.stats := by
  cases time with
  | none => rfl
  | some time => cases hmode : s.mode <;> simp [markSent, hmode, TimeMode.isLockstep]

/-- Only in lockstep is there something to answer. -/
theorem awaiting_markSent :
    (s.markSent now time).awaiting = (s.awaiting || (s.mode.isLockstep && time.isSome)) := by
  cases time with
  | none => simp [markSent]
  | some time => cases hmode : s.mode <;> simp [markSent, hmode, TimeMode.isLockstep]

theorem lastSend_markSent (hmode : s.mode.isLockstep = true) :
    (s.markSent now time).lastSend = time.or s.lastSend := by
  cases time with
  | none => rfl
  | some time => simp [markSent, hmode]

end

/-! ## How a call ends -/

/-- Of the commands up to the first answer only the last is one. -/
theorem countP_upToAnswer (s : Scheduler) (cs : List (Command α)) :
    (s.upToAnswer cs).countP s.answers = if cs.any s.answers then 1 else 0 := by
  induction cs with
  | nil => rfl
  | cons c rest ih =>
    rw [upToAnswer]
    cases hc : s.answers c <;> simp [hc, ih]

/-- All that obtaining an actuator state does to what is awaited and to the signs of lost sync. -/
structure Ends (s : Scheduler) (r : WaitResult α) : Prop where
  terms : s.SameTerms r.scheduler
  acknowledged : r.scheduler.stats.acknowledged
    = s.stats.acknowledged + if r.status = .acknowledged then 1 else 0
  timeouts : r.scheduler.stats.timeouts = s.stats.timeouts + if r.status = .timedOut then 1 else 0
  degraded : r.scheduler.stats.degraded = r.status.degradedAfter s.stats.degraded
  /-- An answer is awaited only if one was, and nobody has given up. -/
  awaiting : r.scheduler.awaiting = true → s.awaiting = true ∧ r.status ≠ .timedOut
  /-- Only who waits gives up. -/
  waiting : r.status = .timedOut → s.awaiting = true ∧ s.mode.isLockstep = true

/-- A call that does not wait never times out. -/
theorem ends_unawaited (s : Scheduler) (channel : CommandChannel α) (receivedFirst : Bool)
    (bursts : List (Burst α)) : s.Ends (s.takeUnawaited channel receivedFirst bursts) := by
  rcases s.takeUnawaited_cases channel receivedFirst bursts with
    ⟨-, hr⟩ | ⟨_, -, -, hr⟩ | ⟨_, -, -, hr⟩ <;> rw [hr]
  · exact ⟨.refl s, rfl, rfl, rfl, fun ha => ⟨ha, nofun⟩, nofun⟩
  · exact ⟨⟨rfl, rfl, rfl⟩, rfl, rfl, rfl, nofun, nofun⟩
  · exact ⟨⟨rfl, rfl, rfl⟩, rfl, rfl, rfl, fun ha => ⟨ha, nofun⟩, nofun⟩

/-- A wait is settled by how it ends, whatever it has seen before. -/
theorem ends_waitFrom {s : Scheduler} (hmode : s.mode.isLockstep = true) (hawaiting : s.awaiting = true)
    (timeout : Nat) (channel : CommandChannel α) (bursts : List (Burst α)) :
    s.Ends (s.waitFrom timeout 0 channel bursts) := by
  have hout := outcome_waitFrom timeout 0 s channel bursts
  have hterms := sameTerms_foldl_note s (s.upToAnswer (sightings timeout channel bursts))
  -- only an acknowledgement goes with an answer among the commands seen
  have hanswered : (sightings timeout channel bursts).any s.answers = true
      ↔ (s.waitFrom timeout 0 channel bursts).status = .acknowledged := by
    rw [hout.status]
    exact ending_eq_acknowledged_iff.symm
  have hfree : (s.waitFrom timeout 0 channel bursts).status ≠ .freeRunning := by
    rw [hout.status]
    unfold ending
    (repeat' split) <;> nofun
  have hcounted := timeouts_foldl_note s (s.upToAnswer (sightings timeout channel bursts))
  have hdegraded := degraded_foldl_note s (s.upToAnswer (sightings timeout channel bursts))
  rw [any_upToAnswer] at hdegraded
  refine ⟨?_, ?_, ?_, ?_, fun ha => ?_, fun _ => ⟨hawaiting, hmode⟩⟩
  · rw [hout.scheduler]
    exact hterms.trans (sameTerms_settle _ _)
  · rw [hout.scheduler, acknowledged_settle, acknowledged_foldl_note, countP_upToAnswer]
    simp only [hanswered]
  · by_cases htimeout : (s.waitFrom timeout 0 channel bursts).status = .timedOut
    · rw [hout.scheduler, htimeout, settle, timeOut, hcounted]
      rfl
    · rw [hout.scheduler, timeouts_settle htimeout, hcounted, if_neg htimeout]
      rfl
  · rw [hout.scheduler]
    cases hstatus : (s.waitFrom timeout 0 channel bursts).status with
    | freeRunning => exact absurd hstatus hfree
    | acknowledged => rw [settle, hdegraded, hanswered.mpr hstatus, Bool.not_true, Bool.and_false]; rfl
    | timedOut => rfl
    | holding => simp_all [settle, SyncStatus.degradedAfter]
    | shutdown => simp_all [settle, SyncStatus.degradedAfter]
  · refine ⟨hawaiting, fun htimeout => ?_⟩
    rw [hout.scheduler, htimeout, settle, timeOut] at ha
    cases ha

/-- **How a call ends decides what it does.** -/
theorem ends_awaitControls (s : Scheduler) (channel : CommandChannel α) (receivedFirst isShutdown : Bool)
    (bursts : List (Burst α)) : s.Ends (s.awaitControls channel receivedFirst isShutdown bursts) := by
  cases isShutdown with
  | true => exact ⟨.refl s, rfl, rfl, rfl, fun ha => ⟨ha, by rintro ⟨⟩⟩, by rintro ⟨⟩⟩
  | false =>
    cases hmode : s.mode with
    | freeRunning speedFactor =>
      have hr : s.awaitControls channel receivedFirst false bursts
          = ⟨.freeRunning, channel.takeLatest.1, s, channel.takeLatest.2, false, 0, bursts⟩ := by
        simp [awaitControls, hmode]
      rw [hr]
      exact ⟨.refl s, rfl, rfl, rfl, fun ha => ⟨ha, by rintro ⟨⟩⟩, by rintro ⟨⟩⟩
    | lockstep timeout =>
      by_cases hwaits : s.Waits receivedFirst false
      · rw [awaitControls_waits hmode hwaits]
        exact ends_waitFrom hwaits.2.1 hwaits.2.2.1 timeout channel bursts
      · rw [awaitControls_unawaited hmode hwaits]
        exact ends_unawaited s channel receivedFirst bursts

/-! ## The facts of a call -/

/-- What holds of a call on an open channel, in every mode. -/
structure AfterCall (s : Scheduler) (channel : CommandChannel α) (bursts : List (Burst α))
    (r : WaitResult α) : Prop where
  terms : s.SameTerms r.scheduler
  closed : r.channel.closed = false
  drained : r.isShutdown = false → r.channel.unread = none
  awaiting : r.scheduler.awaiting = (s.awaiting && !r.status.settles)
  /-- What is handed out was unread before the call or left unread by a burst that happened meanwhile. -/
  origin : ∃ happened, bursts = happened ++ r.ahead ∧ ∀ c ∈ r.command,
    channel.unread = some c ∨ ∃ burst ∈ happened, WaitEvent.newest burst.events = some c
  answered : r.status = .acknowledged → ∃ c, r.command = some c ∧ s.answers c = true
  acknowledged : r.scheduler.stats.acknowledged
    = s.stats.acknowledged + if r.status = .acknowledged then 1 else 0

/-- A call that does not wait finds what it hands out in the channel. -/
theorem AfterCall.looking {s : Scheduler} {channel : CommandChannel α} {bursts : List (Burst α)}
    {r : WaitResult α} (hopen : channel.closed = false) (hends : s.Ends r)
    (hchannel : r.channel = channel.takeLatest.2) (hahead : r.ahead = bursts)
    (hcommand : ∀ c ∈ r.command, channel.readable = some c)
    (awaiting : r.scheduler.awaiting = (s.awaiting && !r.status.settles))
    (answered : r.status = .acknowledged → ∃ c, r.command = some c ∧ s.answers c = true) :
    s.AfterCall channel bursts r where
  terms := hends.terms
  closed := by rw [hchannel, CommandChannel.closed_takeLatest, hopen]
  drained _ := by rw [hchannel, CommandChannel.unread_takeLatest hopen]
  awaiting := awaiting
  origin := by
    refine ⟨[], by rw [hahead, List.nil_append], fun c hc => .inl ?_⟩
    rw [← CommandChannel.readable_of_open hopen]
    exact hcommand c hc
  answered := answered
  acknowledged := hends.acknowledged

theorem afterCall_unawaited (s : Scheduler) {channel : CommandChannel α} (hopen : channel.closed = false)
    (receivedFirst : Bool) (bursts : List (Burst α)) :
    s.AfterCall channel bursts (s.takeUnawaited channel receivedFirst bursts) := by
  have hends := s.ends_unawaited channel receivedFirst bursts
  rcases s.takeUnawaited_cases channel receivedFirst bursts with
    ⟨htake, hr⟩ | ⟨c, htake, hc, hr⟩ | ⟨c, htake, hc, hr⟩
  · rw [hr] at hends ⊢
    refine .looking hopen hends rfl rfl ?_ (by simp [SyncStatus.settles]) ?_
    · intro d hd
      cases hd
    · intro hack
      cases hack
  · rw [hr] at hends ⊢
    refine .looking hopen hends rfl rfl ?_ ?_ fun _ => ⟨c, rfl, hc⟩
    · intro d hd
      exact htake.trans hd
    · simp [acknowledge, SyncStatus.settles]
  · rw [hr] at hends ⊢
    refine .looking hopen hends rfl rfl ?_ ?_ ?_
    · intro d hd
      cases receivedFirst with
      | true => cases hd
      | false => exact htake.trans hd
    · simp [noteLate, SyncStatus.settles]
    · intro hack
      cases hack

theorem afterCall_waitFrom (timeout : Nat) {s : Scheduler} (hmode : s.mode.isLockstep = true)
    (hawaiting : s.awaiting = true) {channel : CommandChannel α} (hopen : channel.closed = false)
    (bursts : List (Burst α)) : s.AfterCall channel bursts (s.waitFrom timeout 0 channel bursts) := by
  have hout := outcome_waitFrom timeout 0 s channel bursts
  have hends := ends_waitFrom hmode hawaiting timeout channel bursts
  -- on an open channel a wait ends by an answer, a shutdown or the deadline
  have hend := hout.status
  rw [hopen] at hend
  refine
    { terms := hends.terms
      closed := by rw [closed_waitFrom, hopen]
      drained := unread_waitFrom
      awaiting := ?_
      origin := origin_waitFrom timeout 0 s hopen bursts
      answered := ?_
      acknowledged := hends.acknowledged }
  · rw [hout.scheduler, hend, ending]
    cases hany : (sightings timeout channel bursts).any s.answers <;>
      cases Burst.isInterrupted timeout bursts <;>
      simp [settle, timeOut, awaiting_foldl_note, any_upToAnswer, hany, hawaiting, SyncStatus.settles]
  · intro hack
    rw [hout.command]
    obtain ⟨c, hc, ha⟩ := List.any_eq_true.mp (ending_eq_acknowledged_iff.mp (hend.symm.trans hack))
    obtain ⟨first, hfirst⟩ := Option.isSome_iff_exists.mp (List.find?_isSome.mpr ⟨c, hc, ha⟩)
    exact ⟨first, hfirst, List.find?_some hfirst⟩

/-- **Every call on an open channel does no more than this.** -/
theorem afterCall_awaitControls (s : Scheduler) {channel : CommandChannel α}
    (hopen : channel.closed = false) (receivedFirst isShutdown : Bool) (bursts : List (Burst α)) :
    s.AfterCall channel bursts (s.awaitControls channel receivedFirst isShutdown bursts) := by
  cases isShutdown with
  | true =>
    refine
      { terms := .refl s, closed := hopen, drained := ?_
        awaiting := by simp [awaitControls, SyncStatus.settles]
        origin := ⟨[], rfl, ?_⟩
        answered := ?_, acknowledged := rfl }
    · intro hquiet
      cases hquiet
    · intro c hc
      cases hc
    · intro hack
      cases hack
  | false =>
    cases hmode : s.mode with
    | freeRunning speedFactor =>
      have hr : s.awaitControls channel receivedFirst false bursts
          = ⟨.freeRunning, channel.readable, s, channel.takeLatest.2, false, 0, bursts⟩ := by
        simp [awaitControls, hmode, CommandChannel.takeLatest_fst]
      have hends := s.ends_awaitControls channel receivedFirst false bursts
      rw [hr] at hends ⊢
      refine .looking hopen hends rfl rfl (fun _ hc => hc) (by simp [SyncStatus.settles]) ?_
      intro hack
      cases hack
    | lockstep timeout =>
      by_cases hwaits : s.Waits receivedFirst false
      · rw [awaitControls_waits hmode hwaits]
        exact afterCall_waitFrom timeout hwaits.2.1 hwaits.2.2.1 hopen bursts
      · rw [awaitControls_unawaited hmode hwaits]
        exact afterCall_unawaited s hopen receivedFirst bursts

/-! ## Two particular calls -/

/-- A call that does not wait lets no time pass and nothing happen, and counts no timeout. -/
theorem awaitControls_instant {s : Scheduler} {receivedFirst isShutdown : Bool}
    (h : ¬ s.Waits receivedFirst isShutdown) (channel : CommandChannel α) (bursts : List (Burst α)) :
    let r := s.awaitControls channel receivedFirst isShutdown bursts
    r.waited = 0 ∧ r.ahead = bursts ∧ r.scheduler.stats.timeouts = s.stats.timeouts := by
  cases isShutdown with
  | true => exact ⟨rfl, rfl, rfl⟩
  | false =>
    cases hmode : s.mode with
    | freeRunning speedFactor => simp [awaitControls, hmode]
    | lockstep timeout =>
      rw [awaitControls_unawaited hmode h]
      rcases s.takeUnawaited_cases channel receivedFirst bursts with
        ⟨-, hr⟩ | ⟨_, -, -, hr⟩ | ⟨_, -, -, hr⟩ <;>
        rw [hr] <;> exact ⟨rfl, rfl, rfl⟩

/-- Only in lockstep, and only before the shutdown, are there acknowledgements. -/
theorem lockstep_of_acknowledged {s : Scheduler} {channel : CommandChannel α}
    {receivedFirst isShutdown : Bool} {bursts : List (Burst α)}
    (h : (s.awaitControls channel receivedFirst isShutdown bursts).status = .acknowledged) :
    isShutdown = false ∧ ∃ timeout, s.mode = .lockstep timeout := by
  cases isShutdown with
  | true => cases h
  | false =>
    cases hmode : s.mode with
    | freeRunning speedFactor =>
      simp [awaitControls, hmode] at h
    | lockstep timeout => exact ⟨rfl, timeout, rfl⟩

/-- In lockstep an unread answer is the acknowledgement, at once and whether the call would wait or not. -/
theorem awaitControls_answered {s : Scheduler} {timeout : Nat} (hmode : s.mode = .lockstep timeout)
    {channel : CommandChannel α} (hopen : channel.closed = false) {c : Command α}
    (hc : channel.unread = some c) (ha : s.answers c = true) (receivedFirst : Bool)
    (bursts : List (Burst α)) :
    ∃ channel', s.awaitControls channel receivedFirst false bursts
      = ⟨.acknowledged, some c, s.acknowledge, channel', false, 0, bursts⟩ := by
  -- a wait finds the answer at its first look, before any burst
  by_cases hwaits : s.Waits receivedFirst false
  · rw [awaitControls_waits hmode hwaits, waitFrom_ended (look_answer hc ha)]
    exact ⟨_, rfl⟩
  · have htake : channel.readable = some c := by rw [CommandChannel.readable_of_open hopen, hc]
    rw [awaitControls_unawaited hmode hwaits]
    rcases s.takeUnawaited_cases channel receivedFirst bursts with
      ⟨hnone, -⟩ | ⟨d, hd, -, hr⟩ | ⟨d, hd, hlate, -⟩
    · rw [htake] at hnone
      cases hnone
    · rw [hr, Option.some.inj (hd.symm.trans htake)]
      exact ⟨_, rfl⟩
    · rw [Option.some.inj (hd.symm.trans htake), ha] at hlate
      cases hlate

theorem awaitControls_unread_answer {s : Scheduler} {timeout : Nat} (hmode : s.mode = .lockstep timeout)
    {channel : CommandChannel α} (hopen : channel.closed = false) {c : Command α}
    (hc : channel.unread = some c) (ha : s.answers c = true) (receivedFirst : Bool)
    (bursts : List (Burst α)) :
    let r := s.awaitControls channel receivedFirst false bursts
    r.status = .acknowledged ∧ r.command = some c ∧ r.ahead = bursts := by
  obtain ⟨channel', hr⟩ := awaitControls_answered hmode hopen hc ha receivedFirst bursts
  rw [hr]
  exact ⟨rfl, rfl, rfl⟩

/-- In lockstep a call with nothing to wait for and nothing unread holds. -/
theorem awaitControls_nothing {s : Scheduler} {timeout : Nat} (hmode : s.mode = .lockstep timeout)
    (hawaiting : s.awaiting = false) {channel : CommandChannel α} (hnone : channel.unread = none)
    (receivedFirst : Bool) (bursts : List (Burst α)) :
    s.awaitControls channel receivedFirst false bursts
      = ⟨.holding, none, s, channel.takeLatest.2, false, 0, bursts⟩ := by
  have htake : channel.readable = none := by rw [CommandChannel.readable, hnone, ite_self]
  have hidle : ¬ s.Waits receivedFirst false := fun hwaits => by
    rw [hwaits.2.2.1] at hawaiting
    cases hawaiting
  rw [awaitControls_unawaited hmode hidle]
  rcases s.takeUnawaited_cases channel receivedFirst bursts with ⟨-, hr⟩ | ⟨c, hc, -⟩ | ⟨c, hc, -⟩
  · exact hr
  · rw [htake] at hc
    cases hc
  · rw [htake] at hc
    cases hc

end Scheduler

end HilBridge
