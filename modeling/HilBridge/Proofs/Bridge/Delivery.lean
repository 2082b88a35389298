import HilBridge.Proofs.Bridge.Epoch

/-!
# `HilBridge.Proofs.Bridge.Delivery` — which of the commands that come in are applied

A command comes in through the channel and is applied by a tick, or it never is: another may overtake it, and a
tick that waits passes over what is late. The journal has both lists, the commands that came in (`commands`) and
those that ticks were handed (`applied`), and the dispatcher has had exactly the latter (`dispatcher_step`).

What a tick is handed was unread when it looked, or came in while it waited. So the commands applied, with the
one that is still unread behind them, are some of those that came in, in their order. This is the invariant
`Journal.Delivers`.

**Main statement.** `commands_applied_in_order`: no command is applied twice or behind a later one, and outside
lockstep a tick applies the newest one unless a tick before it has read it.
-/

namespace HilBridge

variable {L α : Type}

/-! ## What the journal says -/

namespace Event

/-- The command that came in. -/
def command? : Event α → Option (Command α)
  | .published value => value
  | .tick .. => none
  | .opened => none
  | .closing => none
  | .dropped => none
  | .reported _ => none

/-- The command that a tick was handed. -/
def applied? : Event α → Option (Command α)
  | .tick _ command => command
  | .published _ => none
  | .opened => none
  | .closing => none
  | .dropped => none
  | .reported _ => none

/-- Whether the event is a tick that obtained its actuator state. -/
def isTick : Event α → Bool
  | .tick .. => true
  | _ => false

theorem applied?_of_not_isTick {e : Event α} (h : e.isTick = false) : e.applied? = none := by
  cases e with
  | tick _ _ => cases h
  | _ => rfl

theorem not_isTick_of_isConnecting {e : Event α} (h : e.isConnecting = true) : e.isTick = false := by
  cases e with
  | tick _ _ => cases h
  | _ => rfl

end Event

namespace Journal

/-- The commands that came in, oldest first. -/
def commands (j : Journal α) : List (Command α) :=
  j.filterMap Event.command?

/-- The commands that ticks were handed, in the order of the ticks. -/
def applied (j : Journal α) : List (Command α) :=
  j.filterMap Event.applied?

@[simp]
theorem commands_append (j k : Journal α) : commands (j ++ k) = j.commands ++ k.commands :=
  List.filterMap_append ..

@[simp]
theorem applied_append (j k : Journal α) : applied (j ++ k) = j.applied ++ k.applied :=
  List.filterMap_append ..

@[simp]
theorem applied_tick (status : SyncStatus) (command : Option (Command α)) :
    applied [.tick status command] = command.toList := by
  cases command <;> rfl

@[simp]
theorem commands_tick (status : SyncStatus) (command : Option (Command α)) :
    commands [.tick status command] = [] :=
  rfl

@[simp]
theorem commands_publications (values : List (Option (Command α))) :
    commands (publications values) = values.filterMap id := by
  rw [commands, publications, List.filterMap_map]
  rfl

/-- Only ticks are handed commands. -/
theorem applied_of_not_isTick {k : Journal α} (h : ∀ e ∈ k, e.isTick = false) : k.applied = [] :=
  List.filterMap_eq_nil_iff.mpr fun e he => Event.applied?_of_not_isTick (h e he)

theorem applied_publications (values : List (Option (Command α))) : applied (publications values) = [] :=
  applied_of_not_isTick fun _ he => Event.not_isTick_of_isConnecting (isConnecting_of_mem_publications he)

/-- With no tick and no newer value behind it, what came in last is unread. -/
theorem leftUnread_of_untouched {before after : Journal α} {value : Option (Command α)}
    (hvalue : ∀ v, Event.published v ∉ after) (htick : ∀ e ∈ after, e.isTick = false) :
    leftUnread (before ++ .published value :: after) = value := by
  refine latest_of_split rfl fun e he => ?_
  cases e with
  | published v => exact absurd he (hvalue v)
  | tick _ _ => cases htick _ he
  | _ => rfl

/-- A tick has read all that came in before it. -/
theorem leftUnread_of_tick {before after : Journal α} {e : Event α} (he : e.isTick = true)
    (hvalue : ∀ v, Event.published v ∉ after) : leftUnread (before ++ e :: after) = none := by
  obtain ⟨status, command, rfl⟩ : ∃ status command, e = .tick status command := by
    cases e with
    | tick status command => exact ⟨status, command, rfl⟩
    | _ => cases he
  have hread : leftUnread (before ++ [.tick status command]) = none := by
    rw [leftUnread, latest_concat]
    rfl
  rw [List.append_cons]
  refine latest_append_eq_none hread fun d hd x hx => ?_
  cases d with
  | published v => exact hvalue v hd
  | _ => cases hx

/-- The newest command is unread until a tick comes. -/
theorem leftUnread_of_newest {before after : Journal α} {newest : Command α}
    (hlast : ∀ value, Event.published value ∉ after) :
    leftUnread (before ++ .published (some newest) :: after)
      = if after.any Event.isTick then none else some newest := by
  by_cases hticked : after.any Event.isTick = true
  · rw [if_pos hticked]
    obtain ⟨e, he, htick⟩ := List.any_eq_true.mp hticked
    obtain ⟨front, back, rfl⟩ := List.append_of_mem he
    have hback : ∀ value, Event.published value ∉ back := by
      intro value hmem
      exact hlast value (List.mem_append_right _ (List.mem_cons_of_mem _ hmem))
    have hread : leftUnread ((before ++ .published (some newest) :: front) ++ e :: back) = none :=
      leftUnread_of_tick htick hback
    rwa [List.append_assoc, List.cons_append] at hread
  · rw [if_neg hticked]
    refine leftUnread_of_untouched hlast fun e he => ?_
    rw [Bool.eq_false_iff]
    exact fun htick => hticked (List.any_eq_true.mpr ⟨e, he, htick⟩)

/-! ## The invariant -/

/-- What was applied and then what is unread are some of the commands that came in, in their order. -/
def Delivers (j : Journal α) : Prop :=
  (j.applied ++ j.leftUnread.toList).Sublist j.commands

namespace Delivers

variable {j k : Journal α}

theorem applied_sublist (h : j.Delivers) : j.applied.Sublist j.commands :=
  (List.sublist_append_left _ _).trans h

/-- What comes in takes the place of what was unread. -/
theorem concat (h : j.Delivers) {e : Event α} (he : e.isTick = false) : Delivers (j ++ [e]) := by
  have hnone : applied [e] = [] := applied_of_not_isTick (by simpa using he)
  unfold Delivers
  rw [applied_append, commands_append, hnone, List.append_nil, leftUnread, latest_concat]
  cases e with
  | published value =>
    have hlast : commands [Event.published value] = value.toList := by cases value <;> rfl
    rw [hlast]
    exact h.applied_sublist.append (.refl _)
  | tick _ _ => cases he
  | _ => exact h.trans (List.sublist_append_left _ _)

/-- Whatever happens between two ticks. -/
theorem between (h : j.Delivers) (hk : ∀ e ∈ k, e.isTick = false) : Delivers (j ++ k) := by
  induction k using List.reverseRecOn with
  | nil => rwa [List.append_nil]
  | append_singleton k e ih =>
    rw [← List.append_assoc]
    exact (ih fun d hd => hk d (List.mem_append_left [e] hd)).concat (hk e (by simp))

/-- A tick is handed what was unread or came in while it waited, and leaves nothing unread. -/
theorem tick (h : j.Delivers) {values : List (Option (Command α))} {status : SyncStatus}
    {command : Option (Command α)} (horigin : ∀ c ∈ command, j.leftUnread = some c ∨ some c ∈ values) :
    Delivers (j ++ publications values ++ [.tick status command]) := by
  have hread : leftUnread (j ++ publications values ++ [.tick status command]) = none := by
    rw [leftUnread, latest_concat]
    rfl
  unfold Delivers
  rw [hread, applied_append, applied_append, commands_append, commands_append, applied_publications,
    applied_tick, commands_tick, commands_publications, Option.toList_none, List.append_nil, List.append_nil,
    List.append_nil]
  cases command with
  | none =>
    rw [Option.toList_none, List.append_nil]
    exact h.applied_sublist.trans (List.sublist_append_left _ _)
  | some c =>
    rcases horigin c rfl with hunread | hmem
    · have hsub : (j.applied ++ j.leftUnread.toList).Sublist j.commands := h
      rw [hunread] at hsub
      exact hsub.trans (List.sublist_append_left _ _)
    · refine h.applied_sublist.append (List.singleton_sublist.mpr ?_)
      exact List.mem_filterMap.mpr ⟨some c, hmem, rfl⟩

end Delivers

end Journal

/-! ## The dispatcher -/

/-- A dispatcher after some more commands. -/
def Dispatcher.after [Scalar α] (d : Dispatcher α) (commands : List (Command α)) : Dispatcher α :=
  commands.foldl (fun d command => (d.apply command).2) d

/-- A tick that is told to shut down is handed nothing. -/
theorem Scheduler.command_of_shutdown {s : Scheduler} {channel : CommandChannel α}
    {receivedFirst isShutdown : Bool} {bursts : List (Burst α)}
    (h : (s.awaitControls channel receivedFirst isShutdown bursts).status = .shutdown) :
    (s.awaitControls channel receivedFirst isShutdown bursts).command = none := by
  cases isShutdown with
  | true => rfl
  | false =>
    cases hmode : s.mode with
    | freeRunning speedFactor => simp [awaitControls, hmode] at h
    | lockstep timeout =>
      by_cases hwaits : s.Waits receivedFirst false
      · rw [awaitControls_waits hmode hwaits] at h ⊢
        have hout := outcome_waitFrom timeout 0 s channel bursts
        -- whoever sees an answer is not told to shut down any more
        have hnone : (sightings timeout channel bursts).any s.answers = false := by
          rw [Bool.eq_false_iff]
          intro hany
          rw [hout.status, ending_eq_acknowledged_iff.mpr hany] at h
          cases h
        rw [hout.command, List.find?_eq_none]
        intro c hc
        simpa using List.any_eq_false.mp hnone c hc
      · rw [awaitControls_unawaited hmode hwaits] at h
        rcases s.takeUnawaited_cases channel receivedFirst bursts with
          ⟨-, hr⟩ | ⟨_, -, -, hr⟩ | ⟨_, -, -, hr⟩ <;> rw [hr] at h <;> cases h

namespace Bridge

@[simp]
theorem dispatcher_syncEpoch (b : Bridge L α) : b.syncEpoch.dispatcher = b.dispatcher := by
  unfold syncEpoch
  split <;> rfl

variable [AutopilotLink L α]

@[simp]
theorem dispatcher_pollReady (b : Bridge L α) : b.pollReady.2.dispatcher = b.dispatcher :=
  dispatcher_syncEpoch _

variable [Scalar α]

omit [AutopilotLink L α] in
theorem dispatcher_applyCommand (b : Bridge L α) (command : Option (Command α)) :
    (b.applyCommand command).dispatcher = b.dispatcher.after command.toList := by
  cases command <;> rfl

/-- The first half of a tick applies what it is handed. -/
theorem dispatcher_preUpdate (b : Bridge L α) (tick : Tick) (bursts : List (Burst α)) :
    (b.preUpdate tick bursts).bridge.dispatcher
      = b.dispatcher.after (Journal.applied (b.preUpdateEvents tick bursts)) := by
  cases hs : b.connection.isShutdown with
  | true => simp [preUpdate, preUpdateEvents, hs, Journal.applied, Dispatcher.after]
  | false =>
    cases hp : tick.paused with
    | true => simp [preUpdate, preUpdateEvents, hs, hp, Journal.applied, Dispatcher.after]
    | false =>
      have hpolled : Journal.applied b.connection.pollEvents = [] :=
        Journal.applied_of_not_isTick fun _ he =>
          Event.not_isTick_of_isConnecting (Connection.isConnecting_of_mem_pollEvents he)
      have hawaited : (b.pollReady.2.awaitControls bursts).2.1.dispatcher = b.dispatcher :=
        b.dispatcher_pollReady
      rw [preUpdateEvents_of_running hs hp, Journal.applied_append, Journal.applied_append, hpolled,
        Journal.applied_publications, Journal.applied_tick, List.nil_append, List.nil_append]
      simp only [preUpdate, hs, hp, Bool.false_eq_true, if_false]
      split
      · rename_i hshutdown
        have hnone : (b.pollReady.2.awaitControls bursts).1.command = none :=
          Scheduler.command_of_shutdown hshutdown
        rw [hnone]
        exact hawaited
      · rw [dispatcher_applyCommand, hawaited]

/-- The second half leaves the dispatcher alone. -/
theorem dispatcher_postUpdate (b : Bridge L α) (tick : Tick) :
    (b.postUpdate tick).2.dispatcher = b.dispatcher := by
  have hplans := b.plans_planCycle tick
  show (b.tickEnd tick).bridge.dispatcher = b.dispatcher
  rcases hplanned : b.planCycle tick with ⟨plan?, b'⟩
  rw [hplanned] at hplans
  cases hplans with
  | idle => rw [tickEnd_of_unplanned hplanned]
  | closed | repeated => rw [tickEnd_of_unplanned hplanned, dispatcher_pollReady]
  | cycle =>
    rw [tickEnd_of_planned hplanned]
    exact b.dispatcher_pollReady

/-- No tick obtains its actuator state in the second half. -/
theorem not_isTick_of_mem_postUpdateEvents {b : Bridge L α} {tick : Tick} {e : Event α}
    (he : e ∈ b.postUpdateEvents tick) : e.isTick = false := by
  unfold postUpdateEvents at he
  split at he
  · cases he
  · rcases List.mem_append.mp he with he | he
    · exact Event.not_isTick_of_isConnecting (Connection.isConnecting_of_mem_pollEvents he)
    · rcases eq_of_mem_sendAllEvents he with ⟨time, rfl⟩ | ⟨value, rfl⟩ | rfl <;> rfl

end Bridge

/-! ## Every run -/

section
variable [Scalar α] [AutopilotLink L α]

/-- Of all calls only the first half of a tick obtains an actuator state. -/
theorem Call.not_isTick_of_mem_events {b : Bridge L α} {call : Call L α}
    (hcall : ∀ tick bursts, call ≠ .preUpdate tick bursts) {e : Event α} (he : e ∈ call.events b) :
    e.isTick = false := by
  cases call with
  | preUpdate tick bursts => exact absurd rfl (hcall tick bursts)
  | postUpdate tick => exact Bridge.not_isTick_of_mem_postUpdateEvents he
  | reconnect => exact Event.not_isTick_of_isConnecting (Connection.isConnecting_of_mem_reconnectEvents he)
  | happen events => exact Event.not_isTick_of_isConnecting (Journal.isConnecting_of_mem_publications he)
  | relink change => rw [eq_of_mem_dropEvents he]; rfl
  | _ => cases he

/-- The dispatcher has had what the journal says was applied. -/
theorem Call.dispatcher_apply (b : Bridge L α) (call : Call L α) :
    (call.apply b).dispatcher = b.dispatcher.after (Journal.applied (call.events b)) := by
  have hquiet : ∀ call : Call L α, (∀ tick bursts, call ≠ .preUpdate tick bursts) →
      b.dispatcher.after (Journal.applied (call.events b)) = b.dispatcher := fun call hcall => by
    rw [Journal.applied_of_not_isTick fun _ => Call.not_isTick_of_mem_events hcall]
    rfl
  cases call with
  | preUpdate tick bursts => exact b.dispatcher_preUpdate tick bursts
  | postUpdate tick => exact (b.dispatcher_postUpdate tick).trans (hquiet (.postUpdate tick) nofun).symm
  | reconnect => exact (Bridge.dispatcher_syncEpoch _).trans (hquiet .reconnect nofun).symm
  | sample s => exact (hquiet (.sample s) nofun).symm
  | storeImu s => exact (hquiet (.storeImu s) nofun).symm
  | range link s => exact (hquiet (.range link s) nofun).symm
  | happen events => exact (hquiet (.happen events) nofun).symm
  | resolve resolver moment => exact (hquiet (.resolve resolver moment) nofun).symm
  | relink change => exact (hquiet (.relink change) nofun).symm

namespace Recorded

variable {mode : TimeMode} {r : Recorded L α}

/-- Every call keeps the order of the commands. -/
theorem delivers_step (h : r.journal.Records mode r.bridge.scheduler r.bridge.connection)
    (hdelivers : r.journal.Delivers) (call : Call L α) : (r.step call).journal.Delivers := by
  by_cases hcall : ∃ tick bursts, call = .preUpdate tick bursts
  · obtain ⟨tick, bursts, rfl⟩ := hcall
    show Journal.Delivers (r.journal ++ r.bridge.preUpdateEvents tick bursts)
    by_cases hidle : (r.bridge.connection.isShutdown || tick.paused) = true
    · rw [Bridge.preUpdateEvents, if_pos hidle, List.append_nil]
      exact hdelivers
    · obtain ⟨hs, hp⟩ : r.bridge.connection.isShutdown = false ∧ tick.paused = false := by simpa using hidle
      have hpolled := Bridge.records_pollReady h
      rw [Bridge.preUpdateEvents_of_running hs hp, ← List.append_assoc, ← List.append_assoc]
      refine (hdelivers.between fun e he => ?_).tick fun c hc => ?_
      · exact Event.not_isTick_of_isConnecting (Connection.isConnecting_of_mem_pollEvents he)
      · -- a tick that is handed anything was not shut down, so the channel held what the journal leaves unread
        refine (Bridge.origin_awaitControls hpolled.channelOpen bursts hc).imp_left fun hunread => ?_
        rw [← hunread]
        refine (hpolled.unread (Bool.eq_false_iff.mpr fun hshutdown => ?_)).symm
        rw [Bridge.awaitControls, hshutdown] at hc
        cases hc
  · push Not at hcall
    exact hdelivers.between fun e he => Call.not_isTick_of_mem_events hcall he

/-- Outside lockstep a tick is handed what is unread, at once. -/
theorem tick_of_freeRunning (h : r.journal.Records mode r.bridge.scheduler r.bridge.connection)
    (hmode : mode.isLockstep = false) {tick : Tick} (hp : tick.paused = false) {bursts : List (Burst α)}
    (hstatus : (r.bridge.preUpdate tick bursts).status ≠ .shutdown) :
    let j := r.journal ++ r.bridge.connection.pollEvents
    (r.bridge.preUpdate tick bursts).status = .freeRunning
      ∧ (r.step (.preUpdate tick bursts)).journal = j ++ [.tick .freeRunning j.leftUnread] := by
  intro j
  have hpolled := Bridge.records_pollReady h
  have hs : r.bridge.connection.isShutdown = false := by
    rw [Bool.eq_false_iff]
    intro hshutdown
    exact hstatus (by simp [Bridge.preUpdate, hshutdown])
  rw [Bridge.status_preUpdate hs hp] at hstatus ⊢
  have hrunning : r.bridge.pollReady.2.connection.isShutdown = false := by
    rw [Bool.eq_false_iff]
    intro hshutdown
    rw [Bridge.awaitControls, hshutdown] at hstatus
    exact hstatus rfl
  obtain ⟨speedFactor, hfree⟩ : ∃ speedFactor, r.bridge.pollReady.2.scheduler.mode = .freeRunning speedFactor := by
    rw [hpolled.mode]
    cases mode with
    | freeRunning speedFactor => exact ⟨speedFactor, rfl⟩
    | lockstep _ => cases hmode
  have hresult : (r.bridge.pollReady.2.awaitControls bursts).1
      = ⟨.freeRunning, r.bridge.pollReady.2.connection.channel.takeLatest.1, r.bridge.pollReady.2.scheduler,
        r.bridge.pollReady.2.connection.channel.takeLatest.2, false, 0, r.bridge.pollReady.2.heard bursts⟩ := by
    simp only [Bridge.awaitControls, Scheduler.awaitControls, hrunning, hfree, Bridge.heard, Bool.false_eq_true,
      if_false]
  have hcommand : r.bridge.pollReady.2.connection.channel.takeLatest.1 = j.leftUnread := by
    rw [CommandChannel.takeLatest_fst, CommandChannel.readable_of_open hpolled.channelOpen, hpolled.unread hrunning]
  have hnothing : r.bridge.pollReady.2.meanwhile bursts = [] := Bridge.meanwhile_eq_nil (by rw [hresult])
  refine ⟨by rw [hresult], ?_⟩
  show r.journal ++ r.bridge.preUpdateEvents tick bursts = _
  rw [Bridge.preUpdateEvents_of_running hs hp, hnothing, hresult, hcommand, Journal.publications_nil,
    List.append_nil, ← List.append_assoc]

/-- The dispatcher has had what the journal says was applied, and the journal is in order. -/
theorem delivers_run {c : Config α} {link : L} {names : NameService} {b : Bridge L α}
    (hb : Bridge.configure c link names = .ok b) (calls : List (Call L α)) :
    (run b calls).bridge.dispatcher = b.dispatcher.after (run b calls).journal.applied
      ∧ (run b calls).journal.Delivers := by
  -- the order of the commands hangs on what bridge and journal have in common, so both go along
  refine (run_induction (P := fun r => r.journal.Records (.ofConfig c) r.bridge.scheduler r.bridge.connection
    ∧ r.bridge.dispatcher = b.dispatcher.after r.journal.applied ∧ r.journal.Delivers)
    ⟨records_run hb [], rfl, .refl _⟩ (fun r call h => ⟨records_step h.1 call, ?_, ?_⟩) calls).2
  · show (call.apply r.bridge).dispatcher = b.dispatcher.after (r.journal ++ call.events r.bridge).applied
    rw [Call.dispatcher_apply, h.2.1, Journal.applied_append, Dispatcher.after, Dispatcher.after, Dispatcher.after,
      List.foldl_append]
  · exact delivers_step h.1 h.2.2 call

/--
**No command is applied twice, or behind a later one.** After every run of a configured bridge its dispatcher has
had the commands that the journal says were applied, one after the other, and these are some of the commands that
came in, in their order. Outside lockstep every tick that is neither paused nor told to shut down is handed the
newest command, unless a tick has read that already; commands that it overtook, in a pause or not, are gone.
-/
theorem commands_applied_in_order {c : Config α} {link : L} {names : NameService} {b : Bridge L α}
    (hb : Bridge.configure c link names = .ok b) (calls : List (Call L α)) :
    let r := run b calls
    r.bridge.dispatcher = b.dispatcher.after r.journal.applied
      ∧ r.journal.applied.Sublist r.journal.commands
      ∧ ∀ tick bursts, c.lockstep = false → tick.paused = false →
        (r.bridge.preUpdate tick bursts).status ≠ .shutdown →
        let next := r.step (.preUpdate tick bursts)
        let j := r.journal ++ r.bridge.connection.pollEvents
        ∃ command, next.journal = j ++ [.tick .freeRunning command]
          ∧ next.bridge.dispatcher = r.bridge.dispatcher.after command.toList
          ∧ (j.commands = [] → command = none)
          ∧ ∀ before newest after, j = before ++ .published (some newest) :: after →
            (∀ value, Event.published value ∉ after) →
            command = if after.any Event.isTick then none else some newest := by
  intro r
  have hrecords := records_run hb calls
  obtain ⟨hdispatcher, hdelivers⟩ := delivers_run hb calls
  refine ⟨hdispatcher, hdelivers.applied_sublist, fun tick bursts hfree hp hstatus => ?_⟩
  have hmode : (TimeMode.ofConfig c).isLockstep = false := by
    rw [TimeMode.ofConfig, hfree]
    rfl
  intro next j
  obtain ⟨-, hjournal⟩ := tick_of_freeRunning hrecords hmode hp hstatus
  have hpolled : Journal.Delivers j := hdelivers.between fun e he =>
    Event.not_isTick_of_isConnecting (Connection.isConnecting_of_mem_pollEvents he)
  refine ⟨j.leftUnread, hjournal, ?_, fun hnone => ?_, fun before newest after hsplit hlast => ?_⟩
  · have hevents : r.bridge.preUpdateEvents tick bursts
        = r.bridge.connection.pollEvents ++ [.tick .freeRunning j.leftUnread] := by
      have hsame : r.journal ++ r.bridge.preUpdateEvents tick bursts
          = r.journal ++ (r.bridge.connection.pollEvents ++ [.tick .freeRunning j.leftUnread]) := by
        rw [← List.append_assoc]
        exact hjournal
      exact List.append_cancel_left hsame
    have hquiet : Journal.applied r.bridge.connection.pollEvents = [] :=
      Journal.applied_of_not_isTick fun _ he =>
        Event.not_isTick_of_isConnecting (Connection.isConnecting_of_mem_pollEvents he)
    show (r.bridge.preUpdate tick bursts).bridge.dispatcher = _
    rw [Bridge.dispatcher_preUpdate, hevents, Journal.applied_append, hquiet, Journal.applied_tick, List.nil_append]
  · have hsub : (j.applied ++ j.leftUnread.toList).Sublist j.commands := hpolled
    rw [hnone, List.sublist_nil, List.append_eq_nil_iff] at hsub
    exact Option.toList_eq_nil_iff.mp hsub.2
  · rw [hsplit]
    exact Journal.leftUnread_of_newest hlast

end Recorded

end

namespace Recorded

/-- A tick of a simulation that stands still. -/
def pausedTick : Call (ScriptedLink Float) Float :=
  .preUpdate { Trial.tick 4000 with paused := true } []

/-- Two commands come in while the simulation stands still. -/
def pausedCalls : List (Call (ScriptedLink Float) Float) :=
  Trial.opening ++ [pausedTick, .happen [.publish (some (Trial.command 4000))], pausedTick,
    .happen [.publish (some (Trial.command 8000))], pausedTick]

/-- After the pause the newer of the two is applied, and the older never. -/
theorem newest_applied_after_pause :
    ∃ b, Bridge.configure { Trial.config with lockstep := false } Trial.link Trial.names = .ok b ∧
      let r := run b pausedCalls
      let next := r.step (.preUpdate (Trial.tick 4000) [])
      (r.bridge.preUpdate (Trial.tick 4000) []).status ≠ .shutdown
        ∧ next.journal.commands = [Trial.command 4000, Trial.command 8000]
        ∧ next.journal.applied = [Trial.command 8000]
        ∧ next.bridge.dispatcher = r.bridge.dispatcher.after [Trial.command 8000] := by
  have hrun : (Bridge.configure { Trial.config with lockstep := false } Trial.link Trial.names).toOption.map
      (fun b =>
        let r := run b pausedCalls
        (r.journal, r.bridge.connection.pollEvents, (r.bridge.preUpdate (Trial.tick 4000) []).status))
      = some ([.opened, .tick .freeRunning none, .published (some (Trial.command 4000)),
          .published (some (Trial.command 8000))], [], .freeRunning) := by
    decide +kernel
  obtain ⟨b, hb, hr⟩ := Trial.exists_of_map hrun
  simp only [Prod.mk.injEq] at hr
  obtain ⟨hjournal, hpoll, hstatus⟩ := hr
  have hstatus : (_ : SyncStatus) ≠ .shutdown := ne_of_eq_of_ne hstatus nofun
  obtain ⟨-, -, hnewest⟩ := commands_applied_in_order hb pausedCalls
  obtain ⟨command, hnext, hdispatcher, -, hcommand⟩ := hnewest (Trial.tick 4000) [] rfl rfl hstatus
  rw [hpoll, List.append_nil, hjournal] at hnext hcommand
  have heq := hcommand [.opened, .tick .freeRunning none, .published (some (Trial.command 4000))]
    (Trial.command 8000) [] rfl (by simp)
  rw [heq] at hnext hdispatcher
  exact ⟨b, hb, hstatus, by rw [hnext]; rfl, by rw [hnext]; rfl, hdispatcher⟩

end Recorded

end HilBridge
