import HilBridge.Proofs.Bridge.Records
import HilBridge.Proofs.Recording
import HilBridge.Proofs.Sensor.Bookkeeping

/-!
# `HilBridge.Proofs.Bridge.Samples` — what a bridge does with its samples

A run of a bridge has a ledger too: samples come in at any time, and only the second half of a tick that has
an open link and a new time takes any out (`postUpdateEntries`). Whatever else happens to a bridge leaves its
samples alone, so the assembler's books are kept along every run (`books_run`).

The ledger is not what the autopilot gets. That is in the `TickEnd` of each second half: the messages of its cycle,
and those of them that the connection was asked to send. So the ledger of a run is tied to the reports that the
bridge really made in it (`Call.reports`), and each cycle's to what was handed over.

**Main statement.** `run_accounts_for_samples`: the latest sample wins, none is used twice, and none is lost but
to a newer one or for its age.
-/

namespace HilBridge

variable {L α : Type}

/-! ## What is handed over -/

namespace Bridge

variable [AutopilotLink L α]

/-- Whatever becomes of a message, if it is no shutdown the sending goes on behind it. -/
theorem sendAll_cons {c d : Connection L α} {message : Message α} {r : Except BridgeError Unit}
    (hsend : c.send message = (r, d)) (hr : r ≠ .error .shutdown) (rest : List (Message α)) :
    (sendAll c (message :: rest)).handed = message :: (sendAll d rest).handed
      ∧ (sendAll c (message :: rest)).connection = (sendAll d rest).connection := by
  rw [sendAll, hsend]
  rcases r with e | _
  · cases e with
    | shutdown => exact absurd rfl hr
    | _ => exact ⟨rfl, rfl⟩
  · exact ⟨rfl, rfl⟩

/-- The connection is asked to send all messages, up to one that it answers by a shutdown. -/
theorem handed_sendAll (c : Connection L α) (messages : List (Message α)) :
    (sendAll c messages).handed = messages
      ∨ ∃ front message rest, messages = front ++ message :: rest
        ∧ (sendAll c messages).handed = front ++ [message]
        ∧ ((sendAll c front).connection.send message).1 = .error .shutdown := by
  induction messages generalizing c with
  | nil => exact .inl rfl
  | cons message rest ih =>
    rcases hsend : c.send message with ⟨r, d⟩
    by_cases hr : r = .error .shutdown
    · subst hr
      refine .inr ⟨[], message, rest, rfl, ?_, congrArg Prod.fst hsend⟩
      rw [sendAll, hsend]
      rfl
    · rw [(sendAll_cons hsend hr rest).1]
      rcases ih d with hall | ⟨front, last, after, hsplit, hfront, hdown⟩
      · exact .inl (by rw [hall])
      · refine .inr ⟨message :: front, last, after, by rw [hsplit]; rfl, by rw [hfront]; rfl, ?_⟩
        rw [(sendAll_cons hsend hr front).2]
        exact hdown

theorem handed_prefix (c : Connection L α) (messages : List (Message α)) :
    (sendAll c messages).handed <+: messages := by
  rcases handed_sendAll c messages with hall | ⟨front, message, rest, hsplit, hfront, -⟩
  · exact ⟨[], by rw [hall, List.append_nil]⟩
  · exact ⟨rest, by rw [hfront, hsplit, List.append_assoc]; rfl⟩

/-- What went out had been handed over. -/
theorem sent_sublist_handed (c : Connection L α) (messages : List (Message α)) :
    (sendAll c messages).sent.Sublist (sendAll c messages).handed := by
  induction messages generalizing c with
  | nil => exact .refl []
  | cons message rest ih =>
    unfold sendAll
    rcases c.send message with ⟨e | _, c'⟩
    · cases e with
      | shutdown => exact List.nil_sublist _
      | _ => exact (ih c').cons message
    · exact (ih c').cons_cons message

end Bridge

/-! ## What the operations do with samples -/

namespace Bridge

variable [Scalar α] [AutopilotLink L α]

/-- What the second half of a tick does with samples. -/
def postUpdateEntries (b : Bridge L α) (tick : Tick) : Ledger α :=
  match b.planCycle tick with
  | (some plan, b) => b.assembler.assembleEntries plan
  | (none, _) => []

end Bridge

namespace Call

variable [Scalar α] [AutopilotLink L α]

/-- What a call does with samples. -/
def samples (b : Bridge L α) : Call L α → Ledger α
  | .sample s => b.assembler.deliverEntries s
  | .storeImu s => b.assembler.storeImuEntries s
  | .range link s => b.assembler.deliverRangeEntries link s
  | .postUpdate tick => b.postUpdateEntries tick
  | .preUpdate .. => []
  | .reconnect => []
  | .happen _ => []
  | .resolve .. => []
  | .relink _ => []

/-- The reports that a call makes for the autopilot. -/
def reports (b : Bridge L α) : Call L α → List (Stamped (Report α))
  | .postUpdate tick => (b.tickEnd tick).messages.filterMap Message.report?
  | .sample _ => []
  | .storeImu _ => []
  | .range .. => []
  | .preUpdate .. => []
  | .reconnect => []
  | .happen _ => []
  | .resolve .. => []
  | .relink _ => []

end Call

/-! ## The books of a bridge -/

namespace Bridge

variable [Scalar α]

theorem books_syncEpoch (b : Bridge L α) : b.assembler.Books [] b.syncEpoch.assembler := by
  unfold syncEpoch
  split
  · exact b.assembler.books_resetSequence
  · exact .refl _

variable [AutopilotLink L α]

theorem books_pollReady (b : Bridge L α) : b.assembler.Books [] b.pollReady.2.assembler :=
  books_syncEpoch (b.mapConnection Connection.pollReady).2

theorem books_reconnect (b : Bridge L α) : b.assembler.Books [] b.reconnect.2.assembler :=
  books_syncEpoch (b.mapConnection Connection.reconnect).2

theorem books_preUpdate (b : Bridge L α) (tick : Tick) (bursts : List (Burst α)) :
    b.assembler.Books [] (b.preUpdate tick bursts).bridge.assembler := by
  have hcommand : ∀ (b : Bridge L α) command, (b.applyCommand command).assembler = b.assembler :=
    fun b command => by cases command <;> rfl
  unfold preUpdate
  split
  · exact .refl _
  · split
    · exact .refl _
    · dsimp only
      split
      · exact b.books_pollReady
      · rw [hcommand]
        exact b.books_pollReady

/-- The second half of a tick leaves all samples where they are, or it runs its cycle. -/
theorem tickEnd_eq_or (b : Bridge L α) (tick : Tick) :
    (∃ b', b.planCycle tick = (none, b') ∧ b.tickEnd tick = ⟨[], [], [], b'⟩ ∧ b.assembler.Books [] b'.assembler)
      ∨ ∃ plan b', b.planCycle tick = (some plan, b') ∧ b.tickEnd tick = b'.runCycle plan := by
  have hplans := b.plans_planCycle tick
  rcases hplanned : b.planCycle tick with ⟨plan?, b'⟩
  rw [hplanned] at hplans
  cases hplans with
  | idle => exact .inl ⟨_, rfl, tickEnd_of_unplanned hplanned, .refl _⟩
  | closed | repeated => exact .inl ⟨_, rfl, tickEnd_of_unplanned hplanned, b.books_pollReady⟩
  | cycle => exact .inr ⟨_, _, rfl, tickEnd_of_planned hplanned⟩

theorem books_postUpdate {b : Bridge L α} (hb : b.assembler.InOrder) (tick : Tick) :
    b.assembler.Books (b.postUpdateEntries tick) (b.tickEnd tick).bridge.assembler := by
  rcases b.tickEnd_eq_or tick with ⟨b', hplan, hend, hbooks⟩ | ⟨plan, b', hplan, hend⟩
  · rw [postUpdateEntries, hplan, hend]
    exact hbooks
  · have hbooks : b.assembler.Books [] b'.assembler := (planCycle_eq_some hplan).2.2.2 ▸ b.books_pollReady
    rw [postUpdateEntries, hplan, hend]
    exact hbooks.trans (Assembler.books_assemble (hbooks.inOrder hb) plan)

/-- Every call agrees with its entries. -/
theorem books_call {b : Bridge L α} (hb : b.assembler.InOrder) (call : Call L α) :
    b.assembler.Books (call.samples b) (call.apply b).assembler := by
  cases call with
  | sample s => exact b.assembler.books_deliver s
  | storeImu s => exact b.assembler.books_storeImu s
  | range link s => exact b.assembler.books_deliverRange link s
  | preUpdate tick bursts => exact b.books_preUpdate tick bursts
  | postUpdate tick => exact books_postUpdate hb tick
  | reconnect => exact b.books_reconnect
  | happen _ => exact .refl _
  | resolve _ _ => exact .refl _
  | relink _ => exact .refl _

/-- Runs of a bridge with the ledgers of their samples. -/
def bookkeeper (L α : Type) [Scalar α] [AutopilotLink L α] : Recorder (Bridge L α) (Call L α) (Entry α) :=
  ⟨Call.apply, Call.samples⟩

theorem books_run {b : Bridge L α} (hb : b.assembler.InOrder) (calls : List (Call L α)) :
    b.assembler.Books ((bookkeeper L α).run b calls).2 ((bookkeeper L α).run b calls).1.assembler := by
  refine (bookkeeper L α).run_induction (P := fun b' l => b.assembler.Books l b'.assembler) (.refl _)
    (fun b' l call h => ?_) calls
  exact h.trans (books_call (h.inOrder hb) call)

/-! ## The cycle of a tick -/

omit [Scalar α] in
/-- Which tick has a cycle. -/
theorem isSome_planCycle_iff (b : Bridge L α) (tick : Tick) :
    (b.planCycle tick).1.isSome = true ↔ tick.paused = false ∧ b.connection.isShutdown = false
      ∧ b.connection.pollReady.1 = true ∧ b.scheduler.lastPlanned ≠ some tick.time := by
  have hplans := b.plans_planCycle tick
  have hready : b.pollReady.1 = b.connection.pollReady.1 := rfl
  rcases hplanned : b.planCycle tick with ⟨plan?, b'⟩
  rw [hplanned] at hplans
  rw [← hready]
  cases hplans with
  | idle hidle =>
    rw [Bool.or_eq_true] at hidle
    rcases hidle with h | h <;> simp [h]
  | closed _ hclosed => simp [hclosed]
  | repeated _ htime => simp [htime]
  | cycle hrunning hopen hnew => simp_all

/-- The messages of a cycle are a heartbeat, if one is due, and what the cycle's entries report. -/
theorem messages_tickEnd (b : Bridge L α) (tick : Tick) :
    ∃ beat : List (Message α), (beat = [] ∨ beat = [.heartbeat])
      ∧ (b.tickEnd tick).messages = beat ++ (Ledger.reports (b.postUpdateEntries tick)).map .report := by
  rcases b.tickEnd_eq_or tick with ⟨b', hplan, hend, -⟩ | ⟨plan, b', hplan, hend⟩
  · rw [postUpdateEntries, hplan, hend]
    exact ⟨[], .inl rfl, rfl⟩
  · rw [postUpdateEntries, hplan, hend, Assembler.reports_assembleEntries]
    refine ⟨if (b'.scheduler.heartbeatDue plan.now).1 then [.heartbeat] else [], ?_, rfl⟩
    split
    · exact .inr rfl
    · exact .inl rfl

omit [Scalar α] [AutopilotLink L α] in
theorem filterMap_report?_map (reports : List (Stamped (Report α))) :
    (reports.map Message.report).filterMap Message.report? = reports := by
  simp [List.filterMap_map, Function.comp_def, Message.report?]

omit [AutopilotLink L α] in
/-- The reports among the messages of a cycle are those that were assembled. -/
theorem reports_cycleMessages (b : Bridge L α) (plan : CyclePlan) :
    (b.cycleMessages plan).1.filterMap Message.report? = (b.assembler.assemble plan).1 := by
  rw [cycleMessages_fst, List.filterMap_append, filterMap_report?_map]
  split <;> rfl

/-- What a call makes of samples is what its entries say that it reports. -/
theorem reports_call (b : Bridge L α) (call : Call L α) : Ledger.reports (call.samples b) = call.reports b := by
  cases call with
  | postUpdate tick =>
    obtain ⟨beat, hbeat, hmessages⟩ := b.messages_tickEnd tick
    have hnone : beat.filterMap Message.report? = [] := by
      rcases hbeat with rfl | rfl <;> rfl
    rw [Call.reports, hmessages, List.filterMap_append, hnone, filterMap_report?_map]
    rfl
  | sample s =>
    show Ledger.reports (b.assembler.deliverEntries s) = []
    unfold Assembler.deliverEntries
    dsimp only
    split <;> rfl
  | storeImu s => rfl
  | range link s =>
    show Ledger.reports (b.assembler.deliverRangeEntries link s) = []
    unfold Assembler.deliverRangeEntries
    dsimp only
    split
    · rfl
    · split <;> rfl
  | _ => rfl

/-- The connection is handed the messages of the cycle, up to one that it answers by a shutdown. -/
theorem handed_tickEnd (b : Bridge L α) (tick : Tick) :
    (b.tickEnd tick).handed = (b.tickEnd tick).messages
      ∨ ∃ front message rest, (b.tickEnd tick).messages = front ++ message :: rest
        ∧ (b.tickEnd tick).handed = front ++ [message]
        ∧ ((sendAll b.pollReady.2.connection front).connection.send message).1 = .error .shutdown := by
  rcases b.tickEnd_eq_or tick with ⟨b', -, hend, -⟩ | ⟨plan, b', hplan, hend⟩
  · rw [hend]
    exact .inl rfl
  · rw [hend, ← (planCycle_eq_some hplan).2.2.1]
    exact handed_sendAll b'.connection (b'.cycleMessages plan).1

theorem handed_prefix_messages (b : Bridge L α) (tick : Tick) :
    (b.tickEnd tick).handed <+: (b.tickEnd tick).messages := by
  rcases b.tickEnd_eq_or tick with ⟨b', -, hend, -⟩ | ⟨plan, b', -, hend⟩
  · exact ⟨[], by rw [hend, List.append_nil]⟩
  · rw [hend]
    exact handed_prefix b'.connection (b'.cycleMessages plan).1

theorem sent_sublist_tickEnd (b : Bridge L α) (tick : Tick) :
    (b.tickEnd tick).sent.Sublist (b.tickEnd tick).handed := by
  rcases b.tickEnd_eq_or tick with ⟨b', -, hend, -⟩ | ⟨plan, b', -, hend⟩
  · rw [hend]
  · rw [hend]
    exact sent_sublist_handed b'.connection (b'.cycleMessages plan).1

theorem arrival?_of_mem_postUpdateEntries {b : Bridge L α} {tick : Tick} {e : Entry α}
    (he : e ∈ b.postUpdateEntries tick) : e.arrival? = none := by
  unfold postUpdateEntries at he
  split at he
  · exact Assembler.arrival?_of_mem_assembleEntries he
  · cases he

/-! ## Every run -/

/-- Runs of a bridge with the reports that it makes for the autopilot. -/
def reporter (L α : Type) [Scalar α] [AutopilotLink L α] :
    Recorder (Bridge L α) (Call L α) (Stamped (Report α)) :=
  ⟨Call.apply, Call.reports⟩

theorem run_reporter (b : Bridge L α) (calls : List (Call L α)) :
    (reporter L α).run b calls
      = (((bookkeeper L α).run b calls).1, Ledger.reports ((bookkeeper L α).run b calls).2) :=
  (bookkeeper L α).run_filterMap (reporter L α) Entry.report? rfl (fun b call => (reports_call b call).symm) b calls

omit [AutopilotLink L α] in
/-- A configured bridge has no samples. -/
theorem tray_configure {c : Config α} {link : L} {names : NameService} {b : Bridge L α}
    (hb : configure c link names = .ok b) (k : Category) :
    b.assembler.tray k = .empty ∧ b.assembler.stats.staleDropped = 0 := by
  obtain ⟨-, dispatcher, rfl⟩ := eq_of_configure hb
  exact ⟨Assembler.tray_new c _ k, rfl⟩

/--
**The latest sample wins, none is used twice, and none is lost.** After every run of a configured bridge:
an accepted sample waits, or a newer one has replaced it, or the next report of its category is made from it,
or it was inertial and is counted as too old; the reports of a category are made from samples of their own, in
the order in which these were accepted; and the reports are those that the bridge made for the autopilot. A tick's
second half then makes at most one report in a category, from the sample accepted last; its messages are a
heartbeat, if one is due, and those reports, and the connection is handed all of them, or those up to one that
it answers by a shutdown. And if the tick is paused, shut down or planned before, or the link is not open, there
are no messages, and every sample stays where it is.
-/
theorem run_accounts_for_samples {c : Config α} {link : L} {names : NameService} {b₀ : Bridge L α}
    (hb : configure c link names = .ok b₀) (calls : List (Call L α)) :
    let b := ((bookkeeper L α).run b₀ calls).1
    let l : Ledger α := ((bookkeeper L α).run b₀ calls).2
    let makes := Arrival.Makes b₀.assembler.settings b₀.assembler.rangeLinks
    (∀ k before x after, l.moving k = before ++ .accepted x :: after →
        (after = [] ∧ (b.assembler.tray k).pending = some x)
          ∨ (∃ newer rest, after = .accepted newer :: rest)
          ∨ (∃ report rest, after = .reported k report :: rest ∧ makes x report)
          ∨ (k = .imu ∧ ∃ rest, after = .discarded :: rest))
      ∧ b.assembler.stats.staleDropped = l.countP Entry.isStale
      ∧ (∀ k, ∃ used, used.Sublist (l.moving k).arrivals
          ∧ List.Forall₂ makes used (l.moving k).reports)
      ∧ l.reports = ((reporter L α).run b₀ calls).2
      ∧ ∀ tick,
        let cycle := b.postUpdateEntries tick
        let e := b.tickEnd tick
        b.postUpdate tick = (e.sent.length, e.bridge)
          ∧ (∀ k, (cycle.moving k).length ≤ 1)
          ∧ (∀ k report, .reported k report ∈ cycle →
            ∃ x, (l.moving k).getLast? = some (.accepted x) ∧ makes x report)
          ∧ (∃ beat : List (Message α), (beat = [] ∨ beat = [.heartbeat])
            ∧ e.messages = beat ++ cycle.reports.map .report)
          ∧ (e.handed = e.messages
            ∨ ∃ front message rest, e.messages = front ++ message :: rest ∧ e.handed = front ++ [message]
              ∧ ((sendAll b.pollReady.2.connection front).connection.send message).1 = .error .shutdown)
          ∧ e.sent.Sublist e.handed
          ∧ (tick.paused = true ∨ b.connection.isShutdown = true ∨ b.connection.pollReady.1 = false
              ∨ b.scheduler.lastPlanned = some tick.time →
            e.messages = [] ∧ e.handed = [] ∧ e.sent = []
              ∧ ∀ k, e.bridge.assembler.tray k = b.assembler.tray k) := by
  intro b l makes
  have hempty := fun k => (tray_configure hb k).1
  have hstart := Assembler.inOrder_of_empty hempty
  have hbooks : b₀.assembler.Books l b.assembler := books_run hstart calls
  refine ⟨fun k before x after => Tray.fate (hbooks.steps hempty k), ?_,
    fun k => Tray.made_in_order (hbooks.steps hempty k), ?_, fun tick => ?_⟩
  · rw [hbooks.stale, (tray_configure hb .imu).2, Nat.zero_add]
  · rw [run_reporter]
  · have hcycle := books_postUpdate (hbooks.inOrder hstart) tick
    have hone : ∀ k, ((b.postUpdateEntries tick).moving k).length ≤ 1 := fun k =>
      (hcycle.trays k).length_le_one fun e he => arrival?_of_mem_postUpdateEntries (List.mem_filter.mp he).1
    refine ⟨rfl, hone, fun k report => Tray.latest ((hbooks.trans hcycle).steps hempty k) (hone k),
      b.messages_tickEnd tick, b.handed_tickEnd tick, b.sent_sublist_tickEnd tick, fun hidle => ?_⟩
    rcases b.tickEnd_eq_or tick with ⟨b', -, hend, hstay⟩ | ⟨plan, b', hplan, -⟩
    · rw [hend]
      exact ⟨rfl, rfl, rfl, fun k => (hstay.trays k).eq_of_nil rfl⟩
    · obtain ⟨hpaused, hrunning, hready, hnew⟩ := (b.isSome_planCycle_iff tick).mp (by rw [hplan]; rfl)
      simp_all

/--
Of two inertial samples before a tick's second half the newer one is reported, and it is one that came in. It goes
to the connection behind the first heartbeat.
-/
theorem newer_sample_is_reported :
    ∃ b₀, configure Trial.config Trial.link Trial.names = .ok b₀ ∧
      let calls : List (Call (ScriptedLink Float) Float) := Trial.opening
        ++ [.storeImu ⟨4000, ⟨⟨0.0, 0.0, 0.0⟩, ⟨0.0, 0.0, 9.8⟩⟩⟩, .storeImu ⟨8000, ⟨⟨0.0, 0.0, 0.0⟩, ⟨0.0, 0.0, 9.8⟩⟩⟩]
      let r := (bookkeeper (ScriptedLink Float) Float).run b₀ calls
      let l : Ledger Float := r.2
      let e := r.1.tickEnd (Trial.tick 8000)
      (l.moving .imu).arrivals.map (·.time) = [4000, 8000]
        ∧ e.handed.map Message.imuTime? = [none, some 8000]
        ∧ (e.handed = e.messages ∨ ∃ front message rest, e.messages = front ++ message :: rest
          ∧ e.handed = front ++ [message]
          ∧ ((sendAll r.1.pollReady.2.connection front).connection.send message).1 = .error .shutdown)
        ∧ ∀ report, .reported .imu report ∈ r.1.postUpdateEntries (Trial.tick 8000) →
          ∃ x, (l.moving .imu).getLast? = some (.accepted x)
            ∧ x.Makes b₀.assembler.settings b₀.assembler.rangeLinks report := by
  have hrun : (configure Trial.config Trial.link Trial.names).toOption.map (fun b₀ =>
      let calls : List (Call (ScriptedLink Float) Float) := Trial.opening
        ++ [.storeImu ⟨4000, ⟨⟨0.0, 0.0, 0.0⟩, ⟨0.0, 0.0, 9.8⟩⟩⟩, .storeImu ⟨8000, ⟨⟨0.0, 0.0, 0.0⟩, ⟨0.0, 0.0, 9.8⟩⟩⟩]
      let r := (bookkeeper (ScriptedLink Float) Float).run b₀ calls
      let l : Ledger Float := r.2
      ((l.moving .imu).arrivals.map (·.time), (r.1.tickEnd (Trial.tick 8000)).handed.map Message.imuTime?))
      = some ([4000, 8000], [none, some 8000]) := by
    decide +kernel
  obtain ⟨b₀, hb, hr⟩ := Trial.exists_of_map hrun
  simp only [Prod.mk.injEq] at hr
  obtain ⟨-, -, hlatest, -, hhanded, -⟩ := (run_accounts_for_samples hb _).2.2.2.2 (Trial.tick 8000)
  exact ⟨b₀, hb, hr.1, hr.2, hhanded, hlatest .imu⟩

end Bridge

end HilBridge
