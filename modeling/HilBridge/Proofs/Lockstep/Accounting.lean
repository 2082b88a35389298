import HilBridge.Proofs.Lockstep.WaitRun

/-!
# `HilBridge.Proofs.Lockstep.Accounting` — what one call may do to the scheduler, on every path

A call of `awaitControls` takes commands out of the channel and ends in one of several ways, and the counters
have to agree with both on all of them. `consumed` lists the commands that a call takes; `Accounts` is the
whole agreement, one field for each thing that a call promises, and `awaitControls_accounts` proves it of
every scheduler in lockstep, every schedule and every moment of a shutdown.

A shutdown and an answer may come at one moment. A burst that holds both is the case in which the shutdown is
noticed first; the other case is a schedule with two bursts of that moment.
-/

namespace HilBridge

variable {α : Type}

namespace Scheduler

/-! ## Which commands a call takes -/

/-- Whether a call waits: in lockstep, with a report unanswered, after a first command, not shut down. -/
def Waits (s : Scheduler) (receivedFirst isShutdown : Bool) : Prop :=
  isShutdown = false ∧ s.mode.isLockstep = true ∧ s.awaiting = true ∧ receivedFirst = true

instance (s : Scheduler) (receivedFirst isShutdown : Bool) : Decidable (s.Waits receivedFirst isShutdown) :=
  inferInstanceAs (Decidable (_ ∧ _ ∧ _ ∧ _))

/--
The commands that a call takes out of the channel, in order: a wait takes what it sees up to the first
answer, a call that does not wait looks once, and a call after the shutdown does not look.
-/
def consumed (s : Scheduler) (channel : CommandChannel α) (receivedFirst isShutdown : Bool)
    (bursts : List (Burst α)) : List (Command α) :=
  if isShutdown then []
  else
    match s.mode with
    | .freeRunning _ => channel.readable.toList
    | .lockstep timeout =>
      if s.awaiting && receivedFirst then s.upToAnswer (sightings timeout channel bursts)
      else channel.readable.toList

section
variable {s : Scheduler} {timeout : Nat} {receivedFirst : Bool}

theorem awaitControls_waits (hmode : s.mode = .lockstep timeout) {isShutdown : Bool}
    (h : s.Waits receivedFirst isShutdown) (channel : CommandChannel α) (bursts : List (Burst α)) :
    s.awaitControls channel receivedFirst isShutdown bursts = s.waitFrom timeout 0 channel bursts := by
  obtain ⟨rfl, -, hawaiting, rfl⟩ := h
  simp [awaitControls, hmode, hawaiting]

theorem consumed_waits (hmode : s.mode = .lockstep timeout) {isShutdown : Bool}
    (h : s.Waits receivedFirst isShutdown) (channel : CommandChannel α) (bursts : List (Burst α)) :
    s.consumed channel receivedFirst isShutdown bursts
      = s.upToAnswer (sightings timeout channel bursts) := by
  obtain ⟨rfl, -, hawaiting, rfl⟩ := h
  simp [consumed, hmode, hawaiting]

/-- In lockstep a call that does not wait either comes after the shutdown or has nothing to wait for. -/
theorem not_awaiting_of_not_waits (hmode : s.mode = .lockstep timeout)
    (h : ¬ s.Waits receivedFirst false) : (s.awaiting && receivedFirst) = false := by
  rw [Bool.eq_false_iff]
  intro hboth
  rw [Bool.and_eq_true] at hboth
  exact h ⟨rfl, by rw [hmode]; rfl, hboth.1, hboth.2⟩

theorem awaitControls_unawaited (hmode : s.mode = .lockstep timeout)
    (h : ¬ s.Waits receivedFirst false) (channel : CommandChannel α) (bursts : List (Burst α)) :
    s.awaitControls channel receivedFirst false bursts
      = s.takeUnawaited channel receivedFirst bursts := by
  simp [awaitControls, hmode, not_awaiting_of_not_waits hmode h]

theorem consumed_unawaited (hmode : s.mode = .lockstep timeout) (h : ¬ s.Waits receivedFirst false)
    (channel : CommandChannel α) (bursts : List (Burst α)) :
    s.consumed channel receivedFirst false bursts = channel.readable.toList := by
  simp [consumed, hmode, not_awaiting_of_not_waits hmode h]

end

/-! ## What noting commands counts -/

section
variable (s : Scheduler) (cs : List (Command α))

theorem acknowledged_foldl_note :
    (cs.foldl note s).stats.acknowledged = s.stats.acknowledged + cs.countP s.answers := by
  induction cs generalizing s with
  | nil => rfl
  | cons c rest ih =>
    rw [List.foldl_cons, ih, funext (answers_note s c), List.countP_cons]
    cases hc : s.answers c <;> simp [note, hc, acknowledge, noteLate]
    omega

theorem late_foldl_note :
    (cs.foldl note s).stats.late = s.stats.late + cs.countP fun c => !s.answers c := by
  induction cs generalizing s with
  | nil => rfl
  | cons c rest ih =>
    rw [List.foldl_cons, ih]
    simp only [answers_note, List.countP_cons]
    cases hc : s.answers c <;> simp [note, hc, acknowledge, noteLate]
    omega

theorem timeouts_foldl_note : (cs.foldl note s).stats.timeouts = s.stats.timeouts := by
  induction cs generalizing s with
  | nil => rfl
  | cons c rest ih =>
    rw [List.foldl_cons, ih, note]
    split <;> rfl

/-- Only an answer ends the awaiting. -/
theorem awaiting_foldl_note : (cs.foldl note s).awaiting = (s.awaiting && !cs.any s.answers) := by
  induction cs generalizing s with
  | nil => simp
  | cons c rest ih =>
    rw [List.foldl_cons, ih, funext (answers_note s c), List.any_cons]
    cases hc : s.answers c <;> simp [note, hc, acknowledge, noteLate]

/-- Only an answer mends the degraded state. -/
theorem degraded_foldl_note :
    (cs.foldl note s).stats.degraded = (s.stats.degraded && !cs.any s.answers) := by
  induction cs generalizing s with
  | nil => simp
  | cons c rest ih =>
    rw [List.foldl_cons, ih, funext (answers_note s c), List.any_cons]
    cases hc : s.answers c <;> simp [note, hc, acknowledge, noteLate]

end

@[simp]
theorem acknowledged_settle (s : Scheduler) (status : SyncStatus) :
    (s.settle status).stats.acknowledged = s.stats.acknowledged := by
  cases status <;> rfl

@[simp]
theorem late_settle (s : Scheduler) (status : SyncStatus) :
    (s.settle status).stats.late = s.stats.late := by
  cases status <;> rfl

theorem timeouts_settle {status : SyncStatus} (h : status ≠ .timedOut) (s : Scheduler) :
    (s.settle status).stats.timeouts = s.stats.timeouts := by
  cases status <;> first | rfl | exact absurd rfl h

/-! ## Answers and late commands by their times -/

theorem answers_eq_true_iff {s : Scheduler} {c : Command α} :
    s.answers c = true ↔ ∀ time ∈ s.lastSend, time ≤ c.time := by
  unfold answers
  cases s.lastSend <;> simp

theorem answers_eq_false_iff {s : Scheduler} {c : Command α} :
    s.answers c = false ↔ ∃ time ∈ s.lastSend, c.time < time := by
  unfold answers
  cases s.lastSend <;> simp

/-! ## A call that looks once -/

/-- What a single look comes to, counted and handed out. -/
theorem takeUnawaited_cases (s : Scheduler) (channel : CommandChannel α) (receivedFirst : Bool)
    (bursts : List (Burst α)) :
    (channel.readable = none ∧ s.takeUnawaited channel receivedFirst bursts
        = ⟨.holding, none, s, channel.takeLatest.2, false, 0, bursts⟩)
      ∨ (∃ c, channel.readable = some c ∧ s.answers c = true
        ∧ s.takeUnawaited channel receivedFirst bursts
          = ⟨.acknowledged, some c, s.acknowledge, channel.takeLatest.2, false, 0, bursts⟩)
      ∨ ∃ c, channel.readable = some c ∧ s.answers c = false
        ∧ s.takeUnawaited channel receivedFirst bursts
          = ⟨.holding, if receivedFirst then none else some c, s.noteLate, channel.takeLatest.2, false, 0,
             bursts⟩ := by
  rw [takeUnawaited, ← channel.takeLatest_fst]
  rcases htake : channel.takeLatest with ⟨taken, channel'⟩
  cases taken with
  | none => exact .inl ⟨rfl, rfl⟩
  | some c =>
    cases hc : s.answers c with
    | true => exact .inr (.inl ⟨c, rfl, hc, by simp [hc]⟩)
    | false => exact .inr (.inr ⟨c, rfl, hc, by simp [hc]⟩)

/-! ## The promises of a call -/

/-- What a call of `awaitControls` that takes some commands promises about its result. -/
structure Accounts (s : Scheduler) (timeout : Nat) (channel : CommandChannel α)
    (receivedFirst isShutdown : Bool) (consumed : List (Command α)) (r : WaitResult α) : Prop where
  /-- Only a call that waits lets time pass. -/
  instant : ¬ s.Waits receivedFirst isShutdown → r.waited = 0
  bounded : r.waited ≤ timeout
  /-- Every command taken is counted once: as an answer … -/
  acknowledged : r.scheduler.stats.acknowledged = s.stats.acknowledged + consumed.countP s.answers
  /-- … or as a late one. -/
  late : r.scheduler.stats.late = s.stats.late + consumed.countP fun c => !s.answers c
  /-- The open channel is left without anything unread, unless a shutdown comes first. -/
  drained : r.isShutdown = false → channel.closed = false → r.channel.unread = none
  /-- A call that does not wait and takes nothing leaves what is unread to be read. -/
  kept : ¬ s.Waits receivedFirst isShutdown → consumed = [] → r.channel.unread = channel.unread
  /-- Only a command taken is handed out. -/
  handed : ∀ c ∈ r.command, c ∈ consumed
  /-- An acknowledgement comes with a command of the last report's time or later. -/
  answered : r.status = .acknowledged →
    ∃ c ∈ consumed, r.command = some c ∧ (∀ time ∈ s.lastSend, time ≤ c.time)
      ∧ r.scheduler.awaiting = false
  /-- A command stamped before the last report is handed out only as the first one, while holding. -/
  lateHanded : ∀ c ∈ r.command, (∃ time ∈ s.lastSend, c.time < time) →
    r.status = .holding ∧ receivedFirst = false
  timedOut : r.status = .timedOut →
    r.waited = timeout ∧ (∀ c ∈ consumed, ∃ time ∈ s.lastSend, c.time < time)
      ∧ r.scheduler.stats.timeouts = s.stats.timeouts + 1 ∧ r.scheduler.awaiting = false
  /-- Nothing else counts as a timeout. -/
  inTime : r.status ≠ .timedOut → r.scheduler.stats.timeouts = s.stats.timeouts
  shutdown : r.status = .shutdown →
    r.scheduler.awaiting = s.awaiting ∧ r.scheduler.stats.timeouts = s.stats.timeouts
      ∧ r.scheduler.stats.degraded = s.stats.degraded

/-- After the shutdown a call touches nothing. -/
theorem accounts_shutdown (s : Scheduler) (timeout : Nat) (channel : CommandChannel α)
    (receivedFirst : Bool) (bursts : List (Burst α)) :
    s.Accounts timeout channel receivedFirst true []
      (s.awaitControls channel receivedFirst true bursts) where
  instant _ := rfl
  bounded := Nat.zero_le timeout
  acknowledged := rfl
  late := rfl
  drained h := by cases h
  kept _ _ := rfl
  handed c hc := by cases hc
  answered h := by cases h
  lateHanded c hc := by cases hc
  timedOut h := by cases h
  inTime _ := rfl
  shutdown _ := ⟨rfl, rfl, rfl⟩

/-- A call that does not wait looks once: nothing, an answer or a late command. -/
theorem accounts_unawaited (s : Scheduler) (timeout : Nat) (channel : CommandChannel α)
    (receivedFirst : Bool) (bursts : List (Burst α)) :
    s.Accounts timeout channel receivedFirst false channel.readable.toList
      (s.takeUnawaited channel receivedFirst bursts) := by
  have hdrained : channel.closed = false → channel.takeLatest.2.unread = none :=
    CommandChannel.unread_takeLatest
  rcases s.takeUnawaited_cases channel receivedFirst bursts with
    ⟨htake, hr⟩ | ⟨c, htake, hc, hr⟩ | ⟨c, htake, hc, hr⟩
  · rw [hr, htake]
    exact
      { instant := fun _ => rfl, bounded := Nat.zero_le timeout, acknowledged := rfl, late := rfl
        drained := fun _ => hdrained
        kept := fun _ _ => CommandChannel.unread_takeLatest_of_none htake
        handed := nofun, answered := nofun, lateHanded := nofun, timedOut := nofun
        inTime := fun _ => rfl, shutdown := nofun }
  · have htimes := answers_eq_true_iff.mp hc
    rw [hr, htake]
    exact
      { instant := fun _ => rfl, bounded := Nat.zero_le timeout
        acknowledged := by simp [acknowledge, hc]
        late := by simp [acknowledge, hc]
        drained := fun _ => hdrained
        kept := nofun
        handed := fun d hd => Option.mem_toList.mpr hd
        answered := fun _ => ⟨c, by simp, rfl, htimes, rfl⟩
        lateHanded := by
          rintro d hd hlate
          cases hd
          rw [← answers_eq_false_iff, hc] at hlate
          cases hlate
        timedOut := nofun, inTime := fun _ => rfl, shutdown := nofun }
  · -- whoever has had a first command is not given the late one
    have hfirst : ∀ d ∈ (if receivedFirst then none else some c), d = c ∧ receivedFirst = false := by
      intro d hd
      cases receivedFirst with
      | true => cases hd
      | false => exact ⟨(Option.some.inj hd).symm, rfl⟩
    rw [hr, htake]
    exact
      { instant := fun _ => rfl, bounded := Nat.zero_le timeout
        acknowledged := by simp [noteLate, hc]
        late := by simp [noteLate, hc]
        drained := fun _ => hdrained
        kept := nofun
        handed := fun d hd => List.mem_singleton.mpr (hfirst d hd).1
        answered := nofun
        lateHanded := fun d hd _ => ⟨rfl, (hfirst d hd).2⟩
        timedOut := nofun, inTime := fun _ => rfl, shutdown := nofun }

/-- Whether there is an answer among the commands up to the first answer. -/
theorem any_upToAnswer (s : Scheduler) (cs : List (Command α)) :
    (s.upToAnswer cs).any s.answers = cs.any s.answers := by
  induction cs with
  | nil => rfl
  | cons c rest ih =>
    rw [upToAnswer]
    cases hc : s.answers c <;> simp [hc, ih]

/-- How the status of a wait tells whether an answer was seen. -/
theorem ending_eq_acknowledged_iff {s : Scheduler} {isClosed isInterrupted : Bool}
    {seen : List (Command α)} :
    s.ending isClosed isInterrupted seen = .acknowledged ↔ seen.any s.answers = true := by
  unfold ending
  split <;> (repeat' split) <;> simp_all

/-- A wait keeps its promises because it comes to what its sightings come to. -/
theorem accounts_waitFrom {s : Scheduler} {receivedFirst isShutdown : Bool}
    (h : s.Waits receivedFirst isShutdown) (timeout : Nat) (channel : CommandChannel α)
    (bursts : List (Burst α)) :
    s.Accounts timeout channel receivedFirst isShutdown (s.upToAnswer (sightings timeout channel bursts))
      (s.waitFrom timeout 0 channel bursts) := by
  have hout := outcome_waitFrom timeout 0 s channel bursts
  have hended := fun hdone => ending_eq_acknowledged_iff.mp (hout.status.symm.trans hdone)
  -- every other end of the wait is one without an answer among all that it saw
  have hunanswered : (s.waitFrom timeout 0 channel bursts).status ≠ .acknowledged →
      (sightings timeout channel bursts).any s.answers = false := by
    intro hne
    rw [Bool.eq_false_iff]
    exact fun hany => hne (hout.status.trans (ending_eq_acknowledged_iff.mpr hany))
  constructor
  case instant => exact fun hno => absurd h hno
  case bounded => exact waited_waitFrom_le (Nat.zero_le timeout) s channel bursts
  case acknowledged => rw [hout.scheduler, acknowledged_settle, acknowledged_foldl_note]
  case late => rw [hout.scheduler, late_settle, late_foldl_note]
  case drained => exact fun hquiet _ => unread_waitFrom hquiet
  case kept => exact fun hno => absurd h hno
  case handed =>
    intro c hc
    rw [hout.command] at hc
    exact mem_upToAnswer_of_find hc
  case answered =>
    intro hdone
    obtain ⟨c, hc, ha⟩ := List.any_eq_true.mp (hended hdone)
    obtain ⟨first, hfirst⟩ := Option.isSome_iff_exists.mp (List.find?_isSome.mpr ⟨c, hc, ha⟩)
    refine ⟨first, mem_upToAnswer_of_find hfirst, hout.command.trans hfirst, ?_, ?_⟩
    · exact answers_eq_true_iff.mp (List.find?_some hfirst)
    · rw [hout.scheduler, hdone, settle, awaiting_foldl_note, any_upToAnswer, hended hdone,
        Bool.not_true, Bool.and_false]
  case lateHanded =>
    intro c hc hlate
    rw [hout.command] at hc
    rw [← answers_eq_false_iff, List.find?_some hc] at hlate
    cases hlate
  case timedOut =>
    intro hdone
    have hnone := hunanswered (by rw [hdone]; decide)
    refine ⟨waited_waitFrom_eq hdone, fun c hc => ?_, ?_, ?_⟩
    · rw [List.any_eq_false] at hnone
      exact answers_eq_false_iff.mp (Bool.eq_false_iff.mpr (hnone c (mem_of_mem_upToAnswer hc)))
    · rw [hout.scheduler, hdone, settle, timeOut, timeouts_foldl_note]
    · rw [hout.scheduler, hdone, settle, timeOut]
  case inTime =>
    intro hne
    rw [hout.scheduler, timeouts_settle hne, timeouts_foldl_note]
  case shutdown =>
    intro hdone
    have hnone := hunanswered (by rw [hdone]; decide)
    rw [hout.scheduler, hdone, settle, awaiting_foldl_note, timeouts_foldl_note, degraded_foldl_note,
      any_upToAnswer, hnone, Bool.not_false, Bool.and_true, Bool.and_true]
    exact ⟨rfl, rfl, rfl⟩

/-- A scheduler in lockstep that has sent nothing. -/
def freshLockstep (timeoutMs : Nat) : Scheduler :=
  .new { (Config.default : Config Float) with lockstep := true, lockstepTimeoutMs := timeoutMs }

/--
**One call, in lockstep, keeps all its promises**, whatever the scheduler's state, whatever is published in
the course of the call and whenever the shutdown comes.
-/
theorem awaitControls_accounts {s : Scheduler} {timeout : Nat} (hmode : s.mode = .lockstep timeout)
    (channel : CommandChannel α) (receivedFirst isShutdown : Bool) (bursts : List (Burst α)) :
    s.Accounts timeout channel receivedFirst isShutdown
      (s.consumed channel receivedFirst isShutdown bursts)
      (s.awaitControls channel receivedFirst isShutdown bursts) := by
  -- a call waits, comes after the shutdown, or looks once
  by_cases hwaits : s.Waits receivedFirst isShutdown
  · rw [awaitControls_waits hmode hwaits, consumed_waits hmode hwaits]
    exact accounts_waitFrom hwaits timeout channel bursts
  · cases isShutdown with
    | true => exact accounts_shutdown s timeout channel receivedFirst bursts
    | false =>
      rw [awaitControls_unawaited hmode hwaits, consumed_unawaited hmode hwaits]
      exact accounts_unawaited s timeout channel receivedFirst bursts

/--
A wait passes over the late command at 3 ms for the answer at 5 ms, and counts each of the two. Before any
command has come a call does not wait: it hands out the late command that it finds, and counts that one.
-/
theorem accounts_late_then_answer :
    let s := (Scheduler.freshLockstep 10).markSent 8000 (some 8000)
    let late : Command Float := ⟨4000, [], true⟩
    let answer : Command Float := ⟨8000, [0.5], true⟩
    let bursts := [⟨3, [.publish (some late)]⟩, ⟨5, [.publish (some answer)]⟩]
    let waited := s.awaitControls .empty true false bursts
    let channel := CommandChannel.empty.publish (some late)
    let first := s.awaitControls channel false false bursts
    s.mode = .lockstep 10
      ∧ s.Accounts 10 .empty true false (s.consumed .empty true false bursts) waited
      ∧ s.consumed .empty true false bursts = [late, answer]
      ∧ (waited.status, waited.waited, waited.scheduler.stats.late) = (.acknowledged, 5, 1)
      ∧ s.Accounts 10 channel false false (s.consumed channel false false bursts) first
      ∧ s.consumed channel false false bursts = [late]
      ∧ (first.status, first.waited, first.command, first.scheduler.stats.late) = (.holding, 0, some late, 1) :=
  ⟨rfl, awaitControls_accounts rfl .empty true false _, rfl, by decide,
    awaitControls_accounts rfl _ false false _, rfl, by decide⟩

end Scheduler

end HilBridge
