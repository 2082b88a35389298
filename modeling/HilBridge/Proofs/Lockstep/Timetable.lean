import HilBridge.Proofs.Lockstep.Accounting
import HilBridge.Proofs.Recording
import Mathlib.Data.List.Chain

/-!
# `HilBridge.Proofs.Lockstep.Timetable` — when cycles, reports and heartbeats are due

A scheduler remembers the time of the cycle planned last, of the last inertial report and of the last heartbeat,
and it counts the cycles. A new epoch makes it forget the report and the heartbeat, and nothing else.

The timetable has all of that, and all that was before: every cycle that was planned, with what came of it, by the
epoch in which it was. `Scheduler.Keeps` is what scheduler and timetable have in common, and each operation of the
scheduler keeps it. Each cycle of an epoch is then due or not in view of the cycles of the epoch before it
(`Scheduler.OnTime`).
-/

namespace HilBridge

variable {α : Type}

/-! ## Timetables -/

/-- A cycle that was planned, with what came of it. -/
structure PlannedCycle where
  tick : Tick
  plan : CyclePlan
  /-- Whether it claimed the heartbeat. -/
  beat : Bool
  /-- Whether an inertial report was recorded as sent. -/
  reported : Bool
  deriving Repr, DecidableEq

namespace PlannedCycle

/-- The time of the last cycle that claimed the heartbeat. -/
def lastBeat (cycles : List PlannedCycle) : Option Nat :=
  (cycles.filter (·.beat)).getLast?.map (·.tick.time)

/-- The time of the last cycle with a report. -/
def lastReport (cycles : List PlannedCycle) : Option Nat :=
  (cycles.filter (·.reported)).getLast?.map (·.tick.time)

variable (cycles : List PlannedCycle) (c : PlannedCycle)

theorem lastBeat_concat :
    lastBeat (cycles ++ [c]) = if c.beat then some c.tick.time else lastBeat cycles := by
  unfold lastBeat
  cases h : c.beat <;> simp [h]

theorem lastReport_concat :
    lastReport (cycles ++ [c]) = if c.reported then some c.tick.time else lastReport cycles := by
  unfold lastReport
  cases h : c.reported <;> simp [h]

end PlannedCycle

/-- What matters to a timetable. -/
inductive TimetableEvent where
  /-- A new epoch begins. -/
  | reopened
  | planned (cycle : PlannedCycle)
  deriving Repr, DecidableEq

/-- All cycles by their epochs, oldest first. -/
structure Timetable where
  past : List (List PlannedCycle)
  current : List PlannedCycle
  deriving Repr, DecidableEq

namespace Timetable

def empty : Timetable :=
  ⟨[], []⟩

def note (t : Timetable) : TimetableEvent → Timetable
  | .reopened => ⟨t.past ++ [t.current], []⟩
  | .planned cycle => ⟨t.past, t.current ++ [cycle]⟩

/-- The timetable of a log. -/
def ofLog (log : List TimetableEvent) : Timetable :=
  log.foldl note empty

theorem ofLog_append (log more : List TimetableEvent) : ofLog (log ++ more) = more.foldl note (ofLog log) :=
  List.foldl_append ..

/-- The cycles of each epoch. -/
def epochs (t : Timetable) : List (List PlannedCycle) :=
  t.past ++ [t.current]

def cycles (t : Timetable) : List PlannedCycle :=
  t.epochs.flatten

@[simp]
theorem cycles_reopened (t : Timetable) : (t.note .reopened).cycles = t.cycles := by
  simp [cycles, epochs, note]

@[simp]
theorem cycles_planned (t : Timetable) (c : PlannedCycle) : (t.note (.planned c)).cycles = t.cycles ++ [c] := by
  simp [cycles, epochs, note]

/-- What holds of the epochs before holds of all when it holds of the one that begins. -/
theorem forall_epochs_reopened {P : List PlannedCycle → Prop} {t : Timetable} (h : ∀ cs ∈ t.epochs, P cs)
    (hnil : P []) : ∀ cs ∈ (t.note .reopened).epochs, P cs := by
  intro cs hcs
  rcases List.mem_append.mp hcs with hpast | hnew
  · exact h cs hpast
  · rw [List.mem_singleton.mp hnew]
    exact hnil

theorem forall_epochs_planned {P : List PlannedCycle → Prop} {t : Timetable} {c : PlannedCycle}
    (h : ∀ cs ∈ t.epochs, P cs) (hlast : P (t.current ++ [c])) : ∀ cs ∈ (t.note (.planned c)).epochs, P cs := by
  intro cs hcs
  rcases List.mem_append.mp hcs with hpast | hnew
  · exact h cs (List.mem_append_left _ hpast)
  · rw [List.mem_singleton.mp hnew]
    exact hlast

theorem current_mem_epochs (t : Timetable) : t.current ∈ t.epochs :=
  List.mem_append_right _ (List.mem_singleton_self _)

/-- Where times never go back and no two in a row agree, they always go on. -/
theorem times_pairwise_lt {t : Timetable} (hle : (t.cycles.map (·.tick.time)).Pairwise (· ≤ ·))
    (hne : t.cycles.IsChain fun c d => c.tick.time ≠ d.tick.time) :
    (t.cycles.map (·.tick.time)).Pairwise (· < ·) := by
  rw [← List.isChain_iff_pairwise, List.isChain_map, List.isChain_iff_forall_rel_of_append_cons_cons]
  intro c d before after hsplit
  rw [List.isChain_iff_forall_rel_of_append_cons_cons] at hne
  have hneq := hne hsplit
  rw [hsplit, List.map_append, List.pairwise_append] at hle
  have hstep : c.tick.time ≤ d.tick.time := (List.pairwise_cons.mp hle.2.1).1 _ (by simp)
  omega

end Timetable

namespace Scheduler

/-! ## What listening leaves alone -/

/-- Only counts of commands and the awaiting may have changed. -/
structure Listened (s t : Scheduler) : Prop where
  eq : t = { s with awaiting := t.awaiting, stats := t.stats }
  cycles : t.stats.cycles = s.stats.cycles

theorem Listened.refl (s : Scheduler) : s.Listened s :=
  ⟨rfl, rfl⟩

theorem Listened.trans {s t u : Scheduler} (h : s.Listened t) (k : t.Listened u) : s.Listened u := by
  refine ⟨?_, k.cycles.trans h.cycles⟩
  rw [k.eq, h.eq]

theorem listened_foldl_note (s : Scheduler) (commands : List (Command α)) : s.Listened (commands.foldl note s) := by
  induction commands generalizing s with
  | nil => exact .refl s
  | cons c rest ih =>
    have hnote : s.Listened (s.note c) := by
      unfold note
      split <;> exact ⟨rfl, rfl⟩
    exact hnote.trans (ih (s.note c))

theorem listened_settle (s : Scheduler) (status : SyncStatus) : s.Listened (s.settle status) := by
  cases status <;> exact ⟨rfl, rfl⟩

theorem listened_awaitControls (s : Scheduler) (channel : CommandChannel α) (receivedFirst isShutdown : Bool)
    (bursts : List (Burst α)) :
    s.Listened (s.awaitControls channel receivedFirst isShutdown bursts).scheduler := by
  cases isShutdown with
  | true => exact .refl s
  | false =>
    cases hmode : s.mode with
    | freeRunning speedFactor =>
      have hr : s.awaitControls channel receivedFirst false bursts
          = ⟨.freeRunning, channel.takeLatest.1, s, channel.takeLatest.2, false, 0, bursts⟩ := by
        simp [awaitControls, hmode]
      rw [hr]
      exact .refl s
    | lockstep timeout =>
      by_cases hwaits : s.Waits receivedFirst false
      · rw [awaitControls_waits hmode hwaits, (outcome_waitFrom timeout 0 s channel bursts).scheduler]
        exact (s.listened_foldl_note _).trans (listened_settle _ _)
      · rw [awaitControls_unawaited hmode hwaits]
        rcases s.takeUnawaited_cases channel receivedFirst bursts with
          ⟨-, hr⟩ | ⟨_, -, -, hr⟩ | ⟨_, -, -, hr⟩ <;> rw [hr] <;> exact ⟨rfl, rfl⟩

/-! ## Cycles on time -/

open PlannedCycle

/--
What holds of a cycle in view of those of its epoch before it: the heartbeat is claimed if it is the first or the
interval has passed since the last one; outside lockstep the inertial report is asked for if there was none or the
interval has passed since the last one; and only a report that was asked for is recorded.
-/
structure OnTime (s : Scheduler) (before : List PlannedCycle) (c : PlannedCycle) : Prop where
  unpaused : c.tick.paused = false
  now : c.plan.now = c.tick.time
  beat : c.beat = true
    ↔ before = [] ∨ ∃ last ∈ lastBeat before, s.heartbeatInterval ≤ c.tick.time - last
  due : s.mode.isLockstep = false →
    (c.plan.sendImu = true ↔ ∀ last ∈ lastReport before, s.imuInterval ≤ c.tick.time - last)
  asked : c.reported = true → c.plan.sendImu = true

/-- The first cycle of an epoch claims the heartbeat, so from then on there is a last one. -/
theorem lastBeat_ne_none {s : Scheduler} {cycles : List PlannedCycle} (h : EachAfter s.OnTime cycles)
    (hne : cycles ≠ []) : lastBeat cycles ≠ none := by
  obtain ⟨first, rest, rfl⟩ := List.exists_cons_of_ne_nil hne
  have hfirst : first.beat = true := (h [] first rest rfl).beat.mpr (.inl rfl)
  simp [lastBeat, hfirst]

/-- Two reports of an epoch are an interval apart, where time goes on. -/
theorem reports_apart {s : Scheduler} {cycles : List PlannedCycle} (h : EachAfter s.OnTime cycles)
    (hmode : s.mode.isLockstep = false) (htimes : (cycles.map (·.tick.time)).Pairwise (· < ·)) :
    (cycles.filter (·.reported)).Pairwise fun c d => c.tick.time + s.imuInterval ≤ d.tick.time := by
  induction cycles using List.reverseRecOn with
  | nil => exact .nil
  | append_singleton front c ih =>
    rw [List.map_append, List.pairwise_append] at htimes
    obtain ⟨hfront, -, hlater⟩ := htimes
    have hreports := ih h.of_append hfront
    rw [List.filter_append, List.pairwise_append]
    refine ⟨hreports, ?_, ?_⟩
    · cases hc : c.reported <;> simp [hc]
    · intro d hd e he
      obtain ⟨hmem, hreported⟩ := List.mem_filter.mp he
      obtain rfl : e = c := List.mem_singleton.mp hmem
      -- the report before it is the last of all, and no other is later than that
      have hon := h front e [] rfl
      obtain ⟨earlier, last, hsplit⟩ : ∃ earlier last, front.filter (·.reported) = earlier ++ [last] := by
        rcases List.eq_nil_or_concat (front.filter (·.reported)) with hnil | ⟨earlier, last, hsplit⟩
        · rw [hnil] at hd
          cases hd
        · exact ⟨earlier, last, by rw [hsplit, List.concat_eq_append]⟩
      have hlast : lastReport front = some last.tick.time := by
        rw [lastReport, hsplit, List.getLast?_concat]
        rfl
      have hwait := (hon.due hmode).mp (hon.asked hreported) last.tick.time hlast
      have hmem : last ∈ front := by
        refine List.mem_of_mem_filter (?_ : last ∈ front.filter (·.reported))
        rw [hsplit]
        simp
      have hlt : last.tick.time < e.tick.time := hlater _ (List.mem_map_of_mem hmem) _ (by simp)
      have hle : d.tick.time ≤ last.tick.time := by
        rw [hsplit] at hd hreports
        rcases List.mem_append.mp hd with hd | hd
        · have hapart := (List.pairwise_append.mp hreports).2.2 d hd last (by simp)
          omega
        · rw [List.mem_singleton.mp hd]
      omega

/-! ## Scheduler and timetable -/

/-- What a scheduler and the timetable have in common, where `s₀` is the scheduler at the start. -/
structure Keeps (s₀ : Scheduler) (t : Timetable) (s : Scheduler) : Prop where
  mode : s.mode = s₀.mode
  skipFactor : s.skipFactor = s₀.skipFactor
  imuInterval : s.imuInterval = s₀.imuInterval
  heartbeatInterval : s.heartbeatInterval = s₀.heartbeatInterval
  counted : s.stats.cycles = t.cycles.length
  lastPlanned : s.lastPlanned = t.cycles.getLast?.map (·.tick.time)
  lastImuSent : s.lastImuSent = lastReport t.current
  lastHeartbeat : s.lastHeartbeat = lastBeat t.current
  onTime : ∀ cycles ∈ t.epochs, EachAfter s₀.OnTime cycles
  /-- In lockstep it goes by the number of cycles before, in all epochs. -/
  inTurn : s₀.mode.isLockstep = true →
    EachAfter (fun before c => c.plan.sendImu = true ↔ s₀.skipFactor ∣ before.length) t.cycles
  renewed : t.cycles.IsChain fun c d => c.tick.time ≠ d.tick.time

namespace Keeps

variable {s₀ s s' : Scheduler} {t : Timetable}

theorem listened (h : s₀.Keeps t s) (hs : s.Listened s') : s₀.Keeps t s' := by
  rw [hs.eq]
  exact { h with counted := hs.cycles.trans h.counted }

/-- A new epoch begins with nothing to remember. -/
theorem reopened (h : s₀.Keeps t s) {epoch : Nat} (hnew : epoch ≠ s.epoch) :
    s₀.Keeps (t.note .reopened) (s.onEpoch epoch).2 := by
  rw [onEpoch, if_neg hnew]
  have hcycles := t.cycles_reopened
  exact
    { h with
      counted := hcycles ▸ h.counted
      lastPlanned := hcycles ▸ h.lastPlanned
      lastImuSent := rfl
      lastHeartbeat := rfl
      onTime := Timetable.forall_epochs_reopened h.onTime .nil
      inTurn := hcycles ▸ h.inTurn
      renewed := hcycles ▸ h.renewed }

end Keeps

/-- A cycle is planned for an unpaused tick of a new time. -/
theorem planCycle_eq_some {s s₁ : Scheduler} {tick : Tick} {plan : CyclePlan}
    (h : s.planCycle tick = (some plan, s₁)) :
    tick.paused = false ∧ s.lastPlanned ≠ some tick.time ∧ plan = s.cyclePlan s.stats.cycles tick.time
      ∧ s₁ = { s with stats.cycles := s.stats.cycles + 1, lastPlanned := some tick.time } := by
  unfold planCycle at h
  split at h
  · cases h
  · rename_i hnew
    simp only [Bool.or_eq_true, beq_iff_eq, not_or, Bool.not_eq_true] at hnew
    obtain ⟨hplan, hs⟩ := Prod.mk.inj h
    exact ⟨hnew.1, hnew.2, (Option.some.inj hplan).symm, hs.symm⟩

theorem markSent_eq (s : Scheduler) (now : Nat) (time : Option Nat) :
    s.markSent now time =
      { s with
        lastImuSent := if time.isSome then some now else s.lastImuSent
        lastSend := (s.markSent now time).lastSend
        awaiting := (s.markSent now time).awaiting } := by
  cases time with
  | none => rfl
  | some time =>
    dsimp only [markSent]
    split <;> rfl

/-- What a cycle leaves in its scheduler, but for the answer that is awaited. -/
theorem endOfCycle_eq (s : Scheduler) (now : Nat) (time : Option Nat) :
    let due := s.heartbeatDue now
    let after := due.2.markSent now time
    after =
      { s with
        lastHeartbeat := if due.1 then some now else s.lastHeartbeat
        lastImuSent := if time.isSome then some now else s.lastImuSent
        lastSend := after.lastSend
        awaiting := after.awaiting } := by
  intro due after
  have hdue : due.2 = { s with lastHeartbeat := if due.1 then some now else s.lastHeartbeat } := by
    show (s.heartbeatDue now).2 = { s with lastHeartbeat := if (s.heartbeatDue now).1 then _ else _ }
    unfold heartbeatDue
    split <;> rfl
  have hmarked : after =
      { due.2 with
        lastImuSent := if time.isSome then some now else due.2.lastImuSent
        lastSend := after.lastSend
        awaiting := after.awaiting } := markSent_eq due.2 now time
  rw [hdue] at hmarked
  exact hmarked

theorem isElapsed_iff {last : Option Nat} {now interval : Nat} :
    isElapsed last now interval = true ↔ ∀ time ∈ last, interval ≤ now - time := by
  unfold isElapsed
  cases last <;> simp

namespace Keeps

variable {s₀ s s₁ : Scheduler} {t : Timetable}

/-- A cycle is planned on time. -/
theorem onTime_planned (h : s₀.Keeps t s) {tick : Tick} {plan : CyclePlan}
    (hplan : s.planCycle tick = (some plan, s₁)) {reported : Bool}
    (hasked : reported = true → plan.sendImu = true) :
    s₀.OnTime t.current ⟨tick, plan, (s₁.heartbeatDue plan.now).1, reported⟩ := by
  obtain ⟨hpaused, -, rfl, rfl⟩ := planCycle_eq_some hplan
  have hcurrent := h.onTime t.current t.current_mem_epochs
  have hnow : (s.cyclePlan s.stats.cycles tick.time).now = tick.time := by
    unfold cyclePlan
    split <;> rfl
  refine ⟨hpaused, hnow, ?_, fun hmode => ?_, hasked⟩
  · have hdue : ∀ s : Scheduler, (s.heartbeatDue tick.time).1 = true
        ↔ ∀ time ∈ s.lastHeartbeat, s.heartbeatInterval ≤ tick.time - time := by
      intro s
      rw [← isElapsed_iff, heartbeatDue]
      split <;> simp_all
    show (heartbeatDue _ (s.cyclePlan s.stats.cycles tick.time).now).1 = true ↔ _
    rw [hnow, hdue]
    dsimp only
    rw [h.lastHeartbeat, h.heartbeatInterval]
    by_cases hfirst : t.current = []
    · simp [hfirst, lastBeat]
    · obtain ⟨last, hlast⟩ := Option.ne_none_iff_exists'.mp (lastBeat_ne_none hcurrent hfirst)
      simp [hfirst, hlast]
  · dsimp only
    rw [← h.lastImuSent, ← h.imuInterval, ← isElapsed_iff]
    cases hfree : s.mode with
    | freeRunning speedFactor => simp [cyclePlan, hfree]
    | lockstep timeout =>
      rw [← h.mode, hfree] at hmode
      cases hmode

/-- A planned cycle, with its heartbeat and its report, goes into the timetable. -/
theorem planned (h : s₀.Keeps t s) {tick : Tick} {plan : CyclePlan}
    (hplan : s.planCycle tick = (some plan, s₁)) {time : Option Nat}
    (hasked : time.isSome = true → plan.sendImu = true) :
    let due := s₁.heartbeatDue plan.now
    s₀.Keeps (t.note (.planned ⟨tick, plan, due.1, time.isSome⟩)) (due.2.markSent plan.now time) := by
  intro due
  have honTime := h.onTime_planned hplan hasked
  have hnow : plan.now = tick.time := honTime.now
  have hafter := endOfCycle_eq s₁ plan.now time
  obtain ⟨-, hnew, rfl, rfl⟩ := planCycle_eq_some hplan
  have hcycles := t.cycles_planned ⟨tick, s.cyclePlan s.stats.cycles tick.time, due.1, time.isSome⟩
  rw [hafter]
  refine
    { mode := h.mode, skipFactor := h.skipFactor, imuInterval := h.imuInterval
      heartbeatInterval := h.heartbeatInterval
      counted := ?_, lastPlanned := ?_, lastImuSent := ?_, lastHeartbeat := ?_
      onTime := Timetable.forall_epochs_planned h.onTime
        ((h.onTime t.current t.current_mem_epochs).concat honTime)
      inTurn := fun hmode => ?_, renewed := ?_ }
  · rw [hcycles, List.length_append, ← h.counted]
    rfl
  · rw [hcycles, List.getLast?_concat]
    rfl
  · show (if time.isSome then some (s.cyclePlan s.stats.cycles tick.time).now else s.lastImuSent)
      = lastReport (t.current ++ [_])
    rw [lastReport_concat, ← h.lastImuSent, hnow]
  · show (if due.1 then some (s.cyclePlan s.stats.cycles tick.time).now else s.lastHeartbeat)
      = lastBeat (t.current ++ [_])
    rw [lastBeat_concat, ← h.lastHeartbeat, hnow]
  · rw [hcycles]
    refine (h.inTurn hmode).concat ?_
    rw [← h.counted, ← h.skipFactor, Nat.dvd_iff_mod_eq_zero]
    cases hlockstep : s.mode with
    | freeRunning speedFactor =>
      rw [← h.mode, hlockstep] at hmode
      cases hmode
    | lockstep timeout => simp [cyclePlan, hlockstep]
  · rw [hcycles]
    refine h.renewed.append (List.isChain_singleton _) ?_
    intro last hlast c hc
    obtain rfl := Option.some.inj hc
    intro htime
    have hplanned := h.lastPlanned
    rw [Option.mem_def.mp hlast, Option.map_some, htime] at hplanned
    exact hnew hplanned

end Keeps

end Scheduler

end HilBridge
