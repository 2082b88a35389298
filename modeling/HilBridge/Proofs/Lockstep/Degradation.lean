import HilBridge.Proofs.Bridge.Journal
import HilBridge.Proofs.Recording

/-!
# `HilBridge.Proofs.Lockstep.Degradation` — timeouts and the degraded state over runs of the scheduler

A scheduler is called in any order, and whoever asks it for an actuator state may find anything in the
channel: commands that came in since the last call, an empty value, or a channel that is closed. The journal
of such a run has the reports recorded as sent, the changes of the epoch and how each tick obtained its state.
The epoch changes when the scheduler is told another than the time before, whatever it makes of that: `InUse`
remembers what it was told.

How a call of `awaitControls` ends decides what it does to the flags and counts (`Ends`), on any channel. From that
follows the invariant of runs, `InUse.Accountable`.

**Main statement.** `run_timeouts_and_degraded`: a timeout is always for a report of its own, and a scheduler is
degraded exactly from a timeout on until the next acknowledgement or epoch.
-/

namespace HilBridge

variable {α : Type}

/-! ## What the journal says -/

namespace Event

/-- Whether a tick gave up waiting. -/
def isTimeout : Event α → Bool
  | .tick .timedOut _ => true
  | _ => false

/-- Whether a report was sent. -/
def isReport : Event α → Bool
  | .reported _ => true
  | _ => false

end Event

namespace Journal

/-- A report is owed an answer until somebody has given up waiting. -/
def owedEffect : Event α → Option (Option Nat)
  | .reported time => some (some time)
  | .tick .timedOut _ => some none
  | .tick .. => none
  | .opened => none
  | .closing => none
  | .dropped => none
  | .published _ => none

/-- A timeout degrades until the next acknowledgement or epoch. -/
def degradedEffect : Event α → Option (Option Unit)
  | .tick .timedOut _ => some (some ())
  | .tick .acknowledged _ => some none
  | .opened => some none
  | .tick .. => none
  | .reported _ => none
  | .closing => none
  | .dropped => none
  | .published _ => none

/-- The report sent last, unless there was a timeout since. -/
def owed (j : Journal α) : Option Nat :=
  latest owedEffect j

/-- Whether there was a timeout since the last acknowledgement and the last epoch. -/
def isDegraded (j : Journal α) : Bool :=
  (latest degradedEffect j).isSome

/-- The degraded state has a timeout to show for it, with nothing behind that would have ended it. -/
theorem isDegraded_iff {j : Journal α} :
    j.isDegraded = true ↔ ∃ before command after, j = before ++ .tick .timedOut command :: after
      ∧ Event.opened ∉ after ∧ ∀ answer, Event.tick .acknowledged answer ∉ after := by
  constructor
  · intro h
    obtain ⟨x, hx⟩ := Option.isSome_iff_exists.mp h
    obtain ⟨before, e, after, rfl, he, hafter⟩ := exists_of_latest hx
    obtain ⟨command, rfl⟩ : ∃ command, e = .tick .timedOut command := by
      cases e with
      | tick status command => cases status <;> simp_all [degradedEffect]
      | _ => simp [degradedEffect] at he
    refine ⟨before, command, after, rfl, fun hopened => ?_, fun answer hanswer => ?_⟩
    · simpa [degradedEffect] using hafter _ hopened
    · simpa [degradedEffect] using hafter _ hanswer
  · rintro ⟨before, command, after, rfl, hopened, hanswer⟩
    rw [isDegraded, List.append_cons]
    refine isSome_latest_append (by rw [latest_concat]; rfl) fun e he heffect => ?_
    cases e with
    | opened => exact hopened he
    | tick status answer =>
      cases status with
      | acknowledged => exact hanswer answer he
      | _ => cases heffect
    | _ => cases heffect

/-- Between any two timeouts a report was sent. -/
def TimeoutsSpaced (j : Journal α) : Prop :=
  ∀ before first between second after,
    j = before ++ .tick .timedOut first :: between ++ .tick .timedOut second :: after →
    ∃ time, Event.reported time ∈ between

/-- A journal ends with a timeout or the two timeouts were there before its last event. -/
theorem TimeoutsSpaced.concat {j : Journal α} (h : j.TimeoutsSpaced) {e : Event α}
    (he : e.isTimeout = true → ∃ time, j.owed = some time) : Journal.TimeoutsSpaced (j ++ [e]) := by
  intro before first between second after hsplit
  rcases List.eq_nil_or_concat after with rfl | ⟨front, last, rfl⟩
  · -- the second timeout is the new event, and the report owed then came behind the first
    obtain ⟨rfl, hlast⟩ : j = before ++ .tick .timedOut first :: between ∧ e = .tick .timedOut second := by
      simpa using List.append_inj' hsplit rfl
    subst hlast
    obtain ⟨time, htime⟩ := he rfl
    by_contra hnone
    have hcleared : owed (before ++ [Event.tick .timedOut first]) = none := by
      rw [owed, latest_concat]
      rfl
    have hstill : owed (before ++ [.tick .timedOut first] ++ between) = none := by
      refine latest_append_eq_none hcleared fun d hd x hx => ?_
      cases d with
      | reported t => exact hnone ⟨t, hd⟩
      | tick status _ => cases status <;> simp [owedEffect] at hx
      | _ => cases hx
    rw [← List.append_cons, htime] at hstill
    cases hstill
  · refine h before first between second front ?_
    have hinit : j ++ [e]
        = (before ++ Event.tick .timedOut first :: between ++ .tick .timedOut second :: front) ++ [last] := by
      rw [hsplit]
      simp
    exact (List.append_inj' hinit rfl).1

end Journal

/-! ## Calls and runs -/

namespace Scheduler

/-- What a scheduler can be asked. Who asks it for an actuator state may find anything in the channel. -/
inductive Call (α : Type) where
  | planCycle (tick : Tick)
  | markSent (now : Nat) (imuTime : Option Nat)
  | heartbeatDue (now : Nat)
  | onEpoch (epoch : Nat)
  | awaitControls (channel : CommandChannel α) (receivedFirst isShutdown : Bool) (bursts : List (Burst α))
  deriving Repr, DecidableEq

end Scheduler

/-- A scheduler that is being asked, with the epoch that it was told last. -/
structure InUse where
  scheduler : Scheduler
  epoch : Nat

namespace InUse

open Scheduler

/-- A scheduler that nobody has asked anything, of a link that was never opened. -/
def new (c : Config α) : InUse :=
  ⟨.new c, 0⟩

/-- The scheduler after a call, and what it has been told. -/
def apply (u : InUse) : Call α → InUse
  | .planCycle tick => { u with scheduler := (u.scheduler.planCycle tick).2 }
  | .markSent now imuTime => { u with scheduler := u.scheduler.markSent now imuTime }
  | .heartbeatDue now => { u with scheduler := (u.scheduler.heartbeatDue now).2 }
  | .onEpoch epoch => ⟨(u.scheduler.onEpoch epoch).2, epoch⟩
  | .awaitControls channel receivedFirst isShutdown bursts =>
    { u with scheduler := (u.scheduler.awaitControls channel receivedFirst isShutdown bursts).scheduler }

/-- What a call has to do with reports and their answers. Another epoch than before is a new one. -/
def events (u : InUse) : Call α → Journal α
  | .planCycle _ => []
  | .markSent _ imuTime => (imuTime.map .reported).toList
  | .heartbeatDue _ => []
  | .onEpoch epoch => if epoch = u.epoch then [] else [.opened]
  | .awaitControls channel receivedFirst isShutdown bursts =>
    let r := u.scheduler.awaitControls channel receivedFirst isShutdown bursts
    [.tick r.status r.command]

/-- Runs of a scheduler, with their journals. -/
def recorder (α : Type) : Recorder InUse (Call α) (Event α) :=
  ⟨apply, events⟩

/-! ## The invariant -/

/-- What a scheduler has to show for its acknowledgements and timeouts. -/
structure Accountable (mode : TimeMode) (u : InUse) (j : Journal α) : Prop where
  mode : u.scheduler.mode = mode
  epoch : u.scheduler.epoch = u.epoch
  acknowledged : u.scheduler.stats.acknowledged = j.countP Event.isAcknowledged
  timeouts : u.scheduler.stats.timeouts = j.countP Event.isTimeout
  degraded : u.scheduler.stats.degraded = j.isDegraded
  /-- The answer awaited is owed for a report that has had no timeout. -/
  owed : u.scheduler.awaiting = true → ∃ time, j.owed = some time
  spaced : j.TimeoutsSpaced
  /-- Every timeout has a report of its own, and so has the answer awaited. -/
  covered : u.scheduler.stats.timeouts + (if u.scheduler.awaiting then 1 else 0) ≤ j.countP Event.isReport
  inLockstep : u.scheduler.mode.isLockstep = false → j.countP Event.isTimeout = 0

namespace Accountable

variable {mode : TimeMode} {u : InUse} {j : Journal α}

/-- The timetable has no part in it. -/
theorem aside (h : u.Accountable mode j) {s : Scheduler} (hmode : s.mode = u.scheduler.mode)
    (hepoch : s.epoch = u.scheduler.epoch) (hawaiting : s.awaiting = u.scheduler.awaiting)
    {cycles : Nat} (hstats : s.stats = { u.scheduler.stats with cycles }) :
    InUse.Accountable mode { u with scheduler := s } j where
  mode := hmode.trans h.mode
  epoch := hepoch.trans h.epoch
  acknowledged := by rw [hstats]; exact h.acknowledged
  timeouts := by rw [hstats]; exact h.timeouts
  degraded := by rw [hstats]; exact h.degraded
  owed ha := h.owed (hawaiting ▸ ha)
  spaced := h.spaced
  covered := by rw [hstats, hawaiting]; exact h.covered
  inLockstep hfree := h.inLockstep (hmode ▸ hfree)

theorem planCycle (h : u.Accountable mode j) (tick : Tick) :
    InUse.Accountable mode { u with scheduler := (u.scheduler.planCycle tick).2 } j := by
  unfold Scheduler.planCycle
  split
  · exact h
  · exact h.aside rfl rfl rfl rfl

theorem heartbeatDue (h : u.Accountable mode j) (now : Nat) :
    InUse.Accountable mode { u with scheduler := (u.scheduler.heartbeatDue now).2 } j := by
  unfold Scheduler.heartbeatDue
  split
  · exact h.aside rfl rfl rfl rfl
  · exact h

/-- A report sent is what the answer awaited is owed for. -/
theorem markSent (h : u.Accountable mode j) (now time : Nat) :
    InUse.Accountable mode { u with scheduler := u.scheduler.markSent now (some time) }
      (j ++ [.reported time]) where
  mode := by rw [mode_markSent, h.mode]
  epoch := by rw [epoch_markSent, h.epoch]
  acknowledged := by rw [stats_markSent, h.acknowledged, List.countP_append]; rfl
  timeouts := by rw [stats_markSent, h.timeouts, List.countP_append]; rfl
  degraded := by rw [stats_markSent, h.degraded, Journal.isDegraded, Journal.isDegraded, Journal.latest_concat]; rfl
  owed _ := ⟨time, by rw [Journal.owed, Journal.latest_concat]; rfl⟩
  spaced := h.spaced.concat nofun
  covered := by
    have hcovered := h.covered
    have hreports : (j ++ [Event.reported time]).countP Event.isReport = j.countP Event.isReport + 1 := by
      rw [List.countP_append]
      rfl
    rw [stats_markSent, hreports]
    split <;> split at hcovered <;> omega
  inLockstep hfree := by
    rw [mode_markSent] at hfree
    rw [List.countP_append, h.inLockstep hfree]
    rfl

/-- A new epoch forgives everything. -/
theorem onEpoch (h : u.Accountable mode j) {epoch : Nat} (hnew : epoch ≠ u.epoch) :
    InUse.Accountable mode ⟨(u.scheduler.onEpoch epoch).2, epoch⟩ (j ++ [.opened]) := by
  rw [Scheduler.onEpoch, if_neg (h.epoch ▸ hnew)]
  exact
    { mode := h.mode
      epoch := rfl
      acknowledged := by rw [List.countP_append]; exact h.acknowledged
      timeouts := by rw [List.countP_append]; exact h.timeouts
      degraded := by rw [Journal.isDegraded, Journal.latest_concat]; rfl
      owed := nofun
      spaced := h.spaced.concat nofun
      covered := by
        rw [List.countP_append]
        exact Nat.le_trans (Nat.add_le_add_left (Nat.zero_le _) _) h.covered
      inLockstep := fun hfree => by rw [List.countP_append, h.inLockstep hfree]; rfl }

/-- Only for what is owed can somebody give up, and then it is owed no longer. -/
theorem tick (h : u.Accountable mode j) {r : WaitResult α} (hends : u.scheduler.Ends r) :
    InUse.Accountable mode { u with scheduler := r.scheduler } (j ++ [.tick r.status r.command]) where
  mode := hends.terms.mode.trans h.mode
  epoch := hends.terms.epoch.trans h.epoch
  acknowledged := by
    rw [hends.acknowledged, h.acknowledged, List.countP_append]
    cases r.status <;> rfl
  timeouts := by
    rw [hends.timeouts, h.timeouts, List.countP_append]
    cases r.status <;> rfl
  degraded := by
    rw [hends.degraded, h.degraded, Journal.isDegraded, Journal.isDegraded, Journal.latest_concat]
    cases r.status <;> rfl
  owed ha := by
    obtain ⟨hawaiting, hstatus⟩ := hends.awaiting ha
    obtain ⟨time, htime⟩ := h.owed hawaiting
    refine ⟨time, ?_⟩
    rw [Journal.owed] at htime
    rw [Journal.owed, Journal.latest_concat, htime]
    cases hs : r.status with
    | timedOut => exact absurd hs hstatus
    | _ => rfl
  spaced := by
    refine h.spaced.concat fun htimeout => ?_
    cases hs : r.status with
    | timedOut => exact h.owed (hends.waiting hs).1
    | _ => rw [hs] at htimeout; cases htimeout
  covered := by
    have hcovered := h.covered
    have hreports : (j ++ [Event.tick r.status r.command]).countP Event.isReport
        = j.countP Event.isReport := by
      rw [List.countP_append]
      rfl
    rw [hends.timeouts, hreports]
    by_cases hs : r.status = .timedOut
    · -- the place of the answer awaited goes to the timeout
      have hdone : r.scheduler.awaiting = false :=
        Bool.eq_false_iff.mpr fun ha => (hends.awaiting ha).2 hs
      rw [(hends.waiting hs).1] at hcovered
      rw [hdone, if_pos hs]
      exact hcovered
    · rw [if_neg hs, Nat.add_zero]
      refine Nat.le_trans (Nat.add_le_add_left ?_ _) hcovered
      split
      · exact Nat.le_of_eq (if_pos (hends.awaiting ‹_›).1).symm
      · exact Nat.zero_le _
  inLockstep hfree := by
    rw [hends.terms.mode] at hfree
    rw [List.countP_append, h.inLockstep hfree]
    cases hs : r.status with
    | timedOut => rw [(hends.waiting hs).2] at hfree; cases hfree
    | _ => rfl

/-- Every call keeps the invariant. -/
theorem call (h : u.Accountable mode j) (call : Call α) :
    (u.apply call).Accountable mode (j ++ u.events call) := by
  cases call with
  | planCycle tick => simpa [apply, events] using h.planCycle tick
  | heartbeatDue now => simpa [apply, events] using h.heartbeatDue now
  | markSent now imuTime =>
    cases imuTime with
    | none => simpa [apply, events, Scheduler.markSent] using h
    | some time => exact h.markSent now time
  | onEpoch epoch =>
    by_cases hnew : epoch = u.epoch
    · simpa [apply, events, Scheduler.onEpoch, hnew, h.epoch] using h
    · have hopened : u.events (Call.onEpoch epoch : Call α) = [.opened] := if_neg hnew
      rw [hopened]
      exact h.onEpoch hnew
  | awaitControls channel receivedFirst isShutdown bursts =>
    exact h.tick (u.scheduler.ends_awaitControls channel receivedFirst isShutdown bursts)

end Accountable

/-- Every run keeps it, from a scheduler that has sent nothing. -/
theorem accountable_run (c : Config α) (calls : List (Call α)) :
    ((recorder α).run (.new c) calls).1.Accountable (.ofConfig c) ((recorder α).run (.new c) calls).2 := by
  refine (recorder α).run_induction (P := fun u j => u.Accountable (.ofConfig c) j) ?_
    (fun u j call h => h.call call) calls
  exact
    { mode := rfl, epoch := rfl, acknowledged := rfl, timeouts := rfl, degraded := rfl, owed := nofun
      spaced := fun before _ _ _ _ hsplit => by simp at hsplit
      covered := Nat.le_refl 0, inLockstep := fun _ => rfl }

end InUse

namespace Scheduler

/-! ## The theorem -/

/--
**Every timeout has a report of its own, and degraded means a timeout that nothing has mended.** After every
run the counts of acknowledgements and of timeouts are the numbers of ticks with an answer and of those that gave
up; between any two of the latter a report was sent, so there are never more of them than reports; and the
scheduler is degraded exactly if a tick gave up and neither an acknowledgement nor a new epoch has followed. Outside
lockstep nobody gives up.
-/
theorem run_timeouts_and_degraded (c : Config α) (calls : List (Call α)) :
    let s := ((InUse.recorder α).run (.new c) calls).1.scheduler
    let j := ((InUse.recorder α).run (.new c) calls).2
    (s.stats.acknowledged = j.countP Event.isAcknowledged ∧ s.stats.timeouts = j.countP Event.isTimeout)
      ∧ (∀ before first between second after,
          j = before ++ .tick .timedOut first :: between ++ .tick .timedOut second :: after →
          ∃ time, Event.reported time ∈ between)
      ∧ s.stats.timeouts ≤ j.countP Event.isReport
      ∧ (s.stats.degraded = true ↔ ∃ before command after, j = before ++ .tick .timedOut command :: after
          ∧ Event.opened ∉ after ∧ ∀ answer, Event.tick .acknowledged answer ∉ after)
      ∧ (c.lockstep = false → s.stats.timeouts = 0 ∧ s.stats.degraded = false) := by
  intro s j
  have h : InUse.Accountable (.ofConfig c) _ j := InUse.accountable_run c calls
  refine ⟨⟨h.acknowledged, h.timeouts⟩, h.spaced, ?_, ?_, fun hfree => ?_⟩
  · exact Nat.le_trans (Nat.le_add_right _ _) h.covered
  · rw [h.degraded]
    exact Journal.isDegraded_iff
  · have hmode : s.mode.isLockstep = false := by
      rw [h.mode, TimeMode.ofConfig, hfree]
      rfl
    have hnone := h.inLockstep hmode
    refine ⟨h.timeouts.trans hnone, ?_⟩
    rw [h.degraded, Bool.eq_false_iff]
    intro hdegraded
    obtain ⟨before, command, after, hsplit, -⟩ := Journal.isDegraded_iff.mp hdegraded
    rw [hsplit, List.countP_append, List.countP_cons] at hnone
    simp [Event.isTimeout] at hnone

/--
A report that nobody answers degrades. Opening the link anew mends that, with the timeout still counted, and so
does the answer to a second report.
-/
theorem epoch_or_answer_mends :
    let c : Config Float := { Config.default with lockstep := true, lockstepTimeoutMs := 10 }
    let unanswered : List (Call Float) :=
      [.onEpoch 1, .markSent 4000 (some 4000), .awaitControls .empty true false []]
    let replied : CommandChannel Float := CommandChannel.empty.publish (some ⟨8000, [0.5], true⟩)
    let answered : List (Call Float) := [.markSent 8000 (some 8000), .awaitControls replied true false []]
    let run calls := (InUse.recorder Float).run (.new c) calls
    let reopened := run (unanswered ++ [.onEpoch 2])
    (run unanswered).1.scheduler.stats = ⟨0, 0, 1, 0, true⟩
      ∧ (run (unanswered ++ answered)).1.scheduler.stats = ⟨0, 1, 1, 0, false⟩
      ∧ reopened.1.scheduler.stats = ⟨0, 0, 1, 0, false⟩
      ∧ reopened.2 = [.opened, .reported 4000, .tick .timedOut none, .opened]
      ∧ reopened.1.scheduler.stats.timeouts ≤ reopened.2.countP Event.isReport
      ∧ ¬ ∃ before command after, reopened.2 = before ++ .tick .timedOut command :: after
          ∧ Event.opened ∉ after ∧ ∀ answer, Event.tick .acknowledged answer ∉ after := by
  intro c unanswered replied answered run reopened
  have h := run_timeouts_and_degraded c (unanswered ++ [.onEpoch 2])
  have hmended : reopened.1.scheduler.stats = ⟨0, 0, 1, 0, false⟩ := by decide
  refine ⟨by decide, by decide, hmended, by decide, h.2.2.1, fun hdegraded => ?_⟩
  have hstill := h.2.2.2.1.mpr hdegraded
  change reopened.1.scheduler.stats.degraded = true at hstill
  rw [hmended] at hstill
  cases hstill

end Scheduler

end HilBridge
