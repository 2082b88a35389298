import HilBridge.Proofs.Lockstep.AfterCall

/-!
# `HilBridge.Proofs.Lockstep.Acknowledgement` — when an answer in time is an acknowledgement

A report is marked as sent, commands come in until the next tick begins to wait and go on coming in while it
waits. The report is acknowledged exactly if an answer is the newest value at one of the tick's looks; an
answer that a late command overtakes before the tick looks is lost, because the channel keeps one value.

**Main statement.** `awaitControls_acknowledged_iff`, for every number of commands in every order.
`overtaken_answer_is_lost` is the run that shows why it cannot speak of all the commands published in time.
-/

namespace HilBridge

variable {α : Type}

/-! ## Sightings by time -/

/-- Without a shutdown, what can still happen before the deadline is what is stamped before it. -/
theorem Burst.mem_window {timeout : Nat} {bursts : List (Burst α)}
    (hordered : bursts.Pairwise (·.time ≤ ·.time))
    (hquiet : ∀ burst ∈ bursts, WaitEvent.endsWait burst.events = false) {burst : Burst α} :
    burst ∈ window timeout bursts ↔ burst ∈ bursts ∧ burst.time < timeout := by
  induction bursts with
  | nil => simp [window]
  | cons first rest ih =>
    have hfirst : WaitEvent.endsWait first.events = false := hquiet first List.mem_cons_self
    obtain ⟨hle, hrest⟩ := List.pairwise_cons.mp hordered
    have ih := ih hrest fun b hb => hquiet b (List.mem_cons_of_mem first hb)
    by_cases htime : first.time < timeout
    · have hstep : window timeout (first :: rest) = first :: window timeout rest := by
        simp [window, htime, hfirst]
      rw [hstep, List.mem_cons, ih, List.mem_cons]
      constructor
      · rintro (rfl | ⟨hmem, ht⟩)
        · exact ⟨.inl rfl, htime⟩
        · exact ⟨.inr hmem, ht⟩
      · rintro ⟨rfl | hmem, ht⟩
        · exact .inl rfl
        · exact .inr ⟨hmem, ht⟩
    · -- the order puts every later burst behind the deadline too
      have hstep : window timeout (first :: rest) = [] := by simp [window, htime]
      rw [hstep]
      constructor
      · intro hmem
        cases hmem
      · rintro ⟨hmem, ht⟩
        refine absurd ?_ htime
        rcases List.mem_cons.mp hmem with rfl | hmem
        · exact ht
        · exact Nat.lt_of_le_of_lt (hle burst hmem) ht

/-- A command is seen if it is unread at first or left unread by a burst before the deadline. -/
theorem mem_sightings {timeout : Nat} {channel : CommandChannel α} {bursts : List (Burst α)}
    (hopen : channel.closed = false) (hordered : bursts.Pairwise (·.time ≤ ·.time))
    (hquiet : ∀ burst ∈ bursts, WaitEvent.endsWait burst.events = false) {c : Command α} :
    c ∈ sightings timeout channel bursts
      ↔ channel.unread = some c
        ∨ ∃ burst ∈ bursts, burst.time < timeout ∧ WaitEvent.newest burst.events = some c := by
  rw [sightings, hopen, if_neg Bool.false_ne_true, List.mem_append, Option.mem_toList, List.mem_filterMap]
  simp only [Burst.mem_window hordered hquiet, and_assoc]

theorem Burst.isInterrupted_eq_false {timeout : Nat} {bursts : List (Burst α)}
    (hquiet : ∀ burst ∈ bursts, WaitEvent.endsWait burst.events = false) :
    isInterrupted timeout bursts = false := by
  rw [isInterrupted, List.any_eq_false]
  intro burst hmem
  rw [hquiet burst ((List.takeWhile_sublist _).mem hmem)]
  exact Bool.false_ne_true

namespace Scheduler

/-! ## After a report -/

section
variable {s : Scheduler} {timeout : Nat}

/-- In lockstep a tick waits after every report. -/
theorem waits_markSent (hmode : s.mode = .lockstep timeout) (now time : Nat) :
    (s.markSent now (some time)).Waits true false := by
  simp [Waits, awaiting_markSent, hmode, TimeMode.isLockstep]

/-- The answers to a report are the commands of its time or later. -/
theorem answers_markSent (hmode : s.mode = .lockstep timeout) (now time : Nat) (c : Command α) :
    (s.markSent now (some time)).answers c = true ↔ time ≤ c.time := by
  rw [answers_eq_true_iff, lastSend_markSent s now _ (by rw [hmode]; rfl)]
  simp

/--
**A report is acknowledged exactly if an answer to it is the newest value at one of the looks of the wait**:
the last of the values published before the wait, or the last of a burst before the deadline. The
acknowledgement then carries an answer, and without one the wait times out.
-/
theorem awaitControls_acknowledged_iff (hmode : s.mode = .lockstep timeout) (now time : Nat)
    {channel : CommandChannel α} (hopen : channel.closed = false)
    (replies : List (Option (Command α))) {bursts : List (Burst α)}
    (hordered : bursts.Pairwise (·.time ≤ ·.time))
    (hquiet : ∀ burst ∈ bursts, WaitEvent.endsWait burst.events = false) :
    let published := replies.foldl CommandChannel.publish channel
    let r := (s.markSent now (some time)).awaitControls published true false bursts
    (r.status = .acknowledged ↔ ∃ c : Command α, time ≤ c.time
        ∧ (replies.getLast?.getD channel.unread = some c
          ∨ ∃ burst ∈ bursts, burst.time < timeout ∧ WaitEvent.newest burst.events = some c))
      ∧ (r.status = .acknowledged → ∃ c, r.command = some c ∧ time ≤ c.time)
      ∧ (r.status ≠ .acknowledged → r.status = .timedOut) := by
  intro published r
  have hclosed : published.closed = false := by rw [CommandChannel.closed_foldl_publish, hopen]
  have hunread : published.unread = replies.getLast?.getD channel.unread :=
    CommandChannel.unread_foldl_publish hopen replies
  have hrun : r = (s.markSent now (some time)).waitFrom timeout 0 published bursts :=
    awaitControls_waits (by rw [mode_markSent, hmode]) (waits_markSent hmode now time) published bursts
  -- nothing but an answer or the deadline can end this wait
  have hout := outcome_waitFrom timeout 0 (s.markSent now (some time)) published bursts
  rw [← hrun, hclosed, Burst.isInterrupted_eq_false hquiet] at hout
  have hstatus : r.status = .acknowledged
      ↔ ∃ c ∈ sightings timeout published bursts, time ≤ c.time := by
    rw [hout.status, ending_eq_acknowledged_iff, List.any_eq_true]
    simp only [answers_markSent hmode]
  refine ⟨?_, fun hack => ?_, fun hno => ?_⟩
  · rw [hstatus, ← hunread]
    simp only [mem_sightings hclosed hordered hquiet, and_comm]
  · obtain ⟨c, hc, ha⟩ := hstatus.mp hack
    obtain ⟨first, hfirst⟩ := Option.isSome_iff_exists.mp
      (List.find?_isSome.mpr ⟨c, hc, (answers_markSent hmode now time c).mpr ha⟩)
    exact ⟨first, hout.command.trans hfirst,
      (answers_markSent hmode now time first).mp (List.find?_some hfirst)⟩
  · have hunseen : (sightings timeout published bursts).any (s.markSent now (some time)).answers = false := by
      rw [Bool.eq_false_iff, ne_eq, ← ending_eq_acknowledged_iff, ← hout.status]
      exact hno
    rw [hout.status, ending, hunseen]
    rfl

/-- A late command that comes first, or alone in its burst, does not stand in the way of the answer. -/
theorem answer_behind_late_is_acknowledged :
    let late : Command Float := ⟨4000, [], true⟩
    let answer : Command Float := ⟨8000, [0.5], true⟩
    let bursts := [⟨3, [.publish (some late)]⟩, ⟨9, [.publish (some late), .publish (some answer)]⟩]
    let r := ((freshLockstep 10).markSent 8000 (some 8000)).awaitControls
      ([some answer, some late].foldl CommandChannel.publish .empty) true false bursts
    (freshLockstep 10).mode = .lockstep 10
      ∧ (CommandChannel.empty : CommandChannel Float).closed = false
      ∧ bursts.Pairwise (·.time ≤ ·.time)
      ∧ (∀ burst ∈ bursts, WaitEvent.endsWait burst.events = false)
      ∧ r.status = .acknowledged ∧ ∃ c, r.command = some c ∧ 8000 ≤ c.time := by
  intro late answer bursts r
  have hmode : (freshLockstep 10).mode = .lockstep 10 := rfl
  have hopen : (CommandChannel.empty : CommandChannel Float).closed = false := rfl
  have hordered : bursts.Pairwise (·.time ≤ ·.time) := by simp [bursts]
  have hquiet : ∀ burst ∈ bursts, WaitEvent.endsWait burst.events = false := by
    simp [bursts, WaitEvent.endsWait]
  obtain ⟨hiff, hcommand, -⟩ :=
    awaitControls_acknowledged_iff hmode 8000 8000 hopen [some answer, some late] hordered hquiet
  have hlast : bursts[1] ∈ bursts := List.getElem_mem _
  have hack : r.status = .acknowledged :=
    hiff.mpr ⟨answer, by decide, .inr ⟨bursts[1], hlast, by decide, rfl⟩⟩
  exact ⟨hmode, hopen, hordered, hquiet, hack, hcommand hack⟩

/-- An answer in time is lost if a late command overtakes it before the tick looks. -/
theorem overtaken_answer_is_lost :
    let late : Command Float := ⟨4000, [], true⟩
    let answer : Command Float := ⟨8000, [0.5], true⟩
    let r := ((freshLockstep 10).markSent 8000 (some 8000)).awaitControls .empty true false
      [⟨3, [.publish (some answer), .publish (some late)]⟩]
    8000 ≤ answer.time ∧ r.status = .timedOut ∧ r.command = none ∧ r.scheduler.stats.timeouts = 1 :=
  ⟨by decide, by decide, rfl, by decide⟩

end

end Scheduler

end HilBridge
