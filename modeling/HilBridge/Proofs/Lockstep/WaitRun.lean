import HilBridge.Proofs.Lockstep.Sighting

/-!
# `HilBridge.Proofs.Lockstep.WaitRun` — how a wait ends, and what it leaves behind

A wait takes the commands that it sees one by one out of the channel, counts each of them and ends with the
first answer. `Concludes` says what seeing a list of commands comes to:

* an answer among them ends the wait as acknowledged; without one the closed channel, a shutdown or the
  deadline does, in this order (`ending`);
* what is handed out is the first answer;
* the scheduler is left as noting the commands up to the first answer, in turn, leaves it (`note`,
  `upToAnswer`), with what the end of the wait adds (`settle`).

`outcome_waitFrom` proves this of the loop over every schedule of bursts, with `sightings` as the list;
nothing later opens the loop to see how it ends. Its induction is carried by the fact that counting a command
does not change what answers the last report. The last section says how long the wait takes and what it
leaves in the channel and of the schedule.
-/

namespace HilBridge

variable {α : Type}

namespace Scheduler

/-! ## Counting commands -/

/-- Counts a command taken from the channel: as the answer, or as a late one. -/
def note (s : Scheduler) (c : Command α) : Scheduler :=
  if s.answers c then s.acknowledge else s.noteLate

/-- The commands up to the first answer and with it. -/
def upToAnswer (s : Scheduler) : List (Command α) → List (Command α)
  | [] => []
  | c :: rest => if s.answers c then [c] else c :: s.upToAnswer rest

/-- What the end of a wait adds to the counting. Only a closed channel ends it with the tick holding. -/
def settle (s : Scheduler) : SyncStatus → Scheduler
  | .timedOut => s.timeOut
  | .holding => { s with awaiting := false }
  | .freeRunning => s
  | .acknowledged => s
  | .shutdown => s

/-- Counting a command does not change which commands are answers. -/
@[simp]
theorem answers_note (s : Scheduler) (d c : Command α) : (s.note d).answers c = s.answers c := by
  unfold note
  split <;> rfl

@[simp]
theorem answers_foldl_note (s : Scheduler) (ds : List (Command α)) (c : Command α) :
    (ds.foldl note s).answers c = s.answers c := by
  induction ds generalizing s with
  | nil => rfl
  | cons d rest ih => rw [List.foldl_cons, ih, answers_note]

theorem upToAnswer_congr {s t : Scheduler} (h : ∀ c : Command α, t.answers c = s.answers c)
    (cs : List (Command α)) : t.upToAnswer cs = s.upToAnswer cs := by
  induction cs with
  | nil => rfl
  | cons c rest ih => simp [upToAnswer, h, ih]

/-- Commands without an answer among them are all passed over. -/
theorem upToAnswer_append {s : Scheduler} {cs : List (Command α)}
    (h : ∀ c ∈ cs, s.answers c = false) (ds : List (Command α)) :
    s.upToAnswer (cs ++ ds) = cs ++ s.upToAnswer ds := by
  induction cs with
  | nil => rfl
  | cons c rest ih =>
    have hc : s.answers c = false := h c List.mem_cons_self
    rw [List.cons_append, upToAnswer, hc, ih fun d hd => h d (List.mem_cons_of_mem c hd)]
    rfl

theorem mem_of_mem_upToAnswer {s : Scheduler} {c : Command α} {cs : List (Command α)}
    (h : c ∈ s.upToAnswer cs) : c ∈ cs := by
  induction cs with
  | nil => exact h
  | cons d rest ih =>
    rw [upToAnswer] at h
    split at h
    · rw [List.mem_singleton] at h
      exact h ▸ List.mem_cons_self
    · rcases List.mem_cons.mp h with rfl | h
      · exact List.mem_cons_self
      · exact List.mem_cons_of_mem d (ih h)

/-- The first answer is among the commands up to it. -/
theorem mem_upToAnswer_of_find {s : Scheduler} {c : Command α} {cs : List (Command α)}
    (h : cs.find? s.answers = some c) : c ∈ s.upToAnswer cs := by
  induction cs with
  | nil => simp at h
  | cons d rest ih =>
    rw [List.find?_cons] at h
    rw [upToAnswer]
    cases hd : s.answers d with
    | true =>
      rw [hd] at h
      exact Option.some.inj h ▸ List.mem_singleton_self d
    | false =>
      rw [hd] at h
      exact List.mem_cons_of_mem d (ih h)

/-! ## One look -/

theorem look_answer {s : Scheduler} {channel : CommandChannel α} {c : Command α}
    (hc : channel.unread = some c) (ha : s.answers c = true) :
    s.look channel = .ended .acknowledged (some c) s.acknowledge := by
  rw [CommandChannel.unread] at hc
  simp [look, hc, ha]

theorem look_open {s : Scheduler} {channel : CommandChannel α} (hopen : channel.closed = false)
    (hlate : ∀ c ∈ channel.unread, s.answers c = false) :
    s.look channel = .waiting (channel.unread.toList.foldl note s) := by
  rw [CommandChannel.unread] at hlate ⊢
  cases hu : (if channel.unseen then channel.newest else none) with
  | none => simp [look, hu, hopen]
  | some c => simp [look, hu, hopen, note, hlate c hu]

theorem look_closed {s : Scheduler} {channel : CommandChannel α} (hclosed : channel.closed = true)
    (hlate : ∀ c ∈ channel.unread, s.answers c = false) :
    s.look channel = .ended .holding none ((channel.unread.toList.foldl note s).settle .holding) := by
  rw [CommandChannel.unread] at hlate ⊢
  cases hu : (if channel.unseen then channel.newest else none) with
  | none => simp [look, hu, hclosed, settle]
  | some c => simp [look, hu, hclosed, note, hlate c hu, settle]

/-! ## The loop -/

theorem waitFrom_ended {s s' : Scheduler} {channel : CommandChannel α} {status : SyncStatus}
    {command : Option (Command α)} (h : s.look channel = .ended status command s')
    (timeout now : Nat) (bursts : List (Burst α)) :
    s.waitFrom timeout now channel bursts
      = ⟨status, command, s', channel.markSeen, false, now, bursts⟩ := by
  rw [waitFrom.eq_def, h]

/-- With nothing more in time the wait goes on to its deadline. -/
theorem waitFrom_deadline {s s' : Scheduler} {channel : CommandChannel α} {timeout : Nat}
    {bursts : List (Burst α)} (h : s.look channel = .waiting s')
    (hlate : ∀ burst ∈ bursts.head?, ¬ burst.time < timeout) (now : Nat) :
    s.waitFrom timeout now channel bursts
      = ⟨.timedOut, none, s'.timeOut, channel.markSeen, false, timeout, bursts⟩ := by
  cases bursts with
  | nil => rw [waitFrom.eq_def, h]
  | cons burst rest =>
    have hb : ¬ burst.time < timeout := hlate burst rfl
    rw [waitFrom.eq_def, h]
    exact if_neg hb

theorem waitFrom_shutdown {s s' : Scheduler} {channel : CommandChannel α} {timeout : Nat}
    {burst : Burst α} (h : s.look channel = .waiting s') (htime : burst.time < timeout)
    (hend : WaitEvent.endsWait burst.events = true) (now : Nat) (rest : List (Burst α)) :
    s.waitFrom timeout now channel (burst :: rest)
      = ⟨.shutdown, none, s', (WaitEvent.applyAll channel.markSeen false burst.events).1, true,
         burst.time, rest⟩ := by
  rw [waitFrom.eq_def, h]
  simp [htime, WaitEvent.applyAll_eq, hend]

theorem waitFrom_burst {s s' : Scheduler} {channel : CommandChannel α} {timeout : Nat}
    {burst : Burst α} (h : s.look channel = .waiting s') (htime : burst.time < timeout)
    (hquiet : WaitEvent.endsWait burst.events = false) (now : Nat) (rest : List (Burst α)) :
    s.waitFrom timeout now channel (burst :: rest)
      = s'.waitFrom timeout burst.time
          (WaitEvent.applyAll channel.markSeen false burst.events).1 rest := by
  rw [waitFrom.eq_def, h]
  simp [htime, WaitEvent.applyAll_eq, hquiet]

/-! ## The end of a wait -/

/-- How a wait that sees some commands ends. -/
def ending (s : Scheduler) (isClosed isInterrupted : Bool) (seen : List (Command α)) : SyncStatus :=
  if seen.any s.answers then .acknowledged
  else if isClosed then .holding
  else if isInterrupted then .shutdown
  else .timedOut

/-- The result that seeing some commands in turn comes to. -/
structure Concludes (s : Scheduler) (isClosed isInterrupted : Bool) (seen : List (Command α))
    (r : WaitResult α) : Prop where
  status : r.status = s.ending isClosed isInterrupted seen
  command : r.command = seen.find? s.answers
  scheduler : r.scheduler = ((s.upToAnswer seen).foldl note s).settle r.status

/-- An answer ends the wait, whatever else could have been seen. -/
theorem Concludes.answer {s : Scheduler} {c : Command α} (ha : s.answers c = true)
    {isClosed isInterrupted : Bool} {rest : List (Command α)} {r : WaitResult α}
    (hstatus : r.status = .acknowledged) (hcommand : r.command = some c)
    (hscheduler : r.scheduler = s.acknowledge) :
    s.Concludes isClosed isInterrupted (c :: rest) r where
  status := by simp [hstatus, ending, ha]
  command := by simp [hcommand, ha]
  scheduler := by simp [hscheduler, hstatus, upToAnswer, ha, note, settle]

/-- Late commands are counted, and the wait goes on with what comes behind them. -/
theorem Concludes.late {s : Scheduler} {ds : List (Command α)} (hlate : ∀ c ∈ ds, s.answers c = false)
    {isClosed isInterrupted : Bool} {seen : List (Command α)} {r : WaitResult α}
    (h : (ds.foldl note s).Concludes isClosed isInterrupted seen r) :
    s.Concludes isClosed isInterrupted (ds ++ seen) r := by
  have hcongr : ∀ c : Command α, (ds.foldl note s).answers c = s.answers c := answers_foldl_note s ds
  have hnone : ds.find? s.answers = none := by
    rw [List.find?_eq_none]
    intro c hc
    simp [hlate c hc]
  have hany : ds.any s.answers = false := by
    rw [List.any_eq_false]
    intro c hc
    simp [hlate c hc]
  refine ⟨?_, ?_, ?_⟩
  · rw [h.status, ending, ending, List.any_append, hany, funext hcongr, Bool.false_or]
  · rw [h.command, List.find?_append, hnone, funext hcongr, Option.none_or]
  · rw [h.scheduler, upToAnswer_append hlate, List.foldl_append, upToAnswer_congr hcongr]

/-- A wait that sees nothing is settled by how it ends. -/
theorem Concludes.nothing {s : Scheduler} {isClosed isInterrupted : Bool} {r : WaitResult α}
    (hstatus : r.status = s.ending isClosed isInterrupted ([] : List (Command α)))
    (hcommand : r.command = none) (hscheduler : r.scheduler = s.settle r.status) :
    s.Concludes isClosed isInterrupted [] r :=
  ⟨hstatus, hcommand, hscheduler⟩

/-! ## The induction -/

/-- What is unread is an answer, or else it is late or there is none. -/
theorem answer_or_late (s : Scheduler) (unread : Option (Command α)) :
    (∃ c, unread = some c ∧ s.answers c = true) ∨ ∀ c ∈ unread, s.answers c = false := by
  cases unread with
  | none => simp
  | some c => cases ha : s.answers c <;> simp [ha]

theorem concludes_answered {s : Scheduler} {channel : CommandChannel α} {c : Command α}
    (hc : channel.unread = some c) (ha : s.answers c = true) (timeout now : Nat)
    (bursts : List (Burst α)) :
    s.Concludes channel.closed (Burst.isInterrupted timeout bursts) (sightings timeout channel bursts)
      (s.waitFrom timeout now channel bursts) := by
  rw [waitFrom_ended (look_answer hc ha), sightings, hc]
  exact .answer ha rfl rfl rfl

theorem concludes_closed {s : Scheduler} {channel : CommandChannel α} (hclosed : channel.closed = true)
    (hlate : ∀ c ∈ channel.unread, s.answers c = false) (timeout now : Nat) (bursts : List (Burst α)) :
    s.Concludes channel.closed (Burst.isInterrupted timeout bursts) (sightings timeout channel bursts)
      (s.waitFrom timeout now channel bursts) := by
  rw [waitFrom_ended (look_closed hclosed hlate), sightings, hclosed, if_pos rfl]
  exact .late (by simpa using hlate) (.nothing rfl rfl rfl)

/-- With no burst in time the wait lasts until its deadline. -/
theorem concludes_deadline {s : Scheduler} {channel : CommandChannel α} (hopen : channel.closed = false)
    (hlate : ∀ c ∈ channel.unread, s.answers c = false) {timeout : Nat} {bursts : List (Burst α)}
    (hover : ∀ burst ∈ bursts.head?, ¬ burst.time < timeout) (now : Nat) :
    s.Concludes channel.closed (Burst.isInterrupted timeout bursts) (sightings timeout channel bursts)
      (s.waitFrom timeout now channel bursts) := by
  have hquiet : Burst.isInterrupted timeout bursts = false := by
    cases bursts with
    | nil => rfl
    | cons burst rest => simp [Burst.isInterrupted, hover burst rfl]
  have hseen : sightings timeout channel bursts = channel.unread.toList ++ [] := by
    cases bursts with
    | nil => simp [sightings, Burst.window]
    | cons burst rest => rw [sightings_cut (.inl (hover burst rfl)), List.append_nil]
  rw [waitFrom_deadline (look_open hopen hlate) hover, hseen, hopen, hquiet]
  exact .late (by simpa using hlate) (.nothing rfl rfl rfl)

/--
**A wait comes to what its sightings come to.** The induction is over the bursts: one in time that brings no
shutdown leaves a shorter schedule, and the scheduler with the unread command noted.
-/
theorem outcome_waitFrom (timeout now : Nat) (s : Scheduler) (channel : CommandChannel α)
    (bursts : List (Burst α)) :
    s.Concludes channel.closed (Burst.isInterrupted timeout bursts) (sightings timeout channel bursts)
      (s.waitFrom timeout now channel bursts) := by
  induction bursts generalizing now s channel with
  | nil =>
    rcases s.answer_or_late channel.unread with ⟨c, hc, ha⟩ | hlate
    · exact concludes_answered hc ha timeout now []
    · cases hopen : channel.closed with
      | true => exact hopen ▸ concludes_closed hopen hlate timeout now []
      | false => exact hopen ▸ concludes_deadline hopen hlate (by simp) now
  | cons burst rest ih =>
    rcases s.answer_or_late channel.unread with ⟨c, hc, ha⟩ | hlate
    · exact concludes_answered hc ha timeout now (burst :: rest)
    cases hopen : channel.closed with
    | true => exact hopen ▸ concludes_closed hopen hlate timeout now (burst :: rest)
    | false =>
      -- the look has come to nothing: the burst is too late, ends the wait, or is one to go on behind
      by_cases htime : burst.time < timeout
      · have hlate' : ∀ c ∈ channel.unread.toList, s.answers c = false := by simpa using hlate
        cases hend : WaitEvent.endsWait burst.events with
        | true =>
          have hintr : Burst.isInterrupted timeout (burst :: rest) = true := by
            simp [Burst.isInterrupted, htime, hend]
          have hseen : sightings timeout channel (burst :: rest) = channel.unread.toList ++ [] := by
            rw [sightings_cut (.inr hend), List.append_nil]
          rw [waitFrom_shutdown (look_open hopen hlate) htime hend, hseen, hintr]
          exact .late hlate' (.nothing rfl rfl rfl)
        | false =>
          have hintr : Burst.isInterrupted timeout (burst :: rest) = Burst.isInterrupted timeout rest := by
            simp [Burst.isInterrupted, htime, hend]
          -- the late command is noted before the rest of the wait, which no answer hangs on
          have hrest := ih burst.time (channel.unread.toList.foldl note s)
            (WaitEvent.applyAll channel.markSeen false burst.events).1
          rw [WaitEvent.closed_applyAll, CommandChannel.closed_markSeen, hopen] at hrest
          rw [waitFrom_burst (look_open hopen hlate) htime hend, sightings_cons hopen htime hend, hintr]
          exact .late hlate' hrest
      · exact hopen ▸ concludes_deadline hopen hlate (by simpa using htime) now

/-! ## Time, channel and schedule

What `outcome_waitFrom` leaves open: how long the wait lasted, and what is left in the channel and of the
schedule. -/

/-- A look itself ends a wait as acknowledged, or as holding when nothing more can be published. -/
theorem look_ended {s s' : Scheduler} {channel : CommandChannel α} {status : SyncStatus}
    {command : Option (Command α)} (h : s.look channel = .ended status command s') :
    (status = .acknowledged ∧ command = channel.unread) ∨ (status = .holding ∧ command = none) := by
  rw [CommandChannel.unread]
  unfold look at h
  split at h <;> rename_i hu <;> (repeat' split at h) <;> cases h <;> simp [hu]

theorem waited_waitFrom_le {timeout now : Nat} (h : now ≤ timeout) (s : Scheduler)
    (channel : CommandChannel α) (bursts : List (Burst α)) :
    (s.waitFrom timeout now channel bursts).waited ≤ timeout := by
  fun_induction waitFrom timeout now s channel bursts with
  | case1 => exact h
  | case2 => exact Nat.le_refl timeout
  | case3 _ _ _ _ _ _ _ htime => exact Nat.le_of_lt htime
  | case4 _ _ _ _ _ _ _ htime _ _ _ _ ih => exact ih (Nat.le_of_lt htime)
  | case5 => exact Nat.le_refl timeout

/-- Nobody gives up before the deadline. -/
theorem waited_waitFrom_eq {timeout now : Nat} {s : Scheduler} {channel : CommandChannel α}
    {bursts : List (Burst α)} (h : (s.waitFrom timeout now channel bursts).status = .timedOut) :
    (s.waitFrom timeout now channel bursts).waited = timeout := by
  fun_induction waitFrom timeout now s channel bursts with
  | case1 _ _ _ _ _ _ _ hlook =>
    rcases look_ended hlook with ⟨rfl, _⟩ | ⟨rfl, _⟩ <;> cases h
  | case2 => rfl
  | case3 => cases h
  | case4 _ _ _ _ _ _ _ _ _ _ _ _ ih => exact ih h
  | case5 => rfl

@[simp]
theorem closed_waitFrom (timeout now : Nat) (s : Scheduler) (channel : CommandChannel α)
    (bursts : List (Burst α)) :
    (s.waitFrom timeout now channel bursts).channel.closed = channel.closed := by
  fun_induction waitFrom timeout now s channel bursts with
  | case1 => rfl
  | case2 => rfl
  | case3 _ _ channel _ burst _ _ _ channel' happly =>
    have h := WaitEvent.closed_applyAll channel.markSeen false burst.events
    rw [happly] at h
    exact h
  | case4 _ _ channel _ burst _ _ _ channel' _ happly _ ih =>
    have h := WaitEvent.closed_applyAll channel.markSeen false burst.events
    rw [happly] at h
    rw [ih]
    exact h
  | case5 => rfl

/-- A wait that is not cut short by a shutdown leaves nothing unread. -/
theorem unread_waitFrom {timeout now : Nat} {s : Scheduler} {channel : CommandChannel α}
    {bursts : List (Burst α)} (h : (s.waitFrom timeout now channel bursts).isShutdown = false) :
    (s.waitFrom timeout now channel bursts).channel.unread = none := by
  fun_induction waitFrom timeout now s channel bursts with
  | case1 => rfl
  | case2 => rfl
  | case3 => cases h
  | case4 _ _ _ _ _ _ _ _ _ _ _ _ ih => exact ih h
  | case5 => rfl

/--
What a wait hands out was unread at its beginning or is what a burst that has happened by its end left
unread.
-/
theorem origin_waitFrom (timeout now : Nat) (s : Scheduler) {channel : CommandChannel α}
    (hopen : channel.closed = false) (bursts : List (Burst α)) :
    ∃ happened, bursts = happened ++ (s.waitFrom timeout now channel bursts).ahead
      ∧ ∀ c ∈ (s.waitFrom timeout now channel bursts).command,
          channel.unread = some c ∨ ∃ burst ∈ happened, WaitEvent.newest burst.events = some c := by
  fun_induction waitFrom timeout now s channel bursts with
  | case1 _ _ _ channel _ command _ hlook =>
    refine ⟨[], rfl, fun c hc => .inl ?_⟩
    rcases look_ended hlook with ⟨_, rfl⟩ | ⟨_, rfl⟩
    · exact hc
    · cases hc
  | case2 => exact ⟨[], rfl, by simp⟩
  | case3 _ _ _ _ burst => exact ⟨[burst], rfl, by simp⟩
  | case4 _ _ channel _ burst rest _ _ channel' _ happly _ ih =>
    have hclosed := WaitEvent.closed_applyAll channel.markSeen false burst.events
    have hunread := WaitEvent.unread_applyAll hopen false burst.events
    rw [happly] at hclosed hunread
    obtain ⟨happened, hsplit, horigin⟩ := ih (hclosed.trans hopen)
    -- what the rest of the wait finds unread at its beginning is what this burst has left
    refine ⟨burst :: happened, congrArg (burst :: ·) hsplit, fun c hc => .inr ?_⟩
    rcases horigin c hc with hc | ⟨later, hmem, hc⟩
    · exact ⟨burst, List.mem_cons_self, hunread ▸ hc⟩
    · exact ⟨later, List.mem_cons_of_mem burst hmem, hc⟩
  | case5 => exact ⟨[], rfl, by simp⟩

end Scheduler

end HilBridge
