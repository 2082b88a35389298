import HilBridge.Proofs.Sensor.Feeding
import HilBridge.Proofs.Sensor.Order

/-!
# `HilBridge.Proofs.Sensor.Numbering` — what the count of gaps counts

Inertial samples are numbered as they are stored, by a counter of eight bits, and a cycle that expects the number to
advance by a fixed step counts a gap where it does not. The count is about something that the assembler does not
keep: how many samples were stored between two reports.

Here that is kept. The log of a run (`ImuEvent`) says when samples were stored and reports put out, when the numbering
was started over and when there were cycles. `spans` reads off the log what lies between one event of a kind and the
next, unless the numbering was started over in between.

`Tracks` is what assembler and log have in common, after every run (`tracks_run`): the numbers of two reports in a row
differ by the samples stored between them, modulo 256, and the count of gaps is the count of spans where that is not
the step.
-/

namespace HilBridge

variable {α : Type}

/-! ## Logs -/

/-- What matters to the numbering of inertial reports. -/
inductive ImuEvent (α : Type) where
  | stored (sample : Stamped (ImuReading α))
  | reported (report : Stamped (ImuReport α))
  /-- The numbering starts over. -/
  | restarted
  /-- A cycle is assembled, which may be due to send the inertial report. -/
  | cycle (due : Bool)
  deriving Repr, DecidableEq

namespace ImuEvent

def stored? : ImuEvent α → Option (Stamped (ImuReading α))
  | .stored sample => some sample
  | _ => none

def report? : ImuEvent α → Option (Stamped (ImuReport α))
  | .reported report => some report
  | _ => none

def due? : ImuEvent α → Option Bool
  | .cycle due => some due
  | _ => none

/-- How many samples were stored. -/
def stores (log : List (ImuEvent α)) : Nat :=
  log.countP fun e => e.stored?.isSome

/-- The sample stored last. -/
def lastStored (log : List (ImuEvent α)) : Option (Stamped (ImuReading α)) :=
  (log.filterMap stored?).getLast?

/-- The report put out last. -/
def lastReport (log : List (ImuEvent α)) : Option (Stamped (ImuReport α)) :=
  (log.filterMap report?).getLast?

theorem stores_concat (log : List (ImuEvent α)) (e : ImuEvent α) :
    stores (log ++ [e]) = stores log + if e.stored?.isSome then 1 else 0 := by
  rw [stores, List.countP_append, List.countP_singleton]
  rfl

theorem lastStored_concat (log : List (ImuEvent α)) (e : ImuEvent α) :
    lastStored (log ++ [e]) = e.stored?.or (lastStored log) := by
  unfold lastStored
  cases h : e.stored? <;> simp [h]

theorem lastReport_concat (log : List (ImuEvent α)) (e : ImuEvent α) :
    lastReport (log ++ [e]) = e.report?.or (lastReport log) := by
  unfold lastReport
  cases h : e.report? <;> simp [h]

end ImuEvent

/-- Two events of a kind in a row, and how many samples were stored between them. -/
structure Span (β : Type) where
  first : β
  stores : Nat
  last : β
  deriving Repr, DecidableEq

/-- The spans between events of a kind, and the stores since the last such event, both without any restart. -/
structure Spans (β : Type) where
  current : Option (β × Nat)
  closed : List (Span β)

namespace Spans

variable {β : Type}

/-- One more event, where the events of the kind are those that something is picked from. -/
def step (pick : ImuEvent α → Option β) (t : Spans β) (e : ImuEvent α) : Spans β :=
  match pick e, e with
  | some last, _ =>
    ⟨some (last, 0), t.closed ++ (t.current.map fun (first, stores) => ⟨first, stores, last⟩).toList⟩
  | none, .stored _ => { t with current := t.current.map fun (first, stores) => (first, stores + 1) }
  | none, .restarted => { t with current := none }
  | none, _ => t

end Spans

/-- The spans of a log. -/
def spans {β : Type} (pick : ImuEvent α → Option β) (log : List (ImuEvent α)) : Spans β :=
  log.foldl (Spans.step pick) ⟨none, []⟩

theorem spans_concat {β : Type} (pick : ImuEvent α → Option β) (log : List (ImuEvent α)) (e : ImuEvent α) :
    spans pick (log ++ [e]) = (spans pick log).step pick e := by
  rw [spans, List.foldl_append]
  rfl

namespace Assembler

variable [Scalar α]

def imuReport? (report : Stamped (Report α)) : Option (Stamped (ImuReport α)) :=
  match report.value with
  | .imu value => some ⟨report.time, value⟩
  | _ => none

/-- The inertial reports among some reports. -/
def imuReports (reports : List (Stamped (Report α))) : List (Stamped (ImuReport α)) :=
  reports.filterMap imuReport?

namespace Call

/-- What a call means to the numbering. -/
def imuEvents (a : Assembler α) : Call α → List (ImuEvent α)
  | .deliver sample =>
    match sample.value with
    | .imu reading => if (a.deliver sample).1 then [.stored ⟨sample.time, reading⟩] else []
    | _ => []
  | .storeImu sample => [.stored sample]
  | .deliverRange .. => []
  | .resetSequence => [.restarted]
  | .assemble plan => .cycle plan.sendImu :: (imuReports (a.assemble plan).1).map .reported

/-- Whether a cycle, if the call is one, expects the number to advance by the step. -/
def Expects (step : UInt8) : Call α → Prop
  | .assemble plan => plan.imuStep = some step
  | _ => True

end Call

/-- Runs of an assembler with what they mean to the numbering. -/
def numbering (α : Type) [Scalar α] : Recorder (Assembler α) (Call α) (ImuEvent α) :=
  ⟨Call.apply, Call.imuEvents⟩

/-! ## The inertial side of a cycle -/

omit [Scalar α] in
theorem imuReports_append (r t : List (Stamped (Report α))) :
    imuReports (r ++ t) = imuReports r ++ imuReports t :=
  List.filterMap_append

omit [Scalar α] in
/-- Reports of other kinds are none. -/
theorem imuReports_map_wrap {β : Type} (kind : β → Report α) (hkind : ∀ x report, kind x ≠ .imu report)
    (samples : List (Stamped β)) : imuReports (samples.map (wrap kind)) = [] := by
  unfold imuReports
  rw [List.filterMap_map, List.filterMap_eq_nil_iff]
  intro x _
  show imuReport? ⟨x.time, kind x.value⟩ = none
  cases hx : kind x.value with
  | imu report => exact absurd hx (hkind _ _)
  | _ => rfl

/-- A cycle puts out the inertial report that it takes, and no other. -/
theorem imuReports_assemble (a : Assembler α) (plan : CyclePlan) :
    imuReports (a.assemble plan).1 = (a.takeImuDue plan).1.toList := by
  have others : ∀ {β : Type} (kind : β → Report α), (∀ x report, kind x ≠ .imu report) →
      ∀ report : Option (Stamped β), imuReports (report.map (wrap kind)).toList = [] := by
    intro β kind hkind report
    rw [Option.toList_map]
    exact imuReports_map_wrap kind hkind _
  simp only [assemble_eq, imuReports_append]
  rw [others .barometer nofun, others .magnetometer nofun, others .gps nofun, others .groundTruth nofun,
    imuReports_map_wrap .range nofun]
  cases (a.takeImuDue plan).1 <;> rfl

/-- What follows the inertial report in a cycle changes neither the settings nor the time of that report. -/
theorem kept_assemble (a : Assembler α) (plan : CyclePlan) :
    (a.assemble plan).2.settings = (a.takeImuDue plan).2.settings
      ∧ (a.assemble plan).2.lastImuSent = (a.takeImuDue plan).2.lastImuSent :=
  ⟨read_assemble (·.settings) (fun _ _ _ _ _ _ _ _ => rfl) a plan,
    read_assemble (·.lastImuSent) (fun _ _ _ _ _ _ _ _ => rfl) a plan⟩

/-! ## Assembler and log -/

open ImuEvent

/-- Every report in a log is made from the sample stored last before it, whose number is by one behind the stores. -/
def Made (s : AssemblySettings α) (log : List (ImuEvent α)) : Prop :=
  ∀ before report after, log = before ++ .reported report :: after →
    ∃ sample ∈ lastStored before, report = ⟨sample.time, s.imuReport ⟨UInt8.ofNat (stores before) - 1, sample⟩⟩

/-- The log of a run tells how the numbering of the assembler stands. -/
structure Tracks (step : UInt8) (log : List (ImuEvent α)) (a : Assembler α) : Prop where
  nextSeq : a.imu.nextSeq = UInt8.ofNat (stores log)
  /-- What waits is the sample stored last, and no number was given after its own. -/
  pending : ∀ x, a.imu.slot.pending? = some x → lastStored log = some x.value ∧ x.seq + 1 = a.imu.nextSeq
  lastSent : a.lastImuSent = (lastReport log).map (·.time)
  previous : a.previousImuSeq = (spans report? log).current.map fun (report, _) => report.value.seq
  /-- Every store since the last report has moved the numbering on by one. -/
  since : ∀ current ∈ (spans report? log).current,
    current.1.value.seq + 1 + UInt8.ofNat current.2 = a.imu.nextSeq
  advance : ∀ span ∈ (spans report? log).closed,
    span.last.value.seq - span.first.value.seq = UInt8.ofNat span.stores
  gaps : a.stats.imuSeqGaps = (spans report? log).closed.countP fun span => span.stores % 256 ≠ step.toNat
  made : Made a.settings log

variable {step : UInt8} {log : List (ImuEvent α)} {a a' : Assembler α}

theorem Made.concat {s : AssemblySettings α} (h : Made s log) {e : ImuEvent α}
    (he : ∀ report, e = .reported report → ∃ sample ∈ lastStored log,
      report = ⟨sample.time, s.imuReport ⟨UInt8.ofNat (stores log) - 1, sample⟩⟩) : Made s (log ++ [e]) := by
  have heach : EachAfter (fun before e => ∀ report, e = .reported report → ∃ sample ∈ lastStored before,
      report = ⟨sample.time, s.imuReport ⟨UInt8.ofNat (stores before) - 1, sample⟩⟩) log := by
    rintro before e after hsplit report rfl
    exact h before report after hsplit
  intro before report after hsplit
  exact heach.concat he before (.reported report) after hsplit report rfl

theorem tracks_new (step : UInt8) (c : Config α) (links : List RangeLink) : (new c links).Tracks step [] := by
  refine ⟨rfl, nofun, rfl, rfl, nofun, nofun, rfl, ?_⟩
  intro before report after heq
  cases before <;> cases heq

/-- What does not store, report or start over has nothing to log. -/
theorem Tracks.kept (h : a.Tracks step log) (hsettings : a'.settings = a.settings)
    (hnext : a'.imu.nextSeq = a.imu.nextSeq)
    (hpending : ∀ x, a'.imu.slot.pending? = some x → a.imu.slot.pending? = some x)
    (hlast : a'.lastImuSent = a.lastImuSent) (hprevious : a'.previousImuSeq = a.previousImuSeq)
    (hgaps : a'.stats.imuSeqGaps = a.stats.imuSeqGaps) : a'.Tracks step log where
  nextSeq := hnext.trans h.nextSeq
  pending x hx := by
    rw [hnext]
    exact h.pending x (hpending x hx)
  lastSent := hlast.trans h.lastSent
  previous := hprevious.trans h.previous
  since := by
    rw [hnext]
    exact h.since
  advance := h.advance
  gaps := hgaps.trans h.gaps
  made := by
    rw [hsettings]
    exact h.made

theorem Tracks.same (h : a.Tracks step log) (hsame : SameImu a a') (hsettings : a'.settings = a.settings)
    (hlast : a'.lastImuSent = a.lastImuSent) : a'.Tracks step log := by
  refine h.kept hsettings ?_ ?_ hlast hsame.previous hsame.gaps
  · rw [hsame.imu]
  · rw [hsame.imu]
    exact fun _ hx => hx

theorem Tracks.storeImu (h : a.Tracks step log) (sample : Stamped (ImuReading α)) :
    (a.storeImu sample).2.Tracks step (log ++ [.stored sample]) := by
  have hspans : spans report? (log ++ [.stored sample])
      = { spans report? log with
          current := (spans report? log).current.map fun (first, n) => (first, n + 1) } := spans_concat ..
  constructor
  case nextSeq =>
    have hone : stores (log ++ [.stored sample]) = stores log + 1 := stores_concat ..
    show a.imu.nextSeq + 1 = _
    rw [hone, UInt8.ofNat_add, h.nextSeq]
    rfl
  case pending =>
    intro x hx
    obtain rfl : ⟨a.imu.nextSeq, sample⟩ = x := Option.some.inj hx
    rw [lastStored_concat]
    exact ⟨rfl, rfl⟩
  case lastSent =>
    rw [lastReport_concat]
    exact h.lastSent
  case previous =>
    show a.previousImuSeq = _
    rw [hspans, h.previous, Option.map_map]
    rfl
  case since =>
    rw [hspans]
    intro current hcurrent
    obtain ⟨before, hbefore, rfl⟩ := Option.map_eq_some_iff.mp hcurrent
    show before.1.value.seq + 1 + UInt8.ofNat (before.2 + 1) = a.imu.nextSeq + 1
    rw [← h.since before hbefore, UInt8.ofNat_add, ← UInt8.add_assoc]
    rfl
  case advance =>
    rw [hspans]
    exact h.advance
  case gaps =>
    rw [hspans]
    exact h.gaps
  case made => exact h.made.concat nofun

theorem Tracks.resetSequence (h : a.Tracks step log) : a.resetSequence.Tracks step (log ++ [.restarted]) := by
  have hspans : spans report? (log ++ [.restarted]) = { spans report? log with current := none } :=
    spans_concat ..
  constructor
  case nextSeq =>
    rw [stores_concat]
    exact h.nextSeq
  case pending =>
    rw [lastStored_concat]
    exact h.pending
  case lastSent =>
    rw [lastReport_concat]
    exact h.lastSent
  case previous =>
    rw [hspans]
    rfl
  case since =>
    rw [hspans]
    nofun
  case advance =>
    rw [hspans]
    exact h.advance
  case gaps =>
    rw [hspans]
    exact h.gaps
  case made => exact h.made.concat nofun

/-- That there is a cycle means nothing by itself. -/
theorem Tracks.cycle (h : a.Tracks step log) (due : Bool) : a.Tracks step (log ++ [.cycle due]) := by
  have hspans : spans report? (log ++ [.cycle due]) = spans report? log := spans_concat ..
  constructor
  case nextSeq =>
    rw [stores_concat]
    exact h.nextSeq
  case pending =>
    rw [lastStored_concat]
    exact h.pending
  case lastSent =>
    rw [lastReport_concat]
    exact h.lastSent
  case previous =>
    rw [hspans]
    exact h.previous
  case since =>
    rw [hspans]
    exact h.since
  case advance =>
    rw [hspans]
    exact h.advance
  case gaps =>
    rw [hspans]
    exact h.gaps
  case made => exact h.made.concat nofun

/-! ### A report -/

/-- The number that waits differs from the last one reported by the stores since. -/
theorem Tracks.seq_sub (h : a.Tracks step log) {x : Numbered (Stamped (ImuReading α))}
    (hx : a.imu.slot.pending? = some x) {report : Stamped (ImuReport α)} {stores : Nat}
    (hcurrent : (spans report? log).current = some (report, stores)) :
    x.seq - report.value.seq = UInt8.ofNat stores := by
  obtain ⟨-, hlast⟩ := h.pending x hx
  have hsince := h.since (report, stores) hcurrent
  -- both are counted from the number that comes next
  have hseq : x.seq + 1 = report.value.seq + UInt8.ofNat stores + 1 := by
    rw [hlast, ← hsince, UInt8.add_assoc, UInt8.add_comm 1, ← UInt8.add_assoc]
  rw [UInt8.add_left_inj] at hseq
  rw [hseq, UInt8.add_comm, UInt8.add_sub_cancel]

/-- A gap is counted where the stores since the last report are not as many as expected. -/
theorem Tracks.isGap_eq (h : a.Tracks step log) {x : Numbered (Stamped (ImuReading α))}
    (hx : a.imu.slot.pending? = some x) :
    isGap a.previousImuSeq (some step) x.seq
      = (spans report? log).current.any fun (_, stores) => stores % 256 ≠ step.toNat := by
  rw [h.previous]
  cases hcurrent : (spans report? log).current with
  | none => rfl
  | some current =>
    obtain ⟨report, stores⟩ := current
    show (x.seq - report.value.seq != step) = decide (stores % 256 ≠ step.toNat)
    have hcongr : UInt8.ofNat stores = step ↔ stores % 256 = step.toNat := by
      rw [← UInt8.toNat_inj, UInt8.toNat_ofNat']
    rw [h.seq_sub hx hcurrent, Bool.eq_iff_iff, bne_iff_ne, decide_eq_true_iff, Ne, hcongr]

/-- The report of a cycle is made from the sample stored last. -/
theorem Tracks.report (h : a.Tracks step log) {x : Numbered (Stamped (ImuReading α))}
    (hx : a.imu.slot.pending? = some x) (hfresh : ¬ a.lastImuSent.any (x.value.time < ·) = true) :
    (a.takeImu (some step)).2.Tracks step (log ++ [.reported ⟨x.value.time, a.settings.imuReport x⟩]) := by
  rw [takeImu_of_fresh hx hfresh, h.isGap_eq hx]
  have hspans : spans report? (log ++ [.reported ⟨x.value.time, a.settings.imuReport x⟩])
      = ⟨some (⟨x.value.time, a.settings.imuReport x⟩, 0),
        (spans report? log).closed ++ ((spans report? log).current.map fun (first, stores) =>
          ⟨first, stores, ⟨x.value.time, a.settings.imuReport x⟩⟩).toList⟩ := spans_concat ..
  obtain ⟨hstored, hlast⟩ := h.pending x hx
  constructor
  case nextSeq =>
    rw [stores_concat]
    exact h.nextSeq
  case pending =>
    intro y hy
    rw [Slot.pending?_take] at hy
    cases hy
  case lastSent =>
    rw [lastReport_concat]
    rfl
  case previous =>
    rw [hspans]
    rfl
  case since =>
    rw [hspans]
    intro current hcurrent
    obtain rfl := Option.some.inj hcurrent
    show x.seq + 1 + UInt8.ofNat 0 = a.imu.nextSeq
    rw [hlast]
    exact UInt8.add_zero _
  case advance =>
    rw [hspans]
    intro span hspan
    rcases List.mem_append.mp hspan with hbefore | hnew
    · exact h.advance span hbefore
    · obtain ⟨⟨report, stores⟩, hcurrent, rfl⟩ := Option.map_eq_some_iff.mp (Option.mem_toList.mp hnew)
      exact h.seq_sub hx hcurrent
  case gaps =>
    rw [hspans, List.countP_append, ← h.gaps]
    show a.stats.imuSeqGaps + _ = a.stats.imuSeqGaps + _
    cases (spans report? log).current <;> simp
  case made =>
    refine h.made.concat fun report hreport => ⟨x.value, hstored, ?_⟩
    have hseq : x.seq = UInt8.ofNat (stores log) - 1 := by
      rw [← h.nextSeq, ← hlast, UInt8.add_sub_cancel]
    rw [← ImuEvent.reported.inj hreport, ← hseq]

/-! ### Calls and runs -/

/-- A cycle that is due reports the sample that waits, unless it is too old. -/
theorem Tracks.takeImuDue (h : a.Tracks step log) {plan : CyclePlan} (hstep : plan.imuStep = some step) :
    (a.takeImuDue plan).2.Tracks step
      (log ++ .cycle plan.sendImu :: (a.takeImuDue plan).1.toList.map .reported) := by
  have hcycle := h.cycle plan.sendImu
  rw [← List.singleton_append, ← List.append_assoc]
  unfold Assembler.takeImuDue
  by_cases hsend : plan.sendImu = true
  · rw [if_pos hsend, hstep]
    cases hpending : a.imu.slot.pending? with
    | none =>
      rw [takeImu_of_none hpending]
      show Tracks step ((log ++ [.cycle plan.sendImu]) ++ []) _
      rw [List.append_nil]
      exact hcycle.kept rfl rfl nofun rfl rfl rfl
    | some x =>
      by_cases hold : a.lastImuSent.any (x.value.time < ·) = true
      · rw [takeImu_of_stale hpending hold]
        show Tracks step ((log ++ [.cycle plan.sendImu]) ++ []) _
        rw [List.append_nil]
        exact hcycle.kept rfl rfl nofun rfl rfl rfl
      · have hreport := hcycle.report hpending hold
        rw [takeImu_of_fresh hpending hold] at hreport ⊢
        exact hreport
  · rw [if_neg hsend]
    show Tracks step ((log ++ [.cycle plan.sendImu]) ++ []) _
    rw [List.append_nil]
    exact hcycle

theorem settings_call (a : Assembler α) (call : Call α) : (call.apply a).settings = a.settings := by
  cases call with
  | deliver sample => exact (books_deliver a sample).settings
  | storeImu sample => rfl
  | deliverRange link sample => exact (books_deliverRange a link sample).settings
  | resetSequence => rfl
  | assemble plan => exact (a.kept_assemble plan).1.trans (books_takeImuDue a plan).settings

theorem Tracks.call (h : a.Tracks step log) (call : Call α) (hcall : call.Expects step) :
    (call.apply a).Tracks step (log ++ call.imuEvents a) := by
  cases call with
  | deliver sample =>
    obtain ⟨time, reading⟩ := sample
    cases reading with
    | imu reading =>
      show Tracks step (log ++ if (a.deliver ⟨time, .imu reading⟩).1 then [.stored ⟨time, reading⟩] else [])
        (a.deliver ⟨time, .imu reading⟩).2
      by_cases hold : a.lastImuSent.any (time < ·) = true
      · simp only [deliver, if_pos hold, Bool.false_eq_true, if_false, List.append_nil]
        exact h.kept rfl rfl (fun _ hx => hx) rfl rfl rfl
      · simp only [deliver, if_neg hold, if_true]
        exact h.storeImu ⟨time, reading⟩
    | _ =>
      rw [Call.imuEvents, List.append_nil]
      refine h.same (sameImu_deliver (by rintro _ ⟨⟩)) (settings_call a (.deliver _)) ?_
      simp only [Call.apply, deliver]
      split <;> rfl
  | storeImu sample => exact h.storeImu sample
  | deliverRange link sample =>
    rw [Call.imuEvents, List.append_nil]
    refine h.same (sameImu_deliverRange link sample) (settings_call a (.deliverRange link sample)) ?_
    show (a.deliverRange link sample).2.lastImuSent = _
    unfold deliverRange
    split <;> rfl
  | resetSequence => exact h.resetSequence
  | assemble plan =>
    have hexpects : plan.imuStep = some step := hcall
    have hdue := h.takeImuDue hexpects
    rw [Call.imuEvents, imuReports_assemble]
    exact hdue.same (a.sameImu_assemble plan) (a.kept_assemble plan).1 (a.kept_assemble plan).2

theorem settings_run (a : Assembler α) (calls : List (Call α)) :
    ((numbering α).run a calls).1.settings = a.settings :=
  (numbering α).run_induction (P := fun b _ => b.settings = a.settings) rfl
    (fun b _ call h => (settings_call b call).trans h) calls

/-- What the log of a run tells about its end. -/
theorem tracks_run (h : a.Tracks step []) (calls : List (Call α)) (hcalls : ∀ call ∈ calls, call.Expects step) :
    ((numbering α).run a calls).1.Tracks step ((numbering α).run a calls).2 := by
  induction calls using List.reverseRecOn with
  | nil => exact h
  | append_singleton front call ih =>
    rw [Recorder.run_concat]
    have hfront := ih fun earlier hmem => hcalls earlier (List.mem_append_left _ hmem)
    exact hfront.call call (hcalls call (List.mem_append_right _ (List.mem_singleton.mpr rfl)))

end Assembler

end HilBridge
