import HilBridge.Proofs.Sensor.Numbering

/-!
# `HilBridge.Proofs.Sensor.Pace` — cycles that keep the numbering in step

Whoever plans the cycles counts them, and every so many of them are due to send the inertial report. Samples are
numbered by another count, that of the stores. The two have nothing to do with each other but that one sample is
stored for each cycle. Then they stay in phase: since the last report as many samples were stored as cycles were
planned, and so two reports in a row are as many samples apart as cycles (`Phase`).

What can break the step is a report that fails to come when it is due. Without a restart there always is a sample for
it, but a sample put into the store directly can be older than the report before and is then dropped (`Punctual`).
-/

namespace HilBridge

variable {α : Type}

open ImuEvent

/-! ## Logs of regular runs -/

/-- From one cycle to the next one sample is stored, unless the numbering starts over in between. -/
def OncePerCycle (log : List (ImuEvent α)) : Prop :=
  ∀ span ∈ (spans due? log).closed, span.stores = 1

/-- When a cycle is due to send the inertial report, the sample stored last is not older than the last report. -/
def Punctual (log : List (ImuEvent α)) : Prop :=
  ∀ i < log.length, log[i]? = some (.cycle true) →
    ∀ sample ∈ lastStored (log.take i), ∀ report ∈ lastReport (log.take i), report.time ≤ sample.time

instance (log : List (ImuEvent α)) : Decidable (OncePerCycle log) :=
  inferInstanceAs (Decidable (∀ span ∈ (spans due? log).closed, span.stores = 1))

instance [DecidableEq α] (log : List (ImuEvent α)) : Decidable (Punctual log) :=
  inferInstanceAs (Decidable (∀ i < log.length, log[i]? = some (.cycle true) →
    ∀ sample ∈ lastStored (log.take i), ∀ report ∈ lastReport (log.take i), report.time ≤ sample.time))

theorem closed_append {β : Type} (pick : ImuEvent α → Option β) (log more : List (ImuEvent α)) :
    (spans pick log).closed <+: (spans pick (log ++ more)).closed := by
  induction more using List.reverseRecOn with
  | nil =>
    have hsame : log ++ [] = log := List.append_nil log
    exact hsame.symm ▸ List.prefix_refl _
  | append_singleton front e ih =>
    have hstep : ∀ t : Spans β, t.closed <+: (t.step pick e).closed := by
      intro t
      unfold Spans.step
      split
      · exact List.prefix_append _ _
      · exact List.prefix_refl _
      · exact List.prefix_refl _
      · exact List.prefix_refl _
    rw [← List.append_assoc, spans_concat]
    exact ih.trans (hstep _)

theorem OncePerCycle.of_append {log more : List (ImuEvent α)} (h : OncePerCycle (log ++ more)) :
    OncePerCycle log :=
  fun span hspan => h span ((closed_append due? log more).subset hspan)

theorem Punctual.of_append {log more : List (ImuEvent α)} (h : Punctual (log ++ more)) : Punctual log := by
  intro i hi hcycle
  have hlonger : i < (log ++ more).length := by
    rw [List.length_append]
    omega
  have hbefore := h i hlonger
  rw [List.getElem?_append_left hi, List.take_append_of_le_length (Nat.le_of_lt hi)] at hbefore
  exact hbefore hcycle

/-- What a log of regular cycles says of the cycle that comes next. -/
theorem OncePerCycle.next {log more : List (ImuEvent α)} {due last : Bool} {stores : Nat}
    (h : OncePerCycle (log ++ .cycle due :: more)) (hcurrent : (spans due? log).current = some (last, stores)) :
    stores = 1 := by
  rw [List.append_cons] at h
  have hnew : (spans due? (log ++ [.cycle due])).closed = (spans due? log).closed ++ [⟨last, stores, due⟩] := by
    rw [spans_concat]
    show (spans due? log).closed ++ ((spans due? log).current.map _).toList = _
    rw [hcurrent]
    rfl
  refine h.of_append ⟨last, stores, due⟩ ?_
  rw [hnew]
  exact List.mem_append_right _ (List.mem_singleton.mpr rfl)

theorem Punctual.next {log more : List (ImuEvent α)} (h : Punctual (log ++ .cycle true :: more)) :
    ∀ sample ∈ lastStored log, ∀ report ∈ lastReport log, report.time ≤ sample.time := by
  have hlength : log.length < (log ++ .cycle true :: more).length := by
    rw [List.length_append, List.length_cons]
    omega
  have hnow := h log.length hlength
  rw [List.getElem?_append_right (Nat.le_refl _), Nat.sub_self, List.take_left] at hnow
  exact hnow rfl

/-! ## The phase -/

/-- Reports are `skip` samples apart, and the next one will be, where `cycles` cycles were planned. -/
structure Phase (skip cycles : Nat) (log : List (ImuEvent α)) : Prop where
  apart : ∀ span ∈ (spans report? log).closed, span.stores = skip
  /-- So many cycles have passed since the one that reported, with one sample each. -/
  ahead : ∀ current ∈ (spans report? log).current, ∃ cycle ∈ (spans due? log).current, ∃ passed < skip,
    current.2 = passed + cycle.2 ∧ cycles % skip = (passed + 1) % skip

variable {skip cycles : Nat} {log : List (ImuEvent α)}

theorem phase_nil : Phase skip cycles ([] : List (ImuEvent α)) :=
  ⟨nofun, nofun⟩

theorem Phase.stored (h : Phase skip cycles log) (sample : Stamped (ImuReading α)) :
    Phase skip cycles (log ++ [.stored sample]) := by
  have hreports : spans report? (log ++ [.stored sample])
      = { spans report? log with
          current := (spans report? log).current.map fun p => (p.1, p.2 + 1) } := spans_concat ..
  have hcycles : spans due? (log ++ [.stored sample])
      = { spans due? log with
          current := (spans due? log).current.map fun p => (p.1, p.2 + 1) } := spans_concat ..
  constructor
  · rw [hreports]
    exact h.apart
  · rw [hreports, hcycles]
    intro current hcurrent
    obtain ⟨before, hbefore, rfl⟩ := Option.map_eq_some_iff.mp hcurrent
    obtain ⟨cycle, hcycle, passed, hpassed, hstores, hmod⟩ := h.ahead before hbefore
    refine ⟨(cycle.1, cycle.2 + 1), Option.map_eq_some_iff.mpr ⟨cycle, hcycle, rfl⟩, passed, hpassed, ?_, hmod⟩
    show before.2 + 1 = passed + (cycle.2 + 1)
    omega

theorem Phase.restarted (h : Phase skip cycles log) : Phase skip cycles (log ++ [.restarted]) := by
  have hreports : spans report? (log ++ [.restarted]) = { spans report? log with current := none } :=
    spans_concat ..
  constructor
  · rw [hreports]
    exact h.apart
  · rw [hreports]
    nofun

/-- A cycle that is not due brings the one that is nearer. -/
theorem Phase.passed (h : Phase skip cycles log) (hdue : cycles % skip ≠ 0)
    (hone : ∀ cycle ∈ (spans due? log).current, cycle.2 = 1) :
    Phase skip (cycles + 1) (log ++ [.cycle false]) := by
  have hreports : spans report? (log ++ [.cycle false]) = spans report? log := spans_concat ..
  have hcycles : (spans due? (log ++ [.cycle false])).current = some (false, 0) := by
    rw [spans_concat]
    rfl
  constructor
  · rw [hreports]
    exact h.apart
  · rw [hreports, hcycles]
    intro current hcurrent
    obtain ⟨cycle, hcycle, passed, hpassed, hstores, hmod⟩ := h.ahead current hcurrent
    have hlast : passed + 1 ≠ skip := by
      intro heq
      rw [hmod, heq, Nat.mod_self] at hdue
      exact hdue rfl
    have hsample := hone cycle hcycle
    refine ⟨(false, 0), rfl, passed + 1, by omega, ?_, ?_⟩
    · show current.2 = passed + 1 + 0
      omega
    · rw [Nat.add_mod, hmod, ← Nat.add_mod]

/-- A cycle that is due makes the report that follows the last one after `skip` samples. -/
theorem Phase.report (h : Phase skip cycles log) (hskip : 0 < skip) (hdue : cycles % skip = 0)
    (hone : ∀ cycle ∈ (spans due? log).current, cycle.2 = 1) (report : Stamped (ImuReport α)) :
    Phase skip (cycles + 1) (log ++ [.cycle true] ++ [.reported report]) := by
  have hreports : spans report? (log ++ [.cycle true] ++ [.reported report])
      = ⟨some (report, 0), (spans report? log).closed
          ++ ((spans report? log).current.map fun p => ⟨p.1, p.2, report⟩).toList⟩ := by
    rw [spans_concat, spans_concat]
    rfl
  have hcycles : (spans due? (log ++ [.cycle true] ++ [.reported report])).current = some (true, 0) := by
    rw [spans_concat, spans_concat]
    rfl
  constructor
  · rw [hreports]
    intro span hspan
    rcases List.mem_append.mp hspan with hbefore | hnew
    · exact h.apart span hbefore
    · obtain ⟨current, hcurrent, rfl⟩ := Option.map_eq_some_iff.mp (Option.mem_toList.mp hnew)
      obtain ⟨cycle, hcycle, passed, hpassed, hstores, hmod⟩ := h.ahead current hcurrent
      -- all cycles have passed, and the last of them has its sample
      have hlast : passed + 1 = skip := by
        rw [hdue] at hmod
        have hdvd : skip ∣ passed + 1 := Nat.dvd_of_mod_eq_zero hmod.symm
        have hle := Nat.le_of_dvd (Nat.succ_pos passed) hdvd
        omega
      have hsample := hone cycle hcycle
      show current.2 = skip
      omega
  · rw [hreports, hcycles]
    intro current hcurrent
    obtain rfl := Option.some.inj hcurrent
    refine ⟨(true, 0), rfl, 0, hskip, rfl, ?_⟩
    rw [Nat.add_mod, hdue, Nat.zero_add, Nat.mod_mod]

/-- A cycle that is due and makes no report leaves no report to follow. -/
theorem Phase.missed (h : Phase skip cycles log) (hnone : (spans report? log).current = none) (due : Bool) :
    Phase skip (cycles + 1) (log ++ [.cycle due]) := by
  have hreports : spans report? (log ++ [.cycle due]) = spans report? log := spans_concat ..
  constructor
  · rw [hreports]
    exact h.apart
  · rw [hreports, hnone]
    nofun

/-! ## Assemblers in pace -/

namespace Assembler

variable [Scalar α]

/-- A run in which `cycles` cycles were planned leaves the assembler in pace. -/
structure Paced (step : UInt8) (cycles : Nat) (log : List (ImuEvent α)) (a : Assembler α) : Prop where
  tracks : a.Tracks step log
  /-- What was stored since the last cycle waits for the next one. -/
  waiting : ∀ cycle ∈ (spans due? log).current, 0 < cycle.2 → a.imu.slot.pending?.isSome = true
  phase : OncePerCycle log → Punctual log → Phase step.toNat cycles log

variable {step : UInt8} {a : Assembler α}

theorem paced_new (step : UInt8) (cycles : Nat) (c : Config α) (links : List RangeLink) :
    (new c links).Paced step cycles [] :=
  ⟨tracks_new step c links, nofun, fun _ _ => phase_nil⟩

/-- Outside the cycles a call stores a sample, starts the numbering over, or leaves the store alone. -/
theorem imuEvents_cases (a : Assembler α) {call : Call α} (hcall : ∀ plan, call ≠ .assemble plan) :
    (call.imuEvents a = [] ∧ (call.apply a).imu = a.imu)
      ∨ (∃ sample, call.imuEvents a = [.stored sample] ∧ (call.apply a).imu = (a.imu.store sample).2)
      ∨ (call.imuEvents a = [.restarted] ∧ (call.apply a).imu = a.imu) := by
  cases call with
  | deliver sample =>
    obtain ⟨time, reading⟩ := sample
    cases reading with
    | imu reading =>
      by_cases hold : a.lastImuSent.any (time < ·) = true
      · refine .inl ⟨?_, ?_⟩
        · simp only [Call.imuEvents, deliver, if_pos hold, Bool.false_eq_true, if_false]
        · simp only [Call.apply, deliver, if_pos hold]
          rfl
      · refine .inr (.inl ⟨⟨time, reading⟩, ?_, ?_⟩)
        · simp only [Call.imuEvents, deliver, if_neg hold, if_true]
        · simp only [Call.apply, deliver, if_neg hold]
          rfl
    | _ => exact .inl ⟨rfl, (sameImu_deliver (by rintro _ ⟨⟩)).imu⟩
  | storeImu sample => exact .inr (.inl ⟨sample, rfl, rfl⟩)
  | deliverRange link sample => exact .inl ⟨rfl, (sameImu_deliverRange link sample).imu⟩
  | resetSequence => exact .inr (.inr ⟨rfl, rfl⟩)
  | assemble plan => exact absurd rfl (hcall plan)

theorem Paced.call (h : a.Paced step cycles log) {call : Call α} (hcall : ∀ plan, call ≠ .assemble plan) :
    (call.apply a).Paced step cycles (log ++ call.imuEvents a) := by
  have hexpects : call.Expects step := by
    cases call with
    | assemble plan => exact absurd rfl (hcall plan)
    | _ => trivial
  have htracks := h.tracks.call call hexpects
  rcases a.imuEvents_cases hcall with ⟨hevents, himu⟩ | ⟨sample, hevents, himu⟩ | ⟨hevents, himu⟩
  · rw [hevents, List.append_nil] at htracks ⊢
    refine ⟨htracks, ?_, h.phase⟩
    rw [himu]
    exact h.waiting
  · rw [hevents] at htracks ⊢
    refine ⟨htracks, ?_, fun hone hpunctual => ?_⟩
    · rw [himu]
      exact fun _ _ _ => rfl
    · exact (h.phase hone.of_append hpunctual.of_append).stored sample
  · rw [hevents] at htracks ⊢
    refine ⟨htracks, ?_, fun hone hpunctual => ?_⟩
    · rw [spans_concat]
      nofun
    · exact (h.phase hone.of_append hpunctual.of_append).restarted

theorem Paced.calls (h : a.Paced step cycles log) (calls : List (Call α))
    (hcalls : ∀ call ∈ calls, ∀ plan, call ≠ .assemble plan) :
    ((numbering α).run a calls).1.Paced step cycles (log ++ ((numbering α).run a calls).2) := by
  induction calls using List.reverseRecOn with
  | nil =>
    show a.Paced step cycles (log ++ [])
    rw [List.append_nil]
    exact h
  | append_singleton front call ih =>
    have hfront := ih fun earlier hmem => hcalls earlier (List.mem_append_left _ hmem)
    rw [Recorder.run_concat, Recorder.step, ← List.append_assoc]
    exact hfront.call (hcalls call (List.mem_append_right _ (List.mem_singleton.mpr rfl)))

/-- In pace, a cycle that is due has a report to make if one went before it. -/
theorem Paced.reports (h : a.Paced step cycles log) {plan : CyclePlan} (hsend : plan.sendImu = true)
    {more : List (ImuEvent α)} (hone : OncePerCycle (log ++ .cycle true :: more))
    (hpunctual : Punctual (log ++ .cycle true :: more)) (hbefore : (spans report? log).current ≠ none) :
    (a.takeImuDue plan).1.isSome = true := by
  have hphase := h.phase hone.of_append hpunctual.of_append
  obtain ⟨current, hcurrent⟩ := Option.ne_none_iff_exists'.mp hbefore
  obtain ⟨⟨last, stores⟩, hcycle, -⟩ := hphase.ahead current hcurrent
  -- one sample was stored since the last cycle, so it waits
  have hstored : stores = 1 := hone.next hcycle
  have hsome := h.waiting (last, stores) hcycle (by show 0 < stores; omega)
  obtain ⟨x, hx⟩ := Option.isSome_iff_exists.mp hsome
  have hfresh : ¬ a.lastImuSent.any (x.value.time < ·) = true := by
    intro hold
    obtain ⟨time, htime, hlt⟩ := any_lt_iff.mp hold
    rw [h.tracks.lastSent] at htime
    obtain ⟨report, hreport, rfl⟩ := Option.map_eq_some_iff.mp htime
    have hle := hpunctual.next x.value (h.tracks.pending x hx).1 report hreport
    omega
  rw [takeImuDue, if_pos hsend, takeImu_of_fresh hx hfresh]
  rfl

theorem Paced.assemble (h : a.Paced step cycles log) (hstep : 0 < step.toNat) {plan : CyclePlan}
    (hsend : plan.sendImu = decide (cycles % step.toNat = 0)) (hexpects : plan.imuStep = some step) :
    (a.assemble plan).2.Paced step (cycles + 1) (log ++ Call.imuEvents a (.assemble plan)) := by
  have htracks := h.tracks.call (.assemble plan) hexpects
  rw [Call.imuEvents, imuReports_assemble] at htracks ⊢
  refine ⟨htracks, ?_, fun hone hpunctual => ?_⟩
  · -- nothing was stored since this cycle
    have hcycle : (spans due? (log ++ .cycle plan.sendImu :: (a.takeImuDue plan).1.toList.map .reported)).current
        = some (plan.sendImu, 0) := by
      rw [List.append_cons]
      cases (a.takeImuDue plan).1 with
      | none =>
        show (spans due? ((log ++ [.cycle plan.sendImu]) ++ [])).current = _
        rw [List.append_nil, spans_concat]
        rfl
      | some report =>
        show (spans due? ((log ++ [.cycle plan.sendImu]) ++ [.reported report])).current = _
        rw [spans_concat, spans_concat]
        rfl
    rw [hcycle]
    intro cycle hmem hpos
    obtain rfl := Option.some.inj hmem
    exact absurd hpos (Nat.lt_irrefl 0)
  · have hphase := h.phase hone.of_append hpunctual.of_append
    have hsample : ∀ cycle ∈ (spans due? log).current, cycle.2 = 1 := fun cycle hcycle => hone.next hcycle
    by_cases hdue : cycles % step.toNat = 0
    · rw [decide_eq_true hdue] at hsend
      rw [hsend] at hone hpunctual ⊢
      cases htaken : (a.takeImuDue plan).1 with
      | some report =>
        rw [List.append_cons]
        exact hphase.report hstep hdue hsample report
      | none =>
        refine hphase.missed ?_ true
        by_contra hbefore
        have hreports := h.reports hsend hone hpunctual hbefore
        rw [htaken] at hreports
        cases hreports
    · rw [decide_eq_false hdue] at hsend
      have hnothing : (a.takeImuDue plan).1 = none := by
        rw [takeImuDue, hsend]
        rfl
      rw [hsend, hnothing]
      exact hphase.passed hdue hsample

end Assembler

end HilBridge
