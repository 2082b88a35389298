import HilBridge.Proofs.Sensor.Order
import Mathlib.Data.List.Chain

/-!
# `HilBridge.Proofs.Sensor.Spacing` — how far apart the reports of a category are put out

Pressures, fields and positions have an interval: a cycle passes over a sample that waits until the interval has
passed. It is counted from the time of the last sample sent, and not from the cycle that sent it. The two differ
by what a sample lags behind its cycle (`Sending.lag`), and by as much two reports can come too close.

The invariant is `Spaced`: what an assembler remembers of a category is the time of the last report sent, and
each report was sent an interval after the time of the one before.

**Main statement.** `reports_apart_but_for_lag`: when a cycle sends a report, and that the cycles of two reports in
a row are an interval apart, but for the lag of the first.
-/

namespace HilBridge

variable {α : Type}

/-- What has to pass from one report of the category to the next. -/
def AssemblySettings.interval? (s : AssemblySettings α) : Category → Option Nat
  | .barometer => some s.barometerInterval
  | .magnetometer => some s.magnetometerInterval
  | .gps => some s.gpsInterval
  | .imu => none
  | .pose => none
  | .range _ => none

/-! ## Reports and their categories -/

/-- Reports tell categories apart, except two range sensors. -/
theorem Category.eq_of_covers {j k : Category} {report : Report α} (hk : ∀ i, k ≠ .range i)
    (hj : j.covers report = true) (h : k.covers report = true) : j = k := by
  cases k with
  | range i => exact absurd rfl (hk i)
  | _ =>
    cases report <;> cases h
    cases j <;> first | rfl | cases hj

/-- Where entries are under the category of their reports, the reports of a kind are those of its category. -/
theorem Ledger.filter_covers_reports {l : Ledger α} {k : Category} (hk : ∀ i, k ≠ .range i)
    (hl : ∀ j report, .reported j report ∈ l → j.covers report.value = true) :
    l.reports.filter (k.covers ·.value) = (l.moving k).reports := by
  rw [reports, reports, moving, List.filter_filterMap, List.filterMap_filter]
  refine List.filterMap_congr fun e he => ?_
  cases e with
  | reported j report =>
    have hiff : k.covers report.value = true ↔ j = k :=
      ⟨Category.eq_of_covers hk (hl j report he), fun h => h ▸ hl j report he⟩
    simp only [Entry.report?, Entry.moves, Option.filter_some, hiff, decide_eq_true_eq]
  | _ => simp [Entry.report?]

/-! ## When a sample is due -/

namespace Tray

/-- Whether a sample waits, and at `now` so much has passed since the time of the last one sent. -/
def IsDue (t : Tray α) (interval now : Nat) : Prop :=
  t.pending.isSome = true ∧ ∀ last ∈ t.lastSent, interval ≤ now - last

variable [Scalar α] {s : AssemblySettings α} {links : List RangeLink} {t u : Tray α} {l : Ledger α}

/-- Only a report changes what is remembered of reports. -/
theorem Steps.lastSent_eq (h : Steps s links t l u) (hl : l.reports = []) : u.lastSent = t.lastSent := by
  induction h with
  | refl => rfl
  | tail _ hstep ih =>
    rw [Ledger.reports_append, List.append_eq_nil_iff] at hl
    cases hstep with
    | accept x _ => exact ih hl.1
    | report x k report _ _ _ => cases hl.2
    | discard x _ _ => exact ih hl.1

end Tray

/-- A feed gives its sample exactly when that is due. -/
theorem Feed.isSome_sendDue {β : Type} (f : Feed β) (arrive : Stamped β → Arrival α) (now interval : Nat) :
    (f.sendDue now interval).1.isSome = true ↔ (f.tray arrive).IsDue interval now := by
  have hsend : f.send.1 = f.slot.pending? := by
    unfold send
    rcases htake : f.slot.take with ⟨_ | x, slot⟩ <;> exact (congrArg Prod.fst htake).symm
  have helapsed : f.isElapsed now interval = true ↔ ∀ last ∈ f.lastSent, interval ≤ now - last := by
    rw [isElapsed]
    cases f.lastSent <;> simp
  rw [Tray.IsDue, tray, Option.isSome_map, ← helapsed, sendDue]
  split
  · rename_i h
    rw [hsend, h, and_iff_left rfl]
  · rename_i h
    simp [h]

namespace Assembler

variable [Scalar α] {a : Assembler α}

theorem isSome_takeBarometer (a : Assembler α) (now : Nat) :
    (a.takeBarometer now).1.isSome = true ↔ (a.tray .barometer).IsDue a.settings.barometerInterval now := by
  obtain ⟨noise, -, htaken⟩ := a.takeBarometer_eq now
  rw [htaken, Option.isSome_map]
  exact a.barometer.isSome_sendDue ..

theorem isSome_takeMagnetometer (a : Assembler α) (now : Nat) :
    (a.takeMagnetometer now).1.isSome = true
      ↔ (a.tray .magnetometer).IsDue a.settings.magnetometerInterval now := by
  obtain ⟨noise, -, htaken⟩ := a.takeMagnetometer_eq now
  rw [htaken, Option.isSome_map]
  exact a.magnetometer.isSome_sendDue ..

theorem isSome_takeGps (a : Assembler α) (now : Nat) :
    (a.takeGps now).1.isSome = true ↔ (a.tray .gps).IsDue a.settings.gpsInterval now := by
  obtain ⟨noise, -, htaken⟩ := a.takeGps_eq now
  rw [htaken, Option.isSome_map]
  exact a.gps.isSome_sendDue ..

/-! ## A cycle -/

omit [Scalar α] in
theorem reported_ne_nil_iff {β : Type} {k : Category} {kind : β → Report α} {report : Option (Stamped β)} :
    reported k kind report ≠ [] ↔ report.isSome = true := by
  cases report <;> simp [reported]

theorem moving_takeImuEntries (plan : CyclePlan) {k : Category} (hk : k ≠ .imu) :
    Ledger.moving (a.takeImuEntries plan) k = [] := by
  refine List.filter_eq_nil_iff.mpr fun e he => ?_
  unfold takeImuEntries at he
  split at he
  · rw [List.mem_singleton.mp he]
    simpa [Entry.moves] using hk.symm
  · split at he
    · rw [List.mem_singleton.mp he]
      simpa [Entry.moves] using hk
    · cases he

/-- A cycle has an entry in a category with an interval exactly when a sample of it is due. -/
theorem moving_assembleEntries_ne_nil_iff (ha : a.InOrder) {k : Category} {interval : Nat}
    (hk : a.settings.interval? k = some interval) (plan : CyclePlan) :
    (a.assembleEntries plan).moving k ≠ [] ↔ (a.tray k).IsDue interval plan.now := by
  -- a category is left alone until its turn comes
  have himu := a.books_takeImuDue plan
  have hbarometer := himu.trans (books_takeBarometer (himu.inOrder ha) plan.now)
  have hmagnetometer := hbarometer.trans (books_takeMagnetometer (hbarometer.inOrder ha) plan.now)
  cases k with
  | barometer =>
    have htray := (himu.trays .barometer).eq_of_nil (moving_takeImuEntries plan nofun)
    rw [← htray, ← Option.some.inj hk, ← himu.settings, ← isSome_takeBarometer]
    simp [assembleEntries, moving_takeImuEntries, moving_reported, moving_reported_of_ne,
      moving_takeRangesEntries_of_ne, reported_ne_nil_iff]
  | magnetometer =>
    have htray := (hbarometer.trays .magnetometer).eq_of_nil (by simp [moving_takeImuEntries, moving_reported_of_ne])
    rw [← htray, ← Option.some.inj hk, ← hbarometer.settings, ← isSome_takeMagnetometer]
    simp [assembleEntries, moving_takeImuEntries, moving_reported, moving_reported_of_ne,
      moving_takeRangesEntries_of_ne, reported_ne_nil_iff]
  | gps =>
    have htray := (hmagnetometer.trays .gps).eq_of_nil (by simp [moving_takeImuEntries, moving_reported_of_ne])
    rw [← htray, ← Option.some.inj hk, ← hmagnetometer.settings, ← isSome_takeGps]
    simp [assembleEntries, moving_takeImuEntries, moving_reported, moving_reported_of_ne,
      moving_takeRangesEntries_of_ne, reported_ne_nil_iff]
  | _ => cases hk

omit [Scalar α] in
theorem eq_wrap_of_mem_reported {β : Type} {j k : Category} {kind : β → Report α} {sent : Option (Stamped β)}
    {report : Stamped (Report α)} (h : .reported j report ∈ reported k kind sent) :
    j = k ∧ ∃ y, report = wrap kind y := by
  cases sent with
  | none => cases h
  | some y =>
    obtain ⟨hj, hreport⟩ := Entry.reported.inj (List.mem_singleton.mp h)
    exact ⟨hj, y, hreport⟩

/-- The entries of a cycle are under the categories of their reports. -/
theorem covers_of_mem_assembleEntries {plan : CyclePlan} {j : Category} {report : Stamped (Report α)}
    (h : .reported j report ∈ a.assembleEntries plan) : j.covers report.value = true := by
  simp only [assembleEntries, List.mem_append] at h
  rcases h with ((((h | h) | h) | h) | h) | h
  · unfold takeImuEntries at h
    split at h
    · obtain ⟨rfl, rfl⟩ := Entry.reported.inj (List.mem_singleton.mp h)
      rfl
    · split at h
      · cases List.mem_singleton.mp h
      · cases h
  · obtain ⟨rfl, _, rfl⟩ := eq_wrap_of_mem_reported h
    rfl
  · obtain ⟨rfl, _, rfl⟩ := eq_wrap_of_mem_reported h
    rfl
  · obtain ⟨rfl, _, rfl⟩ := eq_wrap_of_mem_reported h
    rfl
  · obtain ⟨rfl, _, rfl⟩ := eq_wrap_of_mem_reported h
    rfl
  · obtain ⟨_, -, h⟩ := List.mem_flatMap.mp h
    obtain ⟨rfl, _, rfl⟩ := eq_wrap_of_mem_reported h
    rfl

/-- What a cycle puts out in a category with an interval: the report of the sample that waits, if it is due. -/
theorem assemble_category (ha : a.InOrder) {k : Category} {interval : Nat}
    (hk : a.settings.interval? k = some interval) (plan : CyclePlan) :
    let sent := (a.assemble plan).1.filter (k.covers ·.value)
    let after := (a.assemble plan).2.tray k
    ((a.tray k).IsDue interval plan.now ∧ ∃ x report, (a.tray k).pending = some x
        ∧ x.Makes a.settings a.rangeLinks report ∧ sent = [report] ∧ after.lastSent = some report.time)
      ∨ (¬ (a.tray k).IsDue interval plan.now ∧ sent = [] ∧ after.lastSent = (a.tray k).lastSent) := by
  intro sent after
  have hsent : sent = Ledger.reports (Ledger.moving (a.assembleEntries plan) k) := by
    rw [← Ledger.filter_covers_reports (fun i h => by rw [h] at hk; cases hk)
      (fun _ _ => covers_of_mem_assembleEntries), reports_assembleEntries]
  have hsteps := (books_assemble ha plan).trays k
  have hnew : ∀ e ∈ Ledger.moving (a.assembleEntries plan) k, e.arrival? = none := fun e he =>
    arrival?_of_mem_assembleEntries (List.mem_of_mem_filter he)
  have hone := hsteps.length_le_one hnew
  rw [← moving_assembleEntries_ne_nil_iff ha hk, hsent]
  rcases hentries : Ledger.moving (a.assembleEntries plan) k with _ | ⟨e, rest⟩
  · rw [hentries] at hsteps
    exact .inr ⟨not_not_intro rfl, rfl, congrArg Tray.lastSent (hsteps.eq_of_nil rfl)⟩
  · obtain rfl : rest = [] := by
      rw [hentries, List.length_cons] at hone
      exact List.eq_nil_of_length_eq_zero (by omega)
    rw [hentries] at hsteps hnew
    have hmoves : e.moves k = true := by
      refine (List.mem_filter.mp (?_ : e ∈ Ledger.moving (a.assembleEntries plan) k)).2
      rw [hentries]
      exact List.mem_singleton_self e
    refine .inl ⟨List.cons_ne_nil _ _, ?_⟩
    generalize hafter : (a.assemble plan).2.tray k = u at hsteps
    show ∃ x report, _ ∧ _ ∧ _ ∧ ((a.assemble plan).2.tray k).lastSent = _
    rw [hafter]
    cases hsteps.step_of_single with
    | accept x _ => cases hnew _ (List.mem_singleton_self _)
    | report x j report pending _ made => exact ⟨x, report, pending, made, rfl, congrArg some made.time.symm⟩
    | discard x _ _ =>
      -- only inertial samples are found out so late, and they have no interval here
      obtain rfl : k = .imu := of_decide_eq_true hmoves
      cases hk

end Assembler

/-! ## Runs -/

/-- A report with the time of the cycle that put it out. -/
structure Sending (α : Type) where
  cycle : Nat
  report : Stamped (Report α)
  deriving Repr, DecidableEq

/-- By how much the sample of the report was behind the cycle. -/
def Sending.lag (d : Sending α) : Nat :=
  d.cycle - d.report.time

/-- What was sent of the kind of a category. -/
def Category.sendings (k : Category) (log : List (Sending α)) : List (Sending α) :=
  log.filter (k.covers ·.report.value)

namespace Assembler

variable [Scalar α]

namespace Call

/-- The time of a cycle. -/
def cycle? : Call α → Option Nat
  | .assemble plan => some plan.now
  | .deliver _ => none
  | .storeImu _ => none
  | .deliverRange .. => none
  | .resetSequence => none

/-- The reports that a call puts out, with the time of their cycle. -/
def sendings (a : Assembler α) (call : Call α) : List (Sending α) :=
  call.cycle?.elim [] fun now => (call.reports a).map (⟨now, ·⟩)

end Call

/-- Runs of an assembler with all that they put out, and when. -/
def sender (α : Type) [Scalar α] : Recorder (Assembler α) (Call α) (Sending α) :=
  ⟨Call.apply, Call.sendings⟩

/-- In a category the last report is remembered, and each was due after the one before. -/
structure Spaced (k : Category) (interval : Nat) (a : Assembler α) (log : List (Sending α)) : Prop where
  remembered : (a.tray k).lastSent = (k.sendings log).getLast?.map (·.report.time)
  apart : (k.sendings log).IsChain fun d e => interval ≤ e.cycle - d.report.time

variable {a : Assembler α} {k : Category} {interval : Nat} {log : List (Sending α)}

omit [Scalar α] in
/-- Whether a sample is due is told by the last report sent. -/
theorem Spaced.isDue_iff (h : Spaced k interval a log) (now : Nat) :
    (a.tray k).IsDue interval now
      ↔ (a.tray k).pending.isSome = true ∧ ∀ last ∈ (k.sendings log).getLast?, interval ≤ now - last.report.time := by
  rw [Tray.IsDue, h.remembered]
  cases (k.sendings log).getLast? <;> simp

/-- What a cycle sends of a category. -/
theorem sendings_assemble (a : Assembler α) (k : Category) (plan : CyclePlan) :
    k.sendings ((Call.assemble plan).sendings a)
      = ((a.assemble plan).1.filter (k.covers ·.value)).map (⟨plan.now, ·⟩) := by
  show List.filter _ (List.map _ _) = _
  rw [List.filter_map]
  rfl

/-- Every call keeps the reports of a category apart. -/
theorem Spaced.step (h : Spaced k interval a log) (ha : a.InOrder)
    (hk : a.settings.interval? k = some interval) (call : Call α) :
    Spaced k interval (call.apply a) (log ++ call.sendings a) := by
  have hlog : k.sendings (log ++ call.sendings a) = k.sendings log ++ k.sendings (call.sendings a) :=
    List.filter_append ..
  -- a call that puts out nothing of the category
  have hquiet (hnone : k.sendings (call.sendings a) = [])
      (hlast : ((call.apply a).tray k).lastSent = (a.tray k).lastSent) :
      Spaced k interval (call.apply a) (log ++ call.sendings a) := by
    constructor
    · rw [hlast, hlog, hnone, List.append_nil]
      exact h.remembered
    · rw [hlog, hnone, List.append_nil]
      exact h.apart
  by_cases hcycle : ∃ plan, call = .assemble plan
  · obtain ⟨plan, rfl⟩ := hcycle
    rcases assemble_category ha hk plan with ⟨hdue, x, report, -, -, hsent, hlast⟩ | ⟨-, hsent, hlast⟩
    · have hone : k.sendings ((Call.assemble plan).sendings a) = [⟨plan.now, report⟩] := by
        rw [sendings_assemble, hsent]
        rfl
      constructor
      · rw [hlog, hone, List.getLast?_concat]
        exact hlast
      · rw [hlog, hone]
        refine h.apart.append (List.isChain_singleton _) fun last hmem e he => ?_
        obtain rfl := Option.some.inj he
        exact ((h.isDue_iff plan.now).mp hdue).2 last hmem
    · exact hquiet (by rw [sendings_assemble, hsent]; rfl) hlast
  · have hreports : call.reports a = [] := by
      cases call with
      | assemble plan => exact absurd ⟨plan, rfl⟩ hcycle
      | _ => rfl
    refine hquiet ?_ (((books_call ha call).trays k).lastSent_eq ?_)
    · cases call with
      | assemble plan => exact absurd ⟨plan, rfl⟩ hcycle
      | _ => rfl
    · have hentries : Ledger.reports (call.entries a) = [] := (reports_entries a call).trans hreports
      exact List.filterMap_eq_nil_iff.mpr fun e he =>
        List.filterMap_eq_nil_iff.mp hentries e (List.mem_of_mem_filter he)

/-! ## The theorem -/

/--
**Two reports in a row are an interval apart, but for the lag of the first.** Whatever is done with an assembler:
the cycles that send two successive reports of a category are its interval apart, less at most the time by which
the first report's sample was behind its cycle. When a cycle sends the sample that waits is decided by nothing
else: the interval has to have passed since the time of the last report sent.
-/
theorem reports_apart_but_for_lag (c : Config α) (links : List RangeLink) (calls : List (Call α)) {k : Category}
    {interval : Nat} (hk : c.assembly.interval? k = some interval) :
    let r := (sender α).run (.new c links) calls
    ((k.sendings r.2).IsChain fun d e => interval ≤ e.cycle - d.cycle + d.lag)
      ∧ ∀ plan,
        let elapsed := ∀ last ∈ (k.sendings r.2).getLast?, interval ≤ plan.now - last.report.time
        let sent := (r.1.assemble plan).1.filter (k.covers ·.value)
        (elapsed → List.Forall₂ (Arrival.Makes c.assembly links) (r.1.tray k).pending.toList sent)
          ∧ (¬ elapsed → sent = []) := by
  intro r
  have hempty := tray_new c links
  obtain ⟨ha, hsettings, hlinks, hspaced⟩ := (sender α).run_induction
    (P := fun a log => a.InOrder ∧ a.settings = c.assembly ∧ a.rangeLinks = links ∧ Spaced k interval a log)
    ⟨inOrder_of_empty hempty, rfl, rangeLinks_new c links, by rw [hempty]; rfl, .nil⟩
    (fun a log call ⟨ha, hsettings, hlinks, hspaced⟩ =>
      have hbooks := books_call ha call
      ⟨hbooks.inOrder ha, hbooks.settings.trans hsettings, hbooks.links.trans hlinks,
        hspaced.step ha (hsettings ▸ hk) call⟩)
    calls
  refine ⟨hspaced.apart.imp fun d e h => ?_, fun plan => ?_⟩
  · rw [Sending.lag]
    omega
  · have hdue := hspaced.isDue_iff plan.now
    have hcycle := assemble_category ha (hsettings ▸ hk) plan
    rw [hsettings, hlinks] at hcycle
    intro elapsed sent
    rcases hcycle with ⟨hyes, x, report, hpending, hmakes, hsent, -⟩ | ⟨hnot, hsent, -⟩
    · refine ⟨fun _ => ?_, fun hearly => absurd (hdue.mp hyes).2 hearly⟩
      rw [hpending, show sent = [report] from hsent]
      exact .cons hmakes .nil
    · refine ⟨fun helapsed => ?_, fun _ => hsent⟩
      -- the interval has passed, so nothing waits
      have hnone : (r.1.tray k).pending = none :=
        Option.not_isSome_iff_eq_none.mp fun hwaits => hnot (hdue.mpr ⟨hwaits, helapsed⟩)
      rw [hnone, show sent = [] from hsent]
      exact .nil

/-- Pressures every 12 ms, and a cycle every 4 ms that finds the newest of them. -/
def laggingPressures : List (Call Float) :=
  [.deliver ⟨0, .barometer 101325.0⟩, .assemble ⟨0, false, none⟩,
    .deliver ⟨12000, .barometer 101325.0⟩, .assemble ⟨12000, false, none⟩, .assemble ⟨16000, false, none⟩,
    .assemble ⟨20000, false, none⟩,
    .deliver ⟨24000, .barometer 101325.0⟩, .assemble ⟨24000, false, none⟩, .assemble ⟨28000, false, none⟩,
    .assemble ⟨32000, false, none⟩]

/-- A pressure that waited 8 ms lets the next report come 8 ms too early. -/
theorem waiting_shortens_interval :
    let sent := Category.barometer.sendings ((sender Float).run (.new .default []) laggingPressures).2
    (Config.default : Config Float).assembly.interval? .barometer = some 20000
      ∧ sent.map (fun d => (d.cycle, d.report.time)) = [(0, 0), (20000, 12000), (32000, 24000)]
      ∧ sent.IsChain fun d e => 20000 ≤ e.cycle - d.cycle + d.lag :=
  have hinterval : (Config.default : Config Float).assembly.interval? .barometer = some 20000 := by decide +kernel
  ⟨hinterval, by decide +kernel, (reports_apart_but_for_lag .default [] laggingPressures hinterval).1⟩

/-- Reports can come closer than their interval, although the cycles are in order and no sample is from later. -/
theorem reports_closer_than_interval :
    let sent := Category.barometer.sendings ((sender Float).run (.new .default []) laggingPressures).2
    (Config.default : Config Float).assembly.interval? .barometer = some 20000
      ∧ (laggingPressures.filterMap Call.cycle?).Pairwise (· ≤ ·)
      ∧ (∀ d ∈ sent, d.report.time ≤ d.cycle)
      ∧ ¬ sent.IsChain fun d e => 20000 ≤ e.cycle - d.cycle := by
  decide +kernel

end Assembler

end HilBridge
