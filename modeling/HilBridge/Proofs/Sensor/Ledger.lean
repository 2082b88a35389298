import HilBridge.Sensor.Assembler
import Mathlib.Data.List.Basic
import Mathlib.Data.List.Forall2

/-!
# `HilBridge.Proofs.Sensor.Ledger` — what becomes of samples, category by category

A ledger lists what became of samples: they were accepted, refused for their age, turned into a report, or
discarded when their report was due. The entries of different categories have nothing to do with each other,
so everything is said of one category at a time: of a `Tray`, in which at most one sample waits, and the
entries that move it.

`Tray.Step` says what an entry does to the tray, and when there can be one. That an assembler keeps to it is
proved elsewhere; here it is shown what a ledger looks like along which an empty tray has moved (`Steps`):

* the sample that waits is the one accepted last, if nothing has become of it (`pending_eq`);
* a report is made from the sample accepted last, and nothing has become of that before (`preceded`), so
  the reports are made from samples one by one and in their order (`made_in_order`);
* no report is older than one before it (`times_pairwise`).
-/

namespace HilBridge

variable {α : Type}

/-! ## Samples and entries -/

/-- What samples are kept apart by: their sensor, where a range sensor is known by its position. -/
inductive Category where
  | imu
  | barometer
  | magnetometer
  | gps
  | pose
  | range (channel : Nat)
  deriving Repr, DecidableEq

/-- Whether a report is of a kind that the category has. -/
def Category.covers : Category → Report α → Bool
  | .imu, .imu _ => true
  | .barometer, .barometer _ => true
  | .magnetometer, .magnetometer _ => true
  | .gps, .gps _ => true
  | .pose, .groundTruth _ => true
  | .range _, .range _ => true
  | _, _ => false

/-- A sample that was accepted, inertial ones with the number that they got. -/
inductive Arrival (α : Type) where
  | imu (sample : Numbered (Stamped (ImuReading α)))
  | barometer (sample : Stamped α)
  | magnetometer (sample : Stamped (Vec3 α))
  | gps (sample : Stamped (GpsReading α))
  | pose (sample : Stamped (Pose α))
  | range (channel : Nat) (sample : Stamped α)
  deriving Repr, DecidableEq

namespace Arrival

def category : Arrival α → Category
  | .imu _ => .imu
  | .barometer _ => .barometer
  | .magnetometer _ => .magnetometer
  | .gps _ => .gps
  | .pose _ => .pose
  | .range channel _ => .range channel

def time : Arrival α → Nat
  | .imu sample => sample.value.time
  | .barometer sample => sample.time
  | .magnetometer sample => sample.time
  | .gps sample => sample.time
  | .pose sample => sample.time
  | .range _ sample => sample.time

/-- Whether the report is one that the sample makes. Only the noise and the motion before are left open. -/
def Makes [Scalar α] (s : AssemblySettings α) (links : List RangeLink) :
    Arrival α → Stamped (Report α) → Prop
  | .imu x, report => report = ⟨x.value.time, .imu (s.imuReport x)⟩
  | .barometer x, report => ∃ noise, report = ⟨x.time, .barometer (s.barometerReport noise x.value).1⟩
  | .magnetometer x, report =>
    ∃ noise, report = ⟨x.time, .magnetometer (s.magnetometerReport noise x.value).1⟩
  | .gps x, report => ∃ noise, report = ⟨x.time, .gps (s.gpsReport noise x.value).1⟩
  | .pose x, report => ∃ before, report = ⟨x.time, .groundTruth (s.truthReport before x).1⟩
  | .range channel x, report =>
    ∃ link, links[channel]? = some link ∧ report = ⟨x.time, .range (rangeReport link.kind x.value)⟩

section
variable [Scalar α] {s : AssemblySettings α} {links : List RangeLink} {x : Arrival α}
  {report : Stamped (Report α)}

/-- A report has the time of its sample. -/
theorem Makes.time (h : x.Makes s links report) : report.time = x.time := by
  cases x with
  | imu x => rw [h]; rfl
  | barometer x => obtain ⟨_, rfl⟩ := h; rfl
  | magnetometer x => obtain ⟨_, rfl⟩ := h; rfl
  | gps x => obtain ⟨_, rfl⟩ := h; rfl
  | pose x => obtain ⟨_, rfl⟩ := h; rfl
  | range channel x => obtain ⟨_, _, rfl⟩ := h; rfl

/-- A report is of the kind that its sample's category has. -/
theorem Makes.covers (h : x.Makes s links report) : x.category.covers report.value = true := by
  cases x with
  | imu x => rw [h]; rfl
  | barometer x => obtain ⟨_, rfl⟩ := h; rfl
  | magnetometer x => obtain ⟨_, rfl⟩ := h; rfl
  | gps x => obtain ⟨_, rfl⟩ := h; rfl
  | pose x => obtain ⟨_, rfl⟩ := h; rfl
  | range channel x => obtain ⟨_, _, rfl⟩ := h; rfl

end

end Arrival

/-- What became of a sample. -/
inductive Entry (α : Type) where
  /-- It waits for its report, in the place of any that waited before. -/
  | accepted (sample : Arrival α)
  /-- It was older than the last report when it was delivered. -/
  | refused (category : Category)
  /-- The sample that waited was turned into a report. -/
  | reported (category : Category) (report : Stamped (Report α))
  /-- The inertial sample that waited was older than the last report when its own was due. -/
  | discarded
  deriving Repr, DecidableEq

namespace Entry

/-- Whether the entry changes what waits in a category. -/
def moves (k : Category) : Entry α → Bool
  | .accepted sample => sample.category = k
  | .refused _ => false
  | .reported category _ => category = k
  | .discarded => k = .imu

/-- Whether a sample was lost for its age. -/
def isStale : Entry α → Bool
  | .refused _ => true
  | .discarded => true
  | .accepted _ => false
  | .reported .. => false

/-- The sample that was accepted. -/
def arrival? : Entry α → Option (Arrival α)
  | .accepted sample => some sample
  | .refused _ => none
  | .reported .. => none
  | .discarded => none

/-- The report that was made. -/
def report? : Entry α → Option (Stamped (Report α))
  | .reported _ report => some report
  | .accepted _ => none
  | .refused _ => none
  | .discarded => none

end Entry

/-- What became of samples, oldest first. -/
abbrev Ledger (α : Type) := List (Entry α)

namespace Ledger

/-- The entries that change what waits in a category. -/
def moving (l : Ledger α) (k : Category) : Ledger α :=
  l.filter (Entry.moves k)

def arrivals (l : Ledger α) : List (Arrival α) :=
  l.filterMap Entry.arrival?

def reports (l : Ledger α) : List (Stamped (Report α)) :=
  l.filterMap Entry.report?

@[simp]
theorem moving_append (l m : Ledger α) (k : Category) : moving (l ++ m) k = l.moving k ++ m.moving k :=
  List.filter_append ..

/-- A sample whose acceptance is among the entries of a category is of the category. -/
theorem category_of_mem_moving {l : Ledger α} {k : Category} {x : Arrival α}
    (h : .accepted x ∈ l.moving k) : x.category = k := by
  simpa [Entry.moves] using (List.mem_filter.mp h).2

@[simp]
theorem reports_append (l m : Ledger α) : reports (l ++ m) = l.reports ++ m.reports :=
  List.filterMap_append ..

@[simp]
theorem arrivals_append (l m : Ledger α) : arrivals (l ++ m) = l.arrivals ++ m.arrivals :=
  List.filterMap_append ..

@[simp]
theorem reports_singleton (e : Entry α) : reports [e] = e.report?.toList := by
  cases e <;> rfl

@[simp]
theorem arrivals_singleton (e : Entry α) : arrivals [e] = e.arrival?.toList := by
  cases e <;> rfl

end Ledger

/-! ## Trays -/

/-- What can be seen of a category: the sample that waits, and the time of the last report. -/
structure Tray (α : Type) where
  pending : Option (Arrival α)
  lastSent : Option Nat
  deriving Repr, DecidableEq

namespace Tray

def empty : Tray α :=
  ⟨none, none⟩

section
variable [Scalar α] (s : AssemblySettings α) (links : List RangeLink)

/-- What an entry does to the tray that it moves. -/
inductive Step : Tray α → Entry α → Tray α → Prop
  /-- Only inertial samples can be accepted although they are older than the last report. -/
  | accept (t : Tray α) (x : Arrival α) (fresh : x.category = .imu ∨ ∀ time ∈ t.lastSent, time ≤ x.time) :
    Step t (.accepted x) ⟨some x, t.lastSent⟩
  | report (t : Tray α) (x : Arrival α) (k : Category) (report : Stamped (Report α))
      (pending : t.pending = some x) (fresh : ∀ time ∈ t.lastSent, time ≤ x.time)
      (made : x.Makes s links report) :
    Step t (.reported k report) ⟨none, some x.time⟩
  | discard (t : Tray α) (x : Arrival α) (pending : t.pending = some x)
      (stale : ∃ time ∈ t.lastSent, x.time < time) :
    Step t .discarded ⟨none, t.lastSent⟩

/-- The tray has moved along some entries. -/
inductive Steps (t : Tray α) : Ledger α → Tray α → Prop
  | refl : Steps t [] t
  | tail {l : Ledger α} {u v : Tray α} {e : Entry α} : Steps t l u → Step s links u e v → Steps t (l ++ [e]) v

end

variable [Scalar α] {s : AssemblySettings α} {links : List RangeLink} {t u v : Tray α} {l m : Ledger α}

theorem Steps.single {e : Entry α} (h : Step s links t e u) : Steps s links t [e] u :=
  .tail .refl h

theorem Steps.trans (h : Steps s links t l u) (k : Steps s links u m v) : Steps s links t (l ++ m) v := by
  induction k with
  | refl => rwa [List.append_nil]
  | tail _ hstep ih =>
    rw [← List.append_assoc]
    exact ih.tail hstep

/-- What no entry moves stays. -/
theorem Steps.eq_of_nil (h : Steps s links t l u) (hl : l = []) : u = t := by
  cases h with
  | refl => rfl
  | tail _ _ => simp at hl

/-- Along one entry there is one step. -/
theorem Steps.step_of_single {e : Entry α} (h : Steps s links t [e] u) : Step s links t e u := by
  generalize hl : [e] = l at h
  cases h with
  | refl => cases hl
  | tail hfirst hstep =>
    rw [← List.nil_append [e]] at hl
    obtain ⟨hnil, hlast⟩ := List.append_inj' hl rfl
    rw [hfirst.eq_of_nil hnil.symm] at hstep
    cases hlast
    exact hstep

/-! ## What stays true of a tray -/

/-- What waits is no older than the last report, but for inertial samples. -/
def IsFresh (t : Tray α) : Prop :=
  ∀ x ∈ t.pending, x.category = .imu ∨ ∀ time ∈ t.lastSent, time ≤ x.time

theorem Steps.isFresh (h : Steps s links t l u) (ht : t.IsFresh) : u.IsFresh := by
  induction h with
  | refl => exact ht
  | tail _ hstep _ =>
    cases hstep with
    | accept x fresh =>
      intro y hy
      obtain rfl := Option.some.inj hy
      exact fresh
    | report x k report _ _ _ => exact nofun
    | discard x _ _ => exact nofun

/-- Neither what waits nor what was reported is later than a moment. -/
def NotAfter (t : Tray α) (now : Nat) : Prop :=
  (∀ x ∈ t.pending, x.time ≤ now) ∧ ∀ time ∈ t.lastSent, time ≤ now

omit [Scalar α] in
theorem NotAfter.mono {now later : Nat} (h : t.NotAfter now) (hle : now ≤ later) : t.NotAfter later :=
  ⟨fun x hx => Nat.le_trans (h.1 x hx) hle, fun time htime => Nat.le_trans (h.2 time htime) hle⟩

/-- A tray gets nothing later than the samples that are accepted. -/
theorem Steps.notAfter (h : Steps s links t l u) {now : Nat} (ht : t.NotAfter now)
    (hl : ∀ x ∈ l.arrivals, x.time ≤ now) : u.NotAfter now := by
  induction h with
  | refl => exact ht
  | tail _ hstep ih =>
    rw [Ledger.arrivals_append] at hl
    have hu := ih fun x hx => hl x (List.mem_append_left _ hx)
    cases hstep with
    | accept x _ =>
      refine ⟨fun y hy => ?_, hu.2⟩
      obtain rfl := Option.some.inj hy
      exact hl _ (List.mem_append_right _ (by simp [Entry.arrival?]))
    | report x k report pending _ _ =>
      refine ⟨nofun, fun time htime => ?_⟩
      obtain rfl := Option.some.inj htime
      exact hu.1 x pending
    | discard x _ _ => exact ⟨nofun, hu.2⟩

/-- Without new samples at most the one that waits is used up. -/
theorem Steps.length_le_one (h : Steps s links t l u) (hl : ∀ e ∈ l, e.arrival? = none) : l.length ≤ 1 := by
  suffices l.length ≤ 1 ∧ (l ≠ [] → u.pending = none) from this.1
  induction h with
  | refl => simp
  | @tail front u v e hfront hstep ih =>
    obtain ⟨-, hempty⟩ := ih fun d hd => hl d (List.mem_append_left _ hd)
    have he := hl e (by simp)
    -- whoever is not accepted has waited, so that nothing was used up before
    have hwaited : u.pending ≠ none ∧ v.pending = none := by
      cases hstep with
      | accept x _ => cases he
      | report x k report pending _ _ => exact ⟨by simp [pending], rfl⟩
      | discard x pending _ => exact ⟨by simp [pending], rfl⟩
    have hnil : front = [] := by
      by_contra hne
      exact hwaited.1 (hempty hne)
    rw [hnil]
    exact ⟨Nat.le_refl 1, fun _ => hwaited.2⟩

/-! ## Ledgers of a tray that was empty -/

section
variable (h : Steps s links empty l t)
include h

/-- What waits was accepted last, and nothing has become of it. -/
theorem pending_eq : t.pending = l.getLast?.bind Entry.arrival? := by
  cases h with
  | refl => rfl
  | tail _ hstep =>
    rw [List.getLast?_concat]
    cases hstep with
    | accept x _ => rfl
    | report x k report _ _ _ => rfl
    | discard x _ _ => rfl

/-- A report is made from the sample accepted right before it, and a discarded sample was too. -/
theorem preceded {before after : Ledger α} {e : Entry α} (hsplit : l = before ++ e :: after)
    (he : e.arrival? = none) :
    ∃ earlier x, before = earlier ++ [.accepted x] ∧ ∀ report ∈ e.report?, x.Makes s links report := by
  induction h generalizing after with
  | refl => simp at hsplit
  | @tail front u v last hfront hstep ih =>
    rcases List.eq_nil_or_concat after with rfl | ⟨rest, d, rfl⟩
    · -- the last entry: the sample that waited before it is what the entries before end with
      obtain ⟨rfl, hlast⟩ : front = before ∧ last = e := by
        simpa using List.append_inj' hsplit rfl
      subst hlast
      have hpending := pending_eq hfront
      have hend : ∀ x, u.pending = some x → ∃ earlier, front = earlier ++ [.accepted x] := by
        intro x hx
        rw [hx] at hpending
        obtain ⟨d, hd, harrival⟩ := Option.bind_eq_some_iff.mp hpending.symm
        obtain ⟨earlier, hearlier⟩ := List.getLast?_eq_some_iff.mp hd
        cases d with
        | accepted y =>
          obtain rfl := Option.some.inj harrival
          exact ⟨earlier, hearlier⟩
        | _ => cases harrival
      cases hstep with
      | accept x _ => cases he
      | report x k report pending _ made =>
        obtain ⟨earlier, hearlier⟩ := hend x pending
        refine ⟨earlier, x, hearlier, fun r hr => ?_⟩
        obtain rfl := Option.some.inj hr
        exact made
      | discard x pending _ =>
        obtain ⟨earlier, hearlier⟩ := hend x pending
        exact ⟨earlier, x, hearlier, nofun⟩
    · have hinit : front ++ [last] = (before ++ e :: rest) ++ [d] := by
        rw [hsplit]
        simp
      exact ih (List.append_inj' hinit rfl).1

/-- The reports are made from some of the accepted samples, each from one of its own, in their order. -/
theorem made_in_order : ∃ used, used.Sublist l.arrivals
    ∧ List.Forall₂ (Arrival.Makes s links) used l.reports := by
  -- the sample that waits has not been used, and comes behind all that have
  suffices ∃ used, (used ++ t.pending.toList).Sublist l.arrivals
      ∧ List.Forall₂ (Arrival.Makes s links) used l.reports by
    obtain ⟨used, hsub, hmade⟩ := this
    exact ⟨used, (List.sublist_append_left used _).trans hsub, hmade⟩
  induction h with
  | refl => exact ⟨[], .refl [], .nil⟩
  | tail _ hstep ih =>
    obtain ⟨used, hsub, hmade⟩ := ih
    rw [Ledger.arrivals_append, Ledger.reports_append]
    cases hstep with
    | accept x _ =>
      refine ⟨used, ?_, by simpa [Entry.report?] using hmade⟩
      exact ((List.sublist_append_left used _).trans hsub).append (.refl [x])
    | report x k report pending _ made =>
      rw [pending] at hsub
      exact ⟨used ++ [x], by simpa using hsub.trans (List.sublist_append_left _ _),
        List.rel_append hmade (.cons made .nil)⟩
    | discard x pending _ =>
      refine ⟨used, ?_, by simpa [Entry.report?] using hmade⟩
      simpa using ((List.sublist_append_left used _).trans hsub).trans (List.sublist_append_left _ _)

/-- The time of the last report is remembered, and none before it is later. -/
theorem times_pairwise : (l.reports.map (·.time)).Pairwise (· ≤ ·)
    ∧ ∀ time ∈ l.reports.map (·.time), ∃ last ∈ t.lastSent, time ≤ last := by
  induction h with
  | refl => simp [Ledger.reports]
  | tail _ hstep ih =>
    obtain ⟨hpairwise, hlast⟩ := ih
    rw [Ledger.reports_append, List.map_append]
    cases hstep with
    | accept x _ =>
      rw [Ledger.reports_singleton, Entry.report?, Option.toList_none, List.map_nil, List.append_nil]
      exact ⟨hpairwise, hlast⟩
    | discard x _ _ =>
      rw [Ledger.reports_singleton, Entry.report?, Option.toList_none, List.map_nil, List.append_nil]
      exact ⟨hpairwise, hlast⟩
    | report x k report _ fresh made =>
      -- what is remembered bounds all reports before, and the new one is not older than that
      have hle : ∀ time ∈ List.map (·.time) (Ledger.reports _), time ≤ x.time := fun time htime => by
        obtain ⟨last, hmem, hle⟩ := hlast time htime
        exact Nat.le_trans hle (fresh last hmem)
      have hnew : List.map (·.time) (Ledger.reports [Entry.reported k report]) = [x.time] := by
        rw [← made.time]
        rfl
      rw [hnew, List.pairwise_append]
      refine ⟨⟨hpairwise, List.pairwise_singleton _ _, fun a ha b hb => ?_⟩, fun time htime => ⟨x.time, rfl, ?_⟩⟩
      · rw [List.mem_singleton.mp hb]
        exact hle a ha
      · rcases List.mem_append.mp htime with htime | htime
        · exact hle time htime
        · exact Nat.le_of_eq (List.mem_singleton.mp htime)

end

/-! ## Ledgers of a category -/

section
variable {k : Category} (h : Steps s links empty (l.moving k) t)
include h

/-- What becomes of a sample that was accepted: it waits, or the next entry replaces it or is about it. -/
theorem fate {before after : Ledger α} {x : Arrival α} (hsplit : l.moving k = before ++ .accepted x :: after) :
    (after = [] ∧ t.pending = some x)
      ∨ (∃ newer rest, after = .accepted newer :: rest)
      ∨ (∃ report rest, after = .reported k report :: rest ∧ x.Makes s links report)
      ∨ (k = .imu ∧ ∃ rest, after = .discarded :: rest) := by
  cases after with
  | nil =>
    refine .inl ⟨rfl, ?_⟩
    rw [pending_eq h, hsplit, List.getLast?_concat]
    rfl
  | cons e rest =>
    have hagain : l.moving k = before ++ [.accepted x] ++ e :: rest := by rw [hsplit, List.append_cons]
    have hmoves : e.moves k = true := by
      have he : e ∈ l.moving k := by
        rw [hagain]
        simp
      exact (List.mem_filter.mp he).2
    cases e with
    | accepted newer => exact .inr (.inl ⟨newer, rest, rfl⟩)
    | refused j => cases hmoves
    | reported j report =>
      obtain rfl : j = k := of_decide_eq_true hmoves
      obtain ⟨earlier, y, hlast, hmakes⟩ := preceded h hagain rfl
      obtain rfl : x = y := by simpa using (List.append_inj' hlast rfl).2
      exact .inr (.inr (.inl ⟨report, rest, rfl, hmakes report rfl⟩))
    | discarded => exact .inr (.inr (.inr ⟨of_decide_eq_true hmoves, rest, rfl⟩))

/-- The reports of a category are of its kind. -/
theorem covers_of_mem_reports {report : Stamped (Report α)} (hreport : report ∈ (l.moving k).reports) :
    k.covers report.value = true := by
  obtain ⟨e, he, hr⟩ := List.mem_filterMap.mp hreport
  obtain ⟨before, after, hsplit⟩ := List.append_of_mem he
  have hnone : e.arrival? = none := by
    cases e with
    | reported _ _ => rfl
    | _ => cases hr
  obtain ⟨earlier, x, hbefore, hmakes⟩ := preceded h hsplit hnone
  have hcategory : x.category = k := by
    refine Ledger.category_of_mem_moving (l := l) ?_
    rw [hsplit, hbefore]
    simp
  rw [← hcategory]
  exact (hmakes report hr).covers

omit h in
/-- The one report that some entries make is made from the sample that was accepted last before them. -/
theorem latest (h : Steps s links empty (Ledger.moving (l ++ m) k) t) (hone : (m.moving k).length ≤ 1)
    {report : Stamped (Report α)} (hreport : .reported k report ∈ m) :
    ∃ x, (l.moving k).getLast? = some (.accepted x) ∧ x.Makes s links report := by
  have hmem : .reported k report ∈ m.moving k :=
    List.mem_filter.mpr ⟨hreport, decide_eq_true (rfl : k = k)⟩
  have hsplit : Ledger.moving (l ++ m) k = l.moving k ++ .reported k report :: [] := by
    rw [Ledger.moving_append]
    rcases hm : m.moving k with _ | ⟨e, _ | ⟨d, rest⟩⟩
    · rw [hm] at hmem
      cases hmem
    · rw [hm] at hmem
      rw [List.mem_singleton.mp hmem]
    · rw [hm] at hone
      simp at hone
  obtain ⟨earlier, x, hlast, hmakes⟩ := preceded h hsplit rfl
  refine ⟨x, ?_, hmakes report rfl⟩
  rw [hlast, List.getLast?_concat]

end

end Tray

end HilBridge
