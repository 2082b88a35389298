import HilBridge.Proofs.Rearranging
import HilBridge.Proofs.Sensor.Order

/-!
# `HilBridge.Proofs.Sensor.Independence` — deliveries of different lanes do not meet

A delivery belongs to the lane of its category, a distance to that of its link; starting the numbering over and
assembling concern all lanes. What a delivery does to an assembler is one `Change`: a sample enters the lane, or is
counted as stale, or goes nowhere. Which change it is can be read off the lane alone, which no change of another
lane touches (`change_make`), and changes of different lanes can be made in either order (`make_make`).

**Main statement.** `lanes_are_independent`: exchanging neighbouring deliveries of different lanes makes no
difference, and so none is made by the order across lanes between the cycles of a run.
-/

namespace HilBridge

variable {α : Type}

namespace Assembler

/-! ## Lanes -/

/-- The lane in which a delivery moves. -/
inductive Lane where
  | imu
  | pose
  | barometer
  | magnetometer
  | gps
  | range (link : String)
  deriving Repr, DecidableEq

instance : Nonempty Lane :=
  ⟨.imu⟩

/-- The lane of a reading. -/
def Reading.lane : Reading α → Lane
  | .pose _ => .pose
  | .imu _ => .imu
  | .barometer _ => .barometer
  | .magnetometer _ => .magnetometer
  | .gps _ => .gps

/-- The lane of a delivery. -/
def Call.lane? : Call α → Option Lane
  | .deliver sample => some (Reading.lane sample.value)
  | .storeImu _ => some .imu
  | .deliverRange link _ => some (.range link)
  | .resetSequence => none
  | .assemble _ => none

/-! ## The channel of a link -/

/-- The feed of the first channel of a link. -/
def feedOf? (link : String) : List (RangeChannel α) → Option (Feed α)
  | [] => none
  | channel :: rest => if channel.link.name = link then some channel.feed else feedOf? link rest

/-- Gives the first channel of a link another feed. -/
def setFeed (link : String) (feed : Feed α) : List (RangeChannel α) → List (RangeChannel α)
  | [] => []
  | channel :: rest =>
    if channel.link.name = link then { channel with feed } :: rest else channel :: setFeed link feed rest

theorem offerRange_eq (link : String) (sample : Stamped α) (channels : List (RangeChannel α)) :
    offerRange link sample channels
      = match (feedOf? link channels).map (·.offer? sample) with
        | none => (.unknownLink, channels)
        | some none => (.stale, channels)
        | some (some feed) => (.stored, setFeed link feed channels) := by
  induction channels with
  | nil => rfl
  | cons channel rest ih =>
    rw [offerRange, feedOf?]
    by_cases hname : channel.link.name = link
    · rw [if_pos hname, if_pos hname, Option.map_some]
      cases channel.feed.offer? sample with
      | none => rfl
      | some feed => simp [setFeed, hname]
    · rw [if_neg hname, if_neg hname, ih]
      cases (feedOf? link rest).map (·.offer? sample) with
      | none => rfl
      | some offered =>
        cases offered with
        | none => rfl
        | some feed => simp [setFeed, hname]

theorem feedOf?_setFeed {link other : String} (h : link ≠ other) (feed : Feed α)
    (channels : List (RangeChannel α)) :
    feedOf? link (setFeed other feed channels) = feedOf? link channels := by
  induction channels with
  | nil => rfl
  | cons channel rest ih =>
    by_cases hname : channel.link.name = other
    · simp [setFeed, feedOf?, hname, h.symm]
    · simp [setFeed, feedOf?, hname, ih]

theorem setFeed_comm {link other : String} (h : link ≠ other) (feed feed' : Feed α)
    (channels : List (RangeChannel α)) :
    setFeed link feed (setFeed other feed' channels) = setFeed other feed' (setFeed link feed channels) := by
  induction channels with
  | nil => rfl
  | cons channel rest ih =>
    by_cases hname : channel.link.name = other
    · simp [setFeed, hname, h.symm]
    · by_cases hlink : channel.link.name = link
      · simp [setFeed, hlink, h]
      · simp [setFeed, hname, hlink, ih]

/-! ## What a delivery does -/

/-- What a delivery changes. -/
inductive Change (α : Type) where
  | imu (sample : Stamped (ImuReading α))
  | pose (feed : Feed (Pose α))
  | barometer (feed : Feed α)
  | magnetometer (feed : Feed (Vec3 α))
  | gps (feed : Feed (GpsReading α))
  | range (link : String) (feed : Feed α)
  | stale
  | nothing

namespace Change

variable {β : Type}

/-- The change by a sample offered to a feed, of which `enter` says where it is. -/
def ofOffer (enter : Feed β → Change α) : Option (Feed β) → Change α
  | some feed => enter feed
  | none => .stale

/-- Whether a sample entered its lane. -/
def isKept : Change α → Bool
  | .stale => false
  | .nothing => false
  | _ => true

/-- The lane a sample entered. -/
def lane? : Change α → Option Lane
  | .imu _ => some .imu
  | .pose _ => some .pose
  | .barometer _ => some .barometer
  | .magnetometer _ => some .magnetometer
  | .gps _ => some .gps
  | .range link _ => some (.range link)
  | .stale => none
  | .nothing => none

theorem lane_ofOffer {enter : Feed β → Change α} {lane : Lane} (h : ∀ feed, (enter feed).lane? = some lane)
    (offered : Option (Feed β)) : ∀ i ∈ (ofOffer enter offered).lane?, i = lane := by
  cases offered with
  | none => exact fun _ hi => nomatch hi
  | some feed => exact fun i hi => (Option.some.inj ((h feed).symm.trans hi)).symm

/-- The assembler with the change made. -/
def make (a : Assembler α) : Change α → Assembler α
  | .imu sample => (a.storeImu sample).2
  | .pose feed => { a with pose := feed }
  | .barometer feed => { a with barometer := feed }
  | .magnetometer feed => { a with magnetometer := feed }
  | .gps feed => { a with gps := feed }
  | .range link feed => { a with ranges := setFeed link feed a.ranges }
  | .stale => a.dropStale
  | .nothing => a

/-- Changes of different lanes can be made in either order. -/
theorem make_make {c d : Change α} (h : ∀ lane ∈ c.lane?, lane ∉ d.lane?) (a : Assembler α) :
    d.make (c.make a) = c.make (d.make a) := by
  cases c with
  | range link feed =>
    cases d with
    | range other feed' =>
      -- the only lanes that are kept in one list
      have hne : other ≠ link := fun hlink => h (.range link) rfl (congrArg _ (congrArg _ hlink))
      exact congrArg (fun ranges => { a with ranges }) (setFeed_comm hne feed' feed a.ranges)
    | _ => rfl
  | _ => cases d <;> first | rfl | exact absurd rfl (h _ rfl)

end Change

namespace Call

/-- What a delivery changes. Other calls count for nothing here. -/
def change (a : Assembler α) : Call α → Change α
  | .deliver sample =>
    match sample.value with
    | .pose pose => .ofOffer .pose (a.pose.offer? ⟨sample.time, pose⟩)
    | .imu reading =>
      if a.lastImuSent.any (sample.time < ·) then .stale else .imu ⟨sample.time, reading⟩
    | .barometer pressure => .ofOffer .barometer (a.barometer.offer? ⟨sample.time, pressure⟩)
    | .magnetometer field => .ofOffer .magnetometer (a.magnetometer.offer? ⟨sample.time, field⟩)
    | .gps reading => .ofOffer .gps (a.gps.offer? ⟨sample.time, reading⟩)
  | .storeImu sample => .imu sample
  | .deliverRange link sample =>
    match feedOf? link a.ranges with
    | some feed => .ofOffer (.range link) (feed.offer? sample)
    | none => .nothing
  | .resetSequence => .nothing
  | .assemble _ => .nothing

variable {a : Assembler α}

theorem deliver_eq (sample : Sample α) :
    a.deliver sample = ((change a (.deliver sample)).isKept, (change a (.deliver sample)).make a) := by
  obtain ⟨time, reading⟩ := sample
  cases reading with
  | imu reading =>
    by_cases hstale : a.lastImuSent.any (time < ·) = true
    · simp only [Assembler.deliver, change, if_pos hstale]
      rfl
    · simp only [Assembler.deliver, change, if_neg hstale]
      rfl
  | _ =>
    simp only [Assembler.deliver, change]
    split <;> rename_i hoffer <;> rw [hoffer] <;> rfl

theorem deliverRange_eq (link : String) (sample : Stamped α) :
    a.deliverRange link sample
      = ((change a (.deliverRange link sample)).isKept, (change a (.deliverRange link sample)).make a) := by
  rw [Assembler.deliverRange, offerRange_eq]
  cases hfeed : feedOf? link a.ranges with
  | none => simp [change, hfeed, Change.isKept, Change.make]
  | some feed =>
    cases hoffer : feed.offer? sample with
    | none => simp [change, hfeed, hoffer, Change.ofOffer, Change.isKept, Change.make]
    | some feed => simp [change, hfeed, hoffer, Change.ofOffer, Change.isKept, Change.make]

/-- A change is one of the lane of its delivery. -/
theorem lane_change {x : Call α} {lane : Lane} (h : x.lane? = some lane) (a : Assembler α) :
    ∀ i ∈ (x.change a).lane?, i = lane := by
  cases x with
  | deliver sample =>
    obtain ⟨time, reading⟩ := sample
    cases h
    cases reading with
    | imu reading =>
      simp only [change]
      split
      · exact fun _ hi => nomatch hi
      · exact fun i hi => (Option.some.inj hi).symm
    | _ => exact Change.lane_ofOffer (fun _ => rfl) _
  | storeImu sample => exact fun i hi => Option.some.inj (hi.symm.trans h)
  | deliverRange link sample =>
    cases h
    simp only [change]
    split
    · exact Change.lane_ofOffer (fun _ => rfl) _
    · exact fun _ hi => nomatch hi
  | resetSequence => cases h
  | assemble plan => cases h

/-- What a delivery changes does not depend on changes of other lanes. -/
theorem change_make {x : Call α} {lane : Lane} (h : x.lane? = some lane) {c : Change α} (hc : lane ∉ c.lane?)
    (a : Assembler α) : x.change (c.make a) = x.change a := by
  cases x with
  | deliver sample =>
    obtain ⟨time, reading⟩ := sample
    cases h
    cases reading <;> cases c <;> first | rfl | exact absurd rfl hc
  | storeImu sample => rfl
  | deliverRange link sample =>
    cases h
    cases c with
    | range other feed =>
      have hne : link ≠ other := fun hlink => hc (congrArg _ (congrArg _ hlink.symm))
      simp only [change, Change.make, feedOf?_setFeed hne]
    | _ => rfl
  | resetSequence => cases h
  | assemble plan => cases h

/-- What a call returns; of a cycle, the reports with the statistics after them. -/
inductive Answer (α : Type) where
  | kept (kept : Bool)
  | number (seq : UInt8)
  | done
  | reports (reports : List (Stamped (Report α))) (stats : AssemblyStats)
  deriving Repr, DecidableEq

variable [Scalar α]

/-- What a call of an assembler returns. -/
def answer (a : Assembler α) : Call α → Answer α
  | .deliver sample => .kept (a.deliver sample).1
  | .storeImu sample => .number (a.storeImu sample).1
  | .deliverRange link sample => .kept (a.deliverRange link sample).1
  | .resetSequence => .done
  | .assemble plan => .reports (a.assemble plan).1 (a.assemble plan).2.stats

/-- A delivery makes its change. -/
theorem apply_eq_make {x : Call α} {lane : Lane} (h : x.lane? = some lane) (a : Assembler α) :
    x.apply a = (x.change a).make a := by
  cases x with
  | deliver sample => exact congrArg Prod.snd (deliver_eq sample)
  | storeImu sample => rfl
  | deliverRange link sample => exact congrArg Prod.snd (deliverRange_eq link sample)
  | resetSequence => cases h
  | assemble plan => cases h

/-- What a delivery returns does not depend on changes of other lanes. -/
theorem answer_make {x : Call α} {lane : Lane} (h : x.lane? = some lane) {c : Change α} (hc : lane ∉ c.lane?)
    (a : Assembler α) : x.answer (c.make a) = x.answer a := by
  have hchange := change_make h hc a
  cases x with
  | deliver sample => rw [answer, answer, deliver_eq, deliver_eq, hchange]
  | storeImu sample =>
    cases h
    cases c <;> first | rfl | exact absurd rfl hc
  | deliverRange link sample => rw [answer, answer, deliverRange_eq, deliverRange_eq, hchange]
  | resetSequence => cases h
  | assemble plan => cases h

/-- Of deliveries in different lanes, the one coming later does as if it came alone. -/
theorem change_apply {x y : Call α} (h : Apart lane? x y) (a : Assembler α) :
    y.change (x.apply a) = y.change a ∧ y.answer (x.apply a) = y.answer a := by
  obtain ⟨i, j, hx, hy, hne⟩ := h
  have hlane : j ∉ (x.change a).lane? := fun hj => hne (lane_change hx a j hj).symm
  rw [apply_eq_make hx]
  exact ⟨change_make hy hlane a, answer_make hy hlane a⟩

theorem apply_comm {x y : Call α} (h : Apart lane? x y) (a : Assembler α) :
    y.apply (x.apply a) = x.apply (y.apply a) := by
  obtain ⟨i, j, hx, hy, hne⟩ := id h
  have hlanes : ∀ lane ∈ (x.change a).lane?, lane ∉ (y.change a).lane? := fun lane hlane hlane' =>
    hne ((lane_change hx a lane hlane).symm.trans (lane_change hy a lane hlane'))
  rw [apply_eq_make hy (x.apply a), (change_apply h a).1, apply_eq_make hx (y.apply a), (change_apply h.symm a).1,
    apply_eq_make hx, apply_eq_make hy, Change.make_make hlanes]

end Call

/-! ## The theorem -/

/-- Runs of an assembler with every call and what it returned. -/
def answerer (α : Type) [Scalar α] : Recorder (Assembler α) (Call α) (Call α × Call.Answer α) :=
  .answering Call.apply Call.answer

/-- What a cycle put out, and the statistics after it. -/
def cycle? : Call α × Call.Answer α → Option (List (Stamped (Report α)) × AssemblyStats)
  | (.assemble _, .reports reports stats) => some (reports, stats)
  | _ => none

/-- A cycle shows in every lane. -/
theorem filterMap_cycle? (lane : Lane) (record : List (Call α × Call.Answer α)) :
    (record.filter fun r => sees Call.lane? lane r.1).filterMap cycle? = record.filterMap cycle? := by
  rw [List.filterMap_filter]
  congr 1
  funext ⟨call, answer⟩
  cases call with
  | assemble plan => rfl
  | _ => exact ite_self none

variable [Scalar α]

/--
**Lanes are independent.** Two neighbouring deliveries of different lanes can be exchanged: they leave the same
assembler and return the same. So if two runs agree in what each lane sees, that is in the order of its own deliveries
and in which of them come before which cycle, they end with the same assembler, every delivery returns the same in
both, and every cycle puts out the same reports with the same statistics.
-/
theorem lanes_are_independent (a : Assembler α) :
    (∀ x y : Call α, Apart Call.lane? x y →
      y.apply (x.apply a) = x.apply (y.apply a)
        ∧ y.answer (x.apply a) = y.answer a ∧ x.answer (y.apply a) = x.answer a)
      ∧ ∀ xs ys : List (Call α),
        (∀ lane, xs.filter (sees Call.lane? lane) = ys.filter (sees Call.lane? lane)) →
          let r := (answerer α).run a xs
          let r' := (answerer α).run a ys
          r.1 = r'.1
            ∧ (∀ lane, r.2.filter (fun e => sees Call.lane? lane e.1) = r'.2.filter fun e => sees Call.lane? lane e.1)
            ∧ r.2.filterMap cycle? = r'.2.filterMap cycle? := by
  constructor
  · intro x y h
    exact ⟨Call.apply_comm h a, (Call.change_apply h a).2, (Call.change_apply h.symm a).2⟩
  · intro xs ys h r r'
    obtain ⟨hend, hrecord⟩ := Recorder.run_rearranged (fun b x y h => Call.apply_comm h b)
      (fun b x y h => (Call.change_apply h b).2) (rearranged_of_filter_eq h) a
    refine ⟨hend, hrecord, ?_⟩
    calc r.2.filterMap cycle?
        = (r.2.filter fun e => sees Call.lane? .imu e.1).filterMap cycle? := (filterMap_cycle? .imu r.2).symm
      _ = (r'.2.filter fun e => sees Call.lane? .imu e.1).filterMap cycle? := congrArg _ (hrecord .imu)
      _ = r'.2.filterMap cycle? := filterMap_cycle? .imu r'.2

/-- A pressure and two distances arrive around an inertial sample, in two orders. -/
theorem lanes_in_two_orders :
    let a : Assembler Float := .new .default [⟨"front", .sonar⟩, ⟨"down", .lidar⟩]
    let pressure : Call Float := .deliver ⟨4000, .barometer 101325.0⟩
    let inertial : Call Float := .storeImu ⟨4000, ⟨⟨0.0, 0.0, 0.0⟩, ⟨0.0, 0.0, 9.8⟩⟩⟩
    let front : Call Float := .deliverRange "front" ⟨4000, 2.0⟩
    let down : Call Float := .deliverRange "down" ⟨3000, 5.0⟩
    let cycle : Call Float := .assemble ⟨4000, true, some 1⟩
    let xs := [pressure, inertial, front, down, cycle]
    let ys := [down, front, inertial, pressure, cycle]
    let r := (answerer Float).run a xs
    let r' := (answerer Float).run a ys
    Apart Call.lane? front down
      ∧ down.apply (front.apply a) = front.apply (down.apply a)
      ∧ (∀ lane, xs.filter (sees Call.lane? lane) = ys.filter (sees Call.lane? lane))
      ∧ r.1 = r'.1 ∧ (r.2.filterMap cycle?).map (·.1.length) = [4]
      ∧ r.2.filterMap cycle? = r'.2.filterMap cycle? := by
  intro a pressure inertial front down cycle xs ys r r'
  have hapart : Apart Call.lane? front down := ⟨_, _, rfl, rfl, by decide⟩
  have hsame : ∀ lane, xs.filter (sees Call.lane? lane) = ys.filter (sees Call.lane? lane) := by
    intro lane
    cases lane with
    | range link =>
      by_cases hfront : "front" = link
      · subst hfront
        rfl
      · by_cases hdown : "down" = link
        · subst hdown
          rfl
        · simp [xs, ys, pressure, inertial, front, down, cycle, sees, Call.lane?, Reading.lane, hfront, hdown]
    | _ => rfl
  have hruns := (lanes_are_independent a).2 xs ys hsame
  exact ⟨hapart, ((lanes_are_independent a).1 front down hapart).1, hsame, hruns.1, by decide, hruns.2.2⟩

end Assembler

end HilBridge
