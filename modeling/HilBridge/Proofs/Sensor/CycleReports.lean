import HilBridge.Proofs.Sensor.Bookkeeping

/-!
# `HilBridge.Proofs.Sensor.CycleReports` — what a cycle reports of each kind

A cycle takes the samples of the categories one after another, and none of these operations touches what a later one
takes. So the reports of a kind in a cycle are what its own operation makes of the assembler as it was before the cycle,
up to the noise that has been drawn by then (`imuReports_cycle`, `barometerReports_cycle`, `gpsReports_cycle`,
`truthReports_cycle`). No other operation touches the poses and what is remembered of the motion (`truth_cycle`).
-/

namespace HilBridge

variable {α β γ : Type}

namespace Report

def imu? : Report α → Option (ImuReport α)
  | .imu report => some report
  | _ => none

def barometer? : Report α → Option (BarometerReport α)
  | .barometer report => some report
  | _ => none

def gps? : Report α → Option (GpsReport α)
  | .gps report => some report
  | _ => none

def truth? : Report α → Option (TruthReport α)
  | .groundTruth report => some report
  | _ => none

end Report

/-- The reports of a kind among some reports. -/
def reportsOf (kind? : Report α → Option β) (reports : List (Stamped (Report α))) : List (Stamped β) :=
  reports.filterMap fun report => (kind? report.value).map (⟨report.time, ·⟩)

section
variable {kind? : Report α → Option β}

theorem reportsOf_append (reports more : List (Stamped (Report α))) :
    reportsOf kind? (reports ++ more) = reportsOf kind? reports ++ reportsOf kind? more :=
  List.filterMap_append

theorem reportsOf_map_wrap_other (kind : γ → Report α) (h : ∀ x, kind? (kind x) = none) (samples : List (Stamped γ)) :
    reportsOf kind? (samples.map (Assembler.wrap kind)) = [] := by
  rw [reportsOf, List.filterMap_map, List.filterMap_eq_nil_iff]
  intro x _
  exact congrArg (Option.map _) (h x.value)

theorem reportsOf_map_wrap (kind : β → Report α) (h : ∀ x, kind? (kind x) = some x) (samples : List (Stamped β)) :
    reportsOf kind? (samples.map (Assembler.wrap kind)) = samples := by
  rw [reportsOf, List.filterMap_map]
  refine (List.filterMap_congr fun x _ => ?_).trans (List.filterMap_some (l := samples))
  exact congrArg (Option.map _) (h x.value)

end

/-! ## The ground truth -/

namespace AssemblySettings

variable [Scalar α]

theorem velocity_truthReport (s : AssemblySettings α) (previous : Option (Motion α)) (pose : Stamped (Pose α)) :
    (s.truthReport previous pose).1.velocity = s.frame.worldVector (derivatives previous pose).1 :=
  rfl

theorem velocity_motion (s : AssemblySettings α) (previous : Option (Motion α)) (pose : Stamped (Pose α)) :
    (s.truthReport previous pose).2 = ⟨pose, (derivatives previous pose).1⟩ :=
  rfl

theorem acceleration_truthReport (s : AssemblySettings α) (previous : Option (Motion α)) (pose : Stamped (Pose α)) :
    (s.truthReport previous pose).1.acceleration
      = s.frame.bodyVector
        (pose.value.orientation.conj.rotate ((derivatives previous pose).2.1 - s.gravity)) :=
  rfl

/-- The differences from the pose before over the time since. -/
theorem derivatives_of_later {m : Motion α} {pose : Stamped (Pose α)} {dt : α}
    (hdt : Scalar.ofNat (pose.time - m.pose.time) / 1000000.0 = dt) (hpositive : Scalar.lt 0.0 dt = true) :
    derivatives (some m) pose
      = let velocity := (pose.value.position - m.pose.value.position) / dt
        (velocity, (velocity - m.velocity) / dt,
          (m.pose.value.orientation.conj * pose.value.orientation).scaledAxis / dt) := by
  rw [derivatives]
  simp only [hdt, if_pos hpositive]

end AssemblySettings

namespace Assembler

variable [Scalar α] {a b : Assembler α}

/-! ## What comes before an operation of a cycle -/

/-- What the later operations of a cycle take is as it was. -/
structure LeftAlone (a b : Assembler α) : Prop where
  settings : b.settings = a.settings
  gps : b.gps = a.gps
  pose : b.pose = a.pose
  previousMotion : b.previousMotion = a.previousMotion

theorem leftAlone_takeImuDue (a : Assembler α) (plan : CyclePlan) : LeftAlone a (a.takeImuDue plan).2 := by
  unfold takeImuDue takeImu
  split
  · split
    · exact ⟨rfl, rfl, rfl, rfl⟩
    · split <;> exact ⟨rfl, rfl, rfl, rfl⟩
  · exact ⟨rfl, rfl, rfl, rfl⟩

theorem barometer_takeImuDue (a : Assembler α) (plan : CyclePlan) : (a.takeImuDue plan).2.barometer = a.barometer := by
  unfold takeImuDue takeImu
  split
  · split
    · rfl
    · split <;> rfl
  · rfl

/-- The two operations between the inertial one and that for positions draw noise at most. -/
theorem LeftAlone.between (h : LeftAlone a b) (now : Nat) :
    LeftAlone a ((b.takeBarometer now).2.takeMagnetometer now).2 := by
  obtain ⟨noise, -, hbarometer⟩ := b.takeBarometer_eq now
  obtain ⟨noise', -, hmagnetometer⟩ := (b.takeBarometer now).2.takeMagnetometer_eq now
  rw [hmagnetometer, hbarometer]
  exact ⟨h.settings, h.gps, h.pose, h.previousMotion⟩

/-! ## The reports of a cycle -/

theorem imuReports_cycle (a : Assembler α) (plan : CyclePlan) :
    reportsOf Report.imu? (a.assemble plan).1 = (a.takeImuDue plan).1.toList := by
  simp only [assemble_eq, reportsOf_append, Option.toList_map]
  rw [reportsOf_map_wrap .imu (fun _ => rfl), reportsOf_map_wrap_other .barometer (fun _ => rfl),
    reportsOf_map_wrap_other .magnetometer (fun _ => rfl),
    reportsOf_map_wrap_other .gps (fun _ => rfl),
    reportsOf_map_wrap_other .groundTruth (fun _ => rfl),
    reportsOf_map_wrap_other .range (fun _ => rfl)]
  simp only [List.append_nil]

theorem barometerReports_cycle (a : Assembler α) (plan : CyclePlan) :
    ∃ noise, reportsOf Report.barometer? (a.assemble plan).1
      = ((a.barometer.sendDue plan.now a.settings.barometerInterval).1.map fun y =>
          ⟨y.time, (a.settings.barometerReport noise y.value).1⟩).toList := by
  have hbarometer := a.barometer_takeImuDue plan
  have hsettings := (a.leftAlone_takeImuDue plan).settings
  simp only [assemble_eq, reportsOf_append, Option.toList_map]
  rw [reportsOf_map_wrap .barometer (fun _ => rfl), reportsOf_map_wrap_other .imu (fun _ => rfl),
    reportsOf_map_wrap_other .magnetometer (fun _ => rfl),
    reportsOf_map_wrap_other .gps (fun _ => rfl),
    reportsOf_map_wrap_other .groundTruth (fun _ => rfl),
    reportsOf_map_wrap_other .range (fun _ => rfl)]
  generalize (a.takeImuDue plan).2 = b at *
  obtain ⟨noise, -, htaken⟩ := b.takeBarometer_eq plan.now
  refine ⟨b.noise, ?_⟩
  rw [htaken, hbarometer, hsettings]
  simp only [List.append_nil, List.nil_append, Option.toList_map]
  rfl

theorem gpsReports_cycle (a : Assembler α) (plan : CyclePlan) :
    ∃ noise, reportsOf Report.gps? (a.assemble plan).1
      = ((a.gps.sendDue plan.now a.settings.gpsInterval).1.map fun y =>
          ⟨y.time, (a.settings.gpsReport noise y.value).1⟩).toList := by
  have halone := (a.leftAlone_takeImuDue plan).between plan.now
  simp only [assemble_eq, reportsOf_append, Option.toList_map]
  rw [reportsOf_map_wrap .gps (fun _ => rfl), reportsOf_map_wrap_other .barometer (fun _ => rfl),
    reportsOf_map_wrap_other .magnetometer (fun _ => rfl),
    reportsOf_map_wrap_other .imu (fun _ => rfl),
    reportsOf_map_wrap_other .groundTruth (fun _ => rfl),
    reportsOf_map_wrap_other .range (fun _ => rfl)]
  generalize (((a.takeImuDue plan).2.takeBarometer plan.now).2.takeMagnetometer plan.now).2 = b at *
  obtain ⟨noise, -, htaken⟩ := b.takeGps_eq plan.now
  refine ⟨b.noise, ?_⟩
  rw [htaken, halone.gps, halone.settings]
  simp only [List.append_nil, List.nil_append, Option.toList_map]
  rfl

/-- The operation for poses is the only one that touches them and what is remembered of the motion. -/
theorem truth_cycle (a : Assembler α) (plan : CyclePlan) :
    reportsOf Report.truth? (a.assemble plan).1 = a.takeTruth.1.toList
      ∧ (a.assemble plan).2.pose = a.takeTruth.2.pose
      ∧ (a.assemble plan).2.previousMotion = a.takeTruth.2.previousMotion := by
  have halone := (a.leftAlone_takeImuDue plan).between plan.now
  simp only [assemble_eq, reportsOf_append, Option.toList_map]
  rw [reportsOf_map_wrap .groundTruth (fun _ => rfl),
    reportsOf_map_wrap_other .barometer (fun _ => rfl),
    reportsOf_map_wrap_other .magnetometer (fun _ => rfl),
    reportsOf_map_wrap_other .imu (fun _ => rfl),
    reportsOf_map_wrap_other .gps (fun _ => rfl),
    reportsOf_map_wrap_other .range (fun _ => rfl)]
  simp only [List.append_nil, List.nil_append]
  generalize (((a.takeImuDue plan).2.takeBarometer plan.now).2.takeMagnetometer plan.now).2 = b at *
  obtain ⟨noise, -, htaken⟩ := b.takeGps_eq plan.now
  -- what an earlier operation changed does not show in the pose that is sent
  have htruth : (b.takeGps plan.now).2.takeTruth.1 = a.takeTruth.1
      ∧ (b.takeGps plan.now).2.takeTruth.2.pose = a.takeTruth.2.pose
      ∧ (b.takeGps plan.now).2.takeTruth.2.previousMotion = a.takeTruth.2.previousMotion := by
    rw [htaken, takeTruth, takeTruth]
    simp only [halone.pose, halone.settings, halone.previousMotion]
    rcases a.pose.send with ⟨_ | pose, feed⟩ <;> exact ⟨rfl, rfl, rfl⟩
  exact ⟨congrArg Option.toList htruth.1, htruth.2⟩

/-- A pose that waits is reported with the motion before, with it the motion is remembered, and it waits no longer. -/
theorem takeTruth_of_pending {pose : Stamped (Pose α)} (hpending : a.pose.slot.pending? = some pose) :
    a.takeTruth.1 = some ⟨pose.time, (a.settings.truthReport a.previousMotion pose).1⟩
      ∧ a.takeTruth.2.previousMotion = some (a.settings.truthReport a.previousMotion pose).2
      ∧ a.takeTruth.2.pose.slot.pending? = none := by
  have hsend : a.pose.send = (some pose, ⟨a.pose.slot.take.2, some pose.time⟩) := by
    simp only [Feed.send, Slot.take, hpending]
  rw [takeTruth, hsend]
  exact ⟨rfl, rfl, Slot.pending?_take _⟩

theorem takeTruth_of_none (hpending : a.pose.slot.pending? = none) :
    a.takeTruth.1 = none ∧ a.takeTruth.2.previousMotion = a.previousMotion
      ∧ a.takeTruth.2.pose.slot.pending? = none := by
  have hsend : a.pose.send = (none, { a.pose with slot := a.pose.slot.take.2 }) := by
    simp only [Feed.send, Slot.take, hpending]
  rw [takeTruth, hsend]
  exact ⟨rfl, rfl, Slot.pending?_take _⟩

/-- The pending pose is reported with the motion before, and with that pose the motion is remembered. -/
theorem truthReports_cycle {pose : Stamped (Pose α)} (hpending : a.pose.slot.pending? = some pose) (plan : CyclePlan) :
    reportsOf Report.truth? (a.assemble plan).1 = [⟨pose.time, (a.settings.truthReport a.previousMotion pose).1⟩]
      ∧ (a.assemble plan).2.previousMotion = some (a.settings.truthReport a.previousMotion pose).2 := by
  obtain ⟨hreports, -, hmotion⟩ := a.truth_cycle plan
  obtain ⟨hreport, hremembered, -⟩ := takeTruth_of_pending hpending
  rw [hreports, hmotion, hreport, hremembered]
  exact ⟨rfl, rfl⟩

end Assembler

end HilBridge
