import Mathlib
import HilBridge.Proofs.Geometry.Rotation
import HilBridge.Proofs.Sensor.CycleReports
import HilBridge.Proofs.Sensor.Numbering

/-!
# `HilBridge.Proofs.Sensor.Displacement` — the ground truth adds up to the way that was made

Velocity and acceleration of a ground truth are differences to the one before, over the time between them. So they add
up: velocity times time gives the way from one pose that was sent to the next, whatever poses came in between and were
never sent, and acceleration times time gives the change of velocity (`PoseRecord.Follows`). What carries this through a
run is that the assembler remembers the pose and the velocity of the last ground truth and of no other
(`Assembler.Tells`). Two poses of one moment are the exception: there is no time between them, and the velocity is that
before.

**Main statement.** `truth_adds_up`: in exact arithmetic and along every run, the ways between poses sent one after
another add up to the displacement from the first of them to the last.
-/

namespace HilBridge

/-! ## The world of the autopilot -/

namespace Vec3

/-- A vector given east, north, up, by its components north, east, down. -/
noncomputable def northEastDown (v : Vec3 ℝ) : Vec3 ℝ :=
  ⟨v.y, v.x, -v.z⟩

variable (v w : Vec3 ℝ)

theorem northEastDown_add : (v + w).northEastDown = v.northEastDown + w.northEastDown := by
  ext
  · rfl
  · rfl
  · exact neg_add v.z w.z

theorem northEastDown_sub : (v - w).northEastDown = v.northEastDown - w.northEastDown := by
  ext
  · rfl
  · rfl
  · exact neg_sub' v.z w.z

theorem northEastDown_mul (k : ℝ) : (v * k).northEastDown = v.northEastDown * k := by
  ext
  · rfl
  · rfl
  · exact (neg_mul v.z k).symm

protected theorem div_mul_cancel {k : ℝ} (hk : k ≠ 0) : v / k * k = v := by
  ext
  · exact div_mul_cancel₀ v.x hk
  · exact div_mul_cancel₀ v.y hk
  · exact div_mul_cancel₀ v.z hk

protected theorem sub_add_cancel : v - w + w = v := by
  ext
  · exact sub_add_cancel v.x w.x
  · exact sub_add_cancel v.y w.y
  · exact sub_add_cancel v.z w.z

end Vec3

/-! ## Ground truths one after another -/

/-- A pose that was sent and the ground truth that was made of it. -/
structure PoseRecord (α : Type) where
  pose : Stamped (Pose α)
  report : Stamped (TruthReport α)

namespace PoseRecord

/-- The seconds from one pose to another. -/
noncomputable def secondsTo (d e : PoseRecord ℝ) : ℝ :=
  ((e.pose.time : ℝ) - d.pose.time) / 1000000

/-- The way from one pose to another: north, east, down. -/
noncomputable def displacementTo (d e : PoseRecord ℝ) : Vec3 ℝ :=
  (e.pose.value.position - d.pose.value.position).northEastDown

/-- The acceleration: what is felt, turned back into the axes of the world, and gravity with it. -/
noncomputable def worldAcceleration (gravity : Vec3 ℝ) (d : PoseRecord ℝ) : Vec3 ℝ :=
  d.report.value.attitude.rotate d.report.value.acceleration + gravity.northEastDown

/-- What a ground truth says in view of the one before. An attitude that is a rotation can be turned back. -/
structure Follows (gravity : Vec3 ℝ) (d e : PoseRecord ℝ) : Prop where
  way : d.pose.time < e.pose.time → e.report.value.velocity * d.secondsTo e = d.displacementTo e
  change : d.pose.time < e.pose.time → e.pose.value.orientation.norm = 1 →
    e.worldAcceleration gravity * d.secondsTo e = e.report.value.velocity - d.report.value.velocity
  /-- Two poses of one moment. -/
  repeated : d.pose.time = e.pose.time →
    e.report.value.velocity = d.report.value.velocity ∧ e.report.value.angularVelocity = ⟨0, 0, 0⟩
  unaccelerated : d.pose.time = e.pose.time → e.pose.value.orientation.norm = 1 →
    e.worldAcceleration gravity = ⟨0, 0, 0⟩

/-- The ways that the ground truths after the first give, from one pose to the next, added up. -/
noncomputable def travelled : List (PoseRecord ℝ) → Vec3 ℝ
  | d :: e :: rest => e.report.value.velocity * d.secondsTo e + travelled (e :: rest)
  | _ => ⟨0, 0, 0⟩

/-- Displacements that are added up are the one from the first pose to the last. -/
theorem travelled_eq {gravity : Vec3 ℝ} {log : List (PoseRecord ℝ)} (hfollows : log.IsChain (Follows gravity))
    (hlater : log.IsChain fun d e => d.pose.time < e.pose.time) :
    ∀ first ∈ log.head?, ∀ last ∈ log.getLast?, travelled log = first.displacementTo last := by
  induction log with
  | nil => nofun
  | cons d rest ih =>
    intro first hfirst last hlast
    obtain rfl : d = first := Option.some.inj hfirst
    cases rest with
    | nil =>
      obtain rfl : d = last := Option.some.inj hlast
      ext <;> simp [travelled, displacementTo, Vec3.northEastDown]
    | cons e rest =>
      obtain ⟨hfollows, hchain⟩ := List.isChain_cons_cons.mp hfollows
      obtain ⟨hlater, hchain'⟩ := List.isChain_cons_cons.mp hlater
      have hrest := ih hchain hchain' e rfl last hlast
      rw [travelled, hrest, hfollows.way hlater, displacementTo, displacementTo, displacementTo,
        ← Vec3.northEastDown_add]
      congr 1
      ext <;> simp

end PoseRecord

/-! ## A report and the motion before -/

/-- The ground truth at a pose. -/
def AssemblySettings.poseRecord {α : Type} [Scalar α] (s : AssemblySettings α) (previous : Option (Motion α))
    (pose : Stamped (Pose α)) : PoseRecord α :=
  ⟨pose, ⟨pose.time, (s.truthReport previous pose).1⟩⟩

namespace AssemblySettings

section
variable {s : AssemblySettings ℝ} (hframe : s.frame = .simToAutopilot) (previous : Option (Motion ℝ))
  (pose : Stamped (Pose ℝ))
include hframe

theorem velocity_poseRecord :
    (s.poseRecord previous pose).report.value.velocity = (derivatives previous pose).1.northEastDown := by
  rw [poseRecord, velocity_truthReport, hframe, FrameChange.worldVector_simToAutopilot]
  rfl

/-- Turned back into the axes of the world, and without gravity, what is felt is the acceleration. -/
theorem worldAcceleration_poseRecord (hunit : pose.value.orientation.norm = 1) :
    (s.poseRecord previous pose).worldAcceleration s.gravity = (derivatives previous pose).2.1.northEastDown := by
  have hattitude : (s.truthReport previous pose).1.attitude = s.frame.orientation pose.value.orientation := rfl
  rw [PoseRecord.worldAcceleration, poseRecord]
  dsimp only
  rw [hattitude, acceleration_truthReport, hframe,
    ← FrameChange.worldVector_rotate FrameChange.norm_body_simToAutopilot FrameChange.norm_world_simToAutopilot hunit,
    Quaternion.rotate_conj_rotate hunit, FrameChange.worldVector_simToAutopilot]
  generalize (derivatives previous pose).2.1 = acceleration
  show (acceleration - s.gravity).northEastDown + s.gravity.northEastDown = _
  rw [← Vec3.northEastDown_add, Vec3.sub_add_cancel]

theorem angularVelocity_poseRecord (hstill : (derivatives previous pose).2.2 = .zero) :
    (s.poseRecord previous pose).report.value.angularVelocity = ⟨0, 0, 0⟩ := by
  have hrates : (s.poseRecord previous pose).report.value.angularVelocity
      = s.frame.bodyVector (derivatives previous pose).2.2 := rfl
  rw [hrates, hstill, hframe, FrameChange.bodyVector_simToAutopilot]
  norm_num [Vec3.zero]

end

section
variable {m : Motion ℝ} {pose : Stamped (Pose ℝ)}

/-- Where time has passed there are differences over it. -/
theorem derivatives_of_lt (h : m.pose.time < pose.time) :
    ∃ seconds : ℝ, seconds ≠ 0 ∧ seconds = ((pose.time : ℝ) - m.pose.time) / 1000000
      ∧ derivatives (some m) pose
        = let velocity := (pose.value.position - m.pose.value.position) / seconds
          (velocity, (velocity - m.velocity) / seconds,
            (m.pose.value.orientation.conj * pose.value.orientation).scaledAxis / seconds) := by
  have hseconds : (Scalar.ofNat (pose.time - m.pose.time) / 1000000.0 : ℝ)
      = ((pose.time : ℝ) - m.pose.time) / 1000000 := by
    show ((pose.time - m.pose.time : ℕ) : ℝ) / 1000000.0 = _
    rw [Nat.cast_sub h.le]
    norm_num
  have hpositive : (0 : ℝ) < ((pose.time : ℝ) - m.pose.time) / 1000000 :=
    div_pos (sub_pos.mpr (Nat.cast_lt.mpr h)) (by norm_num)
  refine ⟨_, hpositive.ne', rfl, derivatives_of_later hseconds ?_⟩
  have hzero : (0.0 : ℝ) = 0 := by norm_num
  rw [Scalar.lt_iff]
  exact hzero.trans_lt hpositive

/-- Where no time has passed there is nothing to divide by. -/
theorem derivatives_of_eq (h : m.pose.time = pose.time) :
    derivatives (some m) pose = (m.velocity, .zero, .zero) := by
  have hseconds : (Scalar.ofNat (pose.time - m.pose.time) / 1000000.0 : ℝ) = 0 := by
    rw [h, Nat.sub_self]
    show ((0 : ℕ) : ℝ) / 1000000.0 = 0
    rw [Nat.cast_zero, zero_div]
  rw [derivatives]
  dsimp only
  rw [hseconds, if_neg]
  rw [Scalar.lt_iff]
  norm_num

end

end AssemblySettings

namespace Motion

/-- What is remembered of the last ground truth. -/
def Remembers (m : Motion ℝ) (d : PoseRecord ℝ) : Prop :=
  m.pose = d.pose ∧ m.velocity.northEastDown = d.report.value.velocity

variable {s : AssemblySettings ℝ} (hframe : s.frame = .simToAutopilot)
include hframe

theorem remembers_truthReport (previous : Option (Motion ℝ)) (pose : Stamped (Pose ℝ)) :
    (s.truthReport previous pose).2.Remembers (s.poseRecord previous pose) := by
  refine ⟨rfl, ?_⟩
  rw [AssemblySettings.velocity_poseRecord hframe, AssemblySettings.velocity_motion]

/-- The ground truth that is made from what is remembered of another follows it. -/
theorem Remembers.follows {m : Motion ℝ} {d : PoseRecord ℝ} (h : m.Remembers d) (pose : Stamped (Pose ℝ)) :
    d.Follows s.gravity (s.poseRecord (some m) pose) := by
  obtain ⟨hpose, hvelocity⟩ := h
  have htime : (s.poseRecord (some m) pose).pose = pose := rfl
  refine ⟨fun hlt => ?way, fun hlt hunit => ?change, fun hsame => ?repeated, fun hsame hunit => ?unaccelerated⟩
  case way =>
    rw [htime, ← hpose] at hlt
    obtain ⟨seconds, hseconds, hpassed, hderived⟩ := AssemblySettings.derivatives_of_lt hlt
    rw [AssemblySettings.velocity_poseRecord hframe, hderived, PoseRecord.secondsTo, PoseRecord.displacementTo, htime,
      ← hpose, ← hpassed, ← Vec3.northEastDown_mul, Vec3.div_mul_cancel _ hseconds]
  case change =>
    rw [htime, ← hpose] at hlt
    obtain ⟨seconds, hseconds, hpassed, hderived⟩ := AssemblySettings.derivatives_of_lt hlt
    rw [AssemblySettings.worldAcceleration_poseRecord hframe _ pose hunit, AssemblySettings.velocity_poseRecord hframe,
      hderived, PoseRecord.secondsTo, htime, ← hpose, ← hpassed, ← hvelocity, ← Vec3.northEastDown_mul,
      Vec3.div_mul_cancel _ hseconds, Vec3.northEastDown_sub]
  case repeated =>
    rw [htime, ← hpose] at hsame
    have hderived := AssemblySettings.derivatives_of_eq hsame
    refine ⟨?_, AssemblySettings.angularVelocity_poseRecord hframe _ _ (by rw [hderived])⟩
    rw [AssemblySettings.velocity_poseRecord hframe, hderived, hvelocity]
  case unaccelerated =>
    rw [htime, ← hpose] at hsame
    have hderived := AssemblySettings.derivatives_of_eq hsame
    rw [AssemblySettings.worldAcceleration_poseRecord hframe _ pose hunit, hderived]
    norm_num [Vec3.northEastDown, Vec3.zero]

end Motion

/-! ## Runs -/

namespace Assembler

section
variable {α : Type} [Scalar α]

namespace Call

/-- The pose that a call delivers, whether it is kept or not. -/
def pose? : Call α → Option (Stamped (Pose α))
  | .deliver ⟨time, .pose pose⟩ => some ⟨time, pose⟩
  | _ => none

/-- The ground truth of a call, with the pose that waited for it. -/
def poseRecords (a : Assembler α) (call : Call α) : List (PoseRecord α) :=
  List.zipWith PoseRecord.mk a.pose.slot.pending?.toList (reportsOf Report.truth? (call.reports a))

end Call

/-- Runs of an assembler with the poses that are sent. -/
def poseRecorder (α : Type) [Scalar α] : Recorder (Assembler α) (Call α) (PoseRecord α) :=
  ⟨Call.apply, Call.poseRecords⟩

variable {a : Assembler α}

/-- What a call does with the pose that waits. -/
inductive MovesPose (a : Assembler α) (call : Call α) : Prop
  /-- It goes out, and with it the motion is remembered. -/
  | sent (pose : Stamped (Pose α)) (waiting : a.pose.slot.pending? = some pose)
    (reports : reportsOf Report.truth? (call.reports a) = [(a.settings.poseRecord a.previousMotion pose).report])
    (remembered : (call.apply a).previousMotion = some (a.settings.truthReport a.previousMotion pose).2)
    (taken : (call.apply a).pose.slot.pending? = none)
  /-- It waits on, or the one delivered waits in its place. -/
  | kept (reports : reportsOf Report.truth? (call.reports a) = [])
    (remembered : (call.apply a).previousMotion = a.previousMotion)
    (waiting : (call.apply a).pose.slot.pending?.toList.Sublist (a.pose.slot.pending?.toList ++ call.pose?.toList))

/-- A call that leaves poses and the motion alone. -/
theorem MovesPose.unmoved {call : Call α} (hreports : call.reports a = [])
    (hpose : (call.apply a).pose = a.pose) (hmotion : (call.apply a).previousMotion = a.previousMotion) :
    a.MovesPose call :=
  .kept (by rw [hreports]; rfl) hmotion (hpose ▸ List.sublist_append_left ..)

theorem movesPose_deliver (a : Assembler α) (sample : Sample α) : a.MovesPose (.deliver sample) := by
  obtain ⟨time, reading⟩ := sample
  cases reading with
  | pose pose =>
    rcases hoffer : a.pose.offer? ⟨time, pose⟩ with _ | feed
    · have hdropped : (Call.deliver ⟨time, .pose pose⟩ : Call α).apply a = a.dropStale := by
        simp only [Call.apply, deliver, hoffer]
      exact .unmoved rfl (by rw [hdropped]; rfl) (by rw [hdropped]; rfl)
    · have hstored : (Call.deliver ⟨time, .pose pose⟩ : Call α).apply a = { a with pose := feed } := by
        simp only [Call.apply, deliver, hoffer]
      refine .kept rfl (by rw [hstored]) ?_
      rw [hstored, (Feed.offer?_eq_some hoffer).1]
      exact List.sublist_append_right ..
  | imu reading =>
    refine .unmoved rfl ?_ ?_ <;> simp only [Call.apply, deliver] <;> split <;> rfl
  | barometer pressure =>
    refine .unmoved rfl ?_ ?_ <;> simp only [Call.apply, deliver] <;> split <;> rfl
  | magnetometer field =>
    refine .unmoved rfl ?_ ?_ <;> simp only [Call.apply, deliver] <;> split <;> rfl
  | gps reading =>
    refine .unmoved rfl ?_ ?_ <;> simp only [Call.apply, deliver] <;> split <;> rfl

theorem movesPose_assemble (a : Assembler α) (plan : CyclePlan) : a.MovesPose (.assemble plan) := by
  obtain ⟨hreports, hpose, hmotion⟩ := a.truth_cycle plan
  rcases hpending : a.pose.slot.pending? with _ | pose
  · obtain ⟨hreport, hremembered, htaken⟩ := takeTruth_of_none hpending
    refine .kept (by rw [Call.reports, hreports, hreport]; rfl) (hmotion.trans hremembered) ?_
    have hnone : ((Call.assemble plan).apply a).pose.slot.pending? = none := hpose ▸ htaken
    rw [hnone]
    exact List.nil_sublist _
  · obtain ⟨hreport, hremembered, htaken⟩ := takeTruth_of_pending hpending
    exact .sent pose hpending (by rw [Call.reports, hreports, hreport]; rfl) (hmotion.trans hremembered)
      (hpose ▸ htaken)

theorem movesPose (a : Assembler α) (call : Call α) : a.MovesPose call := by
  cases call with
  | deliver sample => exact a.movesPose_deliver sample
  | storeImu sample => exact .unmoved rfl rfl rfl
  | deliverRange link sample =>
    refine .unmoved rfl ?_ ?_ <;> simp only [Call.apply, deliverRange] <;> split <;> rfl
  | resetSequence => exact .unmoved rfl rfl rfl
  | assemble plan => exact a.movesPose_assemble plan

/-- Every ground truth is recorded with its pose. -/
theorem report_poseRecords (a : Assembler α) (call : Call α) :
    (call.poseRecords a).map (·.report) = reportsOf Report.truth? (call.reports a) := by
  unfold Call.poseRecords
  rcases a.movesPose call with ⟨pose, hwaiting, hreports, -, -⟩ | ⟨hreports, -, -⟩
  · rw [hwaiting, hreports]
    rfl
  · rw [hreports, List.zipWith_nil_right]
    rfl

theorem report_run (a : Assembler α) (calls : List (Call α)) :
    ((poseRecorder α).run a calls).2.map (·.report) = reportsOf Report.truth? ((reporter α).run a calls).2 := by
  have hmap (log : List (PoseRecord α)) : log.filterMap (fun d => some d.report) = log.map (·.report) :=
    congrFun List.filterMap_eq_map' log
  let truths : Recorder (Assembler α) (Call α) (Stamped (TruthReport α)) :=
    ⟨Call.apply, fun b call => reportsOf Report.truth? (call.reports b)⟩
  have hrecords := (poseRecorder α).run_filterMap truths (fun d => some d.report) rfl
    (fun b call => (report_poseRecords b call).symm.trans (hmap _).symm) a calls
  have hreports := (reporter α).run_filterMap truths (fun report => (Report.truth? report.value).map (⟨report.time, ·⟩))
    rfl (fun b call => rfl) a calls
  rw [← hmap]
  exact (congrArg Prod.snd hrecords).symm.trans (congrArg Prod.snd hreports)

end

/-- What the poses that were sent tell about an assembler. -/
structure Tells (c : Config ℝ) (delivered : List (Stamped (Pose ℝ))) (a : Assembler ℝ) (log : List (PoseRecord ℝ)) :
    Prop where
  settings : a.settings = c.assembly
  poses : (log.map (·.pose) ++ a.pose.slot.pending?.toList).Sublist delivered
  remembered : Option.Rel Motion.Remembers a.previousMotion log.getLast?
  first : ∀ d ∈ log.head?, d.report.value.velocity = ⟨0, 0, 0⟩ ∧ d.report.value.angularVelocity = ⟨0, 0, 0⟩
  times : ∀ d ∈ log, d.report.time = d.pose.time
  follows : log.IsChain (PoseRecord.Follows c.gravity)

namespace Tells

variable {c : Config ℝ} {delivered : List (Stamped (Pose ℝ))} {a : Assembler ℝ} {log : List (PoseRecord ℝ)}

theorem frame (h : a.Tells c delivered log) : a.settings.frame = .simToAutopilot := by
  rw [h.settings]
  rfl

/-- The record of a pose that goes out. -/
theorem sent (h : a.Tells c delivered log) (pose : Stamped (Pose ℝ)) :
    let d := a.settings.poseRecord a.previousMotion pose
    (∀ e ∈ (log ++ [d]).head?, e.report.value.velocity = ⟨0, 0, 0⟩ ∧ e.report.value.angularVelocity = ⟨0, 0, 0⟩)
      ∧ (log ++ [d]).IsChain (PoseRecord.Follows c.gravity) := by
  intro d
  have hframe := h.frame
  have hgravity : a.settings.gravity = c.gravity := by
    rw [h.settings]
    rfl
  have hremembered := h.remembered
  rcases hlast : log.getLast? with _ | before
  · obtain rfl := List.getLast?_eq_none_iff.mp hlast
    have hnone : a.previousMotion = none := by
      rw [hlast] at hremembered
      cases hmotion : a.previousMotion with
      | none => rfl
      | some m => rw [hmotion] at hremembered; cases hremembered
    refine ⟨fun e he => ?_, List.isChain_singleton d⟩
    obtain rfl : d = e := Option.some.inj he
    have hstill : AssemblySettings.derivatives a.previousMotion pose = (.zero, .zero, .zero) := by
      rw [hnone]
      rfl
    refine ⟨?_, AssemblySettings.angularVelocity_poseRecord hframe _ _ (by rw [hstill])⟩
    rw [AssemblySettings.velocity_poseRecord hframe, hstill]
    norm_num [Vec3.northEastDown, Vec3.zero]
  · rw [hlast] at hremembered
    obtain ⟨m, hmotion, hm⟩ : ∃ m, a.previousMotion = some m ∧ m.Remembers before := by
      cases hmotion : a.previousMotion with
      | none => rw [hmotion] at hremembered; cases hremembered
      | some m =>
        rw [hmotion] at hremembered
        cases hremembered with
        | some hm => exact ⟨m, rfl, hm⟩
    refine ⟨fun e he => h.first e ?_, List.isChain_append.mpr ⟨h.follows, List.isChain_singleton d, ?_⟩⟩
    · rwa [List.head?_append_of_ne_nil _ (by rintro rfl; cases hlast)] at he
    · intro e he e' he'
      rw [hlast] at he
      obtain rfl : before = e := Option.some.inj he
      obtain rfl : d = e' := Option.some.inj he'
      have hfollows := hm.follows hframe pose
      rw [← hmotion, hgravity] at hfollows
      exact hfollows

/-- Every call keeps what is told. -/
theorem call (h : a.Tells c delivered log) (call : Call ℝ) :
    (call.apply a).Tells c (delivered ++ call.pose?.toList) (log ++ call.poseRecords a) := by
  have hframe := h.frame
  have hsettings := (settings_call a call).trans h.settings
  rcases a.movesPose call with ⟨pose, hwaiting, hreports, hremembered, htaken⟩ | ⟨hreports, hremembered, hwaiting⟩
  case sent =>
    obtain ⟨hfirst, hfollows⟩ := h.sent pose
    have hrecords : call.poseRecords a = [a.settings.poseRecord a.previousMotion pose] := by
      rw [Call.poseRecords, hwaiting, hreports]
      rfl
    rw [hrecords]
    refine ⟨hsettings, ?_, ?_, hfirst, ?_, hfollows⟩
    · have hposes := h.poses
      rw [hwaiting] at hposes
      rw [htaken, List.map_append, Option.toList_none, List.append_nil]
      exact hposes.trans (List.sublist_append_left ..)
    · rw [hremembered, List.getLast?_concat]
      exact .some (Motion.remembers_truthReport hframe a.previousMotion pose)
    · intro d hd
      rcases List.mem_append.mp hd with hd | hd
      · exact h.times d hd
      · rw [List.mem_singleton.mp hd]
        rfl
  case kept =>
    have hrecords : call.poseRecords a = [] := by
      rw [Call.poseRecords, hreports, List.zipWith_nil_right]
    rw [hrecords, List.append_nil]
    refine ⟨hsettings, ?_, hremembered ▸ h.remembered, h.first, h.times, h.follows⟩
    have hlonger := h.poses.append (List.Sublist.refl call.pose?.toList)
    rw [List.append_assoc] at hlonger
    exact (hwaiting.append_left _).trans hlonger

end Tells

theorem tells_run (c : Config ℝ) (links : List RangeLink) (calls : List (Call ℝ)) :
    ((poseRecorder ℝ).run (.new c links) calls).1.Tells c (calls.filterMap Call.pose?)
      ((poseRecorder ℝ).run (.new c links) calls).2 := by
  induction calls using List.reverseRecOn with
  | nil => exact ⟨rfl, .slnil, .none, nofun, nofun, .nil⟩
  | append_singleton front call ih =>
    rw [Recorder.run_concat, List.filterMap_append, List.filterMap_cons]
    have hcall := ih.call call
    cases hpose : call.pose? <;> rw [hpose] at hcall <;> exact hcall

/-! ## The theorem -/

/--
**The ground truth adds up to the way that was made.** Whatever is done with an assembler, in exact arithmetic: every
ground truth is that of a pose that was delivered, in the order of delivery and with the pose's time, and poses may
have been passed over in between. The first has no velocity and no rates. A later one gives the way since the one before
as its velocity times the time between them, and the change of velocity as its acceleration, turned back and with
gravity, times that time; where no time lies between them it repeats the velocity. So over every stretch with times that
increase, the ways add up to the displacement from the first pose to the last.
-/
theorem truth_adds_up (c : Config ℝ) (links : List RangeLink) (calls : List (Call ℝ)) :
    let log := ((poseRecorder ℝ).run (.new c links) calls).2
    log.map (·.report) = reportsOf Report.truth? ((reporter ℝ).run (.new c links) calls).2
      ∧ (log.map (·.pose)).Sublist (calls.filterMap Call.pose?)
      ∧ (∀ d ∈ log, d.report.time = d.pose.time)
      ∧ (∀ d ∈ log.head?, d.report.value.velocity = ⟨0, 0, 0⟩ ∧ d.report.value.angularVelocity = ⟨0, 0, 0⟩)
      ∧ log.IsChain (PoseRecord.Follows c.gravity)
      ∧ ∀ stretch, stretch <:+: log → (stretch.IsChain fun d e => d.pose.time < e.pose.time) →
        ∀ first ∈ stretch.head?, ∀ last ∈ stretch.getLast?,
          PoseRecord.travelled stretch = first.displacementTo last := by
  intro log
  have htells := tells_run c links calls
  refine ⟨report_run _ calls, (List.sublist_append_left ..).trans htells.poses, htells.times, htells.first,
    htells.follows, fun stretch hstretch hlater => ?_⟩
  have hfollows : stretch.IsChain (PoseRecord.Follows c.gravity) := List.IsChain.infix htells.follows hstretch
  exact PoseRecord.travelled_eq hfollows hlater

/-- A pose without a turn. -/
noncomputable def standing (time : Nat) (position : Vec3 ℝ) : Stamped (Pose ℝ) :=
  ⟨time, ⟨position, .identity⟩⟩

/-- A walk of two seconds. The pose after one second is replaced before it can be sent. -/
noncomputable def walk : List (Call ℝ) :=
  [.deliver ⟨1000000, .pose (standing 1000000 ⟨0, 0, 0⟩).value⟩, .assemble ⟨1000000, false, none⟩,
    .deliver ⟨2000000, .pose (standing 2000000 ⟨9, 9, 9⟩).value⟩,
    .deliver ⟨3000000, .pose (standing 3000000 ⟨3, 4, 1⟩).value⟩, .assemble ⟨3000000, false, none⟩]

/-- What was passed over does not count: the second ground truth gives the way from the first pose. -/
theorem walk_adds_up :
    ∃ first second, ((poseRecorder ℝ).run (.new Config.default []) walk).2 = [first, second]
      ∧ first.pose = standing 1000000 ⟨0, 0, 0⟩ ∧ second.pose = standing 3000000 ⟨3, 4, 1⟩
      ∧ first.report.value.velocity = ⟨0, 0, 0⟩ ∧ PoseRecord.travelled [first, second] = ⟨4, 3, -1⟩ := by
  obtain ⟨-, -, -, hfirst, -, hadds⟩ := truth_adds_up (Config.default : Config ℝ) [] walk
  obtain ⟨first, second, hlog, hstart, hend⟩ : ∃ first second,
      ((poseRecorder ℝ).run (.new Config.default []) walk).2 = [first, second]
        ∧ first.pose = standing 1000000 ⟨0, 0, 0⟩ ∧ second.pose = standing 3000000 ⟨3, 4, 1⟩ := ⟨_, _, rfl, rfl, rfl⟩
  rw [hlog] at hfirst hadds
  have hlater : [first, second].IsChain fun d e => d.pose.time < e.pose.time := by
    rw [List.isChain_pair, hstart, hend]
    decide
  have hway := hadds [first, second] (List.infix_refl _) hlater first rfl second rfl
  refine ⟨first, second, hlog, hstart, hend, (hfirst first rfl).1, ?_⟩
  rw [hway, PoseRecord.displacementTo, hstart, hend]
  ext <;> simp [standing, Vec3.northEastDown]

end Assembler

end HilBridge
