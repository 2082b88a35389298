import HilBridge.Proofs.Sensor.Unnumbered
import HilBridge.Proofs.Simulation.VehicleTick

/-!
# `HilBridge.Proofs.Simulation.Refill` — the samples of a tick take the place of those before

A vehicle hands over a sample of every sensor in every tick. Where nothing is later than they are, all are kept, and
what waited before is gone. So what the bridge holds after a tick's delivery is known in closed form
(`Vehicle.refill`), and a delivery that another one follows might as well not have been made, but for the numbers
that its inertial sample has used up (`unnumbered_refill_refill`).

Range sensors need some care, since of several on one link only the first is ever served.
-/

namespace HilBridge

variable {L α β : Type}

namespace Feed

/-- A sample waits, whatever did before. -/
def refill (f : Feed β) (x : Stamped β) : Feed β :=
  { f with slot := f.slot.store x }

theorem offer?_eq_refill {f : Feed β} {x : Stamped β} (h : ∀ last ∈ f.lastSent, last ≤ x.time) :
    f.offer? x = some (f.refill x) := by
  have hkept : ¬ f.isStale x.time = true := by
    intro hstale
    obtain ⟨last, hlast, hlt⟩ := any_lt_iff.mp hstale
    exact absurd hlt (Nat.not_lt.mpr (h last hlast))
  rw [offer?, if_neg hkept, refill]

end Feed

namespace Assembler

/-! ## Range sensors -/

/-- A distance waits at the first channel of each link that is chosen. -/
def refillRanges (x : Stamped α) (chosen : String → Bool) : List (RangeChannel α) → List (RangeChannel α)
  | [] => []
  | channel :: rest =>
    (if chosen channel.link.name then { channel with feed := channel.feed.refill x } else channel)
      :: refillRanges x (fun name => chosen name && name != channel.link.name) rest

variable {x y : Stamped α} {chosen other : String → Bool} {channels : List (RangeChannel α)}

theorem refillRanges_none (hnone : ∀ name, chosen name = false) : refillRanges x chosen channels = channels := by
  induction channels generalizing chosen with
  | nil => rfl
  | cons channel rest ih =>
    have hrest : ∀ name, (chosen name && name != channel.link.name) = false := by
      intro name
      rw [hnone, Bool.false_and]
    rw [refillRanges, hnone, if_neg Bool.false_ne_true, ih hrest]

/-- Only the names of the channels matter. -/
theorem refillRanges_congr (h : ∀ channel ∈ channels, chosen channel.link.name = other channel.link.name) :
    refillRanges x chosen channels = refillRanges x other channels := by
  induction channels generalizing chosen other with
  | nil => rfl
  | cons channel rest ih =>
    have hrest : ∀ c ∈ rest, (chosen c.link.name && c.link.name != channel.link.name)
        = (other c.link.name && c.link.name != channel.link.name) := by
      intro c hc
      rw [h c (List.mem_cons_of_mem _ hc)]
    have htail := @ih (fun name => chosen name && name != channel.link.name)
      (fun name => other name && name != channel.link.name) hrest
    rw [refillRanges, refillRanges, h channel List.mem_cons_self, htail]

theorem refillRanges_refillRanges :
    refillRanges y chosen (refillRanges x chosen channels) = refillRanges y chosen channels := by
  induction channels generalizing chosen with
  | nil => rfl
  | cons channel rest ih =>
    cases hchosen : chosen channel.link.name with
    | true =>
      simp only [refillRanges, hchosen, if_true, ih]
      rfl
    | false => simp only [refillRanges, hchosen, Bool.false_eq_true, if_false, ih]

/-- No channel has sent anything later than a moment. -/
def RangesNotAfter (now : Nat) (channels : List (RangeChannel α)) : Prop :=
  ∀ channel ∈ channels, ∀ last ∈ channel.feed.lastSent, last ≤ now

theorem RangesNotAfter.refillRanges {now : Nat} (h : RangesNotAfter now channels) :
    RangesNotAfter now (refillRanges x chosen channels) := by
  induction channels generalizing chosen with
  | nil => exact h
  | cons channel rest ih =>
    have hrest : RangesNotAfter now rest := fun c hc => h c (List.mem_cons_of_mem _ hc)
    intro c hc
    rcases List.mem_cons.mp hc with rfl | hc
    · have hfirst := h channel List.mem_cons_self
      split <;> exact hfirst
    · exact ih hrest c hc

theorem offerRange_first {c : RangeChannel α} (h : ∀ last ∈ c.feed.lastSent, last ≤ x.time)
    (rest : List (RangeChannel α)) :
    (offerRange c.link.name x (c :: rest)).2 = { c with feed := c.feed.refill x } :: rest := by
  rw [offerRange, if_pos rfl, Feed.offer?_eq_refill h]

theorem offerRange_rest {c : RangeChannel α} {link : String} (h : c.link.name ≠ link)
    (rest : List (RangeChannel α)) :
    (offerRange link x (c :: rest)).2 = c :: (offerRange link x rest).2 := by
  rw [offerRange, if_neg h]

/-- One more link is served. -/
theorem offerRange_refillRanges (h : RangesNotAfter x.time channels) (link : String) :
    (offerRange link x (refillRanges x chosen channels)).2
      = refillRanges x (fun name => chosen name || name == link) channels := by
  induction channels generalizing chosen with
  | nil => rfl
  | cons channel rest ih =>
    have hrest : RangesNotAfter x.time rest := fun c hc => h c (List.mem_cons_of_mem _ hc)
    have hfirst : ∀ last ∈ channel.feed.lastSent, last ≤ x.time := h channel List.mem_cons_self
    by_cases hname : channel.link.name = link
    · -- the first channel of the link: whether it has been served before does not matter
      subst hname
      have htail : refillRanges x (fun name => chosen name && name != channel.link.name) rest
          = refillRanges x
            (fun name => (chosen name || name == channel.link.name) && name != channel.link.name) rest := by
        refine refillRanges_congr fun c _ => ?_
        cases hc : c.link.name == channel.link.name <;> simp [hc, bne]
      rw [refillRanges, refillRanges, beq_self_eq_true, Bool.or_true, if_pos rfl, ← htail]
      cases chosen channel.link.name with
      | true => exact offerRange_first (c := { channel with feed := channel.feed.refill x }) hfirst _
      | false => exact offerRange_first hfirst _
    · have hhead : (channel.link.name == link) = false := beq_eq_false_iff_ne.mpr hname
      have htail : refillRanges x (fun name => (chosen name && name != channel.link.name) || name == link) rest
          = refillRanges x (fun name => (chosen name || name == link) && name != channel.link.name) rest := by
        refine refillRanges_congr fun c _ => ?_
        by_cases hc : c.link.name = link
        · have hne : (c.link.name != channel.link.name) = true := by
            rw [bne_iff_ne, hc]
            exact fun h => hname h.symm
          rw [hne, Bool.and_true, Bool.and_true]
        · rw [beq_eq_false_iff_ne.mpr hc, Bool.or_false, Bool.or_false]
      rw [refillRanges, refillRanges, hhead, Bool.or_false, ← htail, ← ih hrest]
      cases chosen channel.link.name with
      | true => exact offerRange_rest (c := { channel with feed := channel.feed.refill x }) hname _
      | false => exact offerRange_rest hname _

variable [Scalar α] {a : Assembler α}

omit [Scalar α] in
theorem NotAfter.ranges {now : Nat} (h : a.NotAfter now) : RangesNotAfter now a.ranges := by
  intro channel hmem last hlast
  obtain ⟨i, hi⟩ := List.getElem?_of_mem hmem
  have htray := (h (.range i)).2 last
  simp only [tray, hi] at htray
  exact htray hlast

omit [Scalar α] in
/-- Where nothing is later than a distance, its delivery only changes the channels. -/
theorem deliverRange_of_ranges (h : RangesNotAfter x.time a.ranges) (link : String) :
    (a.deliverRange link x).2 = { a with ranges := (offerRange link x a.ranges).2 } := by
  rcases offerRange_cases link x a.ranges with ⟨hunknown, -⟩ | ⟨channel, hchannel, ⟨hoffer, -⟩ | ⟨feed, -, hstored⟩⟩
  · rw [deliverRange, hunknown]
  · have hkept := Feed.offer?_eq_refill (h channel (List.mem_of_getElem? hchannel))
    rw [hoffer] at hkept
    cases hkept
  · rw [deliverRange, hstored]

omit [Scalar α] in
/-- The distance of a tick is delivered for one link after another. -/
theorem foldl_deliverRange (h : RangesNotAfter x.time a.ranges) (links : List RangeLink) :
    links.foldl (fun a link => (a.deliverRange link.name x).2) a
      = { a with ranges := refillRanges x (fun name => links.any fun link => name == link.name) a.ranges } := by
  induction links using List.reverseRecOn with
  | nil =>
    have hnone : refillRanges x (fun name => ([] : List RangeLink).any fun link => name == link.name) a.ranges
        = a.ranges := refillRanges_none fun _ => rfl
    rw [hnone]
    rfl
  | append_singleton front link ih =>
    rw [List.foldl_append, ih, List.foldl_cons, List.foldl_nil, deliverRange_of_ranges h.refillRanges]
    dsimp only
    rw [offerRange_refillRanges h]
    simp only [List.any_append, List.any_cons, List.any_nil, Bool.or_false]

end Assembler

/-! ## All samples of a tick -/

namespace Vehicle

variable [Scalar α]

/-- What an assembler holds once it has kept all samples of a vehicle. -/
def refill (v : Vehicle α) (a : Assembler α) : Assembler α :=
  { a with
    pose := a.pose.refill (v.stamp ⟨⟨0.0, 0.0, v.state.altitude⟩, v.orientation⟩)
    imu := (a.imu.store (v.stamp v.imuReading.1)).2
    barometer := a.barometer.refill (v.stamp (Atmosphere.standard.pressureAt v.amsl))
    magnetometer := a.magnetometer.refill (v.stamp (v.orientation.conj.rotate v.settings.magneticField))
    gps := a.gps.refill (v.stamp
      { latitude := v.settings.home.latitude
        longitude := v.settings.home.longitude
        altitude := v.amsl
        velocity := ⟨0.0, 0.0, v.state.climbRate⟩ })
    ranges := Assembler.refillRanges v.rangeSample (fun _ => true) a.ranges }

/-- What was there is gone, but for the numbers that have been given. -/
theorem unnumbered_refill_refill (u v : Vehicle α) (a : Assembler α) :
    (v.refill (u.refill a)).unnumbered = (v.refill a).unnumbered := by
  have hranges : Assembler.refillRanges v.rangeSample (fun _ => true)
        (Assembler.refillRanges u.rangeSample (fun _ => true) a.ranges)
      = Assembler.refillRanges v.rangeSample (fun _ => true) a.ranges := Assembler.refillRanges_refillRanges
  exact congrArg (fun ranges => ({ (v.refill a).unnumbered with ranges } : Assembler α)) hranges

/-- The numbers before do not matter to what is there afterwards, but for the numbers. -/
theorem unnumbered_refill (v : Vehicle α) (a : Assembler α) :
    (v.refill a.unnumbered).unnumbered = (v.refill a).unnumbered :=
  rfl

theorem foldl_samples {v : Vehicle α} {a : Assembler α} (h : a.NotAfter v.time) :
    v.samples.1.foldl (fun a sample => (a.deliver sample).2) a = { v.refill a with ranges := a.ranges } := by
  have hkept : ∀ {β : Type} (f : Feed β), (∀ last ∈ f.lastSent, last ≤ v.time) →
      ∀ value, f.offer? ⟨v.time, value⟩ = some (f.refill ⟨v.time, value⟩) := by
    intro β f hlast value
    exact Feed.offer?_eq_refill hlast
  have himu := h.imu_fresh
  simp only [samples, stamp, List.foldl_cons, List.foldl_nil, Assembler.deliver, hkept a.pose (h .pose).2,
    hkept a.barometer (h .barometer).2, hkept a.magnetometer (h .magnetometer).2, hkept a.gps (h .gps).2,
    if_neg himu, Assembler.storeImu]
  rfl

/-- What a delivery comes to where nothing is later than the vehicle. -/
theorem delivered_eq_refill {v : Vehicle α} {a : Assembler α} (h : a.NotAfter v.time) :
    let sampled := v.samples.1.foldl (fun a sample => (a.deliver sample).2) a
    sampled.rangeLinks.foldl (fun a link => (a.deliverRange link.name v.rangeSample).2) sampled = v.refill a := by
  intro sampled
  have hsampled : sampled = { v.refill a with ranges := a.ranges } := foldl_samples h
  have hfold := Assembler.foldl_deliverRange (x := v.rangeSample) (a := { v.refill a with ranges := a.ranges })
    h.ranges a.rangeLinks
  -- every channel has a link, so all are chosen
  have hall : Assembler.refillRanges v.rangeSample (fun name => a.rangeLinks.any fun link => name == link.name) a.ranges
      = Assembler.refillRanges v.rangeSample (fun _ => true) a.ranges := by
    refine Assembler.refillRanges_congr fun channel hmem => ?_
    rw [List.any_eq_true]
    exact ⟨channel.link, List.mem_map_of_mem hmem, beq_self_eq_true _⟩
  dsimp only at hfold
  rw [hall] at hfold
  rw [hsampled]
  exact hfold

/-- It is a delivery like any other. -/
theorem fed_refill {v : Vehicle α} {a : Assembler α} (h : a.NotAfter v.time) :
    Assembler.Fed v.time a (v.refill a) := by
  have hsampled := v.fed_samples h
  rw [← delivered_eq_refill h]
  exact hsampled.passes (Assembler.passes_ranges v.rangeSample (hsampled.accepts.notAfter h) _)

/-! ## Noise -/

/-- Where nothing is drawn, no word of the sequence is used up. -/
theorem noise_imuReading {v : Vehicle α} (hgyro : v.settings.gyroNoise.isRandom = false)
    (hacceleration : v.settings.accelerationNoise.isRandom = false) : v.imuReading.2 = v.noise := by
  have hadd : ∀ (noise : NoiseSource) (w : Vec3 α) (n : Noise α),
      n.isRandom = false → (noise.addVec w n).2 = noise := by
    intro noise w n hn
    simp only [NoiseSource.addVec, NoiseSource.add, NoiseSource.sample_of_calm hn]
  simp only [imuReading, hadd _ _ _ hgyro, hadd _ _ _ hacceleration]

end Vehicle

namespace Simulation

variable [Scalar α]

/-- A tick's delivery, where nothing is later than the vehicle. -/
theorem deliver_eq_refill {s : Simulation L α} (h : s.bridge.assembler.NotAfter s.vehicle.time) :
    s.deliver = ⟨{ s.bridge with assembler := s.vehicle.refill s.bridge.assembler },
      { s.vehicle with noise := s.vehicle.imuReading.2 }⟩ := by
  rw [deliver_eq, ← Vehicle.delivered_eq_refill h]

end Simulation

end HilBridge
