import HilBridge.Proofs.Sensor.Disturbance
import HilBridge.Proofs.Sensor.Ledger
import Mathlib.Data.List.Induction

/-!
# `HilBridge.Proofs.Sensor.Bookkeeping` — what the operations of an assembler do to its samples

Every operation of the assembler has its entries in the ledger, and `Assembler.Books` says what entries and
operation have in common: the tray of each category moves along the entries of the category, settings and
sensors stay, and the count of stale samples grows by the entries of samples lost for their age.

A report is made without asking for the age of its sample again, except an inertial one. That no such
report is too old is the invariant `InOrder`: what waits is no older than the last report. It follows from the
trays' movements, so every operation keeps it.
-/

namespace HilBridge

variable {α : Type}

/-- A moment before the last one, if there was one. -/
theorem any_lt_iff {last : Option Nat} {time : Nat} : last.any (time < ·) = true ↔ ∃ t ∈ last, time < t := by
  cases last <;> simp

/-! ## Feeds -/

namespace Feed

variable {β : Type}

/-- A feed as the tray of its category. -/
def tray (f : Feed β) (arrive : Stamped β → Arrival α) : Tray α :=
  ⟨f.slot.pending?.map arrive, f.lastSent⟩

/-- What taking from a feed can come to: nothing, or the sample that waited, which then is the last sent. -/
inductive Takes (f : Feed β) : Option (Stamped β) → Feed β → Prop
  | nothing {g : Feed β} (pending : g.slot.pending? = f.slot.pending?) (lastSent : g.lastSent = f.lastSent) :
    Takes f none g
  | sample {x : Stamped β} {g : Feed β} (pending : f.slot.pending? = some x)
      (taken : g.slot.pending? = none) (sent : g.lastSent = some x.time) :
    Takes f (some x) g

theorem takes_send (f : Feed β) : f.Takes f.send.1 f.send.2 := by
  unfold send
  rcases htake : f.slot.take with ⟨x, slot⟩
  have hwaits : f.slot.pending? = x := congrArg Prod.fst htake
  have hempty : slot.pending? = none := by
    rw [show slot = f.slot.take.2 from congrArg Prod.snd htake.symm, Slot.pending?_take]
  cases x with
  | none => exact .nothing (hempty.trans hwaits.symm) rfl
  | some x => exact .sample hwaits hempty rfl

theorem takes_sendDue (f : Feed β) (now interval : Nat) :
    f.Takes (f.sendDue now interval).1 (f.sendDue now interval).2 := by
  unfold sendDue
  split
  · exact f.takes_send
  · exact .nothing rfl rfl

/-- What is taken from a feed and turned into a report is what waited in its category. -/
theorem Takes.steps [Scalar α] {s : AssemblySettings α} {links : List RangeLink} {f g : Feed β}
    {x : Option (Stamped β)} (htake : f.Takes x g) {k : Category} (hk : k ≠ .imu)
    {arrive : Stamped β → Arrival α} (hcategory : ∀ y, (arrive y).category = k)
    (htime : ∀ y, (arrive y).time = y.time) (hfresh : (f.tray arrive).IsFresh)
    {make : Stamped β → Stamped (Report α)} (hmakes : ∀ y, (arrive y).Makes s links (make y)) :
    Tray.Steps s links (f.tray arrive) (x.map fun y => .reported k (make y)).toList (g.tray arrive) := by
  cases htake with
  | nothing pending lastSent =>
    rw [tray, tray, pending, lastSent]
    exact .refl
  | @sample y g pending taken sent =>
    have hwaits : (f.tray arrive).pending = some (arrive y) := by
      rw [tray, pending]
      rfl
    have hreported : g.tray arrive = ⟨none, some (arrive y).time⟩ := by
      rw [tray, taken, sent, htime]
      rfl
    rw [hreported]
    refine .single (.report (f.tray arrive) (arrive y) k (make y) hwaits ?_ (hmakes y))
    exact (hfresh (arrive y) hwaits).resolve_left fun himu => hk ((hcategory y).symm.trans himu)

/-- A sample that is not kept is older than the last one sent. -/
theorem offer?_eq_none {f : Feed β} {x : Stamped β} (h : f.offer? x = none) : ∃ time ∈ f.lastSent, x.time < time := by
  unfold offer? at h
  split at h
  · exact any_lt_iff.mp ‹_›
  · cases h

/-- A sample that is kept waits from then on, and is no older than the last one sent. -/
theorem offer?_eq_some {f g : Feed β} {x : Stamped β} (h : f.offer? x = some g) :
    g.slot.pending? = some x ∧ g.lastSent = f.lastSent ∧ ∀ time ∈ f.lastSent, time ≤ x.time := by
  unfold offer? at h
  split at h
  · cases h
  · rename_i hstale
    obtain rfl := Option.some.inj h
    exact ⟨rfl, rfl, fun time htime => Nat.le_of_not_lt fun hlt => hstale (any_lt_iff.mpr ⟨time, htime, hlt⟩)⟩

end Feed

/-! ## Trays and entries of an assembler -/

namespace Assembler

/-- What waits in a category, and when its last report was. -/
def tray (a : Assembler α) : Category → Tray α
  | .imu => ⟨a.imu.slot.pending?.map .imu, a.lastImuSent⟩
  | .barometer => a.barometer.tray .barometer
  | .magnetometer => a.magnetometer.tray .magnetometer
  | .gps => a.gps.tray .gps
  | .pose => a.pose.tray .pose
  | .range channel =>
    match a.ranges[channel]? with
    | some c => c.feed.tray (.range channel)
    | none => .empty

/-- In no category does anything wait that is older than the last report, but for inertial samples. -/
def InOrder (a : Assembler α) : Prop :=
  ∀ k, (a.tray k).IsFresh

end Assembler

/-- A sample under its category; inertial ones get the number. -/
def Sample.arrival (seq : UInt8) (sample : Sample α) : Arrival α :=
  match sample.value with
  | .pose pose => .pose ⟨sample.time, pose⟩
  | .imu reading => .imu ⟨seq, sample.time, reading⟩
  | .barometer pressure => .barometer ⟨sample.time, pressure⟩
  | .magnetometer field => .magnetometer ⟨sample.time, field⟩
  | .gps reading => .gps ⟨sample.time, reading⟩

namespace Assembler

variable [Scalar α]

def deliverEntries (a : Assembler α) (sample : Sample α) : Ledger α :=
  let arrival := sample.arrival a.imu.nextSeq
  if (a.deliver sample).1 then [.accepted arrival] else [.refused arrival.category]

def storeImuEntries (a : Assembler α) (sample : Stamped (ImuReading α)) : Ledger α :=
  [.accepted (.imu ⟨(a.storeImu sample).1, sample⟩)]

/-- A distance of a link that carries no sensor leaves no entry. -/
def deliverRangeEntries (a : Assembler α) (link : String) (sample : Stamped α) : Ledger α :=
  let channel := a.rangeLinks.findIdx (·.name = link)
  if (a.deliverRange link sample).1 then [.accepted (.range channel sample)]
  else if channel < a.rangeLinks.length then [.refused (.range channel)]
  else []

/-- The inertial report of a cycle, if it sends one. -/
def takeImuDue (a : Assembler α) (plan : CyclePlan) : Option (Stamped (ImuReport α)) × Assembler α :=
  if plan.sendImu then a.takeImu plan.imuStep else (none, a)

/-- An inertial sample that waited for a cycle that sends it, and makes no report, is lost for its age. -/
def takeImuEntries (a : Assembler α) (plan : CyclePlan) : Ledger α :=
  match (a.takeImuDue plan).1 with
  | some report => [.reported .imu (wrap .imu report)]
  | none => if plan.sendImu && a.imu.slot.pending?.isSome then [.discarded] else []

/-- A report that was made in a category. -/
def reported {β : Type} (k : Category) (kind : β → Report α) (report : Option (Stamped β)) : Ledger α :=
  ((report.map (wrap kind)).map (.reported k)).toList

/-- The reports of all pending distances, under the positions of their channels. -/
def takeRangesEntries (channels : List (RangeChannel α)) : Ledger α :=
  channels.zipIdx.flatMap fun (channel, position) => reported (.range position) .range (takeRange channel).1

def assembleEntries (a : Assembler α) (plan : CyclePlan) : Ledger α :=
  let imu := a.takeImuDue plan
  let barometer := imu.2.takeBarometer plan.now
  let magnetometer := barometer.2.takeMagnetometer plan.now
  let gps := magnetometer.2.takeGps plan.now
  let truth := gps.2.takeTruth
  a.takeImuEntries plan ++ reported .barometer .barometer barometer.1
    ++ reported .magnetometer .magnetometer magnetometer.1 ++ reported .gps .gps gps.1
    ++ reported .pose .groundTruth truth.1 ++ takeRangesEntries truth.2.ranges

/-! ## The books -/

/-- An operation and its entries agree. -/
structure Books (a : Assembler α) (l : Ledger α) (a' : Assembler α) : Prop where
  settings : a'.settings = a.settings
  links : a'.rangeLinks = a.rangeLinks
  /-- What is disturbed on the way can be. -/
  faultless : a.settings.noise.Bounded → a'.noise.fault = a.noise.fault
  stale : a'.stats.staleDropped = a.stats.staleDropped + l.countP Entry.isStale
  trays : ∀ k, Tray.Steps a.settings a.rangeLinks (a.tray k) (l.moving k) (a'.tray k)

variable {a a' a'' : Assembler α} {l m : Ledger α} {k : Category}

theorem Books.refl (a : Assembler α) : a.Books [] a :=
  ⟨rfl, rfl, fun _ => rfl, rfl, fun _ => .refl⟩

theorem Books.trans (h : a.Books l a') (h' : a'.Books m a'') : a.Books (l ++ m) a'' where
  settings := h'.settings.trans h.settings
  links := h'.links.trans h.links
  faultless hbounded := (h'.faultless (h.settings ▸ hbounded)).trans (h.faultless hbounded)
  stale := by rw [h'.stale, h.stale, List.countP_append, Nat.add_assoc]
  trays k := by
    rw [Ledger.moving_append]
    have hmoved := h'.trays k
    rw [h.settings, h.links] at hmoved
    exact (h.trays k).trans hmoved

/-- What waits stays in order. -/
theorem Books.inOrder (h : a.Books l a') (ha : a.InOrder) : a'.InOrder :=
  fun k => (h.trays k).isFresh (ha k)

/-- Nothing but what is said of one category has changed. -/
structure Beside (k : Category) (a a' : Assembler α) : Prop where
  settings : a'.settings = a.settings
  links : a'.rangeLinks = a.rangeLinks
  faultless : a.settings.noise.Bounded → a'.noise.fault = a.noise.fault
  others : ∀ j, j ≠ k → a'.tray j = a.tray j

/-! Every category has fields of its own. -/

section Fields

variable (a : Assembler α)

theorem beside_imu (imu : ImuStore α) (lastImuSent : Option Nat) (previousImuSeq : Option UInt8)
    (stats : AssemblyStats) : Beside .imu a { a with imu, lastImuSent, previousImuSeq, stats } :=
  ⟨rfl, rfl, fun _ => rfl, fun j hj => by cases j <;> first | rfl | exact absurd rfl hj⟩

theorem beside_barometer (barometer : Feed α) {noise : NoiseSource}
    (hfaultless : a.settings.noise.Bounded → noise.fault = a.noise.fault) :
    Beside .barometer a { a with barometer, noise } :=
  ⟨rfl, rfl, hfaultless, fun j hj => by cases j <;> first | rfl | exact absurd rfl hj⟩

theorem beside_magnetometer (magnetometer : Feed (Vec3 α)) {noise : NoiseSource}
    (hfaultless : a.settings.noise.Bounded → noise.fault = a.noise.fault) :
    Beside .magnetometer a { a with magnetometer, noise } :=
  ⟨rfl, rfl, hfaultless, fun j hj => by cases j <;> first | rfl | exact absurd rfl hj⟩

theorem beside_gps (gps : Feed (GpsReading α)) {noise : NoiseSource}
    (hfaultless : a.settings.noise.Bounded → noise.fault = a.noise.fault) :
    Beside .gps a { a with gps, noise } :=
  ⟨rfl, rfl, hfaultless, fun j hj => by cases j <;> first | rfl | exact absurd rfl hj⟩

theorem beside_pose (pose : Feed (Pose α)) (previousMotion : Option (Motion α)) :
    Beside .pose a { a with pose, previousMotion } :=
  ⟨rfl, rfl, fun _ => rfl, fun j hj => by cases j <;> first | rfl | exact absurd rfl hj⟩

end Fields

/-- Where no tray moves there is at most something to count. -/
theorem Books.still (hsettings : a'.settings = a.settings) (hlinks : a'.rangeLinks = a.rangeLinks)
    (hnoise : a'.noise = a.noise) (htrays : ∀ k, a'.tray k = a.tray k) (hl : ∀ k, l.moving k = [])
    (hstale : a'.stats.staleDropped = a.stats.staleDropped + l.countP Entry.isStale) : a.Books l a' where
  settings := hsettings
  links := hlinks
  faultless _ := congrArg NoiseSource.fault hnoise
  stale := hstale
  trays k := by
    rw [htrays k, hl k]
    exact .refl

/-- Entries of one category move its tray, and the other categories stay. -/
theorem Books.category (hbeside : Beside k a a') (hl : ∀ e ∈ l, ∀ j, e.moves j = decide (j = k))
    (hsteps : Tray.Steps a.settings a.rangeLinks (a.tray k) l (a'.tray k))
    (hstale : a'.stats.staleDropped = a.stats.staleDropped + l.countP Entry.isStale) : a.Books l a' where
  settings := hbeside.settings
  links := hbeside.links
  faultless := hbeside.faultless
  stale := hstale
  trays j := by
    by_cases hj : j = k
    · subst hj
      have hall : l.moving j = l := List.filter_eq_self.mpr fun e he => by simp [hl e he]
      rw [hall]
      exact hsteps
    · have hnone : l.moving j = [] := List.filter_eq_nil_iff.mpr fun e he => by simp [hl e he, hj]
      rw [hnone, hbeside.others j hj]
      exact .refl

/-! ## Delivery -/

theorem books_accept {x : Arrival α} (hbeside : Beside x.category a a')
    (hfresh : x.category = .imu ∨ ∀ time ∈ (a.tray x.category).lastSent, time ≤ x.time)
    (hafter : a'.tray x.category = ⟨some x, (a.tray x.category).lastSent⟩)
    (hstale : a'.stats.staleDropped = a.stats.staleDropped) : a.Books [.accepted x] a' := by
  refine .category hbeside (fun e he j => ?_) ?_ hstale
  · rw [List.mem_singleton.mp he, Entry.moves]
    exact decide_eq_decide.mpr eq_comm
  · rw [hafter]
    exact .single (.accept _ x hfresh)

/-- A sample that is refused is counted, and that is all. -/
theorem books_dropStale (a : Assembler α) (k : Category) : a.Books [.refused k] a.dropStale :=
  .still rfl rfl rfl (fun j => by cases j <;> rfl) (fun _ => rfl) rfl

theorem books_storeImu (a : Assembler α) (sample : Stamped (ImuReading α)) :
    a.Books (a.storeImuEntries sample) (a.storeImu sample).2 :=
  books_accept (a.beside_imu ..) (.inl rfl) rfl rfl

/-- A sample that a feed keeps waits in its category. -/
theorem books_offered {β : Type} (arrive : Stamped β → Arrival α) {f g : Feed β} {x : Stamped β}
    (hoffer : f.offer? x = some g) (htime : (arrive x).time = x.time)
    (hbeside : Beside (arrive x).category a a') (hbefore : a.tray (arrive x).category = f.tray arrive)
    (hafter : a'.tray (arrive x).category = g.tray arrive)
    (hstale : a'.stats.staleDropped = a.stats.staleDropped) : a.Books [.accepted (arrive x)] a' := by
  obtain ⟨hpending, hlast, hfresh⟩ := Feed.offer?_eq_some hoffer
  refine books_accept hbeside (.inr fun time hmem => ?_) ?_ hstale
  · rw [hbefore] at hmem
    rw [htime]
    exact hfresh time hmem
  · rw [hafter, hbefore, Feed.tray, Feed.tray, hpending, hlast]
    rfl

/-- A delivery refuses a sample that is older than the last report, or it accepts it. -/
theorem deliver_cases (a : Assembler α) (sample : Sample α) :
    let x := sample.arrival a.imu.nextSeq
    (a.deliver sample = (false, a.dropStale) ∧ ∃ time ∈ (a.tray x.category).lastSent, x.time < time)
      ∨ ∃ a', a.deliver sample = (true, a') ∧ a.Books [.accepted x] a' := by
  obtain ⟨time, reading⟩ := sample
  cases reading with
  | imu reading =>
    by_cases hold : a.lastImuSent.any (time < ·) = true
    · exact .inl ⟨by simp only [deliver, if_pos hold], any_lt_iff.mp hold⟩
    · exact .inr ⟨(a.storeImu ⟨time, reading⟩).2, by simp only [deliver, if_neg hold],
        books_storeImu a ⟨time, reading⟩⟩
  | pose pose =>
    rcases hoffer : a.pose.offer? ⟨time, pose⟩ with _ | feed
    · exact .inl ⟨by simp only [deliver, hoffer], Feed.offer?_eq_none hoffer⟩
    · exact .inr ⟨{ a with pose := feed }, by simp only [deliver, hoffer],
        books_offered .pose hoffer rfl (a.beside_pose feed _) rfl rfl rfl⟩
  | barometer pressure =>
    rcases hoffer : a.barometer.offer? ⟨time, pressure⟩ with _ | feed
    · exact .inl ⟨by simp only [deliver, hoffer], Feed.offer?_eq_none hoffer⟩
    · exact .inr ⟨{ a with barometer := feed }, by simp only [deliver, hoffer],
        books_offered .barometer hoffer rfl (a.beside_barometer feed fun _ => rfl) rfl rfl rfl⟩
  | magnetometer field =>
    rcases hoffer : a.magnetometer.offer? ⟨time, field⟩ with _ | feed
    · exact .inl ⟨by simp only [deliver, hoffer], Feed.offer?_eq_none hoffer⟩
    · exact .inr ⟨{ a with magnetometer := feed }, by simp only [deliver, hoffer],
        books_offered .magnetometer hoffer rfl (a.beside_magnetometer feed fun _ => rfl) rfl rfl rfl⟩
  | gps reading =>
    rcases hoffer : a.gps.offer? ⟨time, reading⟩ with _ | feed
    · exact .inl ⟨by simp only [deliver, hoffer], Feed.offer?_eq_none hoffer⟩
    · exact .inr ⟨{ a with gps := feed }, by simp only [deliver, hoffer],
        books_offered .gps hoffer rfl (a.beside_gps feed fun _ => rfl) rfl rfl rfl⟩

theorem books_deliver (a : Assembler α) (sample : Sample α) :
    a.Books (a.deliverEntries sample) (a.deliver sample).2 := by
  rcases a.deliver_cases sample with ⟨hrefused, -⟩ | ⟨a', haccepted, hbooks⟩
  · rw [deliverEntries, hrefused]
    exact books_dropStale a _
  · rw [deliverEntries, haccepted]
    exact hbooks

omit [Scalar α] in
/-- A distance goes to the first channel of its link, which keeps it or finds it too old. -/
theorem offerRange_cases (link : String) (sample : Stamped α) (channels : List (RangeChannel α)) :
    let i := (channels.map (·.link)).findIdx (·.name = link)
    offerRange link sample channels = (.unknownLink, channels) ∧ channels.length ≤ i
      ∨ ∃ channel, channels[i]? = some channel
        ∧ (channel.feed.offer? sample = none ∧ offerRange link sample channels = (.stale, channels)
          ∨ ∃ feed, channel.feed.offer? sample = some feed
            ∧ offerRange link sample channels = (.stored, channels.set i { channel with feed })) := by
  induction channels with
  | nil => exact .inl ⟨rfl, Nat.le_refl 0⟩
  | cons channel rest ih =>
    rw [List.map_cons, List.findIdx_cons]
    by_cases hname : channel.link.name = link
    · rw [decide_eq_true hname]
      refine .inr ⟨channel, rfl, ?_⟩
      rcases hoffer : channel.feed.offer? sample with _ | feed
      · exact .inl ⟨rfl, by simp only [offerRange, if_pos hname, hoffer]⟩
      · exact .inr ⟨feed, rfl, by simp only [offerRange, if_pos hname, hoffer, cond_true, List.set_cons_zero]⟩
    · have hrest : offerRange link sample (channel :: rest)
          = ((offerRange link sample rest).1, channel :: (offerRange link sample rest).2) := by
        simp only [offerRange, if_neg hname]
      rw [decide_eq_false hname, hrest]
      rcases ih with ⟨hunknown, hlength⟩ | ⟨found, hfound, ⟨hoffer, hstale⟩ | ⟨feed, hoffer, hstored⟩⟩
      · exact .inl ⟨by rw [hunknown], Nat.succ_le_succ hlength⟩
      · exact .inr ⟨found, hfound, .inl ⟨hoffer, by rw [hstale]⟩⟩
      · refine .inr ⟨found, hfound, .inr ⟨feed, hoffer, ?_⟩⟩
        rw [hstored, cond_false, List.set_cons_succ]

/-- A distance finds no channel, or it is refused or accepted by the first channel of its link. -/
theorem deliverRange_cases (a : Assembler α) (link : String) (sample : Stamped α) :
    let i := a.rangeLinks.findIdx (·.name = link)
    (a.deliverRange link sample = (false, a) ∧ a.rangeLinks.length ≤ i)
      ∨ (a.deliverRange link sample = (false, a.dropStale) ∧ i < a.rangeLinks.length
        ∧ ∃ time ∈ (a.tray (.range i)).lastSent, sample.time < time)
      ∨ ∃ a', a.deliverRange link sample = (true, a') ∧ a.Books [.accepted (.range i sample)] a' := by
  have hcases := offerRange_cases link sample a.ranges
  rw [rangeLinks, List.length_map]
  generalize (a.ranges.map (·.link)).findIdx (·.name = link) = i at hcases ⊢
  rcases hcases with ⟨hunknown, hlength⟩ | ⟨channel, hchannel, ⟨hoffer, hstale⟩ | ⟨feed, hoffer, hstored⟩⟩
  · exact .inl ⟨by rw [deliverRange, hunknown], hlength⟩
  · refine .inr (.inl ⟨by rw [deliverRange, hstale], (List.getElem?_eq_some_iff.mp hchannel).1, ?_⟩)
    simp only [tray, hchannel]
    exact Feed.offer?_eq_none hoffer
  · have hnew : (a.ranges.set i { channel with feed })[i]? = some { channel with feed } :=
      List.getElem?_set_self (List.getElem?_eq_some_iff.mp hchannel).1
    refine .inr (.inr ⟨{ a with ranges := a.ranges.set i { channel with feed } }, by rw [deliverRange, hstored], ?_⟩)
    refine books_offered (.range i) hoffer rfl ⟨rfl, ?_, fun _ => rfl, fun j hj => ?_⟩ ?_ ?_ rfl
    · have hlink : (a.ranges.map (·.link))[i]? = some channel.link := by
        rw [List.getElem?_map, hchannel]
        rfl
      obtain ⟨_, hget⟩ := List.getElem?_eq_some_iff.mp hlink
      simp only [rangeLinks, List.map_set, ← hget, List.set_getElem_self]
    · cases j with
      | range j =>
        have hne : i ≠ j := fun h => hj (congrArg Category.range h.symm)
        simp only [tray, List.getElem?_set_ne hne]
      | _ => rfl
    · simp only [tray, Arrival.category, hchannel]
    · simp only [tray, Arrival.category, hnew]

theorem books_deliverRange (a : Assembler α) (link : String) (sample : Stamped α) :
    a.Books (a.deliverRangeEntries link sample) (a.deliverRange link sample).2 := by
  unfold deliverRangeEntries
  rcases a.deliverRange_cases link sample with ⟨hunknown, hlength⟩ | ⟨hrefused, hlength, -⟩ |
    ⟨a', haccepted, hbooks⟩
  · simp only [hunknown, Bool.false_eq_true, if_false, if_neg (Nat.not_lt.mpr hlength)]
    exact .refl a
  · simp only [hrefused, Bool.false_eq_true, if_false, if_pos hlength]
    exact books_dropStale a _
  · simp only [haccepted, if_true]
    exact hbooks

theorem books_resetSequence (a : Assembler α) : a.Books [] a.resetSequence :=
  .still rfl rfl rfl (fun k => by cases k <;> rfl) (fun _ => rfl) rfl

/-! ## The send cycle -/

omit [Scalar α] in
theorem eq_of_mem_reported {β : Type} {kind : β → Report α} {report : Option (Stamped β)} {e : Entry α}
    (he : e ∈ reported k kind report) : ∃ r, e = .reported k r := by
  cases report with
  | none => cases he
  | some r => exact ⟨_, List.mem_singleton.mp he⟩

omit [Scalar α] in
theorem moves_reported {β : Type} {kind : β → Report α} {report : Option (Stamped β)} {e : Entry α}
    (he : e ∈ reported k kind report) (j : Category) : e.moves j = decide (j = k) := by
  obtain ⟨r, rfl⟩ := eq_of_mem_reported he
  rw [Entry.moves]
  exact decide_eq_decide.mpr eq_comm

omit [Scalar α] in
theorem countP_isStale_reported {β : Type} (k : Category) (kind : β → Report α) (report : Option (Stamped β)) :
    (reported k kind report).countP Entry.isStale = 0 := by
  cases report <;> rfl

section TakeImu

variable {step : Option UInt8} {sample : Numbered (Stamped (ImuReading α))}

theorem takeImu_of_none (hpending : a.imu.slot.pending? = none) :
    a.takeImu step = (none, { a with imu.slot := a.imu.slot.take.2 }) := by
  simp only [takeImu, ImuStore.take, Slot.take, hpending]

theorem takeImu_of_stale (hpending : a.imu.slot.pending? = some sample)
    (hold : a.lastImuSent.any (sample.value.time < ·) = true) :
    a.takeImu step = (none, { a with imu.slot := a.imu.slot.take.2 }.dropStale) := by
  simp only [takeImu, ImuStore.take, Slot.take, hpending, if_pos hold]

theorem takeImu_of_fresh (hpending : a.imu.slot.pending? = some sample)
    (hfresh : ¬ a.lastImuSent.any (sample.value.time < ·) = true) :
    a.takeImu step = (some ⟨sample.value.time, a.settings.imuReport sample⟩,
      { a with
        imu.slot := a.imu.slot.take.2
        stats.imuSeqGaps := a.stats.imuSeqGaps + if isGap a.previousImuSeq step sample.seq then 1 else 0
        previousImuSeq := some sample.seq
        lastImuSent := some sample.value.time }) := by
  simp only [takeImu, ImuStore.take, Slot.take, hpending, if_neg hfresh]

end TakeImu

/-- The inertial sample that waits is reported, or lost if it is older than the last report. -/
theorem books_takeImuDue (a : Assembler α) (plan : CyclePlan) :
    a.Books (a.takeImuEntries plan) (a.takeImuDue plan).2 := by
  by_cases hsend : plan.sendImu = true
  · rw [takeImuEntries, takeImuDue, if_pos hsend, hsend, Bool.true_and]
    rcases hpending : a.imu.slot.pending? with _ | sample
    · rw [takeImu_of_none hpending]
      refine .still rfl rfl rfl (fun k => ?_) (fun _ => rfl) rfl
      cases k with
      | imu => simp only [tray, Slot.pending?_take, hpending]
      | _ => rfl
    · have hbefore : a.tray .imu = ⟨some (.imu sample), a.lastImuSent⟩ := by
        simp only [tray, hpending, Option.map_some]
      by_cases hold : a.lastImuSent.any (sample.value.time < ·) = true
      · rw [takeImu_of_stale hpending hold]
        refine .category (a.beside_imu ..) (fun e he j => ?_) ?_ rfl
        · rw [List.mem_singleton.mp he]
          rfl
        · rw [hbefore]
          exact .single (.discard _ (.imu sample) rfl (any_lt_iff.mp hold))
      · rw [takeImu_of_fresh hpending hold]
        refine .category (a.beside_imu ..) (fun e he j => ?_) ?_ rfl
        · rw [List.mem_singleton.mp he]
          exact decide_eq_decide.mpr eq_comm
        · rw [hbefore]
          refine .single (.report _ (.imu sample) .imu _ rfl (fun time htime => ?_) rfl)
          exact Nat.le_of_not_lt fun hlt => hold (any_lt_iff.mpr ⟨time, htime, hlt⟩)
  · rw [takeImuEntries, takeImuDue, if_neg hsend, (Bool.not_eq_true _).mp hsend, Bool.false_and]
    exact .refl a

/-- What is taken from the feed of a category is reported, and only the feed changes. -/
theorem books_taken {β γ : Type} (arrive : Stamped β → Arrival α) {f g : Feed β} {x : Option (Stamped β)}
    (htake : f.Takes x g) (hk : k ≠ .imu) (hcategory : ∀ y, (arrive y).category = k)
    (htime : ∀ y, (arrive y).time = y.time) (ha : a.InOrder) (hbefore : a.tray k = f.tray arrive)
    (hafter : a'.tray k = g.tray arrive) (hbeside : Beside k a a')
    (hstale : a'.stats.staleDropped = a.stats.staleDropped) {kind : γ → Report α} {make : Stamped β → Stamped γ}
    (hmakes : ∀ y, (arrive y).Makes a.settings a.rangeLinks (wrap kind (make y))) :
    a.Books (reported k kind (x.map make)) a' := by
  refine .category hbeside (fun e he j => moves_reported he j) ?_ ?_
  · rw [hbefore, hafter, reported, Option.map_map, Option.map_map]
    exact htake.steps hk hcategory htime (hbefore ▸ ha k) hmakes
  · rw [hstale, countP_isStale_reported, Nat.add_zero]

theorem takeBarometer_eq (a : Assembler α) (now : Nat) :
    let (sent, feed) := a.barometer.sendDue now a.settings.barometerInterval
    ∃ noise, (a.settings.noise.Bounded → noise.fault = a.noise.fault) ∧ a.takeBarometer now
      = (sent.map fun y => ⟨y.time, (a.settings.barometerReport a.noise y.value).1⟩,
        { a with barometer := feed, noise }) := by
  rcases hsent : a.barometer.sendDue now a.settings.barometerInterval with ⟨_ | sample, feed⟩
  · exact ⟨a.noise, fun _ => rfl, by simp only [takeBarometer, hsent, Option.map_none]⟩
  · exact ⟨_, fun h => AssemblySettings.fault_barometerReport h a.noise sample.value,
      by simp only [takeBarometer, hsent, Option.map_some]⟩

theorem books_takeBarometer (ha : a.InOrder) (now : Nat) :
    a.Books (reported .barometer .barometer (a.takeBarometer now).1) (a.takeBarometer now).2 := by
  obtain ⟨noise, hfaultless, htaken⟩ := a.takeBarometer_eq now
  rw [htaken]
  exact books_taken .barometer (a.barometer.takes_sendDue ..) (by decide) (fun _ => rfl) (fun _ => rfl) ha rfl rfl
    (a.beside_barometer _ hfaultless) rfl fun y => ⟨a.noise, rfl⟩

theorem takeMagnetometer_eq (a : Assembler α) (now : Nat) :
    let (sent, feed) := a.magnetometer.sendDue now a.settings.magnetometerInterval
    ∃ noise, (a.settings.noise.Bounded → noise.fault = a.noise.fault) ∧ a.takeMagnetometer now
      = (sent.map fun y => ⟨y.time, (a.settings.magnetometerReport a.noise y.value).1⟩,
        { a with magnetometer := feed, noise }) := by
  rcases hsent : a.magnetometer.sendDue now a.settings.magnetometerInterval with ⟨_ | sample, feed⟩
  · exact ⟨a.noise, fun _ => rfl, by simp only [takeMagnetometer, hsent, Option.map_none]⟩
  · exact ⟨_, fun h => AssemblySettings.fault_magnetometerReport h a.noise sample.value,
      by simp only [takeMagnetometer, hsent, Option.map_some]⟩

theorem books_takeMagnetometer (ha : a.InOrder) (now : Nat) :
    a.Books (reported .magnetometer .magnetometer (a.takeMagnetometer now).1) (a.takeMagnetometer now).2 := by
  obtain ⟨noise, hfaultless, htaken⟩ := a.takeMagnetometer_eq now
  rw [htaken]
  exact books_taken .magnetometer (a.magnetometer.takes_sendDue ..) (by decide) (fun _ => rfl) (fun _ => rfl) ha rfl rfl
    (a.beside_magnetometer _ hfaultless) rfl fun y => ⟨a.noise, rfl⟩

theorem takeGps_eq (a : Assembler α) (now : Nat) :
    let (sent, feed) := a.gps.sendDue now a.settings.gpsInterval
    ∃ noise, (a.settings.noise.Bounded → noise.fault = a.noise.fault) ∧ a.takeGps now
      = (sent.map fun y => ⟨y.time, (a.settings.gpsReport a.noise y.value).1⟩,
        { a with gps := feed, noise }) := by
  rcases hsent : a.gps.sendDue now a.settings.gpsInterval with ⟨_ | sample, feed⟩
  · exact ⟨a.noise, fun _ => rfl, by simp only [takeGps, hsent, Option.map_none]⟩
  · exact ⟨_, fun h => AssemblySettings.fault_gpsReport h a.noise sample.value,
      by simp only [takeGps, hsent, Option.map_some]⟩

theorem books_takeGps (ha : a.InOrder) (now : Nat) :
    a.Books (reported .gps .gps (a.takeGps now).1) (a.takeGps now).2 := by
  obtain ⟨noise, hfaultless, htaken⟩ := a.takeGps_eq now
  rw [htaken]
  exact books_taken .gps (a.gps.takes_sendDue ..) (by decide) (fun _ => rfl) (fun _ => rfl) ha rfl rfl
    (a.beside_gps _ hfaultless) rfl fun y => ⟨a.noise, rfl⟩

theorem takeTruth_eq (a : Assembler α) :
    ∃ motion, a.takeTruth
      = (a.pose.send.1.map fun y => ⟨y.time, (a.settings.truthReport a.previousMotion y).1⟩,
        { a with pose := a.pose.send.2, previousMotion := motion }) := by
  rcases hsent : a.pose.send with ⟨_ | sample, feed⟩
  · exact ⟨a.previousMotion, by simp only [takeTruth, hsent, Option.map_none]⟩
  · exact ⟨_, by simp only [takeTruth, hsent, Option.map_some]; rfl⟩

theorem books_takeTruth (ha : a.InOrder) :
    a.Books (reported .pose .groundTruth a.takeTruth.1) a.takeTruth.2 := by
  obtain ⟨motion, htaken⟩ := a.takeTruth_eq
  rw [htaken]
  exact books_taken .pose a.pose.takes_send (by decide) (fun _ => rfl) (fun _ => rfl) ha rfl rfl
    (a.beside_pose a.pose.send.2 motion) rfl fun y => ⟨a.previousMotion, rfl⟩

omit [Scalar α] in
theorem moving_reported {β : Type} (kind : β → Report α) (report : Option (Stamped β)) :
    Ledger.moving (reported k kind report) k = reported k kind report :=
  List.filter_eq_self.mpr fun _ he => by simp [moves_reported he]

omit [Scalar α] in
theorem moving_reported_of_ne {β : Type} {kind : β → Report α} {report : Option (Stamped β)} {j : Category}
    (hj : j ≠ k) : Ledger.moving (reported k kind report) j = [] :=
  List.filter_eq_nil_iff.mpr fun _ he => by simp [moves_reported he, hj]

/-- A channel gives what waited in its feed. -/
theorem takeRange_eq (channel : RangeChannel α) :
    takeRange channel
      = (channel.feed.send.1.map fun y => ⟨y.time, rangeReport channel.link.kind y.value⟩,
        { channel with feed := channel.feed.send.2 }) := by
  rcases hsent : channel.feed.send with ⟨_ | sample, feed⟩
  · simp only [takeRange, hsent, Option.map_none]
  · simp only [takeRange, hsent, Option.map_some]

@[simp]
theorem takeRangesEntries_concat (channels : List (RangeChannel α)) (channel : RangeChannel α) :
    takeRangesEntries (channels ++ [channel])
      = takeRangesEntries channels ++ reported (.range channels.length) .range (takeRange channel).1 := by
  simp [takeRangesEntries, List.zipIdx_append]

/-- The entry of a channel stands under its position. -/
theorem moving_takeRangesEntries (channels : List (RangeChannel α)) (i : Nat) :
    Ledger.moving (takeRangesEntries channels) (.range i)
      = channels[i]?.elim [] fun channel => reported (.range i) .range (takeRange channel).1 := by
  induction channels using List.reverseRecOn with
  | nil => rfl
  | append_singleton front channel ih =>
    rw [takeRangesEntries_concat, Ledger.moving_append, ih]
    rcases Nat.lt_trichotomy i front.length with hlt | rfl | hgt
    · rw [moving_reported_of_ne fun h => Nat.ne_of_lt hlt (Category.range.inj h), List.append_nil,
        List.getElem?_append_left hlt]
    · rw [moving_reported, List.getElem?_eq_none (Nat.le_refl _), List.getElem?_concat_length]
      rfl
    · rw [moving_reported_of_ne fun h => Nat.ne_of_gt hgt (Category.range.inj h), List.append_nil,
        List.getElem?_eq_none (Nat.le_of_lt hgt), List.getElem?_eq_none]
      rw [List.length_append]
      exact hgt

theorem moving_takeRangesEntries_of_ne (channels : List (RangeChannel α)) (hk : ∀ i, k ≠ .range i) :
    Ledger.moving (takeRangesEntries channels) k = [] := by
  induction channels using List.reverseRecOn with
  | nil => rfl
  | append_singleton front channel ih =>
    rw [takeRangesEntries_concat, Ledger.moving_append, ih, moving_reported_of_ne (hk _)]
    rfl

theorem countP_isStale_takeRangesEntries (channels : List (RangeChannel α)) :
    (takeRangesEntries channels).countP Entry.isStale = 0 := by
  induction channels using List.reverseRecOn with
  | nil => rfl
  | append_singleton front channel ih =>
    rw [takeRangesEntries_concat, List.countP_append, ih, countP_isStale_reported]

theorem books_takeRanges (ha : a.InOrder) : a.Books (takeRangesEntries a.ranges) a.takeRanges.2 where
  settings := rfl
  faultless _ := rfl
  links := by
    simp only [takeRanges, rangeLinks, List.map_map]
    refine List.map_congr_left fun channel _ => ?_
    rw [Function.comp_apply, Function.comp_apply, takeRange_eq]
  stale := by
    rw [countP_isStale_takeRangesEntries]
    rfl
  trays k := by
    cases k with
    | range i =>
      have hfresh := ha (.range i)
      simp only [tray, takeRanges, List.map_map, List.getElem?_map, moving_takeRangesEntries] at hfresh ⊢
      rcases hchannel : a.ranges[i]? with _ | channel
      · exact .refl
      · rw [hchannel] at hfresh
        simp only [Option.map_some, Option.elim_some, Function.comp_apply, takeRange_eq, reported, Option.map_map]
        refine channel.feed.takes_send.steps (k := .range i) nofun (fun _ => rfl) (fun _ => rfl) hfresh fun y => ?_
        refine ⟨channel.link, ?_, rfl⟩
        rw [rangeLinks, List.getElem?_map, hchannel]
        rfl
    | _ =>
      rw [moving_takeRangesEntries_of_ne]
      · exact .refl
      · exact nofun

/-- A cycle goes through the categories one after another. -/
theorem assemble_eq (a : Assembler α) (plan : CyclePlan) :
    a.assemble plan =
      let imu := a.takeImuDue plan
      let barometer := imu.2.takeBarometer plan.now
      let magnetometer := barometer.2.takeMagnetometer plan.now
      let gps := magnetometer.2.takeGps plan.now
      let truth := gps.2.takeTruth
      let ranges := truth.2.takeRanges
      ((imu.1.map (wrap .imu)).toList ++ (barometer.1.map (wrap .barometer)).toList
        ++ (magnetometer.1.map (wrap .magnetometer)).toList ++ (gps.1.map (wrap .gps)).toList
        ++ (truth.1.map (wrap .groundTruth)).toList ++ ranges.1.map (wrap .range), ranges.2) := by
  rcases himu : a.takeImuDue plan with ⟨imu, a₁⟩
  rcases hbarometer : a₁.takeBarometer plan.now with ⟨barometer, a₂⟩
  rcases hmagnetometer : a₂.takeMagnetometer plan.now with ⟨magnetometer, a₃⟩
  rcases hgps : a₃.takeGps plan.now with ⟨gps, a₄⟩
  rcases htruth : a₄.takeTruth with ⟨truth, a₅⟩
  rw [takeImuDue] at himu
  simp only [assemble, himu, hbarometer, hmagnetometer, hgps, htruth]

theorem books_assemble (ha : a.InOrder) (plan : CyclePlan) :
    a.Books (a.assembleEntries plan) (a.assemble plan).2 := by
  have himu := a.books_takeImuDue plan
  have ha := himu.inOrder ha
  have hbarometer := books_takeBarometer ha plan.now
  have ha := hbarometer.inOrder ha
  have hmagnetometer := books_takeMagnetometer ha plan.now
  have ha := hmagnetometer.inOrder ha
  have hgps := books_takeGps ha plan.now
  have ha := hgps.inOrder ha
  have htruth := books_takeTruth ha
  have ha := htruth.inOrder ha
  rw [assemble_eq]
  exact ((((himu.trans hbarometer).trans hmagnetometer).trans hgps).trans htruth).trans (books_takeRanges ha)

/-! ## What a cycle puts out -/

omit [Scalar α] in
theorem reports_reported {β : Type} (kind : β → Report α) (report : Option (Stamped β)) :
    Ledger.reports (reported k kind report) = (report.map (wrap kind)).toList := by
  cases report <;> rfl

theorem reports_takeRangesEntries (channels : List (RangeChannel α)) :
    Ledger.reports (takeRangesEntries channels)
      = ((channels.map takeRange).filterMap (·.1)).map (wrap .range) := by
  induction channels using List.reverseRecOn with
  | nil => rfl
  | append_singleton front channel ih =>
    rw [takeRangesEntries_concat, Ledger.reports_append, ih, reports_reported, List.map_append,
      List.filterMap_append, List.map_append, List.map_singleton]
    rcases takeRange channel with ⟨_ | report, channel'⟩ <;> rfl

/-- The reports of a cycle are those that its entries speak of. -/
theorem reports_assembleEntries (a : Assembler α) (plan : CyclePlan) :
    Ledger.reports (a.assembleEntries plan) = (a.assemble plan).1 := by
  have himu : Ledger.reports (a.takeImuEntries plan) = ((a.takeImuDue plan).1.map (wrap .imu)).toList := by
    rw [takeImuEntries]
    rcases (a.takeImuDue plan).1 with _ | report
    · dsimp only
      split <;> rfl
    · rfl
  simp only [assembleEntries, assemble_eq, Ledger.reports_append, himu, reports_reported,
    reports_takeRangesEntries, takeRanges]

/-- No sample is accepted in a cycle. -/
theorem arrival?_of_mem_assembleEntries {plan : CyclePlan} {e : Entry α} (he : e ∈ a.assembleEntries plan) :
    e.arrival? = none := by
  have hreported : ∀ {β : Type} {k : Category} {kind : β → Report α} {report : Option (Stamped β)},
      e ∈ reported k kind report → e.arrival? = none := fun h => by
    obtain ⟨r, rfl⟩ := eq_of_mem_reported h
    rfl
  simp only [assembleEntries, List.mem_append] at he
  rcases he with ((((he | he) | he) | he) | he) | he
  · unfold takeImuEntries at he
    split at he
    · rw [List.mem_singleton.mp he]
      rfl
    · split at he
      · rw [List.mem_singleton.mp he]
        rfl
      · cases he
  · exact hreported he
  · exact hreported he
  · exact hreported he
  · exact hreported he
  · obtain ⟨_, -, he⟩ := List.mem_flatMap.mp he
    exact hreported he

/-! ## At the start -/

@[simp]
theorem rangeLinks_new (c : Config α) (links : List RangeLink) : (new c links).rangeLinks = links := by
  rw [rangeLinks, new, List.map_map]
  exact List.map_id links

/-- An assembler begins with empty trays. -/
theorem tray_new (c : Config α) (links : List RangeLink) (k : Category) : (new c links).tray k = .empty := by
  cases k with
  | range i =>
    rw [tray, new, List.getElem?_map]
    cases links[i]? <;> rfl
  | _ => rfl

omit [Scalar α] in
theorem inOrder_of_empty (hempty : ∀ k, a.tray k = .empty) : a.InOrder := by
  intro k x hx
  rw [hempty] at hx
  cases hx

/-- What has happened in each category to an assembler that had empty trays. -/
theorem Books.steps (h : a.Books l a') (hempty : ∀ k, a.tray k = .empty) (k : Category) :
    Tray.Steps a.settings a.rangeLinks .empty (l.moving k) (a'.tray k) := by
  rw [← hempty k]
  exact h.trays k

end Assembler

end HilBridge
