import HilBridge.Proofs.Bridge.Samples
import HilBridge.Wire.Telemetry
import Mathlib.Data.List.Nodup

/-!
# `HilBridge.Proofs.Bridge.Ranging` — which range sensor a distance comes from

The packet of a distance carries a number that tells sensors apart. Discovery and the channels of the assembler
know every sensor by its link; the report that they make keeps only the kind, so the number in the packet is
that of the kind (`id_of_reported`, `sensor_of_handed`). Hence sensors of different kinds are told apart in
every run, and sensors of one kind in none in which both report. Such a run there always is: a distance of each
is delivered, and the open link has a cycle (`both_reported`).

**Main statement.** `tellsApart_iff_kind_ne`.
-/

namespace HilBridge

/-! ## Packets of distances -/

namespace Wire

theorem distanceSensorId_inj {kind kind' : RangeKind} :
    distanceSensorId kind = distanceSensorId kind' ↔ kind = kind' := by
  cases kind <;> cases kind' <;> decide

/-- Only distances are put into distance packets. -/
theorem range_of_ofReport {report : Stamped (Report Float)} {packet : DistancePacket}
    (h : ofReport report = .distance packet) :
    ∃ r, report.value = .range r ∧ packet = ofRange report.time r (distanceSensorId r.kind) := by
  obtain ⟨time, value⟩ := report
  cases value with
  | range r =>
    cases h
    exact ⟨r, rfl, rfl⟩
  | _ => cases h

end Wire

/-! ## Distances that wait -/

namespace Assembler

variable {α : Type} [Scalar α] {a a' : Assembler α}

/-- A sample that is accepted waits beside all that waited before, and nothing is sent. -/
theorem Books.waits_of_accepted {x : Arrival α} (h : a.Books [.accepted x] a') (k : Category) :
    (a'.tray k).lastSent = (a.tray k).lastSent
      ∧ ((a.tray k).pending.isSome = true ∨ x.category = k → (a'.tray k).pending.isSome = true) := by
  have hsteps := h.trays k
  by_cases hk : x.category = k
  · have hmoving : Ledger.moving [.accepted x] k = [.accepted x] :=
      List.filter_eq_self.mpr fun e he => by
        rw [List.mem_singleton.mp he]
        exact decide_eq_true hk
    rw [hmoving] at hsteps
    have hstep := hsteps.step_of_single
    revert hstep
    generalize a.tray k = t, a'.tray k = t'
    intro hstep
    cases hstep
    exact ⟨rfl, fun _ => rfl⟩
  · have hmoving : Ledger.moving [.accepted x] k = [] :=
      List.filter_eq_nil_iff.mpr fun e he => by
        rw [List.mem_singleton.mp he]
        simpa [Entry.moves] using hk
    rw [hsteps.eq_of_nil hmoving]
    exact ⟨rfl, fun hwaits => hwaits.resolve_right hk⟩

/-- A distance is accepted in the place of its sensor, if that has sent nothing and no link carries two. -/
theorem books_accepted_range {i : Nat} {sensor : RangeLink} (hsensor : a.rangeLinks[i]? = some sensor)
    (hnames : (a.rangeLinks.map (·.name)).Nodup) (hsent : (a.tray (.range i)).lastSent = none)
    (sample : Stamped α) : a.Books [.accepted (.range i sample)] (a.deliverRange sensor.name sample).2 := by
  obtain ⟨hi, hget⟩ := List.getElem?_eq_some_iff.mp hsensor
  have hposition : a.rangeLinks.findIdx (·.name = sensor.name) = i := by
    rw [List.findIdx_eq hi, hget]
    refine ⟨decide_eq_true rfl, fun j hj => decide_eq_false fun hname => ?_⟩
    have hj' : j < a.rangeLinks.length := by omega
    have hsame : a.rangeLinks[j].name = a.rangeLinks[i].name := by rw [hname, hget]
    have hinjective := List.nodup_iff_injective_getElem.mp hnames
    have hfin := @hinjective ⟨j, by simpa using hj'⟩ ⟨i, by simpa using hi⟩ (by simpa using hsame)
    have hij : j = i := congrArg Fin.val hfin
    omega
  have hcases := a.deliverRange_cases sensor.name sample
  rw [hposition] at hcases
  rcases hcases with ⟨-, hlength⟩ | ⟨-, -, time, htime, -⟩ | ⟨a', haccepted, hbooks⟩
  · omega
  · rw [hsent] at htime
    cases htime
  · rw [haccepted]
    exact hbooks

/-- A cycle leaves no distance waiting. -/
theorem pending_assemble (a : Assembler α) (plan : CyclePlan) (i : Nat) :
    ((a.assemble plan).2.tray (.range i)).pending = none := by
  rw [assemble_eq]
  simp only [tray, takeRanges, List.map_map, List.getElem?_map]
  split
  case h_1 channel hchannel =>
    obtain ⟨before, -, rfl⟩ := Option.map_eq_some_iff.mp hchannel
    rw [Function.comp_apply, takeRange_eq]
    show (before.feed.send.2.slot.pending?).map (Arrival.range i) = none
    rw [Feed.send]
    rcases htake : before.feed.slot.take with ⟨sample, slot⟩
    have hslot : slot.pending? = none := by
      rw [show slot = before.feed.slot.take.2 from congrArg Prod.snd htake.symm, Slot.pending?_take]
    cases sample <;> exact congrArg _ hslot
  case h_2 => rfl

end Assembler

/-! ## The numbers that are sent -/

/-- The range sensors that a configuration makes known. -/
def Config.rangeSensors {α : Type} (c : Config α) : List RangeLink :=
  discoverRangeLinks NamingPattern.standard c.rangeSensorLinks

namespace Bridge

variable {L : Type} [AutopilotLink L Float]

/-- What became of samples in a run. -/
abbrev ledger (b₀ : Bridge L Float) (calls : List (Call L Float)) : Ledger Float :=
  ((bookkeeper L Float).run b₀ calls).2

theorem ledger_postUpdate (b₀ : Bridge L Float) (calls : List (Call L Float)) (tick : Tick) :
    ledger b₀ (calls ++ [.postUpdate tick])
      = ledger b₀ calls ++ ((bookkeeper L Float).run b₀ calls).1.postUpdateEntries tick := by
  rw [ledger, Recorder.run_concat]
  rfl

/-- In no run the packets of two sensors, known by their positions, carry the same number. -/
def TellsApart (b₀ : Bridge L Float) (i j : Nat) : Prop :=
  ∀ calls report report' packet packet', .reported (.range i) report ∈ ledger b₀ calls →
    .reported (.range j) report' ∈ ledger b₀ calls → Wire.ofReport report = .distance packet →
      Wire.ofReport report' = .distance packet' → packet.id ≠ packet'.id

section
variable {c : Config Float} {link : L} {names : NameService} {b₀ : Bridge L Float}
  (hb : configure c link names = .ok b₀)
include hb

omit [AutopilotLink L Float] in
theorem rangeLinks_configure : b₀.assembler.rangeLinks = c.rangeSensors := by
  obtain ⟨-, dispatcher, rfl⟩ := eq_of_configure hb
  exact Assembler.rangeLinks_new c _

omit [AutopilotLink L Float] in
theorem inOrder_configure : b₀.assembler.InOrder :=
  Assembler.inOrder_of_empty fun k => (tray_configure hb k).1

/-- The ledger of a run is that of trays which were empty. -/
theorem steps_run (calls : List (Call L Float)) (k : Category) :
    Tray.Steps b₀.assembler.settings c.rangeSensors .empty ((ledger b₀ calls).moving k)
      (((bookkeeper L Float).run b₀ calls).1.assembler.tray k) := by
  rw [← rangeLinks_configure hb]
  exact (books_run (inOrder_configure hb) calls).steps (fun k => (tray_configure hb k).1) k

/-- A report under the position of a sensor is made of a distance that was accepted for that sensor. -/
theorem sensor_of_reported {calls : List (Call L Float)} {i : Nat} {report : Stamped (Report Float)}
    (hreport : .reported (.range i) report ∈ ledger b₀ calls) :
    ∃ (sensor : RangeLink) (x : Stamped Float), c.rangeSensors[i]? = some sensor
      ∧ .accepted (.range i x) ∈ ledger b₀ calls
      ∧ report = ⟨x.time, .range (rangeReport sensor.kind x.value)⟩ := by
  have hmoving : .reported (.range i) report ∈ (ledger b₀ calls).moving (.range i) :=
    List.mem_filter.mpr ⟨hreport, decide_eq_true rfl⟩
  obtain ⟨before, after, hsplit⟩ := List.append_of_mem hmoving
  obtain ⟨earlier, x, hbefore, hmakes⟩ := Tray.preceded (steps_run hb calls (.range i)) hsplit rfl
  have haccepted : .accepted x ∈ (ledger b₀ calls).moving (.range i) := by
    rw [hsplit, hbefore]
    simp
  have hcategory : x.category = .range i := Ledger.category_of_mem_moving haccepted
  have hmade := hmakes report rfl
  cases x with
  | range channel x =>
    obtain rfl : channel = i := Category.range.inj hcategory
    obtain ⟨sensor, hsensor, rfl⟩ := hmade
    exact ⟨sensor, x, hsensor, List.mem_of_mem_filter haccepted, rfl⟩
  | _ => cases hcategory

/-- The number in its packet is that of the sensor's kind. -/
theorem id_of_reported {calls : List (Call L Float)} {i : Nat} {report : Stamped (Report Float)}
    (hreport : .reported (.range i) report ∈ ledger b₀ calls) :
    ∃ sensor packet, c.rangeSensors[i]? = some sensor ∧ Wire.ofReport report = .distance packet
      ∧ packet.id = Wire.distanceSensorId sensor.kind := by
  obtain ⟨sensor, x, hsensor, -, rfl⟩ := sensor_of_reported hb hreport
  exact ⟨sensor, _, hsensor, rfl, rfl⟩

/-- A report that is put into a distance packet stands under the position of a sensor. -/
theorem category_of_distance {calls : List (Call L Float)} {k : Category} {report : Stamped (Report Float)}
    {packet : Wire.DistancePacket} (hreport : .reported k report ∈ ledger b₀ calls)
    (hpacket : Wire.ofReport report = .distance packet) : ∃ i, k = .range i := by
  have hmoving : .reported k report ∈ (ledger b₀ calls).moving k :=
    List.mem_filter.mpr ⟨hreport, decide_eq_true rfl⟩
  have hcovers := Tray.covers_of_mem_reports (steps_run hb calls k) (List.mem_filterMap.mpr ⟨_, hmoving, rfl⟩)
  obtain ⟨r, hvalue, -⟩ := Wire.range_of_ofReport hpacket
  rw [hvalue] at hcovers
  cases k with
  | range i => exact ⟨i, rfl⟩
  | _ => cases hcovers

/-- A distance packet that is handed to the connection is that of a report of a sensor. -/
theorem reported_of_handed (calls : List (Call L Float)) {tick : Tick} {message : Message Float}
    {packet : Wire.DistancePacket}
    (hmessage : message ∈ (((bookkeeper L Float).run b₀ calls).1.tickEnd tick).handed)
    (hpacket : Wire.ofMessage message = .distance packet) :
    ∃ i report, .reported (.range i) report ∈ ledger b₀ (calls ++ [.postUpdate tick])
      ∧ Wire.ofReport report = .distance packet := by
  obtain ⟨beat, hbeat, hmessages⟩ := ((bookkeeper L Float).run b₀ calls).1.messages_tickEnd tick
  have hmessage := (handed_prefix_messages _ tick).subset hmessage
  rw [hmessages] at hmessage
  rcases List.mem_append.mp hmessage with hheartbeat | hreported
  · rcases hbeat with rfl | rfl
    · cases hheartbeat
    · obtain rfl := List.mem_singleton.mp hheartbeat
      cases hpacket
  · obtain ⟨report, hreports, rfl⟩ := List.mem_map.mp hreported
    obtain ⟨e, he, hreport⟩ := List.mem_filterMap.mp hreports
    obtain ⟨k, rfl⟩ : ∃ k, e = .reported k report := by
      cases e with
      | reported k r =>
        cases hreport
        exact ⟨k, rfl⟩
      | _ => cases hreport
    -- the entry is one of the run that this tick prolongs
    have hmem : .reported k report ∈ ledger b₀ (calls ++ [.postUpdate tick]) := by
      rw [ledger_postUpdate]
      exact List.mem_append_right _ he
    obtain ⟨i, rfl⟩ := category_of_distance hb hmem hpacket
    exact ⟨i, report, hmem, hpacket⟩

/-- It carries the number of the sensor's kind. -/
theorem sensor_of_handed (calls : List (Call L Float)) {tick : Tick} {message : Message Float}
    {packet : Wire.DistancePacket}
    (hmessage : message ∈ (((bookkeeper L Float).run b₀ calls).1.tickEnd tick).handed)
    (hpacket : Wire.ofMessage message = .distance packet) :
    ∃ (i : Nat) (sensor : RangeLink), c.rangeSensors[i]? = some sensor
      ∧ packet.id = Wire.distanceSensorId sensor.kind := by
  obtain ⟨i, report, hreport, hmade⟩ := reported_of_handed hb calls hmessage hpacket
  obtain ⟨sensor, packet', hsensor, hpacket', hnumber⟩ := id_of_reported hb hreport
  cases hpacket'.symm.trans hmade
  exact ⟨i, sensor, hsensor, hnumber⟩

end

/-! ## A run in which two sensors report -/

/-- Every distance that waits is reported in a cycle. -/
theorem reported_of_waiting {b b' : Bridge L Float} {tick : Tick} {plan : CyclePlan} {i : Nat}
    (hb : b.assembler.InOrder) (hplan : b.planCycle tick = (some plan, b'))
    (hwaits : (b.assembler.tray (.range i)).pending.isSome = true) :
    ∃ report, .reported (.range i) report ∈ b.postUpdateEntries tick := by
  have hafter : ((b.tickEnd tick).bridge.assembler.tray (.range i)).pending = none := by
    rw [tickEnd_of_planned hplan]
    exact b'.assembler.pending_assemble plan i
  -- what waited is gone, so some entry is about it
  have hsteps := (books_postUpdate hb tick).trays (.range i)
  obtain ⟨e, he⟩ : ∃ e, e ∈ (b.postUpdateEntries tick).moving (.range i) := by
    by_contra hnone
    rw [hsteps.eq_of_nil (List.eq_nil_iff_forall_not_mem.mpr fun e he => hnone ⟨e, he⟩)] at hafter
    rw [hafter] at hwaits
    cases hwaits
  obtain ⟨hentry, hmoves⟩ := List.mem_filter.mp he
  cases e with
  | accepted x => cases arrival?_of_mem_postUpdateEntries hentry
  | refused k => cases hmoves
  | reported k report =>
    obtain rfl : k = .range i := of_decide_eq_true hmoves
    exact ⟨report, hentry⟩
  | discarded => cases hmoves

section
variable {c : Config Float} {link : L} {names : NameService} {b₀ : Bridge L Float}
  (hb : configure c link names = .ok b₀) {i j : Nat} {sensor sensor' : RangeLink}
  (hsensor : c.rangeSensors[i]? = some sensor) (hsensor' : c.rangeSensors[j]? = some sensor')
include hb hsensor hsensor'

/-- There is a run in which two sensors report, wherever the link can be open and no link carries two sensors. -/
theorem both_reported (hnames : (c.rangeSensors.map (·.name)).Nodup)
    (hopens : ∃ l : L, AutopilotLink.isOpen l = true) :
    ∃ calls report report', .reported (.range i) report ∈ ledger b₀ calls
      ∧ .reported (.range j) report' ∈ ledger b₀ calls := by
  obtain ⟨l, hopen⟩ := hopens
  have hempty := fun k => (tray_configure hb k).1
  rw [← rangeLinks_configure hb] at hnames hsensor hsensor'
  let sample : Stamped Float := ⟨0, 1.0⟩
  let a₁ := (b₀.assembler.deliverRange sensor.name sample).2
  let a₂ := (a₁.deliverRange sensor'.name sample).2
  -- both distances are accepted, so both wait
  have hfirst : b₀.assembler.Books [.accepted (.range i sample)] a₁ :=
    Assembler.books_accepted_range hsensor hnames (by rw [hempty]; rfl) sample
  have hsecond : a₁.Books [.accepted (.range j sample)] a₂ := by
    refine Assembler.books_accepted_range ?_ ?_ ?_ sample
    · rw [hfirst.links]
      exact hsensor'
    · rw [hfirst.links]
      exact hnames
    · rw [(hfirst.waits_of_accepted _).1, hempty]
      rfl
  have hwaits : ∀ k, k = .range i ∨ k = .range j → (a₂.tray k).pending.isSome = true := by
    intro k hk
    refine (hsecond.waits_of_accepted k).2 ?_
    rcases hk with rfl | rfl
    · exact .inl ((hfirst.waits_of_accepted _).2 (.inr rfl))
    · exact .inr rfl
  -- the link is open and the tick is the first, so there is a cycle
  let calls : List (Call L Float) := [.relink fun _ => l, .range sensor.name sample, .range sensor'.name sample]
  let b := ((bookkeeper L Float).run b₀ calls).1
  have horder : b.assembler.InOrder := hsecond.inOrder (hfirst.inOrder (inOrder_configure hb))
  obtain ⟨plan, hsome⟩ : ∃ plan, (b.planCycle ⟨0, 0, false⟩).1 = some plan := by
    obtain ⟨hscheduler, hconnection⟩ := configure_eq hb
    have hshutdown : b.connection.isShutdown = false := by
      show b₀.connection.isShutdown = false
      rw [hconnection]
      rfl
    have hopen : AutopilotLink.isOpen b.connection.link = true := hopen
    refine Option.isSome_iff_exists.mp ((b.isSome_planCycle_iff _).mpr ⟨rfl, hshutdown, ?_, ?_⟩)
    · rw [Connection.pollReady, hshutdown, if_neg Bool.false_ne_true, if_pos hopen]
    · show b₀.scheduler.lastPlanned ≠ _
      rw [hscheduler]
      nofun
  have hplan : b.planCycle ⟨0, 0, false⟩ = (some plan, _) := Prod.ext hsome rfl
  obtain ⟨report, hreport⟩ := reported_of_waiting horder hplan (hwaits _ (.inl rfl))
  obtain ⟨report', hreport'⟩ := reported_of_waiting horder hplan (hwaits _ (.inr rfl))
  refine ⟨calls ++ [.postUpdate ⟨0, 0, false⟩], report, report', ?_, ?_⟩
  · rw [ledger_postUpdate]
    exact List.mem_append_right _ hreport
  · rw [ledger_postUpdate]
    exact List.mem_append_right _ hreport'

/-- Sensors of one kind carry the same number in a run in which both report. -/
theorem not_tellsApart_of_kind_eq (hnames : (c.rangeSensors.map (·.name)).Nodup)
    (hopens : ∃ l : L, AutopilotLink.isOpen l = true) (hkind : sensor.kind = sensor'.kind) :
    ¬ b₀.TellsApart i j := by
  intro htold
  obtain ⟨calls, report, report', hreport, hreport'⟩ := both_reported hb hsensor hsensor' hnames hopens
  obtain ⟨found, packet, hfound, hpacket, hnumber⟩ := id_of_reported hb hreport
  obtain ⟨found', packet', hfound', hpacket', hnumber'⟩ := id_of_reported hb hreport'
  obtain rfl : found = sensor := Option.some.inj (hfound.symm.trans hsensor)
  obtain rfl : found' = sensor' := Option.some.inj (hfound'.symm.trans hsensor')
  refine htold calls report report' packet packet' hreport hreport' hpacket hpacket' ?_
  rw [hnumber, hnumber', hkind]

/-- Sensors of different kinds carry different numbers, in every run. -/
theorem tellsApart_of_kind_ne (hkind : sensor.kind ≠ sensor'.kind) : b₀.TellsApart i j := by
  intro calls report report' packet packet' hreport hreport' hpacket hpacket' hsame
  obtain ⟨found, _, hfound, hencoded, hnumber⟩ := id_of_reported hb hreport
  obtain ⟨found', _, hfound', hencoded', hnumber'⟩ := id_of_reported hb hreport'
  obtain rfl : found = sensor := Option.some.inj (hfound.symm.trans hsensor)
  obtain rfl : found' = sensor' := Option.some.inj (hfound'.symm.trans hsensor')
  cases hencoded.symm.trans hpacket
  cases hencoded'.symm.trans hpacket'
  rw [hnumber, hnumber'] at hsame
  exact hkind (Wire.distanceSensorId_inj.mp hsame)

end

/--
**Sensors of one kind cannot be told apart.** In every run of a configured bridge a report under the position of a
range sensor, and a distance packet that is handed to the connection, carries the number of the sensor's kind. So
two sensors on different links are told apart by their packets if and only if they are of different kinds.
-/
theorem tellsApart_iff_kind_ne {c : Config Float} {link : L} {names : NameService} {b₀ : Bridge L Float}
    (hb : configure c link names = .ok b₀) (hnames : (c.rangeSensors.map (·.name)).Nodup)
    (hopens : ∃ l : L, AutopilotLink.isOpen l = true) :
    (∀ calls i report, .reported (.range i) report ∈ ledger b₀ calls →
        ∃ sensor packet, c.rangeSensors[i]? = some sensor ∧ Wire.ofReport report = .distance packet
          ∧ packet.id = Wire.distanceSensorId sensor.kind)
      ∧ (∀ calls tick message packet, message ∈ (((bookkeeper L Float).run b₀ calls).1.tickEnd tick).handed →
        Wire.ofMessage message = .distance packet →
          ∃ (i : Nat) (sensor : RangeLink), c.rangeSensors[i]? = some sensor
            ∧ packet.id = Wire.distanceSensorId sensor.kind)
      ∧ ∀ (i j : Nat) (sensor sensor' : RangeLink), c.rangeSensors[i]? = some sensor →
        c.rangeSensors[j]? = some sensor' → (b₀.TellsApart i j ↔ sensor.kind ≠ sensor'.kind) := by
  refine ⟨fun calls i report => id_of_reported hb, fun calls tick message packet => sensor_of_handed hb calls, ?_⟩
  intro i j sensor sensor' hsensor hsensor'
  constructor
  · intro htold hkind
    exact not_tellsApart_of_kind_eq hb hsensor hsensor' hnames hopens hkind htold
  · exact tellsApart_of_kind_ne hb hsensor hsensor'

/-- A vehicle with a range sensor in front and one at the rear. -/
def ranging (front rear : String) : Config Float :=
  { Trial.config with rangeSensorLinks := [front, rear] }

theorem exists_isOpen : ∃ l : ScriptedLink Float, AutopilotLink.isOpen l = true :=
  ⟨{ Trial.link with isOpen := true }, rfl⟩

/-- A laser and an ultrasonic sensor are told apart. -/
theorem tellsApart_lidar_sonar :
    let c := ranging "front::lidar::link" "rear::sonar::link"
    ∃ b₀, configure c Trial.link Trial.names = .ok b₀ ∧ (c.rangeSensors.map (·.name)).Nodup ∧ b₀.TellsApart 0 1 := by
  intro c
  have hconfigured : (configure c Trial.link Trial.names).toOption.map (fun _ => ()) = some () := by
    decide +kernel
  obtain ⟨b₀, hb, -⟩ := Trial.exists_of_map hconfigured
  have hsensors : c.rangeSensors = [⟨"front::lidar::link", .lidar⟩, ⟨"rear::sonar::link", .sonar⟩] := by
    decide +kernel
  have hnames : (c.rangeSensors.map (·.name)).Nodup := by
    rw [hsensors]
    decide
  obtain ⟨-, -, htold⟩ := tellsApart_iff_kind_ne hb hnames exists_isOpen
  rw [hsensors] at htold
  exact ⟨b₀, hb, hnames, (htold 0 1 _ _ rfl rfl).mpr nofun⟩

/-- The positions of the sensors whose distances are reported, with the numbers in their packets. -/
def distanceIds (l : Ledger Float) : List (Nat × UInt8) :=
  l.filterMap fun
    | .reported (.range i) report =>
      match Wire.ofReport report with
      | .distance packet => some (i, packet.id)
      | _ => none
    | _ => none

/-- Two laser sensors, on links of different names, that both report in one tick. -/
theorem two_lidars_share_number :
    let c := ranging "front::lidar::link" "rear::lidar::link"
    let calls := Trial.opening ++ [.range "front::lidar::link" ⟨4000, 2.0⟩, .range "rear::lidar::link" ⟨4000, 5.0⟩,
      .postUpdate (Trial.tick 4000)]
    ∃ b₀, configure c Trial.link Trial.names = .ok b₀ ∧ (c.rangeSensors.map (·.name)).Nodup
      ∧ distanceIds (ledger b₀ calls) = [(0, 0), (1, 0)] ∧ ¬ b₀.TellsApart 0 1 := by
  intro c calls
  have hrun : (configure c Trial.link Trial.names).toOption.map (fun b₀ => distanceIds (ledger b₀ calls))
      = some [(0, 0), (1, 0)] := by
    decide +kernel
  obtain ⟨b₀, hb, hids⟩ := Trial.exists_of_map hrun
  have hsensors : c.rangeSensors = [⟨"front::lidar::link", .lidar⟩, ⟨"rear::lidar::link", .lidar⟩] := by
    decide +kernel
  have hnames : (c.rangeSensors.map (·.name)).Nodup := by
    rw [hsensors]
    decide
  have hfirst : c.rangeSensors[0]? = some ⟨"front::lidar::link", .lidar⟩ := by
    rw [hsensors]
    rfl
  have hsecond : c.rangeSensors[1]? = some ⟨"rear::lidar::link", .lidar⟩ := by
    rw [hsensors]
    rfl
  exact ⟨b₀, hb, hnames, hids, not_tellsApart_of_kind_eq hb hfirst hsecond hnames exists_isOpen rfl⟩

end Bridge

end HilBridge
