import HilBridge.Proofs.Bridge.Alike
import HilBridge.Proofs.Recording

/-!
# `HilBridge.Proofs.Simulation.Ticks` — ticks of a moving and of a paused vehicle

In every tick the vehicle either makes its step or is paused. A paused tick obtains nothing, publishes nothing and
sends nothing, but it does deliver the vehicle's samples once more (`Ready.stepPaused`). A delivery is gone with
the next one, so all that is left of a paused tick is that one more inertial sample was numbered.

Two runs in which as many ticks are not paused therefore stay alike, wherever the others stand (`follows_run`).
-/

namespace HilBridge

variable {L α : Type}

/-- What a tick comes to. -/
structure TickRecord (α : Type) where
  paused : Bool
  status : SyncStatus
  published : List (Publication α)
  sent : List (Message α)
  deriving Repr, DecidableEq

namespace TickRecord

/-- A tick in which nothing is obtained, published or sent. -/
def silent : TickRecord α :=
  ⟨true, .holding, [], []⟩

def unnumbered (t : TickRecord α) : TickRecord α :=
  { t with sent := t.sent.map Message.unnumbered }

/-- The numbers of the inertial messages that were sent. -/
def numbers (t : TickRecord α) : List UInt8 :=
  t.sent.filterMap Message.imuNumber?

end TickRecord

/-- The ticks of a record that were not paused. -/
def awake (log : List (TickRecord α)) : List (TickRecord α) :=
  log.filter fun t => !t.paused

theorem awake_concat_silent (log : List (TickRecord α)) : awake (log ++ [.silent]) = awake log := by
  rw [awake, List.filter_append]
  exact List.append_nil _

theorem awake_concat (log : List (TickRecord α)) {t : TickRecord α} (h : t.paused = false) :
    awake (log ++ [t]) = awake log ++ [t] := by
  rw [awake, List.filter_append, List.filter_singleton, h]
  rfl

namespace Simulation

/-- The vehicle is paused, or set going again. -/
def withPaused (s : Simulation L α) (paused : Bool) : Simulation L α :=
  { s with vehicle.paused := paused }

/-- Simulations whose bridges are alike and will be after the next delivery, and whose vehicles are the same. -/
structure Alike [Scalar α] (alike : L → L → Prop) (s t : Simulation L α) : Prop where
  bridge : s.bridge.Alike alike t.bridge
  assembler : ∀ v : Vehicle α, (v.refill s.bridge.assembler).unnumbered = (v.refill t.bridge.assembler).unnumbered
  vehicle : (t.withPaused false).vehicle = (s.withPaused false).vehicle

variable [Scalar α] [AutopilotLink L α]

/-- What the next tick comes to. -/
def record (s : Simulation L α) : TickRecord α :=
  let r := s.stepDuring []
  ⟨s.vehicle.paused, r.status, r.published, r.sent⟩

/-- Runs in which the vehicle is paused in some of the ticks. -/
def pausing (L α : Type) [Scalar α] [AutopilotLink L α] : Recorder (Simulation L α) Bool (TickRecord α) where
  apply s paused := (s.withPaused paused).step.2
  entries s paused := [(s.withPaused paused).record]

/-- A bridge in use with a vehicle that is as late as anything it has and measures without disturbance. -/
structure Ready (s : Simulation L α) : Prop where
  bridge : s.bridge.Running
  notAfter : s.bridge.assembler.NotAfter s.vehicle.time
  inOrder : s.bridge.assembler.InOrder
  gyro : s.vehicle.settings.gyroNoise.isRandom = false
  acceleration : s.vehicle.settings.accelerationNoise.isRandom = false

variable {s t : Simulation L α}

theorem Ready.withPaused (h : s.Ready) (paused : Bool) : (s.withPaused paused).Ready :=
  ⟨h.bridge, h.notAfter, h.inOrder, h.gyro, h.acceleration⟩

omit [AutopilotLink L α] in
theorem Alike.withPaused {alike : L → L → Prop} (h : s.Alike alike t) (paused : Bool) :
    (s.withPaused paused).Alike alike (t.withPaused paused) :=
  ⟨h.bridge, h.assembler, h.vehicle⟩

/-! ## A paused tick -/

omit [AutopilotLink L α] in
/-- A delivery, where nothing is drawn and nothing is later than the vehicle. -/
theorem deliver_of_quiet (hnotAfter : s.bridge.assembler.NotAfter s.vehicle.time)
    (hgyro : s.vehicle.settings.gyroNoise.isRandom = false)
    (hacceleration : s.vehicle.settings.accelerationNoise.isRandom = false) :
    s.deliver = ⟨{ s.bridge with assembler := s.vehicle.refill s.bridge.assembler }, s.vehicle⟩ := by
  rw [deliver_eq_refill hnotAfter, Vehicle.noise_imuReading hgyro hacceleration]

/-- A paused tick comes to one more delivery. -/
theorem Ready.stepPaused (h : s.Ready) (hpaused : s.vehicle.paused = true) :
    s.record = .silent
      ∧ s.step.2 = ⟨{ s.bridge with assembler := s.vehicle.refill s.bridge.assembler }, s.vehicle⟩
      ∧ s.step.2.Ready := by
  have hstart : s.bridge.preUpdate s.vehicle.tick [] = ⟨.holding, [], s.bridge, []⟩ := by
    have htick : s.vehicle.tick.paused = true := hpaused
    simp only [Bridge.preUpdate, h.bridge.running, htick, Bool.false_eq_true, if_false, if_true]
  have hadvance : (s.vehicle.receiveAll []).advance = s.vehicle := by
    show s.vehicle.advance = s.vehicle
    rw [Vehicle.advance, if_pos hpaused]
  have hdelivered := deliver_of_quiet h.notAfter h.gyro h.acceleration
  have hend : ∀ b : Bridge L α, b.tickEnd s.vehicle.tick = ⟨[], [], [], b⟩ := by
    intro b
    refine Bridge.tickEnd_of_unplanned (if_pos ?_)
    show (s.vehicle.paused || _) = true
    rw [hpaused, Bool.true_or]
  have hstep : s.stepDuring [] = ⟨.holding, [], [], [],
      ⟨{ s.bridge with assembler := s.vehicle.refill s.bridge.assembler }, s.vehicle⟩, []⟩ := by
    simp only [stepDuring, hstart, hadvance, hdelivered, hend, reduceCtorEq, if_false]
  refine ⟨?_, congrArg Ticked.simulation hstep, ?_⟩
  · rw [record, hstep, hpaused]
    rfl
  · have hfed := Vehicle.fed_refill h.notAfter
    rw [step, hstep]
    exact ⟨⟨h.bridge.running, h.bridge.isOpen, h.bridge.synced⟩, hfed.accepts.notAfter h.notAfter,
      hfed.accepts.inOrder h.inOrder, h.gyro, h.acceleration⟩

/-- It does not show once there is another delivery. -/
theorem Alike.stepPaused {alike : L → L → Prop} (h : s.Alike alike t) (ht : t.Ready) :
    s.Alike alike (t.withPaused true).step.2 := by
  obtain ⟨-, hstep, -⟩ := (ht.withPaused true).stepPaused rfl
  rw [hstep]
  refine ⟨⟨h.bridge.connection, h.bridge.scheduler, h.bridge.dispatcher, h.bridge.messagesSent⟩, fun v => ?_, h.vehicle⟩
  rw [h.assembler v]
  exact (Vehicle.unnumbered_refill_refill (t.withPaused true).vehicle v t.bridge.assembler).symm

/-! ## A tick that is not paused -/

/-- The vehicle of a tick in which something is published for it and its step is made. -/
def moved (s : Simulation L α) (published : List (Publication α)) : Vehicle α :=
  (s.vehicle.receiveAll published).advance

/-- The bridge of a tick between its halves, once all samples are delivered. -/
def fed (s : Simulation L α) : Bridge L α :=
  let start := s.bridge.preUpdate s.vehicle.tick []
  { start.bridge with assembler := (s.moved start.published).refill s.bridge.assembler }

omit [AutopilotLink L α] in
theorem moved_cases (s : Simulation L α) (published : List (Publication α)) :
    (s.moved published).settings = s.vehicle.settings ∧ (s.moved published).paused = s.vehicle.paused
      ∧ s.vehicle.time ≤ (s.moved published).time := by
  obtain ⟨rotors, servos, external, wrench, hreceived⟩ := s.vehicle.receiveAll_eq published
  unfold moved
  rw [hreceived]
  rcases Vehicle.advance_cases { s.vehicle with rotors, servos, external, wrench } with
    ⟨-, hadvance⟩ | ⟨state, hadvance⟩
  · rw [hadvance]
    exact ⟨rfl, rfl, Nat.le_refl _⟩
  · rw [hadvance]
    exact ⟨rfl, rfl, Nat.le_add_right _ _⟩

/-- A tick goes through its halves with a delivery in between. -/
theorem Ready.stepAwake (h : s.Ready) (hpaused : s.vehicle.paused = false) :
    let start := s.bridge.preUpdate s.vehicle.tick []
    let v := s.moved start.published
    s.record = ⟨false, start.status, start.published, (s.fed.tickEnd v.tick).sent⟩
      ∧ s.step.2 = ⟨(s.fed.tickEnd v.tick).bridge, v⟩
      ∧ s.fed.Running ∧ s.bridge.scheduler.SamePace s.fed.scheduler
      ∧ Assembler.Fed v.time s.bridge.assembler s.fed.assembler ∧ s.bridge.assembler.NotAfter v.time := by
  intro start v
  have htick : s.vehicle.tick.paused = false := hpaused
  obtain ⟨hstatus, hrunning, -⟩ := h.bridge.preUpdate htick
  obtain ⟨hafter, hassembler, hpace⟩ := h.bridge.afterPreUpdate htick
  obtain ⟨hsettings, -, htime⟩ := s.moved_cases start.published
  have hnotAfter : s.bridge.assembler.NotAfter v.time := h.notAfter.mono htime
  have hgoes : ¬ start.status = .shutdown := by
    rw [hstatus]
    exact hrunning
  have hdelivered : Simulation.deliver (⟨start.bridge, v⟩ : Simulation L α) = ⟨s.fed, v⟩ := by
    have hquiet := deliver_of_quiet (s := (⟨start.bridge, v⟩ : Simulation L α))
      (by show Assembler.NotAfter start.bridge.assembler v.time; rw [hassembler]; exact hnotAfter)
      (by show v.settings.gyroNoise.isRandom = false; rw [hsettings]; exact h.gyro)
      (by show v.settings.accelerationNoise.isRandom = false; rw [hsettings]; exact h.acceleration)
    rw [hquiet]
    dsimp only
    rw [hassembler]
    rfl
  have hstep : s.stepDuring [] = ⟨start.status, start.published, (s.fed.tickEnd v.tick).messages,
      (s.fed.tickEnd v.tick).sent, ⟨(s.fed.tickEnd v.tick).bridge, v⟩, start.ahead⟩ := by
    have hdelivered : (Simulation.deliver ⟨start.bridge, (s.vehicle.receiveAll start.published).advance⟩) = _ :=
      hdelivered
    rw [stepDuring]
    dsimp only
    rw [if_neg hgoes, hdelivered]
  refine ⟨?_, congrArg Ticked.simulation hstep, ⟨hafter.running, hafter.isOpen, hafter.synced⟩, hpace,
    Vehicle.fed_refill hnotAfter, hnotAfter⟩
  rw [record, hstep, hpaused]

/-- What a running bridge sends makes nothing later than its samples. -/
theorem Ready.afterTickEnd {b : Bridge L α} {v : Vehicle α} (hbridge : (b.tickEnd v.tick).bridge.Running)
    (hnotAfter : b.assembler.NotAfter v.time) (hinOrder : b.assembler.InOrder)
    (hgyro : v.settings.gyroNoise.isRandom = false) (hacceleration : v.settings.accelerationNoise.isRandom = false) :
    Ready (⟨(b.tickEnd v.tick).bridge, v⟩ : Simulation L α) := by
  have hbooks := Bridge.books_postUpdate hinOrder v.tick
  refine ⟨hbridge, hbooks.notAfter hnotAfter fun x hx => ?_, hbooks.inOrder hinOrder, hgyro, hacceleration⟩
  obtain ⟨e, he, hex⟩ := List.mem_filterMap.mp hx
  rw [Bridge.arrival?_of_mem_postUpdateEntries he] at hex
  cases hex

/-- Alike simulations stay alike in a tick that neither pauses, and all their messages go out. -/
theorem Alike.stepAwake {alike : L → L → Prop} (h : s.Alike alike t) (hlink : Unfailing alike) (hs : s.Ready)
    (ht : t.Ready) (hvehicle : t.vehicle = s.vehicle) (hpaused : s.vehicle.paused = false) :
    s.record.unnumbered = t.record.unnumbered ∧ s.step.2.Alike alike t.step.2 ∧ s.step.2.Ready ∧ t.step.2.Ready
      ∧ ∀ messages, (Bridge.sendAll s.fed.connection messages).sent = messages
        ∧ (Bridge.sendAll t.fed.connection messages).sent = messages := by
  obtain ⟨hrecord, hstep, hrunning, -, hfed, hnotAfter⟩ := hs.stepAwake hpaused
  obtain ⟨hrecord', hstep', -, -, hfed', hnotAfter'⟩ := ht.stepAwake (hvehicle ▸ hpaused)
  have htick : s.vehicle.tick.paused = false := hpaused
  obtain ⟨hstatus, hpublished, hbridge⟩ := h.bridge.preUpdate hlink hs.bridge htick
  -- what is published for equal vehicles is the same, so they remain equal
  have hmoved : t.moved (t.bridge.preUpdate t.vehicle.tick []).published
      = s.moved (s.bridge.preUpdate s.vehicle.tick []).published := by
    unfold moved
    rw [hvehicle, hpublished]
  have hassembler : s.fed.assembler.unnumbered = t.fed.assembler.unnumbered := by
    show ((s.moved _).refill s.bridge.assembler).unnumbered = ((t.moved _).refill t.bridge.assembler).unnumbered
    rw [hmoved, h.assembler]
  have hfedAlike : s.fed.Alike alike t.fed := by
    unfold fed
    rw [hvehicle]
    exact ⟨hbridge.connection, hbridge.scheduler, hbridge.dispatcher, hbridge.messagesSent⟩
  rw [hmoved] at hrecord' hstep' hfed' hnotAfter'
  rw [hvehicle, hstatus, hpublished] at hrecord'
  obtain ⟨hsettings, hstill, -⟩ := s.moved_cases (s.bridge.preUpdate s.vehicle.tick []).published
  generalize s.moved (s.bridge.preUpdate s.vehicle.tick []).published = v at *
  have hgyro : v.settings.gyroNoise.isRandom = false := by
    rw [hsettings]
    exact hs.gyro
  have hacceleration : v.settings.accelerationNoise.isRandom = false := by
    rw [hsettings]
    exact hs.acceleration
  obtain ⟨hsent, halike, hafter, hunnumbered⟩ :=
    hfedAlike.tickEnd hlink hrunning hassembler (show v.tick.paused = false from hstill.trans hpaused)
  refine ⟨?_, ?_, ?_, ?_, hfedAlike.sends hlink hrunning⟩
  · rw [hrecord, hrecord']
    simp only [TickRecord.unnumbered, hsent]
  · rw [hstep, hstep']
    refine ⟨halike, fun w => ?_, rfl⟩
    dsimp only
    rw [← Vehicle.unnumbered_refill, hunnumbered, Vehicle.unnumbered_refill]
  · rw [hstep]
    exact .afterTickEnd hafter (hfed.accepts.notAfter hnotAfter) (hfed.accepts.inOrder hs.inOrder) hgyro
      hacceleration
  · rw [hstep']
    exact .afterTickEnd (halike.running hlink hafter) (hfed'.accepts.notAfter hnotAfter')
      (hfed'.accepts.inOrder ht.inOrder) hgyro hacceleration

/-! ## Runs -/

/-- Two runs in which as many ticks are not paused, the first without any other. -/
structure Follows (alike : L → L → Prop) (r r' : Simulation L α × List (TickRecord α)) : Prop where
  ready : r.1.Ready
  ready' : r'.1.Ready
  alike : r.1.Alike alike r'.1
  awake : (awake r'.2).map TickRecord.unnumbered = r.2.map TickRecord.unnumbered
  silent : ∀ e ∈ r'.2, e.paused = true → e = .silent

/-- Between the ticks that are not paused there may be others. -/
theorem follows_run {alike : L → L → Prop} (hlink : Unfailing alike) (hready : s.Ready)
    (halike : alike s.bridge.connection.link s.bridge.connection.link) (flags : List Bool) :
    Follows alike ((pausing L α).run s (List.replicate (flags.count false) false)) ((pausing L α).run s flags) := by
  induction flags using List.reverseRecOn with
  | nil => exact ⟨hready, hready, ⟨⟨⟨rfl, halike⟩, rfl, rfl, rfl⟩, fun _ => rfl, rfl⟩, rfl, nofun⟩
  | append_singleton front paused ih =>
    rw [Recorder.run_concat]
    generalize (pausing L α).run s front = r' at *
    cases paused with
    | true =>
      have hcount : (front ++ [true]).count false = front.count false := by
        rw [List.count_append]
        rfl
      rw [hcount]
      generalize (pausing L α).run s (List.replicate (front.count false) false) = r at *
      obtain ⟨hrecord, -, hafter⟩ := (ih.ready'.withPaused true).stepPaused rfl
      have hentries : (Recorder.step (pausing L α) r' true).2 = r'.2 ++ [.silent] := by
        show r'.2 ++ [(r'.1.withPaused true).record] = _
        rw [hrecord]
      refine ⟨ih.ready, hafter, ih.alike.stepPaused ih.ready', ?_, ?_⟩
      · rw [hentries, awake_concat_silent]
        exact ih.awake
      · rw [hentries]
        intro e he hpaused
        rcases List.mem_append.mp he with hmem | hmem
        · exact ih.silent e hmem hpaused
        · exact List.mem_singleton.mp hmem
    | false =>
      have hcount : (front ++ [false]).count false = front.count false + 1 := by
        rw [List.count_append]
        rfl
      rw [hcount, List.replicate_succ', Recorder.run_concat]
      generalize (pausing L α).run s (List.replicate (front.count false) false) = r at *
      obtain ⟨hrecord, hafter, hready, hready', -⟩ := (ih.alike.withPaused false).stepAwake hlink
        (ih.ready.withPaused false) (ih.ready'.withPaused false) ih.alike.vehicle rfl
      refine ⟨hready, hready', hafter, ?_, ?_⟩
      · show (awake (r'.2 ++ [(r'.1.withPaused false).record])).map TickRecord.unnumbered
          = (r.2 ++ [(r.1.withPaused false).record]).map TickRecord.unnumbered
        rw [awake_concat r'.2 rfl, List.map_append, List.map_append, ih.awake, List.map_singleton, List.map_singleton,
          hrecord]
      · intro e he hpaused
        rcases List.mem_append.mp he with hmem | hmem
        · exact ih.silent e hmem hpaused
        · obtain rfl : e = (r'.1.withPaused false).record := List.mem_singleton.mp hmem
          cases hpaused

end Simulation

end HilBridge
