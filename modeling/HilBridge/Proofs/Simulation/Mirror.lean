import HilBridge.Proofs.Actuator.Reference
import HilBridge.Proofs.Bridge.Delivery
import HilBridge.Proofs.Simulation.Ticks

/-!
# `HilBridge.Proofs.Simulation.Mirror` — the vehicle has what the dispatcher asks for

A vehicle keeps what was last published on each of its paths, and of the outputs of a tick only the paths that have
values are published. So a value could outlive the outputs that it came from (`Outputs.onto`), and it does not,
because which paths have values is a matter of the configuration (`Config.Admits`, `Config.Fills`): every path that is
left out once is left out always, and has nothing from the beginning.

* `Simulation.drive` is all that can be done with a bridge and a vehicle that only this bridge publishes for.
* `Simulation.Drives` is the invariant of a run, of which one lemma for each step shows that the step keeps it.

**Main statement.** `vehicle_mirrors_outputs`: from the first tick on that publishes, the vehicle has what the
dispatcher asks for, whatever is done.
-/

namespace HilBridge

variable {L α : Type}

/-! ## The paths of a configuration -/

/-- What is kept where there is nothing new is nothing, if there was nothing. -/
theorem ite_isEmpty_eq {β : Type} {xs before : List β} (h : xs = [] → before = []) :
    (if xs.isEmpty then before else xs) = xs := by
  split
  case isTrue hempty =>
    have hnone := List.isEmpty_iff.mp hempty
    rw [h hnone, hnone]
  case isFalse => rfl

namespace Outputs

/-- What a vehicle has after outputs are published for it, given what it had. -/
def onto (o before : Outputs α) : Outputs α :=
  match o.wrench with
  | some wrench => { before with wrench := some wrench }
  | none =>
    { motors := if o.motors.isEmpty then before.motors else o.motors
      servos := if o.servos.isEmpty then before.servos else o.servos
      external := if o.external.isEmpty then before.external else o.external
      wrench := before.wrench }

theorem valuesOn_empty (path : Path) : (empty : Outputs α).valuesOn path = [] := by
  cases path <;> rfl

end Outputs

namespace Config

/-- Whether the configuration publishes anything on a path. -/
def Uses (c : Config α) (path : Path) : Prop :=
  c.thrustTorque = none ∧ c.assigned path ≠ []

/-- Outputs with nothing where the configuration publishes nothing. -/
structure Admits (c : Config α) (o : Outputs α) : Prop where
  values : ∀ path, ¬ c.Uses path → o.valuesOn path = []
  wrench : c.thrustTorque = none → o.wrench = none

/-- Outputs with something wherever the configuration publishes anything. -/
structure Fills (c : Config α) (o : Outputs α) : Prop where
  values : ∀ path, c.Uses path → o.valuesOn path ≠ []
  wrench : c.thrustTorque.isSome = true → o.wrench.isSome = true

variable {c : Config α}

theorem admits_empty (c : Config α) : c.Admits .empty :=
  ⟨fun path _ => Outputs.valuesOn_empty path, fun _ => rfl⟩

theorem admits_arrange (wrench : ThrustTorque α → Wrench α) (value : Path → Channel α → α) :
    c.Admits (c.arrange wrench value) := by
  constructor
  · intro path hunused
    cases hmode : c.thrustTorque with
    | some t =>
      rw [arrange, hmode]
      exact Outputs.valuesOn_empty path
    | none =>
      have hnone : c.assigned path = [] := by
        by_contra hassigned
        exact hunused ⟨hmode, hassigned⟩
      rw [valuesOn_arrange hmode, hnone, List.map_nil]
  · intro hmode
    rw [arrange, hmode]
    rfl

theorem fills_arrange (wrench : ThrustTorque α → Wrench α) (value : Path → Channel α → α) :
    c.Fills (c.arrange wrench value) := by
  constructor
  · intro path huses
    rw [valuesOn_arrange huses.1, ne_eq, List.map_eq_nil_iff]
    exact huses.2
  · intro hsome
    obtain ⟨t, ht⟩ := Option.isSome_iff_exists.mp hsome
    rw [arrange, ht]
    rfl

/-- Where thrust and torque of the whole vehicle are published, nothing else is. -/
theorem Admits.eq_of_isSome {o : Outputs α} (h : c.Admits o) (hmode : c.thrustTorque.isSome = true) :
    o = ⟨[], [], [], o.wrench⟩ := by
  have hnone (path : Path) : o.valuesOn path = [] := by
    refine h.values path fun huses => ?_
    rw [huses.1] at hmode
    cases hmode
  obtain ⟨motors, servos, external, wrench⟩ := o
  have hmotors : motors = [] := hnone .motor
  have hservos : servos = [] := List.map_eq_nil_iff.mp (hnone .servo)
  have hexternal : external = [] := List.map_eq_nil_iff.mp (hnone .external)
  rw [hmotors, hservos, hexternal]

/-- Outputs of a configuration leave nothing of earlier ones. -/
theorem Admits.onto_eq {o before : Outputs α} (h : c.Admits o) (hfills : c.Fills o) (hbefore : c.Admits before) :
    o.onto before = o := by
  cases hmode : c.thrustTorque with
  | some t =>
    have hsome : c.thrustTorque.isSome = true := by rw [hmode]; rfl
    obtain ⟨wrench, hwrench⟩ := Option.isSome_iff_exists.mp (hfills.wrench hsome)
    have hwhole := h.eq_of_isSome hsome
    rw [hwrench] at hwhole
    rw [hwhole, hbefore.eq_of_isSome hsome]
    rfl
  | none =>
    -- a path without values is one that had none before
    have hkept (path : Path) (hnone : o.valuesOn path = []) : before.valuesOn path = [] :=
      hbefore.values path fun huses => hfills.values path huses hnone
    have hmotors : (if o.motors.isEmpty then before.motors else o.motors) = o.motors :=
      ite_isEmpty_eq (hkept .motor)
    have hservos : (if o.servos.isEmpty then before.servos else o.servos) = o.servos := by
      refine ite_isEmpty_eq fun hnone => List.map_eq_nil_iff.mp (hkept .servo ?_)
      exact List.map_eq_nil_iff.mpr hnone
    have hexternal : (if o.external.isEmpty then before.external else o.external) = o.external := by
      refine ite_isEmpty_eq fun hnone => List.map_eq_nil_iff.mp (hkept .external ?_)
      exact List.map_eq_nil_iff.mpr hnone
    have hwrench := h.wrench hmode
    simp only [Outputs.onto, hwrench, hmotors, hservos, hexternal, hbefore.wrench hmode]
    rw [← hwrench]

end Config

/-! ## What is published for the vehicle -/

namespace Vehicle

/-- What was last published for a vehicle. -/
def actuators (v : Vehicle α) : Outputs α :=
  ⟨v.rotors, v.servos, v.external, v.wrench⟩

theorem actuators_receiveAll (v : Vehicle α) (o : Outputs α) :
    (v.receiveAll o.publications).actuators = o.onto v.actuators := by
  obtain ⟨motors, servos, external, wrench⟩ := o
  cases wrench with
  | some wrench => rfl
  | none =>
    simp only [Outputs.publications, receiveAll, Outputs.onto, List.foldl_append]
    cases motors <;> cases servos <;> cases external <;> rfl

/-- A step of the vehicle leaves its actuators alone. -/
theorem actuators_advance [Scalar α] (v : Vehicle α) : v.advance.actuators = v.actuators := by
  rcases v.advance_cases with ⟨-, h⟩ | ⟨state, h⟩ <;> rw [h] <;> rfl

end Vehicle

section
variable [Scalar α]

/-- Whatever commands come, a dispatcher remembers the last of them. -/
theorem Dispatcher.Follows.exists_after {c : Config α} {last : Option (Command α)} {d : Dispatcher α}
    (h : d.Follows c last) (commands : List (Command α)) : ∃ last, (d.after commands).Follows c last := by
  induction commands generalizing d last with
  | nil => exact ⟨last, h⟩
  | cons m rest ih => exact ih (h.apply m)

theorem Bridge.exists_configured {c : Config α} (h : c.validate = .ok ()) (link : L) (names : NameService) :
    ∃ b, Bridge.configure c link names = .ok b ∧ b.dispatcher.Follows c none := by
  obtain ⟨d, hnew, hfollows⟩ := Dispatcher.exists_new h
  have hb : ∃ b, Bridge.configure c link names = .ok b ∧ b.dispatcher = d := by
    rw [Bridge.configure, hnew]
    exact ⟨_, rfl, rfl⟩
  obtain ⟨b, hb, rfl⟩ := hb
  exact ⟨b, hb, hfollows⟩

variable [AutopilotLink L α]

/-- A tick of a simulation that runs publishes what the dispatcher asks for then, unless it is told to shut down. -/
theorem Bridge.published_preUpdate {b : Bridge L α} {tick : Tick} {bursts : List (Burst α)}
    (hp : tick.paused = false) (hstatus : (b.preUpdate tick bursts).status ≠ .shutdown) :
    (b.preUpdate tick bursts).published = (b.preUpdate tick bursts).bridge.dispatcher.outputs.publications := by
  have hs : ¬ b.connection.isShutdown = true := fun hs => hstatus (by rw [preUpdate, if_pos hs])
  have hunpaused : ¬ tick.paused = true := by simpa using hp
  simp only [preUpdate, if_neg hs, if_neg hunpaused] at hstatus ⊢
  split
  case isTrue hshutdown =>
    rw [if_pos hshutdown] at hstatus
    exact absurd rfl hstatus
  case isFalse => rfl

/-- Any other tick publishes nothing, and the dispatcher stays as it is. -/
theorem Bridge.preUpdate_of_idle {b : Bridge L α} {tick : Tick} {bursts : List (Burst α)}
    (h : ¬ (tick.paused = false ∧ (b.preUpdate tick bursts).status ≠ .shutdown)) :
    (b.preUpdate tick bursts).published = [] ∧ (b.preUpdate tick bursts).bridge.dispatcher = b.dispatcher := by
  by_cases hs : b.connection.isShutdown = true
  · rw [preUpdate, if_pos hs]
    exact ⟨rfl, rfl⟩
  · by_cases hp : tick.paused = true
    · rw [preUpdate, if_neg hs, if_pos hp]
      exact ⟨rfl, rfl⟩
    · simp only [preUpdate, if_neg hs, if_neg hp] at h ⊢
      split
      case isTrue => exact ⟨rfl, b.dispatcher_pollReady⟩
      case isFalse hrunning =>
        rw [if_neg hrunning] at h
        exact absurd ⟨by simpa using hp, hrunning⟩ h

/-- What a call publishes for the vehicle. -/
def Call.published (b : Bridge L α) : Call L α → List (Publication α)
  | .preUpdate tick bursts => (b.preUpdate tick bursts).published
  | _ => []

end

/-! ## Runs of a bridge with its vehicle -/

/-- What can be done with a bridge and a vehicle for which nobody else publishes. -/
inductive Drive (L α : Type) [AutopilotLink L α] where
  /-- A call on the bridge, whose publications the vehicle gets. -/
  | call (call : Call L α)
  /-- The physics step. -/
  | advance
  /-- The sensors are read, which draws on the vehicle's noise. -/
  | measure
  | pause (paused : Bool)

namespace Simulation

variable [Scalar α] [AutopilotLink L α] {c : Config α} {s : Simulation L α}

/-- The simulation after a step. -/
def drive (s : Simulation L α) : Drive L α → Simulation L α
  | .call call => ⟨call.apply s.bridge, s.vehicle.receiveAll (call.published s.bridge)⟩
  | .advance => { s with vehicle := s.vehicle.advance }
  | .measure => { s with vehicle := s.vehicle.samples.2 }
  | .pause paused => s.withPaused paused

/-- The simulation after some steps. -/
def driveAll (s : Simulation L α) (steps : List (Drive L α)) : Simulation L α :=
  steps.foldl drive s

/-- The vehicle has what the dispatcher asks for. -/
def Mirrors (s : Simulation L α) : Prop :=
  s.vehicle.actuators = s.bridge.dispatcher.outputs

/-- A dispatcher with its configuration, and a vehicle with nothing that this does not publish. -/
structure Drives (c : Config α) (s : Simulation L α) : Prop where
  follows : ∃ last, s.bridge.dispatcher.Follows c last
  admits : c.Admits s.vehicle.actuators

/-- A tick that publishes tells the vehicle all that the dispatcher asks for. -/
theorem actuators_drive_preUpdate {tick : Tick} {bursts : List (Burst α)} (hp : tick.paused = false)
    (hstatus : (s.bridge.preUpdate tick bursts).status ≠ .shutdown) :
    let told := s.drive (.call (.preUpdate tick bursts))
    told.vehicle.actuators = told.bridge.dispatcher.outputs.onto s.vehicle.actuators := by
  show (s.vehicle.receiveAll (s.bridge.preUpdate tick bursts).published).actuators = _
  rw [Bridge.published_preUpdate hp hstatus, Vehicle.actuators_receiveAll]
  rfl

/-- Any step tells the vehicle all that the dispatcher asks for, or it leaves both as they are. -/
theorem drive_cases (s : Simulation L α) (step : Drive L α) :
    (s.drive step).vehicle.actuators = (s.drive step).bridge.dispatcher.outputs.onto s.vehicle.actuators
      ∨ (s.drive step).vehicle.actuators = s.vehicle.actuators
        ∧ (s.drive step).bridge.dispatcher = s.bridge.dispatcher := by
  cases step with
  | advance => exact .inr ⟨s.vehicle.actuators_advance, rfl⟩
  | measure => exact .inr ⟨rfl, rfl⟩
  | pause paused => exact .inr ⟨rfl, rfl⟩
  | call call =>
    by_cases hcall : ∃ tick bursts, call = .preUpdate tick bursts
    · obtain ⟨tick, bursts, rfl⟩ := hcall
      by_cases hpublishes : tick.paused = false ∧ (s.bridge.preUpdate tick bursts).status ≠ .shutdown
      · exact .inl (actuators_drive_preUpdate hpublishes.1 hpublishes.2)
      · obtain ⟨hnothing, hdispatcher⟩ := Bridge.preUpdate_of_idle hpublishes
        refine .inr ⟨?_, hdispatcher⟩
        exact congrArg (fun published => (s.vehicle.receiveAll published).actuators) hnothing
    · push Not at hcall
      refine .inr ⟨?_, ?_⟩
      · cases call with
        | preUpdate tick bursts => exact absurd rfl (hcall tick bursts)
        | _ => rfl
      · show (call.apply s.bridge).dispatcher = s.bridge.dispatcher
        rw [Call.dispatcher_apply, Journal.applied_of_not_isTick fun _ => Call.not_isTick_of_mem_events hcall]
        rfl

omit [AutopilotLink L α] in
/-- Whatever the dispatcher asks for takes the place of all that the configuration admits. -/
theorem onto_eq {b : Bridge L α} (hfollows : ∃ last, b.dispatcher.Follows c last) {before : Outputs α}
    (hbefore : c.Admits before) : b.dispatcher.outputs.onto before = b.dispatcher.outputs := by
  obtain ⟨last, hlast⟩ := hfollows
  rw [hlast.outputs_eq]
  exact (Config.admits_arrange _ _).onto_eq (Config.fills_arrange _ _) hbefore

omit [AutopilotLink L α] in
/-- A vehicle that mirrors the dispatcher has nothing that the configuration does not publish. -/
theorem Mirrors.drives (h : s.Mirrors) (hfollows : ∃ last, s.bridge.dispatcher.Follows c last) : s.Drives c := by
  refine ⟨hfollows, ?_⟩
  obtain ⟨last, hlast⟩ := hfollows
  rw [h, hlast.outputs_eq]
  exact Config.admits_arrange _ _

/-- Every step keeps the invariant, and a vehicle that mirrors the dispatcher goes on doing so. -/
theorem Drives.drive (h : s.Drives c) (step : Drive L α) :
    (s.drive step).Drives c ∧ (s.Mirrors → (s.drive step).Mirrors) := by
  have hfollows : ∃ last, (s.drive step).bridge.dispatcher.Follows c last := by
    obtain ⟨last, hlast⟩ := h.follows
    cases step with
    | call call =>
      show ∃ last, (call.apply s.bridge).dispatcher.Follows c last
      rw [Call.dispatcher_apply]
      exact hlast.exists_after _
    | _ => exact ⟨last, hlast⟩
  rcases s.drive_cases step with htold | ⟨hactuators, hdispatcher⟩
  · have hmirrors : (s.drive step).Mirrors := htold.trans (onto_eq hfollows h.admits)
    exact ⟨hmirrors.drives hfollows, fun _ => hmirrors⟩
  · refine ⟨⟨hfollows, ?_⟩, fun hmirrors => ?_⟩
    · rw [hactuators]
      exact h.admits
    · unfold Mirrors at hmirrors ⊢
      rw [hactuators, hdispatcher, hmirrors]

/-- So a whole run keeps both. -/
theorem Drives.driveAll (h : s.Drives c) (steps : List (Drive L α)) :
    (s.driveAll steps).Drives c ∧ (s.Mirrors → (s.driveAll steps).Mirrors) := by
  induction steps generalizing s with
  | nil => exact ⟨h, id⟩
  | cons step rest ih =>
    obtain ⟨hdrives, hmirrors⟩ := h.drive step
    obtain ⟨hrest, hgoesOn⟩ := ih hdrives
    exact ⟨hrest, fun hnow => hgoesOn (hmirrors hnow)⟩

/-- A tick that publishes makes the vehicle a mirror. -/
theorem Drives.mirrors (h : s.Drives c) {tick : Tick} {bursts : List (Burst α)} (hp : tick.paused = false)
    (hstatus : (s.bridge.preUpdate tick bursts).status ≠ .shutdown) :
    (s.drive (.call (.preUpdate tick bursts))).Mirrors := by
  obtain ⟨hdrives, -⟩ := h.drive (.call (.preUpdate tick bursts))
  exact (actuators_drive_preUpdate hp hstatus).trans (onto_eq hdrives.follows h.admits)

/--
**The vehicle has what the dispatcher asks for.** Take a bridge with a valid configuration and a new vehicle for which
only this bridge publishes, and let anything happen: calls of all kinds, ticks in any order, commands, pauses, steps of
the vehicle. From the first tick on that is neither paused nor told to shut down, the rotor velocities, the servo
targets, the external commands and the wrench of the vehicle are those of the dispatcher's outputs. So no value is left
of an earlier tick, although a path without values is not published.
-/
theorem vehicle_mirrors_outputs (hvalid : c.validate = .ok ()) (link : L) (names : NameService)
    (settings : VehicleSettings α) :
    ∃ b, Bridge.configure c link names = .ok b ∧
      ∀ (before : List (Drive L α)) (tick : Tick) (bursts : List (Burst α)) (after : List (Drive L α)),
        tick.paused = false →
        ((Simulation.driveAll ⟨b, .new settings⟩ before).bridge.preUpdate tick bursts).status ≠ .shutdown →
        let now := Simulation.driveAll ⟨b, .new settings⟩ (before ++ .call (.preUpdate tick bursts) :: after)
        let outputs := now.bridge.dispatcher.outputs
        now.vehicle.rotors = outputs.motors ∧ now.vehicle.servos = outputs.servos
          ∧ now.vehicle.external = outputs.external ∧ now.vehicle.wrench = outputs.wrench := by
  obtain ⟨b, hb, hfollows⟩ := Bridge.exists_configured hvalid link names
  refine ⟨b, hb, fun before tick bursts after hp hstatus => ?_⟩
  intro now outputs
  have hstart : Simulation.Drives c (⟨b, .new settings⟩ : Simulation L α) := ⟨⟨none, hfollows⟩, c.admits_empty⟩
  obtain ⟨hdrives, -⟩ := hstart.driveAll before
  obtain ⟨htick, -⟩ := hdrives.drive (.call (.preUpdate tick bursts))
  have hmirrors : now.Mirrors := by
    have hnow : now = ((Simulation.driveAll ⟨b, .new settings⟩ before).drive (.call (.preUpdate tick bursts))).driveAll
        after := List.foldl_append
    rw [hnow]
    exact (htick.driveAll after).2 (hdrives.mirrors hp hstatus)
  have hactuators : now.vehicle.actuators = outputs := hmirrors
  rw [← hactuators]
  exact ⟨rfl, rfl, rfl, rfl⟩

end Simulation

namespace Trial

/-- A rotor and a joint. -/
def rotorAndJoint : Config Float :=
  { config with lockstep := false, channels := [.motor 0 100.0, .servo 1 1.0] }

/-- A command is obtained, the vehicle moves, and another command disarms it. -/
def disarming : List (Drive (ScriptedLink Float) Float) :=
  opening.map .call ++
    [.call (.happen [.publish (some ⟨0, [0.5, 0.25], true⟩)]), .call (.preUpdate (tick 0) []), .advance, .measure,
     .call (.postUpdate (tick 4000)), .call (.happen [.publish (some ⟨4000, [0.5, 0.25], false⟩)])]

end Trial

namespace Simulation

/-- The rotor that was turning stops with the tick that obtains the second command. -/
theorem rotor_stops_when_disarmed :
    Trial.rotorAndJoint.validate = .ok () ∧
      ∃ b, Bridge.configure Trial.rotorAndJoint Trial.link Trial.names = .ok b ∧
        let s := Simulation.driveAll ⟨b, .new .default⟩ Trial.disarming
        let now := Simulation.driveAll ⟨b, .new .default⟩
          (Trial.disarming ++ [.call (.preUpdate (Trial.tick 4000) [])])
        (s.bridge.preUpdate (Trial.tick 4000) []).status ≠ .shutdown
          ∧ s.vehicle.rotors = [50.0] ∧ s.vehicle.servos = [⟨1, 0.25⟩]
          ∧ now.vehicle.rotors = [0.0] ∧ now.vehicle.servos = [⟨1, 0.0⟩] := by
  have hvalid : Trial.rotorAndJoint.validate = .ok () := eq_ok_of_toOption (by decide +kernel)
  have hrun : (Bridge.configure Trial.rotorAndJoint Trial.link Trial.names).toOption.map (fun b =>
      let s := Simulation.driveAll ⟨b, .new .default⟩ Trial.disarming
      let now := Simulation.driveAll ⟨b, .new .default⟩
        (Trial.disarming ++ [.call (.preUpdate (Trial.tick 4000) [])])
      ((s.bridge.preUpdate (Trial.tick 4000) []).status, s.vehicle.actuators, now.bridge.dispatcher.outputs))
      = some (.freeRunning, ⟨[50.0], [⟨1, 0.25⟩], [], none⟩, ⟨[0.0], [⟨1, 0.0⟩], [], none⟩) := by
    decide +kernel
  obtain ⟨b, hb, hr⟩ := Trial.exists_of_map hrun
  simp only [Prod.mk.injEq] at hr
  obtain ⟨hfree, hactuators, houtputs⟩ := hr
  have hstatus : (_ : SyncStatus) ≠ .shutdown := ne_of_eq_of_ne hfree nofun
  obtain ⟨b', hb', hmirrors⟩ := vehicle_mirrors_outputs hvalid Trial.link Trial.names .default
  obtain rfl : b = b' := Except.ok.inj (hb.symm.trans hb')
  obtain ⟨hrotors, hservos, -, -⟩ := hmirrors Trial.disarming (Trial.tick 4000) [] [] rfl hstatus
  rw [houtputs] at hrotors hservos
  exact ⟨hvalid, b, hb, hstatus, congrArg Outputs.motors hactuators, congrArg Outputs.servos hactuators, hrotors,
    hservos⟩

end Simulation

end HilBridge
