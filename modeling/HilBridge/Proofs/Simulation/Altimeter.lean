import Mathlib
import HilBridge.Proofs.Atmosphere
import HilBridge.Proofs.Simulation.TrueMotion

/-!
# `HilBridge.Proofs.Simulation.Altimeter` — the barometer tells the altitude of the vehicle

A tick hands over the pressure at the vehicle's altitude before its cycle, so a barometer report is made of the pressure
of its own tick, whenever it is due (`UpToDate.barometer`). Pressure and altitude undo each other, hence an undisturbed
report tells the altitude that the vehicle is at.

**Main statement.** `altitude_comes_through`: in exact arithmetic, for every atmosphere, and along every run.
-/

namespace HilBridge

variable {L α : Type}

/-! ## Reports of the barometer in a tick -/

theorem Vehicle.barometerReports_refill [Scalar α] (v : Vehicle α) (a : Assembler α) (plan : CyclePlan) :
    ∃ noise, ∀ report ∈ reportsOf Report.barometer? ((v.refill a).assemble plan).1,
      report = ⟨v.time, (a.settings.barometerReport noise (Atmosphere.standard.pressureAt v.amsl)).1⟩ := by
  obtain ⟨noise, hreports⟩ := (v.refill a).barometerReports_cycle plan
  refine ⟨noise, ?_⟩
  rw [hreports, Feed.sendDue]
  split
  · exact fun report hreport => List.mem_singleton.mp hreport
  · exact fun report hreport => absurd hreport List.not_mem_nil

namespace Simulation

variable [Scalar α]

/-- Nothing that the bridge holds is later than the vehicle. -/
structure UpToDate (settings : AssemblySettings α) (s : Simulation L α) : Prop where
  settings : s.bridge.assembler.settings = settings
  notAfter : s.bridge.assembler.NotAfter s.vehicle.time
  inOrder : s.bridge.assembler.InOrder

theorem upToDate_new {c : Config α} {links : List RangeLink} {s : Simulation L α}
    (h : s.bridge.assembler = .new c links) : s.UpToDate c.assembly := by
  have hempty : ∀ k, s.bridge.assembler.tray k = .empty := by
    rw [h]
    exact Assembler.tray_new c links
  exact ⟨h ▸ rfl, Assembler.notAfter_of_empty hempty _, Assembler.inOrder_of_empty hempty⟩

variable {settings : AssemblySettings α} {s : Simulation L α}

namespace UpToDate

/-- Where samples leave the bridge with nothing later than they are, it is still so. -/
theorem of_books (h : s.UpToDate settings) {t : Simulation L α} {l : Ledger α}
    (hbooks : s.bridge.assembler.Books l t.bridge.assembler) (htime : s.vehicle.time ≤ t.vehicle.time)
    (harrivals : ∀ x ∈ l.arrivals, x.time ≤ t.vehicle.time) : t.UpToDate settings where
  settings := hbooks.settings.trans h.settings
  notAfter := hbooks.notAfter (h.notAfter.mono htime) harrivals
  inOrder := hbooks.inOrder h.inOrder

theorem deliver (h : s.UpToDate settings) : s.deliver.UpToDate settings := by
  have hfed := (Vehicle.fed_refill h.notAfter).accepts
  rw [deliver_eq_refill h.notAfter]
  exact ⟨h.settings, hfed.notAfter h.notAfter, hfed.inOrder h.inOrder⟩

variable [AutopilotLink L α]

/-- Every tick keeps the bridge up to date. -/
theorem stepDuring (h : s.UpToDate settings) (bursts : List (Burst α)) :
    (s.stepDuring bursts).simulation.UpToDate settings := by
  let published := (s.bridge.preUpdate s.vehicle.tick bursts).published
  let start : Simulation L α := ⟨(s.bridge.preUpdate s.vehicle.tick bursts).bridge, s.vehicle.receiveAll published⟩
  obtain ⟨rotors, servos, external, wrench, hreceived⟩ := s.vehicle.receiveAll_eq published
  obtain ⟨-, -, htime⟩ := s.moved_cases published
  have hstart : start.UpToDate settings := by
    refine h.of_books (s.bridge.books_preUpdate s.vehicle.tick bursts) (Nat.le_of_eq ?_) nofun
    show s.vehicle.time = (s.vehicle.receiveAll published).time
    rw [hreceived]
  have hmoved : (⟨start.bridge, start.vehicle.advance⟩ : Simulation L α).UpToDate settings :=
    h.of_books (s.bridge.books_preUpdate s.vehicle.tick bursts) htime nofun
  have hdelivered := hmoved.deliver
  unfold Simulation.stepDuring
  dsimp only
  split
  · exact hstart
  · refine hdelivered.of_books (Bridge.books_postUpdate hdelivered.inOrder _) (Nat.le_refl _) fun x hx => ?_
    obtain ⟨e, he, hex⟩ := List.mem_filterMap.mp hx
    rw [Bridge.arrival?_of_mem_postUpdateEntries he] at hex
    cases hex

/-- Whenever a pressure is reported, it is that of the vehicle in the same tick. -/
theorem barometer (h : s.UpToDate settings) (bursts : List (Burst α)) :
    let v := (s.stepDuring bursts).simulation.vehicle
    ∃ noise, ∀ report ∈ reportsOf Report.barometer? (s.reportsDuring bursts),
      report = ⟨v.time, (settings.barometerReport noise (Atmosphere.standard.pressureAt v.amsl)).1⟩ := by
  intro v
  by_cases hreports : s.reportsDuring bursts = []
  · rw [hreports]
    exact ⟨.ofSeed none, nofun⟩
  · obtain ⟨-, -, plan, previous, source, hcycle, -, hvehicle⟩ := stepDuring_of_reports h.notAfter hreports
    obtain ⟨noise, hmade⟩ :=
      (s.stepping bursts).advance.barometerReports_refill (s.bridge.assembler.renumbered previous) plan
    have hsettings : (s.bridge.assembler.renumbered previous).settings = settings := h.settings
    have hmoved : v = { (s.stepping bursts).advance with noise := source } := hvehicle
    rw [hcycle, hmoved, ← hsettings]
    exact ⟨noise, hmade⟩

end UpToDate

end Simulation

/-! ## Without disturbance -/

section
variable {pow : ℝ → ℝ → ℝ}

theorem NoiseSource.add_none (pow : ℝ → ℝ → ℝ) (noise : NoiseSource) (x : ℝ) :
    letI := Scalar.withPower pow
    noise.add x .none = (x, noise) := by
  let exact : Scalar ℝ := Scalar.withPower pow
  have hcalm : (Noise.none : Noise ℝ).isRandom = false := by
    show (!decide ((0.0 : ℝ) ≤ 0.0) && true) = false
    simp
  rw [add, sample_of_calm hcalm]
  exact Prod.ext (by show x + 0.0 = x; norm_num) rfl

/-- Through hectopascal and back. -/
theorem AssemblySettings.barometerReport_pressureAt (h : AtmosphericPower pow) {s : AssemblySettings ℝ}
    (hpositive : s.atmosphere.Positive) {altitude : ℝ}
    (hle : altitude ≤ s.atmosphere.temperature / s.atmosphere.lapseRate) (noise : NoiseSource) :
    letI := Scalar.withPower pow
    s.noise.pressure = .none →
    let report := (s.barometerReport noise (s.atmosphere.pressureAt altitude)).1
    report.altitude = altitude
      ∧ (s.noise.temperature = .none → report.temperature = s.atmosphere.temperatureAt altitude - 273.15) := by
  let exact : Scalar ℝ := Scalar.withPower pow
  intro hpressure
  have hpascal (p : ℝ) : p * 0.01 * 100.0 = p := by
    norm_num
    ring
  have hreport : (s.barometerReport noise (s.atmosphere.pressureAt altitude)).1
      = ⟨s.atmosphere.pressureAt altitude * 0.01, altitude,
          (noise.add (s.atmosphere.temperatureAt altitude - 273.15) s.noise.temperature).1⟩ := by
    rw [barometerReport, hpressure, NoiseSource.add_none]
    dsimp only
    rw [hpascal, Atmosphere.pressureAltitude_pressureAt h hpositive hle,
      Atmosphere.celsiusForPressure_pressureAt h hpositive hle]
  dsimp only
  rw [hreport]
  refine ⟨rfl, fun htemperature => ?_⟩
  dsimp only
  rw [htemperature, NoiseSource.add_none]

end

/-! ## Runs -/

namespace Simulation

/-- Runs with the vehicle after each tick and what the barometer reports in it. -/
def altimeter (L α : Type) [Scalar α] [AutopilotLink L α] :
    Recorder (Simulation L α) (Turn L α) (Vehicle α × List (Stamped (BarometerReport α))) where
  apply s turn := ((s.turned turn).stepDuring turn.bursts).simulation
  entries s turn :=
    [(((s.turned turn).stepDuring turn.bursts).simulation.vehicle,
      reportsOf Report.barometer? ((s.turned turn).reportsDuring turn.bursts))]

/-- Along a run every report is made of the pressure at the vehicle's altitude in its tick. -/
theorem UpToDate.run [Scalar α] [AutopilotLink L α] {settings : AssemblySettings α} {s : Simulation L α}
    (h : s.UpToDate settings) (turns : List (Turn L α)) :
    ∀ r ∈ ((altimeter L α).run s turns).2, ∃ noise, ∀ report ∈ r.2,
      report = ⟨r.1.time, (settings.barometerReport noise (Atmosphere.standard.pressureAt r.1.amsl)).1⟩ := by
  refine ((altimeter L α).run_induction (P := fun t log => t.UpToDate settings ∧ ∀ r ∈ log, ∃ noise,
    ∀ report ∈ r.2, report
      = ⟨r.1.time, (settings.barometerReport noise (Atmosphere.standard.pressureAt r.1.amsl)).1⟩)
    ⟨h, nofun⟩ (fun t log turn ⟨hkept, hlog⟩ => ?_) turns).2
  -- what happens to the connection before a tick does not show in the assembler
  have hturned : (t.turned turn).UpToDate settings := ⟨hkept.1, hkept.2, hkept.3⟩
  refine ⟨hturned.stepDuring turn.bursts, fun r hr => ?_⟩
  rcases List.mem_append.mp hr with hr | hr
  · exact hlog r hr
  · rw [List.mem_singleton.mp hr]
    exact hturned.barometer turn.bursts

/-! ## The theorem -/

/--
**The altitude comes through the atmosphere**, in exact arithmetic and with any power that grows and is undone by its
root. In every atmosphere, up to the altitude where the temperature reaches zero, the pressure at an altitude tells that
altitude and the temperature there; every pressure that is not negative is the pressure at the altitude it tells; the
larger the pressure the lower the altitude, and pressures below zero all count as vacuum. Along every run of a
simulation in which the pressure is not disturbed, whatever happens to the connection, a barometer report has the time
and the altitude of the vehicle in its tick, and the temperature there if that is not disturbed either.
-/
theorem altitude_comes_through {pow : ℝ → ℝ → ℝ} (h : AtmosphericPower pow) :
    letI := Scalar.withPower pow
    (∀ a : Atmosphere ℝ, a.Positive →
      (∀ altitude, altitude ≤ a.temperature / a.lapseRate →
        a.pressureAltitude (a.pressureAt altitude) = altitude
          ∧ a.celsiusForPressure (a.pressureAt altitude) = a.temperatureAt altitude - 273.15)
        ∧ (∀ pressure, 0 ≤ pressure → a.pressureAt (a.pressureAltitude pressure) = pressure)
        ∧ StrictAntiOn a.pressureAltitude (Set.Ici 0)
        ∧ ∀ pressure, pressure ≤ 0 → a.pressureAltitude pressure = a.pressureAltitude 0)
      ∧ ∀ (L : Type) [AutopilotLink L ℝ] (c : Config ℝ) (links : List RangeLink) (s : Simulation L ℝ),
        c.noise.pressure = .none → s.bridge.assembler = .new c links →
        ∀ (turns : List (Turn L ℝ)), ∀ r ∈ ((altimeter L ℝ).run s turns).2, ∀ report ∈ r.2,
          report.time = r.1.time ∧ (r.1.amsl ≤ 288.15 / 0.0065 →
            report.value.altitude = r.1.amsl
              ∧ (c.noise.temperature = .none → report.value.temperature = 288.15 - 0.0065 * r.1.amsl - 273.15)) := by
  let exact : Scalar ℝ := Scalar.withPower pow
  refine ⟨fun a ha => ?atmosphere, fun L _ c links s hcalm hstart turns r hr report hreport => ?barometer⟩
  case atmosphere =>
    exact ⟨fun altitude hle => ⟨Atmosphere.pressureAltitude_pressureAt h ha hle,
        Atmosphere.celsiusForPressure_pressureAt h ha hle⟩,
      fun pressure hle => Atmosphere.pressureAt_pressureAltitude h ha hle,
      Atmosphere.strictAntiOn_pressureAltitude h ha,
      fun pressure hle => Atmosphere.pressureAltitude_of_nonpos pow ha hle⟩
  case barometer =>
    obtain ⟨noise, hmade⟩ := (upToDate_new hstart).run turns r hr
    rw [hmade report hreport]
    exact ⟨rfl, fun hle => AssemblySettings.barometerReport_pressureAt h (s := c.assembly)
      (Atmosphere.positive_standard pow) hle noise hcalm⟩

/-! ## A vehicle at rest -/

/-- A bridge that takes the pressure as it is. -/
noncomputable def calmConfig : Config ℝ :=
  { climbConfig with noise := { climbConfig.noise with pressure := .none } }

/-- A vehicle on the ground, and a bridge that has no link yet. -/
noncomputable def rest : Simulation (ScriptedLink ℝ) ℝ :=
  { bridge := { climb.bridge with assembler := .new calmConfig [] }
    vehicle := Vehicle.new (VehicleSettings.ofConfig calmConfig) }

noncomputable def restLog : List (Vehicle ℝ × List (Stamped (BarometerReport ℝ))) :=
  ((altimeter (ScriptedLink ℝ) ℝ).run rest [climbOpening]).2

/-- The ground keeps it where it is. -/
theorem amsl_advance_rest : rest.vehicle.advance.amsl = 488 := by
  have hwrench : rest.vehicle.wrench? = some ⟨0.0, 0.0⟩ := rfl
  have hheld : Vehicle.liftOff rest.vehicle.state
      ((0.0 : ℝ) / rest.vehicle.settings.mass + rest.vehicle.settings.gravity.z) = (0.0, 0.0) := by
    show (if Scalar.le (0.0 : ℝ) 0.0 && Scalar.lt ((0.0 : ℝ) / 1.5 + -9.8) 0.0 then
      ((0.0 : ℝ), Scalar.max (0.0 : ℝ) 0.0) else _) = _
    rw [if_pos]
    · simp [Scalar.max]
    · rw [Bool.and_eq_true, Scalar.le_iff, Scalar.lt_iff]
      norm_num
  rw [Vehicle.advance_eq rfl hwrench, Vehicle.integrate]
  dsimp only
  rw [hheld]
  show (488.0 : ℝ) + (Vehicle.touchDown (0.0 + (0.0 + 0.0 * _) * _) _ _).1 = 488
  simp [Vehicle.touchDown]
  norm_num

theorem length_restLog : restLog.map (·.2.length) = [1] := by
  decide +kernel

theorem altitude_at_rest :
    AtmosphericPower Real.rpow ∧ calmConfig.noise.pressure = .none ∧ rest.bridge.assembler = .new calmConfig []
      ∧ (Atmosphere.standard : Atmosphere ℝ).pressureAltitude (Atmosphere.standard.pressureAt 488) = 488
      ∧ ∃ vehicle report, restLog = [(vehicle, [report])] ∧ report.value.altitude = 488 := by
  obtain ⟨hatmosphere, hbarometer⟩ := altitude_comes_through atmosphericPower_rpow
  have hstandard := hatmosphere _ (Atmosphere.positive_standard Real.rpow)
  refine ⟨atmosphericPower_rpow, rfl, rfl, (hstandard.1 488 ?_).1, ?_⟩
  · show (488 : ℝ) ≤ 288.15 / 0.0065
    norm_num
  · obtain ⟨⟨vehicle, reports⟩, hlog⟩ := List.length_eq_one_iff.mp (show restLog.length = 1 from rfl)
    have hlength := length_restLog
    rw [hlog] at hlength
    obtain ⟨report, rfl⟩ := List.length_eq_one_iff.mp (List.singleton_inj.mp hlength)
    have hground : ∀ r ∈ restLog, r.1.amsl = 488 := by
      intro r hr
      have hr : r = (_, _) := List.mem_singleton.mp hr
      rw [hr]
      exact amsl_advance_rest
    have hamsl := hground _ (hlog ▸ List.mem_singleton_self _)
    have hmem : (vehicle, [report]) ∈ restLog := hlog ▸ List.mem_singleton_self _
    obtain ⟨-, htold⟩ := hbarometer (ScriptedLink ℝ) calmConfig [] rest rfl rfl [climbOpening] _ hmem report
      (List.mem_singleton_self _)
    refine ⟨vehicle, report, hlog, ?_⟩
    rw [(htold (hamsl.trans_le (by norm_num))).1]
    exact hamsl

end Simulation

end HilBridge
