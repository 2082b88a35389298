import HilBridge.Config.Reader
import Mathlib.Data.List.Basic

/-!
# `HilBridge.Proofs.Config.Defaults` — what holds where a text says nothing

The readers of the records of a configuration each know what holds for a field that is left out. A `Setting` is a
scalar field at any depth, with the path of names at which a text gives it; `Config.settings` are all of them. So
one can ask of a text and a setting whether the text gives it (`Json.at?`), and what the configuration has for it,
whatever else the text gives.

One lemma for each record says what its reader makes of its settings (`holds_ofJson?`), and `Setting.holds_inside`
carries that to the record around it. With one exception a setting that is left out is that of the default
configuration. The exception is the noise of a reading: where it is given without one of its parts, this part is that
of no noise at all and not that of the reading's default (`Config.missing`).

**Main statement.** `read_settings`.
-/

namespace HilBridge

/-! ## Values at paths -/

namespace Json

/-- The value at a path of names, through objects. -/
def at? : List String → Json → Option Json
  | [], j => some j
  | name :: rest, j => (j.member? name).bind (at? rest)

def isObject : Json → Bool
  | .object _ => true
  | _ => false

theorem at?_singleton (name : String) (j : Json) : j.at? [name] = j.member? name := by
  rw [at?]
  cases j.member? name <;> rfl

theorem member?_cons (found name : String) (value : Json) (rest : List (Option String × Json)) :
    (Json.object ((some found, value) :: rest)).member? name
      = if found = name then some value else (Json.object rest).member? name := by
  by_cases h : found = name <;> simp [member?, h]

theorem Record.get?_cons (found name : String) (value : Json) (rest : Record) :
    Record.get? ((found, value) :: rest) name = if found = name then some value else rest.get? name := by
  by_cases h : found = name <;> simp [Record.get?, h]

/-- A record that is read has for a known name what its object has. -/
theorem get?_of_knownMembers? {names : List String} {members : List (Option String × Json)} {r : Record}
    (h : knownMembers? names members = some r) {name : String} (hname : name ∈ names) :
    r.get? name = (Json.object members).member? name := by
  induction members generalizing r with
  | nil =>
    cases h
    rfl
  | cons member rest ih =>
    obtain ⟨_ | found, value⟩ := member
    · cases h
    · obtain ⟨given, hgiven, h⟩ := Option.bind_eq_some_iff.mp h
      have hrest := ih hgiven
      rw [member?_cons]
      split at h
      case isTrue =>
        split at h
        case isTrue => cases h
        case isFalse =>
          cases h
          rw [Record.get?_cons, hrest]
      case isFalse hunknown =>
        -- a member that is skipped has another name
        cases h
        have hother : found ≠ name := by
          rintro rfl
          exact hunknown (List.contains_iff_mem.mpr hname)
        rw [if_neg hother, hrest]

theorem natBelow?_lt {bound n : Nat} {j : Json} (h : j.natBelow? bound = some n) : n < bound := by
  cases j with
  | number literal =>
    obtain ⟨-, hlt⟩ := Option.filter_eq_some_iff.mp h
    exact of_decide_eq_true hlt
  | _ => cases h

/-- A field under another reader, which agrees with the one that read it. -/
theorem Record.optional_map {β γ : Type} {r : Record} {name : String} {read : Json → Option β}
    {read' : Json → Option γ} {missing value : β} (f : β → γ)
    (hread : ∀ given value, read given = some value → read' given = some (f value))
    (h : r.optional name read missing = some value) : r.optional name read' (f missing) = some (f value) := by
  unfold Record.optional at h ⊢
  split at h
  case h_1 given hgiven => exact hread given value h
  case h_2 => rw [Option.some.inj h]

end Json

open Json

/-! ## Settings -/

/-- A scalar setting: where it is given, how it is read, and what of the settings it is. -/
structure Setting (σ : Type) where
  {β : Type}
  path : List String
  read : Json → Option β
  get : σ → β

namespace Setting

variable {σ τ : Type}

def field {β : Type} (name : String) (read : Json → Option β) (get : σ → β) : Setting σ :=
  ⟨[name], read, get⟩

/-- A setting of a record that is itself a field. -/
def inside (name : String) (part : τ → σ) (s : Setting σ) : Setting τ :=
  ⟨name :: s.path, s.read, s.get ∘ part⟩

/-- A setting that is given has the value that is given, and any other the one that it has in `missing`. -/
def Holds (s : Setting σ) (missing : σ) (j : Json) (x : σ) : Prop :=
  match j.at? s.path with
  | some value => s.read value = some (s.get x)
  | none => s.get x = s.get missing

section
variable {s : Setting σ} {missing x : σ} {j : Json}

theorem Holds.read_given (h : s.Holds missing j x) {given : Json} (hgiven : j.at? s.path = some given) :
    s.read given = some (s.get x) := by
  unfold Holds at h
  rw [hgiven] at h
  exact h

theorem Holds.get_left (h : s.Holds missing j x) (hleft : j.at? s.path = none) : s.get x = s.get missing := by
  unfold Holds at h
  rw [hleft] at h
  exact h

end

section
variable {names : List String} {members : List (Option String × Json)} {r : Record}

/-- What the reader of a field makes of it. -/
theorem optional_eq_some (hr : record? names (.object members) = some r) {name : String} (hname : name ∈ names)
    {β : Type} {read : Json → Option β} {missing value : β} (h : r.optional name read missing = some value) :
    match (Json.object members).member? name with
    | some given => read given = some value
    | none => value = missing := by
  unfold Record.optional at h
  rw [get?_of_knownMembers? hr hname] at h
  cases hmember : (Json.object members).member? name with
  | some given =>
    rw [hmember] at h
    exact h
  | none =>
    rw [hmember] at h
    exact (Option.some.inj h).symm

theorem holds_field (hr : record? names (.object members) = some r) {name : String} (hname : name ∈ names) {β : Type}
    {read : Json → Option β} {get : σ → β} {missing x : σ}
    (h : r.optional name read (get missing) = some (get x)) :
    (Setting.field name read get).Holds missing (.object members) x := by
  have hfield := optional_eq_some hr hname h
  unfold Holds field
  rw [at?_singleton]
  exact hfield

/-- What holds for the settings of a part holds for them in the whole. -/
theorem holds_inside (hr : record? names (.object members) = some r) {name : String} (hname : name ∈ names)
    {read : Json → Option σ} {part : τ → σ} {outer : σ} {missing x : τ}
    (h : r.optional name read outer = some (part x)) {settings : List (Setting σ)}
    (hgiven : ∀ given, (Json.object members).member? name = some given → read given = some (part x) →
      ∀ s ∈ settings, s.Holds (part missing) given (part x))
    (homitted : (Json.object members).member? name = none → part missing = outer) :
    ∀ s ∈ settings.map (inside name part), s.Holds missing (.object members) x := by
  intro s hs
  obtain ⟨inner, hinner, rfl⟩ := List.mem_map.mp hs
  have hfield := optional_eq_some hr hname h
  unfold Holds inside at?
  split at hfield
  case h_1 given hmember =>
    rw [hmember]
    exact hgiven given hmember hfield inner hinner
  case h_2 hmember =>
    rw [hmember]
    show inner.get (part x) = inner.get (part missing)
    rw [hfield, homitted hmember]

end

end Setting

/-! ## Records -/

namespace Topics

def settings : List (Setting Topics) :=
  [.field "pose" Json.text? pose, .field "imu" Json.text? imu, .field "gps" Json.text? gps,
   .field "magnetometer" Json.text? magnetometer, .field "barometer" Json.text? barometer,
   .field "cmd_vel" Json.text? cmdVel, .field "motor_speed" Json.text? motorSpeed]

theorem holds_ofJson? {members : List (Option String × Json)} {t : Topics} (h : ofJson? (.object members) = some t) :
    ∀ s ∈ settings, s.Holds default (.object members) t := by
  simp only [ofJson?, Option.bind_eq_bind, Option.bind_eq_some_iff] at h
  obtain ⟨r, hr, pose, hpose, imu, himu, gps, hgps, magnetometer, hmagnetometer, barometer, hbarometer, cmdVel, hcmdVel,
    motorSpeed, hmotorSpeed, h⟩ := h
  cases h
  simp only [settings, List.forall_mem_cons]
  exact ⟨Setting.holds_field hr (by decide) hpose, Setting.holds_field hr (by decide) himu,
    Setting.holds_field hr (by decide) hgps, Setting.holds_field hr (by decide) hmagnetometer,
    Setting.holds_field hr (by decide) hbarometer, Setting.holds_field hr (by decide) hcmdVel,
    Setting.holds_field hr (by decide) hmotorSpeed, List.forall_mem_nil _⟩

end Topics

namespace GeoPoint

def settings : List (Setting (GeoPoint Float)) :=
  [.field "lat_deg" Json.float? latitude, .field "lon_deg" Json.float? longitude, .field "alt_m" Json.float? altitude]

theorem holds_ofJson? {members : List (Option String × Json)} {p : GeoPoint Float}
    (h : ofJson? (.object members) = some p) : ∀ s ∈ settings, s.Holds default (.object members) p := by
  simp only [ofJson?, Option.bind_eq_bind, Option.bind_eq_some_iff] at h
  obtain ⟨r, hr, latitude, hlatitude, longitude, hlongitude, altitude, haltitude, h⟩ := h
  cases h
  simp only [settings, List.forall_mem_cons]
  exact ⟨Setting.holds_field hr (by decide) hlatitude, Setting.holds_field hr (by decide) hlongitude,
    Setting.holds_field hr (by decide) haltitude, List.forall_mem_nil _⟩

end GeoPoint

namespace ExternalControllers

def settings : List (Setting ExternalControllers) :=
  [.field "use_propeller_pid" Json.bool? propeller, .field "use_elevator_pid" Json.bool? elevator,
   .field "use_left_elevon_pid" Json.bool? leftElevon, .field "use_right_elevon_pid" Json.bool? rightElevon]

theorem holds_ofJson? {members : List (Option String × Json)} {e : ExternalControllers}
    (h : ofJson? (.object members) = some e) : ∀ s ∈ settings, s.Holds none (.object members) e := by
  simp only [ofJson?, Option.bind_eq_bind, Option.bind_eq_some_iff] at h
  obtain ⟨r, hr, propeller, hpropeller, elevator, helevator, leftElevon, hleftElevon, rightElevon, hrightElevon, h⟩ := h
  cases h
  simp only [settings, List.forall_mem_cons]
  exact ⟨Setting.holds_field hr (by decide) hpropeller, Setting.holds_field hr (by decide) helevator,
    Setting.holds_field hr (by decide) hleftElevon, Setting.holds_field hr (by decide) hrightElevon,
    List.forall_mem_nil _⟩

end ExternalControllers

namespace RetryPolicy

def settings : List (Setting RetryPolicy) :=
  [.field "max_attempts" (Json.natBelow? (Nat.pow 2 32)) maxAttempts,
   .field "initial_backoff_ms" readCount initialBackoffMs, .field "max_backoff_ms" readCount maxBackoffMs]

theorem holds_ofJson? {members : List (Option String × Json)} {p : RetryPolicy}
    (h : ofJson? (.object members) = some p) : ∀ s ∈ settings, s.Holds default (.object members) p := by
  simp only [ofJson?, Option.bind_eq_bind, Option.bind_eq_some_iff] at h
  obtain ⟨r, hr, maxAttempts, hmaxAttempts, initialBackoff, hinitialBackoff, maxBackoff, hmaxBackoff, h⟩ := h
  cases h
  simp only [settings, List.forall_mem_cons]
  exact ⟨Setting.holds_field hr (by decide) hmaxAttempts, Setting.holds_field hr (by decide) hinitialBackoff,
    Setting.holds_field hr (by decide) hmaxBackoff, List.forall_mem_nil _⟩

end RetryPolicy

/-! ## Noise -/

namespace Noise

def deviation : Setting (Noise Float) :=
  .field "stddev" Json.float? stddev

def settings : List (Setting (Noise Float)) :=
  [.field "mean" Json.float? mean, deviation]

/-- Without its reading a part of the noise is none at all. -/
theorem holds_ofJson? {members : List (Option String × Json)} {n : Noise Float}
    (h : ofJson? (.object members) = some n) : ∀ s ∈ settings, s.Holds none (.object members) n := by
  simp only [ofJson?, Option.bind_eq_bind, Option.bind_eq_some_iff] at h
  obtain ⟨r, hr, mean, hmean, stddev, hstddev, h⟩ := h
  cases h
  simp only [settings, List.forall_mem_cons]
  exact ⟨Setting.holds_field hr (by decide) hmean, Setting.holds_field hr (by decide) hstddev, List.forall_mem_nil _⟩

end Noise

/-- The noise of a reading, with the name of the reading. -/
structure NoiseField where
  name : String
  noise : SensorNoise Float → Noise Float

namespace SensorNoise

def readings : List NoiseField :=
  [⟨"baro_pressure_hpa", pressure⟩, ⟨"baro_temperature_c", temperature⟩, ⟨"mag_gauss", magnetic⟩,
   ⟨"gps_horizontal_m", horizontal⟩, ⟨"gps_vertical_m", vertical⟩, ⟨"gps_velocity_ms", velocity⟩]

/-- The readings that have noise by default. -/
def noisy : List String :=
  ["baro_pressure_hpa", "baro_temperature_c", "mag_gauss"]

theorem exists_of_noisy : ∀ name ∈ noisy, ∃ reading ∈ readings, reading.name = name
    ∧ (reading.noise default).stddev ≠ Noise.none.stddev := by
  simp only [noisy, List.forall_mem_cons]
  exact ⟨⟨_, .head _, rfl, by decide +kernel⟩, ⟨_, .tail _ (.head _), rfl, by decide +kernel⟩,
    ⟨_, .tail _ (.tail _ (.head _)), rfl, by decide +kernel⟩, List.forall_mem_nil _⟩

/-- Only deviations are not zero by default. -/
theorem default_of_readings : ∀ reading ∈ readings, (reading.noise default).mean = Noise.none.mean
    ∧ (reading.name ∈ noisy ∨ reading.noise default = .none) := by
  simp only [readings, List.forall_mem_cons]
  exact ⟨⟨rfl, .inl (by decide)⟩, ⟨rfl, .inl (by decide)⟩, ⟨rfl, .inl (by decide)⟩, ⟨rfl, .inr rfl⟩, ⟨rfl, .inr rfl⟩,
    ⟨rfl, .inr rfl⟩, List.forall_mem_nil _⟩

def settings : List (Setting (SensorNoise Float)) :=
  readings.flatMap fun reading => Noise.settings.map (.inside reading.name reading.noise)

/-- The noise of a reading as far as it is left out: that of its default, unless any of it is given. -/
def missingPart (j : Json) (reading : NoiseField) : Noise Float :=
  if (j.member? reading.name).isSome then .none else reading.noise default

/-- The noise as far as it is left out. -/
def missing (j : Json) : SensorNoise Float :=
  { pressure := missingPart j ⟨"baro_pressure_hpa", pressure⟩
    temperature := missingPart j ⟨"baro_temperature_c", temperature⟩
    magnetic := missingPart j ⟨"mag_gauss", magnetic⟩
    horizontal := missingPart j ⟨"gps_horizontal_m", horizontal⟩
    vertical := missingPart j ⟨"gps_vertical_m", vertical⟩
    velocity := missingPart j ⟨"gps_velocity_ms", velocity⟩ }

theorem noise_missing (j : Json) : ∀ reading ∈ readings, reading.noise (missing j) = missingPart j reading := by
  simp only [readings, List.forall_mem_cons]
  exact ⟨rfl, rfl, rfl, rfl, rfl, rfl, List.forall_mem_nil _⟩

theorem holds_reading {names : List String} {members : List (Option String × Json)} {r : Record}
    (hr : record? names (.object members) = some r)
    (hobjects : ∀ reading ∈ readings, ∀ given, (Json.object members).member? reading.name = some given →
      given.isObject = true)
    {reading : NoiseField} (hreading : reading ∈ readings) (hname : reading.name ∈ names) {n : SensorNoise Float}
    (h : r.optional reading.name Noise.ofJson? (reading.noise default) = some (reading.noise n)) :
    ∀ s ∈ Noise.settings.map (Setting.inside reading.name reading.noise),
      s.Holds (missing (.object members)) (.object members) n := by
  refine Setting.holds_inside hr hname h ?_ ?_
  · intro given hmember hread
    have hobject := hobjects reading hreading given hmember
    rw [noise_missing _ reading hreading, missingPart, hmember]
    cases given with
    | object members => exact Noise.holds_ofJson? hread
    | _ => cases hobject
  · intro hmember
    rw [noise_missing _ reading hreading, missingPart, hmember]
    rfl

theorem holds_ofJson? {members : List (Option String × Json)}
    (hobjects : ∀ reading ∈ readings, ∀ given, (Json.object members).member? reading.name = some given →
      given.isObject = true)
    {n : SensorNoise Float} (h : ofJson? (.object members) = some n) :
    ∀ s ∈ settings, s.Holds (missing (.object members)) (.object members) n := by
  simp only [ofJson?, Option.bind_eq_bind, Option.bind_eq_some_iff] at h
  obtain ⟨r, hr, pressure, hpressure, temperature, htemperature, magnetic, hmagnetic, horizontal, hhorizontal, vertical,
    hvertical, velocity, hvelocity, h⟩ := h
  cases h
  have hnames : ∀ reading ∈ readings, reading.name ∈ fieldNames := by decide
  have hread : ∀ reading ∈ readings, r.optional reading.name Noise.ofJson? (reading.noise default)
      = some (reading.noise ⟨pressure, temperature, magnetic, horizontal, vertical, velocity⟩) := by
    simp only [readings, List.forall_mem_cons]
    exact ⟨hpressure, htemperature, hmagnetic, hhorizontal, hvertical, hvelocity, List.forall_mem_nil _⟩
  intro s hs
  obtain ⟨reading, hreading, hs⟩ := List.mem_flatMap.mp hs
  exact holds_reading hr hobjects hreading (hnames reading hreading) (hread reading hreading) s hs

end SensorNoise

/-! ## The whole -/

namespace Config

/-- The scalar settings that stand for themselves. -/
def scalars : List (Setting (Config Float)) :=
  [.field "namespace" Json.text? topicNamespace, .field "hostname" Json.text? hostname,
   .field "port" (Json.natBelow? (Nat.pow 2 16)) (·.port.toNat),
   .field "local_port" (Json.natBelow? (Nat.pow 2 16)) (·.localPort.toNat),
   .field "protocol_version" Json.binary32? protocolVersion, .field "enable_lockstep" Json.bool? lockstep,
   .field "speed_factor" Json.float? speedFactor,
   .field "update_skip_factor" (Json.natBelow? (Nat.pow 2 8)) (·.skipFactor.toNat),
   .field "imu_update_interval_s" Json.float? imuInterval,
   .field "baro_update_interval_s" Json.float? barometerInterval,
   .field "mag_update_interval_s" Json.float? magnetometerInterval,
   .field "gps_update_interval_s" Json.float? gpsInterval,
   .field "heartbeat_interval_s" Json.float? heartbeatInterval,
   .field "lockstep_timeout_ms" readCount lockstepTimeoutMs,
   .field "random_seed" (Json.nullable? readCount) (·.randomSeed.map UInt64.toNat)]

/-- All settings but the noise. -/
def plainSettings : List (Setting (Config Float)) :=
  scalars ++ Topics.settings.map (.inside "topics" topics) ++ GeoPoint.settings.map (.inside "home" home)
    ++ ExternalControllers.settings.map (.inside "external_controllers" externalControllers)
    ++ RetryPolicy.settings.map (.inside "resolver" resolver)

/-- All scalar settings, at the top and in the records below it. -/
def settings : List (Setting (Config Float)) :=
  plainSettings ++ SensorNoise.settings.map (.inside "noise" noise)

/-- A part of the noise of a reading. -/
def noiseSetting (reading : NoiseField) (part : Setting (Noise Float)) : Setting (Config Float) :=
  (part.inside reading.name reading.noise).inside "noise" noise

theorem noiseSetting_mem {reading : NoiseField} (hreading : reading ∈ SensorNoise.readings)
    {part : Setting (Noise Float)} (hpart : part ∈ Noise.settings) : noiseSetting reading part ∈ settings := by
  refine List.mem_append_right _ (List.mem_map_of_mem ?_)
  exact List.mem_flatMap_of_mem hreading (List.mem_map_of_mem hpart)

theorem mem_settings {s : Setting (Config Float)} (h : s ∈ settings) :
    s ∈ plainSettings ∨ ∃ reading ∈ SensorNoise.readings, ∃ part ∈ Noise.settings, s = noiseSetting reading part := by
  rcases List.mem_append.mp h with h | h
  · exact .inl h
  · obtain ⟨inner, hinner, rfl⟩ := List.mem_map.mp h
    obtain ⟨reading, hreading, hinner⟩ := List.mem_flatMap.mp hinner
    obtain ⟨part, hpart, rfl⟩ := List.mem_map.mp hinner
    exact .inr ⟨reading, hreading, part, hpart, rfl⟩

/-- The settings as far as a value leaves them out. -/
def missing (j : Json) : Config Float :=
  { Config.default with noise := ((j.member? "noise").map SensorNoise.missing).getD .default }

/-- Where the records are to which the settings belong. -/
def recordPaths : List (List String) :=
  [[], ["topics"], ["home"], ["external_controllers"], ["resolver"], ["noise"]]
    ++ SensorNoise.readings.map fun reading => ["noise", reading.name]

/-- Whether a value writes its records as objects, as far as it has any. -/
def WritesObjects (j : Json) : Prop :=
  ∀ path ∈ recordPaths, ∀ record, j.at? path = some record → record.isObject = true

instance (j : Json) : Decidable (WritesObjects j) :=
  decidable_of_iff (∀ path ∈ recordPaths, (j.at? path).all isObject = true) <|
    forall₂_congr fun _ _ => Option.all_eq_true ..

theorem WritesObjects.member {j : Json} (h : WritesObjects j) {name : String} (hname : [name] ∈ recordPaths)
    {record : Json} (hrecord : j.member? name = some record) : ∃ members, record = .object members := by
  have hobject := h [name] hname record (by rw [at?_singleton, hrecord])
  cases record with
  | object members => exact ⟨members, rfl⟩
  | _ => cases hobject

/-- The settings of a record hold in the whole, if where the record is left out it is the default one. -/
theorem WritesObjects.holds_inside {members : List (Option String × Json)} (hobjects : WritesObjects (.object members))
    {r : Record} (hr : record? fieldNames (.object members) = some r) {name : String} (hname : name ∈ fieldNames)
    (hpath : [name] ∈ recordPaths) {σ : Type} {read : Json → Option σ} {part : Config Float → σ} {outer : σ}
    {missing c : Config Float} (h : r.optional name read outer = some (part c)) {settings : List (Setting σ)}
    (hread : ∀ {members : List (Option String × Json)} {x : σ}, read (.object members) = some x →
      ∀ s ∈ settings, s.Holds outer (.object members) x)
    (hmissing : part missing = outer) :
    ∀ s ∈ settings.map (Setting.inside name part), s.Holds missing (.object members) c := by
  refine Setting.holds_inside hr hname h (fun given hgiven hpart => ?_) fun _ => hmissing
  obtain ⟨inner, rfl⟩ := hobjects.member hpath hgiven
  rw [hmissing]
  exact hread hpart

theorem natBelow?_of_readPort {j : Json} {port : UInt16} (h : readPort j = some port) :
    j.natBelow? (Nat.pow 2 16) = some port.toNat := by
  obtain ⟨n, hn, rfl⟩ := Option.map_eq_some_iff.mp h
  rw [hn, UInt16.toNat_ofNat_of_lt' (natBelow?_lt hn)]

/-- What is read for a narrow field fits it. -/
theorem natBelow?_uint8 {j : Json} {n : Nat} (h : j.natBelow? (Nat.pow 2 8) = some n) :
    j.natBelow? (Nat.pow 2 8) = some (UInt8.ofNat n).toNat := by
  rw [UInt8.toNat_ofNat_of_lt' (natBelow?_lt h), h]

theorem nullable?_seed {j : Json} {seed : Option Nat} (h : Json.nullable? readCount j = some seed) :
    Json.nullable? readCount j = some ((seed.map UInt64.ofNat).map UInt64.toNat) := by
  rw [h]
  cases seed with
  | none => rfl
  | some n =>
    have hn : readCount j = some n := by
      unfold Json.nullable? at h
      split at h
      case h_1 => cases h
      case h_2 =>
        obtain ⟨m, hm, hsome⟩ := Option.map_eq_some_iff.mp h
        rw [hm, Option.some.inj hsome]
    rw [Option.map_some, Option.map_some, UInt64.toNat_ofNat_of_lt' (natBelow?_lt hn)]

theorem holds_ofJson? {members : List (Option String × Json)} (hobjects : WritesObjects (.object members))
    {c : Config Float} (h : ofJson? (.object members) = some c) :
    ∀ s ∈ settings, s.Holds (missing (.object members)) (.object members) c := by
  -- the fields in the order in which they are read
  obtain ⟨r, hr, h⟩ := Option.bind_eq_some_iff.mp h
  obtain ⟨topicNamespace, htopicNamespace, h⟩ := Option.bind_eq_some_iff.mp h
  obtain ⟨topics, htopics, h⟩ := Option.bind_eq_some_iff.mp h
  obtain ⟨hostname, hhostname, h⟩ := Option.bind_eq_some_iff.mp h
  obtain ⟨port, hport, h⟩ := Option.bind_eq_some_iff.mp h
  obtain ⟨localPort, hlocalPort, h⟩ := Option.bind_eq_some_iff.mp h
  obtain ⟨protocolVersion, hprotocolVersion, h⟩ := Option.bind_eq_some_iff.mp h
  obtain ⟨lockstep, hlockstep, h⟩ := Option.bind_eq_some_iff.mp h
  obtain ⟨speedFactor, hspeedFactor, h⟩ := Option.bind_eq_some_iff.mp h
  obtain ⟨skipFactor, hskipFactor, h⟩ := Option.bind_eq_some_iff.mp h
  obtain ⟨imuInterval, himuInterval, h⟩ := Option.bind_eq_some_iff.mp h
  obtain ⟨barometerInterval, hbarometerInterval, h⟩ := Option.bind_eq_some_iff.mp h
  obtain ⟨magnetometerInterval, hmagnetometerInterval, h⟩ := Option.bind_eq_some_iff.mp h
  obtain ⟨gpsInterval, hgpsInterval, h⟩ := Option.bind_eq_some_iff.mp h
  obtain ⟨heartbeatInterval, hheartbeatInterval, h⟩ := Option.bind_eq_some_iff.mp h
  obtain ⟨timeout, htimeout, h⟩ := Option.bind_eq_some_iff.mp h
  obtain ⟨gravity, hgravity, h⟩ := Option.bind_eq_some_iff.mp h
  obtain ⟨home, hhome, h⟩ := Option.bind_eq_some_iff.mp h
  obtain ⟨noise, hnoise, h⟩ := Option.bind_eq_some_iff.mp h
  obtain ⟨channels, hchannels, h⟩ := Option.bind_eq_some_iff.mp h
  obtain ⟨thrustTorque, hthrustTorque, h⟩ := Option.bind_eq_some_iff.mp h
  obtain ⟨controllers, hcontrollers, h⟩ := Option.bind_eq_some_iff.mp h
  obtain ⟨resolver, hresolver, h⟩ := Option.bind_eq_some_iff.mp h
  obtain ⟨seed, hseed, h⟩ := Option.bind_eq_some_iff.mp h
  obtain ⟨links, hlinks, h⟩ := Option.bind_eq_some_iff.mp h
  cases h
  simp only [settings, plainSettings, List.forall_mem_append]
  refine ⟨⟨⟨⟨⟨?scalars, ?topics⟩, ?home⟩, ?controllers⟩, ?resolver⟩, ?noise⟩
  case scalars =>
    -- these four are read as numbers and kept as words of their own width
    have hports := Record.optional_map UInt16.toNat (fun _ _ => natBelow?_of_readPort) hport
    have hlocalPorts := Record.optional_map UInt16.toNat (fun _ _ => natBelow?_of_readPort) hlocalPort
    have hskip := Record.optional_map (fun n => (UInt8.ofNat n).toNat) (fun _ _ => natBelow?_uint8) hskipFactor
    have hseeds := Record.optional_map (fun n => (n.map UInt64.ofNat).map UInt64.toNat) (fun _ _ => nullable?_seed)
      hseed
    simp only [scalars, List.forall_mem_cons]
    exact ⟨Setting.holds_field hr (by decide) htopicNamespace, Setting.holds_field hr (by decide) hhostname,
      Setting.holds_field hr (by decide) hports, Setting.holds_field hr (by decide) hlocalPorts,
      Setting.holds_field hr (by decide) hprotocolVersion, Setting.holds_field hr (by decide) hlockstep,
      Setting.holds_field hr (by decide) hspeedFactor, Setting.holds_field hr (by decide) hskip,
      Setting.holds_field hr (by decide) himuInterval, Setting.holds_field hr (by decide) hbarometerInterval,
      Setting.holds_field hr (by decide) hmagnetometerInterval, Setting.holds_field hr (by decide) hgpsInterval,
      Setting.holds_field hr (by decide) hheartbeatInterval, Setting.holds_field hr (by decide) htimeout,
      Setting.holds_field hr (by decide) hseeds, List.forall_mem_nil _⟩
  case topics => exact hobjects.holds_inside hr (by decide) (by decide) htopics Topics.holds_ofJson? rfl
  case home => exact hobjects.holds_inside hr (by decide) (by decide) hhome GeoPoint.holds_ofJson? rfl
  case controllers =>
    exact hobjects.holds_inside hr (by decide) (by decide) hcontrollers ExternalControllers.holds_ofJson? rfl
  case resolver => exact hobjects.holds_inside hr (by decide) (by decide) hresolver RetryPolicy.holds_ofJson? rfl
  case noise =>
    refine Setting.holds_inside hr (by decide) hnoise (fun given hgiven hread => ?_) fun hnone => ?_
    · have hmissing : (missing (.object members)).noise = SensorNoise.missing given := by
        rw [missing, hgiven]
        rfl
      obtain ⟨inner, rfl⟩ := hobjects.member (by decide) hgiven
      rw [hmissing]
      refine SensorNoise.holds_ofJson? (fun reading hreading part hpart => ?_) hread
      refine hobjects ["noise", reading.name] (List.mem_append_right _ (List.mem_map_of_mem hreading)) part ?_
      rw [at?, hgiven, Option.bind_some, at?_singleton, hpart]
    · rw [missing, hnone]
      rfl

theorem exists_of_read {text : String} {c : Config Float} (h : read text = .ok c) :
    ∃ j, Json.parse? text = some j ∧ ofJson? j = some c := by
  unfold read at h
  split at h
  case h_1 => cases h
  case h_2 config hconfig =>
    split at h
    case h_1 => cases h
    case h_2 =>
      cases h
      exact Option.bind_eq_some_iff.mp hconfig

/-! ### What the exception comes to -/

theorem get_missing (j : Json) : ∀ s ∈ plainSettings, s.get (missing j) = s.get .default := by
  simp only [plainSettings, List.forall_mem_append, List.forall_mem_map]
  refine ⟨⟨⟨⟨?scalars, ?topics⟩, ?home⟩, ?controllers⟩, ?resolver⟩
  case scalars =>
    simp only [scalars, List.forall_mem_cons]
    exact ⟨rfl, rfl, rfl, rfl, rfl, rfl, rfl, rfl, rfl, rfl, rfl, rfl, rfl, rfl, rfl, List.forall_mem_nil _⟩
  all_goals exact fun _ _ => rfl

theorem noise_missing (j : Json) {reading : NoiseField} (h : reading ∈ SensorNoise.readings) :
    reading.noise (missing j).noise
      = if (j.at? ["noise", reading.name]).isSome then .none else reading.noise .default := by
  unfold missing at?
  cases j.member? "noise" with
  | none => rfl
  | some given =>
    rw [Option.map_some, Option.getD_some, SensorNoise.noise_missing given reading h, Option.bind_some, at?_singleton]
    rfl

/-- Of a reading that is given, the part that is left out is none; of another, that of its default. -/
theorem noise_of_left {j : Json} {c : Config Float} (h : ∀ s ∈ settings, s.Holds (missing j) j c) {reading : NoiseField}
    (hreading : reading ∈ SensorNoise.readings) {part : Setting (Noise Float)} (hpart : part ∈ Noise.settings)
    (hleft : j.at? ("noise" :: reading.name :: part.path) = none) :
    part.get (reading.noise c.noise)
      = part.get (if (j.at? ["noise", reading.name]).isSome then .none else reading.noise .default) := by
  have hsetting := (h _ (noiseSetting_mem hreading hpart)).get_left hleft
  rw [← noise_missing j hreading]
  exact hsetting

/-- All that is left out is as by default, but for the deviations of readings that are given without them. -/
theorem default_iff {j : Json} {c : Config Float} (h : ∀ s ∈ settings, s.Holds (missing j) j c) :
    (∀ s ∈ settings, j.at? s.path = none → s.get c = s.get .default) ↔
      ∀ name ∈ SensorNoise.noisy, (j.at? ["noise", name]).isSome = true →
        (j.at? ["noise", name, "stddev"]).isSome = true := by
  constructor
  · intro hdefault name hname hgiven
    obtain ⟨reading, hreading, rfl, hdeviation⟩ := SensorNoise.exists_of_noisy name hname
    by_contra hleft
    rw [Option.not_isSome_iff_eq_none] at hleft
    have hpart : Noise.deviation ∈ Noise.settings := .tail _ (.head _)
    have hnone := noise_of_left h hreading hpart hleft
    rw [hgiven, if_pos rfl] at hnone
    have hsame := hdefault _ (noiseSetting_mem hreading hpart) hleft
    exact hdeviation (hsame.symm.trans hnone)
  · intro hgiven s hs hleft
    rcases mem_settings hs with hplain | ⟨reading, hreading, part, hpart, rfl⟩
    · exact ((h s hs).get_left hleft).trans (get_missing j s hplain)
    · have hnoise := noise_of_left h hreading hpart hleft
      refine hnoise.trans ?_
      split
      case isFalse => rfl
      case isTrue hreads =>
        show part.get .none = part.get (reading.noise .default)
        obtain ⟨hmean, hnoisy | hquiet⟩ := SensorNoise.default_of_readings reading hreading
        · -- a noisy reading is given with its deviation, so it is the mean that is left out
          rcases List.mem_pair.mp hpart with rfl | rfl
          · exact hmean.symm
          · have hdeviation := hgiven reading.name hnoisy hreads
            rw [Option.isSome_iff_ne_none] at hdeviation
            exact absurd hleft hdeviation
        · rw [hquiet]

/--
**What a text leaves out is as by default, but for parts of noise.** Take a text that is accepted and writes its records
as objects, and any scalar setting at the top or in `topics`, `home`, `external_controllers`, `resolver` or the readings
of `noise`. If the text gives it, it has the value that is given. If the text leaves it out, whatever else it gives, it
has the value of the default configuration, unless it is a part of the noise of a reading that the text gives: that
part is then zero. The default noise of three readings has a deviation that is not zero, so all that is left out is as
by default exactly if none of these readings is given without its deviation.
-/
theorem read_settings {text : String} {c : Config Float} (hread : read text = .ok c) :
    ∃ j, Json.parse? text = some j ∧ (WritesObjects j →
      (∀ s ∈ settings, ∀ given, j.at? s.path = some given → s.read given = some (s.get c))
      ∧ (∀ s ∈ plainSettings, j.at? s.path = none → s.get c = s.get .default)
      ∧ (∀ reading ∈ SensorNoise.readings, ∀ part ∈ Noise.settings,
          j.at? ("noise" :: reading.name :: part.path) = none →
          part.get (reading.noise c.noise)
            = part.get (if (j.at? ["noise", reading.name]).isSome then .none else reading.noise .default))
      ∧ ((∀ s ∈ settings, j.at? s.path = none → s.get c = s.get .default) ↔
          ∀ name ∈ SensorNoise.noisy, (j.at? ["noise", name]).isSome = true →
            (j.at? ["noise", name, "stddev"]).isSome = true)) := by
  obtain ⟨j, hparse, hsettings⟩ := exists_of_read hread
  refine ⟨j, hparse, fun hobjects => ?_⟩
  have hobject := hobjects [] (.head _) j rfl
  cases j with
  | object members =>
    have hholds := holds_ofJson? hobjects hsettings
    refine ⟨?_, ?_, ?_, default_iff hholds⟩
    · intro s hs given hgiven
      exact (hholds s hs).read_given hgiven
    · intro s hs hleft
      exact ((hholds s (List.mem_append_left _ hs)).get_left hleft).trans (get_missing _ s hs)
    · intro reading hreading part hpart hleft
      exact noise_of_left hholds hreading hpart hleft
  | _ => cases hobject

/-- A text that gives one setting of the resolver, and the mean of one noise. -/
def sparse : String :=
  "\x7b\"resolver\": \x7b\"max_attempts\": 3\x7d, \"noise\": \x7b\"baro_pressure_hpa\": \x7b\"mean\": 1.0\x7d\x7d\x7d"

theorem exists_sparse : ∃ c, read sparse = .ok c ∧ c.resolver.maxAttempts = 3 ∧ c.noise.pressure = ⟨1.0, 0.0⟩ := by
  have hrun : (read sparse).toOption.map (fun c => (c.resolver.maxAttempts, c.noise.pressure))
      = some (3, ⟨1.0, 0.0⟩) := by decide +kernel
  cases hread : read sparse with
  | error _ =>
    rw [hread] at hrun
    cases hrun
  | ok c =>
    rw [hread] at hrun
    have hfields := Option.some.inj hrun
    exact ⟨c, rfl, congrArg Prod.fst hfields, congrArg Prod.snd hfields⟩

theorem parse_sparse {j : Json} (hparse : Json.parse? sparse = some j) :
    WritesObjects j ∧ j.at? ["resolver", "initial_backoff_ms"] = none
      ∧ (j.at? ["noise", "baro_pressure_hpa"]).isSome = true
      ∧ j.at? ["noise", "baro_pressure_hpa", "stddev"] = none := by
  have hall : (Json.parse? sparse).all (fun j => decide (WritesObjects j
      ∧ (j.at? ["resolver", "initial_backoff_ms"]).isNone = true
      ∧ (j.at? ["noise", "baro_pressure_hpa"]).isSome = true
      ∧ (j.at? ["noise", "baro_pressure_hpa", "stddev"]).isNone = true)) = true := by decide +kernel
  rw [hparse] at hall
  obtain ⟨hobjects, hbackoff, hreading, hdeviation⟩ := of_decide_eq_true hall
  exact ⟨hobjects, Option.isNone_iff_eq_none.mp hbackoff, hreading, Option.isNone_iff_eq_none.mp hdeviation⟩

/-- The rest of the resolver's settings is as by default, the rest of the noise is none. -/
theorem rest_of_sparse :
    ∃ c j, read sparse = .ok c ∧ Json.parse? sparse = some j ∧ WritesObjects j
      ∧ c.resolver.maxAttempts = 3 ∧ c.resolver.initialBackoffMs = 100
      ∧ c.noise.pressure.mean = 1.0 ∧ c.noise.pressure.stddev = 0.0 := by
  obtain ⟨c, hread, hattempts, hpressure⟩ := exists_sparse
  obtain ⟨j, hparse, hsettings⟩ := read_settings hread
  obtain ⟨hobjects, hbackoff, hreading, hdeviation⟩ := parse_sparse hparse
  obtain ⟨-, hplain, hnoise, -⟩ := hsettings hobjects
  have hdefault : c.resolver.initialBackoffMs = 100 :=
    hplain ((Setting.field "initial_backoff_ms" readCount RetryPolicy.initialBackoffMs).inside "resolver" resolver)
      (List.mem_append_right _ (List.mem_map_of_mem (.tail _ (.head _)))) hbackoff
  have hzero := hnoise ⟨"baro_pressure_hpa", SensorNoise.pressure⟩ (.head _) Noise.deviation (.tail _ (.head _))
    hdeviation
  rw [hreading, if_pos rfl] at hzero
  exact ⟨c, j, hread, hparse, hobjects, hattempts, hdefault, by rw [hpressure], hzero⟩

/-- Not all that is left out is as by default: the deviation of a noise of which the mean is given is zero. -/
theorem sparse_loses_deviation :
    ¬ ∀ (text : String) (c : Config Float) (j : Json), read text = .ok c → Json.parse? text = some j → WritesObjects j →
      (∀ s ∈ settings, ∀ given, j.at? s.path = some given → s.read given = some (s.get c))
      ∧ ∀ s ∈ settings, j.at? s.path = none → s.get c = s.get .default := by
  intro hall
  obtain ⟨c, hread, -, hpressure⟩ := exists_sparse
  obtain ⟨j, hparse, -⟩ := exists_of_read hread
  obtain ⟨hobjects, -, -, hleft⟩ := parse_sparse hparse
  obtain ⟨-, hdefault⟩ := hall sparse c j hread hparse hobjects
  have hdeviation : c.noise.pressure.stddev = (SensorNoise.default : SensorNoise Float).pressure.stddev :=
    hdefault (noiseSetting ⟨"baro_pressure_hpa", SensorNoise.pressure⟩ Noise.deviation)
      (noiseSetting_mem (.head _) (.tail _ (.head _))) hleft
  rw [hpressure] at hdeviation
  exact absurd hdeviation (by decide +kernel)

end Config

end HilBridge
