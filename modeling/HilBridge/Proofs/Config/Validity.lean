import HilBridge.Config.Validate

/-!
# `HilBridge.Proofs.Config.Validity` — what a valid configuration satisfies

Validation stops at the first condition that fails, so it succeeds exactly if all of them hold. `IsValid` lists
them for a configuration and for its parts; the `validate_eq_ok_iff` of each says that validation is the check of
the list.
-/

namespace HilBridge

variable {α β ε : Type}

/-! ## Checks in a row -/

theorem check_eq_ok_iff {condition : Bool} {error : ConfigError α} :
    check condition error = .ok () ↔ condition = true := by
  cases condition <;> simp [check]

/-- Both of two validations succeed. -/
theorem bind_eq_ok_iff {first : Except ε Unit} {next : Except ε β} {result : β} :
    (first >>= fun _ => next) = .ok result ↔ first = .ok () ∧ next = .ok result := by
  cases first <;> simp [bind, Except.bind]

theorem forM_eq_ok_iff {xs : List β} {f : β → Except ε Unit} :
    xs.forM f = .ok () ↔ ∀ x ∈ xs, f x = .ok () := by
  induction xs with
  | nil => simp [List.forM, pure, Except.pure]
  | cons x rest ih =>
    have hcons : (x :: rest).forM f = (f x >>= fun _ => rest.forM f) := rfl
    rw [hcons, bind_eq_ok_iff, ih, List.forall_mem_cons]

/-- Success can be computed where errors cannot be compared. -/
theorem eq_ok_of_toOption {validation : Except ε Unit} (h : validation.toOption = some ()) :
    validation = .ok () := by
  cases validation with
  | error _ => cases h
  | ok _ => rfl

variable [Scalar α]

/-! ## The parts -/

namespace Channel

structure IsValid (c : Channel α) : Prop where
  inputIndex : c.inputIndex < maxChannels
  finite : ∀ v ∈ c.values, Scalar.isFinite v.2 = true

theorem validate_eq_ok_iff {position : Nat} {c : Channel α} : c.validate position = .ok () ↔ c.IsValid := by
  simp only [validate, bind_eq_ok_iff, forM_eq_ok_iff, check_eq_ok_iff, decide_eq_true_eq]
  exact ⟨fun h => ⟨h.1, h.2⟩, fun h => ⟨h.inputIndex, h.finite⟩⟩

end Channel

namespace ThrustTorque

structure IsValid (t : ThrustTorque α) : Prop where
  thrustIndex : t.thrustIndex < maxChannels
  torqueIndex : t.torqueIndex < maxChannels
  thrustScaling : Scalar.isFinite t.thrustScaling = true
  torqueScaling : Scalar.isFinite t.torqueScaling = true

theorem validate_eq_ok_iff {t : ThrustTorque α} : t.validate = .ok () ↔ t.IsValid := by
  simp only [validate, bind_eq_ok_iff, check_eq_ok_iff, Bool.and_eq_true, decide_eq_true_eq]
  exact ⟨fun ⟨⟨hthrust, htorque⟩, hscaling, hscaling'⟩ => ⟨hthrust, htorque, hscaling, hscaling'⟩,
    fun h => ⟨⟨h.thrustIndex, h.torqueIndex⟩, h.thrustScaling, h.torqueScaling⟩⟩

end ThrustTorque

theorem SensorNoise.validate_eq_ok_iff {n : SensorNoise α} :
    n.validate = .ok () ↔ ∀ noise ∈ n.fields, noise.2.isValid = true := by
  simp only [SensorNoise.validate, Noise.validate, forM_eq_ok_iff, check_eq_ok_iff]

/-! ## The whole -/

namespace Config

/-- All that a bridge relies on. -/
structure IsValid (c : Config α) : Prop where
  channelCount : c.channels.length ≤ maxChannels
  channels : ∀ channel ∈ c.channels, channel.IsValid
  skipFactor : c.skipFactor ≠ 0
  speedFactor : c.speedFactor.isFinite = true ∧ ¬ c.speedFactor ≤ 0.0
  intervals : ∀ interval ∈ c.intervals, interval.2.isFinite = true ∧ ¬ interval.2 < 0.0
  gravity : ∀ x ∈ c.gravity.toList, Scalar.isFinite x = true
  thrustTorque : ∀ t ∈ c.thrustTorque, t.IsValid
  noise : ∀ noise ∈ c.noise.fields, noise.2.isValid = true

theorem IsValid.skipFactor_pos {c : Config α} (h : c.IsValid) : 0 < c.skipFactor.toNat :=
  Nat.pos_of_ne_zero fun hzero => h.skipFactor (UInt8.toNat_inj.mp hzero)

/-- The checks that follow the last choice are made on either side of it. -/
theorem lastChecks_eq_ok_iff {c : Config α} :
    (match c.thrustTorque with
      | some t => do t.validate; c.noise.validate
      | none => c.noise.validate) = .ok ()
    ↔ (∀ t ∈ c.thrustTorque, t.IsValid) ∧ ∀ noise ∈ c.noise.fields, noise.2.isValid = true := by
  rw [← SensorNoise.validate_eq_ok_iff]
  cases c.thrustTorque with
  | none => simp
  | some t => simp [bind_eq_ok_iff, ThrustTorque.validate_eq_ok_iff]

theorem validate_eq_ok_iff {c : Config α} : c.validate = .ok () ↔ c.IsValid := by
  have hchannels : (∀ x ∈ c.channels.zipIdx, x.1.validate x.2 = .ok ())
      ↔ ∀ channel ∈ c.channels, channel.IsValid := by
    simp only [Channel.validate_eq_ok_iff]
    constructor
    · intro h channel hmem
      obtain ⟨i, hi, rfl⟩ := List.mem_iff_getElem.mp hmem
      exact h (c.channels[i], i) (List.mk_mem_zipIdx_iff_getElem?.mpr (List.getElem?_eq_getElem hi))
    · exact fun h x hx => h x.1 (List.fst_mem_of_mem_zipIdx hx)
  simp only [validate, bind_eq_ok_iff, forM_eq_ok_iff, check_eq_ok_iff, hchannels, Bool.and_eq_true,
    Bool.not_eq_true', decide_eq_true_eq, decide_eq_false_iff_not, List.all_eq_true, bne_iff_ne]
  constructor
  · rintro ⟨hcount, hchannels, hskip, hspeed, hintervals, hgravity, hlast⟩
    obtain ⟨hthrustTorque, hnoise⟩ := lastChecks_eq_ok_iff.mp hlast
    exact ⟨hcount, hchannels, hskip, hspeed, hintervals, hgravity, hthrustTorque, hnoise⟩
  · intro h
    exact ⟨h.channelCount, h.channels, h.skipFactor, h.speedFactor, h.intervals, h.gravity,
      lastChecks_eq_ok_iff.mpr ⟨h.thrustTorque, h.noise⟩⟩

end Config

end HilBridge
