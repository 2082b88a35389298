import HilBridge.Proofs.Actuator.Finiteness
import HilBridge.Proofs.Number.FloatSum

/-!
# `HilBridge.Proofs.Actuator.Fallbacks` — which fallbacks the dispatcher counts

A value that cannot be computed from a command falls back to that of a vehicle at rest. This has two causes: the entry
that it follows is missing or not finite, or the entry is a number and what the channel makes of it is not finite. Each
published value has a `ValueRule` that tells the two apart, and the rules of a configuration are as many as the entries
that its dispatcher looks at when it takes a command (`Dispatcher.Follows.usedIndices_eq`).

The dispatcher counts the first cause when a command comes, and publishes by the rule later; the second cause is
counted nowhere. So the count and the fallbacks differ by the values that overflow, which those for controllers outside
never do.

**Main statement.** `malformed_add_overflows`.
-/

namespace HilBridge

variable {α : Type} [Scalar α]

/-! ## One value -/

/-- How a value follows from an entry: what is made of it, and what is published where that is not possible. -/
structure ValueRule (α : Type) where
  index : Nat
  response : α → α
  rest : α

namespace ValueRule

/-- What is computed from the entries of a command, if all of it is finite. -/
def computed? (v : ValueRule α) (controls : List α) : Option α :=
  (controls[v.index]?.bind Dispatcher.finite?).bind fun u => Dispatcher.finite? (v.response u)

/-- The value after an armed command. -/
def published (v : ValueRule α) (controls : List α) : α :=
  (v.computed? controls).getD v.rest

/-- Whether the entry is missing or not finite. -/
def malformed (v : ValueRule α) (controls : List α) : Bool :=
  !(controls[v.index]?.any Scalar.isFinite)

/-- Whether the entry is finite, and what is made of it is not. -/
def overflows (v : ValueRule α) (controls : List α) : Bool :=
  controls[v.index]?.any fun u => Scalar.isFinite u && !Scalar.isFinite (v.response u)

/-- Exactly one of the three happens: the entry is of no use, the value overflows, or it is computed. -/
theorem isNone_computed? (v : ValueRule α) (controls : List α) :
    (v.computed? controls).isNone = (v.malformed controls || v.overflows controls)
      ∧ ¬ (v.malformed controls = true ∧ v.overflows controls = true) := by
  unfold computed? malformed overflows
  cases controls[v.index]? with
  | none => exact ⟨rfl, fun h => absurd h.2 nofun⟩
  | some u =>
    cases hu : Scalar.isFinite u
    · simp [Dispatcher.finite?, hu]
    · cases hresponse : Scalar.isFinite (v.response u) <;> simp [Dispatcher.finite?, hu, hresponse]

/-- So the values that fall back are those of either cause. -/
theorem countP_isNone (rules : List (ValueRule α)) (controls : List α) :
    rules.countP (fun v => (v.computed? controls).isNone)
      = rules.countP (·.malformed controls) + rules.countP (·.overflows controls) := by
  induction rules with
  | nil => rfl
  | cons v rest ih =>
    obtain ⟨hcause, hone⟩ := v.isNone_computed? controls
    rw [List.countP_cons, List.countP_cons, List.countP_cons, ih, hcause]
    cases hmalformed : v.malformed controls <;> cases hoverflows : v.overflows controls
    · rfl
    · simp only [Bool.false_or, if_true, Bool.false_eq_true, if_false]
      omega
    · simp only [Bool.true_or, if_true, Bool.false_eq_true, if_false]
      omega
    · exact absurd ⟨hmalformed, hoverflows⟩ hone

end ValueRule

/-! ## All values -/

/-- The value of a channel on a path. -/
def Channel.rule (ch : Channel α) (path : Path) : ValueRule α :=
  ⟨ch.inputIndex, ch.response path, ch.atRest path⟩

namespace ThrustTorque

def thrustRule (t : ThrustTorque α) : ValueRule α :=
  ⟨t.thrustIndex, (· * t.thrustScaling), 0.0⟩

def torqueRule (t : ThrustTorque α) : ValueRule α :=
  ⟨t.torqueIndex, (· * t.torqueScaling), 0.0⟩

end ThrustTorque

namespace Config

/-- The rules of all values that are published. -/
def rules (c : Config α) : List (ValueRule α) :=
  match c.thrustTorque with
  | some t => [t.thrustRule, t.torqueRule]
  | none => c.channels.map fun ch => ch.rule (ch.path c.externalControllers)

/-- How many values fall back after an armed command. -/
def fallbacks (c : Config α) (controls : List α) : Nat :=
  c.rules.countP fun v => (v.computed? controls).isNone

/-- How many of them overflow. -/
def overflows (c : Config α) (controls : List α) : Nat :=
  c.rules.countP (·.overflows controls)

/-- The outputs in which every value is that of its rule. -/
def ruled (c : Config α) (controls : List α) : Outputs α :=
  c.arrange (fun t => ⟨t.thrustRule.published controls, t.torqueRule.published controls⟩)
    fun path ch => (ch.rule path).published controls

/-- After an armed command every value is that of its rule. -/
theorem reference_eq_ruled (c : Config α) {m : Command α} (harmed : m.armed = true) :
    c.reference (some m) = c.ruled m.controls := by
  have hvalue (index : Nat) (f : α → α) (rest : α) :
      usable (armedBy (some m)) (entryOf (some m) index) f rest = (ValueRule.mk index f rest).published m.controls := by
    have harmedBy : armedBy (some m) = true := harmed
    rw [harmedBy]
    exact (Dispatcher.getD_finite? _ _ _).symm
  have hchannel : Channel.commanded (some m) = fun path ch => (ch.rule path).published m.controls := by
    funext path ch
    exact hvalue _ _ _
  have hwhole : (fun t : ThrustTorque α => t.output (armedBy (some m)) (entryOf (some m)))
      = fun t => ⟨t.thrustRule.published m.controls, t.torqueRule.published m.controls⟩ := by
    funext t
    exact congrArg₂ Wrench.mk (hvalue _ _ _) (hvalue _ _ _)
  rw [reference, hchannel, hwhole]
  rfl

end Config

/-! ## The count -/

namespace Dispatcher

variable {c : Config α} {last : Option (Command α)} {d : Dispatcher α}

/-- The dispatcher looks at the entries that the rules follow. -/
theorem Follows.usedIndices_eq (h : d.Follows c last) : d.usedIndices = c.rules.map (·.index) := by
  unfold usedIndices Config.rules
  rw [h.thrustTorque, h.channels]
  cases c.thrustTorque with
  | some t => rfl
  | none =>
    dsimp only
    rw [List.map_map]
    rfl

theorem Follows.countMalformed_eq (h : d.Follows c last) (controls : List α) :
    d.countMalformed controls = c.rules.countP (·.malformed controls) := by
  rw [countMalformed, h.usedIndices_eq, List.countP_map]
  rfl

/-- What a command with entries adds to the count, and the values that overflow, are all that fall back. -/
theorem Follows.malformed_apply (h : d.Follows c last) {m : Command α} (hentries : m.controls ≠ []) :
    (d.apply m).1 = true
      ∧ (d.apply m).2.stats.malformed + c.overflows m.controls = d.stats.malformed + c.fallbacks m.controls := by
  have haccepted : ¬ m.controls.isEmpty = true := by simpa using hentries
  rw [Dispatcher.apply, if_neg haccepted]
  refine ⟨rfl, ?_⟩
  show d.stats.malformed + d.countMalformed m.controls + c.overflows m.controls = _
  rw [h.countMalformed_eq, Config.fallbacks, ValueRule.countP_isNone, Config.overflows]
  omega

theorem Follows.outputs_apply (h : d.Follows c last) {m : Command α} (hentries : m.controls ≠ [])
    (harmed : m.armed = true) : (d.apply m).2.outputs = c.ruled m.controls := by
  have haccepted : ¬ m.controls.isEmpty = true := by simpa using hentries
  have hnext := h.apply m
  rw [if_neg haccepted] at hnext
  rw [hnext.outputs_eq, c.reference_eq_ruled harmed]

end Dispatcher

/-! ## Values for controllers outside -/

/-- A normalized command is computed from every finite entry. -/
theorem Channel.IsValid.overflows_external {ch : Channel Float} (h : ch.IsValid) (controls : List Float) :
    (ch.rule .external).overflows controls = false := by
  have hoffset : ch.inputOffset.isFinite = true := h.finite ("input_offset", ch.inputOffset) (by simp [values])
  unfold ValueRule.overflows
  cases controls[(ch.rule .external).index]? with
  | none => rfl
  | some u =>
    show (u.isFinite && !(Scalar.clamp (-1.0) 1.0 (u + ch.inputOffset)).isFinite) = false
    cases hu : u.isFinite with
    | false => rfl
    | true =>
      rw [Binary64.isFinite_clamp_add (by decide +kernel) (by decide +kernel) hu hoffset]
      rfl

namespace Dispatcher

/--
**The count of malformed values leaves out those that overflow.** Take a valid configuration, a dispatcher that has had
any commands, and one more that has entries and is armed. Each published value is what its rule makes of the entry, or
the value at rest where that is not finite. With the values that overflow the increase of the count is the number of
those that are at rest for that reason. So it is this number exactly if nothing overflows, which values for controllers
outside never do.
-/
theorem malformed_add_overflows {c : Config Float} (hvalid : c.validate = .ok ()) :
    ∃ d, Dispatcher.new c = .ok d ∧ ∀ (commands : List (Command Float)) (m : Command Float),
      m.controls ≠ [] → m.armed = true →
      let before := d.applyAll commands
      let after := (before.apply m).2
      (before.apply m).1 = true
        ∧ after.outputs = c.ruled m.controls
        ∧ after.stats.malformed + c.overflows m.controls = before.stats.malformed + c.fallbacks m.controls
        ∧ (after.stats.malformed = before.stats.malformed + c.fallbacks m.controls ↔
            ∀ v ∈ c.rules, v.overflows m.controls = false)
        ∧ ∀ ch ∈ c.channels, (ch.rule .external).overflows m.controls = false := by
  obtain ⟨d, hnew, hfollows⟩ := exists_new hvalid
  refine ⟨d, hnew, fun commands m hentries harmed => ?_⟩
  intro before after
  have hbefore : before.Follows c (lastAccepted commands) := hfollows.applyAll commands
  obtain ⟨haccepted, hcount⟩ := hbefore.malformed_apply hentries
  have hnothing : c.overflows m.controls = 0 ↔ ∀ v ∈ c.rules, v.overflows m.controls = false := by
    simp [Config.overflows, List.countP_eq_zero]
  refine ⟨haccepted, hbefore.outputs_apply hentries harmed, hcount, ?_, fun ch hch => ?_⟩
  · rw [← hnothing]
    have hafter : after.stats.malformed + c.overflows m.controls = before.stats.malformed + c.fallbacks m.controls :=
      hcount
    omega
  · exact ((Config.validate_eq_ok_iff.mp hvalid).channels ch hch).overflows_external m.controls

/-- A rotor without an entry, one that overflows, and a joint driven outside that stays within its bounds. -/
def outOfRange : Config Float :=
  { Config.default with
    channels := [.motor 3 1000.0, .motor 0 1.0e308, { Channel.servo 0 1.0 with control := .passThrough }] }

/-- Of the two rotors at rest only the one without an entry is counted. -/
theorem one_of_two_counted :
    outOfRange.validate = .ok () ∧ ∃ d, Dispatcher.new outOfRange = .ok d ∧
      let m : Command Float := ⟨0, [100.0], true⟩
      (d.apply m).2.outputs = ⟨[0.0, 0.0], [], [⟨2, .generic, 1.0⟩], none⟩
        ∧ outOfRange.fallbacks m.controls = 2 ∧ outOfRange.overflows m.controls = 1
        ∧ (d.apply m).2.stats.malformed = d.stats.malformed + 1 := by
  have hvalid : outOfRange.validate = .ok () := eq_ok_of_toOption (by decide +kernel)
  obtain ⟨d, hnew, hcounts⟩ := malformed_add_overflows hvalid
  obtain ⟨-, houtputs, hcount, -, -⟩ := hcounts [] ⟨0, [100.0], true⟩ nofun rfl
  have hruled : outOfRange.ruled [100.0] = ⟨[0.0, 0.0], [], [⟨2, .generic, 1.0⟩], none⟩ := by decide +kernel
  have hfallbacks : outOfRange.fallbacks [100.0] = 2 := by decide +kernel
  have hoverflows : outOfRange.overflows [100.0] = 1 := by decide +kernel
  rw [hfallbacks, hoverflows] at hcount
  exact ⟨hvalid, d, hnew, houtputs.trans hruled, hfallbacks, hoverflows, Nat.succ.inj hcount⟩

/-- A rotor that overflows. -/
def overflowing : Config Float :=
  { Config.default with channels := [.motor 0 1.0e308] }

/-- The count does not say how many values fall back: a rotor that overflows is at rest and not counted. -/
theorem overflow_is_not_counted :
    ¬ ∀ c : Config Float, c.validate = .ok () → ∀ d, Dispatcher.new c = .ok d →
      ∀ (commands : List (Command Float)) (m : Command Float), m.controls ≠ [] → m.armed = true →
        ((d.applyAll commands).apply m).2.stats.malformed
          = (d.applyAll commands).stats.malformed + c.fallbacks m.controls := by
  intro hall
  have hvalid : overflowing.validate = .ok () := eq_ok_of_toOption (by decide +kernel)
  obtain ⟨d, hnew, hfollows⟩ := exists_new hvalid
  have hcounted := hall overflowing hvalid d hnew [] ⟨0, [100.0], true⟩ nofun rfl
  obtain ⟨-, hcount⟩ := (hfollows.applyAll []).malformed_apply (m := ⟨0, [100.0], true⟩) nofun
  have hoverflows : overflowing.overflows [100.0] = 1 := by decide +kernel
  rw [hoverflows, hcounted] at hcount
  omega

end Dispatcher

end HilBridge
