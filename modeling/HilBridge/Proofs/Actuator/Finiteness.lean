import HilBridge.Proofs.Actuator.Reference
import HilBridge.Proofs.Number.FloatOrder

/-!
# `HilBridge.Proofs.Actuator.Finiteness` — nothing but numbers reaches the simulation

Entries of a command can be anything, and settings that are finite one by one can leave the finite numbers together.
Neither shows in the outputs: what is not finite is replaced by a default, and the defaults of a valid configuration
are finite. Commands for controllers outside are between -1 and 1 besides.

The argument is about one value, whatever the entry and whatever is computed from it (`usable_induction`). That every
output is such a value is what `Config.reference` says.

**Main statement.** `outputs_finite`: a dispatcher with a valid configuration publishes finite numbers after every
sequence of commands.
-/

namespace HilBridge

/-- All outputs are finite, and commands for controllers outside are normalized. -/
structure Outputs.IsFinite (o : Outputs Float) : Prop where
  motors : ∀ velocity ∈ o.motors, velocity.isFinite = true
  servos : ∀ target ∈ o.servos, target.position.isFinite = true
  external : ∀ command ∈ o.external,
    command.normalized.isFinite = true ∧ -1.0 ≤ command.normalized ∧ command.normalized ≤ 1.0
  wrench : ∀ wrench ∈ o.wrench, wrench.thrust.isFinite = true ∧ wrench.torque.isFinite = true

/-! ## One value -/

/-- What the finite values of a function and the value at rest have in common, every used value has. -/
theorem usable_induction {α : Type} [Scalar α] {P : α → Prop} {f : α → α} {rest : α}
    (hf : ∀ u, Scalar.isFinite (f u) = true → P (f u)) (hrest : P rest) (armed : Bool) (entry : Option α) :
    P (usable armed entry f rest) := by
  cases entry with
  | none => exact hrest
  | some u =>
    show P (if armed && Scalar.isFinite u && Scalar.isFinite (f u) then f u else rest)
    split
    · rename_i hall
      have hfinite : Scalar.isFinite (f u) = true := (Bool.and_eq_true_iff.mp hall).2
      exact hf u hfinite
    · exact hrest

theorem isFinite_usable {f : Float → Float} {rest : Float} (h : rest.isFinite = true) (armed : Bool)
    (entry : Option Float) : (usable armed entry f rest).isFinite = true :=
  usable_induction (P := fun x => x.isFinite = true) (fun _ hfinite => hfinite) h armed entry

/-! ## Channels -/

namespace Channel

variable {ch : Channel Float}

theorem IsValid.isFinite_zeroDisarmed (h : ch.IsValid) : ch.zeroDisarmed.isFinite = true := by
  have hfinite : ∀ v ∈ ch.values.map Prod.snd, Scalar.isFinite v = true := by
    intro v hv
    obtain ⟨named, hmem, rfl⟩ := List.mem_map.mp hv
    exact h.finite named hmem
  have hmem : ch.zeroDisarmed ∈ ch.values.map Prod.snd := by simp [values]
  exact hfinite _ hmem

theorem IsValid.isFinite_output (h : ch.IsValid) (path : Path) (hpath : path ≠ .external) (armed : Bool)
    (entry : Option Float) : (ch.output armed entry path).isFinite = true := by
  have hrest : (ch.atRest path).isFinite = true := by
    cases path with
    | motor => exact h.isFinite_zeroDisarmed
    | servo => exact h.isFinite_zeroDisarmed
    | external => exact absurd rfl hpath
  exact isFinite_usable hrest armed entry

/-- Moved between -1 and 1, a number is there if it is finite at all. -/
theorem normalized_of_isFinite {x : Float} (h : (Scalar.clamp (-1.0) 1.0 x).isFinite = true) :
    let y := Scalar.clamp (-1.0) 1.0 x
    y.isFinite = true ∧ -1.0 ≤ y ∧ y ≤ 1.0 :=
  ⟨h, Binary64.clamp_mem (by decide +kernel) (by decide +kernel) (by decide +kernel) h⟩

theorem IsValid.normalized_output (h : ch.IsValid) (armed : Bool) (entry : Option Float) :
    let y := ch.output armed entry .external
    y.isFinite = true ∧ -1.0 ≤ y ∧ y ≤ 1.0 := by
  have hrest : (Scalar.clamp (-1.0) 1.0 ch.zeroDisarmed).isFinite = true :=
    Binary64.isFinite_clamp (by decide +kernel) (by decide +kernel) h.isFinite_zeroDisarmed
  refine usable_induction (P := fun y => y.isFinite = true ∧ -1.0 ≤ y ∧ y ≤ 1.0) ?_ ?_ armed entry
  · intro u hfinite
    exact normalized_of_isFinite hfinite
  · exact normalized_of_isFinite hrest

end Channel

/-! ## All outputs -/

namespace Config

variable {c : Config Float}

theorem IsValid.of_mem_assigned (h : c.IsValid) {path : Path} {ch : Channel Float} {position : Nat}
    (hmem : (ch, position) ∈ c.assigned path) : ch.IsValid := by
  have hplaced : (ch, position) ∈ c.channels.zipIdx := List.filter_sublist.subset hmem
  exact h.channels ch (List.fst_mem_of_mem_zipIdx hplaced)

theorem IsValid.isFinite_reference (h : c.IsValid) (last : Option (Command Float)) :
    (c.reference last).IsFinite := by
  unfold reference arrange
  split
  · rename_i t ht
    have hzero : (0.0 : Float).isFinite = true := by decide +kernel
    refine ⟨nofun, nofun, nofun, fun wrench hwrench => ?_⟩
    obtain rfl : t.output (armedBy last) (entryOf last) = wrench := Option.some.inj hwrench
    exact ⟨isFinite_usable hzero _ _, isFinite_usable hzero _ _⟩
  · constructor
    · intro velocity hmem
      obtain ⟨⟨ch, position⟩, hassigned, rfl⟩ := List.mem_map.mp hmem
      exact (h.of_mem_assigned hassigned).isFinite_output .motor nofun _ _
    · intro target hmem
      obtain ⟨⟨ch, position⟩, hassigned, rfl⟩ := List.mem_map.mp hmem
      exact (h.of_mem_assigned hassigned).isFinite_output .servo nofun _ _
    · intro command hmem
      obtain ⟨⟨ch, position⟩, hassigned, rfl⟩ := List.mem_map.mp hmem
      exact (h.of_mem_assigned hassigned).normalized_output _ _
    · nofun

end Config

namespace Dispatcher

/--
**Outputs are finite.** A valid configuration has a dispatcher. Whatever the commands hold and however far the
arithmetic goes, every velocity, position, thrust and torque that it publishes is finite, and every command for a
controller outside is a number from -1 to 1.
-/
theorem outputs_finite {c : Config Float} (hvalid : c.validate = .ok ()) :
    ∃ d, Dispatcher.new c = .ok d ∧ ∀ commands : List (Command Float), (d.outputsAfter commands).IsFinite := by
  obtain ⟨d, hnew, hreference⟩ := exists_new_reference hvalid
  refine ⟨d, hnew, fun commands => ?_⟩
  rw [hreference]
  exact (Config.validate_eq_ok_iff.mp hvalid).isFinite_reference _

/-- A rotor whose scaling takes any command out of range, and a joint driven outside that is commanded infinity. -/
theorem outputs_finite_out_of_range :
    let c : Config Float :=
      { Config.default with
        channels := [{ Channel.motor 0 1.0e308 with zeroDisarmed := 7.0 },
          { Channel.servo 1 1.0 with control := .passThrough, zeroDisarmed := -2.0 }] }
    let commands : List (Command Float) := [⟨0, [3.0e38, 1.0 / 0.0], true⟩]
    c.validate = .ok () ∧ ∃ d, Dispatcher.new c = .ok d
      ∧ (d.outputsAfter commands).IsFinite
      ∧ d.outputsAfter commands = ⟨[7.0], [], [⟨1, .generic, -1.0⟩], none⟩ := by
  intro c commands
  have hvalid : c.validate = .ok () := eq_ok_of_toOption (by decide +kernel)
  obtain ⟨d, hnew, hfinite⟩ := outputs_finite hvalid
  have hvalues : (Dispatcher.new c).toOption.map (·.outputsAfter commands)
      = some ⟨[7.0], [], [⟨1, .generic, -1.0⟩], none⟩ := by
    decide +kernel
  rw [hnew] at hvalues
  exact ⟨hvalid, d, hnew, hfinite commands, Option.some.inj hvalues⟩

end Dispatcher

end HilBridge
