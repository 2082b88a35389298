import Mathlib
import HilBridge.Geometry.Frame
import HilBridge.Proofs.Number.Exact

/-!
# `HilBridge.Proofs.Geometry.Rotation` — changes of frame are rotations

In exact arithmetic the quaternions here are Mathlib's (`Quaternion.toHamilton`), with the same product, conjugate and
norm. Turning a vector is not written as a product of quaternions, and is one only where the norm is one
(`pure_rotate`); every law of a change of frame follows from that and from the algebra of the quaternions.

**Main statement.** `frame_change_laws`: a change of frame between any two conventions is undone by its inverse, keeps
lengths, and takes a turned vector to the vector turned by the attitude in the new frames. The one in use turns
forward, left, up into forward, right, down and east, north, up into north, east, down.
-/

open scoped Quaternion

namespace HilBridge

attribute [ext] Vec3 Quaternion

/-! ## Vectors -/

namespace Vec3

variable {α : Type} [Scalar α] (v w : Vec3 α) (k : α)

@[simp] theorem add_x : (v + w).x = v.x + w.x := rfl
@[simp] theorem add_y : (v + w).y = v.y + w.y := rfl
@[simp] theorem add_z : (v + w).z = v.z + w.z := rfl
@[simp] theorem sub_x : (v - w).x = v.x - w.x := rfl
@[simp] theorem sub_y : (v - w).y = v.y - w.y := rfl
@[simp] theorem sub_z : (v - w).z = v.z - w.z := rfl
@[simp] theorem neg_x : (-v).x = -v.x := rfl
@[simp] theorem neg_y : (-v).y = -v.y := rfl
@[simp] theorem neg_z : (-v).z = -v.z := rfl
@[simp] theorem mul_x : (v * k).x = v.x * k := rfl
@[simp] theorem mul_y : (v * k).y = v.y * k := rfl
@[simp] theorem mul_z : (v * k).z = v.z * k := rfl
@[simp] theorem div_x : (v / k).x = v.x / k := rfl
@[simp] theorem div_y : (v / k).y = v.y / k := rfl
@[simp] theorem div_z : (v / k).z = v.z / k := rfl
@[simp] theorem cross_x : (v.cross w).x = v.y * w.z - v.z * w.y := rfl
@[simp] theorem cross_y : (v.cross w).y = v.z * w.x - v.x * w.z := rfl
@[simp] theorem cross_z : (v.cross w).z = v.x * w.y - v.y * w.x := rfl

/-- The quaternion with a vector as its imaginary part. -/
def pure (v : Vec3 ℝ) : ℍ[ℝ] :=
  ⟨0, v.x, v.y, v.z⟩

section
variable (v : Vec3 ℝ)

@[simp] theorem re_pure : v.pure.re = 0 := rfl
@[simp] theorem imI_pure : v.pure.imI = v.x := rfl
@[simp] theorem imJ_pure : v.pure.imJ = v.y := rfl
@[simp] theorem imK_pure : v.pure.imK = v.z := rfl

end

theorem pure_injective : Function.Injective pure := by
  rintro ⟨x, y, z⟩ ⟨x', y', z'⟩ h
  cases h
  rfl

theorem normSq_pure (v : Vec3 ℝ) : Quaternion.normSq v.pure = v.normSquared := by
  rw [Quaternion.normSq_def', pure, normSquared]
  ring

end Vec3

/-! ## Quaternions -/

namespace Quaternion

variable {a b q : Quaternion ℝ} {v : Vec3 ℝ}

/-- A quaternion among Mathlib's. -/
def toHamilton (q : Quaternion ℝ) : ℍ[ℝ] :=
  ⟨q.w, q.imag.x, q.imag.y, q.imag.z⟩

@[simp] theorem re_toHamilton (q : Quaternion ℝ) : q.toHamilton.re = q.w := rfl
@[simp] theorem imI_toHamilton (q : Quaternion ℝ) : q.toHamilton.imI = q.imag.x := rfl
@[simp] theorem imJ_toHamilton (q : Quaternion ℝ) : q.toHamilton.imJ = q.imag.y := rfl
@[simp] theorem imK_toHamilton (q : Quaternion ℝ) : q.toHamilton.imK = q.imag.z := rfl

theorem toHamilton_injective : Function.Injective toHamilton := by
  rintro ⟨w, x, y, z⟩ ⟨w', x', y', z'⟩ h
  cases h
  rfl

@[simp]
theorem toHamilton_mul (a b : Quaternion ℝ) : (a * b).toHamilton = a.toHamilton * b.toHamilton := by
  ext
  · exact (Quaternion.re_mul a.toHamilton b.toHamilton).symm
  · exact (Quaternion.imI_mul a.toHamilton b.toHamilton).symm
  · exact (Quaternion.imJ_mul a.toHamilton b.toHamilton).symm
  · exact (Quaternion.imK_mul a.toHamilton b.toHamilton).symm

@[simp]
theorem toHamilton_conj (q : Quaternion ℝ) : q.conj.toHamilton = star q.toHamilton := by
  ext
  · exact (Quaternion.re_star q.toHamilton).symm
  · exact (Quaternion.imI_star q.toHamilton).symm
  · exact (Quaternion.imJ_star q.toHamilton).symm
  · exact (Quaternion.imK_star q.toHamilton).symm

theorem normSq_toHamilton (q : Quaternion ℝ) : Quaternion.normSq q.toHamilton = q.normSquared := by
  rw [Quaternion.normSq_def', toHamilton, normSquared]
  ring

theorem norm_eq (q : Quaternion ℝ) : q.norm = √(Quaternion.normSq q.toHamilton) := by
  rw [normSq_toHamilton]
  rfl

theorem norm_mul (a b : Quaternion ℝ) : (a * b).norm = a.norm * b.norm := by
  rw [norm_eq, norm_eq, norm_eq, toHamilton_mul, map_mul, Real.sqrt_mul Quaternion.normSq_nonneg]

@[simp]
theorem norm_conj (q : Quaternion ℝ) : q.conj.norm = q.norm := by
  rw [norm_eq, norm_eq, toHamilton_conj, Quaternion.normSq_star]

theorem normSq_of_norm (h : q.norm = 1) : Quaternion.normSq q.toHamilton = 1 := by
  rw [norm_eq] at h
  exact Real.sqrt_eq_one.mp h

theorem star_mul_of_norm (h : q.norm = 1) : star q.toHamilton * q.toHamilton = 1 := by
  rw [Quaternion.star_mul_self, normSq_of_norm h]
  rfl

/-- A quaternion of norm one turns a vector by the product with it from both sides. -/
theorem pure_rotate (h : q.norm = 1) (v : Vec3 ℝ) :
    (q.rotate v).pure = q.toHamilton * v.pure * star q.toHamilton := by
  have hsum : q.w ^ 2 + q.imag.x ^ 2 + q.imag.y ^ 2 + q.imag.z ^ 2 = 1 :=
    (Quaternion.normSq_def' q.toHamilton).symm.trans (normSq_of_norm h)
  -- each component differs from that of the product by its part of the vector times the norm less one
  ext
  · simp
    ring
  · norm_num [rotate]
    linear_combination (-v.x) * hsum
  · norm_num [rotate]
    linear_combination (-v.y) * hsum
  · norm_num [rotate]
    linear_combination (-v.z) * hsum

theorem norm_rotate (h : q.norm = 1) (v : Vec3 ℝ) : (q.rotate v).norm = v.norm := by
  have hsquare : (q.rotate v).normSquared = v.normSquared := by
    rw [← Vec3.normSq_pure, pure_rotate h, map_mul, map_mul, Quaternion.normSq_star, normSq_of_norm h, one_mul,
      mul_one, Vec3.normSq_pure]
  exact congrArg Real.sqrt hsquare

/-- Turning twice is turning by the product. -/
theorem rotate_rotate (ha : a.norm = 1) (hb : b.norm = 1) (v : Vec3 ℝ) : a.rotate (b.rotate v) = (a * b).rotate v := by
  have hab : (a * b).norm = 1 := by rw [norm_mul, ha, hb, one_mul]
  apply Vec3.pure_injective
  rw [pure_rotate ha, pure_rotate hb, pure_rotate hab, toHamilton_mul, star_mul]
  simp only [mul_assoc]

/-- The conjugate turns back. -/
theorem conj_rotate_rotate (h : q.norm = 1) (v : Vec3 ℝ) : q.conj.rotate (q.rotate v) = v := by
  have hconj : q.conj.norm = 1 := by rw [norm_conj, h]
  apply Vec3.pure_injective
  rw [pure_rotate hconj, pure_rotate h, toHamilton_conj, star_star]
  calc star q.toHamilton * (q.toHamilton * v.pure * star q.toHamilton) * q.toHamilton
      = (star q.toHamilton * q.toHamilton) * v.pure * (star q.toHamilton * q.toHamilton) := by simp only [mul_assoc]
    _ = v.pure := by rw [star_mul_of_norm h, one_mul, mul_one]

@[simp]
theorem conj_conj (q : Quaternion ℝ) : q.conj.conj = q := by
  apply toHamilton_injective
  rw [toHamilton_conj, toHamilton_conj, star_star]

theorem rotate_conj_rotate (h : q.norm = 1) (v : Vec3 ℝ) : q.rotate (q.conj.rotate v) = v := by
  have hconj : q.conj.norm = 1 := by rw [norm_conj, h]
  have hback := conj_rotate_rotate hconj v
  rwa [conj_conj] at hback

end Quaternion

/-! ## Changes of frame -/

namespace FrameChange

variable {f : FrameChange ℝ}

/-- The change back. -/
noncomputable def inverse (f : FrameChange ℝ) : FrameChange ℝ :=
  ⟨f.body.conj, f.world.conj⟩

theorem inverse_inverse (f : FrameChange ℝ) : f.inverse.inverse = f := by
  rw [inverse, inverse, Quaternion.conj_conj, Quaternion.conj_conj]

theorem inverseOrientation_eq (f : FrameChange ℝ) (q : Quaternion ℝ) :
    f.inverseOrientation q = f.inverse.orientation q := by
  rw [inverseOrientation, orientation, inverse, Quaternion.conj_conj]

section
variable (hbody : f.body.norm = 1) (hworld : f.world.norm = 1)
include hbody hworld

theorem norm_inverse : f.inverse.body.norm = 1 ∧ f.inverse.world.norm = 1 :=
  ⟨(Quaternion.norm_conj f.body).trans hbody, (Quaternion.norm_conj f.world).trans hworld⟩

theorem norm_orientation (q : Quaternion ℝ) : (f.orientation q).norm = q.norm := by
  rw [orientation, Quaternion.norm_mul, Quaternion.norm_mul, Quaternion.norm_conj, hbody, hworld, one_mul, mul_one]

theorem norm_inverseOrientation (q : Quaternion ℝ) : (f.inverseOrientation q).norm = q.norm := by
  obtain ⟨hbody, hworld⟩ := norm_inverse hbody hworld
  rw [inverseOrientation_eq, norm_orientation hbody hworld]

theorem inverseOrientation_orientation (q : Quaternion ℝ) : f.inverseOrientation (f.orientation q) = q := by
  apply Quaternion.toHamilton_injective
  simp only [inverseOrientation, orientation, Quaternion.toHamilton_mul, Quaternion.toHamilton_conj]
  calc star f.world.toHamilton * (f.world.toHamilton * q.toHamilton * star f.body.toHamilton) * f.body.toHamilton
      = (star f.world.toHamilton * f.world.toHamilton) * q.toHamilton
          * (star f.body.toHamilton * f.body.toHamilton) := by simp only [mul_assoc]
    _ = q.toHamilton := by
      rw [Quaternion.star_mul_of_norm hworld, Quaternion.star_mul_of_norm hbody, one_mul, mul_one]

theorem orientation_inverseOrientation (q : Quaternion ℝ) : f.orientation (f.inverseOrientation q) = q := by
  have hback := inverseOrientation_orientation (norm_inverse hbody hworld).1 (norm_inverse hbody hworld).2 q
  rwa [inverseOrientation_eq, inverse_inverse, ← inverseOrientation_eq] at hback

/-- A vector turned by an attitude, seen in the new frames, is the vector there turned by the attitude there. -/
theorem worldVector_rotate {q : Quaternion ℝ} (hq : q.norm = 1) (v : Vec3 ℝ) :
    f.worldVector (q.rotate v) = (f.orientation q).rotate (f.bodyVector v) := by
  have hconj : f.body.conj.norm = 1 := by rw [Quaternion.norm_conj, hbody]
  have hfirst : (f.world * q).norm = 1 := by rw [Quaternion.norm_mul, hworld, hq, one_mul]
  calc f.world.rotate (q.rotate v) = (f.world * q).rotate v := Quaternion.rotate_rotate hworld hq v
    _ = (f.world * q).rotate (f.body.conj.rotate (f.body.rotate v)) := by
      rw [Quaternion.conj_rotate_rotate hbody]
    _ = (f.world * q * f.body.conj).rotate (f.body.rotate v) := Quaternion.rotate_rotate hfirst hconj _

end

/-! ### The frames in use -/

theorem fluToFrd_eq : (fluToFrd : Quaternion ℝ) = ⟨0, ⟨1, 0, 0⟩⟩ := by
  have hhalf : (Scalar.pi / 2.0 : ℝ) = Real.pi / 2 := by
    show Real.pi / 2.0 = Real.pi / 2
    norm_num
  have hcos : Scalar.cos (Real.pi / 2) = (0 : ℝ) := Real.cos_pi_div_two
  have hsin : Scalar.sin (Real.pi / 2) = (1 : ℝ) := Real.sin_pi_div_two
  rw [fluToFrd, Quaternion.ofAxisAngle, hhalf, hcos, hsin]
  ext <;> norm_num [Vec3.unitX]

theorem sqrt_half_mul_self : √(1 / 2) * √(1 / 2) = 1 / 2 :=
  Real.mul_self_sqrt (by norm_num)

theorem norm_halves : Quaternion.norm ⟨(0.0 : ℝ), ⟨√(1 / 2), √(1 / 2), 0.0⟩⟩ = 1 := by
  have hhalf := sqrt_half_mul_self
  refine Real.sqrt_eq_one.mpr ?_
  generalize √(1 / 2) = s at hhalf ⊢
  norm_num [Quaternion.normSquared]
  linear_combination 2 * hhalf

/-- The rotation of the world axes is normalized as it stands. -/
theorem enuToNed_eq : (enuToNed : Quaternion ℝ) = ⟨0.0, ⟨√(1 / 2), √(1 / 2), 0.0⟩⟩ := by
  have hroot : (Scalar.sqrt 0.5 : ℝ) = √(1 / 2) := by
    show √(0.5) = √(1 / 2)
    norm_num
  rw [enuToNed, hroot, Quaternion.normalize, norm_halves]
  ext <;> norm_num

theorem bodyVector_simToAutopilot (v : Vec3 ℝ) : simToAutopilot.bodyVector v = ⟨v.x, -v.y, -v.z⟩ := by
  rw [bodyVector, simToAutopilot, fluToFrd_eq]
  ext <;> norm_num [Quaternion.rotate] <;> ring

theorem worldVector_simToAutopilot (v : Vec3 ℝ) : simToAutopilot.worldVector v = ⟨v.y, v.x, -v.z⟩ := by
  have hhalf := sqrt_half_mul_self
  rw [worldVector, simToAutopilot, enuToNed_eq]
  generalize √(1 / 2) = s at hhalf
  ext
  · norm_num [Quaternion.rotate]
    linear_combination 2 * (v.y - v.x) * hhalf
  · norm_num [Quaternion.rotate]
    linear_combination 2 * (v.x - v.y) * hhalf
  · norm_num [Quaternion.rotate]
    linear_combination (-4 * v.z) * hhalf

theorem norm_body_simToAutopilot : (simToAutopilot : FrameChange ℝ).body.norm = 1 := by
  refine Real.sqrt_eq_one.mpr ?_
  rw [simToAutopilot, fluToFrd_eq]
  norm_num [Quaternion.normSquared]

theorem norm_world_simToAutopilot : (simToAutopilot : FrameChange ℝ).world.norm = 1 := by
  rw [simToAutopilot, enuToNed_eq, norm_halves]

/-! ## The theorem -/

/--
**Changes of frame obey the laws of rotations**, in exact arithmetic and for any two rotations. The attitude in the new
frames is taken back by its inverse and the other way round, and keeps its norm. Vectors of the body and of the world
are taken back likewise and keep their lengths. A vector of the body that an attitude turns into the world comes out
the same whether it is turned before or after the change. The change in use swaps the horizontal axes of the world and
reverses the vertical one, and reverses the second and third axis of the body.
-/
theorem frame_change_laws (f : FrameChange ℝ) (hbody : f.body.norm = 1) (hworld : f.world.norm = 1) :
    (∀ q : Quaternion ℝ,
      f.inverseOrientation (f.orientation q) = q ∧ f.orientation (f.inverseOrientation q) = q
        ∧ (f.orientation q).norm = q.norm ∧ (f.inverseOrientation q).norm = q.norm)
      ∧ (∀ v : Vec3 ℝ,
        (f.bodyVectorInverse (f.bodyVector v) = v ∧ f.bodyVector (f.bodyVectorInverse v) = v)
          ∧ (f.worldVectorInverse (f.worldVector v) = v ∧ f.worldVector (f.worldVectorInverse v) = v)
          ∧ ((f.bodyVector v).norm = v.norm ∧ (f.bodyVectorInverse v).norm = v.norm)
          ∧ ((f.worldVector v).norm = v.norm ∧ (f.worldVectorInverse v).norm = v.norm))
      ∧ (∀ (q : Quaternion ℝ) (v : Vec3 ℝ), q.norm = 1 →
        f.worldVector (q.rotate v) = (f.orientation q).rotate (f.bodyVector v))
      ∧ ∀ v : Vec3 ℝ, simToAutopilot.bodyVector v = ⟨v.x, -v.y, -v.z⟩
        ∧ simToAutopilot.worldVector v = ⟨v.y, v.x, -v.z⟩ := by
  obtain ⟨hbody', hworld'⟩ := norm_inverse hbody hworld
  refine ⟨fun q => ?attitudes, fun v => ?vectors, fun q v hq => worldVector_rotate hbody hworld hq v,
    fun v => ⟨bodyVector_simToAutopilot v, worldVector_simToAutopilot v⟩⟩
  case attitudes =>
    exact ⟨inverseOrientation_orientation hbody hworld q, orientation_inverseOrientation hbody hworld q,
      norm_orientation hbody hworld q, norm_inverseOrientation hbody hworld q⟩
  case vectors =>
    exact ⟨⟨Quaternion.conj_rotate_rotate hbody v, Quaternion.rotate_conj_rotate hbody v⟩,
      ⟨Quaternion.conj_rotate_rotate hworld v, Quaternion.rotate_conj_rotate hworld v⟩,
      ⟨Quaternion.norm_rotate hbody v, Quaternion.norm_rotate hbody' v⟩,
      ⟨Quaternion.norm_rotate hworld v, Quaternion.norm_rotate hworld' v⟩⟩

/-- The frames in use are rotations, and so obey the laws. -/
theorem laws_of_simToAutopilot :
    let f : FrameChange ℝ := simToAutopilot
    f.body.norm = 1 ∧ f.world.norm = 1
      ∧ (∀ q, f.inverseOrientation (f.orientation q) = q)
      ∧ ∀ v, f.worldVector (f.world.rotate v) = (f.orientation f.world).rotate (f.bodyVector v) := by
  intro f
  have hbody := norm_body_simToAutopilot
  have hworld := norm_world_simToAutopilot
  have hlaws := frame_change_laws f hbody hworld
  exact ⟨hbody, hworld, fun q => (hlaws.1 q).1, fun v => hlaws.2.2.1 f.world v hworld⟩

end FrameChange

end HilBridge
