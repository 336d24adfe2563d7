import Mathlib.Analysis.InnerProductSpace.PiL2
import Mathlib.Geometry.Euclidean.Angle.Unoriented.TriangleInequality
import Wanderust.Geometry.Sphere

/-!
# Great circles

The angle between two points of the unit sphere is twice the inverse sine of
the root of their haversine, and it obeys the triangle inequality.
-/

namespace Geometry

open SpherePoint

/-- One proof that 2 is a numeral, for all the terms below. -/
local instance atLeastTwo_twice : Nat.AtLeastTwo 2 := ⟨Nat.le_refl 2⟩

namespace SpherePoint

variable (p q r : SpherePoint)

/-- The angle that the arc between two points is seen under from the centre. -/
noncomputable def arc : ℝ := Real.arccos (p.inner q)

noncomputable def toVec : EuclideanSpace ℝ (Fin 3) := !₂[p.x, p.y, p.z]

theorem inner_toVec : Inner.inner ℝ p.toVec q.toVec = p.inner q := by
  unfold toVec SpherePoint.inner
  simp [PiLp.inner_apply, Fin.sum_univ_three]
  ring

theorem norm_toVec : ‖p.toVec‖ = 1 := by
  have hself : p.inner p = 1 := inner_eq_one_iff.mpr rfl
  rw [norm_eq_sqrt_real_inner, inner_toVec, hself, Real.sqrt_one]

theorem angle_toVec : InnerProductGeometry.angle p.toVec q.toVec = p.arc q := by
  rw [InnerProductGeometry.angle, inner_toVec, norm_toVec, norm_toVec, mul_one, div_one, arc]

theorem arc_triangle : p.arc r ≤ p.arc q + q.arc r := by
  rw [← angle_toVec, ← angle_toVec, ← angle_toVec]
  exact InnerProductGeometry.angle_le_angle_add_angle _ _ _

end SpherePoint

theorem arc_eq (lat1 lon1 lat2 lon2 : ℝ) :
    (ofAngles lat1 lon1).arc (ofAngles lat2 lon2) =
      2 * Real.arcsin (Real.sqrt (hav lat1 lon1 lat2 lon2)) := by
  have hnonneg := hav_nonneg lat1 lon1 lat2 lon2
  have hle := hav_le_one lat1 lon1 lat2 lon2
  have hrange := arcsin_sqrt_range (hav lat1 lon1 lat2 lon2)
  have hroot := sqrt_mem_unit hle
  have hsin := Real.sin_arcsin (by linarith) hroot.2
  have hcos : Real.cos (2 * Real.arcsin (Real.sqrt (hav lat1 lon1 lat2 lon2))) =
      (ofAngles lat1 lon1).inner (ofAngles lat2 lon2) := by
    rw [Real.cos_two_mul, Real.cos_sq', hsin, Real.sq_sqrt hnonneg, hav_eq]
    ring
  rw [arc, ← hcos]
  exact Real.arccos_cos (by linarith) (by linarith)

end Geometry
