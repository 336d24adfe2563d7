import Wanderust.Db.Distance
import Wanderust.Geometry.Sphere
import Wanderust.Sim.Arith

/-!
# The two distances

The server and the simulator write the haversine formula each in its own way.
Over the real numbers both are the same function of the same haversine.
-/

namespace Wanderust

open Geometry Haversine

variable (lat1 lon1 lat2 lon2 : ℝ)

/-- The quantity `a` of both functions. -/
noncomputable def squareHalfChord : ℝ :=
  Real.sin (toRadians (lat2 - lat1) / 2) ^ 2
    + Real.cos (toRadians lat1) * Real.cos (toRadians lat2)
      * Real.sin (toRadians (lon2 - lon1) / 2) ^ 2

noncomputable def earthPoint (lat lon : ℝ) : SpherePoint :=
  SpherePoint.ofAngles (toRadians lat) (toRadians lon)

theorem squareHalfChord_eq : squareHalfChord lat1 lon1 lat2 lon2 =
    hav (toRadians lat1) (toRadians lon1) (toRadians lat2) (toRadians lon2) := by
  have hsub : forall x y : ℝ, toRadians (x - y) = toRadians x - toRadians y :=
    fun x y => sub_mul x y _
  unfold squareHalfChord hav
  rw [hsub, hsub]

theorem squareHalfChord_range :
    0 ≤ squareHalfChord lat1 lon1 lat2 lon2 ∧ squareHalfChord lat1 lon1 lat2 lon2 ≤ 1 := by
  rw [squareHalfChord_eq]
  exact ⟨hav_nonneg _ _ _ _, hav_le_one _ _ _ _⟩

/-! # The formulas -/

theorem server_haversineM : haversineM lat1 lon1 lat2 lon2 =
    6371000 * (2 * atan2 (Real.sqrt (squareHalfChord lat1 lon1 lat2 lon2))
      (Real.sqrt (1 - squareHalfChord lat1 lon1 lat2 lon2))) := rfl

theorem sim_haversineM : Sim.haversineM lat1 lon1 lat2 lon2 =
    2 * 6371000 * Real.arcsin (Real.sqrt (squareHalfChord lat1 lon1 lat2 lon2)) := rfl

theorem haversineM_eq_sim :
    haversineM lat1 lon1 lat2 lon2 = Sim.haversineM lat1 lon1 lat2 lon2 := by
  have hrange := squareHalfChord_range lat1 lon1 lat2 lon2
  rw [server_haversineM, sim_haversineM, atan2, arg_sqrt hrange.1 hrange.2]
  ring

theorem haversineM_comm :
    haversineM lat1 lon1 lat2 lon2 = haversineM lat2 lon2 lat1 lon1 := by
  rw [haversineM_eq_sim, haversineM_eq_sim, sim_haversineM, sim_haversineM, squareHalfChord_eq,
    squareHalfChord_eq, hav_comm]

theorem haversineM_range :
    0 ≤ haversineM lat1 lon1 lat2 lon2 ∧ haversineM lat1 lon1 lat2 lon2 ≤ Real.pi * 6371000 := by
  have hangle := arcsin_sqrt_range (squareHalfChord lat1 lon1 lat2 lon2)
  rw [haversineM_eq_sim, sim_haversineM]
  constructor
  · linarith
  · linarith

theorem haversineM_eq_zero_iff :
    haversineM lat1 lon1 lat2 lon2 = 0 <-> earthPoint lat1 lon1 = earthPoint lat2 lon2 := by
  have hradius : (2 * 6371000 : ℝ) ≠ 0 := by norm_num
  have hrange := squareHalfChord_range lat1 lon1 lat2 lon2
  rw [haversineM_eq_sim, sim_haversineM, mul_eq_zero_iff_left hradius,
    arcsin_sqrt_eq_zero_iff hrange.1, squareHalfChord_eq, hav_eq_zero_iff]
  rfl

/-- Every root and every inverse sine is taken of a number in its domain. -/
def InDomains (a : ℝ) : Prop :=
  0 ≤ a ∧ a ≤ 1 ∧ 0 ≤ 1 - a ∧ Real.sqrt a ∈ Set.Icc (-1) 1

theorem squareHalfChord_inDomains : InDomains (squareHalfChord lat1 lon1 lat2 lon2) := by
  have hrange := squareHalfChord_range lat1 lon1 lat2 lon2
  have hroot := sqrt_mem_unit hrange.2
  refine ⟨hrange.1, hrange.2, sub_nonneg.mpr hrange.2, ?_, hroot.2⟩
  linarith

theorem haversine_agree (lat1 lon1 lat2 lon2 : ℝ) :
    haversineM lat1 lon1 lat2 lon2 =
        6371000 * (2 * atan2 (Real.sqrt (squareHalfChord lat1 lon1 lat2 lon2))
          (Real.sqrt (1 - squareHalfChord lat1 lon1 lat2 lon2))) ∧
      Sim.haversineM lat1 lon1 lat2 lon2 =
        2 * 6371000 * Real.arcsin (Real.sqrt (squareHalfChord lat1 lon1 lat2 lon2)) ∧
      InDomains (squareHalfChord lat1 lon1 lat2 lon2) ∧
      haversineM lat1 lon1 lat2 lon2 = Sim.haversineM lat1 lon1 lat2 lon2 ∧
      haversineM lat1 lon1 lat2 lon2 = haversineM lat2 lon2 lat1 lon1 ∧
      (0 ≤ haversineM lat1 lon1 lat2 lon2 ∧
        haversineM lat1 lon1 lat2 lon2 ≤ Real.pi * 6371000) ∧
      (haversineM lat1 lon1 lat2 lon2 = 0 <-> earthPoint lat1 lon1 = earthPoint lat2 lon2) :=
  ⟨server_haversineM _ _ _ _, sim_haversineM _ _ _ _, squareHalfChord_inDomains _ _ _ _,
    haversineM_eq_sim _ _ _ _, haversineM_comm _ _ _ _, haversineM_range _ _ _ _,
    haversineM_eq_zero_iff _ _ _ _⟩

end Wanderust
