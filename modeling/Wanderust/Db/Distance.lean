import Mathlib.Analysis.SpecialFunctions.Complex.Arg
import Mathlib.Analysis.SpecialFunctions.Pow.Real
import Wanderust.Common.Literals

/-!
# Coordinates and distances

The server computes with `f64`.  The model takes any ordered field for it,
together with the distance function; the function of the source is the instance
over the real numbers.
-/

namespace Wanderust

/-- Exact arithmetic in the place of `f64`, with the distance of two coordinates in metres. -/
class Geo (F : Type) extends Field F, LinearOrder F, IsStrictOrderedRing F where
  haversineM : F -> F -> F -> F -> F

section

variable {F : Type} [Geo F]

/-- Two samples at most this far apart count as the same place. -/
def movementEpsMeters : F := 5

/-- The range checks made on the coordinates of a request. -/
def coordsInRange (lat lon : F) : Bool :=
  (decide (-90 ≤ lat) && decide (lat ≤ 90)) && (decide (-180 ≤ lon) && decide (lon ≤ 180))

def coordsEqual (aLat aLon bLat bLon : F) : Bool :=
  decide (Geo.haversineM aLat aLon bLat bLon ≤ (movementEpsMeters : F))

@[simp] theorem coordsInRange_zero : coordsInRange (0 : F) 0 = true := by
  simp [coordsInRange]

end

/-!
# The haversine distance of the source
-/

namespace Haversine

noncomputable def toRadians (x : ℝ) : ℝ := x * (Real.pi / 180)

/-- The angle of the point `(x, y)`, in `(-π, π]`. -/
noncomputable def atan2 (y x : ℝ) : ℝ := Complex.arg ⟨x, y⟩

noncomputable def haversineM (lat1 lon1 lat2 lon2 : ℝ) : ℝ :=
  let r : ℝ := 6371000
  let phi1 := toRadians lat1
  let phi2 := toRadians lat2
  let dPhi := toRadians (lat2 - lat1)
  let dLambda := toRadians (lon2 - lon1)
  let a := Real.sin (dPhi / 2) ^ 2
    + Real.cos phi1 * Real.cos phi2 * Real.sin (dLambda / 2) ^ 2
  let c := 2 * atan2 (Real.sqrt a) (Real.sqrt (1 - a))
  r * c

theorem atan2_sin_cos {x : ℝ} (h : x ∈ Set.Ioc (-Real.pi) Real.pi) :
    atan2 (Real.sin x) (Real.cos x) = x := by
  have hpoint : (⟨Real.cos x, Real.sin x⟩ : ℂ) = Complex.cos x + Complex.sin x * Complex.I := by
    apply Complex.ext
    · simp [Complex.cos_ofReal_re]
    · simp [Complex.sin_ofReal_re]
  rw [atan2, hpoint]
  exact Complex.arg_cos_add_sin_mul_I h

theorem haversineM_meridian {lat1 lat2 : ℝ} (lon : ℝ) (hle : lat1 ≤ lat2)
    (harc : lat2 - lat1 ≤ 180) :
    haversineM lat1 lon lat2 lon = 6371000 * toRadians (lat2 - lat1) := by
  have hpi := Real.pi_pos
  have hlow : 0 ≤ toRadians (lat2 - lat1) / 2 := by
    unfold toRadians
    have := sub_nonneg.mpr hle
    positivity
  have hhigh : toRadians (lat2 - lat1) / 2 ≤ Real.pi / 2 := by
    unfold toRadians
    have h := mul_le_mul_of_nonneg_right harc (by positivity : 0 ≤ Real.pi / 180)
    linarith
  have hsin : 0 ≤ Real.sin (toRadians (lat2 - lat1) / 2) :=
    Real.sin_nonneg_of_nonneg_of_le_pi hlow (by linarith)
  have hcos : 0 ≤ Real.cos (toRadians (lat2 - lat1) / 2) :=
    Real.cos_nonneg_of_mem_Icc ⟨by linarith, hhigh⟩
  have hzero : toRadians (lon - lon) = 0 := by
    rw [sub_self, toRadians, zero_mul]
  have hcosSq : 1 - Real.sin (toRadians (lat2 - lat1) / 2) ^ 2 =
      Real.cos (toRadians (lat2 - lat1) / 2) ^ 2 := by
    rw [← Real.cos_sq']
  unfold haversineM
  simp only [hzero, zero_div, Real.sin_zero, ne_eq, OfNat.ofNat_ne_zero, not_false_eq_true,
    zero_pow, mul_zero, add_zero]
  rw [hcosSq, Real.sqrt_sq hsin, Real.sqrt_sq hcos,
    atan2_sin_cos ⟨by linarith, by linarith⟩, mul_div_cancel₀]
  exact two_ne_zero

end Haversine

noncomputable instance : Geo ℝ where
  haversineM := Haversine.haversineM

theorem coordsEqual_meridian {lat1 lat2 : ℝ} (lon : ℝ) (hle : lat1 ≤ lat2)
    (harc : lat2 - lat1 ≤ 180) :
    coordsEqual lat1 lon lat2 lon = true <->
      6371000 * ((lat2 - lat1) * (Real.pi / 180)) ≤ 5 := by
  have harcLength := Haversine.haversineM_meridian lon hle harc
  rw [coordsEqual, decide_eq_true_eq]
  show Haversine.haversineM lat1 lon lat2 lon ≤ 5 <-> _
  rw [harcLength, Haversine.toRadians]

theorem coordsEqual_self (lat lon : ℝ) : coordsEqual lat lon lat lon = true := by
  rw [coordsEqual_meridian lon (le_refl lat) (by simp)]
  norm_num

end Wanderust
