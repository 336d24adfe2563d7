import Mathlib.Analysis.SpecialFunctions.Complex.Arg

/-!
# Points of the unit sphere

The points given by a latitude and a longitude, and the haversine of the angle
between two of them.  It is half of one minus the inner product, so it lies in
the unit interval, and it vanishes only when the points are the same.
-/

namespace Geometry

/-- One proof that 2 is a numeral, for all the terms below. -/
local instance atLeastTwo_two : Nat.AtLeastTwo 2 := ⟨Nat.le_refl 2⟩

@[ext] structure SpherePoint where
  x : ℝ
  y : ℝ
  z : ℝ
  unit : x ^ 2 + y ^ 2 + z ^ 2 = 1

namespace SpherePoint

variable {p q : SpherePoint}

noncomputable def ofAngles (lat lon : ℝ) : SpherePoint where
  x := Real.cos lat * Real.cos lon
  y := Real.cos lat * Real.sin lon
  z := Real.sin lat
  unit := by
    have hlat := Real.sin_sq_add_cos_sq lat
    have hlon := Real.sin_sq_add_cos_sq lon
    calc (Real.cos lat * Real.cos lon) ^ 2 + (Real.cos lat * Real.sin lon) ^ 2 + Real.sin lat ^ 2
        = Real.cos lat ^ 2 * (Real.sin lon ^ 2 + Real.cos lon ^ 2) + Real.sin lat ^ 2 := by ring
      _ = Real.sin lat ^ 2 + Real.cos lat ^ 2 := by rw [hlon, mul_one, add_comm]
      _ = 1 := hlat

def inner (p q : SpherePoint) : ℝ := p.x * q.x + p.y * q.y + p.z * q.z

theorem inner_comm (p q : SpherePoint) : p.inner q = q.inner p := by
  unfold inner
  ring

theorem chord_sq (p q : SpherePoint) :
    (p.x - q.x) ^ 2 + (p.y - q.y) ^ 2 + (p.z - q.z) ^ 2 = 2 * (1 - p.inner q) := by
  have hp := p.unit
  have hq := q.unit
  unfold inner
  linear_combination hp + hq

theorem antichord_sq (p q : SpherePoint) :
    (p.x + q.x) ^ 2 + (p.y + q.y) ^ 2 + (p.z + q.z) ^ 2 = 2 * (1 + p.inner q) := by
  have hp := p.unit
  have hq := q.unit
  unfold inner
  linear_combination hp + hq

theorem inner_le_one (p q : SpherePoint) : p.inner q ≤ 1 := by
  have hnonneg : 0 ≤ (p.x - q.x) ^ 2 + (p.y - q.y) ^ 2 + (p.z - q.z) ^ 2 := by positivity
  rw [chord_sq] at hnonneg
  linarith

theorem neg_one_le_inner (p q : SpherePoint) : -1 ≤ p.inner q := by
  have hnonneg : 0 ≤ (p.x + q.x) ^ 2 + (p.y + q.y) ^ 2 + (p.z + q.z) ^ 2 := by positivity
  rw [antichord_sq] at hnonneg
  linarith

theorem inner_eq_one_iff : p.inner q = 1 <-> p = q := by
  have hchord := chord_sq p q
  constructor
  · intro h
    rw [h, sub_self, mul_zero] at hchord
    have hx := sq_nonneg (p.x - q.x)
    have hy := sq_nonneg (p.y - q.y)
    have hz := sq_nonneg (p.z - q.z)
    apply SpherePoint.ext
    · exact sub_eq_zero.mp (pow_eq_zero_iff two_ne_zero |>.mp (by linarith))
    · exact sub_eq_zero.mp (pow_eq_zero_iff two_ne_zero |>.mp (by linarith))
    · exact sub_eq_zero.mp (pow_eq_zero_iff two_ne_zero |>.mp (by linarith))
  · intro heq
    subst heq
    rw [sub_self, sub_self, sub_self, zero_pow two_ne_zero, add_zero, add_zero] at hchord
    linarith

end SpherePoint

/-! # The haversine -/

open SpherePoint

variable (lat1 lon1 lat2 lon2 : ℝ)

/-- The haversine of the angle between two points, by their latitudes and longitudes. -/
noncomputable def hav : ℝ :=
  Real.sin ((lat2 - lat1) / 2) ^ 2
    + Real.cos lat1 * Real.cos lat2 * Real.sin ((lon2 - lon1) / 2) ^ 2

theorem sin_half_sq (x : ℝ) : Real.sin (x / 2) ^ 2 = (1 - Real.cos x) / 2 := by
  have hdouble := Real.cos_sq' (x / 2)
  have hcos : Real.cos x = 2 * Real.cos (x / 2) ^ 2 - 1 := by
    rw [← Real.cos_two_mul, mul_div_cancel₀ x two_ne_zero]
  linarith

theorem hav_eq : hav lat1 lon1 lat2 lon2 =
    (1 - (ofAngles lat1 lon1).inner (ofAngles lat2 lon2)) / 2 := by
  unfold hav
  rw [sin_half_sq, sin_half_sq, Real.cos_sub, Real.cos_sub]
  dsimp only [SpherePoint.inner, ofAngles]
  ring

theorem hav_nonneg : 0 ≤ hav lat1 lon1 lat2 lon2 := by
  have hinner := inner_le_one (ofAngles lat1 lon1) (ofAngles lat2 lon2)
  rw [hav_eq]
  linarith

theorem hav_le_one : hav lat1 lon1 lat2 lon2 ≤ 1 := by
  have hinner := neg_one_le_inner (ofAngles lat1 lon1) (ofAngles lat2 lon2)
  rw [hav_eq]
  linarith

theorem hav_comm : hav lat1 lon1 lat2 lon2 = hav lat2 lon2 lat1 lon1 := by
  rw [hav_eq, hav_eq, inner_comm]

theorem hav_eq_zero_iff :
    hav lat1 lon1 lat2 lon2 = 0 <-> ofAngles lat1 lon1 = ofAngles lat2 lon2 := by
  rw [hav_eq, ← inner_eq_one_iff]
  constructor
  · intro h
    linarith
  · intro h
    linarith

/-! # The angle of a haversine -/

variable {a : ℝ}

theorem sqrt_mem_unit (h : a ≤ 1) : 0 ≤ Real.sqrt a ∧ Real.sqrt a ≤ 1 :=
  ⟨Real.sqrt_nonneg a, Real.sqrt_le_one.mpr h⟩

theorem arg_sqrt (h : 0 ≤ a) (h' : a ≤ 1) :
    Complex.arg ⟨Real.sqrt (1 - a), Real.sqrt a⟩ = Real.arcsin (Real.sqrt a) := by
  have hnorm : ‖(⟨Real.sqrt (1 - a), Real.sqrt a⟩ : ℂ)‖ = 1 := by
    rw [Complex.norm_def, Complex.normSq_mk, Real.mul_self_sqrt (sub_nonneg.mpr h'),
      Real.mul_self_sqrt h, sub_add_cancel, Real.sqrt_one]
  rw [Complex.arg_of_re_nonneg (Real.sqrt_nonneg _), hnorm, div_one]

theorem arcsin_sqrt_range (a : ℝ) :
    0 ≤ Real.arcsin (Real.sqrt a) ∧ Real.arcsin (Real.sqrt a) ≤ Real.pi / 2 :=
  ⟨Real.arcsin_nonneg.mpr (Real.sqrt_nonneg a), Real.arcsin_le_pi_div_two _⟩

theorem arcsin_sqrt_eq_zero_iff (h : 0 ≤ a) : Real.arcsin (Real.sqrt a) = 0 <-> a = 0 := by
  rw [Real.arcsin_eq_zero_iff, Real.sqrt_eq_zero h]

end Geometry
