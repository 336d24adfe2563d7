import Mathlib.Algebra.Order.Field.Basic
import Mathlib.Algebra.Order.Floor.Defs
import Mathlib.Analysis.SpecialFunctions.Trigonometric.Inverse
import Wanderust.Common.Literals

/-!
# The arithmetic of the simulator

The operations that the simulator uses of `f64`, without any law, and the same
operations of exact arithmetic.  What does not depend on rounding is proved for
the first, what does for the second.
-/

namespace Wanderust.Sim

/-- The operations of `f64` that the simulator uses, with the cast `as u64`. -/
class Arith (F : Type) extends Zero F, One F, NatCast F, Add F, Sub F, Mul F, Div F,
    LT F, LE F, Max F where
  toDecidableLE : DecidableLE F
  toDecidableLT : DecidableLT F
  castU64 : F -> UInt64
  /-- The distance in metres of two coordinates. -/
  haversineM : F -> F -> F -> F -> F

attribute [reducible, instance] Arith.toDecidableLE Arith.toDecidableLT

/-- The operations of an ordered field in their place. -/
class ExactArith (F : Type) extends Field F, LinearOrder F, IsStrictOrderedRing F, Arith F

/-! # Real numbers -/

noncomputable def haversineM (lat1 lon1 lat2 lon2 : ℝ) : ℝ :=
  let toRadians : ℝ -> ℝ := fun x => x * (Real.pi / 180)
  let p1 := toRadians lat1
  let p2 := toRadians lat2
  let dphi := toRadians (lat2 - lat1)
  let dlmb := toRadians (lon2 - lon1)
  let a := Real.sin (dphi / 2) ^ 2 + Real.cos p1 * Real.cos p2 * Real.sin (dlmb / 2) ^ 2
  2 * 6371000 * Real.arcsin (Real.sqrt a)

/-- The cast is towards zero, and saturates at both ends. -/
@[reducible] noncomputable def realArith : ExactArith ℝ where
  castU64 seed := UInt64.ofNat (min ⌊seed⌋.toNat (2 ^ 64 - 1))
  haversineM := haversineM

/-! # Rational numbers -/

/-- Runs can be computed with a distance that is good enough for short ways. -/
@[reducible] def rationalArith : ExactArith ℚ where
  castU64 seed := UInt64.ofNat (min ⌊seed⌋.toNat (2 ^ 64 - 1))
  haversineM lat1 lon1 lat2 lon2 := 111195 * (|lat2 - lat1| + |lon2 - lon1|)

/-! # Floating-point numbers -/

namespace Float

def haversineM (lat1 lon1 lat2 lon2 : Float) : Float :=
  let toRadians : Float -> Float := fun x => x * (3.14159265358979323846264338327950288 / 180)
  let p1 := toRadians lat1
  let p2 := toRadians lat2
  let dphi := toRadians (lat2 - lat1)
  let dlmb := toRadians (lon2 - lon1)
  let sinPhi := (dphi / 2).sin
  let sinLmb := (dlmb / 2).sin
  let a := sinPhi * sinPhi + p1.cos * p2.cos * (sinLmb * sinLmb)
  2 * 6371000 * a.sqrt.asin

/-- The maximum of two numbers is the other one where one of them is not a number. -/
instance : Arith Float where
  zero := 0
  one := 1
  natCast := Float.ofNat
  max x y := if x.isNaN then y else if y.isNaN then x else if x < y then y else x
  toDecidableLE := inferInstance
  toDecidableLT := inferInstance
  castU64 := Float.toUInt64
  haversineM := haversineM

end Float

end Wanderust.Sim
