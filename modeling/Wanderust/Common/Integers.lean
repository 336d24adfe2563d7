import Mathlib.Algebra.Order.Ring.Int

/-!
# Machine integers

An `i64` is an `Int` in range.  An addition, subtraction or multiplication that
leaves the range has no result; a cast to a narrower type keeps the low bits.
-/

namespace Wanderust

def InI64 (x : Int) : Prop := -(2 ^ 63) ≤ x ∧ x < 2 ^ 63

instance (x : Int) : Decidable (InI64 x) :=
  inferInstanceAs (Decidable (_ ∧ _))

/-- The result of an operation on `i64` values, unless it overflows. -/
def checkedI64 (x : Int) : Option Int := if InI64 x then some x else none

theorem checkedI64_eq {x : Int} (h : InI64 x) : checkedI64 x = some x := if_pos h

def InI32 (x : Int) : Prop := -(2 ^ 31) ≤ x ∧ x < 2 ^ 31

instance (x : Int) : Decidable (InI32 x) :=
  inferInstanceAs (Decidable (_ ∧ _))

def checkedI32 (x : Int) : Option Int := if InI32 x then some x else none

theorem checkedI32_eq {x : Int} (h : InI32 x) : checkedI32 x = some x := if_pos h

def InU32 (x : Int) : Prop := 0 ≤ x ∧ x < 2 ^ 32

instance (x : Int) : Decidable (InU32 x) :=
  inferInstanceAs (Decidable (_ ∧ _))

def checkedU32 (x : Int) : Option Int := if InU32 x then some x else none

theorem checkedU32_eq {x : Int} (h : InU32 x) : checkedU32 x = some x := if_pos h

def castI32 (x : Int) : Int := (x + 2 ^ 31) % 2 ^ 32 - 2 ^ 31

def castU32 (x : Int) : Int := x % 2 ^ 32

theorem castI32_eq {x : Int} (h : InI32 x) : castI32 x = x := by
  unfold InI32 at h
  unfold castI32
  omega

theorem castU32_eq {x : Int} (h : InU32 x) : castU32 x = x :=
  Int.emod_eq_of_lt h.1 h.2

/-! # Sequences of checked operations -/

theorem bind_some_eq {alpha beta : Type} {x : Option alpha} {f : alpha -> Option beta} {y : alpha}
    {r : Option beta} (hx : x = some y) (h : f y = r) : (x >>= f) = r := by
  rw [hx]
  exact h

theorem bind_checkedI64 {alpha : Type} {f : Int -> Option alpha} {x : Int} {r : Option alpha}
    (y : Int) (hxy : x = y) (hy : InI64 y) (h : f y = r) : (checkedI64 x >>= f) = r := by
  rw [hxy]
  exact bind_some_eq (checkedI64_eq hy) h

/-! # Floor division -/

/-- `if a >= 0 { a } else { a - k } / b`, where the division is towards zero. -/
def shiftedDiv (a k b : Int) : Option Int :=
  (if 0 ≤ a then some a else checkedI64 (a - k)).map fun n => n.tdiv b

/-- With the right shift this is the division towards negative infinity. -/
theorem shiftedDiv_eq {a k b : Int} (hk : k + 1 = b) (hb : 0 < b) (ha : InI64 (a - k)) :
    shiftedDiv a k b = some (a / b) := by
  unfold shiftedDiv
  split
  case isTrue hnonneg => rw [Option.map_some, Int.tdiv_eq_ediv_of_nonneg hnonneg]
  case isFalse hnegative =>
    have hlow := Int.emod_nonneg a (ne_of_gt hb)
    have hhigh := Int.emod_lt_of_pos a hb
    have hneg : a - k = -(b * -(a / b) + (b - 1 - a % b)) := by
      have hdiv := Int.mul_ediv_add_emod a b
      have hmul : b * -(a / b) = -(b * (a / b)) := Int.mul_neg _ _
      omega
    have hnonneg : 0 ≤ b * -(a / b) + (b - 1 - a % b) := by omega
    have hquotient : (b * -(a / b) + (b - 1 - a % b)) / b = -(a / b) := by
      rw [Int.add_comm, Int.add_mul_ediv_left _ _ (ne_of_gt hb),
        Int.ediv_eq_zero_of_lt (by omega) (by omega), Int.zero_add]
    rw [checkedI64_eq ha, Option.map_some, hneg, Int.neg_tdiv,
      Int.tdiv_eq_ediv_of_nonneg hnonneg, hquotient, Int.neg_neg]

end Wanderust
