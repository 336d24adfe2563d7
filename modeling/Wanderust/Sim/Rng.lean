import Mathlib.Tactic.Linarith
import Mathlib.Tactic.NormNum
import Mathlib.Tactic.Positivity
import Wanderust.Sim.Arith

/-!
# The pseudo-random generator of the simulator

The generator is xorshift64*, on 64-bit words.  In exact arithmetic, a fraction
drawn from it lies in `[0, 1)`, and a number drawn from a range lies in the range.
-/

namespace Wanderust.Sim

inductive Panic where
  | indexOutOfBounds
  | remainderByZero
deriving DecidableEq

abbrev Checked (alpha : Type) := Except Panic alpha

structure Rng where
  state : UInt64

namespace Rng

def new (seed : UInt64) : Rng :=
  { state := (seed ^^^ 0x9E3779B97F4A7C15) ||| 1 }

/-- The state after one draw. -/
def shift (x : UInt64) : UInt64 :=
  let x := x ^^^ (x <<< 13)
  let x := x ^^^ (x >>> 7)
  x ^^^ (x <<< 17)

def nextU64 (r : Rng) : UInt64 × Rng :=
  let x := shift r.state
  (x * 0x2545F4914F6CDD1D, { state := x })

section

variable {F : Type} [Arith F]

/-- A fraction in `[0, 1)`, from the upper 53 bits of a draw. -/
def unit (r : Rng) : F × Rng :=
  (((r.nextU64.1 >>> 11).toNat : F) / ((2 ^ 53 : Nat) : F), r.nextU64.2)

def range (r : Rng) (lo hi : F) : F × Rng :=
  (lo + (hi - lo) * r.unit.1, r.nextU64.2)

end

/-- An index below `n`; the remainder by zero panics. -/
def below (r : Rng) (n : Nat) : Checked (Nat × Rng) :=
  if n = 0 then .error .remainderByZero else .ok (r.nextU64.1.toNat % n, r.nextU64.2)

theorem below_of_pos (r : Rng) {n : Nat} (h : 0 < n) :
    r.below n = .ok (r.nextU64.1.toNat % n, r.nextU64.2) :=
  if_neg (Nat.ne_of_gt h)

/-! # Ranges -/

theorem shiftRight_lt (x : UInt64) : (x >>> 11).toNat < 2 ^ 53 := by
  rw [UInt64.toNat_shiftRight]
  have hx := x.toNat_lt
  have hshift : x.toNat >>> (UInt64.toNat 11 % 64) = x.toNat / 2 ^ 11 :=
    Nat.shiftRight_eq_div_pow _ _
  rw [hshift]
  omega

section

variable {F : Type} [ExactArith F]

theorem unit_nonneg (r : Rng) : 0 ≤ (r.unit.1 : F) := by
  unfold unit
  positivity

theorem unit_lt_one (r : Rng) : (r.unit.1 : F) < 1 := by
  have hlt : (((r.nextU64.1 >>> 11).toNat : Nat) : F) < ((2 ^ 53 : Nat) : F) := by
    exact_mod_cast shiftRight_lt r.nextU64.1
  unfold unit
  rw [div_lt_one (by positivity)]
  exact hlt

theorem range_ge (r : Rng) {lo hi : F} (h : lo < hi) : lo ≤ (r.range lo hi).1 := by
  have hwidth : 0 ≤ hi - lo := by linarith
  have hadd : 0 ≤ (hi - lo) * r.unit.1 := mul_nonneg hwidth (unit_nonneg r)
  unfold range
  linarith

theorem range_lt (r : Rng) {lo hi : F} (h : lo < hi) : (r.range lo hi).1 < hi := by
  have hwidth : 0 < hi - lo := by linarith
  have hadd : (hi - lo) * r.unit.1 < (hi - lo) * 1 :=
    mul_lt_mul_of_pos_left (unit_lt_one r) hwidth
  unfold range
  linarith

end

end Rng

end Wanderust.Sim
