import Mathlib.Data.FinEnum
import Mathlib.Data.Nat.Prime.Basic
import Mathlib.Data.Nat.ModEq

/-!
# Invertible operations on words

Words of any width.  A xor-shift is linear for `xor`, and so is injective when
nothing but zero is mapped to zero; the multiplication by an odd word loses
nothing either.  On the finite set of all words both are bijective.
-/

namespace Bits

variable {w k : Nat}

/-! # Linear maps -/

/-- The map commutes with `xor`. -/
def Linear (f : BitVec w -> BitVec w) : Prop := forall x y, f (x ^^^ y) = f x ^^^ f y

theorem Linear.injective {f : BitVec w -> BitVec w} (h : Linear f)
    (hkernel : forall x, f x = 0 -> x = 0) : Function.Injective f := by
  intro x y hxy
  have hzero : f (x ^^^ y) = 0 := by
    rw [h x y, hxy]
    exact BitVec.xor_self
  exact BitVec.xor_eq_zero_iff.mp (hkernel _ hzero)

/-- What a map without a fixed point but zero adds to the identity loses nothing. -/
theorem Linear.xor_self_injective {f : BitVec w -> BitVec w} (h : Linear f)
    (hfixed : forall x, f x = x -> x = 0) : Function.Injective fun x => x ^^^ f x := by
  have hlinear : Linear fun x => x ^^^ f x := by
    intro x y
    simp only [h x y]
    ac_rfl
  apply hlinear.injective
  intro x hx
  exact hfixed x (BitVec.xor_eq_zero_iff.mp hx).symm

/-! # Shifts -/

theorem linear_shiftLeft (k : Nat) : Linear fun x : BitVec w => x <<< k :=
  fun x y => BitVec.shiftLeft_xor_distrib x y k

theorem linear_shiftRight (k : Nat) : Linear fun x : BitVec w => x >>> k :=
  fun x y => BitVec.ushiftRight_xor_distrib x y k

theorem eq_zero_of_shiftLeft_eq (hk : 0 < k) {x : BitVec w} (h : x <<< k = x) : x = 0 := by
  have hbits : forall i, x.getLsbD i = false := by
    intro i
    induction i using Nat.strong_induction_on with
    | _ i ih =>
        rw [← h, BitVec.getLsbD_shiftLeft]
        by_cases hlow : i < k
        · simp [hlow]
        · rw [ih (i - k) (by omega), Bool.and_false]
  apply BitVec.eq_of_getLsbD_eq
  intro i _
  rw [hbits i]
  exact BitVec.getLsbD_zero.symm

theorem eq_zero_of_shiftRight_eq (hk : 0 < k) {x : BitVec w} (h : x >>> k = x) : x = 0 := by
  have hdiv : x.toNat / 2 ^ k = x.toNat := by
    rw [← Nat.shiftRight_eq_div_pow, ← BitVec.toNat_ushiftRight, h]
  apply BitVec.eq_of_toNat_eq
  by_contra hne
  have hlt := Nat.div_lt_self (Nat.pos_of_ne_zero hne) (Nat.one_lt_two_pow (Nat.ne_of_gt hk))
  rw [hdiv] at hlt
  exact Nat.lt_irrefl _ hlt

def xorShiftLeft (k : Nat) (x : BitVec w) : BitVec w := x ^^^ (x <<< k)

def xorShiftRight (k : Nat) (x : BitVec w) : BitVec w := x ^^^ (x >>> k)

theorem xorShiftLeft_bijective (hk : 0 < k) :
    Function.Bijective (xorShiftLeft k : BitVec w -> BitVec w) :=
  Finite.injective_iff_bijective.mp
    ((linear_shiftLeft k).xor_self_injective fun _ => eq_zero_of_shiftLeft_eq hk)

theorem xorShiftRight_bijective (hk : 0 < k) :
    Function.Bijective (xorShiftRight k : BitVec w -> BitVec w) :=
  Finite.injective_iff_bijective.mp
    ((linear_shiftRight k).xor_self_injective fun _ => eq_zero_of_shiftRight_eq hk)

/-! # Odd multipliers -/

theorem mul_odd_bijective {m : BitVec w} (hodd : Odd m.toNat) :
    Function.Bijective fun x : BitVec w => x * m := by
  apply Finite.injective_iff_bijective.mp
  intro x y hxy
  have hmod : x.toNat * m.toNat ≡ y.toNat * m.toNat [MOD 2 ^ w] := by
    have htoNat := congrArg BitVec.toNat hxy
    simp only [BitVec.toNat_mul] at htoNat
    exact htoNat
  have hcoprime : Nat.gcd (2 ^ w) m.toNat = 1 :=
    Nat.Coprime.pow_left w (Nat.coprime_two_left.mpr hodd)
  have hcancel := Nat.ModEq.cancel_right_of_coprime hcoprime hmod
  apply BitVec.eq_of_toNat_eq
  exact hcancel.eq_of_lt_of_lt x.isLt y.isLt

end Bits
