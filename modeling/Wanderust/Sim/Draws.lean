import Wanderust.Sim.Rng
import Wanderust.Bits.XorShift

/-!
# The draws of the generator

Both the step from one state to the next and the step from a state to the word
that it draws are bijections on the 64-bit words.  They keep zero apart from the
other words, and a generator never starts in zero.
-/

namespace Wanderust.Sim.Rng

open Bits

theorem toBitVec_shift (x : UInt64) :
    (shift x).toBitVec = xorShiftLeft 17 (xorShiftRight 7 (xorShiftLeft 13 x.toBitVec)) := rfl

theorem shift_bijective : Function.Bijective shift := by
  apply Finite.injective_iff_bijective.mp
  intro x y hxy
  have hwords := congrArg UInt64.toBitVec hxy
  rw [toBitVec_shift, toBitVec_shift] at hwords
  have hthird := (xorShiftLeft_bijective (by decide)).injective hwords
  have hsecond := (xorShiftRight_bijective (by decide)).injective hthird
  have hfirst := (xorShiftLeft_bijective (by decide)).injective hsecond
  exact UInt64.toBitVec_inj.mp hfirst

def drawn (x : UInt64) : UInt64 := ({ state := x } : Rng).nextU64.1

theorem toBitVec_drawn (x : UInt64) :
    (drawn x).toBitVec = (shift x).toBitVec * 0x2545F4914F6CDD1D#64 := rfl

theorem drawn_bijective : Function.Bijective drawn := by
  apply Finite.injective_iff_bijective.mp
  intro x y hxy
  have hwords := congrArg UInt64.toBitVec hxy
  rw [toBitVec_drawn, toBitVec_drawn] at hwords
  have hodd : Odd (0x2545F4914F6CDD1D#64).toNat := by decide
  have hshift := (mul_odd_bijective hodd).injective hwords
  exact shift_bijective.injective (UInt64.toBitVec_inj.mp hshift)

theorem shift_ne_zero {x : UInt64} (hx : x ≠ 0) : shift x ≠ 0 := by
  intro h
  have hzero : shift x = shift 0 := h
  exact hx (shift_bijective.injective hzero)

theorem drawn_ne_zero {x : UInt64} (hx : x ≠ 0) : drawn x ≠ 0 := by
  intro h
  have hzero : drawn x = drawn 0 := h
  exact hx (drawn_bijective.injective hzero)

theorem exists_drawn {word : UInt64} (hword : word ≠ 0) :
    exists r : Rng, r.state ≠ 0 ∧ r.nextU64.1 = word := by
  rcases drawn_bijective.surjective word with ⟨x, hx⟩
  refine ⟨{ state := x }, ?_, hx⟩
  intro hstate
  have hzero : x = 0 := hstate
  rw [hzero] at hx
  exact hword hx.symm

theorem exists_below {n i : Nat} (hi : i < n) (hn : n < 2 ^ 64) :
    exists r : Rng, r.state ≠ 0 ∧ r.below n = .ok (i, r.nextU64.2) := by
  -- zero is no word that is drawn, so the index zero is drawn as `n`
  have hword : exists k, 0 < k ∧ k < 2 ^ 64 ∧ k % n = i := by
    rcases Nat.eq_zero_or_pos i with rfl | hpos
    · exact ⟨n, hi, hn, Nat.mod_self n⟩
    · exact ⟨i, hpos, Nat.lt_trans hi hn, Nat.mod_eq_of_lt hi⟩
  rcases hword with ⟨k, hpos, hk, hmod⟩
  have htoNat : (UInt64.ofNat k).toNat = k := UInt64.toNat_ofNat_of_lt' hk
  have hne : UInt64.ofNat k ≠ 0 := by
    intro h
    rw [h] at htoNat
    exact Nat.ne_of_gt hpos htoNat.symm
  rcases exists_drawn hne with ⟨r, hr, hdraw⟩
  refine ⟨r, hr, ?_⟩
  rw [below_of_pos r (Nat.zero_lt_of_lt hi), hdraw, htoNat, hmod]

/-! # Runs of draws -/

def after (r : Rng) : Nat -> Rng
  | 0 => r
  | n + 1 => (r.after n).nextU64.2

/-- The lowest bit of a new state is set: `^` binds tighter than `|`. -/
theorem new_state_ne_zero (seed : UInt64) : (new seed).state ≠ 0 := by
  intro h
  have hbit := congrArg (fun x : UInt64 => x.toBitVec.getLsbD 0) h
  simp [new] at hbit

theorem after_state_ne_zero {r : Rng} (hr : r.state ≠ 0) (n : Nat) : (r.after n).state ≠ 0 := by
  induction n with
  | zero => exact hr
  | succ n ih => exact shift_ne_zero ih

theorem after_injective (n : Nat) {r r' : Rng} (h : r.after n = r'.after n) : r = r' := by
  induction n with
  | zero => exact h
  | succ n ih =>
      apply ih
      have hshift : shift (r.after n).state = shift (r'.after n).state := congrArg Rng.state h
      exact congrArg Rng.mk (shift_bijective.injective hshift)

end Wanderust.Sim.Rng
