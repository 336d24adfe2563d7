import Wanderust.Sim.Draws

/-!
# The random generator

The generator of the simulator never degenerates: no seed leads to the state
zero, in which every draw would be zero, and no two states are ever merged.
-/

namespace Wanderust

open Sim

theorem rng_never_degenerates {F : Type} [ExactArith F] :
    (forall (seed : UInt64) (n : Nat),
      ((Rng.new seed).after n).state ≠ 0 ∧ ((Rng.new seed).after n).nextU64.1 ≠ 0) ∧
    (Function.Bijective fun x : UInt64 => ({ state := x } : Rng).nextU64.2.state) ∧
    (forall (n : Nat) (r r' : Rng), r.after n = r'.after n -> r = r') ∧
    (forall r : Rng, (exists k : Nat, k < 2 ^ 53 ∧ (r.unit.1 : F) = (k : F) / (2 ^ 53 : Nat)) ∧
      0 ≤ (r.unit.1 : F) ∧ (r.unit.1 : F) < 1) ∧
    forall (r : Rng) (lo hi : F), lo < hi -> lo ≤ (r.range lo hi).1 ∧ (r.range lo hi).1 < hi := by
  refine ⟨?_, Rng.shift_bijective, fun n _ _ => Rng.after_injective n, ?_, ?_⟩
  · intro seed n
    have hstate := Rng.after_state_ne_zero (Rng.new_state_ne_zero seed) n
    exact ⟨hstate, Rng.drawn_ne_zero hstate⟩
  · intro r
    exact ⟨⟨_, Rng.shiftRight_lt r.nextU64.1, rfl⟩, Rng.unit_nonneg r, Rng.unit_lt_one r⟩
  · intro r lo hi hlt
    exact ⟨Rng.range_ge r hlt, Rng.range_lt r hlt⟩

section

attribute [local instance] realArith

theorem rng_never_degenerates_speed :
    30 ≤ (((Rng.new 0).after 2).range (30 : ℝ) 70).1 ∧
      (((Rng.new 0).after 2).range (30 : ℝ) 70).1 < 70 :=
  (rng_never_degenerates (F := ℝ)).2.2.2.2 ((Rng.new 0).after 2) 30 70 (by norm_num)

end

end Wanderust
