import Wanderust.Sim.Graph

/-!
# Functions that may panic

How a sequence of such functions ends, and the reads of the graph among them.
-/

namespace Wanderust.Sim

open Rng

variable {F : Type} [Arith F]

/-! # Sequences of checked functions -/

theorem bind_ok {alpha beta : Type} {x : Checked alpha} {f : alpha -> Checked beta} {a : alpha}
    (h : x = .ok a) : (x >>= f) = f a := by
  rw [h]
  rfl

theorem bind_ok_iff {alpha beta : Type} {x : Checked alpha} {f : alpha -> Checked beta}
    {b : beta} : (x >>= f) = .ok b <-> exists a, x = .ok a ∧ f a = .ok b := by
  cases x with
  | ok a =>
      constructor
      · intro h
        exact ⟨a, rfl, h⟩
      · intro h
        rcases h with ⟨a', ha, hb⟩
        cases ha
        exact hb
  | error e =>
      constructor
      · intro h
        cases h
      · intro h
        rcases h with ⟨a, ha, _⟩
        cases ha

def NoRemainderByZero {alpha : Type} (x : Checked alpha) : Prop := x ≠ .error .remainderByZero

theorem noRemainder_ok {alpha : Type} (a : alpha) : NoRemainderByZero (.ok a) := by
  intro h
  cases h

theorem noRemainder_bind {alpha beta : Type} {x : Checked alpha} {f : alpha -> Checked beta}
    (hx : NoRemainderByZero x) (hf : forall a, x = .ok a -> NoRemainderByZero (f a)) :
    NoRemainderByZero (x >>= f) := by
  cases hcase : x with
  | ok a => exact hf a hcase
  | error e =>
      intro h
      apply hx
      rw [hcase]
      cases h
      rfl

theorem noRemainder_below (r : Rng) {n : Nat} (h : 0 < n) : NoRemainderByZero (r.below n) := by
  rw [below_of_pos r h]
  exact noRemainder_ok _

omit [Arith F] in
theorem noRemainder_coord (g : Graph F) (i : Nat) : NoRemainderByZero (g.coord i) := by
  unfold Graph.coord
  cases g.nodes[i]? with
  | some n => exact noRemainder_ok n
  | none =>
      intro h
      cases h

omit [Arith F] in
theorem noRemainder_neighbours (g : Graph F) (i : Nat) :
    NoRemainderByZero (g.neighbours i) := by
  unfold Graph.neighbours
  cases g.adj[i]? with
  | some neigh => exact noRemainder_ok neigh
  | none =>
      intro h
      cases h

theorem noRemainder_segLenM (g : Graph F) (i j : Nat) : NoRemainderByZero (g.segLenM i j) := by
  apply noRemainder_bind (noRemainder_coord g i)
  intro a _
  apply noRemainder_bind (noRemainder_coord g j)
  intro b _
  exact noRemainder_ok _

end Wanderust.Sim
