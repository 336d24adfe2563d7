import Wanderust.Sim.Checked
import Wanderust.Sim.Draws
import Wanderust.Sim.Simulator

/-!
# The choice of the next edge

`pick_next` goes through the neighbours twice: it counts those other than the
node to avoid, and then counts down to the one that has been drawn.  Both
passes leave out the same entries, so the countdown always finds its neighbour.
-/

namespace Wanderust.Sim

open Rng Simulator

variable {F : Type} {s : Simulator F} {node avoid : Nat} {neigh : List UInt32}

/-- The neighbours that `pick_next` chooses from. -/
def others (avoid : Nat) (neigh : List UInt32) : List UInt32 :=
  neigh.filter fun x => x.toNat != avoid

theorem mem_others {x : UInt32} : x ∈ others avoid neigh <-> x ∈ neigh ∧ x.toNat ≠ avoid := by
  unfold others
  rw [List.mem_filter, bne_iff_ne]

theorem others_eq_nil_iff :
    others avoid neigh = [] <-> forall x, x ∈ neigh -> x.toNat = avoid := by
  rw [List.eq_nil_iff_forall_not_mem]
  constructor
  · intro h x hx
    by_contra hne
    exact h x (mem_others.mpr ⟨hx, hne⟩)
  · intro h x hx
    exact (mem_others.mp hx).2 (h x (mem_others.mp hx).1)

theorem others_cons_of_eq {x : UInt32} (rest : List UInt32) (hx : x.toNat = avoid) :
    others avoid (x :: rest) = others avoid rest :=
  List.filter_cons_of_neg (by simp [hx])

theorem others_cons_of_ne {x : UInt32} (rest : List UInt32) (hx : x.toNat ≠ avoid) :
    others avoid (x :: rest) = x :: others avoid rest :=
  List.filter_cons_of_pos (by simp [hx])

/-! # The countdown -/

inductive LoopEnd where
  /-- A neighbour is returned inside the loop. -/
  | found (x : Nat)
  /-- `k` is decremented at zero. -/
  | underflow
  /-- The list ends, and the `return` after the loop is reached. -/
  | exhausted
deriving DecidableEq

/-- The loop of `pick_next`, with every way in which it could end. -/
def pickLoop (avoid : Nat) : Nat -> List UInt32 -> LoopEnd
  | _, [] => .exhausted
  | k, x :: rest =>
      if x.toNat = avoid then pickLoop avoid k rest
      else if k = 0 then .found x.toNat
      else if k < 1 then .underflow
      else pickLoop avoid (k - 1) rest

def LoopEnd.returned (avoid : Nat) : LoopEnd -> Nat
  | .found x => x
  | .underflow => avoid
  | .exhausted => avoid

theorem nthOther_eq_pickLoop (avoid k : Nat) (neigh : List UInt32) :
    nthOther avoid k neigh = (pickLoop avoid k neigh).returned avoid := by
  induction neigh generalizing k with
  | nil => rfl
  | cons x rest ih =>
      unfold nthOther pickLoop
      by_cases hx : x.toNat = avoid
      · rw [if_pos hx, if_pos hx]
        exact ih k
      · rw [if_neg hx, if_neg hx]
        cases k with
        | zero => rfl
        | succ k =>
            rw [if_neg (Nat.succ_ne_zero k), if_neg (Nat.succ_ne_zero k),
              if_neg (Nat.not_lt.mpr (Nat.le_add_left 1 k))]
            exact ih k

/-- The countdown over the list is the position among the others. -/
theorem pickLoop_found {k : Nat} {x : UInt32} (h : (others avoid neigh)[k]? = some x) :
    pickLoop avoid k neigh = .found x.toNat := by
  induction neigh generalizing k with
  | nil => cases h
  | cons y rest ih =>
      unfold pickLoop
      by_cases hy : y.toNat = avoid
      · rw [others_cons_of_eq rest hy] at h
        rw [if_pos hy]
        exact ih h
      · rw [others_cons_of_ne rest hy] at h
        rw [if_neg hy]
        cases k with
        | zero =>
            cases h
            rfl
        | succ k =>
            rw [if_neg (Nat.succ_ne_zero k), if_neg (Nat.not_lt.mpr (Nat.le_add_left 1 k))]
            exact ih h

/-! # The choice -/

theorem pickNext_deadEnd (hneigh : s.graph.adj[node]? = some neigh)
    (hnone : others avoid neigh = []) : s.pickNext node avoid = .ok (avoid, s) := by
  unfold Simulator.pickNext
  rw [bind_ok (Graph.neighbours_eq hneigh)]
  show (if (others avoid neigh).length = 0 then _ else _) = _
  rw [hnone]
  rfl

/-- The draw is a position among the others, and the neighbour there is returned. -/
theorem pickNext_other (hneigh : s.graph.adj[node]? = some neigh)
    (hsome : others avoid neigh ≠ []) :
    exists x, (others avoid neigh)[s.rng.nextU64.1.toNat % (others avoid neigh).length]? = some x ∧
      s.pickNext node avoid = .ok (x.toNat, { s with rng := s.rng.nextU64.2 }) := by
  have hpos : 0 < (others avoid neigh).length := List.length_pos_of_ne_nil hsome
  have hlt := Nat.mod_lt s.rng.nextU64.1.toNat hpos
  have hget := List.getElem?_eq_getElem hlt
  have hfound : nthOther avoid (s.rng.nextU64.1.toNat % (others avoid neigh).length) neigh =
      (others avoid neigh)[s.rng.nextU64.1.toNat % (others avoid neigh).length].toNat := by
    rw [nthOther_eq_pickLoop, pickLoop_found hget]
    rfl
  refine ⟨_, hget, ?_⟩
  rw [← hfound]
  unfold Simulator.pickNext
  rw [bind_ok (Graph.neighbours_eq hneigh)]
  show (if (others avoid neigh).length = 0 then _ else _) = _
  rw [if_neg (Nat.ne_of_gt hpos)]
  show (s.rng.below (others avoid neigh).length >>= _) = _
  rw [bind_ok (below_of_pos s.rng hpos)]
  rfl

/-- From `avoid` the vehicle goes on behind `node`, or back where there is no other way. -/
structure GoesOn (g : Graph F) (avoid node next : Nat) : Prop where
  onward : next = avoid ∨ g.Adjacent node next
  back : next = avoid -> forall x, g.Adjacent node x -> x = avoid

theorem adjacent_eq_avoid {g : Graph F} (hneigh : g.adj[node]? = some neigh)
    (hnone : others avoid neigh = []) {x : Nat} (hx : g.Adjacent node x) : x = avoid := by
  rcases hx with ⟨neigh', hneigh', y, hy, rfl⟩
  rw [hneigh] at hneigh'
  cases hneigh'
  exact others_eq_nil_iff.mp hnone y hy

theorem pickNext_ok (hneigh : s.graph.adj[node]? = some neigh) :
    exists next rng, s.pickNext node avoid = .ok (next, { s with rng }) ∧
      GoesOn s.graph avoid node next := by
  by_cases hnone : others avoid neigh = []
  · exact ⟨avoid, s.rng, pickNext_deadEnd hneigh hnone, Or.inl rfl,
      fun _ _ => adjacent_eq_avoid hneigh hnone⟩
  · rcases pickNext_other hneigh hnone with ⟨x, hx, hpick⟩
    have hmem := mem_others.mp (List.mem_of_getElem? hx)
    exact ⟨x.toNat, _, hpick, Or.inr ⟨neigh, hneigh, x, hmem.1, rfl⟩,
      fun hback => absurd hback hmem.2⟩

theorem noRemainder_pickNext (s : Simulator F) (node avoid : Nat) :
    NoRemainderByZero (s.pickNext node avoid) := by
  cases hneigh : s.graph.adj[node]? with
  | none =>
      unfold Simulator.pickNext
      apply noRemainder_bind (noRemainder_neighbours _ _)
      intro neigh hneigh'
      rw [Graph.neighbours_ok hneigh'] at hneigh
      cases hneigh
  | some neigh =>
      rcases @pickNext_ok F s node avoid neigh hneigh with ⟨next, rng, hpick, _⟩
      rw [hpick]
      exact noRemainder_ok _

end Wanderust.Sim
