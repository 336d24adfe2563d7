import Wanderust.Sim.Road

/-!
# The road graph

On a well-formed graph the construction succeeds wherever there is an edge, and
from then on the vehicle stays on the road.
-/

namespace Wanderust

open Sim

theorem vehicle_on_road {F : Type} [ExactArith F]
    (fromStr : String -> Except String (Graph F)) (graphJson : String) (seed : F)
    (g : Graph F) (hjson : fromStr graphJson = .ok g) (hg : g.WellFormed) :
    ((exists s, Simulator.build fromStr graphJson seed = .ok (.ok s)) <->
      exists i j, g.Adjacent i j) ∧
    forall s, Simulator.build fromStr graphJson seed = .ok (.ok s) ->
      forall dts : List F, exists s', s.advances dts = .ok s' ∧ OnRoad g s' := by
  rw [build_of_parsed hjson seed]
  constructor
  · exact ofGraph_succeeds_iff hg.length seed
  · intro s hs dts
    exact ((ofGraph_started hs).onRoad hg).advances hg dts

section

attribute [local instance] realArith

def twoNodes : Graph ℝ where
  nodes := [(0, 0), (0, 1)]
  adj := [[1], [0]]

def twoNodesJson : String := "\x7b\"nodes\":[[0,0],[0,1]],\"adj\":[[1],[0]]\x7d"

def parseTwoNodes (graphJson : String) : Except String (Graph ℝ) :=
  if graphJson = twoNodesJson then .ok twoNodes else .error "expected value at line 1 column 1"

theorem adjacent_twoNodes {i j : Nat} :
    twoNodes.Adjacent i j <-> (i = 0 ∧ j = 1) ∨ (i = 1 ∧ j = 0) := by
  constructor
  · intro h
    rcases h with ⟨neigh, hneigh, x, hx, hj⟩
    unfold twoNodes at hneigh
    cases i with
    | zero =>
        cases hneigh
        cases List.mem_singleton.mp hx
        exact Or.inl ⟨rfl, hj.symm⟩
    | succ i =>
        cases i with
        | zero =>
            cases hneigh
            cases List.mem_singleton.mp hx
            exact Or.inr ⟨rfl, hj.symm⟩
        | succ i => cases hneigh
  · intro h
    rcases h with ⟨hi, hj⟩ | ⟨hi, hj⟩
    · rw [hi, hj]
      exact ⟨[1], rfl, 1, List.mem_singleton_self 1, rfl⟩
    · rw [hi, hj]
      exact ⟨[0], rfl, 0, List.mem_singleton_self 0, rfl⟩

theorem wellFormed_twoNodes : twoNodes.WellFormed where
  length := rfl
  inRange := by
    intro i j hij
    rcases adjacent_twoNodes.mp hij with ⟨_, hj⟩ | ⟨_, hj⟩
    · rw [hj]
      exact Nat.one_lt_two
    · rw [hj]
      exact Nat.zero_lt_two
  symmetric := by
    intro i j hij
    rw [adjacent_twoNodes] at hij ⊢
    rcases hij with ⟨hi, hj⟩ | ⟨hi, hj⟩
    · exact Or.inr ⟨hj, hi⟩
    · exact Or.inl ⟨hj, hi⟩

theorem parse_twoNodes : parseTwoNodes twoNodesJson = .ok twoNodes := if_pos rfl

theorem build_twoNodes :
    exists s, Simulator.build parseTwoNodes twoNodesJson 0 = .ok (.ok s) := by
  have hedge : exists i j, twoNodes.Adjacent i j :=
    ⟨0, 1, adjacent_twoNodes.mpr (Or.inl ⟨rfl, rfl⟩)⟩
  rw [build_of_parsed parse_twoNodes 0]
  exact (ofGraph_succeeds_iff wellFormed_twoNodes.length 0).mpr hedge

theorem vehicle_on_road_twoNodes :
    exists s, Simulator.build parseTwoNodes twoNodesJson 0 = .ok (.ok s) ∧
      exists s', s.advances [1, 30] = .ok s' ∧ OnRoad twoNodes s' := by
  have hroad := vehicle_on_road parseTwoNodes twoNodesJson 0 twoNodes (if_pos rfl)
    wellFormed_twoNodes
  rcases hroad.1.mpr ⟨0, 1, adjacent_twoNodes.mpr (Or.inl ⟨rfl, rfl⟩)⟩ with ⟨s, hs⟩
  exact ⟨s, hs, hroad.2 s hs [1, 30]⟩

end

end Wanderust
