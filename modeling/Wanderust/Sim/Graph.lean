import Wanderust.Sim.Rng

/-!
# The road graph of the simulator

A graph as the JSON file gives it: the coordinates of the nodes, and for each
node the indices of its neighbours.  Every access to one of the lists is an
indexing that panics out of bounds.
-/

namespace Wanderust.Sim

structure Graph (F : Type) where
  nodes : List (F × F)
  adj : List (List UInt32)

variable {F : Type}

namespace Graph

def coord (g : Graph F) (i : Nat) : Checked (F × F) :=
  match g.nodes[i]? with
  | some n => .ok n
  | none => .error .indexOutOfBounds

/-- `adj[i]`. -/
def neighbours (g : Graph F) (i : Nat) : Checked (List UInt32) :=
  match g.adj[i]? with
  | some neigh => .ok neigh
  | none => .error .indexOutOfBounds

def segLenM [Arith F] (g : Graph F) (a b : Nat) : Checked F := do
  let (alat, alon) ← g.coord a
  let (blat, blon) ← g.coord b
  return Arith.haversineM alat alon blat blon

/-- A node that does not have exactly two neighbours. -/
def isIntersection (g : Graph F) (i : Nat) : Checked Bool := do
  let neigh ← g.neighbours i
  return neigh.length != 2

/-! # Indices in range -/

theorem coord_eq {g : Graph F} {i : Nat} {n : F × F} (h : g.nodes[i]? = some n) :
    g.coord i = .ok n := by
  rw [coord, h]

theorem neighbours_eq {g : Graph F} {i : Nat} {neigh : List UInt32}
    (h : g.adj[i]? = some neigh) : g.neighbours i = .ok neigh := by
  rw [neighbours, h]

theorem coord_ok {g : Graph F} {i : Nat} {n : F × F} (h : g.coord i = .ok n) :
    g.nodes[i]? = some n := by
  unfold Graph.coord at h
  cases hnode : g.nodes[i]? with
  | none =>
      rw [hnode] at h
      cases h
  | some n' =>
      rw [hnode] at h
      cases h
      rfl

theorem neighbours_ok {g : Graph F} {i : Nat} {neigh : List UInt32}
    (h : g.neighbours i = .ok neigh) :
    g.adj[i]? = some neigh := by
  unfold Graph.neighbours at h
  cases hlist : g.adj[i]? with
  | none =>
      rw [hlist] at h
      cases h
  | some neigh' =>
      rw [hlist] at h
      cases h
      rfl

theorem segLenM_eq [Arith F] {g : Graph F} {i j : Nat} {a b : F × F}
    (ha : g.nodes[i]? = some a) (hb : g.nodes[j]? = some b) :
    g.segLenM i j = .ok (Arith.haversineM a.1 a.2 b.1 b.2) := by
  rw [segLenM, coord_eq ha, coord_eq hb]
  rfl

theorem isIntersection_eq {g : Graph F} {i : Nat} {neigh : List UInt32}
    (h : g.adj[i]? = some neigh) : g.isIntersection i = .ok (neigh.length != 2) := by
  rw [isIntersection, neighbours_eq h]
  rfl

/-! # Edges -/

def Adjacent (g : Graph F) (i j : Nat) : Prop :=
  exists neigh, g.adj[i]? = some neigh ∧ exists x, x ∈ neigh ∧ x.toNat = j

/-- Every node has a list, every entry is the index of a node, and every edge goes both ways. -/
structure WellFormed (g : Graph F) : Prop where
  length : g.adj.length = g.nodes.length
  inRange : forall i j, g.Adjacent i j -> j < g.nodes.length
  symmetric : forall i j, g.Adjacent i j -> g.Adjacent j i

/-- A set of indices that has its coordinates, its lists, and all that the lists mention. -/
structure Closed (g : Graph F) (inside : Nat -> Prop) : Prop where
  node : forall i, inside i -> i < g.nodes.length
  list : forall i, inside i -> i < g.adj.length
  step : forall i j, inside i -> g.Adjacent i j -> inside j

theorem Adjacent.lt_length {g : Graph F} {i j : Nat} (h : g.Adjacent i j) :
    i < g.adj.length := by
  rcases h with ⟨neigh, hneigh, _⟩
  exact (List.getElem?_eq_some_iff.mp hneigh).1

end Graph

end Wanderust.Sim
