import Wanderust.Sim.Graph
import Wanderust.Tools.ExportRules

/-!
# The exported graph

The exporter succeeds on every Overpass answer.  Its graph has the nodes in use
and exactly the edges of the ways, in the form that the simulator relies on.
-/

namespace Wanderust.Tools

open Graphs

variable {Coord : Type} {i j : Nat}

namespace RoadGraph

def Lists (g : RoadGraph Coord) (j i : Nat) : Prop :=
  exists row, g.adj[j]? = some row ∧ i ∈ row

structure WellFormed (g : RoadGraph Coord) : Prop where
  length : g.nodes.length = g.adj.length
  inRange : forall i j, g.Lists j i -> i < g.nodes.length
  loopless : forall i, ¬ g.Lists i i
  increasing : forall row, row ∈ g.adj -> row.Pairwise (fun a b => a < b)
  symmetric : forall i j, g.Lists j i -> g.Lists i j

end RoadGraph

def OnSomeWay (osm : Osm Coord) (id : Int) : Prop :=
  exists w, .way (some w) ∈ osm.elements ∧ id ∈ w

def Follows (osm : Osm Coord) (a b : Int) : Prop :=
  exists w, .way (some w) ∈ osm.elements ∧ exists k, w[k]? = some a ∧ w[k + 1]? = some b

/-! # Sorted rows -/

variable {nodes : List (Coord × Coord)} {rows : List (Finset Nat)}

def ofRows (nodes : List (Coord × Coord)) (rows : List (Finset Nat)) : RoadGraph Coord :=
  { nodes, adj := rows.map fun s => s.sort }

theorem lists_ofRows : (ofRows nodes rows).Lists j i <-> Linked rows j i := by
  unfold RoadGraph.Lists Linked ofRows
  dsimp only
  rw [List.getElem?_map]
  constructor
  · intro h
    rcases h with ⟨row, hrow, hi⟩
    rw [Option.map_eq_some_iff] at hrow
    rcases hrow with ⟨s, hs, rfl⟩
    exact ⟨s, hs, (Finset.mem_sort _).mp hi⟩
  · intro h
    rcases h with ⟨s, hs, hi⟩
    rw [hs]
    exact ⟨s.sort, rfl, (Finset.mem_sort _).mpr hi⟩

theorem increasing_ofRows {row : List Nat} (h : row ∈ (ofRows nodes rows).adj) :
    row.Pairwise (fun a b => a < b) := by
  rcases List.mem_map.mp h with ⟨s, _, rfl⟩
  exact (Finset.sortedLT_sort s).pairwise

theorem wellFormed_ofRows {edges : List (Nat × Nat)} (h : InRange nodes.length edges)
    (hne : forall i, (i, i) ∉ edges) :
    (ofRows nodes (ofEdges nodes.length edges)).WellFormed where
  length := by
    show nodes.length = ((ofEdges nodes.length edges).map _).length
    rw [List.length_map, length_ofEdges]
  inRange i j hij := by
    rw [lists_ofRows, linked_ofEdges h] at hij
    rcases hij with hji | hij
    · exact (h _ hji).2
    · exact (h _ hij).1
  loopless i hii := by
    rw [lists_ofRows, linked_ofEdges h, or_self] at hii
    exact hne i hii
  increasing row hrow := increasing_ofRows hrow
  symmetric i j hij := by
    rw [lists_ofRows] at hij ⊢
    exact hij.symm h

/-! # The exporter -/

theorem onSomeWay_iff (osm : Osm Coord) (id : Int) :
    OnSomeWay osm id <-> exists w, w ∈ (readElements osm).2 ∧ id ∈ w := by
  unfold OnSomeWay
  constructor
  · intro h
    rcases h with ⟨w, hw, hid⟩
    exact ⟨w, (mem_ways osm w).mpr hw, hid⟩
  · intro h
    rcases h with ⟨w, hw, hid⟩
    exact ⟨w, (mem_ways osm w).mp hw, hid⟩

theorem follows_iff (osm : Osm Coord) (a b : Int) :
    Follows osm a b <->
      exists w, w ∈ (readElements osm).2 ∧ exists k, w[k]? = some a ∧ w[k + 1]? = some b := by
  unfold Follows
  constructor
  · intro h
    rcases h with ⟨w, hw, hk⟩
    exact ⟨w, (mem_ways osm w).mpr hw, hk⟩
  · intro h
    rcases h with ⟨w, hw, hk⟩
    exact ⟨w, (mem_ways osm w).mp hw, hk⟩

theorem exported_graph (osm : Osm Coord) :
    exists g ids, buildGraph osm = .ok g ∧ g.WellFormed ∧
      (ids.Nodup ∧
        (forall id, id ∈ ids <-> OnSomeWay osm id ∧ exists c, HasCoords osm.elements id c) ∧
        List.Forall₂ (HasCoords osm.elements) ids g.nodes) ∧
      forall i j, g.Lists j i <->
        i ≠ j ∧ exists a b, ids[i]? = some a ∧ ids[j]? = some b ∧
          (Follows osm a b ∨ Follows osm b a) := by
  rcases buildGraph_eq osm with ⟨nodes, hok, hnodes⟩
  have hused := usedNodes_nodup (readElements osm).1 (readElements osm).2
  have hrange := exportedEdges_inRange hused (readElements osm).2
  have hedge (i j : Nat) := @mem_exportedEdges _ hused (readElements osm).2 i j
  rw [hnodes.length_eq] at hrange
  have hloop : forall i, (i, i) ∉ exportedEdges _ _ := fun i hmem =>
    ((hedge i i).mp hmem).1 rfl
  refine ⟨_, usedNodes (readElements osm).1 (readElements osm).2, hok,
    wellFormed_ofRows hrange hloop, ⟨hused, ?_, ?_⟩, ?_⟩
  · intro id
    rw [mem_usedNodes, onSomeWay_iff]
    exact and_congr_right fun _ => exists_congr fun c => lookup_coords osm id c
  · exact hnodes.imp fun id c => (lookup_coords osm id c).mp
  · intro i j
    show (ofRows _ _).Lists j i <-> _
    rw [lists_ofRows, linked_ofEdges hrange, hedge, hedge]
    constructor
    · intro h
      rcases h with ⟨hne, b, a, hb, ha, hfollows⟩ | ⟨hne, a, b, ha, hb, hfollows⟩
      · exact ⟨hne.symm, a, b, ha, hb, Or.inr ((follows_iff osm b a).mpr hfollows)⟩
      · exact ⟨hne, a, b, ha, hb, Or.inl ((follows_iff osm a b).mpr hfollows)⟩
    · intro h
      rcases h with ⟨hne, a, b, ha, hb, hfollows | hfollows⟩
      · exact Or.inr ⟨hne, a, b, ha, hb, (follows_iff osm a b).mp hfollows⟩
      · exact Or.inl ⟨hne.symm, b, a, hb, ha, (follows_iff osm b a).mp hfollows⟩

/-! # The graph of the simulator -/

/-- The graph as the simulator reads it, with indices of 32 bits. -/
def RoadGraph.toSim (g : RoadGraph Coord) : Sim.Graph Coord where
  nodes := g.nodes
  adj := g.adj.map fun row => row.map UInt32.ofNat

theorem RoadGraph.WellFormed.adjacent_iff {g : RoadGraph Coord} (h : g.WellFormed)
    (hsize : g.nodes.length ≤ 2 ^ 32) : g.toSim.Adjacent i j <-> g.Lists i j := by
  have hcast : forall row, g.adj[i]? = some row -> forall x, x ∈ row ->
      (UInt32.ofNat x).toNat = x := by
    intro row hrow x hx
    have hlt := h.inRange x i ⟨row, hrow, hx⟩
    rw [UInt32.toNat_ofNat']
    exact Nat.mod_eq_of_lt (lt_of_lt_of_le hlt hsize)
  unfold Sim.Graph.Adjacent RoadGraph.Lists RoadGraph.toSim
  dsimp only
  rw [List.getElem?_map]
  constructor
  · intro hmem
    rcases hmem with ⟨neigh, hneigh, x, hx, rfl⟩
    rcases Option.map_eq_some_iff.mp hneigh with ⟨row, hrow, rfl⟩
    rcases List.mem_map.mp hx with ⟨k, hk, rfl⟩
    rw [hcast row hrow k hk]
    exact ⟨row, hrow, hk⟩
  · intro hmem
    rcases hmem with ⟨row, hrow, hj⟩
    rw [hrow]
    exact ⟨_, rfl, UInt32.ofNat j, List.mem_map_of_mem hj, hcast row hrow j hj⟩

/-- What the simulator assumes of its graph holds of the exported one. -/
theorem RoadGraph.WellFormed.toSim {g : RoadGraph Coord} (h : g.WellFormed)
    (hsize : g.nodes.length ≤ 2 ^ 32) : g.toSim.WellFormed where
  length := by
    show (g.adj.map _).length = g.nodes.length
    rw [List.length_map, h.length]
  inRange i j hij := h.inRange j i ((h.adjacent_iff hsize).mp hij)
  symmetric i j hij := by
    rw [h.adjacent_iff hsize] at hij ⊢
    exact h.symmetric j i hij

/-! # The roads of the exported graph -/

theorem wellFormed_of_buildGraph {osm : Osm Coord} {g : RoadGraph Coord}
    (h : buildGraph osm = .ok g) : g.WellFormed := by
  rcases buildGraph_eq osm with ⟨nodes, hok, hnodes⟩
  cases h.symm.trans hok
  have hused := usedNodes_nodup (readElements osm).1 (readElements osm).2
  have hrange := exportedEdges_inRange hused (readElements osm).2
  rw [hnodes.length_eq] at hrange
  exact wellFormed_ofRows hrange fun i hmem => ((mem_exportedEdges hused).mp hmem).1 rfl

theorem road_of_lists {osm : Osm Coord} {g : RoadGraph Coord} (h : buildGraph osm = .ok g)
    (hij : g.Lists i j) :
    exists a b ca cb, g.nodes[i]? = some ca ∧ g.nodes[j]? = some cb ∧
      HasCoords osm.elements a ca ∧ HasCoords osm.elements b cb ∧
      (Follows osm a b ∨ Follows osm b a) := by
  rcases buildGraph_eq osm with ⟨nodes, hok, hnodes⟩
  cases h.symm.trans hok
  have hused := usedNodes_nodup (readElements osm).1 (readElements osm).2
  have hrange := exportedEdges_inRange hused (readElements osm).2
  rw [hnodes.length_eq] at hrange
  have hcoords (k : Nat) (id : Int)
      (hk : (usedNodes (readElements osm).1 (readElements osm).2)[k]? = some id) :
      exists c, nodes[k]? = some c ∧ HasCoords osm.elements id c := by
    rcases List.getElem?_eq_some_iff.mp hk with ⟨hlt, hget⟩
    have hlookup := hnodes.get hlt (by rw [← hnodes.length_eq]; exact hlt)
    rw [List.get_eq_getElem, List.get_eq_getElem, hget] at hlookup
    exact ⟨_, List.getElem?_eq_getElem _, (lookup_coords osm id _).mp hlookup⟩
  have hlinked : Linked (ofEdges nodes.length _) i j := lists_ofRows.mp hij
  rw [linked_ofEdges hrange] at hlinked
  rcases hlinked with hedge | hedge
  · rcases (mem_exportedEdges hused).mp hedge with ⟨_, a, b, ha, hb, hfollows⟩
    rcases hcoords i a ha with ⟨ca, hca, hcoordsA⟩
    rcases hcoords j b hb with ⟨cb, hcb, hcoordsB⟩
    exact ⟨a, b, ca, cb, hca, hcb, hcoordsA, hcoordsB,
      Or.inl ((follows_iff osm a b).mpr hfollows)⟩
  · rcases (mem_exportedEdges hused).mp hedge with ⟨_, b, a, hb, ha, hfollows⟩
    rcases hcoords i a ha with ⟨ca, hca, hcoordsA⟩
    rcases hcoords j b hb with ⟨cb, hcb, hcoordsB⟩
    exact ⟨a, b, ca, cb, hca, hcb, hcoordsA, hcoordsB,
      Or.inr ((follows_iff osm b a).mpr hfollows)⟩

end Wanderust.Tools
