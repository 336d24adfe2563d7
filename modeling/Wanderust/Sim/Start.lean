import Wanderust.Sim.Walk

/-!
# The construction

The search for a start node goes once around the list, so it ends without a
neighbour only where no node has one.  The vehicle starts at the node found, on
the way to a neighbour of it.
-/

namespace Wanderust.Sim

open Rng

variable {F : Type} {g : Graph F}

/-! # The search -/

theorem startNode_ok {n start : Nat} (hcover : n ≤ g.adj.length) (hstart : start < n)
    (turns : Nat) : exists i, startNode g n turns start = .ok i ∧ i < n := by
  induction turns generalizing start with
  | zero => exact ⟨start, rfl, hstart⟩
  | succ turns ih =>
      have hlist : start < g.adj.length := lt_of_lt_of_le hstart hcover
      unfold startNode
      rw [bind_ok (Graph.neighbours_eq (List.getElem?_eq_getElem hlist))]
      split
      · exact ⟨start, rfl, hstart⟩
      · exact ih (Nat.mod_lt _ (lt_of_le_of_lt (Nat.zero_le start) hstart))

/-- Where the node found has no neighbour, none of the nodes passed has one. -/
theorem startNode_searched {n turns start i : Nat} (h : startNode g n turns start = .ok i)
    (hempty : g.adj[i]? = some []) {k : Nat} (hk : k < turns) (hstart : start < n) :
    g.adj[(start + k) % n]? = some [] := by
  induction turns generalizing start k with
  | zero => exact absurd hk (Nat.not_lt_zero k)
  | succ turns ih =>
      unfold startNode at h
      rw [bind_ok_iff] at h
      rcases h with ⟨neigh, hneigh, h⟩
      have hlist := Graph.neighbours_ok hneigh
      cases neigh with
      | cons x rest =>
          cases h
          rw [hlist] at hempty
          cases hempty
      | nil =>
          have hnext : startNode g n turns ((start + 1) % n) = .ok i := h
          cases k with
          | zero =>
              rw [Nat.add_zero, Nat.mod_eq_of_lt hstart]
              exact hlist
          | succ k =>
              have hpos : 0 < n := lt_of_le_of_lt (Nat.zero_le start) hstart
              have hrest := ih hnext (Nat.lt_of_succ_lt_succ hk) (Nat.mod_lt _ hpos)
              rw [Nat.mod_add_mod] at hrest
              rw [Nat.add_comm k 1, ← Nat.add_assoc]
              exact hrest

theorem startNode_around {n start i : Nat} (h : startNode g n n start = .ok i)
    (hempty : g.adj[i]? = some []) (hstart : start < n) {j : Nat} (hj : j < n) :
    g.adj[j]? = some [] := by
  have hturn : (start + (j + n - start) % n) % n = j := by
    rw [Nat.add_mod_mod, Nat.add_sub_cancel' (by omega), Nat.add_mod_right,
      Nat.mod_eq_of_lt hj]
  have hpos : 0 < n := lt_of_le_of_lt (Nat.zero_le start) hstart
  rw [← hturn]
  exact startNode_searched h hempty (Nat.mod_lt _ hpos) hstart

theorem noRemainder_startNode (n turns start : Nat) :
    NoRemainderByZero (startNode g n turns start) := by
  induction turns generalizing start with
  | zero => exact noRemainder_ok start
  | succ turns ih =>
      unfold startNode
      apply noRemainder_bind (noRemainder_neighbours _ _)
      intro neigh _
      split
      · exact noRemainder_ok start
      · exact ih _

/-! # The vehicle at the start -/

variable [Arith F]

/-- The vehicle stands at a node, on the way to a neighbour of it. -/
structure Started (g : Graph F) (s : Simulator F) : Prop where
  graph : s.graph = g
  edge : g.Adjacent s.fromNode s.toNode
  node : g.nodes[s.fromNode]? = some (s.lat, s.lon)
  offsetM : s.offsetM = 0
  speed : Drawn s.speedMps
  pauseSecsLeft : s.pauseSecsLeft = 0
  driveSecsLeft : exists r : Rng, s.driveSecsLeft = (r.range driveMinSecs driveMaxSecs).1

theorem ofGraph_started {seed : F} {s : Simulator F}
    (h : Simulator.ofGraph g seed = .ok (.ok s)) : Started g s := by
  unfold Simulator.ofGraph at h
  split at h
  · cases h
  · rw [bind_ok_iff] at h
    rcases h with ⟨first, _, h⟩
    rw [bind_ok_iff] at h
    rcases h with ⟨i, _, h⟩
    rw [bind_ok_iff] at h
    rcases h with ⟨neigh, hneigh, h⟩
    split at h
    · cases h
    · rw [bind_ok_iff] at h
      rcases h with ⟨k, _, h⟩
      simp only at h
      split at h
      · cases h
      case h_2 toNode hto =>
        rw [bind_ok_iff] at h
        rcases h with ⟨n, hn, h⟩
        rw [Option.map_eq_some_iff] at hto
        rcases hto with ⟨x, hx, hxto⟩
        cases h
        exact ⟨rfl, ⟨neigh, Graph.neighbours_ok hneigh, x, List.mem_of_getElem? hx, hxto⟩,
          Graph.coord_ok hn, rfl, ⟨_, rfl⟩, rfl, ⟨_, rfl⟩⟩

/--
Where every node has a list the construction returns, and it fails only where
no node has a neighbour.
-/
theorem ofGraph_returns (hcover : g.nodes.length ≤ g.adj.length) (seed : F) :
    (exists s, Simulator.ofGraph g seed = .ok (.ok s)) ∨
      (exists e, Simulator.ofGraph g seed = .ok (.error e)) ∧
        forall i, i < g.nodes.length -> g.adj[i]? = some [] := by
  unfold Simulator.ofGraph
  split
  case isTrue hnodes =>
    refine Or.inr ⟨⟨_, rfl⟩, ?_⟩
    intro i hi
    rw [List.isEmpty_iff.mp hnodes] at hi
    exact absurd hi (Nat.not_lt_zero i)
  case isFalse hnodes =>
    have hpos : 0 < g.nodes.length := by
      rw [List.length_pos_iff, ne_eq, ← List.isEmpty_iff]
      exact hnodes
    have hfirst := Nat.mod_lt (Rng.new (Arith.castU64 seed)).nextU64.1.toNat hpos
    rcases startNode_ok hcover hfirst g.nodes.length with ⟨i, hi, hlt⟩
    have hlist := List.getElem?_eq_getElem (lt_of_lt_of_le hlt hcover)
    rw [bind_ok (below_of_pos _ hpos)]
    simp only
    rw [bind_ok hi, bind_ok (Graph.neighbours_eq hlist)]
    split
    case isTrue hempty =>
      rw [List.isEmpty_iff.mp hempty] at hlist
      exact Or.inr ⟨⟨_, rfl⟩, fun j hj => startNode_around hi hlist hfirst hj⟩
    case isFalse hempty =>
      have hneigh : 0 < g.adj[i].length := by
        rw [List.length_pos_iff, ne_eq, ← List.isEmpty_iff]
        exact hempty
      rw [bind_ok (below_of_pos _ hneigh)]
      simp only
      rw [List.getElem?_eq_getElem (Nat.mod_lt _ hneigh), Option.map_some]
      simp only
      rw [bind_ok (Graph.coord_eq (List.getElem?_eq_getElem hlt))]
      exact Or.inl ⟨_, rfl⟩

theorem ofGraph_succeeds_iff (hlength : g.adj.length = g.nodes.length) (seed : F) :
    (exists s, Simulator.ofGraph g seed = .ok (.ok s)) <-> exists i j, g.Adjacent i j := by
  constructor
  · intro h
    rcases h with ⟨s, hs⟩
    exact ⟨_, _, (ofGraph_started hs).edge⟩
  · intro h
    rcases h with ⟨i, j, hij⟩
    rcases ofGraph_returns (le_of_eq hlength.symm) seed with hs | ⟨_, hempty⟩
    · exact hs
    · have hi : i < g.nodes.length := by
        rw [← hlength]
        exact hij.lt_length
      rcases hij with ⟨neigh, hneigh, x, hx, _⟩
      rw [hempty i hi] at hneigh
      cases hneigh
      exact absurd hx List.not_mem_nil

theorem build_of_parsed {fromStr : String -> Except String (Graph F)} {graphJson : String}
    (hjson : fromStr graphJson = .ok g) (seed : F) :
    Simulator.build fromStr graphJson seed = Simulator.ofGraph g seed := by
  rw [Simulator.build, hjson]

theorem noRemainder_ofGraph (g : Graph F) (seed : F) :
    NoRemainderByZero (Simulator.ofGraph g seed) := by
  unfold Simulator.ofGraph
  split
  · exact noRemainder_ok _
  case isFalse hnodes =>
    have hpos : 0 < g.nodes.length := by
      rw [List.length_pos_iff, ne_eq, ← List.isEmpty_iff]
      exact hnodes
    apply noRemainder_bind (noRemainder_below _ hpos)
    intro first _
    apply noRemainder_bind (noRemainder_startNode _ _ _)
    intro i _
    apply noRemainder_bind (noRemainder_neighbours _ _)
    intro neigh _
    split
    · exact noRemainder_ok _
    case isFalse hempty =>
      have hneigh : 0 < neigh.length := by
        rw [List.length_pos_iff, ne_eq, ← List.isEmpty_iff]
        exact hempty
      apply noRemainder_bind (noRemainder_below _ hneigh)
      intro k _
      simp only
      split
      · intro h
        cases h
      · apply noRemainder_bind (noRemainder_coord _ _)
        intro n _
        exact noRemainder_ok _

end Wanderust.Sim
