import Wanderust.Sim.Road

/-!
# Graphs that do not fit together

The construction does not check that the two lists of a graph fit together.  It
is safe where every node has a list, and the walk is safe where every node that
it can reach has a list and coordinates.
-/

namespace Wanderust

open Sim

section

variable {F : Type} [Arith F]

/-! # Closed sets of nodes -/

/-- The vehicle is on an edge inside a closed set of nodes. -/
structure Inside (g : Graph F) (inside : Nat -> Prop) (s : Simulator F) : Prop where
  graph : s.graph = g
  fromNode : inside s.fromNode
  toNode : inside s.toNode

variable {g : Graph F} {inside : Nat -> Prop} {s s' : Simulator F}

theorem Inside.stands (h : Inside g inside s) (hs : Stands s s') : Inside g inside s' where
  graph := hs.graph.trans h.graph
  fromNode := by
    rw [hs.fromNode]
    exact h.fromNode
  toNode := by
    rw [hs.toNode]
    exact h.toNode

theorem Inside.passed (hg : g.Closed inside) (h : Inside g inside s) (hp : Passed s s') :
    Inside g inside s' where
  graph := hp.same.graph.trans h.graph
  fromNode := by
    rw [hp.fromNode]
    exact h.toNode
  toNode := by
    rcases hp.toNode with hback | hnext
    · rw [hback]
      exact h.fromNode
    · rw [h.graph] at hnext
      exact hg.step _ _ h.toNode hnext

omit [Arith F] in
theorem Inside.nodes (hg : g.Closed inside) (h : Inside g inside s) :
    exists a b, s.graph.nodes[s.fromNode]? = some a ∧ s.graph.nodes[s.toNode]? = some b := by
  rw [h.graph]
  exact ⟨_, _, List.getElem?_eq_getElem (hg.node _ h.fromNode),
    List.getElem?_eq_getElem (hg.node _ h.toNode)⟩

theorem Inside.drive (hg : g.Closed inside) (h : Inside g inside s) (budgetM : F)
    (turns : Nat) : exists s', Simulator.drive turns budgetM s = .ok s' ∧ Inside g inside s' := by
  apply @drive_rule F _ s (fun _ s => Inside g inside s) (Inside g inside) _ _ turns budgetM h
  · intro _ _ h
    exact h
  · intro budgetM s h
    rcases h.nodes hg with ⟨a, b, ha, hb⟩
    refine ⟨_, Graph.segLenM_eq ha hb, ?_, ?_⟩
    · intro _
      exact ⟨h.graph, h.fromNode, h.toNode⟩
    · intro _
      have hto : s.toNode < s.graph.adj.length := by
        rw [h.graph]
        exact hg.list _ h.toNode
      rcases passNode_ok hto with ⟨s', hs', hp, _⟩
      exact ⟨s', hs', h.passed hg hp⟩

theorem Inside.advance (hg : g.Closed inside) (h : Inside g inside s) (dtSecs : F) :
    exists s', s.advance dtSecs = .ok s' ∧ Inside g inside s' := by
  rcases advance_cases s dtSecs with ⟨s', hs', hstands⟩ | ⟨s1, _, hstands, heq⟩
  · exact ⟨s', hs', h.stands hstands⟩
  · rcases (h.stands hstands).drive hg (s1.speedMps * dtSecs) maxSteps with ⟨s2, hdrive, h2⟩
    rcases h2.nodes hg with ⟨a, b, ha, hb⟩
    rw [heq, bind_ok hdrive, updatePosition_eq ha hb]
    exact ⟨_, rfl, h2.graph, h2.fromNode, h2.toNode⟩

theorem Inside.advances (hg : g.Closed inside) (h : Inside g inside s) (dts : List F) :
    exists s', s.advances dts = .ok s' ∧ Inside g inside s' :=
  advances_keeps (fun _ dtSecs hs => hs.advance hg dtSecs) h dts

/-! # Nodes in reach -/

def InReach (g : Graph F) (i j : Nat) : Prop := Relation.ReflTransGen g.Adjacent i j

def SafeFrom (g : Graph F) (i : Nat) : Prop :=
  forall j, InReach g i j -> j < g.nodes.length ∧ j < g.adj.length

omit [Arith F] in
theorem SafeFrom.closed {i : Nat} (h : SafeFrom g i) : g.Closed (InReach g i) where
  node := fun j hj => (h j hj).1
  list := fun j hj => (h j hj).2
  step := fun _ _ hj hjk => hj.tail hjk

theorem graph_input (fromStr : String -> Except String (Graph F)) (graphJson : String)
    (seed : F) (g : Graph F) (hjson : fromStr graphJson = .ok g) :
    (g.nodes.length ≤ g.adj.length ->
      exists r, Simulator.build fromStr graphJson seed = .ok r) ∧
    (forall s, Simulator.build fromStr graphJson seed = .ok (.ok s) ->
      SafeFrom g s.fromNode -> forall dts : List F, exists s', s.advances dts = .ok s') ∧
    NoRemainderByZero (Simulator.build fromStr graphJson seed) ∧
    forall s, Simulator.build fromStr graphJson seed = .ok (.ok s) ->
      forall dts : List F, NoRemainderByZero (s.advances dts) := by
  rw [build_of_parsed hjson seed]
  refine ⟨?_, ?_, noRemainder_ofGraph g seed, fun s _ dts => noRemainder_advances s dts⟩
  · intro hcover
    rcases ofGraph_returns hcover seed with ⟨s, hs⟩ | ⟨⟨e, he⟩, _⟩
    · exact ⟨_, hs⟩
    · exact ⟨_, he⟩
  · intro s hs hsafe dts
    have hstart := ofGraph_started hs
    have hinside : Inside g (InReach g s.fromNode) s :=
      ⟨hstart.graph, Relation.ReflTransGen.refl, Relation.ReflTransGen.single hstart.edge⟩
    rcases hinside.advances hsafe.closed dts with ⟨s', hs', _⟩
    exact ⟨s', hs'⟩

theorem drive_error {turns : Nat} {budgetM : F} {e : Panic}
    (h : s.graph.segLenM s.fromNode s.toNode = .error e) :
    Simulator.drive (turns + 1) budgetM s = .error e := by
  unfold Simulator.drive
  rw [h]
  rfl

end

/-! # Two graphs with one node -/

section

attribute [local instance] realArith

def noList : Graph ℝ where
  nodes := [(0, 0)]
  adj := []

def noListJson : String := "\x7b\"nodes\":[[0,0]],\"adj\":[]\x7d"

def strayEntry : Graph ℝ where
  nodes := [(0, 0)]
  adj := [[5]]

def strayEntryJson : String := "\x7b\"nodes\":[[0,0]],\"adj\":[[5]]\x7d"

def loop : Graph ℝ where
  nodes := [(0, 0)]
  adj := [[0]]

def loopJson : String := "\x7b\"nodes\":[[0,0]],\"adj\":[[0]]\x7d"

def parseOneNode (graphJson : String) : Except String (Graph ℝ) :=
  if graphJson = noListJson then .ok noList
  else if graphJson = strayEntryJson then .ok strayEntry
  else if graphJson = loopJson then .ok loop
  else .error "expected value at line 1 column 1"

theorem parse_noList : parseOneNode noListJson = .ok noList := if_pos rfl

theorem parse_strayEntry : parseOneNode strayEntryJson = .ok strayEntry := by
  unfold parseOneNode
  rw [if_neg (by decide), if_pos rfl]

theorem parse_loop : parseOneNode loopJson = .ok loop := by
  unfold parseOneNode
  rw [if_neg (by decide), if_neg (by decide), if_pos rfl]

theorem ofGraph_noList (seed : ℝ) :
    Simulator.ofGraph noList seed = .error .indexOutOfBounds := by
  have hlength : noList.nodes.length = 1 := rfl
  have hfirst : forall r : Rng, r.below 1 = .ok (0, r.nextU64.2) := by
    intro r
    rw [Rng.below_of_pos _ Nat.one_pos, Nat.mod_one]
  have hsearch : startNode noList 1 1 0 = .error .indexOutOfBounds := rfl
  unfold Simulator.ofGraph
  rw [if_neg (by decide)]
  simp only [hlength]
  rw [bind_ok (hfirst _)]
  simp only
  rw [hsearch]
  rfl

theorem adjacent_single {nodes : List (ℝ × ℝ)} {x : UInt32} {i j : Nat} :
    ({ nodes, adj := [[x]] } : Graph ℝ).Adjacent i j <-> i = 0 ∧ j = x.toNat := by
  constructor
  · intro h
    rcases h with ⟨neigh, hneigh, y, hy, hj⟩
    cases i with
    | zero =>
        cases hneigh
        cases List.mem_singleton.mp hy
        exact ⟨rfl, hj.symm⟩
    | succ i => cases hneigh
  · intro h
    rw [h.1, h.2]
    exact ⟨[x], rfl, x, List.mem_singleton_self x, rfl⟩

theorem drive_minutes (r : Rng) : (1 : ℝ) < (r.range driveMinSecs driveMaxSecs).1 := by
  have hrange : (driveMinSecs : ℝ) < driveMaxSecs := by
    unfold driveMinSecs driveMaxSecs
    norm_num
  have hmin : (1 : ℝ) < driveMinSecs := by
    unfold driveMinSecs
    norm_num
  exact lt_of_lt_of_le hmin (Rng.range_ge r hrange)

theorem advance_strayEntry {s : Simulator ℝ} (h : Started strayEntry s) :
    s.advance 1 = .error .indexOutOfBounds := by
  have hseg : s.graph.segLenM s.fromNode s.toNode = .error .indexOutOfBounds := by
    rcases adjacent_single.mp h.edge with ⟨hfrom, hto⟩
    rw [h.graph, hfrom, hto]
    rfl
  rcases h.driveSecsLeft with ⟨r, hr⟩
  have hdriving : ¬ s.driveSecsLeft - 1 ≤ 0 := by
    have hlong := drive_minutes r
    rw [hr]
    linarith
  have hpause : ¬ 0 < s.pauseSecsLeft := by
    rw [h.pauseSecsLeft]
    exact lt_irrefl 0
  unfold Simulator.advance
  rw [if_neg (by norm_num), if_neg hpause]
  unfold Simulator.advanceDriving
  simp only [hdriving, if_false]
  have hloop : Simulator.drive maxSteps (s.speedMps * 1)
      { s with driveSecsLeft := s.driveSecsLeft - 1, lastSpeedKmh := s.speedMps * (36 / 10) } =
        .error .indexOutOfBounds := drive_error hseg
  rw [hloop]
  rfl

theorem graph_input_unchecked :
    Simulator.build parseOneNode noListJson 0 = .error .indexOutOfBounds ∧
    exists s, Simulator.build parseOneNode strayEntryJson 0 = .ok (.ok s) ∧
      s.advances [1] = .error .indexOutOfBounds := by
  refine ⟨(build_of_parsed parse_noList 0).trans (ofGraph_noList 0), ?_⟩
  have hedge : strayEntry.Adjacent 0 5 := adjacent_single.mpr ⟨rfl, rfl⟩
  rcases (@ofGraph_succeeds_iff ℝ strayEntry _ rfl 0).mpr ⟨0, 5, hedge⟩ with ⟨s, hs⟩
  refine ⟨s, ?_, ?_⟩
  · rw [build_of_parsed parse_strayEntry]
    exact hs
  · unfold Simulator.advances
    rw [advance_strayEntry (ofGraph_started hs)]
    rfl

theorem graph_input_loop :
    exists s, Simulator.build parseOneNode loopJson 0 = .ok (.ok s) ∧
      exists s', s.advances [1, 30] = .ok s' := by
  have hinput := graph_input parseOneNode loopJson 0 loop parse_loop
  have hloop : loop.Adjacent 0 0 := adjacent_single.mpr ⟨rfl, rfl⟩
  rcases (@ofGraph_succeeds_iff ℝ loop _ rfl 0).mpr ⟨0, 0, hloop⟩ with ⟨s, hs⟩
  have hbuild := (build_of_parsed parse_loop 0).trans hs
  refine ⟨s, hbuild, hinput.2.1 s hbuild ?_ [1, 30]⟩
  have hstart := (adjacent_single.mp (ofGraph_started hs).edge).1
  intro j hj
  have hzero : j = 0 := by
    cases hj with
    | refl => exact hstart
    | tail _ hlast => exact (adjacent_single.mp hlast).2
  rw [hzero]
  exact ⟨Nat.one_pos, Nat.one_pos⟩

end

end Wanderust
