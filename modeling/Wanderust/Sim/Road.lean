import Wanderust.Sim.Start

/-!
# Positions on the road

On a well-formed graph the vehicle is always on an edge, at the point of the
segment that its offset says.  The invariant also has a positive speed, so that
the metres of a call never run backwards.
-/

namespace Wanderust.Sim

variable {F : Type} [ExactArith F] {g : Graph F} {s s' : Simulator F}

/-! # Segments -/

def lengthM (a b : F × F) : F := Arith.haversineM a.1 a.2 b.1 b.2

def fraction (a b : F × F) (offsetM : F) : F :=
  if lengthM a b = 0 then 0 else offsetM / lengthM a b

def pointAt (a b : F × F) (frac : F) : F × F :=
  (a.1 + (b.1 - a.1) * frac, a.2 + (b.2 - a.2) * frac)

/-- The smallest box with sides along the axes that has `a` and `b` in it. -/
def InBox (a b p : F × F) : Prop :=
  (min a.1 b.1 ≤ p.1 ∧ p.1 ≤ max a.1 b.1) ∧ min a.2 b.2 ≤ p.2 ∧ p.2 ≤ max a.2 b.2

theorem between_of_fraction (x y : F) {frac : F} (h0 : 0 ≤ frac) (h1 : frac ≤ 1) :
    min x y ≤ x + (y - x) * frac ∧ x + (y - x) * frac ≤ max x y := by
  have hrest : 0 ≤ 1 - frac := by linarith
  have hcomb : x + (y - x) * frac = (1 - frac) * x + frac * y := by ring
  rw [hcomb]
  constructor
  · calc min x y = (1 - frac) * min x y + frac * min x y := by ring
      _ ≤ (1 - frac) * x + frac * y :=
        add_le_add (mul_le_mul_of_nonneg_left (min_le_left x y) hrest)
          (mul_le_mul_of_nonneg_left (min_le_right x y) h0)
  · calc (1 - frac) * x + frac * y ≤ (1 - frac) * max x y + frac * max x y :=
        add_le_add (mul_le_mul_of_nonneg_left (le_max_left x y) hrest)
          (mul_le_mul_of_nonneg_left (le_max_right x y) h0)
      _ = max x y := by ring

theorem inBox_pointAt (a b : F × F) {frac : F} (h0 : 0 ≤ frac) (h1 : frac ≤ 1) :
    InBox a b (pointAt a b frac) :=
  ⟨between_of_fraction a.1 b.1 h0 h1, between_of_fraction a.2 b.2 h0 h1⟩

/-- An offset that is zero or short of the length of the segment. -/
def Within (a b : F × F) (offsetM : F) : Prop :=
  0 ≤ offsetM ∧ (offsetM < lengthM a b ∨ offsetM = 0)

theorem Within.fraction_range {a b : F × F} {offsetM : F} (h : Within a b offsetM) :
    0 ≤ fraction a b offsetM ∧ fraction a b offsetM ≤ 1 := by
  unfold fraction
  split
  · exact ⟨le_refl 0, zero_le_one⟩
  · rcases h with ⟨hnonneg, hlt | hzero⟩
    · have hpos : 0 < lengthM a b := lt_of_le_of_lt hnonneg hlt
      exact ⟨div_nonneg hnonneg (le_of_lt hpos), (div_le_one hpos).mpr (le_of_lt hlt)⟩
    · rw [hzero, zero_div]
      exact ⟨le_refl 0, zero_le_one⟩

theorem clampUnit_of_range {x : F} (h0 : 0 ≤ x) (h1 : x ≤ 1) : Simulator.clampUnit x = x := by
  unfold Simulator.clampUnit
  rw [if_neg (not_lt_of_ge h0), if_neg (not_lt_of_ge h1)]

theorem Within.frac_eq {a b : F × F} {offsetM : F} (h : Within a b offsetM) :
    (if 0 < lengthM a b then Simulator.clampUnit (offsetM / lengthM a b) else 0) =
      fraction a b offsetM := by
  have hrange := h.fraction_range
  unfold fraction at hrange ⊢
  by_cases hpos : 0 < lengthM a b
  · have hne : lengthM a b ≠ 0 := ne_of_gt hpos
    rw [if_neg hne] at hrange ⊢
    rw [if_pos hpos]
    exact clampUnit_of_range hrange.1 hrange.2
  · have hzero : offsetM = 0 := by
      rcases h with ⟨hnonneg, hlt | hzero⟩
      · exact absurd (lt_of_le_of_lt hnonneg hlt) hpos
      · exact hzero
    rw [if_neg hpos, hzero, zero_div, ite_self]

/-! # The invariant -/

theorem Drawn.pos {speedMps : F} (h : Drawn speedMps) : 0 < speedMps := by
  rcases h with ⟨r, hr⟩
  have hspeeds : (speedMinKmh : F) < speedMaxKmh := by
    unfold speedMinKmh speedMaxKmh
    norm_num
  have hmin : (0 : F) < speedMinKmh := by
    unfold speedMinKmh
    norm_num
  rw [hr]
  exact div_pos (lt_of_lt_of_le hmin (Rng.range_ge r hspeeds)) (by norm_num)

/-- The vehicle is on an edge, short of its end. -/
structure OnEdge (g : Graph F) (s : Simulator F) : Prop where
  graph : s.graph = g
  edge : g.Adjacent s.fromNode s.toNode
  within : exists a b, g.nodes[s.fromNode]? = some a ∧ g.nodes[s.toNode]? = some b ∧
    Within a b s.offsetM
  speed : 0 < s.speedMps

/-- The vehicle is on an edge, at the point of its offset. -/
structure OnRoad (g : Graph F) (s : Simulator F) : Prop where
  graph : s.graph = g
  edge : g.Adjacent s.fromNode s.toNode
  position : exists a b, g.nodes[s.fromNode]? = some a ∧ g.nodes[s.toNode]? = some b ∧
    Within a b s.offsetM ∧ (s.lat, s.lon) = pointAt a b (fraction a b s.offsetM) ∧
    InBox a b (s.lat, s.lon)
  speed : 0 < s.speedMps

theorem OnRoad.onEdge (h : OnRoad g s) : OnEdge g s := by
  rcases h with ⟨hgraph, hedge, ⟨a, b, ha, hb, hwithin, _⟩, hspeed⟩
  exact ⟨hgraph, hedge, ⟨a, b, ha, hb, hwithin⟩, hspeed⟩

omit [ExactArith F] in
theorem lookup_nodes (hg : g.WellFormed) {i j : Nat} (h : g.Adjacent i j) :
    (exists a, g.nodes[i]? = some a) ∧ exists b, g.nodes[j]? = some b := by
  have hi : i < g.nodes.length := by
    rw [← hg.length]
    exact h.lt_length
  exact ⟨⟨_, List.getElem?_eq_getElem hi⟩, ⟨_, List.getElem?_eq_getElem (hg.inRange i j h)⟩⟩

theorem drawn_or_same_pos {speed speed' : F} (h : speed' = speed ∨ Drawn speed')
    (hpos : 0 < speed) : 0 < speed' := by
  rcases h with hsame | hdrawn
  · rw [hsame]
    exact hpos
  · exact hdrawn.pos

theorem OnRoad.stands (h : OnRoad g s) (hs : Stands s s') : OnRoad g s' where
  graph := hs.graph.trans h.graph
  edge := by
    rw [hs.fromNode, hs.toNode]
    exact h.edge
  position := by
    rw [hs.fromNode, hs.toNode, hs.offsetM, hs.lat, hs.lon]
    exact h.position
  speed := drawn_or_same_pos hs.speed h.speed

theorem OnEdge.passed (hg : g.WellFormed) (h : OnEdge g s) (hp : Passed s s') : OnEdge g s' := by
  have hedge : g.Adjacent s'.fromNode s'.toNode := by
    rw [hp.fromNode]
    rcases hp.toNode with hback | hnext
    · rw [hback]
      exact hg.symmetric _ _ h.edge
    · rw [h.graph] at hnext
      exact hnext
  rcases lookup_nodes hg hedge with ⟨⟨a, ha⟩, ⟨b, hb⟩⟩
  refine ⟨hp.same.graph.trans h.graph, hedge, ⟨a, b, ha, hb, ?_⟩,
    drawn_or_same_pos hp.speed h.speed⟩
  rw [hp.offsetM]
  exact ⟨le_refl 0, Or.inr rfl⟩

theorem OnEdge.drive (hg : g.WellFormed) (h : OnEdge g s) {budgetM : F} (hbudget : 0 ≤ budgetM)
    (turns : Nat) : exists s', Simulator.drive turns budgetM s = .ok s' ∧ OnEdge g s' := by
  apply @drive_rule F _ s (fun budgetM s => 0 ≤ budgetM ∧ OnEdge g s) (OnEdge g) _ _ turns
    budgetM ⟨hbudget, h⟩
  · intro _ _ hI
    exact hI.2
  · intro budgetM s hI
    rcases hI with ⟨hbudget, h⟩
    rcases h.within with ⟨a, b, ha, hb, hwithin⟩
    have hseg : s.graph.segLenM s.fromNode s.toNode = .ok (lengthM a b) := by
      rw [h.graph]
      exact Graph.segLenM_eq ha hb
    refine ⟨lengthM a b, hseg, ?_, ?_⟩
    · intro hlt
      refine ⟨h.graph, h.edge, ⟨a, b, ha, hb, ?_⟩, h.speed⟩
      exact ⟨add_nonneg hwithin.1 hbudget, Or.inl (by linarith)⟩
    · intro hge
      have hto : s.toNode < s.graph.adj.length := by
        rw [h.graph]
        exact (hg.symmetric _ _ h.edge).lt_length
      rcases passNode_ok hto with ⟨s', hs', hp, _⟩
      exact ⟨s', hs', sub_nonneg.mpr (max_le (not_lt.mp hge) hbudget), h.passed hg hp⟩

theorem OnEdge.updatePosition (h : OnEdge g s) :
    exists s', s.updatePosition = .ok s' ∧ OnRoad g s' := by
  rcases h with ⟨hgraph, hedge, ⟨a, b, ha, hb, hwithin⟩, hspeed⟩
  have hrange := hwithin.fraction_range
  have hpoint : s.updatePosition =
      .ok { s with
        lat := (pointAt a b (fraction a b s.offsetM)).1
        lon := (pointAt a b (fraction a b s.offsetM)).2 } := by
    rw [← hgraph] at ha hb
    rw [updatePosition_eq ha hb, ← hwithin.frac_eq]
    rfl
  exact ⟨_, hpoint, hgraph, hedge,
    ⟨a, b, ha, hb, hwithin, rfl, inBox_pointAt a b hrange.1 hrange.2⟩, hspeed⟩

theorem OnRoad.advance (hg : g.WellFormed) (h : OnRoad g s) (dtSecs : F) :
    exists s', s.advance dtSecs = .ok s' ∧ OnRoad g s' := by
  rcases advance_cases s dtSecs with ⟨s', hs', hstands⟩ | ⟨s1, hdt, hstands, heq⟩
  · exact ⟨s', hs', h.stands hstands⟩
  · have h1 := h.stands hstands
    have hbudget : 0 ≤ s1.speedMps * dtSecs :=
      mul_nonneg (le_of_lt h1.speed) (le_of_lt (lt_of_not_ge hdt))
    rcases h1.onEdge.drive hg hbudget maxSteps with ⟨s2, hdrive, h2⟩
    rw [heq, bind_ok hdrive]
    exact h2.updatePosition

theorem OnRoad.advances (hg : g.WellFormed) (h : OnRoad g s) (dts : List F) :
    exists s', s.advances dts = .ok s' ∧ OnRoad g s' :=
  advances_keeps (fun _ dtSecs hs => hs.advance hg dtSecs) h dts

theorem Started.onRoad (hg : g.WellFormed) (h : Started g s) : OnRoad g s := by
  rcases lookup_nodes hg h.edge with ⟨_, ⟨b, hb⟩⟩
  have hfrac : fraction (s.lat, s.lon) b s.offsetM = 0 := by
    rw [fraction, h.offsetM, zero_div, ite_self]
  have hpoint :
      (s.lat, s.lon) = pointAt (s.lat, s.lon) b (fraction (s.lat, s.lon) b s.offsetM) := by
    rw [hfrac]
    unfold pointAt
    rw [mul_zero, mul_zero, add_zero, add_zero]
  have hwithin : Within (s.lat, s.lon) b s.offsetM := by
    rw [h.offsetM]
    exact ⟨le_refl 0, Or.inr rfl⟩
  have hrange := hwithin.fraction_range
  have hbox := inBox_pointAt (s.lat, s.lon) b hrange.1 hrange.2
  rw [← hpoint] at hbox
  exact ⟨h.graph, h.edge, ⟨_, b, h.node, hb, hwithin, hpoint, hbox⟩, h.speed.pos⟩

end Wanderust.Sim
