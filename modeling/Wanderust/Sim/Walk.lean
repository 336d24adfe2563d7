import Wanderust.Sim.NextEdge

/-!
# The walk of the vehicle

What a passed node changes, and rules for the loop of `advance` and for the
whole call.  Inside a closed set of nodes no access is out of bounds; whatever
the graph, no remainder is taken by zero.
-/

namespace Wanderust.Sim

open Rng

variable {F : Type} [Arith F] {g : Graph F} {s s' : Simulator F}

/-! # Passing a node -/

def Drawn (speedMps : F) : Prop :=
  exists r : Rng, speedMps = (r.range speedMinKmh speedMaxKmh).1 / (36 / 10)

/-- The fields that only the calls themselves write, not the walk. -/
structure SameTrip (s s' : Simulator F) : Prop where
  graph : s'.graph = s.graph
  driveSecsLeft : s'.driveSecsLeft = s.driveSecsLeft
  pauseSecsLeft : s'.pauseSecsLeft = s.pauseSecsLeft
  lastSpeedKmh : s'.lastSpeedKmh = s.lastSpeedKmh
  lat : s'.lat = s.lat
  lon : s'.lon = s.lon

/-- The vehicle has gone on from the node ahead of it, back or to a neighbour. -/
structure Passed (s s' : Simulator F) : Prop where
  same : SameTrip s s'
  fromNode : s'.fromNode = s.toNode
  toNode : s'.toNode = s.fromNode ∨ s.graph.Adjacent s.toNode s'.toNode
  offsetM : s'.offsetM = 0
  speed : s'.speedMps = s.speedMps ∨ Drawn s'.speedMps

theorem passNode_ok (hto : s.toNode < s.graph.adj.length) :
    exists s', s.passNode = .ok s' ∧ Passed s s' ∧
      GoesOn s.graph s.fromNode s.toNode s'.toNode := by
  have hneigh : s.graph.adj[s.toNode]? = some s.graph.adj[s.toNode] :=
    List.getElem?_eq_getElem hto
  rcases pickNext_ok hneigh with ⟨next, rng, hpick, hnext⟩
  unfold Simulator.passNode
  simp only
  rw [bind_ok hpick]
  simp only
  rw [bind_ok (Graph.isIntersection_eq hneigh)]
  split
  · exact ⟨_, rfl, ⟨⟨rfl, rfl, rfl, rfl, rfl, rfl⟩, rfl, hnext.onward, rfl, Or.inr ⟨_, rfl⟩⟩, hnext⟩
  · exact ⟨_, rfl, ⟨⟨rfl, rfl, rfl, rfl, rfl, rfl⟩, rfl, hnext.onward, rfl, Or.inl rfl⟩, hnext⟩

theorem passNode_passed (h : s.passNode = .ok s') :
    Passed s s' ∧ GoesOn s.graph s.fromNode s.toNode s'.toNode := by
  have hto : s.toNode < s.graph.adj.length := by
    have hrun := h
    unfold Simulator.passNode Simulator.pickNext at hrun
    simp only [bind_ok_iff] at hrun
    rcases hrun with ⟨_, ⟨neigh, hneigh, _⟩, _⟩
    exact (List.getElem?_eq_some_iff.mp (Graph.neighbours_ok hneigh)).1
  rcases passNode_ok hto with ⟨s1, hs1, hp⟩
  rw [h] at hs1
  cases hs1
  exact hp

theorem noRemainder_passNode (s : Simulator F) : NoRemainderByZero s.passNode := by
  unfold Simulator.passNode
  apply noRemainder_bind (noRemainder_pickNext s _ _)
  intro r _
  apply noRemainder_bind
  · unfold Graph.isIntersection
    exact noRemainder_bind (noRemainder_neighbours _ _) fun neigh _ => noRemainder_ok _
  · intro b _
    split
    · exact noRemainder_ok _
    · exact noRemainder_ok _

/-! # The loop -/

/--
The rule of the loop: an invariant of the metres left and the state, kept by
every passed node, and what follows from it where the loop ends.
-/
theorem drive_rule {I : F -> Simulator F -> Prop} {Q : Simulator F -> Prop}
    (hcap : forall budgetM s, I budgetM s -> Q s)
    (hturn : forall budgetM s, I budgetM s ->
      exists seg, s.graph.segLenM s.fromNode s.toNode = .ok seg ∧
        (budgetM < seg - s.offsetM -> Q { s with offsetM := s.offsetM + budgetM }) ∧
        (¬ budgetM < seg - s.offsetM ->
          exists s', s.passNode = .ok s' ∧ I (budgetM - max (seg - s.offsetM) 0) s'))
    (turns : Nat) {budgetM : F} (h : I budgetM s) :
    exists s', Simulator.drive turns budgetM s = .ok s' ∧ Q s' := by
  induction turns generalizing budgetM s with
  | zero => exact ⟨s, rfl, hcap budgetM s h⟩
  | succ turns ih =>
      rcases hturn budgetM s h with ⟨seg, hseg, hstop, hpass⟩
      unfold Simulator.drive
      rw [bind_ok hseg]
      by_cases hlt : budgetM < seg - s.offsetM
      · simp only [hlt, if_true]
        exact ⟨_, rfl, hstop hlt⟩
      · rcases hpass hlt with ⟨s1, hs1, hI⟩
        simp only [hlt, if_false]
        rw [bind_ok hs1]
        exact ih hI

theorem noRemainder_drive (turns : Nat) (budgetM : F) (s : Simulator F) :
    NoRemainderByZero (Simulator.drive turns budgetM s) := by
  induction turns generalizing budgetM s with
  | zero => exact noRemainder_ok s
  | succ turns ih =>
      unfold Simulator.drive
      apply noRemainder_bind (noRemainder_segLenM _ _ _)
      intro seg _
      simp only
      split
      · exact noRemainder_ok _
      · exact noRemainder_bind (noRemainder_passNode s) fun s' _ => ih _ s'

theorem updatePosition_eq {a b : F × F} (ha : s.graph.nodes[s.fromNode]? = some a)
    (hb : s.graph.nodes[s.toNode]? = some b) :
    s.updatePosition =
      .ok { s with
        lat := a.1 + (b.1 - a.1) * (if 0 < Arith.haversineM a.1 a.2 b.1 b.2 then
          Simulator.clampUnit (s.offsetM / Arith.haversineM a.1 a.2 b.1 b.2) else 0)
        lon := a.2 + (b.2 - a.2) * (if 0 < Arith.haversineM a.1 a.2 b.1 b.2 then
          Simulator.clampUnit (s.offsetM / Arith.haversineM a.1 a.2 b.1 b.2) else 0) } := by
  unfold Simulator.updatePosition
  rcases a with ⟨alat, alon⟩
  rcases b with ⟨blat, blon⟩
  rw [bind_ok (Graph.coord_eq ha)]
  simp only
  rw [bind_ok (Graph.coord_eq hb)]
  simp only
  rw [bind_ok (Graph.segLenM_eq ha hb)]
  rfl

theorem updatePosition_ok (h : s.updatePosition = .ok s') :
    exists lat lon, s' = { s with lat, lon } := by
  unfold Simulator.updatePosition at h
  rw [bind_ok_iff] at h
  rcases h with ⟨a, _, h⟩
  rw [bind_ok_iff] at h
  rcases h with ⟨b, _, h⟩
  rw [bind_ok_iff] at h
  rcases h with ⟨seg, _, h⟩
  cases h
  exact ⟨_, _, rfl⟩

theorem noRemainder_updatePosition (s : Simulator F) : NoRemainderByZero s.updatePosition := by
  unfold Simulator.updatePosition
  apply noRemainder_bind (noRemainder_coord _ _)
  intro a _
  apply noRemainder_bind (noRemainder_coord _ _)
  intro b _
  exact noRemainder_bind (noRemainder_segLenM _ _ _) fun seg _ => noRemainder_ok _

/-! # The whole call -/

/-- What a call that does not drive writes: the times, the shown speed, the draws. -/
structure Stands (s s' : Simulator F) : Prop where
  graph : s'.graph = s.graph
  fromNode : s'.fromNode = s.fromNode
  toNode : s'.toNode = s.toNode
  offsetM : s'.offsetM = s.offsetM
  lat : s'.lat = s.lat
  lon : s'.lon = s.lon
  speed : s'.speedMps = s.speedMps ∨ Drawn s'.speedMps

theorem stands_times (s : Simulator F) (drive pause last : F) (rng : Rng) :
    Stands s { s with driveSecsLeft := drive, pauseSecsLeft := pause, lastSpeedKmh := last, rng } :=
  ⟨rfl, rfl, rfl, rfl, rfl, rfl, Or.inl rfl⟩

theorem stands_resampleSpeed (s : Simulator F) (pause : F) :
    Stands s ({ s with pauseSecsLeft := pause } : Simulator F).resampleSpeed :=
  ⟨rfl, rfl, rfl, rfl, rfl, rfl, Or.inr ⟨_, rfl⟩⟩

theorem Stands.trans {s'' : Simulator F} (h : Stands s s') (h' : Stands s' s'') :
    Stands s s'' where
  graph := h'.graph.trans h.graph
  fromNode := h'.fromNode.trans h.fromNode
  toNode := h'.toNode.trans h.toNode
  offsetM := h'.offsetM.trans h.offsetM
  lat := h'.lat.trans h.lat
  lon := h'.lon.trans h.lon
  speed := by
    rcases h'.speed with hsame | hdrawn
    · rw [hsame]
      exact h.speed
    · exact Or.inr hdrawn

theorem advanceDriving_cases (s : Simulator F) (dtSecs : F) :
    (exists s', s.advanceDriving dtSecs = .ok s' ∧ Stands s s') ∨
      exists s1, Stands s s1 ∧
        s.advanceDriving dtSecs =
          (Simulator.drive maxSteps (s1.speedMps * dtSecs) s1 >>= Simulator.updatePosition) := by
  by_cases hpause : s.driveSecsLeft - dtSecs ≤ 0
  · exact Or.inl ⟨_, if_pos hpause, stands_times s _ _ _ _⟩
  · exact Or.inr ⟨_, stands_times s _ _ _ _, if_neg hpause⟩

theorem advance_cases (s : Simulator F) (dtSecs : F) :
    (exists s', s.advance dtSecs = .ok s' ∧ Stands s s') ∨
      exists s1, ¬ dtSecs ≤ 0 ∧ Stands s s1 ∧
        s.advance dtSecs =
          (Simulator.drive maxSteps (s1.speedMps * dtSecs) s1 >>= Simulator.updatePosition) := by
  have hdriving : forall s1, Stands s s1 -> ¬ dtSecs ≤ 0 ->
      s.advance dtSecs = s1.advanceDriving dtSecs ->
      (exists s', s.advance dtSecs = .ok s' ∧ Stands s s') ∨
        exists s1, ¬ dtSecs ≤ 0 ∧ Stands s s1 ∧
          s.advance dtSecs =
            (Simulator.drive maxSteps (s1.speedMps * dtSecs) s1 >>= Simulator.updatePosition) := by
    intro s1 hs1 hdt heq
    rw [heq]
    rcases advanceDriving_cases s1 dtSecs with ⟨s', hs', hstands⟩ | ⟨s2, hs2, heq'⟩
    · exact Or.inl ⟨s', hs', hs1.trans hstands⟩
    · exact Or.inr ⟨s2, hdt, hs1.trans hs2, heq'⟩
  by_cases hdt : dtSecs ≤ 0
  · exact Or.inl ⟨s, if_pos hdt, stands_times s _ _ _ _⟩
  · by_cases hpause : 0 < s.pauseSecsLeft
    · by_cases hstill : 0 < s.pauseSecsLeft - dtSecs
      · have heq : s.advance dtSecs =
            .ok { s with pauseSecsLeft := s.pauseSecsLeft - dtSecs, lastSpeedKmh := 0 } := by
          unfold Simulator.advance
          simp only [hdt, hpause, hstill, if_true, if_false]
        exact Or.inl ⟨_, heq, stands_times s _ _ _ _⟩
      · apply hdriving _ (stands_resampleSpeed s 0) hdt
        unfold Simulator.advance
        simp only [hdt, hpause, hstill, if_true, if_false]
    · apply hdriving s (stands_times s _ _ _ _) hdt
      unfold Simulator.advance
      simp only [hdt, hpause, if_false]

theorem noRemainder_advance (s : Simulator F) (dtSecs : F) :
    NoRemainderByZero (s.advance dtSecs) := by
  rcases advance_cases s dtSecs with ⟨s', hs', _⟩ | ⟨s1, _, _, heq⟩
  · rw [hs']
    exact noRemainder_ok s'
  · rw [heq]
    exact noRemainder_bind (noRemainder_drive _ _ _) fun s' _ => noRemainder_updatePosition s'

theorem advances_keeps {P : Simulator F -> Prop}
    (hadvance : forall s dtSecs, P s -> exists s', s.advance dtSecs = .ok s' ∧ P s') (h : P s)
    (dts : List F) : exists s', s.advances dts = .ok s' ∧ P s' := by
  induction dts generalizing s with
  | nil => exact ⟨s, rfl, h⟩
  | cons dt rest ih =>
      rcases hadvance s dt h with ⟨s1, hs1, h1⟩
      unfold Simulator.advances
      rw [bind_ok hs1]
      exact ih h1

theorem noRemainder_advances (s : Simulator F) (dts : List F) :
    NoRemainderByZero (s.advances dts) := by
  induction dts generalizing s with
  | nil => exact noRemainder_ok s
  | cons dt rest ih => exact noRemainder_bind (noRemainder_advance s dt) fun s' _ => ih s'

end Wanderust.Sim
