import Wanderust.Graphs.Travel
import Wanderust.Sim.Route
import Wanderust.Sim.Timers

/-!
# The metres of a call

The loop of `advance` turns its budget into a travel along the edges of the
graph, through the nodes that it notes: no metre is lost at a node, and what is
left at the end of the loop is left only because of the cap on the nodes passed.
-/

namespace Wanderust.Sim

open Graphs Simulator

variable {F : Type} [ExactArith F] {g : Graph F} {s s' : Simulator F} {dtSecs : F}

def Graph.lengthOf (g : Graph F) (i j : Nat) : F :=
  match g.segLenM i j with
  | .ok seg => seg
  | .error _ => 0

theorem Graph.lengthOf_eq {i j : Nat} {seg : F} (h : g.segLenM i j = .ok seg) :
    g.lengthOf i j = seg := by
  rw [Graph.lengthOf, h]

def Simulator.place (s : Simulator F) : Place Nat F :=
  { fromNode := s.fromNode, toNode := s.toNode, offset := s.offsetM }

abbrev TravelsOn (g : Graph F) : Place Nat F -> F -> List Nat -> Place Nat F -> Prop :=
  Travels g.Adjacent g.lengthOf

def Lengths (g : Graph F) : Prop := forall i j, g.Adjacent i j -> 0 ≤ g.lengthOf i j

theorem Stands.place (h : Stands s s') : s'.place = s.place := by
  unfold Simulator.place
  rw [h.fromNode, h.toNode, h.offsetM]

theorem updatePosition_place (h : s.updatePosition = .ok s') : s'.place = s.place := by
  rcases updatePosition_ok h with ⟨lat, lon, rfl⟩
  rfl

theorem OnEdge.segLenM (h : OnEdge g s) :
    s.graph.segLenM s.fromNode s.toNode = .ok (g.lengthOf s.fromNode s.toNode) := by
  rcases h.within with ⟨a, b, ha, hb, _⟩
  have hseg := Graph.segLenM_eq ha hb
  rw [h.graph, Graph.lengthOf_eq hseg]
  exact hseg

theorem OnEdge.offset_le (h : OnEdge g s) (hlengths : Lengths g) :
    s.offsetM ≤ g.lengthOf s.fromNode s.toNode := by
  rcases h.within with ⟨a, b, ha, hb, hwithin⟩
  have hlength : g.lengthOf s.fromNode s.toNode = lengthM a b :=
    Graph.lengthOf_eq (Graph.segLenM_eq ha hb)
  rcases hwithin.2 with hlt | hzero
  · rw [hlength]
    exact le_of_lt hlt
  · rw [hzero]
    exact hlengths _ _ h.edge

/-! # The loop -/

/--
The loop travels as far as the budget says, or it passes a node on each of its
turns.
-/
theorem OnEdge.drive_travels (hg : g.WellFormed) (hlengths : Lengths g) (h : OnEdge g s)
    {budgetM : F} (hbudget : 0 ≤ budgetM) (turns : Nat) :
    exists s' metres, Simulator.drive turns budgetM s = .ok s' ∧
      TravelsOn g s.place metres (driveRoute turns budgetM s).log s'.place ∧
      (driveRoute turns budgetM s).log.length ≤ turns ∧ metres ≤ budgetM ∧
      ((driveRoute turns budgetM s).log.length ≠ turns -> metres = budgetM) := by
  induction turns generalizing budgetM s with
  | zero =>
      exact ⟨s, 0, rfl, Travels.refl (h.offset_le hlengths), le_refl 0, hbudget,
        fun hne => absurd rfl hne⟩
  | succ turns ih =>
      have hoffset := h.offset_le hlengths
      have hremain : max (g.lengthOf s.fromNode s.toNode - s.offsetM) 0 =
          g.lengthOf s.fromNode s.toNode - s.offsetM := max_eq_left (sub_nonneg.mpr hoffset)
      unfold Simulator.drive
      rw [bind_ok h.segLenM]
      by_cases hlt : budgetM < g.lengthOf s.fromNode s.toNode - s.offsetM
      · rw [driveRoute_stop turns h.segLenM hlt]
        simp only [hlt, if_true]
        have hend : s.offsetM + budgetM ≤ g.lengthOf s.fromNode s.toNode := by linarith
        exact ⟨_, budgetM, rfl, Travels.along hbudget hend, Nat.zero_le _, le_refl _,
          fun _ => rfl⟩
      · have hto : s.toNode < s.graph.adj.length := by
          rw [h.graph]
          exact (hg.symmetric _ _ h.edge).lt_length
        rcases passNode_ok hto with ⟨s1, hs1, hp, _⟩
        have hleft : 0 ≤ budgetM - (g.lengthOf s.fromNode s.toNode - s.offsetM) :=
          sub_nonneg.mpr (not_lt.mp hlt)
        have h1 := h.passed hg hp
        rcases ih h1 hleft with ⟨s2, metres, hdrive, htravels, hturns, hmetres, hall⟩
        have hplace : s1.place = { fromNode := s.toNode, toNode := s1.toNode, offset := 0 } := by
          unfold Simulator.place
          rw [hp.fromNode, hp.offsetM]
        have hnext : g.Adjacent s.toNode s1.toNode := by
          rw [← hp.fromNode]
          exact h1.edge
        rw [hplace] at htravels
        rw [driveRoute_pass turns h.segLenM hlt hs1, hremain, List.length_cons]
        refine ⟨s2, g.lengthOf s.fromNode s.toNode - s.offsetM + metres, ?_,
          Travels.pass hoffset hnext htravels, Nat.succ_le_succ hturns, by linarith, ?_⟩
        · simp only [hlt, if_false]
          rw [bind_ok hs1, hremain]
          exact hdrive
        · intro hne
          rw [hall fun heq => hne (congrArg Nat.succ heq)]
          ring

/-! # One call -/

theorem OnRoad.loopStart (h : OnRoad g s) (dtSecs : F) : OnRoad g (s.loopStart dtSecs) :=
  h.stands (stands_loopStart s dtSecs)

theorem advanceRoute_resumed (hdt : 0 < dtSecs) (h : ¬ s.Waits dtSecs) :
    s.advanceRoute dtSecs = s.resumed.advanceDrivingRoute dtSecs := by
  have hover : ¬ 0 < s.pauseSecsLeft - dtSecs := by
    rw [sub_pos]
    exact h
  unfold advanceRoute resumed
  rw [if_neg (not_le_of_gt hdt)]
  split
  · exact if_neg hover
  · rfl

theorem advanceRoute_drives (h : s.Drives dtSecs) :
    (s.advanceRoute dtSecs).log =
      (driveRoute maxSteps ((s.loopStart dtSecs).speedMps * dtSecs) (s.loopStart dtSecs)).log := by
  have hover : ¬ s.resumed.driveSecsLeft - dtSecs ≤ 0 := by
    rw [sub_nonpos]
    exact not_le_of_gt h.2.2
  rw [advanceRoute_resumed h.1 h.2.1]
  unfold advanceDrivingRoute
  simp only [hover, if_false]
  exact Logs.Logged.log_bind_silent _ _

theorem advanceRoute_stands (h : ¬ s.Drives dtSecs) : (s.advanceRoute dtSecs).log = [] := by
  by_cases hdt : dtSecs ≤ 0
  · unfold advanceRoute
    rw [if_pos hdt]
    rfl
  · have hpos := lt_of_not_ge hdt
    by_cases hwaits : s.Waits dtSecs
    · have hpause : 0 < s.pauseSecsLeft := lt_trans hpos hwaits
      have hleft : 0 < s.pauseSecsLeft - dtSecs := sub_pos.mpr hwaits
      unfold advanceRoute
      rw [if_neg hdt, if_pos hpause]
      simp only [hleft, if_true]
      rfl
    · have hover : ¬ dtSecs < s.resumed.driveSecsLeft := fun hlt => h ⟨hpos, hwaits, hlt⟩
      rw [advanceRoute_resumed hpos hwaits]
      unfold advanceDrivingRoute
      simp only [sub_nonpos.mpr (not_lt.mp hover), if_true]
      rfl

theorem OnRoad.advance_travels (hg : g.WellFormed) (hlengths : Lengths g) (h : OnRoad g s)
    (hdrives : s.Drives dtSecs) :
    exists s' metres, s.advance dtSecs = .ok s' ∧
      TravelsOn g s.place metres (s.advanceRoute dtSecs).log s'.place ∧
      (s.advanceRoute dtSecs).log.length ≤ maxSteps ∧
      metres ≤ (s.loopStart dtSecs).speedMps * dtSecs ∧
      ((s.advanceRoute dtSecs).log.length ≠ maxSteps ->
        metres = (s.loopStart dtSecs).speedMps * dtSecs) := by
  have hstart := h.loopStart dtSecs
  have hbudget : 0 ≤ (s.loopStart dtSecs).speedMps * dtSecs :=
    mul_nonneg (le_of_lt hstart.speed) (le_of_lt hdrives.1)
  rcases hstart.onEdge.drive_travels hg hlengths hbudget maxSteps with
    ⟨s1, metres, hdrive, htravels, hturns, hmetres, hall⟩
  rcases h.advance hg dtSecs with ⟨s', hs', _⟩
  have hposition : s1.updatePosition = .ok s' := by
    rw [advance_drives hdrives, bind_ok hdrive] at hs'
    exact hs'
  rw [(stands_loopStart s dtSecs).place, ← updatePosition_place hposition] at htravels
  rw [advanceRoute_drives hdrives]
  exact ⟨s', metres, hs', htravels, hturns, hmetres, hall⟩

def elapsed (dtSecs : F) : F := max dtSecs 0

theorem elapsed_nonneg (dtSecs : F) : 0 ≤ elapsed dtSecs := le_max_right _ _

theorem elapsed_of_pos (h : 0 < dtSecs) : elapsed dtSecs = dtSecs := max_eq_left (le_of_lt h)

theorem OnRoad.advance_bounded (hg : g.WellFormed) (hlengths : Lengths g) (h : OnRoad g s)
    (hspeed : InSpeeds s.speedMps) (dtSecs : F) :
    exists s' metres, s.advance dtSecs = .ok s' ∧
      TravelsOn g s.place metres (s.advanceRoute dtSecs).log s'.place ∧
      metres ≤ speedMaxKmh / (36 / 10) * elapsed dtSecs := by
  by_cases hdrives : s.Drives dtSecs
  · rcases h.advance_travels hg hlengths hdrives with
      ⟨s', metres, hs', htravels, _, hmetres, _⟩
    have hstart : (s.loopStart dtSecs).speedMps < speedMaxKmh / (36 / 10) :=
      (hspeed.stands (stands_loopStart s dtSecs)).2
    refine ⟨s', metres, hs', htravels, ?_⟩
    rw [elapsed_of_pos hdrives.1]
    exact le_trans hmetres (mul_le_mul_of_nonneg_right (le_of_lt hstart) (le_of_lt hdrives.1))
  · rcases advance_stands hdrives with ⟨s', hs', hstands⟩
    have hstay : TravelsOn g s.place 0 [] s.place := Travels.refl (h.onEdge.offset_le hlengths)
    have hmax : (0 : F) ≤ speedMaxKmh / (36 / 10) := by
      unfold speedMaxKmh
      norm_num
    refine ⟨s', 0, hs', ?_, mul_nonneg hmax (elapsed_nonneg dtSecs)⟩
    rw [hstands.place, advanceRoute_stands hdrives]
    exact hstay

/-! # Runs -/

/-- The ways of the calls join to one way, bounded by the time of all of them. -/
theorem OnRoad.advances_bounded (hg : g.WellFormed) (hlengths : Lengths g) (h : OnRoad g s)
    (hschedule : OnSchedule s) (dts : List F) :
    exists s' metres, s.advances dts = .ok s' ∧
      TravelsOn g s.place metres (s.advancesRoute dts).log s'.place ∧
      metres ≤ speedMaxKmh / (36 / 10) * (dts.map elapsed).sum := by
  induction dts generalizing s with
  | nil =>
      refine ⟨s, 0, rfl, Travels.refl (h.onEdge.offset_le hlengths), ?_⟩
      rw [List.map_nil, List.sum_nil, mul_zero]
  | cons dt rest ih =>
      rcases h.advance_bounded hg hlengths hschedule.speed dt with
        ⟨s1, metres, hs1, htravels, hmetres⟩
      rcases h.advance hg dt with ⟨s1', hs1', hroad⟩
      rw [hs1] at hs1'
      cases hs1'
      rcases ih hroad (hschedule.advance hs1).schedule with
        ⟨s2, metres', hs2, htravels', hmetres'⟩
      have hroute : (s.advancesRoute (dt :: rest)).log =
          (s.advanceRoute dt).log ++ (s1.advancesRoute rest).log := by
        have hresult := (advanceRoute_result s dt).trans hs1
        rw [advancesRoute, Logs.Logged.bind_ok hresult]
      rw [hroute]
      refine ⟨s2, metres + metres', ?_, htravels.trans htravels', ?_⟩
      · unfold Simulator.advances
        rw [bind_ok hs1]
        exact hs2
      · rw [List.map_cons, List.sum_cons, mul_add]
        exact add_le_add hmetres hmetres'

end Wanderust.Sim
