import Wanderust.Properties.Distances
import Wanderust.Properties.RoadGraph
import Wanderust.Sim.Travelled

/-!
# The distance of one advance

A call that drives spends its metres on the way through the nodes that its loop
passes, to the last metre unless it passes as many nodes as the cap allows.  A call
that does not drive leaves the vehicle at its point, and the ways of a run join.
-/

namespace Wanderust

open Sim

theorem distance_budget {F : Type} [ExactArith F] (g : Graph F) (hg : g.WellFormed)
    (hlengths : Lengths g) :
    (forall s dtSecs, OnRoad g s -> 0 < dtSecs ->
      (s.Drives dtSecs ->
        exists s' metres, s.advance dtSecs = .ok s' ∧
          TravelsOn g s.place metres (s.advanceRoute dtSecs).log s'.place ∧
          (s.advanceRoute dtSecs).log.length ≤ 10000 ∧
          metres ≤ (s.loopStart dtSecs).speedMps * dtSecs ∧
          ((s.advanceRoute dtSecs).log.length ≠ 10000 ->
            metres = (s.loopStart dtSecs).speedMps * dtSecs)) ∧
      (¬ s.Drives dtSecs ->
        exists s', s.advance dtSecs = .ok s' ∧ s'.place = s.place ∧
          s'.lat = s.lat ∧ s'.lon = s.lon)) ∧
    forall (fromStr : String -> Except String (Graph F)) (graphJson : String) (seed : F)
      (s : Simulator F), fromStr graphJson = .ok g ->
      Simulator.build fromStr graphJson seed = .ok (.ok s) ->
      forall dts s1, s.advances dts = .ok s1 ->
        (exists metres, TravelsOn g s.place metres (s.advancesRoute dts).log s1.place ∧
          metres ≤ 70 / (36 / 10) * (dts.map elapsed).sum) ∧
        forall dtSecs, 0 < dtSecs ->
          exists s2 metres, s1.advance dtSecs = .ok s2 ∧
            TravelsOn g s1.place metres (s1.advanceRoute dtSecs).log s2.place ∧
            metres ≤ 70 / (36 / 10) * dtSecs := by
  constructor
  · intro s dtSecs h hdt
    constructor
    · exact h.advance_travels hg hlengths
    · intro hdrives
      rcases advance_stands hdrives with ⟨s', hs', hstands⟩
      exact ⟨s', hs', hstands.place, hstands.lat, hstands.lon⟩
  · intro fromStr graphJson seed s hjson hs dts s1 hs1
    rw [build_of_parsed hjson seed] at hs
    have hstarted := ofGraph_started hs
    have hroad := hstarted.onRoad hg
    rcases hroad.advances_bounded hg hlengths hstarted.onSchedule dts with
      ⟨s1', metres, hs1', htravels, hmetres⟩
    rcases hroad.advances hg dts with ⟨s1'', hs1'', hroad1⟩
    rw [hs1] at hs1' hs1''
    cases hs1'
    cases hs1''
    refine ⟨⟨metres, htravels, hmetres⟩, ?_⟩
    intro dtSecs hdt
    have hspeed := (hstarted.onSchedule.advances hs1).speed
    have hbounded := hroad1.advance_bounded hg hlengths hspeed dtSecs
    rw [elapsed_of_pos hdt] at hbounded
    exact hbounded

theorem lengths_of_nonneg {F : Type} [ExactArith F]
    (hnonneg : forall lat1 lon1 lat2 lon2 : F, 0 ≤ Arith.haversineM lat1 lon1 lat2 lon2)
    (g : Graph F) : Lengths g := by
  intro i j _
  unfold Graph.lengthOf
  cases hseg : g.segLenM i j with
  | error e => exact le_refl 0
  | ok seg =>
      unfold Graph.segLenM at hseg
      rcases bind_ok_iff.mp hseg with ⟨a, _, hseg⟩
      rcases bind_ok_iff.mp hseg with ⟨b, _, hseg⟩
      cases hseg
      exact hnonneg a.1 a.2 b.1 b.2

section

attribute [local instance] realArith

theorem lengths_real (g : Graph ℝ) : Lengths g := by
  apply lengths_of_nonneg
  intro lat1 lon1 lat2 lon2
  show 0 ≤ Sim.haversineM lat1 lon1 lat2 lon2
  rw [← haversineM_eq_sim]
  exact (haversineM_range lat1 lon1 lat2 lon2).1

end

section

attribute [local instance] rationalArith

/-- A block with both of its diagonals, so that each of its corners is a crossing. -/
def block : Graph ℚ where
  nodes := [(45, 7), (45, 7001 / 1000), (45001 / 1000, 7), (45001 / 1000, 7001 / 1000)]
  adj := [[1, 2, 3], [0, 2, 3], [0, 1, 3], [0, 1, 2]]

def parseBlock (_ : String) : Except String (Graph ℚ) := .ok block

def blockStart : Option (Simulator ℚ) :=
  match Simulator.build parseBlock "" 7 with
  | .ok (.ok s) => some s
  | _ => none

theorem adjacent_block {i j : Nat} : block.Adjacent i j <-> i < 4 ∧ j < 4 ∧ i ≠ j := by
  unfold Graph.Adjacent block
  match i with
  | 0 => simp; omega
  | 1 => simp; omega
  | 2 => simp; omega
  | 3 => simp; omega
  | n + 4 => simp

theorem wellFormed_block : block.WellFormed where
  length := rfl
  inRange _ _ h := (adjacent_block.mp h).2.1
  symmetric := by
    intro i j h
    rcases adjacent_block.mp h with ⟨hi, hj, hne⟩
    exact adjacent_block.mpr ⟨hj, hi, hne.symm⟩

theorem lengths_rational (g : Graph ℚ) : Lengths g := by
  apply lengths_of_nonneg
  intro lat1 lon1 lat2 lon2
  show 0 ≤ 111195 * (|lat2 - lat1| + |lon2 - lon1|)
  positivity

theorem blockStart_drives : blockStart.any (fun s =>
    s.moving && decide (60 < s.driveSecsLeft) && (s.advanceRoute 60).log.length == 3) = true := by
  decide +kernel

end

section

attribute [local instance] realArith rationalArith

/-- A call that passes three nodes of the block, and a first call under the haversine formula. -/
theorem distance_budget_driven :
    (exists s s' metres, Simulator.build parseBlock "" 7 = .ok (.ok s) ∧
      s.advance 60 = .ok s' ∧ (s.advanceRoute 60).log.length = 3 ∧
      TravelsOn block s.place metres (s.advanceRoute 60).log s'.place ∧
      metres = (s.loopStart 60).speedMps * 60) ∧
    exists s : Simulator ℝ, Simulator.build parseTwoNodes twoNodesJson 0 = .ok (.ok s) ∧
      exists s2 metres, s.advance 1 = .ok s2 ∧
        TravelsOn twoNodes s.place metres (s.advanceRoute 1).log s2.place ∧
        metres ≤ 70 / (36 / 10) * 1 := by
  constructor
  · have hstart := blockStart_drives
    unfold blockStart at hstart
    split at hstart
    case h_1 s hs =>
      simp only [Option.any_some, Bool.and_eq_true, decide_eq_true_eq, beq_iff_eq] at hstart
      rcases hstart with ⟨⟨hmoving, hdrive⟩, hpassed⟩
      have hroad : OnRoad block s := by
        have hjson : parseBlock "" = .ok block := rfl
        rw [build_of_parsed hjson 7] at hs
        exact (ofGraph_started hs).onRoad wellFormed_block
      have hbudget := (distance_budget block wellFormed_block (lengths_rational block)).1 s 60
        hroad (by norm_num)
      have hdrives := Simulator.drives_of_moving (moving_iff.mp hmoving) (by norm_num) hdrive
      rcases hbudget.1 hdrives with
        ⟨s', metres, hs', htravels, _, _, hall⟩
      exact ⟨s, s', metres, hs, hs', hpassed, htravels, hall (by rw [hpassed]; decide)⟩
    case h_2 => cases hstart
  · rcases build_twoNodes with ⟨s, hs⟩
    have hbudget := distance_budget twoNodes wellFormed_twoNodes (lengths_real twoNodes)
    exact ⟨s, hs, (hbudget.2 parseTwoNodes twoNodesJson 0 s parse_twoNodes hs [] s rfl).2 1 one_pos⟩

end

end Wanderust
