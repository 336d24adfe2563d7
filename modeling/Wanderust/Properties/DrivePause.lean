import Wanderust.Properties.RoadGraph
import Wanderust.Sim.Timers

/-!
# Driving and pausing

Over a run of the simulator the times and the speed stay in their ranges, and
what it shows agrees with the motion: it moves at a speed of the range, or it
stands with the speed zero.
-/

namespace Wanderust

open Sim

theorem drive_pause_machine {F : Type} [ExactArith F]
    (fromStr : String -> Except String (Graph F)) (graphJson : String) (seed : F)
    (g : Graph F) (hjson : fromStr graphJson = .ok g) (hg : g.WellFormed) :
    forall s, Simulator.build fromStr graphJson seed = .ok (.ok s) ->
      forall dts : List F, exists s1, s.advances dts = .ok s1 ∧
        (30 / (36 / 10) ≤ s1.speedMps ∧ s1.speedMps < 70 / (36 / 10)) ∧
        (0 < s1.driveSecsLeft ∧ s1.driveSecsLeft < 600) ∧
        (0 ≤ s1.pauseSecsLeft ∧ s1.pauseSecsLeft < 240) ∧
        (s1.moving = false -> s1.speedKmh = 0) ∧
        forall dt, exists s2, s1.advance dt = .ok s2 ∧
          (0 < dt -> s2.moving = true -> 30 ≤ s2.speedKmh ∧ s2.speedKmh < 70) ∧
          (s2.moving = false ->
            s2.lat = s1.lat ∧ s2.lon = s1.lon ∧ s2.fromNode = s1.fromNode ∧
              s2.toNode = s1.toNode ∧ s2.offsetM = s1.offsetM) := by
  intro s hs dts
  rw [build_of_parsed hjson seed] at hs
  have hstarted := ofGraph_started hs
  rcases (hstarted.onRoad hg).advances hg dts with ⟨s1, hs1, hroad⟩
  have hschedule := hstarted.onSchedule.advances hs1
  refine ⟨s1, hs1, hschedule.speed, hschedule.drive, hschedule.pause, hschedule.still, ?_⟩
  intro dt
  rcases hroad.advance hg dt with ⟨s2, hs2, _⟩
  have hshown := hschedule.advance hs2
  refine ⟨s2, hs2, hshown.moving, fun hstill => ?_⟩
  have hstands := hshown.still hstill
  exact ⟨hstands.lat, hstands.lon, hstands.fromNode, hstands.toNode, hstands.offsetM⟩

section

attribute [local instance] realArith

theorem drive_pause_machine_twoNodes :
    exists s, Simulator.build parseTwoNodes twoNodesJson 0 = .ok (.ok s) ∧
      exists s1, s.advances [100, 700, 5] = .ok s1 ∧ s1.driveSecsLeft < 600 := by
  rcases build_twoNodes with ⟨s, hs⟩
  rcases drive_pause_machine parseTwoNodes twoNodesJson 0 twoNodes parse_twoNodes
    wellFormed_twoNodes s hs [100, 700, 5] with ⟨s1, hs1, _, hdrive, _⟩
  exact ⟨s, hs, s1, hs1, hdrive.2⟩

end

end Wanderust
