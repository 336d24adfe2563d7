import Wanderust.Properties.ExportedGraph
import Wanderust.Properties.PageRequests
import Wanderust.Web.Drive

/-!
# The positions that the page sends

From the Overpass answer over the exporter and the simulator to the requests of
the page: every place that a request tells of lies on a road of the map.  The
times of the positions follow a fixed schedule from each START_TRIP on.
-/

namespace Wanderust

open Sim Page Tools

variable {F : Type}

def Message.place? : Message F -> Option (F × F)
  | .startTrip _ lat lon _ => some (lat, lon)
  | .position _ _ lat lon _ => some (lat, lon)
  | _ => none

theorem placed_of_made [ExactArith F] {g : Graph F} {page : Page.State F}
    (h : forall e, e ∈ page.history -> Placed g e) {msg : Message F} (hmsg : msg ∈ page.made)
    {lat lon : F} (hplace : msg.place? = some (lat, lon)) : AtRoad g lat lon := by
  rcases List.mem_filterMap.mp hmsg with ⟨e, he, hmade⟩
  have hplaced := h e he
  cases e with
  | queued msg' =>
      cases hmade
      cases msg with
      | startTrip token lat' lon' ts =>
          cases hplace
          exact hplaced
      | position token tripId lat' lon' ts =>
          cases hplace
          exact hplaced
      | _ => cases hplace
  | _ => cases hmade

def OnEarth [ExactArith F] (p : F × F) : Prop :=
  (-90 ≤ p.1 ∧ p.1 ≤ 90) ∧ -180 ≤ p.2 ∧ p.2 ≤ 180

theorem onEarth_of_inBox [ExactArith F] {a b p : F × F} (ha : OnEarth a) (hb : OnEarth b)
    (h : InBox a b p) : OnEarth p :=
  ⟨⟨(le_min ha.1.1 hb.1.1).trans h.1.1, h.1.2.trans (max_le ha.1.2 hb.1.2)⟩,
    (le_min ha.2.1 hb.2.1).trans h.2.1, h.2.2.trans (max_le ha.2.2 hb.2.2)⟩

/--
A place that is sent lies in the box of two nodes that some way has one after
the other, and it is on the earth where the nodes are.
-/
theorem page_places [ExactArith F] (fromStr : String -> Except String (Graph F)) (osm : Osm F)
    (g : RoadGraph F) (hexport : buildGraph osm = .ok g) (hsize : g.nodes.length ≤ 2 ^ 32)
    (page : Page.State F)
    (h : ReachableOn fromStr (fun graphJson => fromStr graphJson = .ok g.toSim) page)
    (msg : Message F) (hmsg : msg ∈ page.made) (lat lon : F)
    (hplace : msg.place? = some (lat, lon)) :
    (exists a b ca cb, (Follows osm a b ∨ Follows osm b a) ∧ HasCoords osm.elements a ca ∧
      HasCoords osm.elements b cb ∧ InBox ca cb (lat, lon)) ∧
    ((forall id c, HasCoords osm.elements id c -> OnEarth c) -> OnEarth (lat, lon)) := by
  have hg := wellFormed_of_buildGraph hexport
  have hdrive := driveInv_reachable (hg.toSim hsize) h
  rcases placed_of_made hdrive.placed hmsg hplace with ⟨i, j, a, b, hedge, ha, hb, hbox⟩
  rcases road_of_lists hexport ((hg.adjacent_iff hsize).mp hedge) with
    ⟨ida, idb, ca, cb, hca, hcb, hcoordsA, hcoordsB, hfollows⟩
  cases hca.symm.trans ha
  cases hcb.symm.trans hb
  refine ⟨⟨ida, idb, _, _, hfollows, hcoordsA, hcoordsB, hbox⟩, ?_⟩
  intro hearth
  exact onEarth_of_inBox (hearth _ _ hcoordsA) (hearth _ _ hcoordsB) hbox

section

attribute [local instance] rationalArith

/-- The answer for the road between the two corners. -/
def cornersOsm : Osm ℚ where
  elements := [.node 1 45 7, .way (some [1, 2]), .node 2 45 8]

def cornersGraph : RoadGraph ℚ where
  nodes := [(45, 7), (45, 8)]
  adj := [[1], [0]]

theorem cornersGraph_exported : buildGraph cornersOsm = .ok cornersGraph := by
  have hrows : buildGraph cornersOsm =
      .ok { nodes := [(45, 7), (45, 8)], adj := [Finset.sort {1}, Finset.sort {0}] } := rfl
  rw [hrows, Finset.sort_singleton, Finset.sort_singleton]
  rfl

theorem cornersOsm_onEarth (id : Int) (c : ℚ × ℚ) (h : HasCoords cornersOsm.elements id c) :
    OnEarth c := by
  rcases h with ⟨before, later, helements, _⟩
  have hmem : .node id c.1 c.2 ∈ cornersOsm.elements := by
    rw [helements]
    exact List.mem_append_right before List.mem_cons_self
  have hcases : c.1 = 45 ∧ (c.2 = 7 ∨ c.2 = 8) := by
    simp only [cornersOsm, List.mem_cons, Element.node.injEq, List.not_mem_nil, or_false,
      reduceCtorEq, false_or] at hmem
    tauto
  unfold OnEarth
  rw [hcases.1]
  rcases hcases.2 with hlon | hlon
  · rw [hlon]
    norm_num
  · rw [hlon]
    norm_num

def onTheWay : Message ℚ := (visited.made[2]?).getD .ack

def clicked : Page.Event ℚ := (visited.history[4]?).getD .quit

theorem visited_driven :
    onTheWay.place?.isSome = true ∧ onTheWay ∈ visited.made ∧
      visited.history = visited.history.take 4 ++ clicked :: visited.history.drop 5 ∧
      clicked.startTs = some 1000 ∧ (positionTimes (visited.history.drop 5)).length = 1 ∧
      ticks visited.history = 301 := by
  decide +kernel

theorem page_places_visited :
    exists lat lon, onTheWay.place? = some (lat, lon) ∧
      (exists a b ca cb, (Follows cornersOsm a b ∨ Follows cornersOsm b a) ∧
        HasCoords cornersOsm.elements a ca ∧ HasCoords cornersOsm.elements b cb ∧
        InBox ca cb (lat, lon)) ∧
      OnEarth (lat, lon) := by
  rcases Option.isSome_iff_exists.mp visited_driven.1 with ⟨⟨lat, lon⟩, hplace⟩
  have h := page_places parseTwoCorners cornersOsm cornersGraph cornersGraph_exported (by decide)
    visited visited_reachable onTheWay visited_driven.2.1 lat lon hplace
  exact ⟨lat, lon, hplace, h.1, h.2 cornersOsm_onEarth⟩

end

end Wanderust
