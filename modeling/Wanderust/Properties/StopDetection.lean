import Mathlib.Analysis.Real.Pi.Bounds
import Wanderust.Session.Conditions
import Wanderust.Stats.Answers

/-!
# Stop detection

The samples of a trip fall into standstills.  Of each standstill six samples
are stored as they are and a seventh with the flag, and the user moves during
the first six samples of every standstill but the first.
-/

namespace Wanderust

open Interleaving Prog Windows

/-! # Standstills -/

section

variable {F : Type} [Geo F] [Bcrypt] {c : ConnId} {user : String} {tripId : Int}
variable {start : Sample F} {samples : List (Sample F)} {s s' : State F}

theorem AttendedTrip.rows (h : AttendedTrip c user tripId start samples s s')
    (hkeys : ForeignKeys s) {p : PositionRecord F} (hp : p.tripId = tripId) :
    s'.positions.lookup p.key = some p.row <->
      p ∈ (tripStandstills start samples).flatMap (standstillRows tripId) := by
  rw [← storedRows_eq]
  exact (tripRun_holds hkeys h.tripRun).rows p hp

theorem AttendedTrip.coord (h : AttendedTrip c user tripId start samples s s')
    (hkeys : ForeignKeys s) :
    s'.lastCoordinates.lookup tripId = some (standstillCoord (lastStandstill start samples)) := by
  rw [(tripRun_holds hkeys h.tripRun).coord, coord_started, coord_standstillsFrom]
  rfl

theorem AttendedTrip.status (h : AttendedTrip c user tripId start samples s s')
    (hkeys : ForeignKeys s) :
    s'.statuses.lookup user =
      some (standstillStatus (decide ((tripStandstills start samples).length = 1))
        (lastStandstill start samples)) := by
  rcases h with ⟨s1, hstart, hsamples⟩
  have hstarted := initializeTrips_holds hkeys (hstart.mono fun _ _ h => h.toElsewhere)
  rw [attendedSamples_status hsamples hstarted (initializeTrips_status hstart), coord_started]
  have hstatus := status_standstillsFrom true { anchor := start, followers := [] } samples
  rw [Bool.true_and] at hstatus
  exact congrArg some hstatus

theorem stop_detection (c : ConnId) (user : String) (tripId : Int) (start : Sample F)
    (samples : List (Sample F)) (s s' : State F) (hkeys : ForeignKeys s)
    (hrun : AttendedTrip c user tripId start samples s s') :
    ((tripStandstills start samples).flatMap Standstill.items = start :: samples ∧
      (forall r, r ∈ tripStandstills start samples ->
        forall p, p ∈ r.followers -> Sample.near r.anchor p = true) ∧
      List.IsChain (Away Sample.near) (tripStandstills start samples)) ∧
    (forall p, p.tripId = tripId -> (s'.positions.lookup p.key = some p.row <->
      p ∈ (tripStandstills start samples).flatMap (standstillRows tripId))) ∧
    s'.lastCoordinates.lookup tripId = some (standstillCoord (lastStandstill start samples)) ∧
    s'.statuses.lookup user =
      some (standstillStatus (decide ((tripStandstills start samples).length = 1))
        (lastStandstill start samples)) := by
  refine ⟨⟨?_, ?_, ?_⟩, ?_, hrun.coord hkeys, hrun.status hkeys⟩
  · exact flatMap_standstills start samples
  · intro r hr
    exact near_of_mem_standstills hr
  · exact standstills_away start samples
  · intro p hp
    exact hrun.rows hkeys hp

end

section

attribute [local instance] plainBcrypt

/-- Eight samples at one place, two at another, half a minute apart. -/
def twoPlaces : List (Sample ℝ) :=
  [60, 90, 120, 150, 180, 210, 240].map origin ++
    [270, 300].map fun ts => { lat := 1, lon := 0, ts }

theorem twoPlaces_standstills : tripStandstills (origin 30) twoPlaces =
    [{ anchor := origin 30, followers := [60, 90, 120, 150, 180, 210, 240].map origin },
      { anchor := { lat := 1, lon := 0, ts := 270 }
        followers := [{ lat := 1, lon := 0, ts := 300 }] }] := by
  have haway : coordsEqual (0 : ℝ) 0 1 0 = false := by
    rw [Bool.eq_false_iff]
    intro hequal
    rw [coordsEqual_meridian 0 zero_le_one (by norm_num)] at hequal
    have hpi := Real.pi_gt_three
    linarith
  simp [tripStandstills, standstills, standstillsFrom, twoPlaces, origin, Sample.near,
    coordsEqual_self, haway]

/-- The seventh sample is flagged and the eighth is not stored; then the user moves. -/
theorem stop_detection_twoPlaces :
    exists s', AttendedTrip 0 "u" 1 (origin 30) twoPlaces (newcomer ℝ "u") s' ∧
      s'.positions.lookup (1, 210) = some { lat := 0, lon := 0, stopped := true } ∧
      s'.positions.lookup (1, 240) = none ∧
      s'.lastCoordinates.lookup 1 = some { lat := 1, lon := 0, n := 2, inserted := false } ∧
      s'.statuses.lookup "u" = some .moving := by
  have hincreasing : Increasing (origin 30) twoPlaces := by
    simp [Increasing, twoPlaces, origin]
  rcases newcomer_attendedTrip 0 "u" 1 hincreasing with ⟨s', hrun, _⟩
  rcases stop_detection 0 "u" 1 _ _ _ s' (newcomer_foreignKeys "u") hrun with
    ⟨_, hrows, hcoord, hstatus⟩
  unfold lastStandstill at hcoord hstatus
  simp only [twoPlaces_standstills] at hrows hcoord hstatus
  refine ⟨s', hrun, ?_, ?_, hcoord.trans ?_, hstatus.trans ?_⟩
  · refine (hrows ⟨1, 210, 0, 0, true⟩ rfl).mpr ?_
    simp [standstillRows, Standstill.items, Sample.row, origin]
  · cases hrow : s'.positions.lookup (1, 240) with
    | none => rfl
    | some row =>
        have hmem := (hrows ⟨1, 240, row.lat, row.lon, row.stopped⟩ rfl).mp hrow
        simp [standstillRows, Standstill.items, Sample.row, origin] at hmem
  · simp [standstillCoord, Standstill.items]
  · simp [standstillStatus, Standstill.items]

end

/-! # Any notion of nearness -/

section

variable {F : Type} [Field F] [LinearOrder F] [IsStrictOrderedRing F]
variable (near : F -> F -> F -> F -> Bool)

/-- A distance under which two coordinates count as equal when the given relation holds. -/
@[reducible] def Geo.ofRelation : Geo F where
  haversineM aLat aLon bLat bLon := if near aLat aLon bLat bLon then 0 else 10

theorem coordsEqual_ofRelation (aLat aLon bLat bLon : F) :
    @coordsEqual F (Geo.ofRelation near) aLat aLon bLat bLon = near aLat aLon bLat bLon := by
  have hdistance : @Geo.haversineM F (Geo.ofRelation near) aLat aLon bLat bLon =
      if near aLat aLon bLat bLon then 0 else 10 := rfl
  unfold coordsEqual movementEpsMeters
  rw [hdistance]
  cases near aLat aLon bLat bLon with
  | true =>
      rw [if_pos rfl, decide_eq_true_eq]
      norm_num
  | false =>
      rw [if_neg Bool.false_ne_true, decide_eq_false_iff_not]
      norm_num

def Sample.related (p q : Sample F) : Bool := near p.lat p.lon q.lat q.lon

theorem tripStandstills_ofRelation (start : Sample F) (samples : List (Sample F)) :
    @tripStandstills F (Geo.ofRelation near) start samples =
      standstills (Sample.related near) start samples := by
  have hnear : @Sample.near F (Geo.ofRelation near) = Sample.related near := by
    funext p q
    exact coordsEqual_ofRelation near p.lat p.lon q.lat q.lon
  unfold tripStandstills
  rw [hnear]

/-- The standstills of any relation are stored in the same way. -/
theorem stops_ofRelation [Bcrypt] {c : ConnId} {user : String} {tripId : Int} {start : Sample F}
    {samples : List (Sample F)} {s s' : State F} (hkeys : ForeignKeys s)
    (hrun : @AttendedTrip F (Geo.ofRelation near) _ c user tripId start samples s s') :
    (forall p, p.tripId = tripId -> (s'.positions.lookup p.key = some p.row <->
      p ∈ (standstills (Sample.related near) start samples).flatMap (standstillRows tripId))) ∧
    exists last, last ∈ (standstills (Sample.related near) start samples).getLast? ∧
      s'.lastCoordinates.lookup tripId = some (standstillCoord last) ∧
      s'.statuses.lookup user = some (standstillStatus
        (decide ((standstills (Sample.related near) start samples).length = 1)) last) := by
  let _ : Geo F := Geo.ofRelation near
  rw [← tripStandstills_ofRelation]
  refine ⟨?_, _, ?_, hrun.coord hkeys, hrun.status hkeys⟩
  · intro p hp
    exact hrun.rows hkeys hp
  · exact List.getLast?_eq_getLast_of_ne_nil _

end

end Wanderust
