import Wanderust.Session.Conditions
import Wanderust.Stats.Attended

/-!
# Failed updates

`update_trip` changes the entry of the trip in memory before it inserts the
row, so a refused row leaves the entry changed.
-/

namespace Wanderust

open Interleaving Prog Windows

variable {F : Type} {tripId : Int} {c : ConnId} {user e : String} {s s' : State F}
variable {lat lon : F} {ts : Int}

structure LeftAlone (tripId : Int) (user : String) (s s' : State F) : Prop where
  coord : s'.lastCoordinates.lookup tripId = s.lastCoordinates.lookup tripId
  rows : forall ts, s'.positions.lookup (tripId, ts) = s.positions.lookup (tripId, ts)
  status : s'.statuses.lookup user = s.statuses.lookup user

theorem Apart.leftAlone (h : Apart tripId user s s') : LeftAlone tripId user s s' :=
  ⟨h.coord, h.rows, h.status⟩

section

variable [Geo F] [Bcrypt]

theorem eval_insertPosition_error {env : State F -> State F -> Prop} {stopped : Bool}
    (h : Eval exec env c (insertPosition tripId lat lon ts stopped) s (.error e) s') :
    env s s' := by
  rw [insertPosition, sql, eval_mapError_error] at h
  rcases h with ⟨e', _, heval⟩
  rcases (eval_act (by simp)).mp heval with ⟨ch, s1, henv, hexec⟩
  rcases exec_insertPosition hexec with ⟨rfl, _⟩ | ⟨_, _, hok, _⟩
  · exact henv
  · cases hok

/-- The samples that add a row change the entry of the trip, whatever becomes of the row. -/
theorem updateTrip_error
    (h : Eval exec (Apart tripId user) c (updateTrip tripId user lat lon ts) s (.error e) s') :
    (s.lastCoordinates.lookup tripId = none ∧ LeftAlone tripId user s s') ∨
      exists coord stopped, s.lastCoordinates.lookup tripId = some coord ∧
        (coord.observe lat lon).2.1 = .insert stopped ∧
        s'.lastCoordinates.lookup tripId = some (coord.observe lat lon).1 ∧
        (forall ts, s'.positions.lookup (tripId, ts) = s.positions.lookup (tripId, ts)) ∧
        s'.statuses.lookup user = s.statuses.lookup user := by
  rw [updateTrip, bind_def, eval_bind] at h
  rcases h with ⟨r, s2, hobserve, hrest⟩
  rcases (eval_act (by simp)).mp hobserve with ⟨ch, s1, henv, hexec⟩
  cases hcoord : s.lastCoordinates.lookup tripId with
  | none =>
      have hheld := henv.coord.trans hcoord
      simp only [exec, hheld, Outcome.done.injEq] at hexec
      rcases hexec with ⟨rfl, rfl⟩
      rcases eval_pure_iff.mp hrest with ⟨_, rfl⟩
      exact Or.inl ⟨rfl, henv.leftAlone⟩
  | some coord =>
      have hheld := henv.coord.trans hcoord
      simp only [exec, hheld, Outcome.done.injEq] at hexec
      rcases hexec with ⟨rfl, rfl⟩
      right
      rcases eval_bindOk_error.mp hrest with hinsert | ⟨_, s3, _, htransition⟩
      · cases haction : (coord.observe lat lon).2.1 with
        | insert stopped =>
            rw [haction, applyInsert, eval_mapError_error] at hinsert
            rcases hinsert with ⟨e', _, hrefused⟩
            have hafter := eval_insertPosition_error hrefused
            refine ⟨coord, stopped, rfl, haction, ?_, ?_, ?_⟩
            · rw [hafter.coord]
              simp
            · intro ts'
              rw [hafter.rows]
              exact henv.rows ts'
            · rw [hafter.status]
              exact henv.status
        | skip =>
            rw [haction, applyInsert, eval_pure_iff] at hinsert
            cases hinsert.1
      · -- the transition cannot fail
        rw [bind_def, eval_bind] at htransition
        rcases htransition with ⟨_, s4, _, hpure⟩
        cases (eval_pure_iff.mp hpure).1

end

theorem observe_ne_of_insert {coord : CoordState ℝ} {lat lon : ℝ} {stopped : Bool}
    (h : (coord.observe lat lon).2.1 = .insert stopped) : (coord.observe lat lon).1 ≠ coord := by
  intro hsame
  cases hequal : coordsEqual coord.lat coord.lon lat lon with
  | false =>
      -- the anchor would be the sample itself, which is near itself
      have hlat : lat = coord.lat := by
        have hfield := congrArg CoordState.lat hsame
        rwa [CoordState.observe, if_neg (by simp [hequal])] at hfield
      have hlon : lon = coord.lon := by
        have hfield := congrArg CoordState.lon hsame
        rwa [CoordState.observe, if_neg (by simp [hequal])] at hfield
      rw [hlat, hlon, coordsEqual_self] at hequal
      cases hequal
  | true =>
      by_cases hn : coord.n < stopThresholdSamples
      · have hfield := congrArg CoordState.n hsame
        simp [CoordState.observe, hequal, hn] at hfield
      · cases hinserted : coord.inserted with
        | false =>
            have hfield := congrArg CoordState.inserted hsame
            simp [CoordState.observe, hequal, hn, hinserted] at hfield
        | true => simp [CoordState.observe, hequal, hn, hinserted] at h

theorem failed_update_iff [Bcrypt] (c : ConnId) (tripId : Int) (user : String) (lat lon : ℝ)
    (ts : Int) (e : String) (s s' : State ℝ)
    (h : Eval exec (Apart tripId user) c (updateTrip tripId user lat lon ts) s (.error e) s') :
    LeftAlone tripId user s s' <-> s.lastCoordinates.lookup tripId = none := by
  rcases updateTrip_error h with ⟨hnone, halone⟩ | ⟨coord, stopped, hcoord, haction, hafter, _⟩
  · exact iff_of_true halone hnone
  · apply iff_of_false
    · intro halone
      rw [halone.coord, hcoord] at hafter
      exact observe_ne_of_insert haction (Option.some.inj hafter).symm
    · rw [hcoord]
      exact Option.some_ne_none coord

section

attribute [local instance] plainBcrypt

theorem failed_update_untracked :
    Eval exec (Apart 1 "u") 0 (updateTrip 1 "u" (0 : ℝ) 0 60) (newcomer ℝ "u")
        (.error "Trip ID 1 not found in store") (newcomer ℝ "u") ∧
      LeftAlone 1 "u" (newcomer ℝ "u") (newcomer ℝ "u") := by
  have hrun : Eval exec (Apart 1 "u") 0 (updateTrip 1 "u" (0 : ℝ) 0 60) (newcomer ℝ "u")
      (.error "Trip ID 1 not found in store") (newcomer ℝ "u") :=
    eval_bind.mpr ⟨none, newcomer ℝ "u",
      (eval_act (by simp)).mpr ⟨Choice.succeeding 0, newcomer ℝ "u",
        apart_of_eq 1 "u" _ _ rfl, rfl⟩,
      Eval.pure _ _⟩
  exact ⟨hrun, (failed_update_iff 0 1 "u" 0 0 60 _ _ _ hrun).mpr rfl⟩

/-- The client repeats the time of its last sample: the row is refused, but it has been counted. -/
theorem refused_sample_counted :
    exists s s' : State ℝ, exists e : String,
      Eval exec Eq 0 (initializeTrips "u" (0 : ℝ) 0 30) (newcomer ℝ "u") (.ok 1) s ∧
      Eval exec Eq 0 (updateTrip 1 "u" (0 : ℝ) 0 30) s (.error e) s' ∧
      (s.lastCoordinates.lookup 1).map CoordState.n = some 1 ∧
      (s'.lastCoordinates.lookup 1).map CoordState.n = some 2 ∧
      ¬ LeftAlone 1 "u" s s' := by
  rcases @initializeTrips_runs ℝ 1 "u" (newcomer ℝ "u") _ _ 0 (origin 30) rfl rfl rfl with
    ⟨s, hstart, hsame⟩
  have htrip : (s.trips.lookup 1).isSome = true := by
    rw [hsame.trips]
    rfl
  have htaken : (s.positions.lookup (1, 30)).isSome = true := by
    rw [hsame.positions]
    rfl
  have hcoord : s.lastCoordinates.lookup 1 = some (CoordState.started (origin 30)) := by
    rw [hsame.lastCoordinates]
    rfl
  have hobserve : (CoordState.started (origin 30)).observe 0 0 =
      ({ CoordState.started (origin 30) with n := 2 }, .insert false, .unchanged) := by
    have hequal : coordsEqual (CoordState.started (origin 30)).lat
        (CoordState.started (origin 30)).lon 0 0 = true := coordsEqual_self 0 0
    rw [CoordState.observe, if_pos hequal]
    rfl
  let s' : State ℝ :=
    { s with
      lastCoordinates :=
        s.lastCoordinates.insert 1 { CoordState.started (origin 30) with n := 2 } }
  have hfirst : Eval exec Eq 0 (act (.observeCoord 1 (0 : ℝ) 0)) s
      (some (.insert false, .unchanged)) s' :=
    act_runs (Choice.succeeding 0) (by simp) (by simp only [exec, hcoord, hobserve, s'])
  have hrefused : Eval exec Eq 0 (insertPosition 1 (0 : ℝ) 0 30 false) s' (.error "") s' := by
    refine eval_mapError_error.mpr ⟨{ uniqueViolation := true, text := "" }, rfl,
      act_runs (Choice.succeeding 0) (by simp) ?_⟩
    have htaken' : s'.positions.lookup (1, 30) ≠ none := by
      rw [Option.isSome_iff_ne_none] at htaken
      exact htaken
    rcases Option.ne_none_iff_exists'.mp htaken' with ⟨row, hrow⟩
    simp [exec, Choice.succeeding, insertPositionRow, hrow]
  have hupdate : Eval exec Eq 0 (updateTrip 1 "u" (0 : ℝ) 0 30) s
      (.error ("Failed to insert position: " ++ "")) s' :=
    eval_bind.mpr ⟨_, s', hfirst, eval_bindOk_error.mpr
      (Or.inl (eval_mapError_error.mpr ⟨"", rfl, hrefused⟩))⟩
  refine ⟨s, s', _, hstart, hupdate, ?_, ?_, ?_⟩
  · rw [hcoord]
    rfl
  · simp [s']
  · intro halone
    have hn := congrArg (Option.map CoordState.n) halone.coord
    rw [hcoord] at hn
    simp [s', CoordState.started] at hn

end

end Wanderust
