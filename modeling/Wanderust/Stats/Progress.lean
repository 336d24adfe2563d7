import Wanderust.Stats.TripRuns

/-!
# Accepted requests

The programs of the trips module succeed where their rows fit the tables, and
leave the stores in a given state.
-/

namespace Wanderust

open Interleaving Prog Windows

variable {F : Type} {tripId : Int} {user : String} {s s' s'' : State F}

/-! # The stores after a request -/

/-- The two states differ in statuses, sinks and traffic at most. -/
structure SameStores (s s' : State F) : Prop where
  users : s'.users = s.users
  trips : s'.trips = s.trips
  positions : s'.positions = s.positions
  sessions : s'.sessions = s.sessions
  lastCoordinates : s'.lastCoordinates = s.lastCoordinates
  userState : s'.userState = s.userState

theorem SameStores.refl (s : State F) : SameStores s s :=
  ⟨rfl, rfl, rfl, rfl, rfl, rfl⟩

theorem SameStores.trans (h : SameStores s s') (h' : SameStores s' s'') : SameStores s s'' where
  users := h'.users.trans h.users
  trips := h'.trips.trans h.trips
  positions := h'.positions.trans h.positions
  sessions := h'.sessions.trans h.sessions
  lastCoordinates := h'.lastCoordinates.trans h.lastCoordinates
  userState := h'.userState.trans h.userState

def State.withTrip (s : State F) (tripId : Int) (user : String) (start : Sample F) : State F :=
  { s with
    trips := s.trips.insert tripId { username := user, startedAt := start.ts, endedAt := none }
    positions :=
      s.positions.insert (tripId, start.ts) { lat := start.lat, lon := start.lon, stopped := false }
    lastCoordinates := s.lastCoordinates.insert tripId (CoordState.started start) }

def State.withSample (s : State F) (tripId : Int) (coord : CoordState F) (p : Sample F)
    (action : InsertAction) : State F :=
  { s with
    positions :=
      match action with
      | .insert stopped =>
          s.positions.insert (tripId, p.ts) { lat := p.lat, lon := p.lon, stopped }
      | .skip => s.positions
    lastCoordinates := s.lastCoordinates.insert tripId coord }

/-! # Requests that succeed -/

variable [Geo F] [Bcrypt] {c : ConnId} {coord : CoordState F} {p : Sample F}

theorem act_runs (ch : Choice) {o : Op F} (ho : o ≠ .drawFreshToken) {r : o.Ret}
    (hexec : exec c ch o s = .done r s') : Eval exec Eq c (act o) s r s' :=
  (eval_act ho).mpr ⟨ch, s, rfl, hexec⟩

theorem applyTransition_runs (c : ConnId) (user : String) (transition : StatusTransition)
    (s : State F) :
    exists s', Eval exec Eq c (applyTransition user transition) s () s' ∧ SameStores s s' := by
  have hset : forall status, exists s',
      Eval exec Eq c (act (.statusSet user status)) s () s' ∧ SameStores s s' := fun status =>
    ⟨_, act_runs (Choice.succeeding 0) (by simp) rfl, rfl, rfl, rfl, rfl, rfl, rfl⟩
  cases transition with
  | toMoving => exact hset .moving
  | toStationary => exact hset .stationary
  | unchanged => exact ⟨s, Eval.pure () s, SameStores.refl s⟩

theorem insertPosition_runs (c : ConnId) {lat lon : F} {ts : Int} (stopped : Bool)
    (htrip : (s.trips.lookup tripId).isSome = true)
    (hfree : s.positions.lookup (tripId, ts) = none) :
    Eval exec Eq c (insertPosition tripId lat lon ts stopped) s (.ok ())
      { s with positions := s.positions.insert (tripId, ts) { lat, lon, stopped } } :=
  eval_insertPosition.mpr ⟨s, rfl, htrip, hfree, rfl⟩

theorem updateTrip_runs (c : ConnId) (user : String)
    (htrip : (s.trips.lookup tripId).isSome = true)
    (hcoord : s.lastCoordinates.lookup tripId = some coord)
    (hfree : s.positions.lookup (tripId, p.ts) = none) :
    exists s', Eval exec Eq c (updateTrip tripId user p.lat p.lon p.ts) s (.ok ()) s' ∧
      SameStores
        (s.withSample tripId (coord.observe p.lat p.lon).1 p (coord.observe p.lat p.lon).2.1)
        s' := by
  rcases hobserve : coord.observe p.lat p.lon with ⟨coord', action, transition⟩
  have hfirst : Eval exec Eq c (act (.observeCoord tripId p.lat p.lon)) s
      (some (action, transition))
      { s with lastCoordinates := s.lastCoordinates.insert tripId coord' } :=
    act_runs (Choice.succeeding 0) (by simp) (by simp only [exec, hcoord, hobserve])
  have hinsert : Eval exec Eq c (applyInsert tripId p.lat p.lon p.ts action)
      { s with lastCoordinates := s.lastCoordinates.insert tripId coord' } (.ok ())
      (s.withSample tripId coord' p action) := by
    cases action with
    | insert stopped => exact eval_mapError_ok.mpr (insertPosition_runs c stopped htrip hfree)
    | skip => exact Eval.pure _ _
  rcases applyTransition_runs c user transition (s.withSample tripId coord' p action) with
    ⟨s', htransition, hsame⟩
  refine ⟨s', ?_, hsame⟩
  exact eval_bind.mpr ⟨_, _, hfirst, eval_bindOk_ok.mpr
    ⟨(), _, hinsert, eval_bind.mpr ⟨(), s', htransition, Eval.pure _ s'⟩⟩⟩

theorem initializeTrips_runs (c : ConnId) (start : Sample F)
    (huser : (s.users.lookup user).isSome = true) (hid : s.trips.lookup tripId = none)
    (hfree : s.positions.lookup (tripId, start.ts) = none) :
    exists s', Eval exec Eq c (initializeTrips user start.lat start.lon start.ts) s
      (.ok tripId) s' ∧ SameStores (s.withTrip tripId user start) s' := by
  let s1 : State F :=
    { s with
      trips := s.trips.insert tripId { username := user, startedAt := start.ts, endedAt := none } }
  have hinsert : Eval exec Eq c (sql (act (.insertTrip user start.ts))) s (.ok tripId) s1 := by
    rcases Option.isSome_iff_exists.mp huser with ⟨row, huser⟩
    refine eval_mapError_ok.mpr (act_runs (Choice.succeeding tripId) (by simp) ?_)
    simp [exec, Choice.succeeding, hid, insertTripRow, huser, s1]
  have hposition : Eval exec Eq c (insertPosition tripId start.lat start.lon start.ts false) s1
      (.ok ()) _ := insertPosition_runs c false (by simp [s1]) hfree
  rcases applyTransition_runs c user .toStationary (s.withTrip tripId user start) with
    ⟨s', hstatus, hsame⟩
  refine ⟨s', ?_, hsame⟩
  refine eval_bindOk_ok.mpr ⟨tripId, _, eval_mapError_ok.mpr (eval_bindOk_ok.mpr
    ⟨tripId, s1, hinsert, eval_bindOk_ok.mpr ⟨(), _, hposition, Eval.pure _ _⟩⟩), ?_⟩
  exact eval_bind.mpr ⟨(), s.withTrip tripId user start,
    act_runs (Choice.succeeding 0) (by simp) rfl,
    eval_bind.mpr ⟨(), s', hstatus, Eval.pure _ s'⟩⟩

end Wanderust
