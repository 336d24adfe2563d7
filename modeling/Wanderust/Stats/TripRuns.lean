import Wanderust.Interleaving.Evaluation
import Wanderust.Server.World
import Wanderust.Stats.Observations
import Wanderust.Stats.Trajectory

/-!
# Runs of a trip

A trip is started and then given one sample after the other.  Other tasks may
act before each operation, as long as they leave this trip alone.  What the
database holds at the end is the list of stored rows.
-/

namespace Wanderust

open Interleaving Prog Windows

variable {F : Type} {tripId : Int} {c : ConnId} {user : String}

/-! # The database before the trip -/

/-- Rows belong to trips: what the foreign key of `positions` says. -/
def ForeignKeys (s : State F) : Prop :=
  forall key, s.trips.lookup key.1 = none -> s.positions.lookup key = none

/-- The server has been started on a database that holds one user and no trip. -/
def newcomer (F : Type) (user : String) : State F :=
  (World.boot ((∅ : Users).insert user { passwordHash := "", createdAt := 0 }) ∅ ∅).state

theorem newcomer_foreignKeys (user : String) : ForeignKeys (newcomer F user) := by
  intro key _
  simp [newcomer, World.boot]

def origin (ts : Int) : Sample ℝ := { lat := 0, lon := 0, ts }

/-! # What other tasks do meanwhile -/

/-- Nothing happens to the entry of the trip, to its rows, or to its owner. -/
structure Elsewhere (tripId : Int) (s s' : State F) : Prop where
  coord : s'.lastCoordinates.lookup tripId = s.lastCoordinates.lookup tripId
  rows : forall ts, s'.positions.lookup (tripId, ts) = s.positions.lookup (tripId, ts)
  owner : (s'.trips.lookup tripId).map Trip.username =
    (s.trips.lookup tripId).map Trip.username

theorem elsewhere_of_eq (tripId : Int) (s s' : State F) (h : s = s') : Elsewhere tripId s s' := by
  rw [h]
  exact ⟨rfl, fun _ => rfl, rfl⟩

/-- The trip has this owner, this entry in memory, and exactly these rows. -/
structure TripHolds (tripId : Int) (user : String) (coord : Option (CoordState F))
    (rows : List (PositionRecord F)) (s : State F) : Prop where
  coord : s.lastCoordinates.lookup tripId = coord
  owner : (s.trips.lookup tripId).map Trip.username = some user
  rows : forall p, p.tripId = tripId -> (s.positions.lookup p.key = some p.row <-> p ∈ rows)

namespace TripHolds

variable {coord coord' : Option (CoordState F)} {rows : List (PositionRecord F)}
variable {s s' : State F}

theorem env (h : TripHolds tripId user coord rows s) (henv : Elsewhere tripId s s') :
    TripHolds tripId user coord rows s' := by
  constructor
  · rw [henv.coord]
    exact h.coord
  · rw [henv.owner]
    exact h.owner
  · intro p hp
    have hsame : s'.positions.lookup p.key = s.positions.lookup p.key := by
      rw [PositionRecord.key, hp]
      exact henv.rows p.ts
    rw [hsame]
    exact h.rows p hp

theorem ownedBy (h : TripHolds tripId user coord rows s) : OwnedBy s.trips user tripId := by
  have howner := h.owner
  rw [Option.map_eq_some_iff] at howner
  exact howner

theorem setCoord (h : TripHolds tripId user coord rows s)
    (hcoord : s'.lastCoordinates.lookup tripId = coord') (htrips : s'.trips = s.trips)
    (hpositions : s'.positions = s.positions) : TripHolds tripId user coord' rows s' := by
  constructor
  · exact hcoord
  · rw [htrips]
    exact h.owner
  · intro p hp
    rw [hpositions]
    exact h.rows p hp

theorem addRow (h : TripHolds tripId user coord rows s) {r : PositionRecord F}
    (hr : r.tripId = tripId) (hfree : s.positions.lookup r.key = none) :
    TripHolds tripId user coord (rows ++ [r])
      { s with positions := s.positions.insert r.key r.row } := by
  refine ⟨h.coord, h.owner, ?_⟩
  intro p hp
  rw [Table.lookup_insert_eq, List.mem_append, List.mem_singleton]
  by_cases hkey : p.key = r.key
  · have hnew : p ∉ rows := by
      rw [← h.rows p hp, hkey, hfree]
      exact Option.some_ne_none _ ∘ Eq.symm
    have heq : some r.row = some p.row <-> p = r := by
      constructor
      · intro hrow
        have hrec := PositionRecord.ofRow_eq_iff.mpr ⟨hkey.symm, Option.some.inj hrow⟩
        exact hrec.symm
      · intro h
        rcases h with rfl
        rfl
    rw [if_pos hkey, heq]
    exact ⟨Or.inr, fun h => h.resolve_left hnew⟩
  · have hne : p ≠ r := by
      intro h
      rcases h with rfl
      exact hkey rfl
    rw [if_neg hkey, h.rows p hp]
    exact ⟨Or.inl, fun h => h.resolve_right hne⟩

end TripHolds

variable [Geo F] [Bcrypt]

/-! # Runs -/

inductive SamplesRun (c : ConnId) (user : String) (tripId : Int) :
    State F -> List (Sample F) -> State F -> Prop where
  | done {s s' : State F} : Elsewhere tripId s s' -> SamplesRun c user tripId s [] s'
  | sample {s s1 s' : State F} {p : Sample F} {rest : List (Sample F)} :
      Eval exec (Elsewhere tripId) c (updateTrip tripId user p.lat p.lon p.ts) s (.ok ()) s1 ->
      SamplesRun c user tripId s1 rest s' ->
      SamplesRun c user tripId s (p :: rest) s'

/-- The trip is started, with the given id, and its samples follow. -/
def TripRun (c : ConnId) (user : String) (tripId : Int) (start : Sample F)
    (samples : List (Sample F)) (s s' : State F) : Prop :=
  exists s1,
    Eval exec (Elsewhere tripId) c (initializeTrips user start.lat start.lon start.ts) s
      (.ok tripId) s1 ∧
    SamplesRun c user tripId s1 samples s'

/-! # Evaluation of the operations -/

def Choice.succeeding (tripId : Int) : Choice :=
  { fails := false, errorText := "", uuid := "", salt := "", now := 0, tripId }

variable {env : State F -> State F -> Prop}

theorem eval_act {o : Op F} (h : o ≠ .drawFreshToken) {s s' : State F} {r : o.Ret} :
    Eval exec env c (act o) s r s' <->
      exists ch s1, env s s1 ∧ exec c ch o s1 = .done r s' := by
  rw [act, perform, eval_op_iff (fun ch s1 s2 => exec_not_again h)]
  constructor
  · intro h
    rcases h with ⟨ch, r', s1, s2, henv, hexec, hpure⟩
    rcases eval_pure_iff.mp hpure with ⟨rfl, rfl⟩
    exact ⟨ch, s1, henv, hexec⟩
  · intro h
    rcases h with ⟨ch, s1, henv, hexec⟩
    exact ⟨ch, r, s1, s', henv, hexec, Eval.pure r s'⟩

/-- The row has been inserted, since its primary key was free and its trip exists. -/
theorem eval_insertPosition {lat lon : F} {ts : Int} {stopped : Bool} {s s' : State F} :
    Eval exec env c (insertPosition tripId lat lon ts stopped) s (.ok ()) s' <->
      exists s1, env s s1 ∧ (s1.trips.lookup tripId).isSome = true ∧
        s1.positions.lookup (tripId, ts) = none ∧
        s' = { s1 with
          positions := s1.positions.insert (tripId, ts) { lat, lon, stopped } } := by
  rw [insertPosition, sql, eval_mapError_ok, eval_act (by simp)]
  constructor
  · intro h
    rcases h with ⟨ch, s1, henv, hexec⟩
    cases hfails : ch.fails with
    | true => simp [exec, hfails] at hexec
    | false =>
        cases htrip : s1.trips.lookup tripId with
        | none => simp [exec, hfails, insertPositionRow, htrip] at hexec
        | some trip =>
            cases hrow : s1.positions.lookup (tripId, ts) with
            | some old => simp [exec, hfails, insertPositionRow, htrip, hrow] at hexec
            | none =>
                simp only [exec, hfails, insertPositionRow, htrip, hrow, Option.isNone_some,
                  Option.isSome_none, Bool.or_self, Bool.false_eq_true, if_false,
                  Outcome.done.injEq, true_and] at hexec
                exact ⟨s1, henv, by rw [htrip]; rfl, hrow, hexec.symm⟩
  · intro h
    rcases h with ⟨s1, henv, htrip, hrow, rfl⟩
    refine ⟨Choice.succeeding 0, s1, henv, ?_⟩
    rcases Option.isSome_iff_exists.mp htrip with ⟨trip, htrip⟩
    simp [exec, Choice.succeeding, insertPositionRow, htrip, hrow]

/-! # The three programs -/

variable {coord : CoordState F} {held : Option (CoordState F)} {rows : List (PositionRecord F)}
variable {s s' : State F} {p : Sample F}

theorem applyTransition_holds {transition : StatusTransition}
    (h : Eval exec (Elsewhere tripId) c (applyTransition user transition) s () s')
    (hholds : TripHolds tripId user held rows s) : TripHolds tripId user held rows s' := by
  have hset : forall status,
      Eval exec (Elsewhere tripId) c (act (.statusSet user status)) s () s' ->
      TripHolds tripId user held rows s' := by
    intro status heval
    rcases (eval_act (by simp)).mp heval with ⟨ch, s1, henv, hexec⟩
    cases hexec
    exact (hholds.env henv).setCoord (hholds.env henv).coord rfl rfl
  cases transition with
  | toMoving => exact hset .moving h
  | toStationary => exact hset .stationary h
  | unchanged =>
      rcases eval_pure_iff.mp h with ⟨_, rfl⟩
      exact hholds

theorem applyInsert_holds {o : Observation F}
    (h : Eval exec (Elsewhere tripId) c
      (applyInsert tripId o.sample.lat o.sample.lon o.sample.ts o.action) s (.ok ()) s')
    (hholds : TripHolds tripId user held rows s) :
    TripHolds tripId user held (rows ++ kept [o.item tripId]) s' := by
  cases haction : o.action with
  | insert stopped =>
      have hkept : kept [o.item tripId] = [o.row tripId] := by
        simp [kept, Observation.item, Observation.isStored, haction]
      have hrow : (o.row tripId).row =
          { lat := o.sample.lat, lon := o.sample.lon, stopped := stopped } := by
        simp [Observation.row, PositionRecord.row, haction]
      rw [haction, applyInsert, eval_mapError_ok, eval_insertPosition] at h
      rcases h with ⟨s1, henv, _, hfree, rfl⟩
      rw [hkept, ← hrow]
      exact (hholds.env henv).addRow (r := o.row tripId) rfl hfree
  | skip =>
      have hkept : kept [o.item tripId] = [] := by
        simp [kept, Observation.item, Observation.isStored, haction]
      rw [haction, applyInsert, eval_pure_iff] at h
      rw [hkept, List.append_nil, h.2]
      exact hholds

theorem updateTrip_holds
    (h : Eval exec (Elsewhere tripId) c (updateTrip tripId user p.lat p.lon p.ts) s (.ok ()) s')
    (hholds : TripHolds tripId user (some coord) rows s) :
    TripHolds tripId user (some (coord.observe p.lat p.lon).1)
      (rows ++ kept [(coord.observation p).item tripId]) s' := by
  rw [updateTrip, bind_def, eval_bind] at h
  rcases h with ⟨r, s1, hobserve, hrest⟩
  rcases (eval_act (by simp)).mp hobserve with ⟨ch, s0, henv, hexec⟩
  have hheld := hholds.env henv
  simp only [exec, hheld.coord, Outcome.done.injEq] at hexec
  rcases hexec with ⟨rfl, rfl⟩
  rcases eval_bindOk_ok.mp hrest with ⟨_, s2, hinsert, htransition⟩
  rw [bind_def, eval_bind] at htransition
  rcases htransition with ⟨_, s3, htransition, hpure⟩
  rcases eval_pure_iff.mp hpure with ⟨_, rfl⟩
  refine applyTransition_holds htransition
    (applyInsert_holds (o := coord.observation p) hinsert ?_)
  exact hheld.setCoord (by simp) rfl rfl

theorem insertTrip_holds {id : Int} {ts : Int} (hkeys : ForeignKeys s)
    (h : Eval exec (Elsewhere id) c (sql (act (.insertTrip user ts))) s (.ok id) s') :
    TripHolds id user (s'.lastCoordinates.lookup id) [] s' := by
  rw [sql, eval_mapError_ok, eval_act (by simp)] at h
  rcases h with ⟨ch, s1, henv, hexec⟩
  cases hfails : ch.fails with
  | true => simp [exec, hfails] at hexec
  | false =>
      cases htaken : s1.trips.lookup ch.tripId with
      | some trip => simp [exec, hfails, htaken] at hexec
      | none =>
          cases huser : s1.users.lookup user with
          | none => simp [exec, hfails, htaken, insertTripRow, huser] at hexec
          | some row =>
              simp only [exec, hfails, htaken, insertTripRow, huser, Option.isNone_some,
                Option.isSome_none, Bool.false_eq_true, if_false, Outcome.done.injEq,
                Except.ok.injEq] at hexec
              rcases hexec with ⟨rfl, rfl⟩
              have howner := henv.owner
              rw [htaken, Option.map_none, eq_comm, Option.map_eq_none_iff] at howner
              refine ⟨rfl, by simp, ?_⟩
              intro p hp
              have hfree : s1.positions.lookup p.key = none := by
                rw [PositionRecord.key, hp, henv.rows]
                exact hkeys _ howner
              simp [hfree]

theorem initializeTrips_holds {start : Sample F} (hkeys : ForeignKeys s)
    (h : Eval exec (Elsewhere tripId) c (initializeTrips user start.lat start.lon start.ts) s
      (.ok tripId) s') :
    TripHolds tripId user (some (CoordState.started start))
      [(startObservation start).row tripId] s' := by
  rw [initializeTrips, eval_bindOk_ok] at h
  rcases h with ⟨id, s3, hstart, hrest⟩
  rw [eval_mapError_ok, startTrip, eval_bindOk_ok] at hstart
  rcases hstart with ⟨id', s1, hinsert, hposition⟩
  rw [eval_bindOk_ok] at hposition
  rcases hposition with ⟨_, s2, hposition, hpure⟩
  rcases eval_pure_iff.mp hpure with ⟨hid', rfl⟩
  rw [bind_def, eval_bind] at hrest
  rcases hrest with ⟨_, s4, htrack, hrest⟩
  rw [bind_def, eval_bind] at hrest
  rcases hrest with ⟨_, s5, hstatus, hpure⟩
  rcases eval_pure_iff.mp hpure with ⟨hid, rfl⟩
  cases hid
  cases hid'
  have hholds := insertTrip_holds hkeys hinsert
  rw [eval_insertPosition] at hposition
  rcases hposition with ⟨s2, henv, _, hfree, rfl⟩
  have hrow := (hholds.env henv).addRow (r := (startObservation start).row tripId) rfl hfree
  rcases (eval_act (by simp)).mp htrack with ⟨ch, s6, henv', hexec⟩
  cases hexec
  let s7 : State F :=
    { s6 with lastCoordinates := s6.lastCoordinates.insert tripId (CoordState.started start) }
  have htracked : TripHolds tripId user (some (CoordState.started start))
      [(startObservation start).row tripId] s7 :=
    (hrow.env henv').setCoord (by simp [s7]) rfl rfl
  have hstationary : Eval exec (Elsewhere tripId) c (applyTransition user .toStationary) s7 () s' :=
    hstatus
  exact applyTransition_holds hstationary htracked

/-- The induction follows the samples; the rows grow by what each observation stores. -/
theorem samplesRun_holds {samples : List (Sample F)}
    (h : SamplesRun c user tripId s samples s')
    (hholds : TripHolds tripId user (some coord) rows s) :
    TripHolds tripId user (some (coord.after samples))
      (rows ++ kept ((observations coord samples).map (Observation.item tripId))) s' := by
  induction h generalizing coord rows with
  | done henv =>
      rw [observations, List.map_nil, kept, List.append_nil]
      exact hholds.env henv
  | sample hupdate _ ih =>
      have hrest := ih (updateTrip_holds hupdate hholds)
      rw [List.append_assoc, ← kept_append] at hrest
      exact hrest

theorem tripRun_holds {start : Sample F} {samples : List (Sample F)} (hkeys : ForeignKeys s)
    (h : TripRun c user tripId start samples s s') :
    TripHolds tripId user (some ((CoordState.started start).after samples))
      (storedRows tripId start samples) s' := by
  rcases h with ⟨s1, hstart, hsamples⟩
  exact samplesRun_holds hsamples (initializeTrips_holds hkeys hstart)

end Wanderust
