import Wanderust.Stats.Progress
import Wanderust.Stats.StopRuns

/-!
# Attended trips

Runs of a trip during which the other tasks leave alone the trip and the status
of its user, as they do while the user has one session and one open trip.  Any
samples at increasing times make such a run.
-/

namespace Wanderust

open Interleaving Prog Windows

variable {F : Type} {tripId : Int} {c : ConnId} {user : String} {s s' : State F}

/-- Nothing happens to the trip, to its rows, or to the status of its user. -/
structure Apart (tripId : Int) (user : String) (s s' : State F) : Prop
    extends Elsewhere tripId s s' where
  status : s'.statuses.lookup user = s.statuses.lookup user

theorem apart_of_eq (tripId : Int) (user : String) (s s' : State F) (h : s = s') :
    Apart tripId user s s' := by
  rw [h]
  exact ⟨⟨rfl, fun _ => rfl, rfl⟩, rfl⟩

variable [Geo F] [Bcrypt]

inductive AttendedSamples (c : ConnId) (user : String) (tripId : Int) :
    State F -> List (Sample F) -> State F -> Prop where
  | done {s s' : State F} : Apart tripId user s s' -> AttendedSamples c user tripId s [] s'
  | sample {s s1 s' : State F} {p : Sample F} {rest : List (Sample F)} :
      Eval exec (Apart tripId user) c (updateTrip tripId user p.lat p.lon p.ts) s (.ok ()) s1 ->
      AttendedSamples c user tripId s1 rest s' ->
      AttendedSamples c user tripId s (p :: rest) s'

def AttendedTrip (c : ConnId) (user : String) (tripId : Int) (start : Sample F)
    (samples : List (Sample F)) (s s' : State F) : Prop :=
  exists s1,
    Eval exec (Apart tripId user) c (initializeTrips user start.lat start.lon start.ts) s
      (.ok tripId) s1 ∧
    AttendedSamples c user tripId s1 samples s'

theorem AttendedSamples.samplesRun {samples : List (Sample F)}
    (h : AttendedSamples c user tripId s samples s') :
    SamplesRun c user tripId s samples s' := by
  induction h with
  | done henv => exact SamplesRun.done henv.toElsewhere
  | sample hupdate _ ih =>
      exact SamplesRun.sample (hupdate.mono fun _ _ h => h.toElsewhere) ih

theorem AttendedTrip.tripRun {start : Sample F} {samples : List (Sample F)}
    (h : AttendedTrip c user tripId start samples s s') :
    TripRun c user tripId start samples s s' := by
  rcases h with ⟨s1, hstart, hsamples⟩
  exact ⟨s1, hstart.mono fun _ _ h => h.toElsewhere, hsamples.samplesRun⟩

/-! # The status of the user -/

variable {coord : CoordState F} {status : UserStatus} {p : Sample F}

theorem applyTransition_status {transition : StatusTransition}
    (h : Eval exec (Apart tripId user) c (applyTransition user transition) s () s')
    (hstatus : s.statuses.lookup user = some status) :
    s'.statuses.lookup user = some (transition.applyTo status) := by
  have hset : forall new, Eval exec (Apart tripId user) c (act (.statusSet user new)) s () s' ->
      s'.statuses.lookup user = some new := by
    intro new heval
    rcases (eval_act (by simp)).mp heval with ⟨ch, s1, henv, hexec⟩
    cases hexec
    simp
  cases transition with
  | toMoving => exact hset .moving h
  | toStationary => exact hset .stationary h
  | unchanged =>
      rcases eval_pure_iff.mp h with ⟨_, rfl⟩
      exact hstatus

theorem applyInsert_status {action : InsertAction} {lat lon : F} {ts : Int}
    (h : Eval exec (Apart tripId user) c (applyInsert tripId lat lon ts action) s (.ok ()) s') :
    s'.statuses.lookup user = s.statuses.lookup user := by
  cases action with
  | insert stopped =>
      rw [applyInsert, eval_mapError_ok, eval_insertPosition] at h
      rcases h with ⟨s1, henv, _, _, rfl⟩
      exact henv.status
  | skip =>
      rw [applyInsert, eval_pure_iff] at h
      rw [h.2]

theorem updateTrip_status
    (h : Eval exec (Apart tripId user) c (updateTrip tripId user p.lat p.lon p.ts) s (.ok ()) s')
    (hcoord : s.lastCoordinates.lookup tripId = some coord)
    (hstatus : s.statuses.lookup user = some status) :
    s'.statuses.lookup user =
      some ((coord.observe p.lat p.lon).2.2.applyTo status) := by
  rw [updateTrip, bind_def, eval_bind] at h
  rcases h with ⟨r, s1, hobserve, hrest⟩
  rcases (eval_act (by simp)).mp hobserve with ⟨ch, s0, henv, hexec⟩
  have hheld := henv.coord.trans hcoord
  simp only [exec, hheld, Outcome.done.injEq] at hexec
  rcases hexec with ⟨rfl, rfl⟩
  rcases eval_bindOk_ok.mp hrest with ⟨_, s2, hinsert, htransition⟩
  rw [bind_def, eval_bind] at htransition
  rcases htransition with ⟨_, s3, htransition, hpure⟩
  rcases eval_pure_iff.mp hpure with ⟨_, rfl⟩
  apply applyTransition_status htransition
  rw [applyInsert_status hinsert]
  exact henv.status.trans hstatus

theorem attendedSamples_status {samples : List (Sample F)} {rows : List (PositionRecord F)}
    (h : AttendedSamples c user tripId s samples s')
    (hholds : TripHolds tripId user (some coord) rows s)
    (hstatus : s.statuses.lookup user = some status) :
    s'.statuses.lookup user = some (statusAfter coord status samples) := by
  induction h generalizing coord rows status with
  | done henv => exact henv.status.trans hstatus
  | sample hupdate _ ih =>
      have hnext := updateTrip_holds (hupdate.mono fun _ _ h => h.toElsewhere) hholds
      exact ih hnext (updateTrip_status hupdate hholds.coord hstatus)

theorem initializeTrips_status {lat lon : F} {ts : Int}
    (h : Eval exec (Apart tripId user) c (initializeTrips user lat lon ts) s (.ok tripId) s') :
    s'.statuses.lookup user = some .stationary := by
  rw [initializeTrips, eval_bindOk_ok] at h
  rcases h with ⟨id, s1, _, hrest⟩
  rw [bind_def, eval_bind] at hrest
  rcases hrest with ⟨_, s2, _, hrest⟩
  rw [bind_def, eval_bind] at hrest
  rcases hrest with ⟨_, s3, hset, hpure⟩
  rcases eval_pure_iff.mp hpure with ⟨_, rfl⟩
  rcases (eval_act (by simp)).mp hset with ⟨ch, s4, henv, hexec⟩
  cases hexec
  simp

/-! # Every run with increasing times exists -/

theorem attendedSamples_exists (c : ConnId) {rows : List (PositionRecord F)}
    {samples : List (Sample F)} (hsorted : samples.Pairwise fun p q => p.ts < q.ts)
    (hholds : TripHolds tripId user (some coord) rows s)
    (hlater : forall r, r ∈ rows -> forall p, p ∈ samples -> r.ts < p.ts) :
    exists s', AttendedSamples c user tripId s samples s' ∧ s'.trips = s.trips := by
  induction samples generalizing s coord rows with
  | nil => exact ⟨s, AttendedSamples.done (apart_of_eq tripId user s s rfl), rfl⟩
  | cons p rest ih =>
      rw [List.pairwise_cons] at hsorted
      have htrip : (s.trips.lookup tripId).isSome = true := by
        rcases hholds.ownedBy with ⟨trip, htrip, _⟩
        rw [htrip]
        rfl
      have hfree : s.positions.lookup (tripId, p.ts) = none := by
        cases hrow : s.positions.lookup (tripId, p.ts) with
        | none => rfl
        | some r =>
            have hmem := (hholds.rows ⟨tripId, p.ts, r.lat, r.lon, r.stopped⟩ rfl).mp hrow
            exact absurd (hlater _ hmem p List.mem_cons_self) (lt_irrefl _)
      rcases updateTrip_runs c user htrip hholds.coord hfree with ⟨s1, hupdate, hsame⟩
      have hupdate' := hupdate.mono (apart_of_eq tripId user)
      have hnext : forall r, r ∈ rows ++ kept [(coord.observation p).item tripId] ->
          forall q, q ∈ rest -> r.ts < q.ts := by
        intro r hr q hq
        rcases List.mem_append.mp hr with hold | hnew
        · exact hlater r hold q (List.mem_cons_of_mem p hq)
        · have hrow : r = (coord.observation p).row tripId := by
            have hmem := (kept_sublist _).subset hnew
            simpa [Observation.item] using hmem
          rw [hrow]
          exact hsorted.1 q hq
      have hholds' := updateTrip_holds (hupdate.mono (elsewhere_of_eq tripId)) hholds
      rcases ih hsorted.2 hholds' hnext with ⟨s', hrest, htrips⟩
      exact ⟨s', AttendedSamples.sample hupdate' hrest, htrips.trans hsame.trips⟩

theorem attendedTrip_exists (c : ConnId) {start : Sample F} {samples : List (Sample F)}
    (hkeys : ForeignKeys s) (huser : (s.users.lookup user).isSome = true)
    (hid : s.trips.lookup tripId = none)
    (hsorted : (start :: samples).Pairwise fun p q => p.ts < q.ts) :
    exists s', AttendedTrip c user tripId start samples s s' ∧
      s'.trips = s.trips.insert tripId
        { username := user, startedAt := start.ts, endedAt := none } := by
  rw [List.pairwise_cons] at hsorted
  rcases initializeTrips_runs c start huser hid (hkeys (tripId, start.ts) hid) with
    ⟨s1, hstart, hsame⟩
  have hholds := initializeTrips_holds hkeys (hstart.mono (elsewhere_of_eq tripId))
  have hlater : forall r, r ∈ [(startObservation start).row tripId] ->
      forall p, p ∈ samples -> r.ts < p.ts := by
    intro r hr p hp
    rw [List.mem_singleton] at hr
    rw [hr]
    exact hsorted.1 p hp
  rcases attendedSamples_exists c hsorted.2 hholds hlater with ⟨s', hsamples, htrips⟩
  exact ⟨s', ⟨s1, hstart.mono (apart_of_eq tripId user), hsamples⟩, htrips.trans hsame.trips⟩

end Wanderust
