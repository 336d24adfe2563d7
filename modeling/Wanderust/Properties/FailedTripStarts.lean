import Wanderust.Session.Conditions
import Wanderust.Stats.TripStarts

/-!
# Trip starts that fail

The row of a trip is committed before its first position, so a start whose
position is refused is answered with an error and leaves an open trip behind.
-/

namespace Wanderust

open Interleaving Prog

variable {F : Type}

structure NothingStarted (s s' : State F) : Prop where
  trips : s'.trips = s.trips
  positions : s'.positions = s.positions
  lastCoordinates : s'.lastCoordinates = s.lastCoordinates
  statuses : s'.statuses = s.statuses

structure TripStarted (id : Int) (user : String) (lat lon : F) (ts : Int) (s : State F) :
    Prop where
  isOpen : exists trip, s.trips.lookup id = some trip ∧ trip.username = user ∧ trip.endedAt = none
  tracked : s.lastCoordinates.lookup id = some { lat, lon, n := 1, inserted := false }
  onlyRow : forall t row, s.positions.lookup (id, t) = some row <->
    t = ts ∧ row = { lat, lon, stopped := false }

/-- A failure has changed nothing, and a success has started the trip. -/
structure CleanStart (user : String) (lat lon : F) (ts : Int) (s : State F)
    (r : Except String Int) (s' : State F) : Prop where
  failed : forall e, r = .error e -> NothingStarted s s'
  succeeded : forall id, r = .ok id -> TripStarted id user lat lon ts s'

theorem tripStarted_withStartedTrip {s : State F} {id : Int} (hkeys : ForeignKeys s)
    (hfree : s.trips.lookup id = none) (c : ConnId) (user : String) (lat lon : F) (ts : Int) :
    TripStarted id user lat lon ts (s.withStartedTrip c id user lat lon ts) := by
  constructor
  · exact ⟨_, AList.lookup_insert _, rfl, rfl⟩
  · exact AList.lookup_insert _
  · intro t row
    show (s.positions.insert (id, ts) ⟨lat, lon, false⟩).lookup (id, t) = some row <-> _
    rw [Table.lookup_insert_eq]
    by_cases ht : t = ts
    · rw [if_pos (by rw [ht]), Option.some.injEq]
      exact ⟨fun h => ⟨ht, h.symm⟩, fun h => h.2.symm⟩
    · rw [if_neg (by simp [ht]), hkeys (id, t) hfree]
      simp [ht]

theorem startTrace_clean_iff {c : ConnId} {user : String} {lat lon : F} {ts : Int}
    {s s' : State F} {r : Except String Int} {trace : List (OwnStep F)} (hkeys : ForeignKeys s)
    (h : StartTrace c user lat lon ts s r trace s') :
    CleanStart user lat lon ts s r s' <->
      forall x, x ∈ trace -> InsertsPosition x -> x.choice.fails = false := by
  cases h with
  | noTrip hnot =>
      apply iff_of_true
      · constructor
        · intro e _
          exact ⟨rfl, rfl, rfl, rfl⟩
        · intro id hid
          cases hid
      · intro x hx hinserts
        exact absurd hinserts (hnot x hx)
  | noPosition hfree hx hinserts hfails =>
      apply iff_of_false
      · intro hclean
        exact Table.insert_ne hfree _ (hclean.failed _ rfl).trips
      · intro hsucceeds
        rw [hsucceeds _ hx hinserts] at hfails
        cases hfails
  | started hfree hsucceeds =>
      apply iff_of_true
      · constructor
        · intro e he
          cases he
        · intro id hid
          cases hid
          exact tripStarted_withStartedTrip hkeys hfree c user lat lon ts
      · exact hsucceeds

/-- A failed start leaves nothing exactly when the statement of its position does not fail. -/
theorem failed_start_leaves_no_trip [Geo F] [Bcrypt] {users : Users} {trips : Trips}
    {positions : Positions F} (hkeys : ForeignKeys (World.boot users trips positions).state)
    {w : World F} (hreach : Reachable (fun _ _ => True) (World.boot users trips positions) w)
    {c : ConnId} {user : String} {lat lon : F} {ts : Int} {trace : List (OwnStep F)}
    {r : Except String Int} {s' : State F}
    (h : Traced exec Eq c (initializeTrips user lat lon ts) w.state trace r s') :
    CleanStart user lat lon ts w.state r s' <->
      forall x, x ∈ trace -> InsertsPosition x -> x.choice.fails = false :=
  startTrace_clean_iff (reachable_foreignKeys hreach hkeys)
    (traced_initializeTrips (reachable_foreignKeys hreach hkeys) h)

/-! # A start with and without its position -/

section

attribute [local instance] plainBcrypt

/-- The position is refused after the trip has been stored. -/
theorem failed_start_leaves_trip : exists trace e s',
    Traced exec Eq 0 (initializeTrips "u" 0 0 1) (newcomer ℝ "u") trace (.error e) s' ∧
      (newcomer ℝ "u").trips.lookup 1 = none ∧
      s'.trips.lookup 1 = some { username := "u", startedAt := 1, endedAt := none } ∧
      s'.lastCoordinates.lookup 1 = none ∧ ¬ NothingStarted (newcomer ℝ "u") s' := by
  have hruns : exists trace e, Traced exec Eq 0 (initializeTrips "u" 0 0 1) (newcomer ℝ "u") trace
      (.error e) { newcomer ℝ "u" with
        trips := (newcomer ℝ "u").trips.insert 1 ⟨"u", 1, none⟩ } := by
    apply Exists.intro
    apply Exists.intro
    apply Traced.done (Choice.drawing "") rfl rfl
    apply Traced.done Choice.failing rfl rfl
    exact Traced.pure _ _
  rcases hruns with ⟨trace, e, hruns⟩
  refine ⟨trace, e, _, hruns, rfl, rfl, rfl, ?_⟩
  intro hnothing
  exact Table.insert_ne (rfl : (newcomer ℝ "u").trips.lookup 1 = none) _ hnothing.trips

theorem failed_start_leaves_no_trip_started : exists trace s',
    Traced exec Eq 0 (initializeTrips "u" 0 0 1) (newcomer ℝ "u") trace (.ok 1) s' ∧
      (CleanStart "u" 0 0 1 (newcomer ℝ "u") (.ok 1) s' <->
        forall x, x ∈ trace -> InsertsPosition x -> x.choice.fails = false) := by
  have hruns : exists trace s', Traced exec Eq 0 (initializeTrips "u" 0 0 1) (newcomer ℝ "u") trace
      (.ok 1) s' := by
    apply Exists.intro
    apply Exists.intro
    apply Traced.done (Choice.drawing "") rfl rfl
    apply Traced.done (Choice.drawing "") rfl rfl
    apply Traced.done (Choice.drawing "") rfl rfl
    apply Traced.done (Choice.drawing "") rfl rfl
    exact Traced.pure _ _
  rcases hruns with ⟨trace, s', hruns⟩
  exact ⟨trace, s', hruns,
    failed_start_leaves_no_trip (newcomer_foreignKeys "u") Reach.refl hruns⟩

end

end Wanderust
