import Wanderust.Properties.MovementStatus
import Wanderust.Server.Rows
import Wanderust.Stats.Trajectory

/-!
# Stored rows

Rows are added to the database, and a trip that is under way is ended.  Nothing
else happens to the tables in any run, whatever statements fail and however
often the server is restarted.
-/

namespace Wanderust

variable {F : Type}

/-! # Queries -/

theorem RowsKept.trajectory {s s' : State F} (h : RowsKept s s') (username : String)
    (fromTs toTs : Int) :
    (selectTrajectory s.trips s.positions username fromTs toTs).Sublist
      (selectTrajectory s'.trips s'.positions username fromTs toTs) := by
  have hsorted := selectTrajectory_sorted s.trips s.positions username fromTs toTs
  have hsorted' := selectTrajectory_sorted s'.trips s'.positions username fromTs toTs
  have hsubset : selectTrajectory s.trips s.positions username fromTs toTs ⊆
      selectTrajectory s'.trips s'.positions username fromTs toTs := by
    intro p hp
    rcases mem_selectTrajectory.mp hp with ⟨hrow, ⟨t, ht, howner⟩, hinterval⟩
    rcases h.trips p.tripId t ht with ⟨t', ht', hcont⟩
    exact mem_selectTrajectory.mpr ⟨h.positions p.key p.row hrow,
      ⟨t', ht', hcont.username.trans howner⟩, hinterval⟩
  have hsubperm := List.subperm_of_subset hsorted.nodup hsubset
  exact List.sublist_of_subperm_of_pairwise hsubperm hsorted hsorted'

/-!
# All runs
-/

/--
From any world on, in every run: accounts, starts of trips, ends of trips and
positions stay as they were stored, and a query of a user's trajectory returns at
least the rows that it would have returned before, in the same order.
-/
theorem rows_kept [Geo F] [Bcrypt] (w w' : World F) (h : Reachable (fun _ _ => True) w w') :
    (forall username row, w.state.users.lookup username = some row ->
      w'.state.users.lookup username = some row) ∧
    (forall id t, w.state.trips.lookup id = some t ->
      exists t', w'.state.trips.lookup id = some t' ∧ t'.username = t.username ∧
        t'.startedAt = t.startedAt ∧ forall ts, t.endedAt = some ts -> t'.endedAt = some ts) ∧
    (forall tripId ts row, w.state.positions.lookup (tripId, ts) = some row ->
      w'.state.positions.lookup (tripId, ts) = some row) ∧
    forall username fromTs toTs,
      (selectTrajectory w.state.trips w.state.positions username fromTs toTs).Sublist
        (selectTrajectory w'.state.trips w'.state.positions username fromTs toTs) := by
  have hkept := reachable_rowsKept h
  refine ⟨hkept.users, ?_, fun tripId ts => hkept.positions (tripId, ts), hkept.trajectory⟩
  intro id t ht
  rcases hkept.trips id t ht with ⟨t', ht', hcont⟩
  exact ⟨t', ht', hcont.username, hcont.startedAt, hcont.endedAt⟩

section

attribute [local instance] plainBcrypt

/-- The trip has been opened, a sample has been added, it has been ended; then a restart. -/
noncomputable def restartedWorld : World ℝ :=
  movedWorld.after (fun _ _ => true)
    ([.receive 0 (.message (.endTrip "t1" 1 60))] ++ stepsOf 0 5 ++ [.restart, .accept 1])

theorem rows_kept_restarted :
    openedWorld.state.positions.lookup (1, 31) = none ∧
      restartedWorld.state.positions.lookup (1, 31) ≠ none ∧
      restartedWorld.state.positions.lookup (1, 1) = some { lat := 0, lon := 0, stopped := false } ∧
      exists t t', openedWorld.state.trips.lookup 1 = some t ∧ t.endedAt = none ∧
        restartedWorld.state.trips.lookup 1 = some t' ∧ t'.startedAt = t.startedAt ∧
        t'.endedAt = some 60 := by
  have hreach : Reachable (fun _ _ => True) openedWorld restartedWorld :=
    (movedWorld_later.mono fun _ _ _ => trivial).trans
      (Interleaving.reach_after (fun _ _ _ => trivial) _ _)
  rcases rows_kept openedWorld restartedWorld hreach with ⟨_, htrips, hpositions, _⟩
  rcases htrips 1 ⟨"u", 1, none⟩ rfl with ⟨t', ht', _, hstarted, _⟩
  refine ⟨rfl, Option.some_ne_none _, hpositions 1 1 _ rfl, _, t', rfl, rfl, ht', hstarted, ?_⟩
  cases ht'
  rfl

end

end Wanderust
