import Wanderust.Server.Effects
import Wanderust.Server.OwnSteps
import Wanderust.Stats.TripRuns

/-!
# The start of a trip, statement by statement

The tables stay well formed in every run.  A trip is started by one statement
for its row and one for its first position, then an entry in memory and a
status; each statement may fail.
-/

namespace Wanderust

open Interleaving Prog

variable {F : Type}

/-! # Rows belong to trips, in every run -/

theorem ForeignKeys.setTrip {s : State F} (h : ForeignKeys s) (id : Int) (row : Trip) :
    ForeignKeys { s with trips := s.trips.insert id row } := by
  intro key hnone
  apply h key
  rw [Table.lookup_insert_eq] at hnone
  split at hnone
  · cases hnone
  · exact hnone

theorem ForeignKeys.setPosition {s : State F} (h : ForeignKeys s) {id : Int} {lat lon : F}
    {ts : Int} {stopped : Bool} {positions : Positions F}
    (hrow : insertPositionRow s.trips s.positions id lat lon ts stopped = some positions) :
    ForeignKeys { s with positions } := by
  intro key hnone
  simp only [insertPositionRow] at hrow
  split at hrow
  · cases hrow
  · rename_i hfree
    cases hrow
    rw [Table.lookup_insert_eq]
    split
    · rename_i hkey
      rw [hkey] at hnone
      simp [hnone] at hfree
    · exact h key hnone

section

variable [Geo F] [Bcrypt]

theorem executes_foreignKeys {c : ConnId} {ch : Choice} {o : Op F} {s s' : State F}
    (hexec : Executes c ch o s s') (h : ForeignKeys s) : ForeignKeys s' := by
  cases o with
  | insertTrip username ts =>
      rcases hexec with ⟨r, hdone⟩ | hagain
      · rcases exec_insertTrip hdone with ⟨rfl, _⟩ | ⟨_, _, rfl⟩
        · exact h
        · exact h.setTrip _ _
      · exact absurd hagain (exec_not_again (by simp))
  | insertPosition id lat lon ts stopped =>
      rcases hexec with ⟨r, hdone⟩ | hagain
      · rcases exec_insertPosition hdone with ⟨rfl, _⟩ | ⟨positions, hrow, _, rfl⟩
        · exact h
        · exact h.setPosition hrow
      · exact absurd hagain (exec_not_again (by simp))
  | updateTripEnded id username ts =>
      rcases hexec with ⟨r, hdone⟩ | hagain
      · rcases exec_updateTripEnded hdone with ⟨rfl, _⟩ | ⟨rfl, _⟩ | ⟨_, _, row, _, _, _, rfl⟩
        · exact h
        · exact h
        · exact h.setTrip _ _
      · exact absurd hagain (exec_not_again (by simp))
  | _ =>
      have hsame : s'.trips = s.trips ∧ s'.positions = s.positions := by
        simp only [Executes, exec, answerQuery] at hexec
        grind [State.log]
      intro key hnone
      rw [hsame.2]
      rw [hsame.1] at hnone
      exact h key hnone

theorem reachable_foreignKeys {w w' : World F} (hreach : Reachable (fun _ _ => True) w w')
    (h : ForeignKeys w.state) : ForeignKeys w'.state := by
  refine hreach.invariant (P := fun w => ForeignKeys w.state) h ?_
  intro w1 w2 l h1 _ hnext
  cases l with
  | step c ch =>
      rcases executes_of_next hnext with ⟨o, _, hexec⟩
      exact executes_foreignKeys hexec h1
  | _ =>
      rcases next_database hnext (by simp) with ⟨_, htrips, hpositions⟩
      intro key hnone
      rw [hpositions]
      rw [htrips] at hnone
      exact h1 key hnone

end

/-! # The steps of a start -/

def InsertsPosition (x : OwnStep F) : Prop :=
  exists id lat lon ts stopped, x.op = .insertPosition id lat lon ts stopped

def State.withStartedTrip (s : State F) (c : ConnId) (id : Int) (user : String) (lat lon : F)
    (ts : Int) : State F :=
  { s with
    trips := s.trips.insert id { username := user, startedAt := ts, endedAt := none }
    positions := s.positions.insert (id, ts) { lat, lon, stopped := false }
    lastCoordinates := s.lastCoordinates.insert id { lat, lon, n := 1, inserted := false }
    statuses := s.statuses.insert user .stationary
    statusBy := Function.update s.statusBy user (some c) }

/-- What the steps of a start have done when it ends. -/
inductive StartTrace (c : ConnId) (user : String) (lat lon : F) (ts : Int) (s : State F) :
    Except String Int -> List (OwnStep F) -> State F -> Prop where
  | noTrip {trace : List (OwnStep F)} {e : String} :
      (forall x, x ∈ trace -> ¬ InsertsPosition x) ->
      StartTrace c user lat lon ts s (.error e) trace s
  | noPosition {trace : List (OwnStep F)} {e : String} {id : Int} {x : OwnStep F} :
      s.trips.lookup id = none -> x ∈ trace -> InsertsPosition x -> x.choice.fails = true ->
      StartTrace c user lat lon ts s (.error e) trace
        { s with trips := s.trips.insert id { username := user, startedAt := ts, endedAt := none } }
  | started {trace : List (OwnStep F)} {id : Int} :
      s.trips.lookup id = none ->
      (forall x, x ∈ trace -> InsertsPosition x -> x.choice.fails = false) ->
      StartTrace c user lat lon ts s (.ok id) trace (s.withStartedTrip c id user lat lon ts)

variable [Geo F] [Bcrypt] {c : ConnId} {user : String} {lat lon : F} {ts id : Int}
variable {s s' : State F} {trace : List (OwnStep F)}

theorem traced_insertTrip {r : Except String Int}
    (h : Traced exec Eq c (sql (act (.insertTrip user ts))) s trace r s') :
    (forall x, x ∈ trace -> ¬ InsertsPosition x) ∧
      ((s' = s ∧ exists e, r = .error e) ∨
        exists id, s.trips.lookup id = none ∧ r = .ok id ∧
          s' = { s with trips := s.trips.insert id ⟨user, ts, none⟩ }) := by
  rcases traced_sql.mp h with ⟨r', rfl, hinsert⟩
  rcases (traced_act (by simp)).mp hinsert with ⟨ch, s1, rfl, hexec, rfl⟩
  constructor
  · intro x hx
    rw [List.mem_singleton.mp hx]
    intro hposition
    rcases hposition with ⟨_, _, _, _, _, hop⟩
    cases hop
  · rcases exec_insertTrip hexec with ⟨rfl, e, rfl⟩ | ⟨hid, rfl, rfl⟩
    · exact Or.inl ⟨rfl, _, rfl⟩
    · exact Or.inr ⟨_, hid, rfl, rfl⟩

/-- The first position of a trip is refused only when its statement fails. -/
theorem traced_firstPosition {r : Except String Unit} {row : Trip}
    (h : Traced exec Eq c (insertPosition id lat lon ts false) s trace r s')
    (htrip : s.trips.lookup id = some row) (hfree : s.positions.lookup (id, ts) = none) :
    exists x, trace = [x] ∧ InsertsPosition x ∧
      ((x.choice.fails = true ∧ s' = s ∧ exists e, r = .error e) ∨
        (x.choice.fails = false ∧ r = .ok () ∧
          s' = { s with
            positions := s.positions.insert (id, ts) { lat, lon, stopped := false } })) := by
  rcases traced_sql.mp h with ⟨r', rfl, hinsert⟩
  rcases (traced_act (by simp)).mp hinsert with ⟨ch, s1, rfl, hexec, rfl⟩
  refine ⟨_, rfl, ⟨_, _, _, _, _, rfl⟩, ?_⟩
  have hrow : insertPositionRow s.trips s.positions id lat lon ts false =
      some (s.positions.insert (id, ts) { lat, lon, stopped := false }) := by
    simp [insertPositionRow, htrip, hfree]
  cases hfails : ch.fails with
  | true =>
      simp only [exec, hfails, if_true, Outcome.done.injEq] at hexec
      rcases hexec with ⟨rfl, rfl⟩
      exact Or.inl ⟨rfl, rfl, _, rfl⟩
  | false =>
      simp only [exec, hfails, hrow, Bool.false_eq_true, if_false, Outcome.done.injEq] at hexec
      rcases hexec with ⟨rfl, rfl⟩
      exact Or.inr ⟨rfl, rfl, rfl⟩

theorem traced_startTrip {r : Except String Int} (hkeys : ForeignKeys s)
    (h : Traced exec Eq c (startTrip user lat lon ts) s trace r s') :
    (s' = s ∧ (exists e, r = .error e) ∧ forall x, x ∈ trace -> ¬ InsertsPosition x) ∨
      exists id, s.trips.lookup id = none ∧
        ((exists x, x ∈ trace ∧ InsertsPosition x ∧ x.choice.fails = true ∧
            (exists e, r = .error e) ∧
            s' = { s with trips := s.trips.insert id ⟨user, ts, none⟩ }) ∨
          (r = .ok id ∧ (forall x, x ∈ trace -> InsertsPosition x -> x.choice.fails = false) ∧
            s' = { s with
              trips := s.trips.insert id ⟨user, ts, none⟩
              positions := s.positions.insert (id, ts) ⟨lat, lon, false⟩ })) := by
  rw [startTrip] at h
  rcases traced_bindOk.mp h with ⟨e, rfl, hinsert⟩ | ⟨id, s1, t1, t2, rfl, hinsert, hrest⟩
  · rcases traced_insertTrip hinsert with ⟨hnot, ⟨rfl, _⟩ | ⟨_, _, hok, _⟩⟩
    · exact Or.inl ⟨rfl, ⟨e, rfl⟩, hnot⟩
    · cases hok
  · rcases traced_insertTrip hinsert with ⟨hnot, ⟨_, _, herror⟩ | ⟨id', hfree, hid, rfl⟩⟩
    · cases herror
    · cases hid
      right
      refine ⟨id, hfree, ?_⟩
      have hrow : s.positions.lookup (id, ts) = none := hkeys (id, ts) hfree
      rcases traced_bindOk.mp hrest with ⟨e, rfl, hposition⟩ | ⟨_, s2, t3, t4, rfl, hposition, hend⟩
      · rcases traced_firstPosition hposition (AList.lookup_insert _) hrow with
          ⟨x, rfl, hx, ⟨hfails, rfl, _⟩ | ⟨_, hok, _⟩⟩
        · exact Or.inl ⟨x, List.mem_append_right _ (List.mem_singleton_self x), hx, hfails,
            ⟨e, rfl⟩, rfl⟩
        · cases hok
      · rcases traced_firstPosition hposition (AList.lookup_insert _) hrow with
          ⟨x, rfl, hx, ⟨_, _, e, herror⟩ | ⟨hfails, _, rfl⟩⟩
        · cases herror
        · rcases traced_pure_iff.mp hend with ⟨rfl, rfl, rfl⟩
          refine Or.inr ⟨rfl, ?_, rfl⟩
          intro y hy hinserts
          rcases List.mem_append.mp hy with hy | hy
          · exact absurd hinserts (hnot y hy)
          · rw [List.append_nil, List.mem_singleton] at hy
            rw [hy]
            exact hfails

theorem traced_initializeTrips {r : Except String Int} (hkeys : ForeignKeys s)
    (h : Traced exec Eq c (initializeTrips user lat lon ts) s trace r s') :
    StartTrace c user lat lon ts s r trace s' := by
  rw [initializeTrips] at h
  rcases traced_bindOk.mp h with ⟨e, rfl, hstart⟩ | ⟨id, s1, t1, t2, rfl, hstart, hrest⟩
  · rcases traced_mapError.mp hstart with ⟨r', hr', hstart⟩
    rcases traced_startTrip hkeys hstart with
      ⟨rfl, _, hnot⟩ | ⟨id, hfree, ⟨x, hx, hinserts, hfails, _, rfl⟩ | ⟨rfl, _⟩⟩
    · exact StartTrace.noTrip hnot
    · exact StartTrace.noPosition hfree hx hinserts hfails
    · cases hr'
  · rcases traced_mapError.mp hstart with ⟨r', hr', hstart⟩
    rcases traced_startTrip hkeys hstart with
      ⟨_, ⟨e, rfl⟩, _⟩ | ⟨id', hfree, ⟨_, _, _, _, ⟨e, rfl⟩, _⟩ | ⟨rfl, hsucceeds, rfl⟩⟩
    · cases hr'
    · cases hr'
    · cases hr'
      rw [bind_def] at hrest
      rcases traced_bind.mp hrest with ⟨_, s2, t3, t4, rfl, htrack, hrest'⟩
      rw [bind_def] at hrest'
      rcases traced_bind.mp hrest' with ⟨_, s3, t5, t6, rfl, hset, hend⟩
      rcases (traced_act (by simp)).mp htrack with ⟨ch, _, rfl, hexec, rfl⟩
      cases hexec
      rcases (traced_act (by simp)).mp hset with ⟨ch', _, rfl, hexec', rfl⟩
      cases hexec'
      rcases traced_pure_iff.mp hend with ⟨rfl, rfl, rfl⟩
      apply StartTrace.started hfree
      intro x hx hinserts
      rcases List.mem_append.mp hx with hx | hx
      · exact hsucceeds x hx hinserts
      · rcases hinserts with ⟨_, _, _, _, _, hop⟩
        simp only [List.append_nil, List.mem_append, List.mem_singleton] at hx
        rcases hx with rfl | rfl
        · cases hop
        · cases hop

end Wanderust
