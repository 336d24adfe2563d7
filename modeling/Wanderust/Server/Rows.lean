import Wanderust.Server.Effects
import Wanderust.Server.World

/-!
# Rows

What the operations, and with them all runs, do to the rows of the database:
rows are added, and a trip that is under way is ended.
-/

namespace Wanderust

open Interleaving

variable {F : Type}

/-! # Later tables -/

/-- The trip stays with its user and its start, and its end is final. -/
structure Trip.Continues (t t' : Trip) : Prop where
  username : t'.username = t.username
  startedAt : t'.startedAt = t.startedAt
  endedAt : forall ts, t.endedAt = some ts -> t'.endedAt = some ts

theorem Trip.Continues.refl (t : Trip) : t.Continues t := ⟨rfl, rfl, fun _ h => h⟩

theorem Trip.Continues.trans {t1 t2 t3 : Trip} (h : t1.Continues t2) (h' : t2.Continues t3) :
    t1.Continues t3 where
  username := h'.username.trans h.username
  startedAt := h'.startedAt.trans h.startedAt
  endedAt ts hts := h'.endedAt ts (h.endedAt ts hts)

structure RowsKept (s s' : State F) : Prop where
  users : forall username row, s.users.lookup username = some row ->
    s'.users.lookup username = some row
  trips : forall id t, s.trips.lookup id = some t ->
    exists t', s'.trips.lookup id = some t' ∧ t.Continues t'
  positions : forall key row, s.positions.lookup key = some row ->
    s'.positions.lookup key = some row

namespace RowsKept

variable {s s1 s2 s' : State F}

theorem ofSame (husers : s'.users = s.users) (htrips : s'.trips = s.trips)
    (hpositions : s'.positions = s.positions) : RowsKept s s' where
  users username row h := by
    rw [husers]
    exact h
  trips id t h := by
    rw [htrips]
    exact ⟨t, h, Trip.Continues.refl t⟩
  positions key row h := by
    rw [hpositions]
    exact h

theorem refl (s : State F) : RowsKept s s := ofSame rfl rfl rfl

theorem trans (h : RowsKept s s1) (h' : RowsKept s1 s2) : RowsKept s s2 where
  users username row hrow := h'.users username row (h.users username row hrow)
  trips id t ht := by
    rcases h.trips id t ht with ⟨t1, ht1, hcont⟩
    rcases h'.trips id t1 ht1 with ⟨t2, ht2, hcont'⟩
    exact ⟨t2, ht2, hcont.trans hcont'⟩
  positions key row hrow := h'.positions key row (h.positions key row hrow)

theorem lookup_insert_free {K V : Type} [DecidableEq K] {t : Table K V} {k k' : K} {v v' : V}
    (hfree : t.lookup k = none) (h : t.lookup k' = some v') :
    (t.insert k v).lookup k' = some v' := by
  rw [Table.lookup_insert_eq, if_neg]
  · exact h
  · intro hkey
    rw [hkey, hfree] at h
    cases h

theorem setUser {username : String} (hfree : s.users.lookup username = none) (row : User) :
    RowsKept s { s with users := s.users.insert username row } where
  users _ _ h := lookup_insert_free hfree h
  trips _ t h := ⟨t, h, Trip.Continues.refl t⟩
  positions _ _ h := h

theorem setTrip {id : Int} {row : Trip}
    (hrow : forall t, s.trips.lookup id = some t -> t.Continues row) :
    RowsKept s { s with trips := s.trips.insert id row } where
  users _ _ h := h
  trips id' t h := by
    show exists t', (s.trips.insert id row).lookup id' = some t' ∧ t.Continues t'
    rw [Table.lookup_insert_eq]
    split
    case isTrue hid =>
      rw [hid] at h
      exact ⟨row, rfl, hrow t h⟩
    case isFalse => exact ⟨t, h, Trip.Continues.refl t⟩
  positions _ _ h := h

theorem setPosition {id : Int} {lat lon : F} {ts : Int} {stopped : Bool} {positions : Positions F}
    (h : insertPositionRow s.trips s.positions id lat lon ts stopped = some positions) :
    RowsKept s { s with positions } where
  users _ _ h := h
  trips _ t h := ⟨t, h, Trip.Continues.refl t⟩
  positions key row hrow := by
    unfold insertPositionRow at h
    split at h
    case isTrue => cases h
    case isFalse hfree =>
      rw [Bool.or_eq_true, not_or, Option.not_isSome_iff_eq_none] at hfree
      cases h
      exact lookup_insert_free hfree.2 hrow

end RowsKept

/-! # Runs -/

section

variable [Geo F] [Bcrypt]

/-- Three statements write rows, and only the end of a trip changes one. -/
theorem executes_rowsKept {c : ConnId} {ch : Choice} {o : Op F} {s s' : State F}
    (hexec : Executes c ch o s s') : RowsKept s s' := by
  cases o with
  | insertUser username passwordHash createdAt =>
      rcases hexec with ⟨r, hdone⟩ | hagain
      · rcases exec_insertUser hdone with ⟨rfl, _⟩ | ⟨hfree, _, rfl⟩
        · exact RowsKept.refl s'
        · exact RowsKept.setUser hfree _
      · exact absurd hagain (exec_not_again (by simp))
  | insertTrip username ts =>
      rcases hexec with ⟨r, hdone⟩ | hagain
      · rcases exec_insertTrip hdone with ⟨rfl, _⟩ | ⟨hfree, _, rfl⟩
        · exact RowsKept.refl s'
        · apply RowsKept.setTrip
          intro t ht
          rw [hfree] at ht
          cases ht
      · exact absurd hagain (exec_not_again (by simp))
  | insertPosition id lat lon ts stopped =>
      rcases hexec with ⟨r, hdone⟩ | hagain
      · rcases exec_insertPosition hdone with ⟨rfl, _⟩ | ⟨positions, hrow, _, rfl⟩
        · exact RowsKept.refl s'
        · exact RowsKept.setPosition hrow
      · exact absurd hagain (exec_not_again (by simp))
  | updateTripEnded id username ts =>
      rcases hexec with ⟨r, hdone⟩ | hagain
      · rcases exec_updateTripEnded hdone with
          ⟨rfl, _⟩ | ⟨rfl, _⟩ | ⟨_, _, row, hrow, _, hopen, rfl⟩
        · exact RowsKept.refl s'
        · exact RowsKept.refl s'
        · apply RowsKept.setTrip
          -- the row that is written over has no end
          intro t ht
          cases hrow.symm.trans ht
          refine ⟨rfl, rfl, fun ts' hended => ?_⟩
          rw [hopen] at hended
          cases hended
      · exact absurd hagain (exec_not_again (by simp))
  | _ =>
      have hsame : s'.users = s.users ∧ s'.trips = s.trips ∧ s'.positions = s.positions := by
        simp only [Executes, exec, answerQuery] at hexec
        grind [State.log]
      exact RowsKept.ofSame hsame.1 hsame.2.1 hsame.2.2

theorem reachable_rowsKept {w w' : World F} (hreach : Reachable (fun _ _ => True) w w') :
    RowsKept w.state w'.state := by
  refine hreach.invariant (P := fun w' => RowsKept w.state w'.state) (RowsKept.refl w.state) ?_
  intro w1 w2 l h1 _ hnext
  cases l with
  | step c ch =>
      rcases executes_of_next hnext with ⟨o, _, hexec⟩
      exact h1.trans (executes_rowsKept hexec)
  | _ =>
      rcases next_database hnext (by simp) with ⟨husers, htrips, hpositions⟩
      exact h1.trans (RowsKept.ofSame husers htrips hpositions)

end

end Wanderust
