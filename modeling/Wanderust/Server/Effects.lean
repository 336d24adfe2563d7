import Wanderust.Server.Exec

/-!
# What an operation does when it comes to its end

One lemma for each operation that can end in more than one way.
-/

namespace Wanderust

open Interleaving

variable {F : Type} {c : ConnId} {ch : Choice} {s s' : State F}

/-! # Statements -/

theorem answerQuery_done {alpha : Type} {ch : Choice} {a : alpha} {r : Except SqlError alpha}
    (h : answerQuery ch s a = .done r s') :
    s' = s ∧ (r = .ok a ∨ (ch.fails = true ∧ r = .error ch.sqlError)) := by
  unfold answerQuery at h
  by_cases hfails : ch.fails = true
  · rw [if_pos hfails] at h
    cases h
    exact ⟨rfl, Or.inr ⟨hfails, rfl⟩⟩
  · rw [if_neg hfails] at h
    cases h
    exact ⟨rfl, Or.inl rfl⟩

theorem updateTripEnded_cases (trips : Trips) (id : Int) (username : String) (ts : Int) :
    (exists row, trips.lookup id = some row ∧ row.username = username ∧ row.endedAt = none ∧
      updateTripEnded trips id username ts =
        (1, trips.insert id { row with endedAt := some ts })) ∨
    ((forall row, trips.lookup id = some row -> row.username = username ->
      row.endedAt ≠ none) ∧ updateTripEnded trips id username ts = (0, trips)) := by
  cases hrow : trips.lookup id with
  | none =>
      right
      simp [updateTripEnded, hrow]
  | some row =>
      cases hopen : row.isOpenFor username with
      | true =>
          left
          have h := isOpenFor_iff.mp hopen
          exact ⟨row, rfl, h.1, h.2, by simp [updateTripEnded, hrow, hopen]⟩
      | false =>
          right
          refine ⟨?_, by simp [updateTripEnded, hrow, hopen]⟩
          intro row' hrow' hu hend
          cases hrow'
          rw [isOpenFor_iff.mpr ⟨hu, hend⟩] at hopen
          cases hopen

/-- A sample moves the trip, or flags it, or leaves its flag alone. -/
theorem observe_cases [Geo F] (coord : CoordState F) (lat lon : F) :
    ((coord.observe lat lon).2.2 = .toMoving ∧ (coord.observe lat lon).1.inserted = false) ∨
    (coord.observe lat lon).2 = (.insert true, .toStationary) ∨
    ((coord.observe lat lon).2.2 = .unchanged ∧
      (coord.observe lat lon).1.inserted = coord.inserted) := by
  unfold CoordState.observe
  split
  · split
    · exact Or.inr (Or.inr ⟨rfl, rfl⟩)
    · split
      · exact Or.inr (Or.inl rfl)
      · exact Or.inr (Or.inr ⟨rfl, rfl⟩)
  · exact Or.inl ⟨rfl, rfl⟩

variable [Geo F] [Bcrypt]

theorem exec_insertUser {username passwordHash : String} {createdAt : Int}
    {r : Except SqlError Unit}
    (h : exec c ch (.insertUser username passwordHash createdAt) s = .done r s') :
    (s' = s ∧ (exists e, r = .error e) ∧
      (ch.fails = true ∨ exists row, s.users.lookup username = some row)) ∨
    (s.users.lookup username = none ∧ r = .ok () ∧
      s' = { s with users := s.users.insert username { passwordHash, createdAt } }) := by
  simp only [exec, insertUserRow] at h
  split at h
  · rename_i hfails
    cases h
    exact Or.inl ⟨rfl, ⟨_, rfl⟩, Or.inl hfails⟩
  · cases hlookup : s.users.lookup username with
    | some row =>
        simp only [hlookup, Option.isSome_some, if_true, Outcome.done.injEq] at h
        exact Or.inl ⟨h.2.symm, ⟨_, h.1.symm⟩, Or.inr ⟨row, rfl⟩⟩
    | none =>
        simp only [hlookup, Option.isSome_none, Bool.false_eq_true, if_false,
          Outcome.done.injEq] at h
        exact Or.inr ⟨rfl, h.1.symm, h.2.symm⟩

theorem exec_insertTrip {name : String} {ts : Int} {r : Except SqlError Int}
    (h : exec c ch (.insertTrip name ts) s = .done r s') :
    (s' = s ∧ exists e, r = .error e) ∨
    (s.trips.lookup ch.tripId = none ∧ r = .ok ch.tripId ∧
      s' = { s with trips := s.trips.insert ch.tripId ⟨name, ts, none⟩ }) := by
  simp only [exec, insertTripRow] at h
  split at h
  · cases h
    exact Or.inl ⟨rfl, _, rfl⟩
  · cases hid : s.trips.lookup ch.tripId with
    | some row => simp [hid] at h
    | none =>
        simp only [hid, Option.isSome_none, Bool.false_eq_true, if_false] at h
        cases hrow : s.users.lookup name with
        | none =>
            simp only [hrow, Option.isNone_none, if_true, Outcome.done.injEq] at h
            exact Or.inl ⟨h.2.symm, _, h.1.symm⟩
        | some account =>
            simp only [hrow, Option.isNone_some, Bool.false_eq_true, if_false,
              Outcome.done.injEq] at h
            exact Or.inr ⟨rfl, h.1.symm, h.2.symm⟩

theorem exec_insertPosition {id : Int} {lat lon : F} {ts : Int} {stopped : Bool}
    {r : Except SqlError Unit}
    (h : exec c ch (.insertPosition id lat lon ts stopped) s = .done r s') :
    (s' = s ∧ (exists e, r = .error e) ∧
      (ch.fails = true ∨
        insertPositionRow s.trips s.positions id lat lon ts stopped = none)) ∨
    exists positions,
      insertPositionRow s.trips s.positions id lat lon ts stopped = some positions ∧
        r = .ok () ∧ s' = { s with positions } := by
  simp only [exec] at h
  split at h
  · rename_i hfails
    cases h
    exact Or.inl ⟨rfl, ⟨_, rfl⟩, Or.inl hfails⟩
  · cases hrow : insertPositionRow s.trips s.positions id lat lon ts stopped with
    | none =>
        simp only [hrow, Outcome.done.injEq] at h
        exact Or.inl ⟨h.2.symm, ⟨_, h.1.symm⟩, Or.inr rfl⟩
    | some positions =>
        simp only [hrow, Outcome.done.injEq] at h
        exact Or.inr ⟨positions, rfl, h.1.symm, h.2.symm⟩

theorem exec_updateTripEnded {id : Int} {name : String} {ts : Int} {r : Except SqlError Nat}
    (h : exec c ch (.updateTripEnded id name ts) s = .done r s') :
    (s' = s ∧ ch.fails = true ∧ exists e, r = .error e) ∨
    (s' = s ∧ r = .ok 0 ∧
      forall row, s.trips.lookup id = some row -> row.username = name -> row.endedAt ≠ none) ∨
    (ch.fails = false ∧ r = .ok 1 ∧
      exists row, s.trips.lookup id = some row ∧ row.username = name ∧ row.endedAt = none ∧
        s' = { s with trips := s.trips.insert id { row with endedAt := some ts } }) := by
  simp only [exec] at h
  split at h
  · rename_i hfails
    cases h
    exact Or.inl ⟨rfl, hfails, _, rfl⟩
  · rename_i hfails
    rcases updateTripEnded_cases s.trips id name ts with
      ⟨row, hrow, hname, hend, hupdate⟩ | ⟨hclosed, hupdate⟩
    · rw [hupdate] at h
      cases h
      exact Or.inr (Or.inr
        ⟨eq_false_of_ne_true hfails, rfl, row, hrow, hname, hend, rfl⟩)
    · rw [hupdate] at h
      cases h
      exact Or.inr (Or.inl ⟨rfl, rfl, hclosed⟩)

/-! # The stores in memory -/

theorem exec_drawFreshToken {token : String}
    (h : exec c ch (.drawFreshToken : Op F) s = .done token s') :
    s.sessions.lookup ch.uuid = none ∧ token = ch.uuid ∧
      s' = { s with drawn := (ch.uuid, c) :: s.drawn } := by
  simp only [exec] at h
  split at h
  · rename_i hfree
    cases h
    exact ⟨Option.isNone_iff_eq_none.mp hfree, rfl, rfl⟩
  · cases h

theorem exec_observeCoord {id : Int} {lat lon : F}
    {r : Option (InsertAction × StatusTransition)}
    (h : exec c ch (.observeCoord id lat lon) s = .done r s') :
    (s.lastCoordinates.lookup id = none ∧ r = none ∧ s' = s) ∨
    exists coord, s.lastCoordinates.lookup id = some coord ∧
      r = some (coord.observe lat lon).2 ∧
      s' = { s with
        lastCoordinates := s.lastCoordinates.insert id (coord.observe lat lon).1 } := by
  cases hlookup : s.lastCoordinates.lookup id with
  | none =>
      simp only [exec, hlookup, Outcome.done.injEq] at h
      exact Or.inl ⟨rfl, h.1.symm, h.2.symm⟩
  | some coord =>
      simp only [exec, hlookup, Outcome.done.injEq] at h
      exact Or.inr ⟨coord, rfl, h.1.symm, h.2.symm⟩

end Wanderust
