import Wanderust.Session.StoreRules

/-!
# Rules for accounts, trips and positions

A connection writes only trips of the user on whose behalf it acts, and it owns
the session of that user while it does so.
-/

namespace Wanderust

open Interleaving

variable {F : Type} {A : Regime} {c : ConnId} {e : Entry} {s s' : State F} {v : View F}

theorem TripOf.ne_of_free {id id' : Int} {u u' : String} (h : TripOf s id u)
    (hown : Owns s c u) (h' : TripOf s id' u') (hfree : ¬ HasSession s u') : id' ≠ id := by
  intro heq
  rw [heq] at h'
  cases h.unique h'
  exact hfree hown.hasSession

theorem TripOf.ne_of_other {id id' : Int} {u u' : String} {c' : ConnId} (hinv : Inv A s)
    (h : TripOf s id u) (hown : Owns s c u) (h' : TripOf s id' u') (hne : c' ≠ c)
    (hown' : Owns s c' u') : id' ≠ id := by
  intro heq
  rw [heq] at h'
  cases h.unique h'
  exact hinv.not_owns_of_ne hne hown hown'

theorem Inv.lost_untracked_insert (hinv : Inv A s) {id0 : Int} {row : Trip} {id : Int}
    (hlost : A.lost id) :
    (s.trips.insert id0 row).lookup id ≠ none ∧ s.lastCoordinates.lookup id = none := by
  have hold := hinv.lost_untracked hlost
  refine ⟨?_, hold.2⟩
  rw [Table.lookup_insert_eq]
  by_cases heq : id = id0
  · rw [if_pos heq]
    exact Option.some_ne_none _
  · rw [if_neg heq]
    exact hold.1

variable [Geo F] [Bcrypt]

/-! # The trip store -/

/-- A change of the entry of one trip of the user in the store of trips. -/
theorem keeps_coords {username : String} {tripId : Int} {m : Table Int (CoordState F)}
    (hinv : Inv A s) (hm : forall id, id ≠ tripId -> m.lookup id = s.lastCoordinates.lookup id)
    (hentry : e.user = some username) (hquiet : ¬ e.quiet) (hown : Owns s c username)
    (htrip : TripOf s tripId username) (hlost : m.lookup tripId ≠ none -> ¬ A.lost tripId)
    (htracks : s.lastCoordinates.lookup tripId = none -> m.lookup tripId ≠ none ->
      TripOpen s tripId username) :
    (setting A).Keeps c (Guar A e) s { s with lastCoordinates := m } where
  inv :=
    { hinv with
      tracked_known := by
        intro id hid
        by_cases heq : id = tripId
        · rw [heq]
          exact ⟨username, htrip⟩
        · simp only [hm id heq] at hid
          exact hinv.tracked_known hid
      free_tracked := by
        intro u hu id hid hcoord
        simp only [hm id (htrip.ne_of_free hown hid hu)] at hcoord
        exact hinv.free_tracked hu id hid hcoord
      free_trips := by
        intro hA u hu id hid
        have hleft := hinv.free_trips hA hu id hid
        refine ⟨hleft.1, ?_⟩
        show m.lookup id = none
        rw [hm id (htrip.ne_of_free hown hid hu)]
        exact hleft.2
      lost_untracked := by
        intro id hid
        have hold := hinv.lost_untracked hid
        refine ⟨hold.1, ?_⟩
        show m.lookup id = none
        by_cases heq : id = tripId
        · by_contra hcoord
          rw [heq] at hcoord hid
          exact hlost hcoord hid
        · rw [hm id heq]
          exact hold.2 }
  others := by
    intro c' hne
    exact
      { Rely.refl A c' s with
        coords := fun u hu id hid => hm id (htrip.ne_of_other hinv hown hid hne hu) }
  own :=
    { Guar.refl A e s with
      coords := by
        intro id hid
        by_cases heq : id = tripId
        · rw [heq]
          exact ⟨username, hentry, htrip⟩
        · exact absurd (hm id heq) hid
      tracks := by
        intro id hnone hsome
        by_cases heq : id = tripId
        · rw [heq] at hnone hsome ⊢
          exact ⟨username, htracks hnone hsome⟩
        · exact absurd ((hm id heq).trans hnone) hsome
      quiet := fun h => absurd h hquiet }

theorem act_trackTrip {tripId : Int} {lat lon : F} (hid : tripId ∈ v.opened)
    (hlost : ¬ A.lost tripId) (huntracked : v.untracked = []) (hentry : e.user = v.user)
    (hquiet : ¬ e.quiet) :
    ViewTriple A c e v (act (.trackTrip tripId lat lon)) (fun _ v' => v' = v) := by
  apply viewTriple_act
  intro s ch r s' hinv hs _ hexec
  cases hexec
  rcases hs.opened tripId hid with ⟨u, huser, hown, hopen⟩
  refine ⟨keeps_coords hinv (fun id hne => by simp [hne]) (hentry.trans huser) hquiet hown
    hopen.tripOf (fun _ => hlost) (fun _ _ => hopen), v, ?_, rfl⟩
  exact
    { hs with
      tracked := by
        intro u' hu' id htrip hcoord
        by_cases heq : id = tripId
        · rw [heq] at htrip ⊢
          cases hopen.tripOf.unique htrip
          exact Or.inl hopen
        · simp only [Table.lookup_insert_eq, heq, if_false] at hcoord
          exact hs.tracked u' hu' id htrip hcoord
      untracked := by
        intro id hmem
        rw [huntracked] at hmem
        cases hmem }

theorem act_dropTrip {tripId : Int} (hid : tripId ∈ v.mine) (hentry : e.user = v.user)
    (hquiet : ¬ e.quiet) :
    ViewTriple A c e v (act (.dropTrip tripId))
      (fun _ v' => v' = { v with gap := v.gap.filter (· ≠ tripId) }) := by
  apply viewTriple_act
  intro s ch r s' hinv hs _ hexec
  cases hexec
  rcases hs.mine tripId hid with ⟨u, huser, hown, htrip⟩
  refine ⟨keeps_coords hinv (fun id hne => by simp [hne]) (hentry.trans huser) hquiet hown
    htrip (fun h => absurd (by simp) h) (fun _ h => absurd (by simp) h), _, ?_, rfl⟩
  exact
    { hs with
      tracked := by
        intro u' hu' id htrip' hcoord
        by_cases heq : id = tripId
        · simp [heq] at hcoord
        · simp only [Table.lookup_erase_eq, heq, if_false] at hcoord
          rcases hs.tracked u' hu' id htrip' hcoord with hopen | hgap
          · exact Or.inl hopen
          · exact Or.inr (List.mem_filter.mpr ⟨hgap, by simpa using heq⟩)
      untracked := by
        intro id hmem
        have hold := hs.untracked id hmem
        refine ⟨hold.1, ?_⟩
        by_cases heq : id = tripId
        · simp [heq]
        · simp [heq, hold.2] }

theorem act_observeCoord {tripId : Int} {lat lon : F} (hid : tripId ∈ v.opened)
    (hentry : e.user = v.user) (hquiet : ¬ e.quiet) :
    ViewTriple A c e v (act (.observeCoord tripId lat lon))
      (fun r v' => v' = v ∧ (r ≠ none -> ¬ A.lost tripId)) := by
  apply viewTriple_act
  intro s ch r s' hinv hs _ hexec
  rcases exec_observeCoord hexec with ⟨_, rfl, rfl⟩ | ⟨coord, hlookup, rfl, rfl⟩
  · exact ⟨keeps_refl hinv, v, hs, rfl, fun h => absurd rfl h⟩
  · have hlost : ¬ A.lost tripId := by
      intro hlost
      rw [(hinv.lost_untracked hlost).2] at hlookup
      cases hlookup
    rcases hs.opened tripId hid with ⟨u, huser, hown, hopen⟩
    refine ⟨keeps_coords hinv (fun id hne => by simp [hne]) (hentry.trans huser) hquiet hown
      hopen.tripOf (fun _ => hlost) (fun _ _ => hopen), v, ?_, rfl, fun _ => hlost⟩
    exact
      { hs with
        tracked := by
          intro u' hu' id htrip hcoord
          by_cases heq : id = tripId
          · rw [heq] at htrip ⊢
            exact hs.tracked u' hu' tripId htrip (by rw [hlookup]; exact Option.some_ne_none _)
          · simp only [Table.lookup_insert_eq, heq, if_false] at hcoord
            exact hs.tracked u' hu' id htrip hcoord
        untracked := by
          intro id hmem
          have hold := hs.untracked id hmem
          refine ⟨hold.1, ?_⟩
          have hne : id ≠ tripId := by
            intro heq
            rw [← heq, hold.2] at hlookup
            cases hlookup
          simp [hne, hold.2] }

/-! # Accounts -/

theorem act_insertUser {username passwordHash : String} {createdAt : Int} :
    ViewTriple A c e v (act (.insertUser username passwordHash createdAt))
      (fun r v' =>
        match r with
        | .ok () =>
            v' = { v with known := username :: v.known } ∧
              forall t u, (t, u) ∈ v.own -> u ≠ username
        | .error _ => v' = v) := by
  apply viewTriple_act
  intro s ch r s' hinv hs _ hexec
  rcases exec_insertUser hexec with ⟨rfl, ⟨e, rfl⟩, _⟩ | ⟨hlookup, rfl, rfl⟩
  · exact ⟨keeps_refl hinv, v, hs, rfl⟩
  · have hmono : forall u row, s.users.lookup u = some row ->
        (s.users.insert username { passwordHash, createdAt }).lookup u = some row := by
      intro u row hrow
      rw [Table.lookup_insert_eq, if_neg]
      · exact hrow
      · intro heq
        rw [heq, hlookup] at hrow
        cases hrow
    refine ⟨⟨?_, ?_, { Guar.refl A e s with }⟩, _, ?_, rfl, ?_⟩
    · exact
        { hinv with
          session_user := by
            intro t u ht
            rcases hinv.session_user ht with ⟨row, hrow⟩
            exact ⟨row, hmono u row hrow⟩ }
    · intro c' _
      exact { Rely.refl A c' s with users := hmono }
    · exact
        { hs with
          known := by
            intro u hu
            rcases List.mem_cons.mp hu with rfl | hu
            · exact ⟨_, AList.lookup_insert _⟩
            · rcases hs.known u hu with ⟨row, hrow⟩
              exact ⟨row, hmono u row hrow⟩ }
    · intro t u hmem heq
      rcases hinv.session_user ((hs.own t u).mpr hmem).1 with ⟨row, hrow⟩
      rw [heq, hlookup] at hrow
      cases hrow

/-! # Trips -/

section

omit [Geo F] [Bcrypt]

theorem insert_lookup_iff {id0 id : Int} {row0 row : Trip} {trips : Trips}
    (hid : trips.lookup id0 = none) :
    (trips.insert id0 row0).lookup id = some row <->
      (id = id0 ∧ row = row0) ∨ trips.lookup id = some row := by
  rw [Table.lookup_insert_eq]
  by_cases heq : id = id0
  · rw [if_pos heq, heq, hid]
    constructor
    · intro h
      cases h
      exact Or.inl ⟨rfl, rfl⟩
    · intro h
      rcases h with ⟨_, rfl⟩ | h
      · rfl
      · cases h
  · rw [if_neg heq]
    constructor
    · exact Or.inr
    · intro h
      exact h.resolve_left fun h => heq h.1

theorem tripOf_insert {id0 id : Int} {row0 : Trip} {u : String}
    (hid : s.trips.lookup id0 = none) :
    TripOf { s with trips := s.trips.insert id0 row0 } id u <->
      (id = id0 ∧ row0.username = u) ∨ TripOf s id u := by
  unfold TripOf
  constructor
  · intro h
    rcases h with ⟨row, hrow, hu⟩
    rcases (insert_lookup_iff hid).mp hrow with ⟨heq, rfl⟩ | hrow
    · exact Or.inl ⟨heq, hu⟩
    · exact Or.inr ⟨row, hrow, hu⟩
  · intro h
    rcases h with ⟨heq, hu⟩ | ⟨row, hrow, hu⟩
    · exact ⟨row0, (insert_lookup_iff hid).mpr (Or.inl ⟨heq, rfl⟩), hu⟩
    · exact ⟨row, (insert_lookup_iff hid).mpr (Or.inr hrow), hu⟩

theorem tripOpen_insert {id0 id : Int} {row0 : Trip} {u : String}
    (hid : s.trips.lookup id0 = none) (hopen : row0.endedAt = none) :
    TripOpen { s with trips := s.trips.insert id0 row0 } id u <->
      (id = id0 ∧ row0.username = u) ∨ TripOpen s id u := by
  unfold TripOpen
  constructor
  · intro h
    rcases h with ⟨row, hrow, hu, hend⟩
    rcases (insert_lookup_iff hid).mp hrow with ⟨heq, rfl⟩ | hrow
    · exact Or.inl ⟨heq, hu⟩
    · exact Or.inr ⟨row, hrow, hu, hend⟩
  · intro h
    rcases h with ⟨heq, hu⟩ | ⟨row, hrow, hu, hend⟩
    · exact ⟨row0, (insert_lookup_iff hid).mpr (Or.inl ⟨heq, rfl⟩), hu, hopen⟩
    · exact ⟨row, (insert_lookup_iff hid).mpr (Or.inr hrow), hu, hend⟩

end

theorem keeps_insertTrip {username : String} {id0 : Int} {row0 : Trip} (hinv : Inv A s)
    (hid : s.trips.lookup id0 = none) (hname : row0.username = username)
    (hopen : row0.endedAt = none) (hown : Owns s c username)
    (hentry : e.user = some username) (hquiet : ¬ e.quiet) :
    (setting A).Keeps c (Guar A e) s { s with trips := s.trips.insert id0 row0 } where
  inv :=
    { hinv with
      tracked_known := by
        intro id hcoord
        rcases hinv.tracked_known hcoord with ⟨u, htrip⟩
        exact ⟨u, (tripOf_insert hid).mpr (Or.inr htrip)⟩
      free_tracked := by
        intro u hu id htrip hcoord
        rcases (tripOf_insert hid).mp htrip with ⟨_, rfl⟩ | htrip
        · rw [hname] at hu
          exact absurd hown.hasSession hu
        · exact (hinv.free_tracked hu id htrip hcoord).imp_left
            fun h => (tripOpen_insert hid hopen).mpr (Or.inr h)
      free_trips := by
        intro hA u hu id htrip
        rcases (tripOf_insert hid).mp htrip with ⟨_, rfl⟩ | htrip
        · rw [hname] at hu
          exact absurd hown.hasSession hu
        · have hleft := hinv.free_trips hA hu id htrip
          refine ⟨fun hopen' => ?_, hleft.2⟩
          rcases (tripOpen_insert hid hopen).mp hopen' with ⟨heq, _⟩ | hopen'
          · rcases htrip with ⟨row, hrow, _⟩
            rw [heq, hid] at hrow
            cases hrow
          · exact hleft.1 hopen'
      lost_untracked := hinv.lost_untracked_insert }
  others := by
    intro c' hne
    exact
      { Rely.refl A c' s with
        trips := by
          intro u hu id row hrow
          rw [insert_lookup_iff hid]
          constructor
          · intro h
            rcases h with ⟨_, rfl⟩ | h
            · rw [← hrow, hname] at hu
              exact absurd hu (hinv.not_owns_of_ne hne hown)
            · exact h
          · exact Or.inr }
  own :=
    { Guar.refl A e s with
      trips := by
        intro id hchanged
        by_cases heq : id = id0
        · refine ⟨username, hentry, (tripOf_insert hid).mpr (Or.inl ⟨heq, hname⟩), ?_⟩
          intro row hrow
          rw [heq, hid] at hrow
          cases hrow
        · simp [heq] at hchanged
      quiet := fun h => absurd h hquiet }

theorem act_insertTrip {username token : String} {ts : Int}
    (huser : v.user = some username) (hown : (token, username) ∈ v.own)
    (hentry : e.user = v.user) (hquiet : ¬ e.quiet) :
    ViewTriple A c e v (act (.insertTrip username ts))
      (fun r v' =>
        match r with
        | .ok id =>
            v' = { v with opened := id :: v.opened, mine := id :: v.mine, openIn := none } ∧
              ¬ A.lost id
        | .error _ => v' = v) := by
  apply viewTriple_act
  intro s ch r s' hinv hs _ hexec
  rcases exec_insertTrip hexec with ⟨rfl, e, rfl⟩ | ⟨hid, rfl, rfl⟩
  · exact ⟨keeps_refl hinv, v, hs, rfl⟩
  · have howner : Owns s c username := hs.owns hown
    have huntracked : s.lastCoordinates.lookup ch.tripId = none := by
      by_contra hcoord
      rcases hinv.tracked_known hcoord with ⟨u, trip, htrip, _⟩
      rw [hid] at htrip
      cases htrip
    refine ⟨keeps_insertTrip hinv hid rfl rfl howner (hentry.trans huser) hquiet, _, ?_,
      rfl, fun hlost => (hinv.lost_untracked hlost).1 hid⟩
    exact
      { hs with
        tracked := by
          intro u hu id htrip hcoord
          rcases (tripOf_insert hid).mp htrip with ⟨heq, _⟩ | htrip
          · rw [heq] at hcoord
            exact absurd huntracked hcoord
          · exact (hs.tracked u hu id htrip hcoord).imp_left
              fun h => (tripOpen_insert hid rfl).mpr (Or.inr h)
        openIn := fun l hl => by cases hl
        mine := by
          intro id hmem
          rcases List.mem_cons.mp hmem with rfl | hmem
          · exact ⟨username, huser, howner, (tripOf_insert hid).mpr (Or.inl ⟨rfl, rfl⟩)⟩
          · rcases hs.mine id hmem with ⟨u, hu, hown', htrip⟩
            exact ⟨u, hu, hown', (tripOf_insert hid).mpr (Or.inr htrip)⟩
        opened := by
          intro id hmem
          rcases List.mem_cons.mp hmem with rfl | hmem
          · exact ⟨username, huser, howner,
              (tripOpen_insert hid rfl).mpr (Or.inl ⟨rfl, rfl⟩)⟩
          · rcases hs.opened id hmem with ⟨u, hu, hown', hopen⟩
            exact ⟨u, hu, hown', (tripOpen_insert hid rfl).mpr (Or.inr hopen)⟩
        untracked := by
          intro id hmem
          rcases hs.untracked id hmem with ⟨⟨u, hown', htrip⟩, hcoord⟩
          exact ⟨⟨u, hown', (tripOf_insert hid).mpr (Or.inr htrip)⟩, hcoord⟩ }

/-! # Positions -/

theorem act_insertPosition {tripId : Int} {lat lon : F} {ts : Int} {stopped : Bool}
    (hid : tripId ∈ v.opened) (hlost : ¬ A.lost tripId) (hentry : e.user = v.user)
    (hquiet : ¬ e.quiet) (hrows : e.rows) :
    ViewTriple A c e v (act (.insertPosition tripId lat lon ts stopped))
      (fun _ v' => v' = v) := by
  apply viewTriple_act
  intro s ch r s' hinv hs _ hexec
  rcases exec_insertPosition hexec with ⟨rfl, _⟩ | ⟨positions, hrow, _, rfl⟩
  · exact ⟨keeps_refl hinv, v, hs, rfl⟩
  · have hother : forall id ts', id ≠ tripId ->
        positions.lookup (id, ts') = s.positions.lookup (id, ts') := by
      intro id ts' hne
      unfold insertPositionRow at hrow
      split at hrow
      · cases hrow
      · cases hrow
        simp [hne]
    rcases hs.opened tripId hid with ⟨u, huser, hown, hopen⟩
    refine ⟨⟨{ hinv with }, ?_, ?_⟩, v, { hs with }, rfl⟩
    · intro c' hne
      exact
        { Rely.refl A c' s with
          positions := fun u' hu' id htrip ts' =>
            hother id ts' (hopen.tripOf.ne_of_other hinv hown htrip hne hu') }
    · exact
        { Guar.refl A e s with
          positions := by
            intro id ts' hchanged
            by_cases heq : id = tripId
            · rw [heq]
              exact ⟨hrows, u, hentry.trans huser, hopen, hlost⟩
            · exact absurd (hother id ts' heq) hchanged
          quiet := fun h => absurd h hquiet }

/-! # Closing a trip -/

section

omit [Geo F] [Bcrypt]

theorem tripOf_close {id0 id : Int} {row0 : Trip} {ts : Int} {u : String}
    (hrow0 : s.trips.lookup id0 = some row0) :
    TripOf { s with trips := s.trips.insert id0 { row0 with endedAt := some ts } } id u <->
      TripOf s id u := by
  unfold TripOf
  simp only [Table.lookup_insert_eq]
  by_cases heq : id = id0
  · subst heq
    simp [hrow0]
  · simp [heq]

theorem tripOpen_close {id0 id : Int} {row0 : Trip} {ts : Int} {u : String} :
    TripOpen { s with trips := s.trips.insert id0 { row0 with endedAt := some ts } } id u <->
      TripOpen s id u ∧ id ≠ id0 := by
  unfold TripOpen
  simp only [Table.lookup_insert_eq]
  by_cases heq : id = id0
  · simp [heq]
  · simp [heq]

end

theorem keeps_closeTrip {username : String} {id0 : Int} {row0 : Trip} {ts : Int}
    (hinv : Inv A s) (hrow0 : s.trips.lookup id0 = some row0)
    (hname : row0.username = username) (hown : Owns s c username)
    (hentry : e.user = some username) (hquiet : ¬ e.quiet) :
    (setting A).Keeps c (Guar A e) s
      { s with trips := s.trips.insert id0 { row0 with endedAt := some ts } } := by
  have htrip0 : TripOf s id0 username := ⟨row0, hrow0, hname⟩
  refine ⟨?_, ?_, ?_⟩
  · exact
      { hinv with
        tracked_known := by
          intro id hcoord
          rcases hinv.tracked_known hcoord with ⟨u, htrip⟩
          exact ⟨u, (tripOf_close hrow0).mpr htrip⟩
        free_tracked := by
          intro u hu id htrip hcoord
          have htrip' := (tripOf_close hrow0).mp htrip
          rcases hinv.free_tracked hu id htrip' hcoord with hopen | hgap
          · exact Or.inl (tripOpen_close.mpr ⟨hopen, htrip0.ne_of_free hown htrip' hu⟩)
          · exact Or.inr hgap
        free_trips := by
          intro hA u hu id htrip
          have hleft := hinv.free_trips hA hu id ((tripOf_close hrow0).mp htrip)
          exact ⟨fun hopen => hleft.1 (tripOpen_close.mp hopen).1, hleft.2⟩
        lost_untracked := hinv.lost_untracked_insert }
  · intro c' hne
    exact
      { Rely.refl A c' s with
        trips := by
          intro u hu id row hrow
          rw [Table.lookup_insert_eq]
          by_cases heq : id = id0
          · rw [if_pos heq, heq, hrow0]
            have hu' : u ≠ username := hinv.owned_ne hne hown hu
            constructor
            · intro h
              cases h
              exact absurd (hrow.symm.trans hname) hu'
            · intro h
              cases h
              exact absurd (hrow.symm.trans hname) hu'
          · rw [if_neg heq] }
  · exact
      { Guar.refl A e s with
        trips := by
          intro id hchanged
          by_cases heq : id = id0
          · rw [heq]
            refine ⟨username, hentry, (tripOf_close hrow0).mpr htrip0, ?_⟩
            intro row hrow
            rw [hrow0] at hrow
            cases hrow
            exact hname
          · simp [heq] at hchanged
        quiet := fun h => absurd h hquiet }

/-- The view after the trip has been closed in the database, still to be dropped. -/
def View.close (v : View F) (tripId : Int) : View F :=
  { v with
    openIn := v.openIn.map (fun l => l.filter (· ≠ tripId))
    opened := v.opened.filter (· ≠ tripId)
    mine := tripId :: v.mine
    gap := tripId :: v.gap }

theorem act_updateTripEnded {tripId : Int} {username token : String} {ts : Int}
    (huser : v.user = some username) (hown : v.own = [(token, username)])
    (hentry : e.user = v.user) (hquiet : ¬ e.quiet) :
    ViewTriple A c e v (act (.updateTripEnded tripId username ts))
      (fun r v' =>
        match r with
        | .ok n =>
            if n = 0 then
              v' = { v with openIn := v.openIn.map (fun l => l.filter (· ≠ tripId)) }
            else v' = v.close tripId
        | .error _ => v' = v ∧ ¬ A.sqlOk c) := by
  apply viewTriple_act
  intro s ch r s' hinv hs hallowed hexec
  have howner : Owns s c username := hs.owns (by rw [hown]; exact List.mem_singleton_self _)
  have honly : forall u, Owns s c u -> u = username := by
    intro u hu
    rcases (hs.owns_iff u).mp hu with ⟨t, ht⟩
    rw [hown] at ht
    cases List.mem_singleton.mp ht
    rfl
  rcases exec_updateTripEnded hexec with
    ⟨rfl, hfails, e, rfl⟩ | ⟨rfl, rfl, hclosed⟩ | ⟨_, rfl, row, hrow, hname, hend, rfl⟩
  · exact ⟨keeps_refl hinv, v, hs, rfl, fun hsql => hallowed.not_fails hsql rfl hfails⟩
  · refine ⟨keeps_refl hinv, { v with openIn := v.openIn.map (fun l => l.filter (· ≠ tripId)) },
      ?_, rfl⟩
    exact
      { hs with
        openIn := by
          intro l hl u hu id hopen
          rcases Option.map_eq_some_iff.mp hl with ⟨l', hl', rfl⟩
          refine List.mem_filter.mpr ⟨hs.openIn l' hl' u hu id hopen, ?_⟩
          simp only [ne_eq, decide_not, Bool.not_eq_eq_eq_not, Bool.not_true,
            decide_eq_false_iff_not]
          intro heq
          rw [heq, honly u hu] at hopen
          rcases hopen with ⟨row, hrow, hname, hend⟩
          exact hclosed row hrow hname hend }
  · refine ⟨keeps_closeTrip hinv hrow hname howner (hentry.trans huser) hquiet,
      v.close tripId, ?_, rfl⟩
    exact
      { hs with
        tracked := by
          intro u hu id htrip hcoord
          by_cases heq : id = tripId
          · rw [heq]
            exact Or.inr List.mem_cons_self
          · rcases hs.tracked u hu id ((tripOf_close hrow).mp htrip) hcoord with hopen | hgap
            · exact Or.inl (tripOpen_close.mpr ⟨hopen, heq⟩)
            · exact Or.inr (List.mem_cons_of_mem _ hgap)
        openIn := by
          intro l hl u hu id hopen
          rcases Option.map_eq_some_iff.mp hl with ⟨l', hl', rfl⟩
          have hopen' := tripOpen_close.mp hopen
          exact List.mem_filter.mpr
            ⟨hs.openIn l' hl' u hu id hopen'.1, by simpa using hopen'.2⟩
        mine := by
          intro id hmem
          rcases List.mem_cons.mp hmem with rfl | hmem
          · exact ⟨username, huser, howner, (tripOf_close hrow).mpr ⟨row, hrow, hname⟩⟩
          · rcases hs.mine id hmem with ⟨u, hu, hown', htrip⟩
            exact ⟨u, hu, hown', (tripOf_close hrow).mpr htrip⟩
        opened := by
          intro id hmem
          rcases List.mem_filter.mp hmem with ⟨hmem, hne⟩
          rcases hs.opened id hmem with ⟨u, hu, hown', hopen⟩
          exact ⟨u, hu, hown', tripOpen_close.mpr ⟨hopen, by simpa using hne⟩⟩
        untracked := by
          intro id hmem
          rcases hs.untracked id hmem with ⟨⟨u, hown', htrip⟩, hcoord⟩
          exact ⟨⟨u, hown', (tripOf_close hrow).mpr htrip⟩, hcoord⟩ }

end Wanderust
