import Wanderust.Session.Runs
import Wanderust.Session.StatusPhases

/-!
# The status Moving and the trips behind it

A user who is shown as moving should have an open trip that is kept in memory,
is not flagged as stopped, and has moved since it was started.  The module says
what the phases of the status monitor mean in the state, and that an operation
which the monitor permits keeps that meaning.
-/

namespace Wanderust

open Interleaving

variable {F : Type} {c : ConnId} {s s' : State F} {user : Option String} {u : String}

/-- The trips whose anchor was last set by a sample that lies elsewhere. -/
abbrev Anchors := Int -> Bool

/-- StartTrip sets the anchor of a trip, and so does a sample that leaves it behind. -/
def recordAnchor [Geo F] (s : State F) : Op F -> Anchors -> Anchors
  | .trackTrip tripId _ _, anchored => Function.update anchored tripId false
  | .observeCoord tripId lat lon, anchored =>
      match s.lastCoordinates.lookup tripId with
      | some coord =>
          if (coord.observe lat lon).2.2 = .toMoving then Function.update anchored tripId true
          else anchored
      | none => anchored
  | _, anchored => anchored

theorem recordAnchor_observe_of_ne [Geo F] {anchored : Anchors} {id id' : Int} {lat lon : F}
    (hne : id' ≠ id) :
    recordAnchor s (.observeCoord id lat lon) anchored id' = anchored id' := by
  cases hlookup : s.lastCoordinates.lookup id with
  | none => rw [recordAnchor, hlookup]
  | some coord =>
      rw [recordAnchor, hlookup]
      simp only
      split
      · exact Function.update_of_ne hne _ _
      · rfl

/-- The trip is open and in memory, not flagged, and has moved since it was started. -/
structure MovingTrip (s : State F) (anchored : Anchors) (u : String) (id : Int) : Prop where
  isOpen : TripOpen s id u
  tracked : exists coord, s.lastCoordinates.lookup id = some coord ∧ coord.inserted = false
  anchor : anchored id = true

/-- If the user is shown as moving, then one of his trips moves. -/
def StatusMeant (s : State F) (anchored : Anchors) (u : String) : Prop :=
  s.statuses.lookup u = some .moving -> exists id, MovingTrip s anchored u id

def AnotherMoves (s : State F) (anchored : Anchors) (u : String) (id : Int) : Prop :=
  s.statuses.lookup u = some .moving -> exists id', id' ≠ id ∧ MovingTrip s anchored u id'

/--
Neither does a request to end a trip close the last trip that moves, nor is the
row of a sample refused that flags the last trip that moved.
-/
structure SparesStatus (ending : Prop) (ch : Choice) (o : Op F) (s : State F)
    (anchored : Anchors) : Prop where
  ends : ending -> forall id u ts, o = .updateTripEnded id u ts -> ch.fails = false ->
    TripOpen s id u -> AnotherMoves s anchored u id
  refused : forall id lat lon ts, o = .insertPosition id lat lon ts true ->
    ch.fails = true ∨ insertPositionRow s.trips s.positions id lat lon ts true = none ->
    forall u, TripOf s id u -> AnotherMoves s anchored u id

/-- What a phase of the handler of a connection says about the state. -/
def PhaseHolds (c : ConnId) (user : Option String) (s : State F) (anchored : Anchors) :
    StatusPhase -> Prop
  | .calm | .switched => True
  | .drawn token => (token, c) ∈ s.drawn ∧ s.sessions.lookup token = none
  | .found id => exists u, user = some u ∧ TripOpen s id u
  | .lost id => exists u, user = some u ∧ TripOf s id u ∧ s.lastCoordinates.lookup id = none
  | .moved id => exists u, user = some u ∧ MovingTrip s anchored u id
  | .ended id => exists u, user = some u ∧ TripOf s id u ∧ ¬ TripOpen s id u
  | .owing id => exists u, user = some u ∧ TripOf s id u
  | .closing ids => exists u, user = some u ∧ forall id, id ∈ ids -> TripOf s id u

/-- Until it gives up its session, the connection owns the session of its user. -/
def Held (c : ConnId) (user : Option String) (s : State F) (phase : StatusPhase) : Prop :=
  phase ≠ .switched -> s.userState c = user ∧ forall u, user = some u -> Owns s c u

variable {anchored anchored' : Anchors} {phase : StatusPhase}

/-! # Frames -/

theorem MovingTrip.frame {id : Int} (h : MovingTrip s anchored u id)
    (hopen : TripOpen s id u -> TripOpen s' id u)
    (hcoord : s'.lastCoordinates.lookup id = s.lastCoordinates.lookup id)
    (hanchor : anchored' id = anchored id) : MovingTrip s' anchored' u id where
  isOpen := hopen h.isOpen
  tracked := by
    rw [hcoord]
    exact h.tracked
  anchor := hanchor.trans h.anchor

theorem statusMeant_frame (h : StatusMeant s anchored u)
    (hstatus : s'.statuses.lookup u = some .moving -> s.statuses.lookup u = some .moving)
    (htrip : forall id, MovingTrip s anchored u id -> MovingTrip s' anchored' u id) :
    StatusMeant s' anchored' u := by
  intro hmoving
  rcases h (hstatus hmoving) with ⟨id, hid⟩
  exact ⟨id, htrip id hid⟩

structure SameTrips (u : String) (s s' : State F) (anchored anchored' : Anchors) : Prop where
  ownedIff : forall id, TripOf s' id u <-> TripOf s id u
  openIff : forall id, TripOpen s' id u <-> TripOpen s id u
  coords : forall id, TripOf s id u ->
    s'.lastCoordinates.lookup id = s.lastCoordinates.lookup id
  anchors : forall id, TripOf s id u -> anchored' id = anchored id

theorem SameTrips.movingTrip (h : SameTrips u s s' anchored anchored') {id : Int}
    (hid : MovingTrip s anchored u id) : MovingTrip s' anchored' u id :=
  hid.frame (h.openIff id).mpr (h.coords id hid.isOpen.tripOf) (h.anchors id hid.isOpen.tripOf)

theorem SameTrips.of_rows
    (hrows : forall id row, row.username = u ->
      (s'.trips.lookup id = some row <-> s.trips.lookup id = some row))
    (hcoords : forall id, TripOf s id u ->
      s'.lastCoordinates.lookup id = s.lastCoordinates.lookup id)
    (hanchors : forall id, TripOf s id u -> anchored' id = anchored id) :
    SameTrips u s s' anchored anchored' where
  ownedIff := by
    intro id
    constructor
    · intro h
      rcases h with ⟨row, hrow, hu⟩
      exact ⟨row, (hrows id row hu).mp hrow, hu⟩
    · intro h
      rcases h with ⟨row, hrow, hu⟩
      exact ⟨row, (hrows id row hu).mpr hrow, hu⟩
  openIff := by
    intro id
    constructor
    · intro h
      rcases h with ⟨row, hrow, hu, hend⟩
      exact ⟨row, (hrows id row hu).mp hrow, hu, hend⟩
    · intro h
      rcases h with ⟨row, hrow, hu, hend⟩
      exact ⟨row, (hrows id row hu).mpr hrow, hu, hend⟩
  coords := hcoords
  anchors := hanchors

theorem SameTrips.of_eq (htrips : s'.trips = s.trips)
    (hcoords : s'.lastCoordinates = s.lastCoordinates) :
    SameTrips u s s' anchored anchored := by
  apply SameTrips.of_rows
  · intro id row _
    rw [htrips]
  · intro id _
    rw [hcoords]
  · intro id _
    rfl

theorem statusMeant_of_eq (h : StatusMeant s anchored u) (htrips : s'.trips = s.trips)
    (hcoords : s'.lastCoordinates = s.lastCoordinates) (hstatuses : s'.statuses = s.statuses) :
    StatusMeant s' anchored u := by
  apply statusMeant_frame h
  · intro hmoving
    rw [hstatuses] at hmoving
    exact hmoving
  · intro id hid
    exact (SameTrips.of_eq htrips hcoords).movingTrip hid

/-- A phase keeps its meaning where the user's trips are left alone. -/
theorem PhaseHolds.frame (h : PhaseHolds c user s anchored phase)
    (hsame : forall u, user = some u -> phase ≠ .switched -> SameTrips u s s' anchored anchored')
    (hdrawn : forall token, phase = .drawn token -> (token, c) ∈ s.drawn ->
      (token, c) ∈ s'.drawn ∧ s'.sessions.lookup token = s.sessions.lookup token) :
    PhaseHolds c user s' anchored' phase := by
  cases phase with
  | calm => trivial
  | switched => trivial
  | drawn token =>
      rcases hdrawn token rfl h.1 with ⟨hmem, hlookup⟩
      exact ⟨hmem, hlookup.trans h.2⟩
  | found id =>
      rcases h with ⟨u, huser, hopen⟩
      exact ⟨u, huser, ((hsame u huser (by simp)).openIff id).mpr hopen⟩
  | lost id =>
      rcases h with ⟨u, huser, htrip, hcoord⟩
      have hs := hsame u huser (by simp)
      exact ⟨u, huser, (hs.ownedIff id).mpr htrip, (hs.coords id htrip).trans hcoord⟩
  | moved id =>
      rcases h with ⟨u, huser, hmoves⟩
      exact ⟨u, huser, (hsame u huser (by simp)).movingTrip hmoves⟩
  | ended id =>
      rcases h with ⟨u, huser, htrip, hclosed⟩
      have hs := hsame u huser (by simp)
      exact ⟨u, huser, (hs.ownedIff id).mpr htrip, fun hopen => hclosed ((hs.openIff id).mp hopen)⟩
  | owing id =>
      rcases h with ⟨u, huser, htrip⟩
      exact ⟨u, huser, ((hsame u huser (by simp)).ownedIff id).mpr htrip⟩
  | closing ids =>
      rcases h with ⟨u, huser, htrips⟩
      refine ⟨u, huser, ?_⟩
      intro id hid
      exact ((hsame u huser (by simp)).ownedIff id).mpr (htrips id hid)

theorem PhaseHolds.paid (h : PhaseHolds c user s anchored phase) :
    PhaseHolds c user s anchored phase.paid := by
  cases phase with
  | owing id => trivial
  | closing ids => trivial
  | _ => exact h

structure SameMeaning (c : ConnId) (s s' : State F) : Prop where
  trips : s'.trips = s.trips
  coords : s'.lastCoordinates = s.lastCoordinates
  statuses : s'.statuses = s.statuses
  sessions : s'.sessions = s.sessions
  drawn : s'.drawn = s.drawn
  user : s'.userState c = s.userState c

theorem SameMeaning.phaseHolds (h : SameMeaning c s s')
    (hphase : PhaseHolds c user s anchored phase) : PhaseHolds c user s' anchored phase := by
  apply hphase.frame
  · intro u _ _
    exact SameTrips.of_eq h.trips h.coords
  · intro token _ hmem
    rw [h.drawn, h.sessions]
    exact ⟨hmem, rfl⟩

theorem SameMeaning.statusMeant {u : String} (h : SameMeaning c s s')
    (hmeant : StatusMeant s anchored u) : StatusMeant s' anchored u :=
  statusMeant_of_eq hmeant h.trips h.coords h.statuses

theorem owns_tryInsertToken {username token u : String} (hfree : s.sessions.lookup token = none)
    (h : Owns s c u) :
    Owns { s with sessions := (tryInsertToken s.sessions username token).2 } c u := by
  rcases h with ⟨t, hlookup, hdrawn⟩
  refine ⟨t, ?_, hdrawn⟩
  have hne : t ≠ token := by
    intro heq
    rw [heq, hfree] at hlookup
    cases hlookup
  unfold tryInsertToken
  split
  · exact hlookup
  · simpa [hne] using hlookup

theorem statusMeant_of_ne {name : String} {owed : Prop} (huser : user = some u)
    (hne : u ≠ name) (hpermits : phase.Free ∨ (user = some name ∧ owed))
    (h : phase.Owes ∨ StatusMeant s anchored u) : StatusMeant s anchored u := by
  apply h.resolve_left
  rcases hpermits with hfree | ⟨hname, _⟩
  · exact hfree.not_owes
  · rw [huser] at hname
    exact absurd (Option.some.inj hname) hne

theorem statusMeant_atRest {name : String} {owed : Prop} (huser : user = some u)
    (hpermits : phase.Free ∨ (user = some name ∧ owed))
    (hrest : s'.statuses.lookup name ≠ some .moving)
    (hothers : u ≠ name -> s'.statuses.lookup u = s.statuses.lookup u)
    (htrip : forall id, MovingTrip s anchored u id -> MovingTrip s' anchored u id)
    (h : phase.Owes ∨ StatusMeant s anchored u) : StatusMeant s' anchored u := by
  by_cases heq : u = name
  · intro hmoving
    rw [heq] at hmoving
    exact absurd hmoving hrest
  · apply statusMeant_frame (statusMeant_of_ne huser heq hpermits h) _ htrip
    intro hmoving
    rw [hothers heq] at hmoving
    exact hmoving

/-! # Interference -/

theorem Guar.sameTrips {A : Regime} {e : Entry} (h : Guar A e s s') (hne : e.user ≠ some u)
    (hanchors : forall id, TripOf s id u -> anchored' id = anchored id) :
    SameTrips u s s' anchored anchored' := by
  apply SameTrips.of_rows
  · intro id row hu
    by_cases heq : s'.trips.lookup id = s.trips.lookup id
    · rw [heq]
    · rcases h.trips id heq with ⟨v, hentry, htrip, hold⟩
      constructor
      · intro hrow
        have huv : u = v := TripOf.unique ⟨row, hrow, hu⟩ htrip
        exact absurd (huv ▸ hentry) hne
      · intro hrow
        have huv : u = v := hu.symm.trans (hold row hrow)
        exact absurd (huv ▸ hentry) hne
  · intro id htrip
    by_contra hcoord
    rcases h.coords id hcoord with ⟨v, hentry, hv⟩
    rw [hentry, TripOf.unique hv htrip] at hne
    exact hne rfl
  · exact hanchors

theorem Rely.sameTrips {A : Regime} (h : Rely A c s s') (hown : Owns s c u)
    (hanchors : forall id, TripOf s id u -> anchored' id = anchored id) :
    SameTrips u s s' anchored anchored' :=
  SameTrips.of_rows (h.trips u hown) (h.coords u hown) hanchors

theorem PhaseHolds.env {A : Regime} (h : PhaseHolds c user s anchored phase)
    (hheld : Held c user s phase) (hrely : Rely A c s s')
    (hanchors : forall u id, Owns s c u -> TripOf s id u -> anchored' id = anchored id) :
    PhaseHolds c user s' anchored' phase := by
  apply h.frame
  · intro u huser hphase
    have hown := (hheld hphase).2 u huser
    exact hrely.sameTrips hown fun id => hanchors u id hown
  · intro token _ hmem
    exact ⟨(hrely.draws token).mpr hmem, hrely.own token hmem⟩

theorem Held.env {A : Regime} (h : Held c user s phase) (hrely : Rely A c s s') :
    Held c user s' phase := by
  intro hphase
  rcases h hphase with ⟨huser, hown⟩
  refine ⟨hrely.user.trans huser, ?_⟩
  intro u hu
  exact (hrely.owns_iff u).mpr (hown u hu)

end Wanderust
