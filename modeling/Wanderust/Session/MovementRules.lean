import Wanderust.Session.Movement
import Wanderust.Session.TripRules

/-!
# Permitted operations keep the meaning of the phases

One lemma for each part of the meaning: what the phase says, that the session is
held, and that a user who is shown as moving has a trip that moves.
-/

namespace Wanderust

open Interleaving

variable {F : Type} [Geo F] [Bcrypt] {c : ConnId} {ch : Choice} {s s' : State F}
variable {user : Option String} {ending : Prop} {anchored : Anchors} {phase : StatusPhase}

/-! # The anchors -/

omit [Bcrypt] in
/-- An anchor is only changed for a trip that is known to be open. -/
theorem recordAnchor_found {o : Op F} (hpermits : permitsStatus user ending o phase) {id : Int}
    (h : recordAnchor s o anchored id ≠ anchored id) : phase = .found id := by
  cases o with
  | trackTrip tripId lat lon =>
      have hid : id = tripId := by
        by_contra hne
        exact h (Function.update_of_ne hne _ _)
      rw [hid]
      exact hpermits
  | observeCoord tripId lat lon =>
      have hid : id = tripId := by
        by_contra hne
        exact h (recordAnchor_observe_of_ne hne)
      rw [hid]
      exact hpermits
  | _ => exact absurd rfl h

/-! # What the phase says -/

theorem exec_unwatched {o : Op F} (ho : o.isUnwatched = true) {r : o.Ret}
    (h : exec c ch o s = .done r s') : SameMeaning c s s' := by
  cases o with
  | selectUser _ | selectPasswordHash _ | selectTrajectory _ _ _ =>
      rw [(answerQuery_done h).1]
      exact ⟨rfl, rfl, rfl, rfl, rfl, rfl⟩
  | insertUser username passwordHash createdAt =>
      rcases exec_insertUser h with ⟨rfl, _⟩ | ⟨_, _, rfl⟩
      · exact ⟨rfl, rfl, rfl, rfl, rfl, rfl⟩
      · exact ⟨rfl, rfl, rfl, rfl, rfl, rfl⟩
  | send _ | sendClose =>
      simp only [exec] at h
      split at h
      · cases h
        exact ⟨rfl, rfl, rfl, rfl, rfl, rfl⟩
      · cases h
        exact ⟨rfl, rfl, rfl, rfl, rfl, rfl⟩
  | bcryptHash _ | nowSecs | getUserByToken _ | sinksInsert _ | sinksRemove _ =>
      cases h
      exact ⟨rfl, rfl, rfl, rfl, rfl, rfl⟩
  | _ => cases ho

theorem phaseHolds_observe {id : Int} {lat lon : F}
    {r : Option (InsertAction × StatusTransition)}
    (hphase : PhaseHolds c user s anchored (.found id))
    (hexec : exec c ch (.observeCoord id lat lon) s = .done r s') :
    PhaseHolds c user s' (recordAnchor s (.observeCoord id lat lon) anchored)
      (advance (.observeCoord id lat lon : Op F) r (.found id)) := by
  rcases hphase with ⟨u, huser, hopen⟩
  rcases exec_observeCoord hexec with ⟨_, rfl, _⟩ | ⟨coord, hlookup, rfl, rfl⟩
  · trivial
  · rcases observe_cases coord lat lon with ⟨hmoves, hinserted⟩ | hstops | ⟨hsame, _⟩
    · have hadvance : advance (.observeCoord id lat lon : Op F)
          (some (coord.observe lat lon).2) (.found id) = .moved id := by
        simp only [advance, hmoves, afterSample]
      rw [hadvance]
      refine ⟨u, huser, hopen, ⟨_, by simp, hinserted⟩, ?_⟩
      rw [recordAnchor, hlookup]
      simp [hmoves]
    · have hadvance : advance (.observeCoord id lat lon : Op F)
          (some (coord.observe lat lon).2) (.found id) = .owing id := by
        rw [hstops]
        rfl
      rw [hadvance]
      exact ⟨u, huser, hopen.tripOf⟩
    · have hadvance : advance (.observeCoord id lat lon : Op F)
          (some (coord.observe lat lon).2) (.found id) = .calm := by
        simp only [advance, hsame, afterSample]
      rw [hadvance]
      trivial

theorem tripOf_updateTripEnded {id id' : Int} {name u : String} {ts : Int}
    {r : Except SqlError Nat} (hexec : exec c ch (.updateTripEnded id name ts) s = .done r s')
    (h : TripOf s id' u) : TripOf s' id' u := by
  rcases exec_updateTripEnded hexec with ⟨rfl, _⟩ | ⟨rfl, _⟩ | ⟨_, _, row, hrow, _, _, rfl⟩
  · exact h
  · exact h
  · exact (tripOf_close hrow).mpr h

theorem phaseHolds_updateTripEnded {id : Int} {name : String} {ts : Int}
    {r : Except SqlError Nat}
    (hpermits : permitsStatus user ending (.updateTripEnded id name ts : Op F) phase)
    (hphase : PhaseHolds c user s anchored phase)
    (hexec : exec c ch (.updateTripEnded id name ts) s = .done r s') :
    PhaseHolds c user s' anchored (advance (.updateTripEnded id name ts : Op F) r phase) := by
  rcases hpermits with ⟨huser, ⟨rfl, _⟩ | rfl | ⟨ids, rfl, _⟩⟩
  · rcases exec_updateTripEnded hexec with
      ⟨_, _, e, rfl⟩ | ⟨_, rfl, _⟩ | ⟨_, rfl, row, hrow, hname, _, rfl⟩
    · trivial
    · trivial
    · refine ⟨name, huser, (tripOf_close hrow).mpr ⟨row, hrow, hname⟩, ?_⟩
      intro hopen
      exact (tripOpen_close.mp hopen).2 rfl
  · have hadvance : advance (.updateTripEnded id name ts : Op F) r (.lost id) = .lost id := by
      cases r with
      | ok n => rfl
      | error e => rfl
    rw [hadvance]
    rcases hphase with ⟨u, hu, htrip, hcoord⟩
    refine ⟨u, hu, tripOf_updateTripEnded hexec htrip, ?_⟩
    rcases exec_updateTripEnded hexec with ⟨rfl, _⟩ | ⟨rfl, _⟩ | ⟨_, _, row, _, _, _, rfl⟩
    · exact hcoord
    · exact hcoord
    · exact hcoord
  · have hadvance : advance (.updateTripEnded id name ts : Op F) r (.closing ids) =
        .closing ids := by
      cases r with
      | ok n => rfl
      | error e => rfl
    rw [hadvance]
    rcases hphase with ⟨u, hu, htrips⟩
    refine ⟨u, hu, ?_⟩
    intro id' hid'
    exact tripOf_updateTripEnded hexec (htrips id' hid')

theorem phaseHolds_statusSet {name : String} {status : UserStatus}
    (hphase : PhaseHolds c user s anchored phase)
    (hexec : exec c ch (.statusSet name status) s = .done () s') :
    PhaseHolds c user s' anchored (advance (.statusSet name status : Op F) () phase) := by
  cases hexec
  cases status with
  | stationary =>
      apply PhaseHolds.paid
      exact hphase.frame (fun _ _ _ => SameTrips.of_eq rfl rfl) fun _ _ hmem => ⟨hmem, rfl⟩
  | moving => trivial

theorem phaseHolds_isTracked {id : Int} {r : Bool} (hphase : PhaseHolds c user s anchored phase)
    (hexec : exec c ch (.isTracked id) s = .done r s') :
    PhaseHolds c user s' anchored (advance (.isTracked id : Op F) r phase) := by
  cases hexec
  cases htracked : (s.lastCoordinates.lookup id).isSome with
  | true =>
      cases phase with
      | _ => exact hphase
  | false =>
      cases phase with
      | found id' =>
          simp only [advance]
          split
          · rename_i heq
            rcases hphase with ⟨u, huser, hopen⟩
            rw [heq] at htracked ⊢
            exact ⟨u, huser, hopen.tripOf, by simpa using htracked⟩
          · exact hphase
      | _ => exact hphase

theorem phaseHolds_insertPosition {id : Int} {lat lon : F} {ts : Int} {stopped : Bool}
    {r : Except SqlError Unit} (hphase : PhaseHolds c user s anchored phase)
    (hexec : exec c ch (.insertPosition id lat lon ts stopped) s = .done r s') :
    PhaseHolds c user s' anchored
      (advance (.insertPosition id lat lon ts stopped : Op F) r phase) := by
  have hframe : PhaseHolds c user s' anchored phase := by
    rcases exec_insertPosition hexec with ⟨rfl, _⟩ | ⟨positions, _, _, rfl⟩
    · exact hphase
    · exact hphase.frame (fun u _ _ => SameTrips.of_eq rfl rfl) fun _ _ hmem => ⟨hmem, rfl⟩
  cases r with
  | ok => exact hframe
  | error e =>
      cases phase with
      | owing id' => trivial
      | _ => exact hframe

theorem phaseHolds_selectOpenTrip {id : Int} {name : String} {r : Except SqlError Bool}
    (huser : user = some name) (hexec : exec c ch (.selectOpenTrip id name) s = .done r s') :
    PhaseHolds c user s' anchored (advance (.selectOpenTrip id name : Op F) r .calm) := by
  rcases answerQuery_done hexec with ⟨rfl, hr⟩
  cases r with
  | error e => trivial
  | ok isOpen =>
      cases isOpen with
      | false => trivial
      | true =>
          rcases hr with hr | ⟨_, hr⟩
          · have hselect : selectOpenTrip s'.trips id name = true := (Except.ok.inj hr).symm
            exact ⟨name, huser, selectOpenTrip_iff.mp hselect⟩
          · cases hr

theorem phaseHolds_selectOpenTripIds {name : String} {r : Except SqlError (List Int)}
    (huser : user = some name) (hexec : exec c ch (.selectOpenTripIds name) s = .done r s') :
    PhaseHolds c user s' anchored (advance (.selectOpenTripIds name : Op F) r .calm) := by
  rcases answerQuery_done hexec with ⟨rfl, rfl | ⟨_, rfl⟩⟩
  · refine ⟨name, huser, ?_⟩
    intro id hid
    rcases mem_selectOpenTripIds.mp hid with ⟨row, hrow, hname, _⟩
    exact ⟨row, hrow, hname⟩
  · trivial

/-- One lemma for each operation that the phases are about. -/
theorem phaseHolds_step {o : Op F} {r : o.Ret} (hpermits : permitsStatus user ending o phase)
    (hphase : PhaseHolds c user s anchored phase) (hexec : exec c ch o s = .done r s') :
    PhaseHolds c user s' (recordAnchor s o anchored) (advance o r phase) := by
  cases o with
  | getUserState =>
      cases hexec
      exact hphase
  | setUserState _ | invalidateToken _ | invalidateUserSessions _ | tryInsertToken _ _ => trivial
  | drawFreshToken =>
      rcases exec_drawFreshToken hexec with ⟨hfree, rfl, rfl⟩
      exact ⟨List.mem_cons_self, hfree⟩
  | statusSet name status => exact phaseHolds_statusSet hphase hexec
  | statusRemove name =>
      cases hexec
      apply PhaseHolds.paid
      exact hphase.frame (fun _ _ _ => SameTrips.of_eq rfl rfl) fun _ _ hmem => ⟨hmem, rfl⟩
  | trackTrip id lat lon =>
      cases hexec
      have hfound : phase = .found id := hpermits
      rw [hfound] at hphase
      rcases hphase with ⟨u, huser, hopen⟩
      exact ⟨u, huser, hopen.tripOf⟩
  | dropTrip id =>
      cases hexec
      rcases hpermits with rfl | ⟨ids, rfl, _⟩
      · trivial
      · exact hphase
  | isTracked id => exact phaseHolds_isTracked hphase hexec
  | observeCoord id lat lon =>
      have hfound : phase = .found id := hpermits
      subst hfound
      exact phaseHolds_observe hphase hexec
  | insertTrip name ts =>
      rcases hpermits with ⟨huser, rfl⟩
      rcases exec_insertTrip hexec with ⟨_, e, rfl⟩ | ⟨hfree, rfl, rfl⟩
      · trivial
      · exact ⟨name, huser, (tripOpen_insert hfree rfl).mpr (Or.inl ⟨rfl, rfl⟩)⟩
  | insertPosition id lat lon ts stopped => exact phaseHolds_insertPosition hphase hexec
  | updateTripEnded id name ts => exact phaseHolds_updateTripEnded hpermits hphase hexec
  | selectOpenTrip id name =>
      rcases hpermits with ⟨huser, rfl⟩
      exact phaseHolds_selectOpenTrip huser hexec
  | selectOpenTripIds name =>
      rcases hpermits with ⟨huser, rfl⟩
      exact phaseHolds_selectOpenTripIds huser hexec
  | _ => exact (exec_unwatched rfl hexec).phaseHolds hphase

/-! # That the session is held -/

omit [Geo F] [Bcrypt] in
theorem advance_switched {o : Op F} (hpermits : permitsStatus user ending o .switched)
    (r : o.Ret) : advance o r .switched = .switched := by
  cases o with
  | drawFreshToken => cases hpermits
  | tryInsertToken _ _ => cases hpermits
  | statusSet name status =>
      cases status with
      | stationary => rfl
      | moving =>
          rcases hpermits.2 with ⟨id, hid⟩
          cases hid
  | trackTrip _ _ _ => cases hpermits
  | dropTrip _ =>
      rcases hpermits with hphase | ⟨ids, hphase, _⟩
      · cases hphase
      · cases hphase
  | isTracked _ => cases r <;> rfl
  | observeCoord _ _ _ => cases hpermits
  | insertTrip _ _ => cases hpermits.2
  | insertPosition _ _ _ _ _ => cases r <;> rfl
  | updateTripEnded _ _ _ =>
      rcases hpermits.2 with ⟨hphase, _⟩ | hphase | ⟨ids, hphase, _⟩
      · cases hphase
      · cases hphase
      · cases hphase
  | selectOpenTrip _ _ => cases hpermits.2
  | selectOpenTripIds _ => cases hpermits.2
  | _ => rfl

theorem held_step {o : Op F} {r : o.Ret} (hpermits : permitsStatus user ending o phase)
    (hphase : PhaseHolds c user s anchored phase) (hheld : Held c user s phase)
    (hexec : exec c ch o s = .done r s') : Held c user s' (advance o r phase) := by
  intro hadvance
  have hkept : phase ≠ .switched := by
    intro hswitched
    subst hswitched
    exact hadvance (advance_switched hpermits r)
  have hold := hheld hkept
  cases o with
  | setUserState _ | invalidateToken _ | invalidateUserSessions _ => exact absurd rfl hadvance
  | drawFreshToken =>
      rcases exec_drawFreshToken hexec with ⟨_, rfl, rfl⟩
      refine ⟨hold.1, ?_⟩
      intro u hu
      rcases hold.2 u hu with ⟨t, hlookup, hdrawn⟩
      exact ⟨t, hlookup, List.mem_cons_of_mem _ hdrawn⟩
  | tryInsertToken username token =>
      have hdrawn : phase = .drawn token := hpermits
      rw [hdrawn] at hphase
      cases hexec
      exact ⟨hold.1, fun u hu => owns_tryInsertToken hphase.2 (hold.2 u hu)⟩
  | getUserState | statusSet _ _ | statusRemove _ | trackTrip _ _ _ | dropTrip _ | isTracked _ =>
      cases hexec
      exact hold
  | observeCoord id lat lon =>
      rcases exec_observeCoord hexec with ⟨_, _, rfl⟩ | ⟨coord, _, _, rfl⟩
      · exact hold
      · exact hold
  | insertTrip name ts =>
      rcases exec_insertTrip hexec with ⟨rfl, _⟩ | ⟨_, _, rfl⟩
      · exact hold
      · exact hold
  | insertPosition id lat lon ts stopped =>
      rcases exec_insertPosition hexec with ⟨rfl, _⟩ | ⟨positions, _, _, rfl⟩
      · exact hold
      · exact hold
  | updateTripEnded id name ts =>
      rcases exec_updateTripEnded hexec with ⟨rfl, _⟩ | ⟨rfl, _⟩ | ⟨_, _, row, _, _, _, rfl⟩
      · exact hold
      · exact hold
      · exact hold
  | selectOpenTrip _ _ | selectOpenTripIds _ =>
      rw [(answerQuery_done hexec).1]
      exact hold
  | _ =>
      have hsame := exec_unwatched rfl hexec
      refine ⟨hsame.user.trans hold.1, ?_⟩
      intro u hu
      rcases hold.2 u hu with ⟨t, ht⟩
      refine ⟨t, ?_⟩
      rw [Holds, hsame.sessions, hsame.drawn]
      exact ht

/-! # What the monitor assumes of the answers -/

theorem answersStatus_step {o : Op F} {r : o.Ret} (hheld : Held c user s phase)
    (hexec : exec c ch o s = .done r s') : answersStatus user o r phase := by
  cases o with
  | getUserState =>
      intro hphase
      cases hexec
      exact (hheld hphase).1
  | observeCoord id lat lon =>
      intro action hr
      rcases exec_observeCoord hexec with ⟨_, hnone, _⟩ | ⟨coord, _, hsome, _⟩
      · rw [hnone] at hr
        cases hr
      · rw [hsome] at hr
        have hobserved := Option.some.inj hr
        rcases observe_cases coord lat lon with ⟨hmoves, _⟩ | hstops | ⟨hsame, _⟩
        · rw [hobserved] at hmoves
          cases hmoves
        · rw [hobserved] at hstops
          exact congrArg Prod.fst hstops
        · rw [hobserved] at hsame
          cases hsame
  | _ => trivial

/-! # That the status is meant -/

omit [Bcrypt] in
theorem movingTrip_observe {id : Int} {lat lon : F} {coord : CoordState F} {u : String}
    (hlookup : s.lastCoordinates.lookup id = some coord)
    (hstops : (coord.observe lat lon).2.2 ≠ .toStationary) {id' : Int}
    (h : MovingTrip s anchored u id') :
    MovingTrip
      { s with lastCoordinates := s.lastCoordinates.insert id (coord.observe lat lon).1 }
      (recordAnchor s (.observeCoord id lat lon) anchored) u id' := by
  by_cases heq : id' = id
  · subst heq
    rcases h.tracked with ⟨coord', hcoord', hinserted⟩
    rw [hlookup] at hcoord'
    cases hcoord'
    refine ⟨h.isOpen, ⟨(coord.observe lat lon).1, by simp, ?_⟩, ?_⟩
    · rcases observe_cases coord lat lon with ⟨_, hmoves⟩ | hflag | ⟨_, hsame⟩
      · exact hmoves
      · rw [hflag] at hstops
        exact absurd rfl hstops
      · exact hsame.trans hinserted
    · rw [recordAnchor, hlookup]
      simp only
      split
      · simp
      · exact h.anchor
  · have hcoord : (s.lastCoordinates.insert id (coord.observe lat lon).1).lookup id' =
        s.lastCoordinates.lookup id' := by simp [heq]
    exact h.frame (fun hopen => hopen) hcoord (recordAnchor_observe_of_ne heq)

variable {u : String}

theorem statusMeant_observe {id : Int} {lat lon : F}
    {r : Option (InsertAction × StatusTransition)}
    (hexec : exec c ch (.observeCoord id lat lon) s = .done r s')
    (h : StatusMeant s anchored u) :
    (advance (.observeCoord id lat lon : Op F) r (.found id)).Owes ∨
      StatusMeant s' (recordAnchor s (.observeCoord id lat lon) anchored) u := by
  rcases exec_observeCoord hexec with ⟨hlookup, _, rfl⟩ | ⟨coord, hlookup, rfl, rfl⟩
  · right
    rw [recordAnchor, hlookup]
    exact h
  · by_cases hstops : (coord.observe lat lon).2.2 = .toStationary
    · left
      simp only [advance, hstops, afterSample]
      trivial
    · right
      exact statusMeant_frame h (fun hmoving => hmoving)
        fun id' => movingTrip_observe hlookup hstops

theorem statusMeant_insertTrip {name : String} {ts : Int} {r : Except SqlError Int}
    (hexec : exec c ch (.insertTrip name ts) s = .done r s') (h : StatusMeant s anchored u) :
    StatusMeant s' anchored u := by
  rcases exec_insertTrip hexec with ⟨rfl, _⟩ | ⟨hfree, _, rfl⟩
  · exact h
  · apply statusMeant_frame h
    · intro hmoving
      exact hmoving
    · intro id hid
      exact hid.frame (fun hopen => (tripOpen_insert hfree rfl).mpr (Or.inr hopen)) rfl rfl

theorem movingTrip_updateTripEnded {id id' : Int} {name : String} {ts : Int}
    {r : Except SqlError Nat} (hexec : exec c ch (.updateTripEnded id name ts) s = .done r s')
    (hne : id' ≠ id) (h : MovingTrip s anchored u id') : MovingTrip s' anchored u id' := by
  rcases exec_updateTripEnded hexec with ⟨rfl, _⟩ | ⟨rfl, _⟩ | ⟨_, _, row, _, _, _, rfl⟩
  · exact h
  · exact h
  · exact h.frame (fun hopen => tripOpen_close.mpr ⟨hopen, hne⟩) rfl rfl

theorem statusMeant_updateTripEnded {id : Int} {name : String} {ts : Int}
    {r : Except SqlError Nat} (huser : user = some u)
    (hpermits : permitsStatus user ending (.updateTripEnded id name ts : Op F) phase)
    (hphase : PhaseHolds c user s anchored phase)
    (hspares : SparesStatus ending ch (.updateTripEnded id name ts) s anchored)
    (hexec : exec c ch (.updateTripEnded id name ts) s = .done r s')
    (h : phase.Owes ∨ StatusMeant s anchored u) :
    (advance (.updateTripEnded id name ts : Op F) r phase).Owes ∨ StatusMeant s' anchored u := by
  rcases hpermits with ⟨hname, ⟨rfl, hending⟩ | rfl | ⟨ids, rfl, _⟩⟩
  · right
    have hmeant : StatusMeant s anchored u := h.resolve_left not_false
    rw [huser] at hname
    cases hname
    rcases exec_updateTripEnded hexec with
      ⟨rfl, _⟩ | ⟨rfl, _⟩ | ⟨hfails, _, row, hrow, hu, hend, rfl⟩
    · exact hmeant
    · exact hmeant
    · intro hmoving
      rcases hspares.ends hending id u ts rfl hfails ⟨row, hrow, hu, hend⟩ hmoving with
        ⟨id', hne, hmoves⟩
      exact ⟨id', movingTrip_updateTripEnded hexec hne hmoves⟩
  · -- a trip that is lost from memory does not move
    right
    have hmeant : StatusMeant s anchored u := h.resolve_left not_false
    rcases hphase with ⟨_, _, _, hcoord⟩
    apply statusMeant_frame hmeant
    · intro hmoving
      rcases exec_updateTripEnded hexec with ⟨rfl, _⟩ | ⟨rfl, _⟩ | ⟨_, _, row, _, _, _, rfl⟩
      · exact hmoving
      · exact hmoving
      · exact hmoving
    · intro id' hid'
      apply movingTrip_updateTripEnded hexec _ hid'
      intro heq
      rcases hid'.tracked with ⟨coord, htracked, _⟩
      rw [heq, hcoord] at htracked
      cases htracked
  · left
    have hadvance : advance (.updateTripEnded id name ts : Op F) r (.closing ids) =
        .closing ids := by
      cases r with
      | ok n => rfl
      | error e => rfl
    rw [hadvance]
    trivial

theorem statusMeant_insertPosition {id : Int} {lat lon : F} {ts : Int} {stopped : Bool}
    {r : Except SqlError Unit} (huser : user = some u)
    (hpermits : permitsStatus user ending (.insertPosition id lat lon ts stopped) phase)
    (hphase : PhaseHolds c user s anchored phase)
    (hspares : SparesStatus ending ch (.insertPosition id lat lon ts stopped) s anchored)
    (hexec : exec c ch (.insertPosition id lat lon ts stopped) s = .done r s')
    (h : phase.Owes ∨ StatusMeant s anchored u) :
    (advance (.insertPosition id lat lon ts stopped) r phase).Owes ∨
      StatusMeant s' anchored u := by
  rcases h with howes | hmeant
  · rcases hpermits howes with ⟨rfl, rfl⟩
    rcases exec_insertPosition hexec with ⟨rfl, ⟨e, rfl⟩, hrefused⟩ | ⟨positions, _, rfl, _⟩
    · right
      intro hmoving
      rcases hphase with ⟨v, hv, htrip⟩
      rw [huser] at hv
      cases hv
      rcases hspares.refused id lat lon ts rfl hrefused u htrip hmoving with ⟨id', _, hmoves⟩
      exact ⟨id', hmoves⟩
    · exact Or.inl trivial
  · right
    rcases exec_insertPosition hexec with ⟨rfl, _⟩ | ⟨positions, _, _, rfl⟩
    · exact hmeant
    · exact statusMeant_of_eq hmeant rfl rfl rfl

theorem statusMeant_statusSet {name : String} {status : UserStatus} {r : Unit}
    (huser : user = some u)
    (hpermits : permitsStatus user ending (.statusSet name status : Op F) phase)
    (hphase : PhaseHolds c user s anchored phase)
    (hexec : exec c ch (.statusSet name status) s = .done r s')
    (h : phase.Owes ∨ StatusMeant s anchored u) : StatusMeant s' anchored u := by
  cases hexec
  cases status with
  | stationary =>
      refine statusMeant_atRest huser hpermits ?_ ?_ ?_ h
      · simp
      · intro hne
        simp [hne]
      · intro id hid
        exact hid.frame (fun hopen => hopen) rfl rfl
  | moving =>
      intro _
      rcases hpermits.2 with ⟨id, rfl⟩
      rcases hphase with ⟨v, hv, hmoves⟩
      rw [huser] at hv
      cases hv
      exact ⟨id, hmoves.frame (fun hopen => hopen) rfl rfl⟩

theorem statusMeant_statusRemove {name : String} {r : Unit} (huser : user = some u)
    (hpermits : permitsStatus user ending (.statusRemove name : Op F) phase)
    (hexec : exec c ch (.statusRemove name) s = .done r s')
    (h : phase.Owes ∨ StatusMeant s anchored u) : StatusMeant s' anchored u := by
  cases hexec
  refine statusMeant_atRest huser hpermits ?_ ?_ ?_ h
  · simp
  · intro hne
    simp [hne]
  · intro id hid
    exact hid.frame (fun hopen => hopen) rfl rfl

theorem statusMeant_dropTrip {id : Int} {r : Unit} (huser : user = some u)
    (hpermits : permitsStatus user ending (.dropTrip id : Op F) phase)
    (hphase : PhaseHolds c user s anchored phase)
    (hexec : exec c ch (.dropTrip id) s = .done r s')
    (h : phase.Owes ∨ StatusMeant s anchored u) :
    (advance (.dropTrip id : Op F) r phase).Owes ∨ StatusMeant s' anchored u := by
  cases hexec
  rcases hpermits with rfl | ⟨ids, rfl, _⟩
  · right
    rcases hphase with ⟨v, hv, _, hclosed⟩
    rw [huser] at hv
    cases hv
    apply statusMeant_frame (h.resolve_left not_false)
    · intro hmoving
      exact hmoving
    · intro id' hid'
      have hne : id' ≠ id := by
        intro heq
        rw [heq] at hid'
        exact hclosed hid'.isOpen
      have hcoord : (s.lastCoordinates.erase id).lookup id' = s.lastCoordinates.lookup id' := by
        simp [hne]
      exact hid'.frame (fun hopen => hopen) hcoord rfl
  · exact Or.inl trivial

/-- The user of the handler has a trip that moves, or the handler owes him a change. -/
theorem statusMeant_step {o : Op F} {r : o.Ret} (huser : user = some u)
    (hpermits : permitsStatus user ending o phase) (hphase : PhaseHolds c user s anchored phase)
    (hspares : SparesStatus ending ch o s anchored) (hexec : exec c ch o s = .done r s')
    (h : phase.Owes ∨ StatusMeant s anchored u) :
    (advance o r phase).Owes ∨ StatusMeant s' (recordAnchor s o anchored) u := by
  have hfree : phase.Free -> StatusMeant s anchored u := fun hphase =>
    h.resolve_left hphase.not_owes
  cases o with
  | getUserState =>
      cases hexec
      exact h
  | setUserState _ | invalidateToken _ | invalidateUserSessions _ =>
      cases hexec
      exact Or.inr (statusMeant_of_eq (hfree hpermits) rfl rfl rfl)
  | drawFreshToken =>
      rcases exec_drawFreshToken hexec with ⟨_, rfl, rfl⟩
      exact Or.inr (statusMeant_of_eq (hfree (Or.inl hpermits)) rfl rfl rfl)
  | tryInsertToken username token =>
      have hdrawn : phase = .drawn token := hpermits
      rw [hdrawn] at h
      cases hexec
      exact Or.inr (statusMeant_of_eq (h.resolve_left not_false) rfl rfl rfl)
  | statusSet name status =>
      exact Or.inr (statusMeant_statusSet huser hpermits hphase hexec h)
  | statusRemove name => exact Or.inr (statusMeant_statusRemove huser hpermits hexec h)
  | trackTrip id lat lon => exact Or.inl trivial
  | dropTrip id => exact statusMeant_dropTrip huser hpermits hphase hexec h
  | isTracked id =>
      cases hexec
      rcases h with howes | hmeant
      · left
        cases phase with
        | owing _ | closing _ => cases (s.lastCoordinates.lookup id).isSome <;> trivial
        | _ => exact howes.elim
      · exact Or.inr hmeant
  | observeCoord id lat lon =>
      have hfound : phase = .found id := hpermits
      subst hfound
      exact statusMeant_observe hexec (h.resolve_left not_false)
  | insertTrip name ts =>
      exact Or.inr (statusMeant_insertTrip hexec (hfree (Or.inl hpermits.2)))
  | insertPosition id lat lon ts stopped =>
      exact statusMeant_insertPosition huser hpermits hphase hspares hexec h
  | updateTripEnded id name ts =>
      exact statusMeant_updateTripEnded huser hpermits hphase hspares hexec h
  | selectOpenTrip _ _ | selectOpenTripIds _ =>
      rw [(answerQuery_done hexec).1]
      exact Or.inr (hfree (Or.inl hpermits.2))
  | _ => exact h.imp id (exec_unwatched rfl hexec).statusMeant

/-! # Users of other connections -/

/-- A user is only shown as moving by the handler that has seen him move. -/
theorem statuses_moving {o : Op F} {r : o.Ret} (hpermits : permitsStatus user ending o phase)
    (hexec : exec c ch o s = .done r s') (hne : user ≠ some u)
    (hmoving : s'.statuses.lookup u = some .moving) : s.statuses.lookup u = some .moving := by
  cases o with
  | statusSet name status =>
      cases hexec
      by_cases heq : u = name
      · cases status with
        | stationary => simp [heq] at hmoving
        | moving =>
            rw [heq] at hne
            exact absurd hpermits.1 hne
      · simpa [heq] using hmoving
  | statusRemove name =>
      cases hexec
      by_cases heq : u = name
      · simp [heq] at hmoving
      · simpa [heq] using hmoving
  | drawFreshToken =>
      rcases exec_drawFreshToken hexec with ⟨_, rfl, rfl⟩
      exact hmoving
  | getUserState | setUserState _ | invalidateToken _ | invalidateUserSessions _
  | tryInsertToken _ _ | trackTrip _ _ _ | dropTrip _ | isTracked _ =>
      cases hexec
      exact hmoving
  | observeCoord id lat lon =>
      rcases exec_observeCoord hexec with ⟨_, _, rfl⟩ | ⟨coord, _, _, rfl⟩
      · exact hmoving
      · exact hmoving
  | insertTrip name ts =>
      rcases exec_insertTrip hexec with ⟨rfl, _⟩ | ⟨_, _, rfl⟩
      · exact hmoving
      · exact hmoving
  | insertPosition id lat lon ts stopped =>
      rcases exec_insertPosition hexec with ⟨rfl, _⟩ | ⟨positions, _, _, rfl⟩
      · exact hmoving
      · exact hmoving
  | updateTripEnded id name ts =>
      rcases exec_updateTripEnded hexec with ⟨rfl, _⟩ | ⟨rfl, _⟩ | ⟨_, _, row, _, _, _, rfl⟩
      · exact hmoving
      · exact hmoving
      · exact hmoving
  | selectOpenTrip _ _ | selectOpenTripIds _ =>
      rw [(answerQuery_done hexec).1] at hmoving
      exact hmoving
  | _ =>
      rw [(exec_unwatched rfl hexec).statuses] at hmoving
      exact hmoving

end Wanderust
