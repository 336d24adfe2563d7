import Wanderust.Server.Effects
import Wanderust.Session.View

/-!
# Rules of the operations

One rule for each operation: under which view it may be performed, and which
view it leaves.  The rules are the only place where the meaning of an operation
is unfolded.
-/

namespace Wanderust

open Interleaving

variable {F : Type} {A : Regime} {c : ConnId} {e : Entry} {s s' : State F} {v : View F}

theorem Guar.refl (A : Regime) (e : Entry) (s : State F) : Guar A e s s where
  trips := fun _ h => absurd rfl h
  positions := fun _ _ h => absurd rfl h
  coords := fun _ h => absurd rfl h
  sessions := fun _ _ h h' => absurd h h'
  leaves := fun _ _ h h' => absurd h h'
  tracks := fun _ h h' => absurd h h'
  users := fun _ h h' => absurd h' h
  quiet := fun _ => ⟨rfl, rfl, rfl, rfl, rfl⟩

theorem Inv.owner_unique (hinv : Inv A s) {c' : ConnId} {u : String}
    (h : Owns s c u) (h' : Owns s c' u) : c = c' := by
  rcases h with ⟨t, hsess, hdrawn⟩
  rcases h' with ⟨t', hsess', hdrawn'⟩
  cases hinv.one_token hsess hsess'
  exact hinv.one_drawer hdrawn hdrawn'

theorem Inv.not_owns_of_ne (hinv : Inv A s) {c' : ConnId} (hne : c' ≠ c) {u : String}
    (h : Owns s c u) : ¬ Owns s c' u :=
  fun h' => hne (hinv.owner_unique h' h)

theorem Inv.owned_ne (hinv : Inv A s) {c' : ConnId} (hne : c' ≠ c) {u u' : String}
    (h : Owns s c u) (h' : Owns s c' u') : u' ≠ u := by
  intro heq
  rw [heq] at h'
  exact hinv.not_owns_of_ne hne h h'

theorem Owns.hasSession {u : String} (h : Owns s c u) : HasSession s u := by
  rcases h with ⟨t, hsess, _⟩
  exact ⟨t, hsess⟩

theorem TripOf.unique {id : Int} {u u' : String} (h : TripOf s id u) (h' : TripOf s id u') :
    u = u' := by
  rcases h with ⟨row, hrow, rfl⟩
  rcases h' with ⟨row', hrow', rfl⟩
  rw [hrow] at hrow'
  cases hrow'
  rfl

theorem TripOpen.tripOf {id : Int} {u : String} (h : TripOpen s id u) : TripOf s id u := by
  rcases h with ⟨row, hrow, hu, _⟩
  exact ⟨row, hrow, hu⟩

theorem Local.owns (h : Local A c v s) {t u : String} (hmem : (t, u) ∈ v.own) : Owns s c u :=
  ⟨t, (h.own t u).mpr hmem⟩

theorem Regime.Allows.not_fails {ch : Choice} {o : Op F} (h : A.Allows c ch o s)
    (hsql : A.sqlOk c) (ho : o.isSql = true) : ch.fails ≠ true := by
  rw [h.sql hsql ho]
  exact Bool.false_ne_true

section

variable [Geo F] [Bcrypt]

theorem keeps_refl (hinv : Inv A s) : (setting A).Keeps c (Guar A e) s s where
  inv := hinv
  others := fun c' _ => Rely.refl A c' s
  own := Guar.refl A e s

/-! # Reading -/

theorem act_read {o : Op F} {post : o.Ret -> View F -> Prop}
    (hread : forall s ch r s', exec c ch o s = .done r s' -> s' = s)
    (hpost : forall s ch r s', Inv A s -> Local A c v s -> A.Allows c ch o s ->
      exec c ch o s = .done r s' -> exists v', Local A c v' s ∧ post r v') :
    ViewTriple A c e v (act o) post := by
  apply viewTriple_act
  intro s ch r s' hinv hs hallowed hexec
  cases hread s ch r s' hexec
  exact ⟨keeps_refl hinv, hpost s ch r s hinv hs hallowed hexec⟩

theorem act_getUserState :
    ViewTriple A c e v (act .getUserState) (fun r v' => v' = v ∧ r = v.user) := by
  apply act_read
  · intro s ch r s' hexec
    cases hexec
    rfl
  · intro s ch r s' _ hs _ hexec
    cases hexec
    exact ⟨v, hs, rfl, hs.user⟩

/-- A token that maps to a user owned by the connection is the connection's own token. -/
theorem act_getUserByToken {token : String} :
    ViewTriple A c e v (act (.getUserByToken token))
      (fun r v' => v' = v ∧ forall t u, (t, u) ∈ v.own -> (r = some u <-> token = t)) := by
  apply act_read
  · intro s ch r s' hexec
    cases hexec
    rfl
  · intro s ch r s' hinv hs _ hexec
    cases hexec
    refine ⟨v, hs, rfl, ?_⟩
    intro t u hmem
    have hheld := (hs.own t u).mpr hmem
    constructor
    · intro hr
      exact hinv.one_token hr hheld.1
    · intro ht
      rw [ht]
      exact hheld.1

theorem act_nowSecs :
    ViewTriple A c e v (act .nowSecs) (fun _ v' => v' = v) := by
  apply act_read
  · intro s ch r s' hexec
    cases hexec
    rfl
  · intro s ch r s' _ hs _ _
    exact ⟨v, hs, rfl⟩

theorem act_bcryptHash {password : String} :
    ViewTriple A c e v (act (.bcryptHash password)) (fun _ v' => v' = v) := by
  apply act_read
  · intro s ch r s' hexec
    cases hexec
    rfl
  · intro s ch r s' _ hs _ _
    exact ⟨v, hs, rfl⟩

theorem act_isTracked {tripId : Int} (hid : tripId ∈ v.opened) :
    ViewTriple A c e v (act (.isTracked tripId))
      (fun r v' =>
        if r then v' = v ∧ ¬ A.lost tripId
        else v' = { v with untracked := tripId :: v.untracked }) := by
  apply act_read
  · intro s ch r s' hexec
    cases hexec
    rfl
  · intro s ch r s' hinv hs _ hexec
    cases hexec
    cases hlookup : s.lastCoordinates.lookup tripId with
    | some coord =>
        refine ⟨v, hs, ?_⟩
        simp only [Option.isSome_some, if_true, true_and]
        intro hlost
        rw [(hinv.lost_untracked hlost).2] at hlookup
        cases hlookup
    | none =>
        refine ⟨{ v with untracked := tripId :: v.untracked }, { hs with untracked := ?_ }, rfl⟩
        intro id hmem
        rcases List.mem_cons.mp hmem with rfl | hmem
        · rcases hs.opened id hid with ⟨u, _, hown, hopen⟩
          exact ⟨⟨u, hown, hopen.tripOf⟩, hlookup⟩
        · exact hs.untracked id hmem

/-! # Queries -/

theorem act_selectUser {username : String} :
    ViewTriple A c e v (act (.selectUser username)) (fun _ v' => v' = v) := by
  apply act_read
  · intro s ch r s' hexec
    exact (answerQuery_done hexec).1
  · intro s ch r s' _ hs _ _
    exact ⟨v, hs, rfl⟩

theorem act_selectPasswordHash {username : String} :
    ViewTriple A c e v (act (.selectPasswordHash username))
      (fun r v' =>
        match r with
        | .ok (some _) => v' = { v with known := username :: v.known }
        | _ => v' = v) := by
  apply act_read
  · intro s ch r s' hexec
    exact (answerQuery_done hexec).1
  · intro s ch r s' _ hs _ hexec
    rcases (answerQuery_done hexec).2 with hr | ⟨_, hr⟩
    · cases hlookup : s.users.lookup username with
      | none =>
          rw [hlookup] at hr
          cases hr
          exact ⟨v, hs, rfl⟩
      | some row =>
          rw [hlookup] at hr
          cases hr
          refine ⟨{ v with known := username :: v.known }, { hs with known := ?_ }, rfl⟩
          intro u hu
          rcases List.mem_cons.mp hu with rfl | hu
          · exact ⟨row, hlookup⟩
          · exact hs.known u hu
    · cases hr
      exact ⟨v, hs, rfl⟩

theorem act_selectTrajectory {username : String} {fromTs toTs : Int} :
    ViewTriple A c e v (act (.selectTrajectory username fromTs toTs)) (fun _ v' => v' = v) := by
  apply act_read
  · intro s ch r s' hexec
    exact (answerQuery_done hexec).1
  · intro s ch r s' _ hs _ _
    exact ⟨v, hs, rfl⟩

theorem act_selectOpenTrip {tripId : Int} {token username : String}
    (huser : v.user = some username) (hown : (token, username) ∈ v.own) :
    ViewTriple A c e v (act (.selectOpenTrip tripId username))
      (fun r v' =>
        match r with
        | .ok true => v' = { v with opened := tripId :: v.opened, mine := tripId :: v.mine }
        | _ => v' = v) := by
  apply act_read
  · intro s ch r s' hexec
    exact (answerQuery_done hexec).1
  · intro s ch r s' _ hs _ hexec
    rcases (answerQuery_done hexec).2 with hr | ⟨_, hr⟩
    · cases hselect : selectOpenTrip s.trips tripId username with
      | false =>
          rw [hselect] at hr
          cases hr
          exact ⟨v, hs, rfl⟩
      | true =>
          rw [hselect] at hr
          cases hr
          have hopen : TripOpen s tripId username := selectOpenTrip_iff.mp hselect
          refine ⟨{ v with opened := tripId :: v.opened, mine := tripId :: v.mine },
            { hs with mine := ?_, opened := ?_ }, rfl⟩
          · intro id hid
            rcases List.mem_cons.mp hid with rfl | hid
            · exact ⟨username, huser, hs.owns hown, hopen.tripOf⟩
            · exact hs.mine id hid
          · intro id hid
            rcases List.mem_cons.mp hid with rfl | hid
            · exact ⟨username, huser, hs.owns hown, hopen⟩
            · exact hs.opened id hid
    · cases hr
      exact ⟨v, hs, rfl⟩

theorem act_selectOpenTripIds {token username : String}
    (huser : v.user = some username) (hown : v.own = [(token, username)]) :
    ViewTriple A c e v (act (.selectOpenTripIds username))
      (fun r v' =>
        match r with
        | .ok ids => v' = { v with openIn := some ids, mine := ids }
        | .error _ => v' = v ∧ ¬ A.sqlOk c) := by
  apply act_read
  · intro s ch r s' hexec
    exact (answerQuery_done hexec).1
  · intro s ch r s' _ hs hallowed hexec
    have howns : Owns s c username := hs.owns (by rw [hown]; exact List.mem_singleton_self _)
    rcases (answerQuery_done hexec).2 with hr | ⟨hfails, hr⟩
    · cases hr
      refine ⟨{ v with
          openIn := some (selectOpenTripIds s.trips username)
          mine := selectOpenTripIds s.trips username },
        { hs with openIn := ?_, mine := ?_ }, rfl⟩
      · intro l hl u hu id hopen
        cases hl
        rcases (hs.owns_iff u).mp hu with ⟨t, ht⟩
        rw [hown] at ht
        cases List.mem_singleton.mp ht
        exact mem_selectOpenTripIds.mpr hopen
      · intro id hid
        have hopen : TripOpen s id username := mem_selectOpenTripIds.mp hid
        exact ⟨username, huser, howns, hopen.tripOf⟩
    · cases hr
      exact ⟨v, hs, rfl, fun hsql => hallowed.not_fails hsql rfl hfails⟩

end

end Wanderust
