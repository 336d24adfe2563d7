import Wanderust.Session.Tokens

/-!
# Rules for the session store, the statuses and the sinks

Only the owner of a session writes the status and the sink of the user.  Entries
may be removed by others as well: by a connection that is switching accounts.
-/

namespace Wanderust

open Interleaving

variable {F : Type} {A : Regime} {c : ConnId} {e : Entry} {s s' : State F} {v : View F}

theorem State.log_traffic_of_ne {c c' : ConnId} (s : State F) (ev : Event F) (hne : c' ≠ c) :
    (s.log c ev).traffic c' = s.traffic c' :=
  Function.update_of_ne hne _ _

theorem State.log_traffic (s : State F) (c : ConnId) (ev : Event F) :
    (s.log c ev).traffic c = s.traffic c ++ [ev] :=
  Function.update_self c _ _

theorem Local.log_event (hs : Local A c v s) (ev : Event F) :
    Local A c { v with log := v.log ++ [ev] } (s.log c ev) :=
  { hs with
    log := by
      rw [State.log_traffic, hs.log] }

variable [Geo F] [Bcrypt]

/-! # The variables of the connection -/

theorem act_setUserState {user : Option String} (hmine : v.mine = []) (hopened : v.opened = [])
    (hquits : user = none -> e.quits ∧ ¬ e.quiet) :
    ViewTriple A c e v (act (.setUserState user))
      (fun _ v' => v' = { v with user := user }) := by
  apply viewTriple_act
  intro s ch r s' hinv hs _ hexec
  cases hexec
  refine ⟨⟨{ hinv with }, ?_, ?_⟩, _, ?_, rfl⟩
  · intro c' hne
    exact { Rely.refl A c' s with user := Function.update_of_ne hne _ _ }
  · exact
      { Guar.refl A e s with
        users := by
          intro c' hsome hnone
          by_cases heq : c' = c
          · rw [heq] at hnone
            exact hquits ((Function.update_self c user s.userState).symm.trans hnone)
          · exact absurd ((Function.update_of_ne heq _ _).symm.trans hnone) hsome }
  · exact
      { hs with
        user := Function.update_self c user s.userState
        mine := by
          intro id hid
          rw [hmine] at hid
          cases hid
        opened := by
          intro id hid
          rw [hopened] at hid
          cases hid }

theorem keeps_log (hinv : Inv A s) (ev : Event F) :
    (setting A).Keeps c (Guar A e) s (s.log c ev) where
  inv := { hinv with }
  others := fun c' hne =>
    { Rely.refl A c' s with traffic := s.log_traffic_of_ne ev hne }
  own := { Guar.refl A e s with }

theorem act_send {msg : Message F} :
    ViewTriple A c e v (act (.send msg))
      (fun r v' =>
        if r then v' = { v with log := v.log ++ [.sent msg] }
        else v' = { v with log := v.log ++ [.sendFailed msg] } ∧ ¬ A.sendOk c) := by
  apply viewTriple_act
  intro s ch r s' hinv hs hallowed hexec
  simp only [exec] at hexec
  by_cases hfails : ch.fails = true
  · rw [if_pos hfails] at hexec
    cases hexec
    refine ⟨keeps_log hinv _, _, hs.log_event _, rfl, ?_⟩
    intro hsend
    rw [hallowed.send hsend ⟨msg, rfl⟩] at hfails
    cases hfails
  · rw [if_neg hfails] at hexec
    cases hexec
    exact ⟨keeps_log hinv _, _, hs.log_event _, rfl⟩

def CloseTrace (close : List (Event F)) : Prop := close = [] ∨ close = [.closeSent]

theorem act_sendClose :
    ViewTriple A c e v (act .sendClose)
      (fun _ v' => exists close, CloseTrace close ∧ v' = { v with log := v.log ++ close }) := by
  apply viewTriple_act
  intro s ch r s' hinv hs hallowed hexec
  simp only [exec] at hexec
  by_cases hfails : ch.fails = true
  · rw [if_pos hfails] at hexec
    cases hexec
    have hsame : { v with log := v.log ++ [] } = v := by
      rw [List.append_nil]
    refine ⟨keeps_refl hinv, { v with log := v.log ++ [] }, ?_, [], Or.inl rfl, rfl⟩
    rw [hsame]
    exact hs
  · rw [if_neg hfails] at hexec
    cases hexec
    exact ⟨keeps_log hinv _, _, hs.log_event _, [.closeSent], Or.inr rfl, rfl⟩

/-! # Tokens and sessions -/

section

variable {username token : String} {m : Table String String}

theorem act_drawFreshToken :
    ViewTriple A c e v (act .drawFreshToken)
      (fun token v' => v' = { v with fresh := token :: v.fresh }) := by
  apply viewTriple_act
  intro s ch r s' hinv hs hallowed hexec
  rcases exec_drawFreshToken hexec with ⟨hunused, rfl, rfl⟩
  exact ⟨⟨inv_draw hinv (hallowed.fresh rfl), fun c' => rely_draw, { Guar.refl A e s with }⟩,
    _, local_draw hs hunused, rfl⟩

theorem act_tryInsertToken (hfresh : token ∈ v.fresh) (hknown : username ∈ v.known)
    (hopenIn : v.openIn = none)
    (hstatuses : forall u, u ∈ v.statuses -> exists t, (t, u) ∈ v.own)
    (hsinks : forall u, u ∈ v.sinks -> exists t, (t, u) ∈ v.own) :
    ViewTriple A c e v (act (.tryInsertToken username token))
      (fun r v' =>
        if r then
          v' = { v with own := (token, username) :: v.own, fresh := [] } ∧
            forall t u, (t, u) ∈ v.own -> u ≠ username
        else v' = v) := by
  apply viewTriple_act
  intro s ch r s' hinv hs _ hexec
  simp only [exec, tryInsertToken] at hexec
  by_cases hsess : hasSession s.sessions username = true
  · simp only [hsess, if_true, Outcome.done.injEq] at hexec
    rcases hexec with ⟨rfl, rfl⟩
    exact ⟨keeps_refl hinv, v, hs, rfl⟩
  · simp only [hsess, Bool.false_eq_true, if_false, Outcome.done.injEq] at hexec
    rcases hexec with ⟨rfl, rfl⟩
    have hfree : ¬ HasSession s username := fun h => hsess (hasSession_iff.mpr h)
    rcases hs.fresh token hfresh with ⟨hdrawn, hunused⟩
    refine ⟨⟨inv_openSession hinv hunused hfree hdrawn (hs.known _ hknown),
      fun c' => rely_openSession hinv hdrawn, guar_openSession hunused⟩, _,
      local_openSession hinv hs hunused hfree hdrawn hopenIn hstatuses hsinks, rfl, ?_⟩
    intro t u hmem heq
    rw [heq] at hmem
    exact hfree (hs.owns hmem).hasSession

theorem keeps_dropSession (hinv : Inv A s) (hs : Local A c v s)
    (hm : Dropped username s.sessions m) (hown : (token, username) ∈ v.own)
    (huser : e.user = some username) (hgap : v.gap = [])
    (htrips : A.tripsOk -> NoTripLeft s username)
    (hleaves : A.sqlOk c -> ¬ e.switches -> NoTripLeft s username) :
    (setting A).Keeps c (Guar A e) s { s with sessions := m } where
  inv := by
    have htracked := hs.tracked username (hs.owns hown)
    rw [hgap] at htracked
    exact inv_dropSession hinv hm htracked htrips
  others := fun _ => rely_dropSession hinv hm (hs.owns hown)
  own := guar_dropSession hinv hm ((hs.own token username).mpr hown) huser hleaves

/-- The session of the previous user goes while a switch is under way. -/
theorem act_invalidateUserSessions {other : String} (hown : (token, username) ∈ v.own)
    (hother : exists t, (t, other) ∈ v.own) (hne : other ≠ username)
    (huser : e.user = some username) (hgap : v.gap = []) (hswitches : e.switches) :
    ViewTriple A c e v (act (.invalidateUserSessions username))
      (fun _ v' => v' = v.drop username) := by
  apply viewTriple_act
  intro s ch r s' hinv hs hallowed hexec
  cases hexec
  have hm := lookup_invalidateUserSessions s.sessions username
  rcases hother with ⟨t, hmem⟩
  exact ⟨keeps_dropSession hinv hs hm hown huser hgap
    (fun hA => hallowed.trips hA username rfl ⟨other, hne, hs.owns hmem⟩)
    (fun _ h => absurd hswitches h), _, local_dropSession hs hm, rfl⟩

theorem act_invalidateToken (hown : (token, username) ∈ v.own) (huser : e.user = some username)
    (hgap : v.gap = []) (hopenIn : A.sqlOk c -> v.openIn = some []) :
    ViewTriple A c e v (act (.invalidateToken token))
      (fun _ v' => v' = v.drop username) := by
  apply viewTriple_act
  intro s ch r s' hinv hs _ hexec
  cases hexec
  have hheld := (hs.own token username).mpr hown
  have hm : Dropped username s.sessions (s.sessions.erase token) := by
    intro t
    rw [Table.lookup_erase_eq]
    by_cases ht : t = token
    · rw [if_pos ht, ht, if_pos hheld.1]
    · rw [if_neg ht, if_neg]
      intro hsess
      exact ht (hinv.one_token hsess hheld.1)
  have hleft : A.sqlOk c -> NoTripLeft s username := fun hsql =>
    hs.noTripLeft (hs.owns hown) (hopenIn hsql) hgap
  exact ⟨keeps_dropSession hinv hs hm hown huser hgap (fun hA => hleft (A.tripsOk_sql hA c))
    (fun hsql _ => hleft hsql), _, local_dropSession hs hm, rfl⟩

end

/-! # Statuses and sinks -/

theorem act_statusSet {username token : String} {st : UserStatus}
    (hown : (token, username) ∈ v.own) (hquiet : ¬ e.quiet) :
    ViewTriple A c e v (act (.statusSet username st))
      (fun _ v' => v' = { v with statuses := v.statuses.insert username }) := by
  apply viewTriple_act
  intro s ch r s' hinv hs _ hexec
  cases hexec
  have howner : Owns s c username := hs.owns hown
  refine ⟨⟨?_, ?_, { Guar.refl A e s with quiet := fun h => absurd h hquiet }⟩, _, ?_, rfl⟩
  · exact
      { hinv with
        status_written := by
          intro u hu
          by_cases heq : u = username
          · exact ⟨c, by simp [heq]⟩
          · simp only [Table.lookup_insert_eq, heq, if_false] at hu
            rcases hinv.status_written hu with ⟨c', hc'⟩
            exact ⟨c', by simp [heq, hc']⟩ }
  · intro c' hne
    exact
      { Rely.refl A c' s with
        statusBy := by
          intro u hu
          by_cases heq : u = username
          · simp only [heq, Function.update_self, Option.some.injEq] at hu
            exact absurd hu.symm hne
          · simpa [heq] using hu
        kept := by
          intro _ u hu
          have hne' : u ≠ username := hinv.owned_ne hne howner hu
          exact ⟨id, by simp [Shown, hne']⟩ }
  · exact
      { hs with
        statuses_le := by
          intro u hu
          by_cases heq : u = username
          · simp [heq]
          · simp only [Function.update_of_ne heq] at hu
            exact List.mem_insert_of_mem (hs.statuses_le u hu)
        statuses_ge := by
          intro hA u hmem hu
          by_cases heq : u = username
          · simp [Shown, heq]
          · rcases List.mem_insert_iff.mp hmem with hmem | hmem
            · exact absurd hmem heq
            · simpa [Shown, heq] using hs.statuses_ge hA u hmem hu }

theorem act_statusRemove {username : String} (hquiet : ¬ e.quiet) :
    ViewTriple A c e v (act (.statusRemove username))
      (fun _ v' => v' = { v with statuses := v.statuses.filter (· ≠ username) }) := by
  apply viewTriple_act
  intro s ch r s' hinv hs hallowed hexec
  cases hexec
  refine ⟨⟨?_, ?_, { Guar.refl A e s with quiet := fun h => absurd h hquiet }⟩, _, ?_, rfl⟩
  · exact
      { hinv with
        status_written := by
          intro u hu
          by_cases heq : u = username
          · simp [heq] at hu
          · simp only [Table.lookup_erase_eq, heq, if_false] at hu
            rcases hinv.status_written hu with ⟨c', hc'⟩
            exact ⟨c', by simp [heq, hc']⟩ }
  · intro c' hne
    exact
      { Rely.refl A c' s with
        statusBy := by
          intro u hu
          by_cases heq : u = username
          · simp [heq] at hu
          · simpa [heq] using hu
        kept := by
          intro hA u hu
          refine ⟨id, ?_⟩
          intro hshown
          have hne' : u ≠ username := by
            intro heq
            subst heq
            exact (hallowed.switch hA u c' hne hu).1 rfl hshown
          simpa [Shown, hne'] using hshown }
  · exact
      { hs with
        statuses_le := by
          intro u hu
          by_cases heq : u = username
          · simp [heq] at hu
          · simp only [Function.update_of_ne heq] at hu
            simpa [heq] using hs.statuses_le u hu
        statuses_ge := by
          intro hA u hmem hu
          have hmem' := List.mem_filter.mp hmem
          have heq : u ≠ username := by simpa using hmem'.2
          simpa [Shown, heq] using hs.statuses_ge hA u hmem'.1 hu }

theorem act_sinksInsert {username token : String} (hown : (token, username) ∈ v.own)
    (hquiet : ¬ e.quiet) :
    ViewTriple A c e v (act (.sinksInsert username))
      (fun _ v' => v' = { v with sinks := v.sinks.insert username }) := by
  apply viewTriple_act
  intro s ch r s' hinv hs _ hexec
  cases hexec
  have howner : Owns s c username := hs.owns hown
  refine ⟨⟨{ hinv with }, ?_, { Guar.refl A e s with quiet := fun h => absurd h hquiet }⟩,
    _, ?_, rfl⟩
  · intro c' hne
    exact
      { Rely.refl A c' s with
        sinks := by
          intro u hu
          by_cases heq : u = username
          · simp only [Table.lookup_insert_eq, heq, if_true, Option.some.injEq] at hu
            exact absurd hu.symm hne
          · simpa [heq] using hu
        kept := by
          intro _ u hu
          have hne' : u ≠ username := hinv.owned_ne hne howner hu
          exact ⟨by simp [hne'], id⟩ }
  · exact
      { hs with
        sinks_le := by
          intro u hu
          by_cases heq : u = username
          · simp [heq]
          · simp only [Table.lookup_insert_eq, heq, if_false] at hu
            exact List.mem_insert_of_mem (hs.sinks_le u hu)
        sinks_ge := by
          intro hA u hmem hu
          by_cases heq : u = username
          · simp [heq]
          · rcases List.mem_insert_iff.mp hmem with hmem | hmem
            · exact absurd hmem heq
            · simpa [heq] using hs.sinks_ge hA u hmem hu }

theorem act_sinksRemove {username : String} (hquiet : ¬ e.quiet) :
    ViewTriple A c e v (act (.sinksRemove username))
      (fun _ v' => v' = { v with sinks := v.sinks.filter (· ≠ username) }) := by
  apply viewTriple_act
  intro s ch r s' hinv hs hallowed hexec
  cases hexec
  refine ⟨⟨{ hinv with }, ?_, { Guar.refl A e s with quiet := fun h => absurd h hquiet }⟩,
    _, ?_, rfl⟩
  · intro c' hne
    exact
      { Rely.refl A c' s with
        sinks := by
          intro u hu
          by_cases heq : u = username
          · simp [heq] at hu
          · simpa [heq] using hu
        kept := by
          intro hA u hu
          refine ⟨?_, id⟩
          intro hsink
          have hne' : u ≠ username := by
            intro heq
            subst heq
            exact (hallowed.switch hA u c' hne hu).2 rfl hsink
          simpa [hne'] using hsink }
  · exact
      { hs with
        sinks_le := by
          intro u hu
          by_cases heq : u = username
          · simp [heq] at hu
          · simp only [Table.lookup_erase_eq, heq, if_false] at hu
            simpa [heq] using hs.sinks_le u hu
        sinks_ge := by
          intro hA u hmem hu
          have hmem' := List.mem_filter.mp hmem
          have heq : u ≠ username := by simpa using hmem'.2
          simpa [heq] using hs.sinks_ge hA u hmem'.1 hu }

end Wanderust
