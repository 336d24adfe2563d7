import Wanderust.Server.Rows
import Wanderust.Session.Bystanders
import Wanderust.Session.Conditions

/-!
# Since the last item

A run can remember the item that a connection has read last, with the state in
which it was read.  Since then only a Disconnect with the own token can have logged
the user out, and where it has, the trips of the user have been ended before.
-/

namespace Wanderust

open Interleaving

variable {F : Type} {A : Regime} {c : ConnId} {e : Entry} {s0 s s' : State F}
variable {item : Incoming F} {username : String}

/-- The item that the connection reads, and the state in which it does. -/
def recordItem (c : ConnId) (w : World F) (l : Label F) (last : Option (Incoming F × State F)) :
    Option (Incoming F × State F) :=
  match l with
  | .receive c' item => if c' = c then some (item, w.state) else last
  | _ => last

/-- The item is a Disconnect with the token under which the user is logged in. -/
def OwnDisconnect (s : State F) (c : ConnId) (item : Incoming F) (username : String) : Prop :=
  exists token, item = .message (.disconnect token) ∧
    s.sessions.lookup token = some username ∧ s.userState c = some username

theorem OwnDisconnect.userState (h : OwnDisconnect s c item username) :
    s.userState c = some username := by
  rcases h with ⟨_, _, _, huser⟩
  exact huser

/-! # Ended trips -/

/-- The trip has its end, and it is not in memory. -/
def Ended (s : State F) (id : Int) : Prop :=
  (exists row, s.trips.lookup id = some row ∧ row.endedAt ≠ none) ∧
    s.lastCoordinates.lookup id = none

theorem RowsKept.tripOf (h : RowsKept s s') {id : Int} (htrip : TripOf s id username) :
    TripOf s' id username := by
  rcases htrip with ⟨row, hrow, hu⟩
  rcases h.trips id row hrow with ⟨row', hrow', hcont⟩
  exact ⟨row', hrow', hcont.username.trans hu⟩

theorem NoTripLeft.ended (h : NoTripLeft s username) {id : Int} (htrip : TripOf s id username) :
    Ended s id := by
  have hleft := h id htrip
  rcases htrip with ⟨row, hrow, hu⟩
  exact ⟨⟨row, hrow, fun hopen => hleft.1 ⟨row, hrow, hu, hopen⟩⟩, hleft.2⟩

theorem Ended.not_open {id : Int} (h : Ended s id) (u : String) : ¬ TripOpen s id u := by
  intro hopen
  rcases h.1 with ⟨row, hrow, hended⟩
  rcases hopen with ⟨row', hrow', _, hnone⟩
  rw [hrow] at hrow'
  cases hrow'
  exact hended hnone

theorem Ended.keeps {id : Int} (h : Ended s id) (hrows : RowsKept s s')
    (htracks : s'.lastCoordinates.lookup id ≠ none -> exists u, TripOpen s id u) :
    Ended s' id := by
  constructor
  · rcases h.1 with ⟨row, hrow, hended⟩
    rcases hrows.trips id row hrow with ⟨row', hrow', hcont⟩
    rcases Option.ne_none_iff_exists'.mp hended with ⟨ts, hts⟩
    refine ⟨row', hrow', ?_⟩
    rw [hcont.endedAt ts hts]
    exact Option.some_ne_none ts
  · by_contra hsome
    rcases htracks hsome with ⟨u, hopen⟩
    exact h.not_open u hopen

/-! # What may have happened -/

/-- What may have happened since the connection has read its last item, in the state `s0`. -/
structure Since (c : ConnId) (item : Incoming F) (s0 s : State F) : Prop where
  one_token : forall t t' u, s0.sessions.lookup t = some u -> s0.sessions.lookup t' = some u ->
    t = t'
  held : forall u, s0.userState c = some u -> Owns s0 c u
  rows : RowsKept s0 s
  drawn : forall t, t ∈ s0.drawn -> t ∈ s.drawn
  user : forall u, s0.userState c = some u -> s.userState c = none -> OwnDisconnect s0 c item u
  left : item.token? ≠ none -> forall t u, Holds s0 c t u ->
    s.sessions.lookup t = some u ∨ forall id, TripOf s0 id u -> Ended s id

theorem Since.step (h : Since c item s0 s) (hrows : RowsKept s s')
    (hdrawn : forall t, t ∈ s.drawn -> t ∈ s'.drawn)
    (htracks : forall id, s.lastCoordinates.lookup id = none ->
      s'.lastCoordinates.lookup id ≠ none -> exists u, TripOpen s id u)
    (huser : forall u, s0.userState c = some u -> s.userState c ≠ none ->
      s'.userState c = none -> OwnDisconnect s0 c item u)
    (hleaves : item.token? ≠ none -> forall t u, Holds s c t u ->
      s'.sessions.lookup t ≠ some u -> NoTripLeft s u) : Since c item s0 s' where
  one_token := h.one_token
  held := h.held
  rows := h.rows.trans hrows
  drawn := fun t ht => hdrawn t (h.drawn t ht)
  user := by
    intro u hu hnone
    by_cases hs : s.userState c = none
    · exact h.user u hu hs
    · exact huser u hu hs hnone
  left := by
    intro htoken t u hheld
    rcases h.left htoken t u hheld with hsession | hended
    · by_cases hsession' : s'.sessions.lookup t = some u
      · exact Or.inl hsession'
      · apply Or.inr
        intro id htrip
        have hnow : TripOf s id u := h.rows.tripOf htrip
        have hleft := hleaves htoken t u ⟨hsession, h.drawn _ hheld.2⟩ hsession'
        exact (hleft.ended hnow).keeps hrows (htracks id (hleft id hnow).2)
    · exact Or.inr fun id htrip => (hended id htrip).keeps hrows (htracks id (hended id htrip).2)

/-- A step that the connection takes for a task that may switch accounts only without a token. -/
theorem Since.own (h : Since c item s0 s) (hinv : Inv A s) (hsql : A.sqlOk c)
    (hguar : Guar A e s s') (hrows : RowsKept s s')
    (hdrawn : forall t, t ∈ s.drawn -> t ∈ s'.drawn)
    (hswitches : item.token? ≠ none -> ¬ e.switches)
    (hquits : forall u, s0.userState c = some u -> e.quits -> ¬ e.quiet ->
      OwnDisconnect s0 c item u) : Since c item s0 s' := by
  apply h.step hrows hdrawn hguar.tracks
  · intro u hu hsome hnone
    have hquit := hguar.users c hsome hnone
    exact hquits u hu hquit.1 hquit.2
  · intro htoken t u hheld hgone
    rcases hguar.leaves t u hheld.1 hgone with ⟨c', hdrawn', hleft⟩
    rw [hinv.one_drawer hdrawn' hheld.2] at hleft
    exact hleft hsql (hswitches htoken)

theorem Since.other (h : Since c item s0 s) (hguar : Guar A e s s') (hrely : Rely A c s s')
    (hrows : RowsKept s s') (hdrawn : forall t, t ∈ s.drawn -> t ∈ s'.drawn) :
    Since c item s0 s' := by
  apply h.step hrows hdrawn hguar.tracks
  · intro u _ hsome hnone
    exact absurd (hrely.user.symm.trans hnone) hsome
  · intro _ t u hheld hgone
    exact absurd ((hrely.own t hheld.2).trans hheld.1) hgone

theorem Since.log (h : Since c item s0 s) (c' : ConnId) (ev : Event F) :
    Since c item s0 (s.log c' ev) where
  one_token := h.one_token
  held := h.held
  rows := h.rows.trans (RowsKept.ofSame rfl rfl rfl)
  drawn := h.drawn
  user := h.user
  left := h.left

theorem since_receive {v : View F} (hinv : Inv A s) (hidle : v.Idle A) (hlocal : Local A c v s)
    (item : Incoming F) : Since c item s (s.log c (.received item)) where
  one_token := fun _ _ _ => hinv.one_token
  held := by
    intro u hu
    rcases hidle.settled.own_of_user (hlocal.user.symm.trans hu) with ⟨t, hown, _, _⟩
    exact hlocal.owns (show (t, u) ∈ v.own by simp [hown])
  rows := RowsKept.ofSame rfl rfl rfl
  drawn := fun _ h => h
  user := fun u hu hnone => by cases hu.symm.trans hnone
  left := fun _ _ _ hheld => Or.inl hheld.1

theorem quits_iff (hu : s0.userState c = some username) :
    ((handlerEntry c (s0.log c (.received item)) item).quits ∧
      ¬ (handlerEntry c (s0.log c (.received item)) item).quiet) <->
      OwnDisconnect s0 c item username := by
  constructor
  · intro h
    rcases h with ⟨⟨token, hitem⟩, hquiet⟩
    refine ⟨token, hitem, ?_, hu⟩
    by_contra hforeign
    refine hquiet ⟨token, by rw [hitem]; rfl, Or.inr ?_⟩
    show s0.sessions.lookup token ≠ s0.userState c
    rw [hu]
    exact hforeign
  · intro h
    rcases h with ⟨token, hitem, hsession, _⟩
    refine ⟨⟨token, hitem⟩, ?_⟩
    intro hquiet
    rcases hquiet with ⟨token', htoken', hforeign⟩
    rw [hitem] at htoken'
    cases htoken'
    rcases hforeign with hforeign | hforeign
    · exact Option.some_ne_none username (hu.symm.trans hforeign)
    · exact hforeign (hsession.trans hu.symm)

/-! # Runs -/

/-- A task that is under way serves the last item, or the cleanup follows it. -/
def LastInv (c : ConnId) (w : World F) (last : Option (Incoming F × State F)) : Prop :=
  match w.tasks c with
  | .handling start item _ => exists s0, last = some (item, s0) ∧
      start = s0.log c (.received item) ∧ Since c item s0 w.state
  | .cleaning _ _ => exists item s0, last = some (item, s0) ∧ Since c item s0 w.state
  | _ => True

section

variable {w w' : World F} {last : Option (Incoming F × State F)}

theorem LastInv.env (h : LastInv c w last) (htask : w'.tasks c = w.tasks c)
    (hsince : forall item s0, Since c item s0 w.state -> Since c item s0 w'.state) :
    LastInv c w' last := by
  unfold LastInv at h ⊢
  rw [htask]
  split at h
  · rcases h with ⟨s0, hlast, hstart, h⟩
    exact ⟨s0, hlast, hstart, hsince _ s0 h⟩
  · rcases h with ⟨item, s0, hlast, h⟩
    exact ⟨item, s0, hlast, hsince item s0 h⟩
  · trivial

theorem lastInv_handling (h : Since c item s0 s) (p : Program F Flow) :
    LastInv c (w.setTask c s (afterHandling s (s0.log c (.received item)) item p))
      (some (item, s0)) := by
  unfold LastInv
  rw [setTask_tasks_self]
  cases p with
  | op o next => exact ⟨s0, rfl, rfl, h⟩
  | pure flow =>
      cases flow with
      | next => trivial
      | leave => exact ⟨item, s0, rfl, h⟩
      | abort => trivial

theorem lastInv_cleaning (h : Since c item s0 s) (start : State F) (p : Program F Unit) :
    LastInv c (w.setTask c s (afterCleaning start p)) (some (item, s0)) := by
  unfold LastInv
  rw [setTask_tasks_self]
  cases p with
  | op o next => exact ⟨item, s0, rfl, h⟩
  | pure => trivial

variable [Geo F] [Bcrypt] {ch : Choice} {l : Label F} {start : State F}

theorem LastInv.handling (h : LastInv c w last) (hworld : WorldInv A w) (hsql : A.sqlOk c)
    (hpermits : A.Permits w (.step c ch)) {p p' : Program F Flow}
    (htask : w.tasks c = .handling start item p)
    (hstep : p.step exec c ch w.state = some (p', s)) :
    exists s0, last = some (item, s0) ∧ start = s0.log c (.received item) ∧ Since c item s0 s := by
  unfold LastInv at h
  rw [htask] at h
  rcases h with ⟨s0, hlast, rfl, hsince⟩
  rcases executes_of_step hstep with ⟨o, _, _, hexec⟩
  refine ⟨s0, hlast, rfl, hsince.own hworld.inv hsql
    (handling_step hworld htask hpermits hstep).1.own (executes_rowsKept hexec)
    (fun _ => executes_drawn hexec) (fun htoken => htoken) ?_⟩
  intro u hu hquits hquiet
  exact (quits_iff hu).mp ⟨hquits, hquiet⟩

theorem LastInv.cleaning (h : LastInv c w last) (hworld : WorldInv A w) (hsql : A.sqlOk c)
    (hpermits : A.Permits w (.step c ch)) {p p' : Program F Unit}
    (htask : w.tasks c = .cleaning start p)
    (hstep : p.step exec c ch w.state = some (p', s)) :
    exists item s0, last = some (item, s0) ∧ Since c item s0 s := by
  unfold LastInv at h
  rw [htask] at h
  rcases h with ⟨item, s0, hlast, hsince⟩
  rcases executes_of_step hstep with ⟨o, _, _, hexec⟩
  exact ⟨item, s0, hlast, hsince.own hworld.inv hsql
    (cleaning_step hworld htask hpermits hstep).1.own (executes_rowsKept hexec)
    (fun _ => executes_drawn hexec) (fun _ => not_false) (fun _ _ hquits => False.elim hquits)⟩

theorem LastInv.next (h : LastInv c w last) (hworld : WorldInv A w) (hsql : A.sqlOk c)
    (hpermits : A.Permits w l) (hnext : w.next l = some w') :
    LastInv c w' (recordItem c w l last) := by
  cases l with
  | accept c' =>
      rcases accept_of_next hnext with ⟨_, rfl⟩
      by_cases hc : c' = c
      · subst hc
        unfold LastInv
        rw [setTask_tasks_self]
        trivial
      · exact h.env (setTask_tasks_of_ne _ _ _ (Ne.symm hc)) fun _ _ hsince => hsince
  | receive c' item =>
      rcases receive_of_next hnext with ⟨hidle, rfl⟩
      by_cases hc : c' = c
      · subst hc
        have htask := hworld.tasks c'
        rw [hidle] at htask
        rcases htask with ⟨v, hv, hlocal⟩
        rw [recordItem, if_pos rfl]
        exact lastInv_handling (since_receive hworld.inv hv hlocal item) _
      · rw [recordItem, if_neg hc]
        exact h.env (setTask_tasks_of_ne _ _ _ (Ne.symm hc)) fun _ _ hsince => hsince.log c' _
  | step c' ch =>
      by_cases hc : c' = c
      · subst hc
        rcases step_of_next hnext with ⟨start, item, p, p', s, htask, hstep, rfl⟩ |
          ⟨start, p, p', s, htask, hstep, rfl⟩
        · rcases h.handling hworld hsql hpermits htask hstep with ⟨s0, hlast, rfl, hsince⟩
          show LastInv _ _ last
          rw [hlast]
          exact lastInv_handling hsince p'
        · rcases h.cleaning hworld hsql hpermits htask hstep with ⟨item, s0, hlast, hsince⟩
          show LastInv _ _ last
          rw [hlast]
          exact lastInv_cleaning hsince start p'
      · rcases step_cases hworld hpermits hnext with ⟨_, e, hkeeps, _⟩
        rcases executes_of_next hnext with ⟨o, _, hexec⟩
        exact h.env (next_step_of_ne (Ne.symm hc) hnext).1 fun _ _ hsince =>
          hsince.other hkeeps.own (hkeeps.others c (Ne.symm hc)) (executes_rowsKept hexec)
            fun _ => executes_drawn hexec
  | restart =>
      cases hnext
      unfold LastInv
      dsimp only
      cases w.tasks c with
      | _ => trivial

end

end Wanderust
