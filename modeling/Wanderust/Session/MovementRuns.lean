import Wanderust.Session.MovementRules
import Wanderust.Session.StatusArms

/-!
# The status Moving in every run

The runs carry the anchors as a history.  At every moment each task is in a
phase of its monitor, and a user who is shown as moving has a trip that moves,
or the task of his connection owes him a change of the status.
-/

namespace Wanderust

open Interleaving Prog Monitor

variable {F : Type} {c : ConnId} {s s' : State F}

/-! # All connections at once -/

structure Statuses (users : ConnId -> Option String) (phase : ConnId -> StatusPhase)
    (s : State F) (anchored : Anchors) : Prop where
  holds : forall c, PhaseHolds c (users c) s anchored (phase c)
  held : forall c, Held c (users c) s (phase c)
  meant : forall u,
    StatusMeant s anchored u ∨ exists c, users c = some u ∧ (phase c).Owes

variable {users users' : ConnId -> Option String} {phase phase' : ConnId -> StatusPhase}
variable {anchored : Anchors}

theorem Statuses.same (h : Statuses users phase s anchored)
    (hsame : forall c, SameMeaning c s s') : Statuses users phase s' anchored where
  holds := fun c => (hsame c).phaseHolds (h.holds c)
  held := by
    intro c hphase
    rcases h.held c hphase with ⟨huser, hown⟩
    refine ⟨(hsame c).user.trans huser, ?_⟩
    intro u hu
    rcases hown u hu with ⟨t, ht⟩
    refine ⟨t, ?_⟩
    rw [Holds, (hsame c).sessions, (hsame c).drawn]
    exact ht
  meant := fun u => (h.meant u).imp_left (hsame 0).statusMeant

theorem Statuses.change (h : Statuses users phase s anchored)
    (hother : forall c', c' ≠ c -> users' c' = users c' ∧ phase' c' = phase c')
    (hclear : ¬ (phase c).Owes) (hholds : PhaseHolds c (users' c) s anchored (phase' c))
    (hheld : Held c (users' c) s (phase' c)) : Statuses users' phase' s anchored where
  holds := by
    intro c'
    by_cases heq : c' = c
    · rw [heq]
      exact hholds
    · rw [(hother c' heq).1, (hother c' heq).2]
      exact h.holds c'
  held := by
    intro c'
    by_cases heq : c' = c
    · rw [heq]
      exact hheld
    · rw [(hother c' heq).1, (hother c' heq).2]
      exact h.held c'
  meant := by
    intro u
    rcases h.meant u with hmeant | ⟨c', huser, howes⟩
    · exact Or.inl hmeant
    · have hne : c' ≠ c := by
        intro heq
        rw [heq] at howes
        exact hclear howes
      right
      refine ⟨c', ?_, ?_⟩
      · rw [(hother c' hne).1]
        exact huser
      · rw [(hother c' hne).2]
        exact howes

/-! # Worlds with anchors -/

/-- A world, and the anchors that have been set so far. -/
abbrev AnchoredWorld (F : Type) := World F × Anchors

def Task.user (c : ConnId) : Task F -> Option String
  | .handling start _ _ | .cleaning start _ => start.userState c
  | _ => none

def Task.EndsTrip : Task F -> Prop
  | .handling _ item _ => item.EndsTrip
  | _ => False

def TaskFollows (c : ConnId) (phase : StatusPhase) : Task F -> Prop
  | .handling start item p =>
      (statusMonitor (start.userState c) item.EndsTrip).Follows p Clears phase
  | .cleaning start p => (statusMonitor (start.userState c) False).Follows p Clears phase
  | _ => phase = .switched

structure StatusInv (w : AnchoredWorld F) (phase : ConnId -> StatusPhase) : Prop where
  follows : forall c, TaskFollows c (phase c) (w.1.tasks c)
  statuses : Statuses (fun c => (w.1.tasks c).user c) phase w.1.state w.2

/-! # One task takes up something else -/

theorem held_of_settled {A : Regime} {v : View F} (hlocal : Local A c v s)
    (hsettled : v.Settled) (phase : StatusPhase) : Held c (s.userState c) s phase := by
  intro _
  refine ⟨rfl, ?_⟩
  intro u hu
  rw [hlocal.user] at hu
  rcases hsettled.own_of_user hu with ⟨t, hown, _, _⟩
  apply hlocal.owns (t := t)
  rw [hown]
  exact List.mem_singleton_self _

theorem statusInv_setTask {w : World F} {t : Task F}
    (hothers : forall c', c' ≠ c -> TaskFollows c' (phase c') (w.tasks c'))
    (hfollows : TaskFollows c (phase c) t)
    (hstatuses : Statuses (Function.update (fun c' => (w.tasks c').user c') c (t.user c)) phase s
      anchored) : StatusInv (w.setTask c s t, anchored) phase where
  follows := by
    intro c'
    by_cases heq : c' = c
    · subst heq
      simpa [World.setTask] using hfollows
    · simpa [World.setTask, heq] using hothers c' heq
  statuses := by
    have husers : (fun c' => ((w.setTask c s t).tasks c').user c') =
        Function.update (fun c' => (w.tasks c').user c') c (t.user c) := by
      funext c'
      by_cases heq : c' = c
      · subst heq
        simp [World.setTask]
      · simp [World.setTask, heq]
    show Statuses (fun c' => ((w.setTask c s t).tasks c').user c') phase s anchored
    rw [husers]
    exact hstatuses

theorem statusInv_replace {w : World F} {t : Task F} (next : StatusPhase)
    {user : Option String}
    (hothers : forall c', c' ≠ c -> TaskFollows c' (phase c') (w.tasks c'))
    (hstatuses : Statuses (Function.update (fun c' => (w.tasks c').user c') c user) phase s
      anchored)
    (hclear : ¬ (phase c).Owes) (hfollows : TaskFollows c next t)
    (hholds : PhaseHolds c (t.user c) s anchored next) (hheld : Held c (t.user c) s next) :
    StatusInv (w.setTask c s t, anchored) (Function.update phase c next) := by
  apply statusInv_setTask
  · intro c' hne
    rw [Function.update_of_ne hne]
    exact hothers c' hne
  · rw [Function.update_self]
    exact hfollows
  · apply hstatuses.change (c := c)
    · intro c' hne
      simp [hne]
    · exact hclear
    · simpa using hholds
    · simpa using hheld

theorem statusInv_afterCleaning {w : World F} {start : State F} {p : Program F Unit}
    (hothers : forall c', c' ≠ c -> TaskFollows c' (phase c') (w.tasks c'))
    (hstatuses : Statuses
      (Function.update (fun c' => (w.tasks c').user c') c (start.userState c)) phase s anchored)
    (hfollows : (statusMonitor (start.userState c) False).Follows p Clears (phase c)) :
    exists phase', StatusInv (w.setTask c s (afterCleaning start p), anchored) phase' := by
  cases p with
  | op o next => exact ⟨phase, statusInv_setTask hothers hfollows hstatuses⟩
  | pure =>
      exact ⟨_, statusInv_replace .switched hothers hstatuses hfollows rfl trivial
        fun h => absurd rfl h⟩

theorem users_self {w : World F} {user : Option String} (huser : (w.tasks c).user c = user) :
    Function.update (fun c' => (w.tasks c').user c') c user = fun c' => (w.tasks c').user c' := by
  rw [← huser]
  exact Function.update_eq_self c fun c' => (w.tasks c').user c'

theorem statusInv_accept {w : World F} (h : StatusInv (w, anchored) phase)
    (htask : w.tasks c = .unopened) : StatusInv (w.setTask c w.state .idle, anchored) phase := by
  apply statusInv_setTask
  · intro c' _
    exact h.follows c'
  · have hfollows := h.follows c
    rw [htask] at hfollows
    exact hfollows
  · have huser : (w.tasks c).user c = (.idle : Task F).user c := by
      rw [htask]
      rfl
    rw [users_self huser]
    exact h.statuses

theorem statusInv_restart (w : World F) (anchored' : Anchors) :
    StatusInv
      (({ state := w.state.restarted, tasks := fun c => (w.tasks c).killed } : World F), anchored')
      fun _ => .switched where
  follows := by
    intro c
    show TaskFollows c .switched (w.tasks c).killed
    cases w.tasks c with
    | unopened => rfl
    | _ => rfl
  statuses :=
    { holds := fun _ => trivial
      held := fun _ h => absurd rfl h
      meant := by
        intro u
        left
        intro hmoving
        simp [State.restarted] at hmoving }

theorem statusInv_boot (users : Users) (trips : Trips) (positions : Positions F) :
    StatusInv (World.boot users trips positions, fun _ => false) fun _ => .switched where
  follows := fun _ => rfl
  statuses :=
    { holds := fun _ => trivial
      held := fun _ h => absurd rfl h
      meant := by
        intro u
        left
        intro hmoving
        simp [World.boot] at hmoving }

theorem statusMeant_of_quiescent {w : AnchoredWorld F} (h : StatusInv w phase)
    (hquiet : w.1.Quiescent) (username : String) : StatusMeant w.1.state w.2 username := by
  rcases h.statuses.meant username with hmeant | ⟨c, huser, _⟩
  · exact hmeant
  · rcases hquiet c with htask | htask | htask
    · rw [htask] at huser
      cases huser
    · rw [htask] at huser
      cases huser
    · rw [htask] at huser
      cases huser

variable [Geo F] [Bcrypt]

theorem statusInv_afterHandling {A : Regime} {w : World F} {start : State F}
    {item : Incoming F} {p : Program F Flow} (hinv : HandlingInv A c start item p s)
    (hothers : forall c', c' ≠ c -> TaskFollows c' (phase c') (w.tasks c'))
    (hstatuses : Statuses
      (Function.update (fun c' => (w.tasks c').user c') c (start.userState c)) phase s anchored)
    (hfollows : (statusMonitor (start.userState c) item.EndsTrip).Follows p Clears (phase c)) :
    exists phase', StatusInv (w.setTask c s (afterHandling s start item p), anchored) phase' := by
  cases p with
  | op o next => exact ⟨phase, statusInv_setTask hothers hfollows hstatuses⟩
  | pure flow =>
      cases flow with
      | next =>
          exact ⟨_, statusInv_replace .switched hothers hstatuses hfollows rfl trivial
            fun h => absurd rfl h⟩
      | leave =>
          rcases hinv with ⟨log, _, v, hlocal, hend, _⟩
          exact ⟨_, statusInv_replace .calm hothers hstatuses hfollows clears_cleanup
            trivial (held_of_settled hlocal hend.1 .calm)⟩
      | abort =>
          exact ⟨_, statusInv_replace .switched hothers hstatuses hfollows rfl trivial
            fun h => absurd rfl h⟩

/-! # One operation -/

section

variable {A : Regime} {e : Entry} {ending : Prop} {ch : Choice} {o : Op F} {r : o.Ret}

omit [Bcrypt] in
theorem Statuses.anchor_of_ne (h : Statuses users phase s anchored)
    (hpermits : permitsStatus (users c) ending o (phase c)) {id : Int} {u : String}
    (htrip : TripOf s id u) (hne : users c ≠ some u) :
    recordAnchor s o anchored id = anchored id := by
  by_contra hchanged
  have hholds := h.holds c
  rw [recordAnchor_found hpermits hchanged] at hholds
  rcases hholds with ⟨v, huser, hopen⟩
  rw [huser, TripOf.unique hopen.tripOf htrip] at hne
  exact hne rfl

omit [Bcrypt] in
theorem Statuses.anchor_of_other (h : Statuses users phase s anchored) (hinv : Inv A s)
    (hpermits : permitsStatus (users c) ending o (phase c)) {c' : ConnId} {id : Int} {u : String}
    (hne : c' ≠ c) (hown : Owns s c' u) (htrip : TripOf s id u) :
    recordAnchor s o anchored id = anchored id := by
  by_contra hchanged
  have hfound := recordAnchor_found hpermits hchanged
  have hholds := h.holds c
  have hheld := h.held c
  rw [hfound] at hholds hheld
  rcases hholds with ⟨v, huser, hopen⟩
  have hown' := (hheld (by simp)).2 v huser
  rw [TripOf.unique hopen.tripOf htrip] at hown'
  exact hinv.not_owns_of_ne hne hown' hown

theorem Statuses.step_meant (h : Statuses users phase s anchored)
    (hpermits : permitsStatus (users c) ending o (phase c))
    (hspares : SparesStatus ending ch o s anchored) (hexec : exec c ch o s = .done r s')
    (hguar : Guar A e s s') (hentry : e.user = users c) (u : String) :
    StatusMeant s' (recordAnchor s o anchored) u ∨
      exists c', users c' = some u ∧
        (Function.update phase c (advance o r (phase c)) c').Owes := by
  -- the trips of the user of this connection may change, those of any other user do not
  by_cases huser : users c = some u
  · have hown : (phase c).Owes ∨ StatusMeant s anchored u ->
        StatusMeant s' (recordAnchor s o anchored) u ∨
          exists c', users c' = some u ∧
            (Function.update phase c (advance o r (phase c)) c').Owes := by
      intro hmeant
      rcases statusMeant_step huser hpermits (h.holds c) hspares hexec hmeant with
        howes | hmeant'
      · right
        refine ⟨c, huser, ?_⟩
        rw [Function.update_self]
        exact howes
      · exact Or.inl hmeant'
    rcases h.meant u with hmeant | ⟨c', huser', howes⟩
    · exact hown (Or.inr hmeant)
    · by_cases heq : c' = c
      · rw [heq] at howes
        exact hown (Or.inl howes)
      · right
        refine ⟨c', huser', ?_⟩
        rw [Function.update_of_ne heq]
        exact howes
  · rcases h.meant u with hmeant | ⟨c', huser', howes⟩
    · left
      have hsame : SameTrips u s s' anchored (recordAnchor s o anchored) :=
        hguar.sameTrips (by rw [hentry]; exact huser)
          fun id htrip => h.anchor_of_ne hpermits htrip huser
      exact statusMeant_frame hmeant (statuses_moving hpermits hexec huser)
        fun _ => hsame.movingTrip
    · right
      refine ⟨c', huser', ?_⟩
      have hne : c' ≠ c := by
        intro heq
        rw [heq] at huser'
        exact huser huser'
      rw [Function.update_of_ne hne]
      exact howes

/-- An operation that the monitor permits keeps what the phases say. -/
theorem Statuses.step (h : Statuses users phase s anchored) (hinv : Inv A s)
    (hpermits : permitsStatus (users c) ending o (phase c))
    (hspares : SparesStatus ending ch o s anchored) (hexec : exec c ch o s = .done r s')
    (hkeeps : (setting A).Keeps c (Guar A e) s s') (hentry : e.user = users c) :
    Statuses users (Function.update phase c (advance o r (phase c))) s'
      (recordAnchor s o anchored) where
  holds := by
    intro c'
    by_cases heq : c' = c
    · rw [heq, Function.update_self]
      exact phaseHolds_step hpermits (h.holds c) hexec
    · rw [Function.update_of_ne heq]
      exact (h.holds c').env (h.held c') (hkeeps.others c' heq)
        fun u id => h.anchor_of_other hinv hpermits heq
  held := by
    intro c'
    by_cases heq : c' = c
    · rw [heq, Function.update_self]
      exact held_step hpermits (h.holds c) (h.held c) hexec
    · rw [Function.update_of_ne heq]
      exact (h.held c').env (hkeeps.others c' heq)
  meant := h.step_meant hpermits hspares hexec hkeeps.own hentry

end

/-! # Runs with anchors -/

def recordAnchors (w : World F) : Label F -> Anchors -> Anchors
  | .step c _, anchored =>
      match (w.tasks c).nextOp with
      | some o => recordAnchor w.state o anchored
      | none => anchored
  | .restart, _ => fun _ => false
  | _, anchored => anchored

def nextAnchored : AnchoredWorld F -> Label F -> Option (AnchoredWorld F) :=
  withHistory World.next recordAnchors

def SparesStep (w : AnchoredWorld F) (l : Label F) : Prop :=
  forall c ch, l = .step c ch -> forall o, (w.1.tasks c).nextOp = some o ->
    SparesStatus (w.1.tasks c).EndsTrip ch o w.1.state w.2

theorem done_of_step {alpha : Type} {A : Regime} {p p' : Program F alpha} {ch : Choice}
    (hinv : Inv A s) (hallowed : forall o next, p = .op o next -> A.Allows c ch o s)
    (hstep : p.step exec c ch s = some (p', s')) :
    exists o next r, p = .op o next ∧ exec c ch o s = .done r s' ∧ p' = next r := by
  rcases Prog.step_eq_some.mp hstep with ⟨o, next, rfl, ⟨hexec, _⟩ | ⟨r, hexec, hp⟩⟩
  · exact absurd hexec (exec_ne_again hinv (hallowed o next rfl))
  · exact ⟨o, next, r, rfl, hexec, hp⟩

variable {w w' : World F}

theorem statusInv_perform {A : Regime} {e : Entry} {ch : Choice} {alpha : Type}
    {p p' : Program F alpha} {user : Option String} {ending : Prop} (hinv : Inv A w.state)
    (h : StatusInv (w, anchored) phase)
    (hop : forall o next, p = .op o next -> (w.tasks c).nextOp = some o)
    (huser : (w.tasks c).user c = user) (hends : (w.tasks c).EndsTrip = ending)
    (hfollows : (statusMonitor user ending).Follows p Clears (phase c))
    (hpermits : A.Permits w (.step c ch)) (hspares : SparesStep (w, anchored) (.step c ch))
    (hstep : p.step exec c ch w.state = some (p', s'))
    (hkeeps : (setting A).Keeps c (Guar A e) w.state s') (hentry : e.user = user) :
    exists phase', (forall c', c' ≠ c -> TaskFollows c' (phase' c') (w.tasks c')) ∧
      Statuses (Function.update (fun c' => (w.tasks c').user c') c user) phase' s'
        (recordAnchors w (.step c ch) anchored) ∧
      (statusMonitor user ending).Follows p' Clears (phase' c) := by
  have hallowed : forall o next, p = .op o next -> A.Allows c ch o w.state :=
    fun o next hp => hpermits o (hop o next hp)
  rcases done_of_step hinv hallowed hstep with ⟨o, next, r, rfl, hexec, rfl⟩
  have hanchors : recordAnchors w (.step c ch) anchored = recordAnchor w.state o anchored := by
    rw [recordAnchors, hop o next rfl]
  have hspared := hspares c ch rfl o (hop o next rfl)
  rw [users_self huser, hanchors]
  subst huser hends
  refine ⟨Function.update phase c (advance o r (phase c)), ?_, ?_, ?_⟩
  · intro c' hne
    rw [Function.update_of_ne hne]
    exact h.follows c'
  · exact h.statuses.step hinv hfollows.1 hspared hexec hkeeps hentry
  · rw [Function.update_self]
    exact hfollows.2 r _ ⟨answersStatus_step (h.statuses.held c) hexec, rfl⟩

theorem statusInv_step {A : Regime} {ch : Choice} (hworld : WorldInv A w)
    (h : StatusInv (w, anchored) phase) (hpermits : A.Permits w (.step c ch))
    (hspares : SparesStep (w, anchored) (.step c ch)) (hnext : w.next (.step c ch) = some w') :
    exists phase', StatusInv (w', recordAnchors w (.step c ch) anchored) phase' := by
  have hfollows := h.follows c
  rcases step_of_next hnext with ⟨start, item, p, p', s, htask, hstep, rfl⟩ |
    ⟨start, p, p', s, htask, hstep, rfl⟩
  · rw [htask] at hfollows
    rcases handling_step hworld htask hpermits hstep with ⟨hkeeps, hinv⟩
    have hop : forall o next, p = .op o next -> (w.tasks c).nextOp = some o := by
      intro o next hp
      rw [htask, hp]
      rfl
    rcases statusInv_perform hworld.inv h hop (by rw [htask]; rfl) (by rw [htask]; rfl) hfollows
      hpermits hspares hstep hkeeps rfl with ⟨phase', hothers, hstatuses, hrest⟩
    exact statusInv_afterHandling hinv hothers hstatuses hrest
  · rw [htask] at hfollows
    rcases cleaning_step hworld htask hpermits hstep with ⟨hkeeps, _⟩
    have hop : forall o next, p = .op o next -> (w.tasks c).nextOp = some o := by
      intro o next hp
      rw [htask, hp]
      rfl
    rcases statusInv_perform hworld.inv h hop (by rw [htask]; rfl) (by rw [htask]; rfl) hfollows
      hpermits hspares hstep hkeeps rfl with ⟨phase', hothers, hstatuses, hrest⟩
    exact statusInv_afterCleaning hothers hstatuses hrest

theorem statusInv_receive {A : Regime} {item : Incoming F} (hworld : WorldInv A w)
    (h : StatusInv (w, anchored) phase) (hidle : w.tasks c = .idle) :
    exists phase', StatusInv
      (w.setTask c (w.state.log c (.received item))
        (afterHandling (w.state.log c (.received item)) (w.state.log c (.received item)) item
          (serve item)), anchored) phase' := by
  have htask := hworld.tasks c
  rw [hidle] at htask
  rcases htask with ⟨v, hv, hlocal⟩
  have hkeeps := keeps_log (c := c) (e := .onlooker) hworld.inv (.received item)
  have hlogged : Statuses (fun c' => (w.tasks c').user c') phase
      (w.state.log c (.received item)) anchored :=
    h.statuses.same fun _ => ⟨rfl, rfl, rfl, rfl, rfl, rfl⟩
  have hswitched : phase c = .switched := by
    have hfollows := h.follows c
    rw [hidle] at hfollows
    exact hfollows
  have hstart : Statuses
      (Function.update (fun c' => (w.tasks c').user c') c (w.state.userState c))
      (Function.update phase c .calm) (w.state.log c (.received item)) anchored := by
    apply hlogged.change (c := c)
    · intro c' hne
      simp [hne]
    · rw [hswitched]
      exact not_false
    · rw [Function.update_self, Function.update_self]
      trivial
    · rw [Function.update_self, Function.update_self]
      exact held_of_settled hlocal hv.settled .calm
  refine statusInv_afterHandling (handlingInv_serve hv hlocal hkeeps.inv) ?_ hstart ?_
  · intro c' hne
    rw [Function.update_of_ne hne]
    exact h.follows c'
  · rw [Function.update_self]
    exact clears_serve item

/-! # Runs -/

/-- Whatever happens, every task is in a phase of its monitor again. -/
theorem statusInv_next {A : Regime} {w w' : AnchoredWorld F} {l : Label F}
    (hworld : WorldInv A w.1) (h : exists phase, StatusInv w phase)
    (hpermits : A.Permits w.1 l) (hspares : SparesStep w l)
    (hnext : nextAnchored w l = some w') : exists phase, StatusInv w' phase := by
  rcases w with ⟨w, anchored⟩
  rcases w' with ⟨w', anchored'⟩
  rcases withHistory_eq_some.mp hnext with ⟨hnext, rfl⟩
  rcases h with ⟨phase, h⟩
  cases l with
  | accept c =>
      rcases accept_of_next hnext with ⟨htask, rfl⟩
      exact ⟨phase, statusInv_accept h htask⟩
  | receive c item =>
      rcases receive_of_next hnext with ⟨htask, rfl⟩
      exact statusInv_receive hworld h htask
  | step c ch => exact statusInv_step hworld h hpermits hspares hnext
  | restart =>
      simp only [World.next, Option.some.injEq] at hnext
      subst hnext
      exact ⟨_, statusInv_restart w _⟩

end Wanderust
