import Wanderust.Session.Dispatch

/-!
# The invariant of a run

Every task of a reachable world is at a point of a verified program, and the
shared state satisfies the session invariant.  A step of one task is seen by the
others as interference.
-/

namespace Wanderust

open Interleaving Prog

variable {F : Type} {A : Regime} {c : ConnId} {s s' : State F} {w w' : World F}

/-! # Entries -/

/--
A handler acts for the user who is logged in when it starts.  It only reads when
it carries a token and nobody is logged in, or the token is not that user's.
-/
def handlerEntry (c : ConnId) (start : State F) (item : Incoming F) : Entry where
  user := start.userState c
  quiet := exists token, item.token? = some token ∧
    (start.userState c = none ∨ start.sessions.lookup token ≠ start.userState c)
  rows := True
  switches := item.token? = none
  quits := exists token, item = .message (.disconnect token)

def cleanupEntry (c : ConnId) (start : State F) : Entry where
  user := start.userState c
  quiet := False
  rows := False
  switches := False
  quits := False

theorem started_of_local {v : View F} {item : Incoming F} {log : List (Event F)} (hinv : Inv A s)
    (hlocal : Local A c v s) (hready : v.Ready A item log) (hopenIn : v.openIn = none)
    (hmine : v.mine = []) (hopened : v.opened = []) (huntracked : v.untracked = []) :
    Started A (handlerEntry c s item) item log v ∧ (handlerEntry c s item).Fits item v := by
  refine ⟨⟨hready, hopenIn, hmine, hopened, huntracked, hlocal.user, trivial⟩, ?_, ?_, ?_, id,
    Iff.rfl⟩
  · intro hnone hquiet
    rcases hquiet with ⟨token, hsome, _⟩
    rw [hnone] at hsome
    cases hsome
  · intro token htoken username hown hquiet
    rcases hquiet with ⟨token', htoken', hforeign⟩
    rw [htoken] at htoken'
    cases htoken'
    have huser := hlocal.user.trans (hready.settled.user_of_own hown).1
    have hheld := (hlocal.own token username).mpr hown
    rcases hforeign with hforeign | hforeign
    · rw [hforeign] at huser
      cases huser
    · exact hforeign (hheld.1.trans huser.symm)
  · intro token htoken hquiet
    cases huser : v.user with
    | none => exact absurd ⟨token, htoken, Or.inl (hlocal.user.trans huser)⟩ hquiet
    | some username =>
        rcases hready.settled.own_of_user huser with ⟨t, hown, _, _⟩
        have hmem : (t, username) ∈ v.own := by simp [hown]
        have hstate : s.userState c = some username := hlocal.user.trans huser
        have htoken' : s.sessions.lookup token = some username := by
          by_contra hne
          exact hquiet ⟨token, htoken, Or.inr fun h => hne (h.trans hstate)⟩
        rw [hinv.one_token htoken' ((hlocal.own t username).mpr hmem).1]
        exact ⟨username, hmem⟩

theorem local_empty (hsessions : forall t, s.sessions.lookup t = none)
    (hsinks : forall u, s.sinks.lookup u = none) (hstatusBy : forall u, s.statusBy u = none)
    (huser : s.userState c = none) : Local A c (View.anonymous (s.traffic c)) s := by
  have hempty : forall t u, ¬ Holds s c t u := by
    intro t u hheld
    have hlookup := hheld.1
    rw [hsessions] at hlookup
    cases hlookup
  have hnone : forall u, ¬ Owns s c u := by
    intro u h
    rcases h with ⟨t, ht⟩
    exact hempty t u ht
  exact
    { user := huser
      log := rfl
      own := fun t u => iff_of_false (hempty t u) List.not_mem_nil
      statuses_le := by
        intro u hu
        rw [hstatusBy] at hu
        cases hu
      sinks_le := by
        intro u hu
        rw [hsinks] at hu
        cases hu
      fresh := fun _ ht => by cases ht
      known := fun _ hu => by cases hu
      tracked := fun u hu => absurd hu (hnone u)
      openIn := fun _ hl => by cases hl
      mine := fun _ hid => by cases hid
      opened := fun _ hid => by cases hid
      untracked := fun _ hid => by cases hid
      statuses_ge := fun _ _ hu => by cases hu
      sinks_ge := fun _ _ hu => by cases hu }

/-! # The end of a connection -/

/-- A connection that has ended has nothing left, unless a send has failed. -/
def ClosedInv (A : Regime) (c : ConnId) (s : State F) : Prop :=
  exists v : View F, Local A c v s ∧ v.gap = [] ∧
    (A.sendOk c -> v.own = [] ∧ v.statuses = [] ∧ v.sinks = [])

section

variable [Geo F] [Bcrypt]

/-! # The assertion of a task -/

def HandlingInv (A : Regime) (c : ConnId) (start : State F) (item : Incoming F)
    (p : Program F Flow) (s : State F) : Prop :=
  exists log, Transcript A log ∧
    (setting A).Safe c (Guar A (handlerEntry c start item)) p
      (fun flow s' => exists v, Local A c v s' ∧
        ServeEnd A c (handlerEntry c start item) item log flow v) s

def CleaningInv (A : Regime) (c : ConnId) (start : State F) (p : Program F Unit)
    (s : State F) : Prop :=
  exists v : View F, (forall msg, Event.sendFailed msg ∉ v.log) ∧
    (setting A).Safe c (Guar A (cleanupEntry c start)) p (fun _ s' => Cleaned A c v s') s

def TaskInv (A : Regime) (c : ConnId) (s : State F) : Task F -> Prop
  | .unopened => Local A c (View.anonymous []) s
  | .idle => exists v, v.Idle A ∧ Local A c v s
  | .handling start item p => (exists o next, p = .op o next) ∧ HandlingInv A c start item p s
  | .cleaning start p => (exists o next, p = .op o next) ∧ CleaningInv A c start p s
  | .closed => ClosedInv A c s

structure WorldInv (A : Regime) (w : World F) : Prop where
  inv : Inv A w.state
  tasks : forall c, TaskInv A c w.state (w.tasks c)

/-! # Interference -/

theorem HandlingInv.env {start : State F} {item : Incoming F} {p : Program F Flow}
    (h : HandlingInv A c start item p s) (hinv : Inv A s') (hrely : Rely A c s s') :
    HandlingInv A c start item p s' := by
  rcases h with ⟨log, htranscript, hsafe⟩
  refine ⟨log, htranscript, Setting.safe_env hsafe ?_ hinv hrely⟩
  intro flow s1 s2 hend _ hrely1
  rcases hend with ⟨v, hlocal, hflow⟩
  exact ⟨v, hlocal.env hrely1, hflow⟩

theorem CleaningInv.env {start : State F} {o : Op F} {next : o.Ret -> Program F Unit}
    (h : CleaningInv A c start (.op o next) s) (hrely : Rely A c s s') :
    CleaningInv A c start (.op o next) s' := by
  rcases h with ⟨v, hlog, hsafe⟩
  exact ⟨v, hlog, Setting.safe_env_op hsafe hrely⟩

theorem TaskInv.env {t : Task F} (h : TaskInv A c s t) (hinv : Inv A s')
    (hrely : Rely A c s s') : TaskInv A c s' t := by
  cases t with
  | unopened => exact Local.env h hrely
  | idle =>
      rcases h with ⟨v, hidle, hlocal⟩
      exact ⟨v, hidle, hlocal.env hrely⟩
  | handling start item p => exact ⟨h.1, h.2.env hinv hrely⟩
  | cleaning start p =>
      rcases h with ⟨⟨o, next, rfl⟩, hcleaning⟩
      exact ⟨⟨o, next, rfl⟩, hcleaning.env hrely⟩
  | closed =>
      rcases h with ⟨v, hlocal, hv⟩
      exact ⟨v, hlocal.env hrely, hv⟩

/-! # The end of a handler, and of the cleanup -/

theorem HandlingInv.after {start : State F} {item : Incoming F} {p : Program F Flow}
    (h : HandlingInv A c start item p s) (hinv : Inv A s) :
    TaskInv A c s (afterHandling s start item p) := by
  cases p with
  | op o next => exact ⟨⟨o, next, rfl⟩, h⟩
  | pure flow =>
      rcases h with ⟨log, htranscript, v, hlocal, hend, _⟩
      cases flow with
      | next => exact ⟨v, hend, hlocal⟩
      | leave =>
          rcases hend with ⟨hsettled, hlog⟩
          refine ⟨⟨_, _, rfl⟩, v, ?_, spec_cleanup hsettled hlocal.user not_false s hinv hlocal⟩
          intro msg
          have hold := htranscript.no_failure msg
          rcases hlog with hlog | ⟨reply, close, _, hclose | hclose, hlog⟩
          · simpa [hlog] using hold
          · simpa [hlog, hclose] using hold
          · simpa [hlog, hclose] using hold
      | abort =>
          rcases hend with ⟨hsettled, hsend, _⟩
          exact ⟨v, hlocal, hsettled.gap, fun h => absurd h hsend⟩

/-- A handler that closes its connection has failed to send. -/
theorem HandlingInv.aborted {start : State F} {item : Incoming F} {p : Program F Flow}
    (h : HandlingInv A c start item p s) (hclosed : afterHandling s start item p = .closed) :
    p = .pure .abort ∧ exists v : View F, Local A c v s ∧ v.Settled ∧ ¬ A.sendOk c ∧
      exists msg, Event.sendFailed msg ∈ v.log := by
  cases p with
  | op o next => cases hclosed
  | pure flow =>
      rcases h with ⟨log, _, v, hlocal, hend, _⟩
      cases flow with
      | next => cases hclosed
      | leave => cases hclosed
      | abort =>
          rcases hend with ⟨hsettled, hsend, msg, hlog⟩
          exact ⟨rfl, v, hlocal, hsettled, hsend, msg, by simp [hlog]⟩

/-- A Disconnect with the own token ends with nobody logged in, whatever comes of the reply. -/
theorem HandlingInv.user {start : State F} {item : Incoming F} {flow : Flow}
    (h : HandlingInv A c start item (.pure flow) s) (hquits : (handlerEntry c start item).quits)
    (hquiet : ¬ (handlerEntry c start item).quiet) : s.userState c = none := by
  rcases h with ⟨log, _, v, hlocal, _, hend⟩
  exact hlocal.user.trans (hend hquits hquiet)

theorem CleaningInv.cleaned {start : State F} {p : Program F Unit}
    (h : CleaningInv A c start p s) (hclosed : afterCleaning start p = .closed) :
    exists v : View F, Cleaned A c v s ∧ forall msg, Event.sendFailed msg ∉ v.log := by
  cases p with
  | op o next => cases hclosed
  | pure =>
      rcases h with ⟨v, hlog, hcleaned⟩
      exact ⟨v, hcleaned, hlog⟩

theorem CleaningInv.after {start : State F} {p : Program F Unit}
    (h : CleaningInv A c start p s) : TaskInv A c s (afterCleaning start p) := by
  cases p with
  | op o next => exact ⟨⟨o, next, rfl⟩, h⟩
  | pure =>
      rcases h.cleaned rfl with ⟨v, hcleaned, _⟩
      exact ⟨_, hcleaned.view, rfl, fun _ => ⟨rfl, rfl, rfl⟩⟩

/-! # The start of a handler -/

theorem handlingInv_serve {v : View F} {item : Incoming F} (hidle : v.Idle A)
    (hlocal : Local A c v s) (hinv : Inv A (s.log c (.received item))) :
    HandlingInv A c (s.log c (.received item)) item (serve item)
      (s.log c (.received item)) := by
  refine ⟨v.log, hidle.transcript, ?_⟩
  have hlog := hlocal.log_event (.received item)
  have hissued : forall w : View F, w.own = v.own ->
      forall t u, (t, u) ∈ w.own -> lastIssued v.log = some t := by
    intro w hw t u hmem
    rw [hw] at hmem
    exact hidle.issued t u hmem
  rcases hlog.forget ⟨hidle.settled.gap, hidle.settled.shape⟩ with
    ⟨huser, hnone⟩ | ⟨username, token, hown, hsome⟩
  · have hready : (View.anonymous (v.log ++ [.received item])).Ready A item v.log :=
      { settled := settled_anonymous _
        transcript := hidle.transcript
        issued := fun _ _ hmem => by cases hmem
        log_eq := rfl }
    rcases started_of_local hinv hnone hready rfl rfl rfl rfl with ⟨hstart, hfits⟩
    exact spec_serve hstart hfits _ hinv hnone
  · have hready : (View.loggedIn username token (v.log ++ [.received item])).Ready A item v.log :=
      { settled := settled_loggedIn _ _ _
        transcript := hidle.transcript
        issued := hissued _ hown.symm
        log_eq := rfl }
    rcases started_of_local hinv hsome hready rfl rfl rfl rfl with ⟨hstart, hfits⟩
    exact spec_serve hstart hfits _ hinv hsome

/-! # Steps -/

/-- What a run may do under the regime; a restart leaves trips open without a session. -/
def Regime.Permits (A : Regime) (w : World F) : Label F -> Prop
  | .step c ch => forall o, (w.tasks c).nextOp = some o -> A.Allows c ch o w.state
  | .restart => ¬ A.tripsOk
  | _ => True

theorem worldInv_setTask {t : Task F} (h : WorldInv A w) (hinv : Inv A s)
    (hothers : forall c', c' ≠ c -> Rely A c' w.state s) (ht : TaskInv A c s t) :
    WorldInv A (w.setTask c s t) where
  inv := hinv
  tasks := by
    intro c'
    by_cases heq : c' = c
    · subst heq
      simpa [World.setTask] using ht
    · simpa [World.setTask, heq] using (h.tasks c').env hinv (hothers c' heq)

/-- A step of a handler is verified: it keeps what the others rely on. -/
theorem handling_step {start : State F} {item : Incoming F} {p p' : Program F Flow}
    {ch : Choice} (h : WorldInv A w) (htask : w.tasks c = .handling start item p)
    (hpermits : A.Permits w (.step c ch)) (hstep : p.step exec c ch w.state = some (p', s)) :
    (setting A).Keeps c (Guar A (handlerEntry c start item)) w.state s ∧
      HandlingInv A c start item p' s := by
  have htaskInv := h.tasks c
  rw [htask] at htaskInv
  rcases htaskInv.2 with ⟨log, htranscript, hsafe⟩
  have hstep' := Setting.safe_step hsafe h.inv
    (fun o next hp => hpermits o (by rw [htask, hp]; rfl)) hstep
  exact ⟨hstep'.1, log, htranscript, hstep'.2⟩

theorem cleaning_step {start : State F} {p p' : Program F Unit} {ch : Choice}
    (h : WorldInv A w) (htask : w.tasks c = .cleaning start p)
    (hpermits : A.Permits w (.step c ch)) (hstep : p.step exec c ch w.state = some (p', s)) :
    (setting A).Keeps c (Guar A (cleanupEntry c start)) w.state s ∧
      CleaningInv A c start p' s := by
  have htaskInv := h.tasks c
  rw [htask] at htaskInv
  rcases htaskInv.2 with ⟨v, hlog, hsafe⟩
  have hstep' := Setting.safe_step hsafe h.inv
    (fun o next hp => hpermits o (by rw [htask, hp]; rfl)) hstep
  exact ⟨hstep'.1, v, hlog, hstep'.2⟩

theorem step_cases {ch : Choice} (h : WorldInv A w) (hpermits : A.Permits w (.step c ch))
    (hnext : w.next (.step c ch) = some w') :
    WorldInv A w' ∧
      exists e, (setting A).Keeps c (Guar A e) w.state w'.state ∧
        ((exists start item p, w.tasks c = .handling start item p ∧
            e = handlerEntry c start item) ∨
          exists start p, w.tasks c = .cleaning start p ∧ e = cleanupEntry c start) := by
  rcases step_of_next hnext with ⟨start, item, p, p', s, htask, hstep, rfl⟩ |
    ⟨start, p, p', s, htask, hstep, rfl⟩
  · rcases handling_step h htask hpermits hstep with ⟨hkeeps, hinv⟩
    exact ⟨worldInv_setTask h hkeeps.inv hkeeps.others (hinv.after hkeeps.inv),
      _, hkeeps, Or.inl ⟨start, item, p, htask, rfl⟩⟩
  · rcases cleaning_step h htask hpermits hstep with ⟨hkeeps, hinv⟩
    exact ⟨worldInv_setTask h hkeeps.inv hkeeps.others hinv.after,
      _, hkeeps, Or.inr ⟨start, p, htask, rfl⟩⟩

/-! # Restart -/

/-- Nothing is left in memory; the invariant may then be stated for another regime. -/
theorem worldInv_restart {A' : Regime} (h : WorldInv A w) (htrips : ¬ A'.tripsOk)
    (hlost : forall id, A'.lost id -> w.state.trips.lookup id ≠ none) :
    WorldInv A' { state := w.state.restarted, tasks := fun c => (w.tasks c).killed } := by
  have hlocal : forall c, Local A' c (View.anonymous (w.state.traffic c)) w.state.restarted := by
    intro c
    exact local_empty (s := w.state.restarted) (fun _ => rfl) (fun _ => rfl) (fun _ => rfl) rfl
  constructor
  · exact
      { one_token := fun ht => by simp [State.restarted] at ht
        one_drawer := h.inv.one_drawer
        session_drawn := fun ht => by simp [State.restarted] at ht
        session_user := fun ht => by simp [State.restarted] at ht
        tracked_known := fun hid => by simp [State.restarted] at hid
        free_tracked := fun _ _ _ hcoord => by simp [State.restarted] at hcoord
        free_trips := fun hA => absurd hA htrips
        lost_untracked := fun hid => ⟨hlost _ hid, by simp [State.restarted]⟩
        status_written := fun hu => by simp [State.restarted] at hu }
  · intro c
    have htask := h.tasks c
    show TaskInv A' c w.state.restarted (w.tasks c).killed
    cases hc : w.tasks c with
    | unopened =>
        rw [hc] at htask
        have hlog : w.state.traffic c = [] := htask.log
        have hlocal' := hlocal c
        rw [hlog] at hlocal'
        exact hlocal'
    | _ => exact ⟨_, hlocal c, rfl, fun _ => ⟨rfl, rfl, rfl⟩⟩

/-! # Runs -/

theorem worldInv_next {l : Label F} (h : WorldInv A w) (hpermits : A.Permits w l)
    (hnext : w.next l = some w') : WorldInv A w' := by
  cases l with
  | accept c =>
      rcases accept_of_next hnext with ⟨htask, rfl⟩
      have hlocal := h.tasks c
      rw [htask] at hlocal
      apply worldInv_setTask h h.inv (fun c' _ => Rely.refl A c' w.state)
      exact ⟨_, ⟨settled_anonymous [], fun _ _ hmem => (by cases hmem), Transcript.nil⟩, hlocal⟩
  | receive c item =>
      rcases receive_of_next hnext with ⟨htask, rfl⟩
      have hidle := h.tasks c
      rw [htask] at hidle
      rcases hidle with ⟨v, hidle, hlocal⟩
      have hkeeps := keeps_log (c := c) (e := .onlooker) h.inv (.received item)
      exact worldInv_setTask h hkeeps.inv hkeeps.others
        ((handlingInv_serve hidle hlocal hkeeps.inv).after hkeeps.inv)
  | step c ch => exact (step_cases h hpermits hnext).1
  | restart =>
      simp only [World.next, Option.some.injEq] at hnext
      subst hnext
      exact worldInv_restart h hpermits (fun id hid => (h.inv.lost_untracked hid).1)

theorem worldInv_reachable {w0 : World F} (h0 : WorldInv A w0)
    (h : Reachable A.Permits w0 w) : WorldInv A w := by
  apply h.invariant h0
  intro w1 w2 l h1 hpermits hnext
  exact worldInv_next h1 hpermits hnext

theorem worldInv_boot {users : Users} {trips : Trips} {positions : Positions F}
    (htrips : A.tripsOk -> forall id row, trips.lookup id = some row -> row.endedAt ≠ none)
    (hlost : forall id, A.lost id -> trips.lookup id ≠ none) :
    WorldInv A (World.boot users trips positions) := by
  constructor
  · exact
      { one_token := fun ht => by simp [World.boot] at ht
        one_drawer := fun ht => by simp [World.boot] at ht
        session_drawn := fun ht => by simp [World.boot] at ht
        session_user := fun ht => by simp [World.boot] at ht
        tracked_known := fun hid => by simp [World.boot] at hid
        free_tracked := fun _ _ _ hcoord => by simp [World.boot] at hcoord
        free_trips := by
          intro hA u _ id _
          refine ⟨?_, by simp [World.boot]⟩
          intro h
          rcases h with ⟨row, hrow, _, hopen⟩
          exact htrips hA id row hrow hopen
        lost_untracked := fun hid => ⟨hlost _ hid, by simp [World.boot]⟩
        status_written := fun hu => by simp [World.boot] at hu }
  · intro c
    exact local_empty (s := (World.boot users trips positions).state) (fun _ => rfl)
      (fun _ => rfl) (fun _ => rfl) rfl

end

end Wanderust
