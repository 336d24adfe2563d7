import Wanderust.Session.Bystanders
import Wanderust.Session.SwitchPhases

/-!
# What the phases of a switch mean

Each phase says what the steps of the handler have done so far, and what the
connection can rely on.  One step of the handler takes the meaning of a phase to
the meaning of the next one; the steps of the others keep it.
-/

namespace Wanderust

open Interleaving Prog Monitor

variable {F : Type}

structure KeepsStores (c : ConnId) (x : OwnStep F) : Prop where
  sessions : x.after.sessions = x.before.sessions
  user : x.after.userState c = x.before.userState c
  statuses : x.after.statuses = x.before.statuses
  sinks : x.after.sinks = x.before.sinks
  trips : x.after.trips = x.before.trips
  positions : x.after.positions = x.before.positions
  lastCoordinates : x.after.lastCoordinates = x.before.lastCoordinates

def RemovesOnly (user : Option String) (x : OwnStep F) : Prop :=
  forall token name, x.before.sessions.lookup token = some name ->
    x.after.sessions.lookup token ≠ some name -> user = some name

theorem KeepsStores.removesOnly {c : ConnId} {x : OwnStep F} (h : KeepsStores c x)
    (user : Option String) : RemovesOnly user x := by
  intro token name hbefore hafter
  rw [h.sessions] at hafter
  exact absurd hbefore hafter

structure NewToken (c : ConnId) (s0 : State F) (token : String) (s : State F) : Prop where
  drawn : (token, c) ∈ s.drawn
  fresh : forall c', (token, c') ∉ s0.drawn

/-! # The meaning of a phase -/

/-- What the steps of a handler have done that has started in `s0` with the traffic `log`. -/
def SwitchPhase.Means (c : ConnId) (user : Option String) (username : String) (s0 : State F)
    (log : List (Event F)) : SwitchPhase -> List (OwnStep F) -> State F -> Prop
  | .asking drawn, trace, s =>
      (forall x, x ∈ trace -> KeepsStores c x) ∧ s.traffic c = log ∧ s.userState c = user ∧
        forall token, token ∈ drawn -> NewToken c s0 token s ∧ s.sessions.lookup token = none
  | .gained token, trace, s =>
      (forall x, x ∈ trace -> RemovesOnly user x) ∧ s.traffic c = log ∧ NewToken c s0 token s
  | .installed token, trace, s =>
      (forall x, x ∈ trace -> RemovesOnly user x) ∧ s.traffic c = log ∧ NewToken c s0 token s ∧
        s.userState c = some username
  | .refused, trace, s =>
      (forall x, x ∈ trace -> KeepsStores c x) ∧
        exists msg, IsRefusal msg ∧ s.traffic c = log ++ [.sent msg]
  | .granted token, trace, s =>
      (forall x, x ∈ trace -> RemovesOnly user x) ∧
        s.traffic c = log ++ [.sent (.authOk token)] ∧ NewToken c s0 token s ∧
        s.userState c = some username
  | .failed, _, _ => True

section

variable {c : ConnId} {user : Option String} {username : String} {s0 s s' : State F}
variable {log : List (Event F)} {phase : SwitchPhase} {trace : List (OwnStep F)}

structure OwnKept (c : ConnId) (s s' : State F) : Prop where
  user : s'.userState c = s.userState c
  traffic : s'.traffic c = s.traffic c
  drawn : forall token, (token, c) ∈ s.drawn -> (token, c) ∈ s'.drawn
  own : forall token, (token, c) ∈ s.drawn ->
    s'.sessions.lookup token = s.sessions.lookup token

theorem Rely.ownKept {A : Regime} (h : Rely A c s s') : OwnKept c s s' :=
  ⟨h.user, h.traffic, fun token => (h.draws token).mpr, h.own⟩

theorem NewToken.kept {token : String} (h : NewToken c s0 token s) (hkept : OwnKept c s s') :
    NewToken c s0 token s' :=
  ⟨hkept.drawn _ h.drawn, h.fresh⟩

theorem means_kept (h : phase.Means c user username s0 log trace s) (hkept : OwnKept c s s') :
    phase.Means c user username s0 log trace s' := by
  cases phase with
  | asking drawn =>
      rcases h with ⟨hkeeps, hlog, huser, hnew⟩
      refine ⟨hkeeps, hkept.traffic.trans hlog, hkept.user.trans huser, ?_⟩
      intro token htoken
      rcases hnew token htoken with ⟨hnew, hfree⟩
      exact ⟨hnew.kept hkept, (hkept.own token hnew.drawn).trans hfree⟩
  | gained token =>
      rcases h with ⟨hremoves, hlog, hnew⟩
      exact ⟨hremoves, hkept.traffic.trans hlog, hnew.kept hkept⟩
  | installed token =>
      rcases h with ⟨hremoves, hlog, hnew, huser⟩
      exact ⟨hremoves, hkept.traffic.trans hlog, hnew.kept hkept, hkept.user.trans huser⟩
  | refused =>
      rcases h with ⟨hkeeps, msg, hmsg, hlog⟩
      exact ⟨hkeeps, msg, hmsg, hkept.traffic.trans hlog⟩
  | granted token =>
      rcases h with ⟨hremoves, hlog, hnew, huser⟩
      exact ⟨hremoves, hkept.traffic.trans hlog, hnew.kept hkept, hkept.user.trans huser⟩
  | failed => trivial

theorem forall_mem_snoc {P : OwnStep F -> Prop} (h : forall x, x ∈ trace -> P x) {y : OwnStep F}
    (hy : P y) : forall x, x ∈ trace ++ [y] -> P x := by
  intro x hx
  rcases List.mem_append.mp hx with hx | hx
  · exact h x hx
  · rw [List.mem_singleton.mp hx]
    exact hy

theorem means_quiet {x : OwnStep F} (h : phase.Means c user username s0 log trace x.before)
    (hkeeps : KeepsStores c x) (hkept : OwnKept c x.before x.after) :
    phase.Means c user username s0 log (trace ++ [x]) x.after := by
  have hafter := means_kept h hkept
  cases phase with
  | asking drawn => exact ⟨forall_mem_snoc hafter.1 hkeeps, hafter.2⟩
  | gained token => exact ⟨forall_mem_snoc hafter.1 (hkeeps.removesOnly user), hafter.2⟩
  | installed token => exact ⟨forall_mem_snoc hafter.1 (hkeeps.removesOnly user), hafter.2⟩
  | refused => exact ⟨forall_mem_snoc hafter.1 hkeeps, hafter.2⟩
  | granted token => exact ⟨forall_mem_snoc hafter.1 (hkeeps.removesOnly user), hafter.2⟩
  | failed => trivial

theorem removesOnly_of_eq {x : OwnStep F} (h : x.after.sessions = x.before.sessions) :
    RemovesOnly user x := by
  intro token name hbefore hafter
  rw [h] at hafter
  exact absurd hbefore hafter

/-- While the user is changed, a step may change the statuses and the sinks. -/
theorem means_gained {token : String} {x : OwnStep F}
    (h : (SwitchPhase.gained token).Means c user username s0 log trace x.before)
    (hremoves : RemovesOnly user x) (hkept : OwnKept c x.before x.after) :
    (SwitchPhase.gained token).Means c user username s0 log (trace ++ [x]) x.after := by
  have hafter := means_kept h hkept
  exact ⟨forall_mem_snoc hafter.1 hremoves, hafter.2⟩

theorem means_installed {token : String} {x : OwnStep F}
    (h : (SwitchPhase.installed token).Means c user username s0 log trace x.before)
    (hremoves : RemovesOnly user x) (hkept : OwnKept c x.before x.after) :
    (SwitchPhase.installed token).Means c user username s0 log (trace ++ [x]) x.after := by
  have hafter := means_kept h hkept
  exact ⟨forall_mem_snoc hafter.1 hremoves, hafter.2⟩

/-! # The steps of the handler -/

variable [Geo F] [Bcrypt] {ch : Choice}

theorem executes_quiet {o : Op F} (ho : o.isAccount = true ∨ o = .getUserState)
    (hexec : Executes c ch o s s') : exists users, s' = { s with users } := by
  have hsame : s' = s -> exists users, s' = { s with users } := by
    intro h
    subst h
    exact ⟨s'.users, rfl⟩
  rcases hexec with ⟨r, hdone⟩ | hagain
  · cases o with
    | selectUser name => exact hsame (answerQuery_done hdone).1
    | selectPasswordHash name => exact hsame (answerQuery_done hdone).1
    | insertUser name passwordHash createdAt =>
        rcases exec_insertUser hdone with ⟨rfl, _⟩ | ⟨_, _, rfl⟩
        · exact hsame rfl
        · exact ⟨_, rfl⟩
    | bcryptHash password =>
        cases hdone
        exact hsame rfl
    | nowSecs =>
        cases hdone
        exact hsame rfl
    | getUserState =>
        cases hdone
        exact hsame rfl
    | _ => rcases ho with ho | ho <;> cases ho
  · refine absurd hagain (exec_not_again ?_)
    intro h
    subst h
    rcases ho with ho | ho <;> cases ho

theorem means_account {o : Op F} (ho : o.isAccount = true ∨ o = .getUserState)
    (h : phase.Means c user username s0 log trace s) (hexec : Executes c ch o s s') :
    phase.Means c user username s0 log
      (trace ++ [{ op := o, choice := ch, before := s, after := s' }]) s' := by
  rcases executes_quiet ho hexec with ⟨users, rfl⟩
  exact means_quiet (x := ⟨o, ch, s, { s with users }⟩) h ⟨rfl, rfl, rfl, rfl, rfl, rfl, rfl⟩
    ⟨rfl, rfl, fun _ ht => ht, fun _ _ => rfl⟩

/-- A token that is refused has been drawn all the same. -/
theorem means_drawAgain {drawn : List String}
    (h : (SwitchPhase.asking drawn).Means c user username s0 log trace s)
    (hexec : exec c ch (.drawFreshToken : Op F) s = .again s') :
    (SwitchPhase.asking drawn).Means c user username s0 log
      (trace ++ [{ op := .drawFreshToken, choice := ch, before := s, after := s' }]) s' := by
  simp only [exec] at hexec
  split at hexec
  · cases hexec
  · cases hexec
    exact means_quiet (x := ⟨.drawFreshToken, ch, s, { s with drawn := (ch.uuid, c) :: s.drawn }⟩)
      h ⟨rfl, rfl, rfl, rfl, rfl, rfl, rfl⟩
      ⟨rfl, rfl, fun _ ht => List.mem_cons_of_mem _ ht, fun _ _ => rfl⟩

theorem means_draw {drawn : List String} {token : String}
    (hfresh : forall c', (ch.uuid, c') ∉ s.drawn) (hold : forall t, t ∈ s0.drawn -> t ∈ s.drawn)
    (h : (SwitchPhase.asking drawn).Means c user username s0 log trace s)
    (hexec : exec c ch (.drawFreshToken : Op F) s = .done token s') :
    (SwitchPhase.asking (token :: drawn)).Means c user username s0 log
      (trace ++ [{ op := .drawFreshToken, choice := ch, before := s, after := s' }]) s' := by
  rcases exec_drawFreshToken hexec with ⟨hfree, rfl, rfl⟩
  rcases h with ⟨hkeeps, hlog, huser, hnew⟩
  refine ⟨forall_mem_snoc hkeeps ⟨rfl, rfl, rfl, rfl, rfl, rfl, rfl⟩, hlog, huser, ?_⟩
  intro token htoken
  rcases List.mem_cons.mp htoken with rfl | htoken
  · exact ⟨⟨List.mem_cons_self, fun c' hmem => hfresh c' (hold _ hmem)⟩, hfree⟩
  · rcases hnew token htoken with ⟨hnew, hfree'⟩
    exact ⟨⟨List.mem_cons_of_mem _ hnew.drawn, hnew.fresh⟩, hfree'⟩

theorem means_tryInsertToken {drawn : List String} {name token : String} {inserted : Bool}
    (h : (SwitchPhase.asking drawn).Means c user username s0 log trace s)
    (htoken : token ∈ drawn)
    (hexec : exec c ch (.tryInsertToken name token : Op F) s = .done inserted s') :
    (SwitchPhase.advance (.tryInsertToken name token : Op F) inserted (.asking drawn)).Means c user
      username s0 log
      (trace ++ [{ op := .tryInsertToken name token, choice := ch, before := s, after := s' }])
      s' := by
  simp only [exec, tryInsertToken] at hexec
  split at hexec
  · cases hexec
    exact means_quiet (x := ⟨.tryInsertToken name token, ch, s, s⟩) h
      ⟨rfl, rfl, rfl, rfl, rfl, rfl, rfl⟩ ⟨rfl, rfl, fun _ ht => ht, fun _ _ => rfl⟩
  · cases hexec
    rcases h with ⟨hkeeps, hlog, huser, hnew⟩
    rcases hnew token htoken with ⟨hnew, hfree⟩
    refine ⟨forall_mem_snoc (fun x hx => (hkeeps x hx).removesOnly user) ?_, hlog,
      ⟨hnew.drawn, hnew.fresh⟩⟩
    intro token' name' hbefore hafter
    rw [Table.lookup_insert_eq] at hafter
    split at hafter
    case isTrue heq =>
      dsimp only at hbefore
      rw [heq, hfree] at hbefore
      cases hbefore
    case isFalse => exact absurd hbefore hafter

theorem means_invalidateUserSessions {name token : String} {n : Nat} (huser : user = some name)
    (h : (SwitchPhase.gained token).Means c user username s0 log trace s)
    (hexec : exec c ch (.invalidateUserSessions name : Op F) s = .done n s') :
    (SwitchPhase.gained token).Means c user username s0 log
      (trace ++ [{ op := .invalidateUserSessions name, choice := ch, before := s, after := s' }])
      s' := by
  cases hexec
  rcases h with ⟨hremoves, hlog, hnew⟩
  refine ⟨forall_mem_snoc hremoves ?_, hlog, ⟨hnew.drawn, hnew.fresh⟩⟩
  intro token' name' hbefore hafter
  dsimp only at hbefore hafter
  rw [lookup_invalidateUserSessions] at hafter
  split at hafter
  case isTrue heq =>
    rw [hbefore] at heq
    cases heq
    exact huser
  case isFalse => exact absurd hbefore hafter

theorem means_setUserState {token : String}
    (h : (SwitchPhase.gained token).Means c user username s0 log trace s)
    (hexec : exec c ch (.setUserState (some username) : Op F) s = .done () s') :
    (SwitchPhase.installed token).Means c user username s0 log
      (trace ++ [{ op := .setUserState (some username), choice := ch, before := s, after := s' }])
      s' := by
  cases hexec
  rcases h with ⟨hremoves, hlog, hnew⟩
  exact ⟨forall_mem_snoc hremoves (removesOnly_of_eq rfl), hlog, ⟨hnew.drawn, hnew.fresh⟩,
    Function.update_self c _ _⟩

theorem means_send {msg : Message F} {sent : Bool}
    (hpermits : permitsSwitch user username (.send msg) phase)
    (h : phase.Means c user username s0 log trace s)
    (hexec : exec c ch (.send msg) s = .done sent s') :
    (SwitchPhase.advance (.send msg) sent phase).Means c user username s0 log
      (trace ++ [{ op := .send msg, choice := ch, before := s, after := s' }]) s' := by
  simp only [exec] at hexec
  split at hexec
  · cases hexec
    trivial
  · cases hexec
    rcases hpermits with ⟨hmsg, drawn, rfl⟩ | ⟨token, rfl, rfl⟩
    · rcases h with ⟨hkeeps, hlog, _⟩
      refine ⟨forall_mem_snoc hkeeps ⟨rfl, rfl, rfl, rfl, rfl, rfl, rfl⟩, msg, hmsg, ?_⟩
      rw [State.log_traffic, hlog]
    · rcases h with ⟨hremoves, hlog, hnew, huser⟩
      refine ⟨forall_mem_snoc hremoves (removesOnly_of_eq rfl), ?_, ⟨hnew.drawn, hnew.fresh⟩, huser⟩
      rw [State.log_traffic, hlog]

/-- A step that the monitor permits leads from the meaning of a phase to that of the next. -/
theorem means_step {o : Op F} {r : o.Ret} (hfresh : FreshDraw s ch o)
    (hold : forall t, t ∈ s0.drawn -> t ∈ s.drawn) (hpermits : permitsSwitch user username o phase)
    (h : phase.Means c user username s0 log trace s) (hexec : exec c ch o s = .done r s') :
    answersSwitch user o r phase ∧
      (SwitchPhase.advance o r phase).Means c user username s0 log
        (trace ++ [{ op := o, choice := ch, before := s, after := s' }]) s' := by
  cases o with
  | drawFreshToken =>
      rcases hpermits with ⟨drawn, rfl⟩
      exact ⟨trivial, means_draw (hfresh rfl) hold h hexec⟩
  | tryInsertToken name token =>
      rcases hpermits with ⟨rfl, drawn, rfl, htoken⟩
      exact ⟨trivial, means_tryInsertToken h htoken hexec⟩
  | invalidateUserSessions name =>
      rcases hpermits with ⟨huser, token, rfl⟩
      exact ⟨trivial, means_invalidateUserSessions huser h hexec⟩
  | statusRemove name | sinksRemove name =>
      rcases hpermits with ⟨token, rfl⟩
      cases hexec
      exact ⟨trivial, means_gained (x := ⟨_, ch, s, _⟩) h (removesOnly_of_eq rfl)
        ⟨rfl, rfl, fun _ ht => ht, fun _ _ => rfl⟩⟩
  | setUserState name =>
      rcases hpermits with ⟨rfl, token, rfl⟩
      exact ⟨trivial, means_setUserState h hexec⟩
  | statusSet name status | sinksInsert name =>
      rcases hpermits with ⟨token, rfl⟩
      cases hexec
      exact ⟨trivial, means_installed (x := ⟨_, ch, s, _⟩) h (removesOnly_of_eq rfl)
        ⟨rfl, rfl, fun _ ht => ht, fun _ _ => rfl⟩⟩
  | send msg => exact ⟨trivial, means_send hpermits h hexec⟩
  | getUserState =>
      refine ⟨?_, means_account (Or.inr rfl) h (Or.inl ⟨r, hexec⟩)⟩
      cases phase with
      | asking drawn =>
          cases hexec
          exact h.2.2.1
      | _ => trivial
  | selectUser _ | selectPasswordHash _ | insertUser _ _ _ | bcryptHash _ | nowSecs =>
      exact ⟨trivial, means_account (Or.inl rfl) h (Or.inl ⟨r, hexec⟩)⟩
  | _ => cases hpermits

end

end Wanderust
