import Wanderust.Registration.Calls
import Wanderust.Session.Rules

/-!
# The programs of the auth module, run as concurrent calls

The call that inserts the row of a user is the only one whose registration can
succeed, and nobody can get between its row and its session.
-/

namespace Wanderust

open Interleaving Prog

variable {F : Type} {R : CallRegime} {i : CallId} {s s' : CallState F} {username : String}

/-! # Operations -/

structure SameRegistry (s s' : CallState F) : Prop where
  users : s'.state.users = s.state.users
  sessions : s'.state.sessions = s.state.sessions
  creator : s'.creator = s.creator

theorem SameRegistry.rely (h : SameRegistry s s') (i : CallId) : CallRely R i s s' where
  creator := fun u => by rw [h.creator]
  users := fun u row hrow => by rw [h.users]; exact hrow
  sessions := fun u _ _ hs => by
    unfold HasSession at hs ⊢
    rw [h.sessions] at hs
    exact hs

theorem SameRegistry.inv (h : SameRegistry s s') (hinv : CallInv R s) : CallInv R s' := by
  constructor
  · intro u i hu
    rw [h.creator] at hu
    rw [HasRow, h.users]
    exact hinv.created hu
  · intro u hexclusive hrow
    rw [HasRow, h.users] at hrow
    rw [h.creator]
    exact hinv.row hexclusive hrow
  · intro u hexclusive hsession
    rw [HasSession, h.sessions] at hsession
    rw [h.creator]
    exact hinv.session hexclusive hsession

/-- The call has inserted the row of a new user. -/
structure Inserted (i : CallId) (username : String) (s s' : CallState F) : Prop where
  free : s.state.users.lookup username = none
  users : forall u, u ≠ username -> s'.state.users.lookup u = s.state.users.lookup u
  found : HasRow s' username
  sessions : s'.state.sessions = s.state.sessions
  creator : forall u, s'.creator u = if u = username then some i else s.creator u

theorem Inserted.no_creator (h : Inserted i username s s') (hinv : CallInv R s) (j : CallId) :
    s.creator username ≠ some j := by
  intro hj
  rcases (hinv.created hj).1 with ⟨row, hrow⟩
  rw [h.free] at hrow
  cases hrow

theorem Inserted.hasSession (h : Inserted i username s s') (u : String) :
    HasSession s'.state u <-> HasSession s.state u := by
  unfold HasSession
  rw [h.sessions]

theorem Inserted.created (h : Inserted i username s s') {u : String}
    (hu : u ≠ username -> s.creator u ≠ none) : s'.creator u ≠ none := by
  rw [h.creator]
  split
  · exact Option.some_ne_none i
  · rename_i hne
    exact hu hne

theorem Inserted.inv (h : Inserted i username s s') (hname : (R.calls i).username = username)
    (hinv : CallInv R s) : CallInv R s' := by
  constructor
  · intro u j hj
    rw [h.creator] at hj
    by_cases heq : u = username
    · rw [if_pos heq] at hj
      cases hj
      rw [heq]
      exact ⟨h.found, hname⟩
    · rw [if_neg heq] at hj
      rw [HasRow, h.users u heq]
      exact hinv.created hj
  · intro u hexclusive hrow
    apply h.created
    intro hne
    rw [HasRow, h.users u hne] at hrow
    exact hinv.row hexclusive hrow
  · intro u hexclusive hsession
    exact h.created fun _ => hinv.session hexclusive ((h.hasSession u).mp hsession)

theorem Inserted.rely (h : Inserted i username s s') (hinv : CallInv R s) {j : CallId}
    (hj : j ≠ i) : CallRely R j s s' where
  creator := by
    intro u
    rw [h.creator]
    by_cases heq : u = username
    · rw [if_pos heq, heq]
      constructor
      · intro hi
        exact absurd (Option.some.inj hi).symm hj
      · intro hold
        exact absurd hold (h.no_creator hinv j)
    · rw [if_neg heq]
  users := by
    intro u row hrow
    rw [h.users u]
    · exact hrow
    · intro heq
      rw [heq, h.free] at hrow
      cases hrow
  sessions := fun u _ _ hsession => (h.hasSession u).mp hsession

/-- Nobody has a session for a name that nobody has registered. -/
theorem Inserted.creates (h : Inserted i username s s') (hinv : CallInv R s) :
    Creator R i username s' := by
  refine ⟨by rw [h.creator, if_pos rfl], ?_⟩
  intro hexclusive hsession
  have hold := hinv.session hexclusive ((h.hasSession username).mp hsession)
  rcases Option.ne_none_iff_exists'.mp hold with ⟨j, hj⟩
  exact h.no_creator hinv j hj

section

variable [Geo F] [Bcrypt] {conn : CallId -> ConnId}

def CallTriple (conn : CallId -> ConnId) (R : CallRegime) (i : CallId) {alpha : Type}
    (P : CallState F -> Prop) (p : Program F alpha) (Q : alpha -> CallState F -> Prop) : Prop :=
  (callSetting conn R).Triple i (fun _ _ => True) P p Q

theorem execCall_done {ch : Choice} {o : Op F} {r : o.Ret}
    (h : execCall conn i ch o s = .done r s') :
    exec (conn i) ch o s.state = .done r s'.state ∧
      s'.creator = recordCreator i o r s.creator := by
  unfold execCall at h
  cases hexec : exec (conn i) ch o s.state with
  | blocked => simp [hexec] at h
  | again s1 => simp [hexec] at h
  | done r1 s1 =>
      simp only [hexec, Outcome.done.injEq] at h
      rcases h with ⟨rfl, rfl⟩
      exact ⟨rfl, rfl⟩

theorem execCall_again {ch : Choice} {o : Op F} (h : execCall conn i ch o s = .again s') :
    exec (conn i) ch o s.state = .again s'.state ∧ s'.creator = s.creator := by
  unfold execCall at h
  cases hexec : exec (conn i) ch o s.state with
  | blocked => simp [hexec] at h
  | done r1 s1 => simp [hexec] at h
  | again s1 =>
      simp only [hexec, Outcome.again.injEq] at h
      subst h
      exact ⟨rfl, rfl⟩

theorem SameRegistry.keeps (h : SameRegistry s s') (hinv : CallInv R s) :
    (callSetting conn R).Keeps i (fun _ _ => True) s s' where
  inv := h.inv hinv
  others := fun i' _ => h.rely i'
  own := trivial

theorem call_act {o : Op F} {P : CallState F -> Prop} {Q : o.Ret -> CallState F -> Prop}
    (hstable : forall s s', P s -> CallRely R i s s' -> P s')
    (hsame : forall ch s s', execCall conn i ch o s = .again s' -> SameRegistry s s')
    (hdone : forall ch r s s', CallInv R s -> P s ->
      (R.strict -> o.isSql = true -> ch.fails = false) ->
      execCall conn i ch o s = .done r s' ->
      (callSetting conn R).Keeps i (fun _ _ => True) s s' ∧ Q r s') :
    CallTriple conn R i P (act o) Q := by
  apply Setting.triple_perform (fun s s' h _ hrely => hstable s s' h hrely)
  intro s hinv hs ch hallowed
  cases hexec : (callSetting conn R).exec i ch o s with
  | blocked => trivial
  | again s' => exact ⟨(hsame ch s s' hexec).keeps hinv, (hsame ch s s' hexec).rely i⟩
  | done r s' => exact hdone ch r s s' hinv hs hallowed hexec

def Op.Neutral (o : Op F) : Prop :=
  (forall i r creator, recordCreator i o r creator = creator) ∧
  forall c ch s s', ((exists r, exec c ch o s = .done r s') ∨ exec c ch o s = .again s') ->
    s'.users = s.users ∧ s'.sessions = s.sessions

theorem Op.Neutral.done {ch : Choice} {o : Op F} {r : o.Ret} (h : o.Neutral)
    (hexec : execCall conn i ch o s = .done r s') : SameRegistry s s' := by
  rcases execCall_done hexec with ⟨hdone, hcreator⟩
  rcases h.2 _ _ _ _ (Or.inl ⟨r, hdone⟩) with ⟨husers, hsessions⟩
  exact ⟨husers, hsessions, hcreator.trans (h.1 i r s.creator)⟩

theorem Op.Neutral.again {ch : Choice} {o : Op F} (h : o.Neutral)
    (hexec : execCall conn i ch o s = .again s') : SameRegistry s s' := by
  rcases execCall_again hexec with ⟨hagain, hcreator⟩
  rcases h.2 _ _ _ _ (Or.inr hagain) with ⟨husers, hsessions⟩
  exact ⟨husers, hsessions, hcreator⟩

theorem call_neutral {o : Op F} {P : CallState F -> Prop} {Q : o.Ret -> CallState F -> Prop}
    (hneutral : o.Neutral) (hstable : forall s s', P s -> CallRely R i s s' -> P s')
    (hpost : forall ch r s s', P s' -> SameRegistry s s' ->
      (R.strict -> o.isSql = true -> ch.fails = false) ->
      exec (conn i) ch o s.state = .done r s'.state -> Q r s') :
    CallTriple conn R i P (act o) Q := by
  apply call_act hstable (fun ch s s' h => hneutral.again h)
  intro ch r s s' hinv hs hallowed hexec
  have hsame := hneutral.done hexec
  exact ⟨hsame.keeps hinv, hpost ch r s s' (hstable s s' hs (hsame.rely i)) hsame hallowed
    (execCall_done hexec).1⟩

theorem neutral_of_read {o : Op F} (hdraw : o ≠ .drawFreshToken)
    (hrecord : forall i r creator, recordCreator i o r creator = creator)
    (hread : forall c ch r s s', exec c ch o s = .done r s' -> s' = s) : o.Neutral := by
  refine ⟨hrecord, ?_⟩
  intro c ch s s' h
  rcases h with ⟨r, h⟩ | h
  · rw [hread c ch r s s' h]
    exact ⟨rfl, rfl⟩
  · exact absurd h (exec_not_again hdraw)

theorem neutral_selectUser : (Op.selectUser username : Op F).Neutral :=
  neutral_of_read (by simp) (fun _ _ _ => rfl) fun _ _ _ _ _ h => (answerQuery_done h).1

theorem neutral_selectPasswordHash : (Op.selectPasswordHash username : Op F).Neutral :=
  neutral_of_read (by simp) (fun _ _ _ => rfl) fun _ _ _ _ _ h => (answerQuery_done h).1

theorem neutral_bcryptHash {password : String} : (Op.bcryptHash password : Op F).Neutral := by
  apply neutral_of_read (by simp) (fun _ _ _ => rfl)
  intro c ch r s s' h
  cases h
  rfl

theorem neutral_nowSecs : (Op.nowSecs : Op F).Neutral := by
  apply neutral_of_read (by simp) (fun _ _ _ => rfl)
  intro c ch r s s' h
  cases h
  rfl

theorem neutral_drawFreshToken : (Op.drawFreshToken : Op F).Neutral := by
  refine ⟨fun _ _ _ => rfl, ?_⟩
  intro c ch s s' h
  simp only [exec] at h
  split at h
  · rcases h with ⟨r, h⟩ | h
    · cases h
      exact ⟨rfl, rfl⟩
    · cases h
  · rcases h with ⟨r, h⟩ | h
    · cases h
    · cases h
      exact ⟨rfl, rfl⟩

theorem call_selectUser :
    CallTriple conn R i (NotCreator i) (act (.selectUser username : Op F))
      (fun r s => NotCreator i s ∧ (R.strict -> r ≠ .ok false -> HasRow s username)) := by
  apply call_neutral neutral_selectUser (fun _ _ h => h.env)
  intro ch r s s' hs hsame hallowed hexec
  refine ⟨hs, ?_⟩
  intro hstrict hr
  rcases (answerQuery_done hexec).2 with hanswer | ⟨hfails, _⟩
  · rw [hanswer] at hr
    cases hlookup : s.state.users.lookup username with
    | none => simp [hlookup] at hr
    | some row => exact ⟨row, by rw [hsame.users]; exact hlookup⟩
  · rw [hallowed hstrict rfl] at hfails
    cases hfails

theorem call_insertUser {passwordHash : String} {createdAt : Int}
    (hname : (R.calls i).username = username) :
    CallTriple conn R i (NotCreator i)
      (act (.insertUser username passwordHash createdAt : Op F))
      (fun r s =>
        match r with
        | .ok () => Creator R i username s
        | .error _ => NotCreator i s ∧ (R.strict -> HasRow s username)) := by
  have hagain : forall ch (s s' : CallState F),
      execCall conn i ch (.insertUser username passwordHash createdAt) s = .again s' ->
      SameRegistry s s' := by
    intro ch s s' h
    exact absurd (execCall_again h).1 (exec_not_again (by simp))
  apply call_act (fun _ _ h => h.env) hagain
  intro ch r s s' hinv hs hallowed hcall
  rcases execCall_done hcall with ⟨hexec, hcreator⟩
  rcases exec_insertUser hexec with
    ⟨hstate, ⟨e, rfl⟩, hrefused⟩ | ⟨hlookup, rfl, hstate⟩
  · have hsame : SameRegistry s s' := ⟨by rw [hstate], by rw [hstate], hcreator⟩
    refine ⟨hsame.keeps hinv, hs.env (hsame.rely (R := R) i), ?_⟩
    intro hstrict
    rcases hrefused with hfails | ⟨row, hrow⟩
    · rw [hallowed hstrict rfl] at hfails
      cases hfails
    · exact ⟨row, by rw [hstate]; exact hrow⟩
  · have hinserted : Inserted i username s s' := by
      refine ⟨hlookup, ?_, ⟨_, by rw [hstate]; exact AList.lookup_insert _⟩, by rw [hstate], ?_⟩
      · intro u hne
        rw [hstate, Table.lookup_insert_eq, if_neg hne]
      · intro u
        rw [hcreator, recordCreator, Function.update_apply]
    exact ⟨⟨hinserted.inv hname hinv, fun _ hj => hinserted.rely hinv hj, trivial⟩,
      hinserted.creates hinv⟩

/-- A session may be asked for by the call that created the user, or if others may call too. -/
def MayLogIn (R : CallRegime) (i : CallId) (username : String) (s : CallState F) : Prop :=
  R.exclusive username -> Creator R i username s

/-- A session is refused only to a user for whom others may have called. -/
theorem call_tryInsertToken {token : String} {K : (String -> Option CallId) -> Prop}
    (hstable : forall s s' : CallState F, K s.creator -> CallRely R i s s' -> K s'.creator) :
    CallTriple conn R i (fun s => K s.creator ∧ MayLogIn R i username s)
      (act (.tryInsertToken username token : Op F))
      (fun r s => K s.creator ∧ (r = false -> ¬ R.exclusive username)) := by
  have hagain : forall ch (s s' : CallState F),
      execCall conn i ch (.tryInsertToken username token) s = .again s' ->
      SameRegistry s s' := by
    intro ch s s' h
    cases (execCall_again h).1
  refine call_act ?_ hagain ?_
  · intro s s' hs hrely
    exact ⟨hstable s s' hs.1 hrely, fun hexclusive => (hs.2 hexclusive).env hrely⟩
  intro ch r s s' hinv hs _ hcall
  rcases execCall_done hcall with ⟨hexec, hcreator⟩
  have hcreator' : s'.creator = s.creator := hcreator
  simp only [exec, tryInsertToken] at hexec
  cases hsession : hasSession s.state.sessions username with
  | true =>
      simp only [hsession, if_true, Outcome.done.injEq] at hexec
      rcases hexec with ⟨rfl, hstate⟩
      have hsame : SameRegistry s s' := ⟨by rw [← hstate], by rw [← hstate], hcreator⟩
      refine ⟨hsame.keeps hinv, hcreator' ▸ hs.1, ?_⟩
      intro _ hexclusive
      exact (hs.2 hexclusive).2 hexclusive (hasSession_iff.mp hsession)
  | false =>
      simp only [hsession, Bool.false_eq_true, if_false, Outcome.done.injEq] at hexec
      rcases hexec with ⟨rfl, hstate⟩
      have husers : s'.state.users = s.state.users := by rw [← hstate]
      have hgrown : forall u, HasSession s'.state u -> u = username ∨ HasSession s.state u := by
        intro u h
        rcases h with ⟨t, ht⟩
        rw [← hstate] at ht
        simp only [Table.lookup_insert_eq] at ht
        by_cases heq : t = token
        · rw [if_pos heq] at ht
          cases ht
          exact Or.inl rfl
        · rw [if_neg heq] at ht
          exact Or.inr ⟨t, ht⟩
      refine ⟨⟨?_, ?_, trivial⟩, hcreator' ▸ hs.1, fun h => by cases h⟩
      · constructor
        · intro u j hj
          rw [hcreator'] at hj
          rw [HasRow, husers]
          exact hinv.created hj
        · intro u hexclusive hrow
          rw [HasRow, husers] at hrow
          rw [hcreator']
          exact hinv.row hexclusive hrow
        · intro u hexclusive hu
          rw [hcreator']
          rcases hgrown u hu with rfl | hold
          · rw [(hs.2 hexclusive).1]
            exact Option.some_ne_none i
          · exact hinv.session hexclusive hold
      · intro j hj
        constructor
        · intro u
          rw [hcreator']
        · intro u row hu
          rw [husers]
          exact hu
        · intro u hexclusive hu hsession'
          rcases hgrown u hsession' with rfl | hold
          · rw [(hs.2 hexclusive).1] at hu
            exact absurd (Option.some.inj hu).symm hj
          · exact hold

/-! # Programs -/

theorem call_check {alpha : Type} {r : Except String Unit} {P : CallState F -> Prop}
    {p : Program F (Except String alpha)} {Q : Except String alpha -> CallState F -> Prop}
    (hok : CallTriple conn R i P p Q)
    (herror : forall e s, r = .error e -> P s -> Q (.error e) s) :
    CallTriple conn R i P (bindOk (.pure r) fun _ => p) Q := by
  cases r with
  | ok => exact hok
  | error e => exact Setting.triple_pure fun s _ hs => herror e s rfl hs

theorem call_keyExists :
    CallTriple conn R i (NotCreator i) (keyExists username : Program F _)
      (fun r s => NotCreator i s ∧ (R.strict -> r ≠ .ok false -> HasRow s username)) := by
  refine Setting.triple_mapError (Setting.triple_conseq call_selectUser (fun _ _ h => h) ?_)
  intro r s hs
  cases r with
  | ok known =>
      refine ⟨hs.1, fun hstrict hr => hs.2 hstrict ?_⟩
      intro h
      cases h
      exact hr rfl
  | error e => exact ⟨hs.1, fun hstrict _ => hs.2 hstrict (fun h => by cases h)⟩

theorem call_drawToken {P : CallState F -> Prop}
    (hstable : forall s s', P s -> CallRely R i s s' -> P s') :
    CallTriple conn R i P (createToken : Program F String) (fun _ s => P s) :=
  call_neutral neutral_drawFreshToken hstable (fun _ _ _ _ hs _ _ _ => hs)

theorem call_openSession {K : (String -> Option CallId) -> Prop}
    (hstable : forall s s' : CallState F, K s.creator -> CallRely R i s s' -> K s'.creator) :
    CallTriple conn R i (fun s => K s.creator ∧ MayLogIn R i username s)
      ((createToken : Program F String).bind fun token =>
        bindOk (tryInsertTokenProg username token) fun _ => .pure (.ok (username, token)))
      (fun r s =>
        match r with
        | .ok (name, _) => name = username ∧ K s.creator
        | .error _ => K s.creator ∧ ¬ R.exclusive username) := by
  refine Setting.triple_bind (call_drawToken ?_) ?_
  · intro s s' hs hrely
    exact ⟨hstable s s' hs.1 hrely, fun hexclusive => (hs.2 hexclusive).env hrely⟩
  intro token
  refine Setting.triple_bindOk
    (R := fun r s => K s.creator ∧ ((exists e, r = .error e) -> ¬ R.exclusive username)) ?_ ?_ ?_
  · apply Setting.triple_bind (call_tryInsertToken hstable)
    intro inserted
    cases inserted with
    | true =>
        exact Setting.triple_pure fun s _ hs => ⟨hs.1, fun h => by rcases h with ⟨_, h⟩; cases h⟩
    | false =>
        exact Setting.triple_pure fun s _ hs => ⟨hs.1, fun _ => hs.2 rfl⟩
  · intro _
    exact Setting.triple_pure fun s _ hs => ⟨rfl, hs.1⟩
  · intro e s hs
    exact ⟨hs.1, hs.2 ⟨e, rfl⟩⟩

theorem call_saveRegister {password : String} (hname : (R.calls i).username = username) :
    CallTriple conn R i (NotCreator i)
      (saveRegister (.register username password) : Program F _)
      (fun r s =>
        match r with
        | .ok () => Creator R i username s
        | .error _ => NotCreator i s ∧ (R.strict -> HasRow s username)) := by
  refine Setting.triple_bind
    (call_neutral neutral_bcryptHash (fun _ _ h => h.env) (fun _ _ _ _ hs _ _ _ => hs)) ?_
  intro passwordHash
  refine Setting.triple_bind
    (call_neutral neutral_nowSecs (fun _ _ h => h.env) (fun _ _ _ _ hs _ _ _ => hs)) ?_
  intro now
  apply Setting.triple_bind (call_insertUser hname)
  intro r
  cases r with
  | ok => exact Setting.triple_pure fun s _ hs => hs
  | error e =>
      cases hunique : e.uniqueViolation with
      | true =>
          simp only [hunique, if_true]
          exact Setting.triple_pure fun s _ hs => hs
      | false =>
          simp only [hunique, Bool.false_eq_true, if_false]
          exact Setting.triple_pure fun s _ hs => hs

/-- A registration that succeeds has inserted the row; one that fails has found it. -/
theorem call_register {password : String}
    (hcall : R.calls i = .register username password) :
    CallTriple conn R i (NotCreator i) (register (.register username password) : Program F _)
      (CallEnd R i) := by
  have hname : (R.calls i).username = username := by rw [hcall]; rfl
  have hend : CallEnd (F := F) R i = RegisterEnd R i username := by
    funext r s
    simp only [CallEnd, hcall]
  have hvalid : R.exclusive username ->
      validateUsername username = .ok () ∧ validatePassword password = .ok () := by
    intro hexclusive
    rcases R.valid i (by rw [hname]; exact hexclusive) with ⟨password', hcall', hu, hp⟩
    rw [hname] at hcall' hu
    rw [hcall] at hcall'
    cases hcall'
    exact ⟨hu, hp⟩
  rw [hend]
  refine call_check (call_check ?_ ?_) ?_
  · refine Setting.triple_bindOk call_keyExists ?_ ?_
    · intro known
      cases known with
      | true =>
          refine Setting.triple_pure fun s _ hs hstrict _ => ?_
          exact ⟨hs.2 hstrict (fun h => by cases h), hs.1⟩
      | false =>
          refine Setting.triple_bindOk
            (Setting.triple_conseq (call_saveRegister hname) (fun _ _ h => h.1)
              (fun _ _ h => h)) ?_ ?_
          · intro _
            refine Setting.triple_conseq
              (call_openSession (K := fun creator => creator username = some i) ?_) ?_ ?_
            · intro s s' hs hrely
              exact (hrely.creator username).mpr hs
            · intro s _ hs
              exact ⟨hs.1, fun _ => hs⟩
            · intro r s hs
              cases r with
              | ok names => exact hs
              | error e => exact fun _ hexclusive => absurd hexclusive hs.2
          · intro e s hs hstrict _
            exact ⟨hs.2 hstrict, hs.1⟩
    · intro e s hs hstrict _
      exact ⟨hs.2 hstrict (fun h => by cases h), hs.1⟩
  · intro e s herror _ _ hexclusive
    rw [(hvalid hexclusive).2] at herror
    cases herror
  · intro e s herror _ _ hexclusive
    rw [(hvalid hexclusive).1] at herror
    cases herror

theorem call_checkCredentials {password : String} {P : CallState F -> Prop}
    (hstable : forall s s', P s -> CallRely R i s s' -> P s') :
    CallTriple conn R i P (checkCredentials (.login username password) : Program F _)
      (fun _ s => P s) := by
  refine Setting.triple_bindOk (R := fun _ s => P s)
    (Setting.triple_mapError
      (call_neutral neutral_selectPasswordHash hstable (fun _ _ _ _ hs _ _ _ => hs))) ?_ ?_
  · intro row
    cases row with
    | none => exact Setting.triple_pure fun _ _ hs => hs
    | some stored =>
        cases hverify : Bcrypt.verify password stored with
        | true =>
            simp only [hverify, if_true]
            exact Setting.triple_pure fun _ _ hs => hs
        | false =>
            simp only [hverify, Bool.false_eq_true, if_false]
            exact Setting.triple_pure fun _ _ hs => hs
  · intro _ _ hs
    exact hs

/-- A login inserts no row, and it is only called for users who may be logged in by others. -/
theorem call_login {password : String} (hcall : R.calls i = .login username password) :
    CallTriple conn R i (NotCreator i) (login (.login username password) : Program F _)
      (CallEnd R i) := by
  have hend : CallEnd (F := F) R i = fun _ _ => True := by
    funext r s
    simp only [CallEnd, hcall]
  have hshared : ¬ R.exclusive username := by
    intro hexclusive
    rcases R.valid i (by rw [hcall]; exact hexclusive) with ⟨password', hcall', _⟩
    rw [hcall] at hcall'
    cases hcall'
  rw [hend]
  refine call_check (call_check ?_ (fun _ _ _ _ => trivial)) (fun _ _ _ _ => trivial)
  refine Setting.triple_bindOk call_keyExists ?_ (fun _ _ _ => trivial)
  intro known
  cases known with
  | false => exact Setting.triple_pure fun _ _ _ => trivial
  | true =>
      refine Setting.triple_bindOk (R := fun _ s => NotCreator i s)
        (Setting.triple_mapError (Setting.triple_conseq
          (call_checkCredentials fun _ _ h => h.env) (fun _ _ h => h.1) (fun _ _ h => h)))
        ?_ (fun _ _ _ => trivial)
      intro _
      refine Setting.triple_conseq
        (call_openSession (K := fun _ => True) (fun _ _ _ _ => trivial)) ?_ (fun _ _ _ => trivial)
      intro s _ _
      exact ⟨trivial, fun hexclusive => absurd hexclusive hshared⟩

end

end Wanderust
