import Wanderust.Server.Effects
import Wanderust.Common.Bytes
import Wanderust.Interleaving.Evaluation
import Wanderust.Registration.Exclusive

/-!
# The registered password

After a registration the credential check compares the password with the hash
stored by it, whatever the server does in between.  Passwords may be longer than
the prefix that the hash depends on, so long passwords that share this prefix
are not told apart.
-/

namespace Wanderust

open Interleaving Prog

variable {F : Type}

/-! # Assumptions on bcrypt -/

/-- `hash` and `verify` use the bytes of the password and an end mark, up to this length. -/
def bcryptMaxLen : Nat := 72

def bcryptInput (password : String) : List UInt8 :=
  terminated 0 bcryptMaxLen (utf8Bytes password)

def VerifiesHashed [Bcrypt] : Prop :=
  forall salt password password',
    Bcrypt.verify password' (Bcrypt.hash salt password) = true <->
      bcryptInput password' = bcryptInput password

/-- Two passwords that bcrypt does not tell apart although they may differ. -/
def SameLongPrefix (p q : String) : Prop :=
  bcryptMaxLen ≤ p.utf8ByteSize ∧ bcryptMaxLen ≤ q.utf8ByteSize ∧
    (utf8Bytes p).take bcryptMaxLen = (utf8Bytes q).take bcryptMaxLen

theorem bcryptInput_eq_iff {p q : String} (hp : nul ∉ p.toList) (hq : nul ∉ q.toList) :
    bcryptInput q = bcryptInput p <-> q = p ∨ SameLongPrefix q p := by
  unfold bcryptInput
  rw [terminated_eq_iff (utf8Bytes_nonzero hq) (utf8Bytes_nonzero hp), utf8Bytes_inj,
    length_utf8Bytes, length_utf8Bytes]
  rfl

section

variable [Geo F] [Bcrypt]

/-! # The row of a user -/

/-- Some run of the server leads from the one state to the other. -/
def Meanwhile (s s' : State F) : Prop :=
  exists w w' : World F, w.state = s ∧ w'.state = s' ∧ Reachable (fun _ _ => True) w w'

theorem next_users_kept {w w' : World F} {l : Label F} (hnext : w.next l = some w') {u : String}
    {row : User} (hrow : w.state.users.lookup u = some row) :
    w'.state.users.lookup u = some row := by
  cases l with
  | step c ch =>
      rcases executes_of_next hnext with ⟨o, _, hexec⟩
      exact exec_users_kept hexec hrow
  | _ =>
      rw [(next_database hnext (by simp)).1]
      exact hrow

theorem Meanwhile.users_kept {s s' : State F} (h : Meanwhile s s') {u : String} {row : User}
    (hrow : s.users.lookup u = some row) : s'.users.lookup u = some row := by
  rcases h with ⟨w, w', rfl, rfl, hreach⟩
  exact hreach.invariant (P := fun w => w.state.users.lookup u = some row) hrow
    fun _ _ _ hrow _ hnext => next_users_kept hnext hrow

theorem eval_users_kept {alpha : Type} {c : ConnId} {p : Program F alpha} {s s' : State F}
    {a : alpha} (h : Eval exec Meanwhile c p s a s') {u : String} {row : User}
    (hrow : s.users.lookup u = some row) : s'.users.lookup u = some row := by
  induction h with
  | pure a s => exact hrow
  | again hmeanwhile hagain _ ih =>
      exact ih (exec_users_kept (Or.inr hagain) (hmeanwhile.users_kept hrow))
  | done ch hmeanwhile hdone _ ih =>
      exact ih (exec_users_kept (Or.inl ⟨_, hdone⟩) (hmeanwhile.users_kept hrow))

/-- The stored hash of the user was made from the password. -/
def HashedFrom (s : State F) (username password : String) : Prop :=
  exists salt createdAt,
    s.users.lookup username = some { passwordHash := Bcrypt.hash salt password, createdAt }

theorem HashedFrom.kept {alpha : Type} {c : ConnId} {program : Program F alpha} {s s' : State F}
    {a : alpha} {u p : String} (h : HashedFrom s u p)
    (heval : Eval exec Meanwhile c program s a s') : HashedFrom s' u p := by
  rcases h with ⟨salt, createdAt, hrow⟩
  exact ⟨salt, createdAt, eval_users_kept heval hrow⟩

theorem eval_saveRegister {c : ConnId} {s s' : State F} {u p : String}
    (h : Eval exec Meanwhile c (saveRegister (.register u p)) s (.ok ()) s') :
    HashedFrom s' u p := by
  simp only [saveRegister, act, bind_def, perform_bind] at h
  rw [eval_op_iff (fun _ _ _ => exec_not_again (by simp))] at h
  rcases h with ⟨ch, passwordHash, s1, s2, _, hhash, h⟩
  cases hhash
  rw [eval_op_iff (fun _ _ _ => exec_not_again (by simp))] at h
  rcases h with ⟨_, now, s3, s4, _, _, h⟩
  rw [eval_op_iff (fun _ _ _ => exec_not_again (by simp))] at h
  rcases h with ⟨_, r, s5, s6, _, hinsert, h⟩
  cases r with
  | ok a =>
      rcases eval_pure_iff.mp h with ⟨_, rfl⟩
      rcases exec_insertUser hinsert with ⟨_, ⟨e, herror⟩, _⟩ | ⟨_, _, rfl⟩
      · cases herror
      · exact ⟨ch.salt, now, AList.lookup_insert _⟩
  | error e =>
      dsimp only at h
      split at h
      all_goals cases (eval_pure_iff.mp h).1

theorem eval_register {c : ConnId} {s s' : State F} {u p : String} {names : String × String}
    (h : Eval exec Meanwhile c (register (.register u p)) s (.ok names) s') :
    HashedFrom s' u p := by
  simp only [register] at h
  rcases eval_bindOk_ok.mp h with ⟨_, s1, _, h⟩
  rcases eval_bindOk_ok.mp h with ⟨_, s2, _, h⟩
  rcases eval_bindOk_ok.mp h with ⟨known, s3, _, h⟩
  split at h
  · cases (eval_pure_iff.mp h).1
  · rcases eval_bindOk_ok.mp h with ⟨_, s4, hsave, h⟩
    exact (eval_saveRegister hsave).kept h

/-! # The credential check -/

def execSucceeding : Exec (@Op.Ret F) ConnId Choice (State F) :=
  fun c ch => exec c { ch with fails := false }

theorem eval_checkCredentials {c : ConnId} {s s' : State F} {u q : String} {row : User}
    {r : Except String Unit} (hrow : s.users.lookup u = some row)
    (h : Eval execSucceeding Meanwhile c (checkCredentials (.login u q)) s r s') :
    r = .ok () <-> Bcrypt.verify q row.passwordHash = true := by
  have hnever : forall ch s1 s2, execSucceeding c ch (.selectPasswordHash u) s1 ≠
      .again (s2 : State F) :=
    fun _ _ _ => exec_not_again (by simp)
  simp only [checkCredentials, sql, bindOk, mapError, act, perform_bind, op_bind] at h
  rw [eval_op_iff hnever] at h
  rcases h with ⟨ch, stored, s1, s2, hmeanwhile, hselect, h⟩
  have hstored : stored = .ok (some row.passwordHash) := by
    simp only [execSucceeding, exec, answerQuery, Bool.false_eq_true, if_false,
      hmeanwhile.users_kept hrow] at hselect
    cases hselect
    rfl
  rw [hstored] at h
  simp only [pure_bind] at h
  split at h
  · rename_i hverify
    rcases eval_pure_iff.mp h with ⟨rfl, _⟩
    exact iff_of_true rfl hverify
  · rename_i hverify
    rcases eval_pure_iff.mp h with ⟨rfl, _⟩
    refine iff_of_false ?_ hverify
    intro heq
    cases heq

/-- Whether the check succeeds on the password depends on what bcrypt reads of it. -/
theorem eval_checkCredentials_hashed (hbcrypt : VerifiesHashed) {c : ConnId} {s s' : State F}
    {u p q : String} {r : Except String Unit} (h : HashedFrom s u p)
    (hcheck : Eval execSucceeding Meanwhile c (checkCredentials (.login u q)) s r s') :
    r = .ok () <-> bcryptInput q = bcryptInput p := by
  rcases h with ⟨salt, createdAt, hrow⟩
  rw [eval_checkCredentials hrow hcheck]
  exact hbcrypt salt p q

theorem registered_password (hbcrypt : VerifiesHashed) {c c' : ConnId} {s s1 s2 s3 : State F}
    {u p q : String} {names : String × String} {r : Except String Unit}
    (hp : nul ∉ p.toList) (hq : nul ∉ q.toList)
    (hregister : Eval exec Meanwhile c (register (.register u p)) s (.ok names) s1)
    (hmeanwhile : Meanwhile s1 s2)
    (hcheck : Eval execSucceeding Meanwhile c' (checkCredentials (.login u q)) s2 r s3) :
    (r = .ok () <-> q = p) <-> (q = p ∨ ¬ SameLongPrefix q p) := by
  have hhashed : HashedFrom s2 u p := by
    rcases eval_register hregister with ⟨salt, createdAt, hrow⟩
    exact ⟨salt, createdAt, hmeanwhile.users_kept hrow⟩
  rw [eval_checkCredentials_hashed hbcrypt hhashed hcheck, bcryptInput_eq_iff hp hq]
  tauto

end

/-! # A registration and a login -/

/-- A stand-in for `bcrypt` whose hash is the part of the password that it reads. -/
@[reducible] def prefixBcrypt : Bcrypt where
  hash _ password := String.ofList ((bcryptInput password).map Char.ofUInt8)
  verify password passwordHash :=
    String.ofList ((bcryptInput password).map Char.ofUInt8) == passwordHash

def longPassword (n : Nat) : String :=
  String.ofList (List.replicate n 'a')

theorem utf8Bytes_longPassword (n : Nat) : utf8Bytes (longPassword n) = List.replicate n 97 := by
  rw [utf8Bytes_eq_flatMap, longPassword, String.toList_ofList]
  induction n with
  | zero => rfl
  | succ n ih =>
      rw [List.replicate_succ, List.flatMap_cons, ih]
      rfl

theorem utf8ByteSize_longPassword (n : Nat) : (longPassword n).utf8ByteSize = n := by
  rw [← length_utf8Bytes, utf8Bytes_longPassword, List.length_replicate]

theorem nul_notMem_longPassword (n : Nat) : nul ∉ (longPassword n).toList := by
  rw [longPassword, String.toList_ofList]
  intro h
  exact absurd (List.eq_of_mem_replicate h) (by decide)

section

attribute [local instance] prefixBcrypt

theorem prefixBcrypt_verifies : VerifiesHashed := by
  intro salt p q
  have hinj : Function.Injective Char.ofUInt8 := by
    intro a b hab
    exact UInt8.toUInt32_inj.mp (congrArg Char.val hab)
  dsimp only [Bcrypt.verify, Bcrypt.hash]
  rw [beq_iff_eq, String.ofList_inj]
  exact hinj.list_map.eq_iff

theorem Meanwhile.refl [Geo F] (s : State F) : Meanwhile s s :=
  ⟨⟨s, fun _ => .unopened⟩, _, rfl, rfl, Reach.refl⟩

theorem registers {p : String} (hp : validatePassword p = .ok ()) :
    exists s, Eval exec Meanwhile 0 (register (.register "u" p))
      (World.boot ∅ ∅ ∅ : World ℝ).state (.ok ("u", "t1")) s := by
  have husername : validateUsername "u" = .ok () := by rfl
  simp only [register, husername, hp, bindOk, pure_bind]
  apply Exists.intro
  apply Eval.done (Choice.drawing "t1") (Meanwhile.refl _) rfl
  apply Eval.done (Choice.drawing "t1") (Meanwhile.refl _) rfl
  apply Eval.done (Choice.drawing "t1") (Meanwhile.refl _) rfl
  apply Eval.done (Choice.drawing "t1") (Meanwhile.refl _) rfl
  apply Eval.done (Choice.drawing "t1") (Meanwhile.refl _) rfl
  apply Eval.done (Choice.drawing "t1") (Meanwhile.refl _) rfl
  exact Eval.pure _ _

theorem checks {c : ConnId} {s : State ℝ} {u p : String} (h : HashedFrom s u p) (q : String) :
    exists r, Eval execSucceeding Meanwhile c (checkCredentials (.login u q)) s r s := by
  rcases h with ⟨salt, createdAt, hrow⟩
  have hselect : execSucceeding c (Choice.drawing "") (.selectPasswordHash u) s =
      .done (.ok (some (Bcrypt.hash salt p))) s := by
    simp [execSucceeding, exec, answerQuery, hrow]
  have hrest : exists r, Eval execSucceeding Meanwhile c
      (if Bcrypt.verify q (Bcrypt.hash salt p) then .pure (.ok ())
        else .pure (.error "invalid credentials") : Program ℝ (Except String Unit)) s r s := by
    split
    · exact ⟨_, Eval.pure _ _⟩
    · exact ⟨_, Eval.pure _ _⟩
  rcases hrest with ⟨r, hrest⟩
  exact ⟨r, Eval.done (Choice.drawing "") (Meanwhile.refl s) hselect hrest⟩

/-- What a registration and the credential check that follows it amount to. -/
structure CheckedAfterRegister (p q : String) (r : Except String Unit) (s s' : State ℝ) :
    Prop where
  registered : Eval exec Meanwhile 0 (register (.register "u" p))
    (World.boot ∅ ∅ ∅ : World ℝ).state (.ok ("u", "t1")) s
  checked : Eval execSucceeding Meanwhile 1 (checkCredentials (.login "u" q)) s r s'

theorem checkedAfterRegister {p : String} (hp : validatePassword p = .ok ()) (q : String) :
    exists r s s', CheckedAfterRegister p q r s s' := by
  rcases registers hp with ⟨s, hregister⟩
  rcases checks (eval_register hregister) q with ⟨r, hcheck⟩
  exact ⟨r, s, s, hregister, hcheck⟩

theorem registered_password_short : exists r s s', CheckedAfterRegister "pass" "word" r s s' ∧
    ((r = .ok () <-> "word" = "pass") <->
      ("word" = "pass" ∨ ¬ SameLongPrefix "word" "pass")) := by
  have hvalid : validatePassword "pass" = .ok () := by rfl
  rcases checkedAfterRegister hvalid "word" with ⟨r, s, s', h⟩
  exact ⟨r, s, s', h, registered_password prefixBcrypt_verifies (by decide) (by decide)
    h.registered (Meanwhile.refl s) h.checked⟩

/-- Of two accepted passwords, either passes the check of the user registered with the other. -/
theorem registered_password_prefix : VerifiesHashed ∧ exists p q : String,
    validatePassword p = .ok () ∧ validatePassword q = .ok () ∧ nul ∉ p.toList ∧
      nul ∉ q.toList ∧ q ≠ p ∧ exists s s', CheckedAfterRegister p q (.ok ()) s s' := by
  refine ⟨prefixBcrypt_verifies, ?_⟩
  have hvalid : forall n, 4 ≤ n -> n ≤ maxPasswordLen ->
      validatePassword (longPassword n) = .ok () := by
    intro n h4 h128
    rw [validatePassword, utf8ByteSize_longPassword, if_neg (Nat.not_lt.mpr h4),
      if_neg (Nat.not_lt.mpr h128)]
  have hne : longPassword 73 ≠ longPassword 72 := by
    intro heq
    have hsize := congrArg String.utf8ByteSize heq
    rw [utf8ByteSize_longPassword, utf8ByteSize_longPassword] at hsize
    exact absurd hsize (by decide)
  have hsame : SameLongPrefix (longPassword 73) (longPassword 72) := by
    unfold SameLongPrefix
    rw [utf8ByteSize_longPassword, utf8ByteSize_longPassword, utf8Bytes_longPassword,
      utf8Bytes_longPassword, List.take_replicate, List.take_replicate]
    exact ⟨by decide, by decide, rfl⟩
  have hnul := nul_notMem_longPassword
  rcases checkedAfterRegister (hvalid 72 (by decide) (by decide)) (longPassword 73) with
    ⟨r, s, s', h⟩
  have hr : r = .ok () := by
    rw [eval_checkCredentials_hashed prefixBcrypt_verifies (eval_register h.registered) h.checked,
      bcryptInput_eq_iff (hnul 72) (hnul 73)]
    exact Or.inr hsame
  subst hr
  exact ⟨longPassword 72, longPassword 73, hvalid 72 (by decide) (by decide),
    hvalid 73 (by decide) (by decide), hnul 72, hnul 73, hne, s, s', h⟩

end

end Wanderust
