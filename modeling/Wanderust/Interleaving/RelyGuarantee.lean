import Wanderust.Interleaving.Program

/-!
# Rely-guarantee reasoning for interleaved programs

A task is verified on its own, against a relation that bounds what the other
tasks may do between two of its steps.  In return every step of the task must
stay within what each other task relies on.
-/

namespace Interleaving

variable {Op : Type} {Ret : Op -> Type} {Tid Choice State : Type}
variable {alpha beta : Type}

/--
The setting of a verification: the operations, the steps that the environment
may schedule, a global invariant, and the interference that each task tolerates.
-/
structure Setting {Op : Type} (Ret : Op -> Type) (Tid Choice State : Type) where
  exec : Exec Ret Tid Choice State
  allowed : Tid -> Choice -> Op -> State -> Prop
  inv : State -> Prop
  rely : Tid -> State -> State -> Prop
  rely_refl : forall c s, rely c s s
  rely_trans : forall {c s s' s''}, rely c s s' -> rely c s' s'' -> rely c s s''

def OnResult {epsilon alpha S : Type} (ok : alpha -> S -> Prop) (error : epsilon -> S -> Prop)
    (r : Except epsilon alpha) (s : S) : Prop :=
  match r with
  | .ok a => ok a s
  | .error e => error e s

@[simp] theorem onResult_ok {epsilon alpha S : Type} {ok : alpha -> S -> Prop}
    {error : epsilon -> S -> Prop} {a : alpha} {s : S} :
    OnResult ok error (.ok a) s <-> ok a s := Iff.rfl

@[simp] theorem onResult_error {epsilon alpha S : Type} {ok : alpha -> S -> Prop}
    {error : epsilon -> S -> Prop} {e : epsilon} {s : S} :
    OnResult ok error (.error e) s <-> error e s := Iff.rfl

namespace Setting

/-- What a step of task `c` owes: the invariant, its own guarantee, the others' rely. -/
structure Keeps (S : Setting Ret Tid Choice State) (c : Tid)
    (guar : State -> State -> Prop) (s s' : State) : Prop where
  inv : S.inv s'
  others : forall c', c' ≠ c -> S.rely c' s s'
  own : guar s s'

/-- An assertion of task `c` that interference cannot falsify. -/
def Stable (S : Setting Ret Tid Choice State) (c : Tid) (P : State -> Prop) : Prop :=
  forall s s', P s -> S.inv s' -> S.rely c s s' -> P s'

/--
The program `p` of task `c` may be run from `s` under interference: each of its
steps keeps its promises, and it ends in a state that satisfies `post`.
-/
def Safe (S : Setting Ret Tid Choice State) (c : Tid) (guar : State -> State -> Prop) :
    Prog Ret alpha -> (alpha -> State -> Prop) -> State -> Prop
  | .pure a, post, s => post a s
  | .op o next, post, s =>
      forall s', S.inv s' -> S.rely c s s' -> forall ch, S.allowed c ch o s' ->
        match S.exec c ch o s' with
        | .blocked => True
        | .again s'' => S.Keeps c guar s' s'' ∧ S.rely c s' s''
        | .done r s'' => S.Keeps c guar s' s'' ∧ Safe S c guar (next r) post s''

variable {S : Setting Ret Tid Choice State} {c : Tid} {guar : State -> State -> Prop}

theorem safe_mono {p : Prog Ret alpha} {post post' : alpha -> State -> Prop} {s : State}
    (h : S.Safe c guar p post s) (hpost : forall a s, post a s -> post' a s) :
    S.Safe c guar p post' s := by
  induction p generalizing s with
  | pure a => exact hpost a s h
  | op o next ih =>
      intro s' hinv hrely ch hallowed
      have hstep := h s' hinv hrely ch hallowed
      cases hexec : S.exec c ch o s' with
      | blocked => trivial
      | again s'' =>
          rw [hexec] at hstep
          exact hstep
      | done r s'' =>
          rw [hexec] at hstep
          exact ⟨hstep.1, ih r hstep.2⟩

theorem safe_bind {p : Prog Ret alpha} {f : alpha -> Prog Ret beta}
    {post : beta -> State -> Prop} {s : State}
    (h : S.Safe c guar p (fun a s' => S.Safe c guar (f a) post s') s) :
    S.Safe c guar (p.bind f) post s := by
  induction p generalizing s with
  | pure a => exact h
  | op o next ih =>
      intro s' hinv hrely ch hallowed
      have hstep := h s' hinv hrely ch hallowed
      cases hexec : S.exec c ch o s' with
      | blocked => trivial
      | again s'' =>
          rw [hexec] at hstep
          exact hstep
      | done r s'' =>
          rw [hexec] at hstep
          exact ⟨hstep.1, ih r hstep.2⟩

theorem safe_env_op {o : Op} {next : Ret o -> Prog Ret alpha} {post : alpha -> State -> Prop}
    {s s' : State} (h : S.Safe c guar (.op o next) post s) (hrely : S.rely c s s') :
    S.Safe c guar (.op o next) post s' := by
  intro s1 hinv1 hrely1
  exact h s1 hinv1 (S.rely_trans hrely hrely1)

theorem safe_env {p : Prog Ret alpha} {post : alpha -> State -> Prop} {s s' : State}
    (h : S.Safe c guar p post s) (hpost : forall a, S.Stable c (post a))
    (hinv : S.inv s') (hrely : S.rely c s s') :
    S.Safe c guar p post s' := by
  cases p with
  | pure a => exact hpost a s s' h hinv hrely
  | op o next => exact safe_env_op h hrely

/-- One step of a safe program keeps the promises and leaves a safe program. -/
theorem safe_step {p p' : Prog Ret alpha} {post : alpha -> State -> Prop}
    {s s' : State} {ch : Choice} (hsafe : S.Safe c guar p post s) (hinv : S.inv s)
    (hallowed : forall o next, p = .op o next -> S.allowed c ch o s)
    (hstep : p.step S.exec c ch s = some (p', s')) :
    S.Keeps c guar s s' ∧ S.Safe c guar p' post s' := by
  rcases Prog.step_eq_some.mp hstep with ⟨o, next, rfl, hexec⟩
  have hkeeps := hsafe s hinv (S.rely_refl c s) ch (hallowed o next rfl)
  rcases hexec with ⟨hexec, rfl⟩ | ⟨r, hexec, rfl⟩
  · rw [hexec] at hkeeps
    exact ⟨hkeeps.1, safe_env_op hsafe hkeeps.2⟩
  · rw [hexec] at hkeeps
    exact hkeeps

/-!
# Triples

A triple starts the program in any state that satisfies the invariant and the
precondition.
-/

def Triple (S : Setting Ret Tid Choice State) (c : Tid) (guar : State -> State -> Prop)
    (pre : State -> Prop) (p : Prog Ret alpha) (post : alpha -> State -> Prop) : Prop :=
  forall s, S.inv s -> pre s -> S.Safe c guar p post s

/-- The effect of a single operation, run from a state satisfying the precondition. -/
def Atomic (S : Setting Ret Tid Choice State) (c : Tid) (guar : State -> State -> Prop)
    (pre : State -> Prop) (o : Op) (post : Ret o -> State -> Prop) : Prop :=
  forall s, S.inv s -> pre s -> forall ch, S.allowed c ch o s ->
    match S.exec c ch o s with
    | .blocked => True
    | .again s' => S.Keeps c guar s s' ∧ S.rely c s s'
    | .done r s' => S.Keeps c guar s s' ∧ post r s'

theorem triple_pure {pre : State -> Prop} {a : alpha} {post : alpha -> State -> Prop}
    (h : forall s, S.inv s -> pre s -> post a s) :
    S.Triple c guar pre (.pure a) post :=
  fun s hinv hpre => h s hinv hpre

theorem triple_op {pre : State -> Prop} {o : Op} {next : Ret o -> Prog Ret alpha}
    {mid : Ret o -> State -> Prop} {post : alpha -> State -> Prop}
    (hstable : S.Stable c pre) (hop : S.Atomic c guar pre o mid)
    (hnext : forall r, S.Triple c guar (mid r) (next r) post) :
    S.Triple c guar pre (.op o next) post := by
  intro s _ hpre s' hinv hrely ch hallowed
  have hstep := hop s' hinv (hstable s s' hpre hinv hrely) ch hallowed
  cases hexec : S.exec c ch o s' with
  | blocked => trivial
  | again s'' =>
      rw [hexec] at hstep
      exact hstep
  | done r s'' =>
      rw [hexec] at hstep
      exact ⟨hstep.1, hnext r s'' hstep.1.inv hstep.2⟩

theorem triple_conseq {pre pre' : State -> Prop} {p : Prog Ret alpha}
    {post post' : alpha -> State -> Prop} (h : S.Triple c guar pre p post)
    (hpre : forall s, S.inv s -> pre' s -> pre s)
    (hpost : forall a s, post a s -> post' a s) :
    S.Triple c guar pre' p post' :=
  fun s hinv hs => safe_mono (h s hinv (hpre s hinv hs)) hpost

/-- Safety of `p` may use that the invariant holds wherever `p` ends. -/
theorem safe_inv {p : Prog Ret alpha} {post : alpha -> State -> Prop} {s : State}
    (h : S.Safe c guar p post s) (hinv : S.inv s) :
    S.Safe c guar p (fun a s' => S.inv s' ∧ post a s') s := by
  induction p generalizing s with
  | pure a => exact ⟨hinv, h⟩
  | op o next ih =>
      intro s' hinv' hrely ch hallowed
      have hstep := h s' hinv' hrely ch hallowed
      cases hexec : S.exec c ch o s' with
      | blocked => trivial
      | again s'' =>
          rw [hexec] at hstep
          exact hstep
      | done r s'' =>
          rw [hexec] at hstep
          exact ⟨hstep.1, ih r hstep.2 hstep.1.inv⟩

theorem triple_bind {pre : State -> Prop} {p : Prog Ret alpha}
    {f : alpha -> Prog Ret beta} {mid : alpha -> State -> Prop}
    {post : beta -> State -> Prop}
    (hp : S.Triple c guar pre p mid)
    (hf : forall a, S.Triple c guar (mid a) (f a) post) :
    S.Triple c guar pre (p.bind f) post := by
  intro s hinv hpre
  apply safe_bind
  apply safe_mono (safe_inv (hp s hinv hpre) hinv)
  intro a s' h
  exact hf a s' h.1 h.2

theorem triple_perform {pre : State -> Prop} {o : Op} {post : Ret o -> State -> Prop}
    (hstable : S.Stable c pre) (hop : S.Atomic c guar pre o post) :
    S.Triple c guar pre (Prog.perform o) post :=
  triple_op hstable hop (fun _ => triple_pure fun _ _ h => h)

/-- The rule of programs that may fail: an error ends the whole program. -/
theorem triple_bindOk {epsilon : Type} {P : State -> Prop} {p : Prog Ret (Except epsilon alpha)}
    {f : alpha -> Prog Ret (Except epsilon beta)} {R : Except epsilon alpha -> State -> Prop}
    {Q : Except epsilon beta -> State -> Prop}
    (hp : S.Triple c guar P p R) (hok : forall a, S.Triple c guar (R (.ok a)) (f a) Q)
    (herror : forall e s, R (.error e) s -> Q (.error e) s) :
    S.Triple c guar P (Prog.bindOk p f) Q := by
  apply triple_bind hp
  intro r
  cases r with
  | ok a => exact hok a
  | error e => exact triple_pure fun s _ hs => herror e s hs

theorem triple_mapError {epsilon epsilon' : Type} {g : epsilon -> epsilon'} {P : State -> Prop}
    {p : Prog Ret (Except epsilon alpha)} {Q : Except epsilon' alpha -> State -> Prop}
    (hp : S.Triple c guar P p (fun r s => Q (r.mapError g) s)) :
    S.Triple c guar P (Prog.mapError g p) Q := by
  apply triple_bind hp
  intro r
  cases r with
  | ok a => exact triple_pure fun _ _ hs => hs
  | error e => exact triple_pure fun _ _ hs => hs

end Setting

end Interleaving
