import Wanderust.Session.Runs

/-!
# Conditions on runs

The assumptions under which the properties of the server are stated, each a
condition on a single label, and the regimes that they amount to.
-/

namespace Wanderust

open Interleaving

variable {F : Type} {A : Regime} {w : World F} {l : Label F}

def OnStep (P : ConnId -> Choice -> Op F -> State F -> Prop) (w : World F)
    (l : Label F) : Prop :=
  forall c ch, l = .step c ch -> forall o, (w.tasks c).nextOp = some o -> P c ch o w.state

/-- The tokens drawn by `create_token` are pairwise distinct. -/
def DistinctTokens : World F -> Label F -> Prop :=
  OnStep fun _ ch o s => FreshDraw s ch o

def SqlSucceeds (c : ConnId) : World F -> Label F -> Prop :=
  OnStep fun c' ch o _ => c' = c -> o.isSql = true -> ch.fails = false

def SendSucceeds (c : ConnId) : World F -> Label F -> Prop :=
  OnStep fun c' ch o _ => c' = c -> (exists msg, o = .send msg) -> ch.fails = false

/-- Tokens are distinct, and neither the database nor a send fails. -/
structure NoFailure (w : World F) (l : Label F) : Prop where
  tokens : DistinctTokens w l
  sql : forall c, SqlSucceeds c w l
  send : forall c, SendSucceeds c w l

theorem permits_of_step (hstep : OnStep A.Allows w l) (hrestart : l = .restart -> ¬ A.tripsOk) :
    A.Permits w l := by
  cases l with
  | accept c => trivial
  | receive c item => trivial
  | step c ch => exact hstep c ch rfl
  | restart => exact hrestart rfl

theorem permits_any (h : DistinctTokens w l) : Regime.any.Permits w l := by
  refine permits_of_step ?_ (fun _ => not_false)
  intro c ch hl o ho
  exact ⟨h c ch hl o ho, False.elim, False.elim, False.elim, False.elim⟩

/-! # Runs by script

A check that can be computed, for the runs that are given by a list of labels.
-/

def freshCheck (w : World F) : Label F -> Bool
  | .step _ ch => w.state.drawn.all fun p => p.1 != ch.uuid
  | _ => true

def calmCheck (w : World F) : Label F -> Bool
  | .step c ch => !ch.fails && freshCheck w (.step c ch)
  | _ => true

theorem distinctTokens_of_check (h : freshCheck w l = true) : DistinctTokens w l := by
  intro c ch hl o _ _ c' hmem
  rw [hl] at h
  have hne := List.all_eq_true.mp h _ hmem
  simp at hne

theorem noFailure_of_check (h : calmCheck w l = true) : NoFailure w l := by
  have hsucceeds : forall c ch, l = .step c ch -> ch.fails = false := by
    intro c ch hl
    rw [hl] at h
    simp only [calmCheck, Bool.and_eq_true, Bool.not_eq_true'] at h
    exact h.1
  refine ⟨distinctTokens_of_check ?_, ?_, ?_⟩
  · cases l with
    | step c ch =>
        simp only [calmCheck, Bool.and_eq_true] at h
        exact h.2
    | _ => rfl
  · intro c c' ch hl o _ _ _
    exact hsucceeds c' ch hl
  · intro c c' ch hl o _ _ _
    exact hsucceeds c' ch hl

/-- A stand-in for `bcrypt`: a hash verifies the password that it was made from. -/
@[reducible] def plainBcrypt : Bcrypt where
  hash _ password := password
  verify password passwordHash := password == passwordHash

def Choice.drawing (token : String) : Choice :=
  { fails := false, errorText := "", uuid := token, salt := "", now := 1, tripId := 1 }

def Choice.failing : Choice :=
  { Choice.drawing "" with fails := true }

def stepsOf (c : ConnId) (n : Nat) : List (Label F) :=
  List.replicate n (.step c (Choice.drawing ""))

/-- Register on a new connection, up to the reply. -/
def registerUntilReply (c : ConnId) (username token : String) : List (Label F) :=
  [.accept c, .receive c (.message (.register username "pass"))] ++ stepsOf c 5 ++
    [.step c (Choice.drawing token)] ++ stepsOf c 4

end Wanderust
