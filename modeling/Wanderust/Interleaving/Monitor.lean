import Mathlib.Data.List.Basic
import Wanderust.Interleaving.Program

/-!
# Monitored programs

A monitor watches the operations of one program.  It has a phase; it permits
some operations in a phase, and an operation with its answer leads to further
phases.  A program that follows a monitor does so whatever the answers are, so
nothing is assumed of the other tasks.
-/

namespace Interleaving

structure Monitor {Op : Type} (Ret : Op -> Type) (Phase : Type) where
  permits : Op -> Phase -> Prop
  moves : (o : Op) -> Ret o -> Phase -> Phase -> Prop

namespace Monitor

variable {Op : Type} {Ret : Op -> Type} {Phase E alpha beta : Type}
variable {M : Monitor Ret Phase} {phase : Phase}

/-- The program performs permitted operations only, and ends in a phase that satisfies `post`. -/
def Follows (M : Monitor Ret Phase) :
    Prog Ret alpha -> (alpha -> Phase -> Prop) -> Phase -> Prop
  | .pure a, post, phase => post a phase
  | .op o next, post, phase =>
      M.permits o phase ∧
        forall r phase', M.moves o r phase phase' -> Follows M (next r) post phase'

theorem follows_mono {p : Prog Ret alpha} {post post' : alpha -> Phase -> Prop}
    (h : M.Follows p post phase) (hpost : forall a phase, post a phase -> post' a phase) :
    M.Follows p post' phase := by
  induction p generalizing phase with
  | pure a => exact hpost a phase h
  | op o next ih => exact ⟨h.1, fun r phase' hmoves => ih r (h.2 r phase' hmoves)⟩

theorem follows_bind {p : Prog Ret alpha} {f : alpha -> Prog Ret beta}
    {post : beta -> Phase -> Prop}
    (h : M.Follows p (fun a phase' => M.Follows (f a) post phase') phase) :
    M.Follows (p.bind f) post phase := by
  induction p generalizing phase with
  | pure a => exact h
  | op o next ih => exact ⟨h.1, fun r phase' hmoves => ih r (h.2 r phase' hmoves)⟩

theorem follows_bindOk {epsilon : Type} {p : Prog Ret (Except epsilon alpha)}
    {f : alpha -> Prog Ret (Except epsilon beta)} {mid : Except epsilon alpha -> Phase -> Prop}
    {post : Except epsilon beta -> Phase -> Prop} (hp : M.Follows p mid phase)
    (hok : forall a phase', mid (.ok a) phase' -> M.Follows (f a) post phase')
    (herror : forall e phase', mid (.error e) phase' -> post (.error e) phase') :
    M.Follows (Prog.bindOk p f) post phase := by
  apply follows_bind
  apply follows_mono hp
  intro r phase' hmid
  cases r with
  | ok a => exact hok a phase' hmid
  | error e => exact herror e phase' hmid

theorem follows_mapError {epsilon epsilon' : Type} {g : epsilon -> epsilon'}
    {p : Prog Ret (Except epsilon alpha)} {post : Except epsilon' alpha -> Phase -> Prop}
    (hp : M.Follows p (fun r phase' => post (r.mapError g) phase') phase) :
    M.Follows (Prog.mapError g p) post phase := by
  apply follows_bind
  apply follows_mono hp
  intro r phase' hpost
  cases r with
  | ok a => exact hpost
  | error e => exact hpost

/-! # Programs that stay in their phase -/

def Silent (M : Monitor Ret Phase) (p : Prog Ret alpha) : Prop :=
  forall phase, M.Follows p (fun _ phase' => phase' = phase) phase

theorem silent_pure (a : alpha) : M.Silent (.pure a : Prog Ret alpha) :=
  fun _ => rfl

theorem silent_op {o : Op} {next : Ret o -> Prog Ret alpha}
    (hpermits : forall phase, M.permits o phase)
    (hmoves : forall r phase phase', M.moves o r phase phase' -> phase' = phase)
    (hnext : forall r, M.Silent (next r)) : M.Silent (.op o next) := by
  intro phase
  refine ⟨hpermits phase, ?_⟩
  intro r phase' h
  rw [hmoves r phase phase' h]
  exact hnext r phase

theorem follows_silent_bind {p : Prog Ret alpha} {f : alpha -> Prog Ret beta}
    {post : beta -> Phase -> Prop} (hp : M.Silent p)
    (hf : forall a, M.Follows (f a) post phase) : M.Follows (p.bind f) post phase := by
  apply follows_bind
  apply follows_mono (hp phase)
  intro a phase' heq
  rw [heq]
  exact hf a

def Ignores (M : Monitor Ret Phase) (o : Op) : Prop :=
  (forall phase, M.permits o phase) ∧
    forall r phase phase', M.moves o r phase phase' -> phase' = phase

theorem silent_perform {o : Op} (h : M.Ignores o) : M.Silent (Prog.perform o) :=
  silent_op h.1 h.2 silent_pure

theorem silent_bind {p : Prog Ret alpha} {f : alpha -> Prog Ret beta} (hp : M.Silent p)
    (hf : forall a, M.Silent (f a)) : M.Silent (p.bind f) :=
  fun phase => follows_silent_bind hp fun a => hf a phase

theorem silent_bindOk {epsilon : Type} {p : Prog Ret (Except epsilon alpha)}
    {f : alpha -> Prog Ret (Except epsilon beta)} (hp : M.Silent p)
    (hf : forall a, M.Silent (f a)) : M.Silent (Prog.bindOk p f) := by
  apply silent_bind hp
  intro r
  cases r with
  | ok a => exact hf a
  | error e => exact silent_pure _

theorem silent_mapError {epsilon epsilon' : Type} {g : epsilon -> epsilon'}
    {p : Prog Ret (Except epsilon alpha)} (hp : M.Silent p) :
    M.Silent (Prog.mapError g p) := by
  apply silent_bind hp
  intro r
  cases r with
  | ok a => exact silent_pure _
  | error e => exact silent_pure _

/-! # Recorders -/

/-- The monitor whose phase is the list of what has been put out so far. -/
def recorder (succeeds : (o : Op) -> Ret o -> Prop) (puts : Op -> List E) :
    Monitor Ret (List E) where
  permits _ _ := True
  moves o r out out' := succeeds o r ∧ out' = out ++ puts o

variable {succeeds : (o : Op) -> Ret o -> Prop} {puts : Op -> List E} {out : List E}

theorem recorder_ignores {o : Op} (ho : puts o = []) : (recorder succeeds puts).Ignores o := by
  refine ⟨fun _ => trivial, ?_⟩
  intro r out out' h
  rw [h.2, ho, List.append_nil]

/-- Where every operation can succeed, what has been put out is the beginning of an outcome. -/
theorem follows_recorder_prefix {p : Prog Ret alpha} {post : alpha -> List E -> Prop}
    (h : (recorder succeeds puts).Follows p post out) (hsome : forall o, exists r, succeeds o r) :
    exists a rest, post a (out ++ rest) := by
  induction p generalizing out with
  | pure a =>
      refine ⟨a, [], ?_⟩
      rw [List.append_nil]
      exact h
  | op o next ih =>
      rcases hsome o with ⟨r, hr⟩
      rcases ih r (h.2 r _ ⟨hr, rfl⟩) with ⟨a, rest, hpost⟩
      refine ⟨a, puts o ++ rest, ?_⟩
      rw [← List.append_assoc]
      exact hpost

end Monitor

end Interleaving
