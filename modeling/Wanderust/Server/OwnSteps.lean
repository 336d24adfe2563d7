import Wanderust.Interleaving.Traces
import Wanderust.Server.Auth
import Wanderust.Server.World

/-!
# The own steps of a program of the server

The traces of single operations and single statements, and the steps that the
other connections take meanwhile.
-/

namespace Wanderust

open Interleaving Prog

variable {F : Type}

abbrev OwnStep (F : Type) := Performed (Op F) Choice (State F)

def Label.ofOther (c : ConnId) : Label F -> Bool
  | .accept c' => c' != c
  | .receive c' _ => c' != c
  | .step c' _ => c' != c
  | .restart => false

@[simp] theorem ofOther_accept {c c' : ConnId} :
    (Label.accept c' : Label F).ofOther c = true <-> c ≠ c' := by
  rw [Label.ofOther, bne_iff_ne]
  exact ne_comm

@[simp] theorem ofOther_receive {c c' : ConnId} {item : Incoming F} :
    (Label.receive c' item).ofOther c = true <-> c ≠ c' := by
  rw [Label.ofOther, bne_iff_ne]
  exact ne_comm

@[simp] theorem ofOther_step {c c' : ConnId} {ch : Choice} :
    (Label.step c' ch : Label F).ofOther c = true <-> c ≠ c' := by
  rw [Label.ofOther, bne_iff_ne]
  exact ne_comm

variable [Geo F] [Bcrypt] {env : State F -> State F -> Prop} {c : ConnId}
variable {s s' : State F} {trace : List (OwnStep F)}

theorem traced_act {o : Op F} (ho : o ≠ .drawFreshToken) {r : o.Ret} :
    Traced exec env c (act o) s trace r s' <->
      exists ch s1, env s s1 ∧ exec c ch o s1 = .done r s' ∧
        trace = [{ op := o, choice := ch, before := s1, after := s' }] := by
  rw [act, perform, traced_op_iff (fun ch s1 s2 => exec_not_again ho)]
  constructor
  · intro h
    rcases h with ⟨ch, r', s1, s2, rest, henv, hexec, rfl, hpure⟩
    rcases traced_pure_iff.mp hpure with ⟨rfl, rfl, rfl⟩
    exact ⟨ch, s1, henv, hexec, rfl⟩
  · intro h
    rcases h with ⟨ch, s1, henv, hexec, rfl⟩
    exact ⟨ch, r, s1, s', [], henv, hexec, rfl, Traced.pure r s'⟩

theorem traced_sql {alpha : Type} {p : Program F (Except SqlError alpha)}
    {r : Except String alpha} :
    Traced exec env c (sql p) s trace r s' <->
      exists r', r = r'.mapError SqlError.text ∧ Traced exec env c p s trace r' s' :=
  traced_mapError

/-! # Serving one item -/

/--
A connection serves what it has received while the others go on, and its own
steps are kept.  Nothing is received on it and the server is not restarted.
-/
inductive ServesItem (cond : World F -> Label F -> Prop) (c : ConnId) (w : World F) :
    List (OwnStep F) -> World F -> Prop where
  | start : ServesItem cond c w [] w
  | other {trace : List (OwnStep F)} {w1 w2 : World F} (l : Label F) :
      ServesItem cond c w trace w1 -> l.ofOther c = true -> cond w1 l -> w1.next l = some w2 ->
      ServesItem cond c w trace w2
  | own {trace : List (OwnStep F)} {w1 w2 : World F} (ch : Choice) (o : Op F) :
      ServesItem cond c w trace w1 -> (w1.tasks c).nextOp = some o -> cond w1 (.step c ch) ->
      w1.next (.step c ch) = some w2 ->
      ServesItem cond c w
        (trace ++ [{ op := o, choice := ch, before := w1.state, after := w2.state }]) w2

variable {cond : World F -> Label F -> Prop} {w w1 w' : World F}

theorem servesItem_of_run {check : World F -> Label F -> Bool} {labels : List (Label F)}
    (hcheck : forall w l, check w l = true -> cond w l)
    (hlabels : forall l, l ∈ labels -> l.ofOther c = true ∨ exists ch, l = .step c ch)
    (h : ServesItem cond c w trace w1)
    (hrun : Interleaving.run World.next check w1 labels = some w') :
    exists trace', ServesItem cond c w trace' w' := by
  induction labels generalizing w1 trace with
  | nil =>
      cases hrun
      exact ⟨trace, h⟩
  | cons l rest ih =>
      simp only [Interleaving.run] at hrun
      split at hrun
      case isFalse => cases hrun
      case isTrue hl =>
        cases hnext : w1.next l with
        | none =>
            rw [hnext] at hrun
            cases hrun
        | some w2 =>
            rw [hnext] at hrun
            have hrest := fun l' hl' => hlabels l' (List.mem_cons_of_mem _ hl')
            rcases hlabels l List.mem_cons_self with hother | ⟨ch, rfl⟩
            · exact ih hrest (ServesItem.other l h hother (hcheck _ _ hl) hnext) hrun
            · rcases executes_of_next hnext with ⟨o, ho, _⟩
              exact ih hrest (ServesItem.own ch o h ho (hcheck _ _ hl) hnext) hrun

end Wanderust
