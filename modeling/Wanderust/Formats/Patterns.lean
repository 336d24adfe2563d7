import Mathlib.Data.List.Basic

/-!
# Patterns

Regular expressions with groups, matched by backtracking: a pattern yields all
its matches at the head of a text in the order in which they are tried, and the
first one counts.  The rules say what the first match is.
-/

namespace Formats

/-- `plus` and `opt` take as much as they can. -/
inductive Pattern where
  | empty
  | one (p : Char -> Bool)
  | plus (p : Char -> Bool)
  | seq (a b : Pattern)
  | opt (a : Pattern)
  | group (a : Pattern)

/-- What the groups have taken, or nothing for those of a part that is left out. -/
abbrev Captures := List (Option (List Char))

/-- What is left behind one or more characters of a class, the shortest rest first. -/
@[simp] def spans (p : Char -> Bool) : List Char -> List (List Char)
  | [] => []
  | c :: cs => if p c then spans p cs ++ [cs] else []

namespace Pattern

def lit (cs : List Char) : Pattern := cs.foldr (fun c rest => seq (one (· == c)) rest) empty

def seqs (as : List Pattern) : Pattern := as.foldr seq empty

@[simp] def groups : Pattern -> Nat
  | empty => 0
  | one _ => 0
  | plus _ => 0
  | seq a b => a.groups + b.groups
  | opt a => a.groups
  | group a => a.groups + 1

/-- The matches at the head of a text, each with the rest behind it. -/
@[simp] def results : Pattern -> List Char -> List (Captures × List Char)
  | empty, cs => [([], cs)]
  | one _, [] => []
  | one p, c :: cs => if p c then [([], cs)] else []
  | plus p, cs => (spans p cs).map fun rest => ([], rest)
  | seq a b, cs => (a.results cs).flatMap fun m =>
      (b.results m.2).map fun m' => (m.1 ++ m'.1, m'.2)
  | opt a, cs => a.results cs ++ [(List.replicate a.groups none, cs)]
  | group a, cs => (a.results cs).map fun m =>
      (some (cs.take (cs.length - m.2.length)) :: m.1, m.2)

def first (a : Pattern) (cs : List Char) : Option (Captures × List Char) := (a.results cs).head?

/-! # Rules -/

variable {a b : Pattern} {p : Char -> Bool} {c : Char} {cs rest rest' taken : List Char}
  {caps caps' : Captures}

theorem first_empty (cs : List Char) : empty.first cs = some ([], cs) := rfl

theorem first_one (h : p c = true) (cs : List Char) : (one p).first (c :: cs) = some ([], cs) := by
  rw [first, results, if_pos h]
  rfl

theorem spans_fails (h : forall c, cs.head? = some c -> p c = false) : spans p cs = [] := by
  cases cs with
  | nil => rfl
  | cons c cs =>
      rw [spans, if_neg]
      rw [h c rfl]
      exact Bool.false_ne_true

theorem first_plus (taken : List Char) (htaken : forall c, c ∈ taken -> p c = true)
    (hne : taken ≠ []) (hrest : forall c, rest.head? = some c -> p c = false) :
    (plus p).first (taken ++ rest) = some ([], rest) := by
  have hspans : (spans p (taken ++ rest)).head? = some rest := by
    induction taken with
    | nil => exact absurd rfl hne
    | cons c taken ih =>
        rw [List.cons_append, spans, if_pos (htaken c List.mem_cons_self)]
        cases taken with
        | nil =>
            rw [List.nil_append, spans_fails hrest]
            rfl
        | cons c' taken =>
            have hlonger := ih (fun d hd => htaken d (List.mem_cons_of_mem c hd))
              (List.cons_ne_nil c' taken)
            rw [List.head?_append, hlonger]
            rfl
  rw [first, results, List.head?_map, hspans]
  rfl

theorem results_eq_cons {m : Captures × List Char} (h : a.first cs = some m) :
    exists more, a.results cs = m :: more := by
  rw [first, List.head?_eq_some_iff] at h
  exact h

theorem first_seq (ha : a.first cs = some (caps, rest)) (hb : b.first rest = some (caps', rest')) :
    (seq a b).first cs = some (caps ++ caps', rest') := by
  rcases results_eq_cons ha with ⟨more, hmore⟩
  rcases results_eq_cons hb with ⟨more', hmore'⟩
  rw [first, results, hmore, List.flatMap_cons, hmore']
  rfl

theorem first_seqs_nil (cs : List Char) : (seqs []).first cs = some ([], cs) := rfl

theorem first_seqs {as : List Pattern} (ha : a.first cs = some (caps, rest))
    (has : (seqs as).first rest = some (caps', rest')) :
    (seqs (a :: as)).first cs = some (caps ++ caps', rest') := first_seq ha has

theorem first_opt (h : a.first cs = some (caps, rest)) : (opt a).first cs = some (caps, rest) := by
  rcases results_eq_cons h with ⟨more, hmore⟩
  rw [first, results, hmore]
  rfl

theorem first_opt_skip (h : a.results cs = []) :
    (opt a).first cs = some (List.replicate a.groups none, cs) := by
  rw [first, results, h]
  rfl

theorem first_group (h : a.first (taken ++ rest) = some (caps, rest)) :
    (group a).first (taken ++ rest) = some (some taken :: caps, rest) := by
  rw [first] at h
  rw [first, results, List.head?_map, h]
  show some (some ((taken ++ rest).take ((taken ++ rest).length - rest.length)) :: caps, rest) = _
  rw [List.length_append, Nat.add_sub_cancel_right, List.take_left]

theorem first_lit (taken rest : List Char) :
    (lit taken).first (taken ++ rest) = some ([], rest) := by
  induction taken with
  | nil => rfl
  | cons c taken ih => exact first_seq (first_one (beq_self_eq_true c) _) ih

end Pattern

end Formats
