import Mathlib.Data.List.Basic
import Mathlib.Data.List.Chain

/-!
# Standstills

A list is split into maximal runs of items that are near the first item of
their run.  The first item of a run is its anchor; it stays the anchor as long
as the items are near it, however far they drift from one another.
-/

namespace Windows

variable {A : Type}

structure Standstill (A : Type) where
  anchor : A
  followers : List A

def Standstill.items (r : Standstill A) : List A := r.anchor :: r.followers

/-- The runs of a list, when the current run has the given anchor and followers so far. -/
def standstillsFrom (near : A -> A -> Bool) (anchor : A) (followers : List A) :
    List A -> List (Standstill A)
  | [] => [{ anchor, followers }]
  | p :: rest =>
      if near anchor p then standstillsFrom near anchor (followers ++ [p]) rest
      else { anchor, followers } :: standstillsFrom near p [] rest

def standstills (near : A -> A -> Bool) (first : A) (rest : List A) : List (Standstill A) :=
  standstillsFrom near first [] rest

variable {near : A -> A -> Bool}

theorem standstillsFrom_ne_nil (anchor : A) (followers items : List A) :
    standstillsFrom near anchor followers items ≠ [] := by
  induction items generalizing anchor followers with
  | nil => exact List.cons_ne_nil _ _
  | cons p rest ih =>
      unfold standstillsFrom
      split
      · exact ih anchor (followers ++ [p])
      · exact List.cons_ne_nil _ _

/-! # What the runs are -/

theorem flatMap_standstillsFrom (anchor : A) (followers items : List A) :
    (standstillsFrom near anchor followers items).flatMap Standstill.items =
      anchor :: followers ++ items := by
  induction items generalizing anchor followers with
  | nil => simp [standstillsFrom, Standstill.items]
  | cons p rest ih =>
      unfold standstillsFrom
      split
      · rw [ih]
        simp
      · rw [List.flatMap_cons, ih]
        simp [Standstill.items]

theorem flatMap_standstills (first : A) (rest : List A) :
    (standstills near first rest).flatMap Standstill.items = first :: rest :=
  flatMap_standstillsFrom first [] rest

theorem near_of_mem_standstillsFrom {anchor : A} {followers items : List A}
    (hfollowers : forall p, p ∈ followers -> near anchor p = true) {r : Standstill A}
    (hr : r ∈ standstillsFrom near anchor followers items) :
    forall p, p ∈ r.followers -> near r.anchor p = true := by
  induction items generalizing anchor followers with
  | nil =>
      rw [standstillsFrom, List.mem_singleton] at hr
      rw [hr]
      exact hfollowers
  | cons q rest ih =>
      unfold standstillsFrom at hr
      split at hr
      case isTrue hnear =>
        apply ih _ hr
        intro p hp
        rcases List.mem_append.mp hp with hp | hp
        · exact hfollowers p hp
        · rw [List.mem_singleton.mp hp]
          exact hnear
      case isFalse =>
        rcases List.mem_cons.mp hr with rfl | hr
        · exact hfollowers
        · apply ih _ hr
          intro p hp
          cases hp

theorem near_of_mem_standstills {first : A} {rest : List A} {r : Standstill A}
    (hr : r ∈ standstills near first rest) :
    forall p, p ∈ r.followers -> near r.anchor p = true := by
  apply near_of_mem_standstillsFrom _ hr
  intro p hp
  cases hp

/-- A run ends only where the next item is away from its anchor. -/
def Away (near : A -> A -> Bool) (r r' : Standstill A) : Prop := near r.anchor r'.anchor = false

theorem standstillsFrom_head (anchor : A) (followers items : List A) :
    exists followers' runs,
      standstillsFrom near anchor followers items =
        { anchor, followers := followers' } :: runs := by
  induction items generalizing followers with
  | nil => exact ⟨followers, [], rfl⟩
  | cons p rest ih =>
      unfold standstillsFrom
      split
      · exact ih (followers ++ [p])
      · exact ⟨followers, _, rfl⟩

theorem standstillsFrom_away (anchor : A) (followers items : List A) :
    List.IsChain (Away near) (standstillsFrom near anchor followers items) := by
  induction items generalizing anchor followers with
  | nil => exact List.isChain_singleton _
  | cons p rest ih =>
      unfold standstillsFrom
      split
      · exact ih anchor (followers ++ [p])
      case isFalse hnear =>
        rcases @standstillsFrom_head _ near p [] rest with ⟨followers', runs, hruns⟩
        have hrest := ih p []
        rw [hruns] at hrest ⊢
        exact List.isChain_cons_cons.mpr ⟨Bool.eq_false_iff.mpr hnear, hrest⟩

theorem standstills_away (first : A) (rest : List A) :
    List.IsChain (Away near) (standstills near first rest) :=
  standstillsFrom_away first [] rest

end Windows
