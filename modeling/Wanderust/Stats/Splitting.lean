import Wanderust.Stats.PerTrip
import Wanderust.Windows.Splitting

/-!
# Statistics of a split interval

The rows of an interval that is split at a time are the rows of its two parts.
The statistics of the parts lack one window for each trip that has rows in both
of them: the window from its last row in the first part to its first row in the
second part.
-/

namespace Wanderust

open Windows PositionRecord

variable {F : Type} {trips : Trips} {positions : Positions F} {user : String}
variable {fromTs m toTs tripId : Int}

/-! # The rows of the parts -/

theorem selectTrajectory_early (h : m < toTs) :
    selectTrajectory trips positions user fromTs m =
      (selectTrajectory trips positions user fromTs toTs).filter fun p => decide (p.ts ≤ m) := by
  apply selectTrajectory_eq
  · exact (selectTrajectory_sorted trips positions user fromTs toTs).sublist List.filter_sublist
  · intro p
    rw [List.mem_filter, mem_selectTrajectory, decide_eq_true_eq]
    constructor
    · intro hmem
      rcases hmem with ⟨⟨hrow, howned, hfrom, _⟩, hm⟩
      exact ⟨hrow, howned, hfrom, hm⟩
    · intro hmem
      rcases hmem with ⟨hrow, howned, hfrom, hm⟩
      exact ⟨⟨hrow, howned, hfrom, le_trans hm (le_of_lt h)⟩, hm⟩

theorem selectTrajectory_late (h : fromTs ≤ m) :
    selectTrajectory trips positions user (m + 1) toTs =
      (selectTrajectory trips positions user fromTs toTs).filter fun p => !decide (p.ts ≤ m) := by
  apply selectTrajectory_eq
  · exact (selectTrajectory_sorted trips positions user fromTs toTs).sublist List.filter_sublist
  · intro p
    rw [List.mem_filter, mem_selectTrajectory, Bool.not_eq_true', decide_eq_false_iff_not, not_le]
    constructor
    · intro hmem
      rcases hmem with ⟨⟨hrow, howned, _, hto⟩, hm⟩
      exact ⟨hrow, howned, hm, hto⟩
    · intro hmem
      rcases hmem with ⟨hrow, howned, hm, hto⟩
      have hlt : m < p.ts := hm
      exact ⟨⟨hrow, howned, le_trans h (le_of_lt hlt), hto⟩, hlt⟩

theorem before_cut {points : List (PositionRecord F)} (h : points.Pairwise Before) (m : Int) :
    points.Pairwise fun a b =>
      a.tripId = b.tripId -> decide (b.ts ≤ m) = true -> decide (a.ts ≤ m) = true := by
  apply h.imp
  intro a b hab htrip hb
  rw [decide_eq_true_eq] at hb ⊢
  rcases hab with hlt | ⟨_, hts⟩
  · exact absurd htrip (ne_of_lt hlt)
  · exact le_trans (le_of_lt hts) hb

/-! # The window of a trip across the split -/

def TripRow (trips : Trips) (positions : Positions F) (user : String) (fromTs toTs tripId : Int)
    (p : PositionRecord F) : Prop :=
  p.tripId = tripId ∧ positions.lookup p.key = some p.row ∧ OwnedBy trips user tripId ∧
    fromTs ≤ p.ts ∧ p.ts ≤ toTs

def IsLast (trips : Trips) (positions : Positions F) (user : String) (fromTs toTs tripId : Int)
    (a : PositionRecord F) : Prop :=
  TripRow trips positions user fromTs toTs tripId a ∧
    forall p, TripRow trips positions user fromTs toTs tripId p -> p.ts ≤ a.ts

def IsFirst (trips : Trips) (positions : Positions F) (user : String) (fromTs toTs tripId : Int)
    (b : PositionRecord F) : Prop :=
  TripRow trips positions user fromTs toTs tripId b ∧
    forall p, TripRow trips positions user fromTs toTs tripId p -> b.ts ≤ p.ts

theorem mem_rowsOfTrip {p : PositionRecord F} :
    p ∈ rowsOfTrip tripId (selectTrajectory trips positions user fromTs toTs) <->
      TripRow trips positions user fromTs toTs tripId p := by
  unfold rowsOfTrip TripRow
  rw [mem_ofKey, mem_selectTrajectory]
  constructor
  · intro h
    rcases h with ⟨⟨hrow, howned, hts⟩, rfl⟩
    exact ⟨rfl, hrow, howned, hts⟩
  · intro h
    rcases h with ⟨rfl, hrow, howned, hts⟩
    exact ⟨⟨hrow, howned, hts⟩, rfl⟩

theorem mem_tripsOf :
    tripId ∈ tripsOf (selectTrajectory trips positions user fromTs toTs) <->
      exists p, TripRow trips positions user fromTs toTs tripId p := by
  unfold tripsOf
  rw [List.mem_toFinset, List.mem_map]
  constructor
  · intro h
    rcases h with ⟨p, hp, rfl⟩
    exact ⟨p, mem_rowsOfTrip.mp (mem_ofKey.mpr ⟨hp, rfl⟩)⟩
  · intro h
    rcases h with ⟨p, hp⟩
    rcases mem_ofKey.mp (mem_rowsOfTrip.mpr hp) with ⟨hmem, htrip⟩
    exact ⟨p, hmem, htrip⟩

theorem rowsOfTrip_sorted (trips : Trips) (positions : Positions F) (user : String)
    (fromTs toTs tripId : Int) :
    (rowsOfTrip tripId (selectTrajectory trips positions user fromTs toTs)).Pairwise
      fun a b => a.ts ≤ b.ts := by
  have hsorted := (selectTrajectory_sorted trips positions user fromTs toTs).sublist
    (rowsOfTrip_sublist tripId _)
  apply hsorted.imp_of_mem
  intro a b ha hb hab
  rcases hab with hlt | ⟨_, hts⟩
  · rw [trip_of_mem_rowsOfTrip ha, trip_of_mem_rowsOfTrip hb] at hlt
    exact absurd hlt (lt_irrefl _)
  · exact le_of_lt hts

theorem isLast_of_getLast {a : PositionRecord F}
    (h : (rowsOfTrip tripId (selectTrajectory trips positions user fromTs toTs)).getLast? =
      some a) : IsLast trips positions user fromTs toTs tripId a := by
  refine ⟨mem_rowsOfTrip.mp (List.mem_of_getLast? h), ?_⟩
  intro p hp
  have hsorted := rowsOfTrip_sorted trips positions user fromTs toTs tripId
  rcases List.getLast?_eq_some_iff.mp h with ⟨init, hinit⟩
  have hmem := mem_rowsOfTrip.mpr hp
  rw [hinit] at hsorted hmem
  rcases List.mem_append.mp hmem with hmem | hmem
  · exact (List.pairwise_append.mp hsorted).2.2 p hmem a (List.mem_singleton_self a)
  · rw [List.mem_singleton.mp hmem]

theorem isFirst_of_head {b : PositionRecord F}
    (h : (rowsOfTrip tripId (selectTrajectory trips positions user fromTs toTs)).head? =
      some b) : IsFirst trips positions user fromTs toTs tripId b := by
  refine ⟨mem_rowsOfTrip.mp (List.mem_of_head? h), ?_⟩
  intro p hp
  have hsorted := rowsOfTrip_sorted trips positions user fromTs toTs tripId
  rcases List.head?_eq_some_iff.mp h with ⟨rest, hrest⟩
  have hmem := mem_rowsOfTrip.mpr hp
  rw [hrest] at hsorted hmem
  rcases List.mem_cons.mp hmem with rfl | hmem
  · exact le_refl _
  · exact (List.pairwise_cons.mp hsorted).1 p hmem

/-! # The sum over the windows -/

def crossing (trips : Trips) (positions : Positions F) (user : String) (fromTs m toTs : Int) :
    Finset Int :=
  tripsOf (selectTrajectory trips positions user fromTs m) ∩
    tripsOf (selectTrajectory trips positions user (m + 1) toTs)

theorem mem_crossing {id : Int} :
    id ∈ crossing trips positions user fromTs m toTs <->
      (exists p, TripRow trips positions user fromTs m id p) ∧
        exists p, TripRow trips positions user (m + 1) toTs id p := by
  unfold crossing
  rw [Finset.mem_inter, mem_tripsOf, mem_tripsOf]

/-- The two ends of the window of each trip across the split. -/
structure Boundary (trips : Trips) (positions : Positions F) (user : String) (fromTs m toTs : Int)
    (last first : Int -> PositionRecord F) : Prop where
  last : forall id, id ∈ crossing trips positions user fromTs m toTs ->
    (rowsOfTrip id (selectTrajectory trips positions user fromTs m)).getLast? = some (last id)
  first : forall id, id ∈ crossing trips positions user fromTs m toTs ->
    (rowsOfTrip id (selectTrajectory trips positions user (m + 1) toTs)).head? = some (first id)

theorem exists_boundary [Zero F] (trips : Trips) (positions : Positions F) (user : String)
    (fromTs m toTs : Int) :
    exists last first, Boundary trips positions user fromTs m toTs last first := by
  have hnonempty : forall lo hi id,
      (exists p, TripRow trips positions user lo hi id p) ->
        rowsOfTrip id (selectTrajectory trips positions user lo hi) ≠ [] := by
    intro lo hi id h
    rcases h with ⟨p, hp⟩
    exact List.ne_nil_of_mem (mem_rowsOfTrip.mpr hp)
  let blank : PositionRecord F := { tripId := 0, ts := 0, lat := 0, lon := 0, stopped := false }
  refine ⟨fun id => ((rowsOfTrip id (selectTrajectory trips positions user fromTs m)).getLast?).getD
      blank,
    fun id => ((rowsOfTrip id (selectTrajectory trips positions user (m + 1) toTs)).head?).getD
      blank, ?_, ?_⟩
  · intro id hid
    rw [List.getLast?_eq_some_getLast (hnonempty _ _ id (mem_crossing.mp hid).1), Option.getD_some]
  · intro id hid
    rw [List.head?_eq_some_head (hnonempty _ _ id (mem_crossing.mp hid).2), Option.getD_some]

theorem windowSum_split {M : Type} [AddCommGroup M] {g : PositionRecord F -> PositionRecord F -> M}
    (hg : VanishesAcross PositionRecord.tripId g) (hfrom : fromTs ≤ m) (hto : m < toTs)
    {last first : Int -> PositionRecord F}
    (h : Boundary trips positions user fromTs m toTs last first) :
    windowSum g (selectTrajectory trips positions user fromTs toTs) =
      windowSum g (selectTrajectory trips positions user fromTs m) +
        windowSum g (selectTrajectory trips positions user (m + 1) toTs) +
        ∑ id ∈ crossing trips positions user fromTs m toTs, g (last id) (first id) := by
  have hsorted := selectTrajectory_sorted trips positions user fromTs toTs
  have hcut := windowSum_cut hg (tripIds_sorted hsorted) (before_cut hsorted m)
  rw [← selectTrajectory_early hto, ← selectTrajectory_late hfrom] at hcut
  rw [hcut]
  congr 1
  apply Finset.sum_congr rfl
  intro id hid
  have hlast := h.last id hid
  have hfirst := h.first id hid
  unfold rowsOfTrip at hlast hfirst
  rw [seam, hlast, hfirst]

theorem length_split (hfrom : fromTs ≤ m) (hto : m < toTs) :
    (selectTrajectory trips positions user fromTs toTs).length =
      (selectTrajectory trips positions user fromTs m).length +
        (selectTrajectory trips positions user (m + 1) toTs).length := by
  rw [selectTrajectory_early hto, selectTrajectory_late hfrom]
  exact List.length_eq_length_filter_add _

/-! # Wider intervals -/

section

variable [Zero F] {M : Type} [AddCommGroup M] [PartialOrder M] [IsOrderedAddMonoid M]
  {g : PositionRecord F -> PositionRecord F -> M}

/-- With weights that are not negative, neither part has more than the whole. -/
theorem windowSum_parts_le (hg : VanishesAcross PositionRecord.tripId g)
    (hnonneg : forall a b, 0 ≤ g a b) (hfrom : fromTs ≤ m) (hto : m < toTs) :
    windowSum g (selectTrajectory trips positions user fromTs m) ≤
        windowSum g (selectTrajectory trips positions user fromTs toTs) ∧
      windowSum g (selectTrajectory trips positions user (m + 1) toTs) ≤
        windowSum g (selectTrajectory trips positions user fromTs toTs) := by
  rcases exists_boundary trips positions user fromTs m toTs with ⟨last, first, hboundary⟩
  have hearly := windowSum_nonneg hnonneg (selectTrajectory trips positions user fromTs m)
  have hlate := windowSum_nonneg hnonneg (selectTrajectory trips positions user (m + 1) toTs)
  have hseams : 0 ≤ ∑ id ∈ crossing trips positions user fromTs m toTs, g (last id) (first id) :=
    Finset.sum_nonneg fun id _ => hnonneg _ _
  rw [windowSum_split hg hfrom hto hboundary]
  constructor
  · rw [add_assoc]
    exact le_add_of_nonneg_right (add_nonneg hlate hseams)
  · rw [add_right_comm]
    exact le_add_of_nonneg_left (add_nonneg hearly hseams)

theorem windowSum_mono (hg : VanishesAcross PositionRecord.tripId g)
    (hnonneg : forall a b, 0 ≤ g a b) {fromTs' toTs' : Int} (hfrom : fromTs' ≤ fromTs)
    (hto : toTs ≤ toTs') (hinterval : fromTs ≤ toTs) :
    windowSum g (selectTrajectory trips positions user fromTs toTs) ≤
      windowSum g (selectTrajectory trips positions user fromTs' toTs') := by
  calc windowSum g (selectTrajectory trips positions user fromTs toTs)
      ≤ windowSum g (selectTrajectory trips positions user fromTs toTs') := by
        rcases lt_or_eq_of_le hto with hlt | rfl
        · exact (windowSum_parts_le hg hnonneg hinterval hlt).1
        · exact le_refl _
    _ ≤ windowSum g (selectTrajectory trips positions user fromTs' toTs') := by
        rcases lt_or_eq_of_le hfrom with hlt | rfl
        · have hbelow : fromTs - 1 < toTs' := by omega
          have hlate :
              windowSum g (selectTrajectory trips positions user (fromTs - 1 + 1) toTs') ≤ _ :=
            (windowSum_parts_le hg hnonneg (Int.le_sub_one_of_lt hlt) hbelow).2
          rw [Int.sub_add_cancel] at hlate
          exact hlate
        · exact le_refl _

end

theorem selectTrajectory_sublist {fromTs' toTs' : Int} (hfrom : fromTs' ≤ fromTs)
    (hto : toTs ≤ toTs') :
    selectTrajectory trips positions user fromTs toTs =
      (selectTrajectory trips positions user fromTs' toTs').filter fun p =>
        decide (fromTs ≤ p.ts ∧ p.ts ≤ toTs) := by
  apply selectTrajectory_eq
  · exact (selectTrajectory_sorted trips positions user fromTs' toTs').sublist List.filter_sublist
  · intro p
    rw [List.mem_filter, mem_selectTrajectory, decide_eq_true_eq]
    constructor
    · intro h
      rcases h with ⟨⟨hrow, howned, _⟩, hts⟩
      exact ⟨hrow, howned, hts⟩
    · intro h
      rcases h with ⟨hrow, howned, hts⟩
      exact ⟨⟨hrow, howned, le_trans hfrom hts.1, le_trans hts.2 hto⟩, hts⟩

end Wanderust
