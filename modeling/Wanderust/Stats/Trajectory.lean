import Wanderust.Db.Schema

/-!
# The query of the trajectory

Which rows `trajectory_for_user` returns, and in which order.  A list with the
same rows in that order is the answer of the query.
-/

namespace Wanderust

variable {F : Type} {trips : Trips} {positions : Positions F} {username : String}
variable {fromTs toTs : Int}

namespace PositionRecord

/-- The order of the trajectory without ties: no two rows have one primary key. -/
def Before (a b : PositionRecord F) : Prop :=
  a.tripId < b.tripId ∨ (a.tripId = b.tripId ∧ a.ts < b.ts)

instance : Std.Asymm (Before (F := F)) where
  asymm a b hab hba := by
    unfold Before at hab hba
    omega

instance : Std.Irrefl (Before (F := F)) := Std.Asymm.irrefl

instance : Std.Antisymm (Before (F := F)) := Std.Asymm.antisymm _

def row (p : PositionRecord F) : PositionRow F :=
  { lat := p.lat, lon := p.lon, stopped := p.stopped }

theorem ofRow_eq_iff {key : Int × Int} {r : PositionRow F} {p : PositionRecord F} :
    ofRow key r = p <-> key = p.key ∧ r = p.row := by
  constructor
  · intro h
    rcases h with rfl
    exact ⟨rfl, rfl⟩
  · intro h
    rcases h with ⟨rfl, rfl⟩
    rfl

theorem before_of_le {a b : PositionRecord F} (hle : le a b = true) (hkey : a.key ≠ b.key) :
    Before a b := by
  simp only [le, decide_eq_true_eq] at hle
  rcases hle with hlt | ⟨htrip, hts⟩
  · exact Or.inl hlt
  · refine Or.inr ⟨htrip, lt_of_le_of_ne hts ?_⟩
    intro heq
    exact hkey (Prod.ext htrip heq)

theorem le_trans' (a b c : PositionRecord F) (hab : le a b = true) (hbc : le b c = true) :
    le a c = true := by
  simp only [le, decide_eq_true_eq] at *
  omega

theorem le_total' (a b : PositionRecord F) : (le a b || le b a) = true := by
  simp only [le, Bool.or_eq_true, decide_eq_true_eq]
  omega

end PositionRecord

open PositionRecord

def OwnedBy (trips : Trips) (username : String) (tripId : Int) : Prop :=
  exists trip, trips.lookup tripId = some trip ∧ trip.username = username

theorem inInterval_iff {key : Int × Int} :
    inInterval trips username fromTs toTs key = true <->
      OwnedBy trips username key.1 ∧ fromTs ≤ key.2 ∧ key.2 ≤ toTs := by
  cases h : trips.lookup key.1 with
  | none => simp [inInterval, OwnedBy, h]
  | some trip => simp [inInterval, OwnedBy, h, and_assoc]

theorem mem_selectTrajectory {p : PositionRecord F} :
    p ∈ selectTrajectory trips positions username fromTs toTs <->
      positions.lookup p.key = some p.row ∧ OwnedBy trips username p.tripId ∧
        fromTs ≤ p.ts ∧ p.ts ≤ toTs := by
  have hsource : p ∈ selectTrajectory trips positions username fromTs toTs <->
      exists e, e ∈ positions.entries ∧
        inInterval trips username fromTs toTs e.1 = true ∧ ofRow e.1 e.2 = p := by
    simp [selectTrajectory, and_assoc]
  rw [hsource]
  constructor
  · intro h
    rcases h with ⟨⟨key, r⟩, hmem, hin, hrow⟩
    rcases ofRow_eq_iff.mp hrow with ⟨rfl, rfl⟩
    exact ⟨Table.lookup_eq_some_iff.mpr hmem, inInterval_iff.mp hin⟩
  · intro h
    rcases h with ⟨hlookup, hin⟩
    exact ⟨⟨p.key, p.row⟩, Table.lookup_eq_some_iff.mp hlookup, inInterval_iff.mpr hin,
      ofRow_eq_iff.mpr ⟨rfl, rfl⟩⟩

/-- The primary keys of the rows differ, so the order of the answer is strict. -/
theorem selectTrajectory_sorted (trips : Trips) (positions : Positions F) (username : String)
    (fromTs toTs : Int) :
    (selectTrajectory trips positions username fromTs toTs).Pairwise Before := by
  have hkeys : (positions.entries.filter fun e =>
      inInterval trips username fromTs toTs e.1).Pairwise fun e e' => e.1 ≠ e'.1 :=
    (positions.nodupKeys.sublist List.filter_sublist).pairwise_ne
  have hrows : ((positions.entries.filter fun e => inInterval trips username fromTs toTs e.1).map
      fun e => ofRow e.1 e.2).Pairwise fun a b => a.key ≠ b.key :=
    List.pairwise_map.mpr hkeys
  have hdistinct : (selectTrajectory trips positions username fromTs toTs).Pairwise
      fun a b => a.key ≠ b.key :=
    (List.mergeSort_perm _ _).symm.pairwise hrows fun h => h.symm
  have hsorted : (selectTrajectory trips positions username fromTs toTs).Pairwise
      fun a b => le a b = true :=
    List.pairwise_mergeSort le_trans' le_total' _
  exact (hsorted.and hdistinct).imp fun h => before_of_le h.1 h.2

theorem selectTrajectory_eq {rows : List (PositionRecord F)} (hsorted : rows.Pairwise Before)
    (hmem : forall p, p ∈ rows <-> positions.lookup p.key = some p.row ∧
      OwnedBy trips username p.tripId ∧ fromTs ≤ p.ts ∧ p.ts ≤ toTs) :
    selectTrajectory trips positions username fromTs toTs = rows := by
  apply (selectTrajectory_sorted trips positions username fromTs toTs).eq_of_mem_iff hsorted
  intro p
  rw [mem_selectTrajectory, hmem]

end Wanderust
