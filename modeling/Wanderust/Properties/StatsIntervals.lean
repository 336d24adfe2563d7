import Wanderust.Client.StatsInterval

/-!
# The intervals of the statistics tile the time

The intervals of one kind are the fibres of a key, so the results about such
intervals hold of what the client computes: the interval contains its time, two
intervals are equal or disjoint, and the next one begins with the next second.
-/

namespace Wanderust

open Calendar Intervals

variable {now t : Int}

/-- The year of the time has a year before and a year after it in the source. -/
def InnerYear (t : Int) : Prop :=
  -(2 ^ 31) < (civilDate t).year ∧ (civilDate t).year < 2 ^ 31 - 1

theorem InnerYear.covered (h : InnerYear t) : Covered t := by
  unfold InnerYear at h
  unfold Covered InI32
  omega

theorem covered_of_range (hlow : (Date.first (-(2 ^ 31)) 1).dayNumber ≤ t / secsPerDay)
    (hhigh : t / secsPerDay < (Date.first (2 ^ 31 - 1) 2).dayNumber) : Covered t := by
  have hvalid := civilDate_valid t
  rw [← dayNumber_civilDate] at hlow hhigh
  rw [← not_lt, Date.dayNumber_lt_iff hvalid (Date.first_valid (by decide))] at hlow
  rw [Date.dayNumber_lt_iff hvalid (Date.first_valid (by decide))] at hhigh
  have hmonth := hvalid.month
  have hday := hvalid.day
  unfold Date.Before at hlow hhigh
  dsimp only [Date.first] at hlow hhigh
  unfold Covered InI32
  omega

/-! # The next interval -/

theorem InnerYear.days_range (h : InnerYear now) :
    (Date.first (-(2 ^ 31)) 1).dayNumber ≤ now / secsPerDay ∧
      now / secsPerDay < (Date.first (2 ^ 31 - 1) 1).dayNumber := by
  have hvalid := civilDate_valid now
  rw [← dayNumber_civilDate, ← not_lt,
    Date.dayNumber_lt_iff hvalid (Date.first_valid (by decide)),
    Date.dayNumber_lt_iff hvalid (Date.first_valid (by decide))]
  unfold InnerYear at h
  unfold Date.Before
  dsimp only [Date.first]
  omega

theorem InnerYear.firstOfNext_le (h : InnerYear now) :
    (Date.firstOfNext (civilDate now).year (civilDate now).month).dayNumber ≤
      (Date.first (2 ^ 31 - 1) 1).dayNumber := by
  have hmonth := (civilDate_valid now).month
  rw [← not_lt, Date.dayNumber_lt_iff (Date.first_valid (by decide))
    (Date.firstOfNext_valid hmonth)]
  unfold InnerYear at h
  unfold Date.Before Date.firstOfNext
  split
  · dsimp only [Date.first]
    omega
  · dsimp only [Date.first]
    omega

theorem InnerYear.next_covered (h : InnerYear now) (p : Period) : Covered (p.last now + 1) := by
  have hcontains := p.fibres.contains now
  have hdays := h.days_range
  have hmonth := h.firstOfNext_le
  have hlength : (Date.first (2 ^ 31 - 1) 1).dayNumber + 31 =
      (Date.first (2 ^ 31 - 1) 2).dayNumber := by decide
  have hnext : (p.last now + 1) / secsPerDay = p.nextStartDay now := by
    unfold Period.last secsPerDay
    omega
  have hbound : p.nextStartDay now ≤ (Date.first (2 ^ 31 - 1) 1).dayNumber + 7 := by
    cases p with
    | day =>
        show now / secsPerDay + 1 ≤ _
        omega
    | week =>
        show now / secsPerDay - (now / secsPerDay + 3) % 7 + 7 ≤ _
        omega
    | month =>
        show (Date.firstOfNext (civilDate now).year (civilDate now).month).dayNumber ≤ _
        omega
  apply covered_of_range
  · have hlater : now / secsPerDay ≤ (p.last now + 1) / secsPerDay := by
      unfold secsPerDay
      omega
    omega
  · omega

/-! # The length and the days of each kind -/

/-- The time has the year and the month of `now` for the client. -/
def SameMonth (now t : Int) : Prop :=
  exists year month day day', civilFromDays (now / secsPerDay) = some (year, month, day) ∧
    civilFromDays (t / secsPerDay) = some (year, month, day')

def Period.Extent (now first last : Int) : Period -> Prop
  | .day => secsPerDay ∣ first ∧ last + 1 - first = secsPerDay
  | .week => secsPerDay ∣ first ∧ Date.IsMonday (first / secsPerDay) ∧
      last + 1 - first = 7 * secsPerDay
  | .month => forall t,
      ((first ≤ t ∧ t ≤ last) <->
        (civilDate t).year = (civilDate now).year ∧
          (civilDate t).month = (civilDate now).month) ∧
      (InI32 (civilDate t).year -> ((first ≤ t ∧ t ≤ last) <-> SameMonth now t))

theorem civilFromDays_civilDate (hyear : InI32 (civilDate t).year) :
    civilFromDays (t / secsPerDay) =
      some ((civilDate t).year, (civilDate t).month, (civilDate t).day) := by
  rw [← dayNumber_civilDate]
  exact civilFromDays_date (civilDate_valid t) hyear

theorem sameMonth_iff (hnow : InI32 (civilDate now).year) (ht : InI32 (civilDate t).year) :
    SameMonth now t <->
      (civilDate t).year = (civilDate now).year ∧
        (civilDate t).month = (civilDate now).month := by
  unfold SameMonth
  rw [civilFromDays_civilDate hnow, civilFromDays_civilDate ht]
  constructor
  · intro h
    rcases h with ⟨year, month, day, day', hsame, hsame'⟩
    rw [Option.some.injEq, Prod.mk.injEq, Prod.mk.injEq] at hsame hsame'
    exact ⟨hsame'.1.trans hsame.1.symm, hsame'.2.1.trans hsame.2.1.symm⟩
  · intro h
    rcases h with ⟨hyear, hmonth⟩
    exact ⟨_, _, _, _, rfl, by rw [hyear, hmonth]⟩

theorem Period.extent (h : Covered now) (p : Period) :
    p.Extent now (p.start now) (p.last now) := by
  cases p with
  | day =>
      constructor
      · exact Int.dvd_mul_left _ _
      · show (now / secsPerDay + 1) * secsPerDay - 1 + 1 - now / secsPerDay * secsPerDay = _
        unfold secsPerDay
        omega
  | week =>
      refine ⟨Int.dvd_mul_left _ _, ?_, ?_⟩
      · show ((now / secsPerDay - (now / secsPerDay + 3) % 7) * secsPerDay / secsPerDay + 3) % 7 = 0
        unfold secsPerDay
        omega
      · show (now / secsPerDay - (now / secsPerDay + 3) % 7 + 7) * secsPerDay - 1 + 1 -
          (now / secsPerDay - (now / secsPerDay + 3) % 7) * secsPerDay = _
        unfold secsPerDay
        omega
  | month =>
      intro t
      have hmonth : (Period.month.start now ≤ t ∧ t ≤ Period.month.last now) <->
          (civilDate t).year = (civilDate now).year ∧
            (civilDate t).month = (civilDate now).month :=
        (Period.month.fibres now t).trans monthKey_eq_iff
      exact ⟨hmonth, fun hyear => hmonth.trans (sameMonth_iff h.1 hyear).symm⟩

/-! # The intervals of the client -/

theorem Period.equal_or_disjoint (p : Period) (now t : Int) :
    ((p.start t, p.last t) = (p.start now, p.last now) <->
      (p.start now ≤ t ∧ t ≤ p.last now) ∧ p.start t ≤ now ∧ now ≤ p.last t) ∧
    ((p.start t, p.last t) ≠ (p.start now, p.last now) ->
      forall x, ¬ ((p.start now ≤ x ∧ x ≤ p.last now) ∧ p.start t ≤ x ∧ x ≤ p.last t)) := by
  rw [ne_eq, Prod.mk.injEq]
  exact ⟨p.fibres.eq_iff_mem, fun hne x => p.fibres.disjoint hne⟩

theorem stats_intervals_tile (p : Period) (now : Int) (hyear : InnerYear now) :
    exists first last, statsInterval now p.kind = some (some (first, last, p.label)) ∧
      (first ≤ now ∧ now ≤ last) ∧
      (forall t, InnerYear t ->
        exists first' last', statsInterval t p.kind = some (some (first', last', p.label)) ∧
          ((first', last') = (first, last) <->
            (first ≤ t ∧ t ≤ last) ∧ first' ≤ now ∧ now ≤ last') ∧
          ((first', last') ≠ (first, last) ->
            forall x, ¬ ((first ≤ x ∧ x ≤ last) ∧ first' ≤ x ∧ x ≤ last'))) ∧
      (exists last', statsInterval (last + 1) p.kind = some (some (last + 1, last', p.label))) ∧
      p.Extent now first last := by
  refine ⟨p.start now, p.last now, statsInterval_eq hyear.covered p,
    p.fibres.contains now, ?_, ?_, p.extent hyear.covered⟩
  · intro t ht
    exact ⟨p.start t, p.last t, statsInterval_eq ht.covered p, p.equal_or_disjoint now t⟩
  · have hnext := statsInterval_eq (hyear.next_covered p) p
    rw [p.fibres.lo_succ_hi now] at hnext
    exact ⟨p.last (p.last now + 1), hnext⟩

theorem stats_intervals_tile_leap_day :
    InnerYear 951825600 ∧
      exists first last,
        statsInterval 951825600 "month" = some (some (first, last, "current month")) ∧
          (first ≤ 951825600 ∧ 951825600 ≤ last) ∧
          Period.month.Extent 951825600 first last := by
  have hvalid : Date.Valid { year := 2000, month := 2, day := 29 } := ⟨by decide, by decide⟩
  have hdate : civilDate 951825600 = { year := 2000, month := 2, day := 29 } :=
    Date.ofDayNumber_dayNumber hvalid
  have hyear : InnerYear 951825600 := by
    unfold InnerYear
    rw [hdate]
    decide
  rcases stats_intervals_tile .month 951825600 hyear with
    ⟨first, last, hresult, hcontains, _, _, hextent⟩
  exact ⟨hyear, first, last, hresult, hcontains, hextent⟩

end Wanderust
