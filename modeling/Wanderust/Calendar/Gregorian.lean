import Mathlib.Algebra.Order.Ring.Int

/-!
# The proleptic Gregorian calendar

Dates, the date of the next day, and the number of a day.  Every day number is
the number of exactly one valid date, and the numbers follow the order of the
dates.
-/

namespace Calendar

structure Date where
  year : Int
  month : Int
  day : Int
deriving DecidableEq

def IsLeap (year : Int) : Prop := year % 4 = 0 ∧ (year % 100 ≠ 0 ∨ year % 400 = 0)

instance (year : Int) : Decidable (IsLeap year) :=
  inferInstanceAs (Decidable (_ ∧ _))

def monthLength (year month : Int) : Int :=
  if month = 2 then (if IsLeap year then 29 else 28)
  else if month = 4 ∨ month = 6 ∨ month = 9 ∨ month = 11 then 30
  else 31

namespace Date

structure Valid (d : Date) : Prop where
  month : 1 ≤ d.month ∧ d.month ≤ 12
  day : 1 ≤ d.day ∧ d.day ≤ monthLength d.year d.month

instance (d : Date) : Decidable d.Valid :=
  decidable_of_iff ((1 ≤ d.month ∧ d.month ≤ 12) ∧ 1 ≤ d.day ∧ d.day ≤ monthLength d.year d.month)
    ⟨fun h => ⟨h.1, h.2⟩, fun h => ⟨h.month, h.day⟩⟩

/-- The order of the calendar: by year, then by month, then by day. -/
def Before (d d' : Date) : Prop :=
  d.year < d'.year ∨ (d.year = d'.year ∧
    (d.month < d'.month ∨ (d.month = d'.month ∧ d.day < d'.day)))

instance (d d' : Date) : Decidable (d.Before d') := inferInstanceAs (Decidable (_ ∨ _))

def next (d : Date) : Date :=
  if d.day < monthLength d.year d.month then { d with day := d.day + 1 }
  else if d.month < 12 then { d with month := d.month + 1, day := 1 }
  else { year := d.year + 1, month := 1, day := 1 }

end Date

/-! # Day numbers -/

/-- The days before the year, counted from the year 1. -/
def daysBeforeYear (year : Int) : Int :=
  365 * (year - 1) + (year - 1) / 4 - (year - 1) / 100 + (year - 1) / 400

/-- The days of the year before the month. -/
def daysBeforeMonth (year month : Int) : Int :=
  (367 * month - 362) / 12 +
    if month ≤ 2 then 0 else if IsLeap year then -1 else -2

/-- The number of days since 1970-01-01, negative before it. -/
def Date.dayNumber (d : Date) : Int :=
  daysBeforeYear d.year + daysBeforeMonth d.year d.month + (d.day - 1) - 719162

theorem month_cases {m : Int} (h : 1 ≤ m ∧ m ≤ 12) :
    m = 1 ∨ m = 2 ∨ m = 3 ∨ m = 4 ∨ m = 5 ∨ m = 6 ∨ m = 7 ∨ m = 8 ∨ m = 9 ∨ m = 10 ∨
      m = 11 ∨ m = 12 := by
  omega

theorem monthLength_range (year month : Int) :
    28 ≤ monthLength year month ∧ monthLength year month ≤ 31 := by
  unfold monthLength
  repeat' split
  all_goals omega

theorem daysBeforeMonth_next {year month : Int} (h : 1 ≤ month ∧ month < 12) :
    daysBeforeMonth year (month + 1) =
      daysBeforeMonth year month + monthLength year month := by
  have hm := month_cases ⟨h.1, le_of_lt h.2⟩
  unfold daysBeforeMonth monthLength
  by_cases hleap : IsLeap year
  · simp only [hleap, if_true]
    omega
  · simp only [hleap, if_false]
    omega

theorem daysBeforeYear_next (year : Int) :
    daysBeforeYear (year + 1) =
      daysBeforeYear year + daysBeforeMonth year 12 + monthLength year 12 := by
  have hlast : daysBeforeMonth year 12 + monthLength year 12 =
      if IsLeap year then 366 else 365 := by
    unfold daysBeforeMonth monthLength
    by_cases hleap : IsLeap year
    · simp only [hleap, if_true]
      omega
    · simp only [hleap, if_false]
      omega
  rw [add_assoc, hlast]
  unfold daysBeforeYear
  split
  case isTrue hleap =>
    unfold IsLeap at hleap
    omega
  case isFalse hleap =>
    unfold IsLeap at hleap
    omega

theorem daysBeforeYear_mono {year year' : Int} (h : year ≤ year') :
    daysBeforeYear year ≤ daysBeforeYear year' := by
  unfold daysBeforeYear
  omega

theorem daysBeforeMonth_mono {year month month' : Int} (h : 1 ≤ month) (h' : month' ≤ 12)
    (hlt : month < month') :
    daysBeforeMonth year month + monthLength year month ≤ daysBeforeMonth year month' := by
  have hrange : 1 ≤ month ∧ month ≤ 12 := by omega
  have hm := month_cases hrange
  unfold daysBeforeMonth monthLength
  by_cases hleap : IsLeap year
  · simp only [hleap, if_true]
    omega
  · simp only [hleap, if_false]
    omega

@[simp] theorem daysBeforeMonth_one (year : Int) : daysBeforeMonth year 1 = 0 := by
  unfold daysBeforeMonth
  omega

namespace Date

variable {d d' : Date}

theorem next_valid (h : d.Valid) : d.next.Valid := by
  rcases h with ⟨hmonth, hday⟩
  have hrange := monthLength_range
  unfold next
  split
  · exact ⟨hmonth, by dsimp only; omega⟩
  · split
    · have := hrange d.year (d.month + 1)
      exact ⟨by dsimp only; omega, by dsimp only; omega⟩
    · have := hrange (d.year + 1) 1
      exact ⟨by dsimp only; omega, by dsimp only; omega⟩

theorem dayNumber_next (h : d.Valid) : d.next.dayNumber = d.dayNumber + 1 := by
  rcases h with ⟨hmonth, hday⟩
  unfold next
  split
  · simp only [dayNumber]
    omega
  · split
    case isTrue hlast hm =>
      simp only [dayNumber]
      rw [daysBeforeMonth_next ⟨hmonth.1, hm⟩]
      omega
    case isFalse hlast hm =>
      have hdecember : d.month = 12 := by omega
      simp only [dayNumber]
      rw [daysBeforeYear_next, daysBeforeMonth_one]
      rw [hdecember] at hlast hday ⊢
      omega

theorem exists_previous (h : d.Valid) : exists e : Date, e.Valid ∧ e.next = d := by
  rcases d with ⟨year, month, day⟩
  rcases h with ⟨hmonth, hday⟩
  dsimp only at hmonth hday
  have hrange := monthLength_range
  by_cases hfirst : 1 < day
  · refine ⟨⟨year, month, day - 1⟩, ⟨hmonth, by dsimp only; omega⟩, ?_⟩
    have hlt : day - 1 < monthLength year month := by omega
    simp only [next, hlt, if_true, sub_add_cancel]
  · have hone : day = 1 := by omega
    subst hone
    by_cases hjanuary : 1 < month
    · have := hrange year (month - 1)
      refine ⟨⟨year, month - 1, monthLength year (month - 1)⟩,
        ⟨by dsimp only; omega, by dsimp only; omega⟩, ?_⟩
      have hlt : month - 1 < 12 := by omega
      simp only [next, lt_irrefl, if_false, hlt, if_true, sub_add_cancel]
    · have hone : month = 1 := by omega
      subst hone
      have := hrange (year - 1) 12
      refine ⟨⟨year - 1, 12, monthLength (year - 1) 12⟩,
        ⟨by dsimp only; omega, by dsimp only; omega⟩, ?_⟩
      simp only [next, lt_irrefl, if_false, sub_add_cancel]

def epoch : Date := { year := 1970, month := 1, day := 1 }

theorem epoch_valid : epoch.Valid := by
  constructor
  · decide
  · decide

theorem dayNumber_epoch : epoch.dayNumber = 0 := by
  decide

theorem exists_dayNumber (z : Int) : exists d : Date, d.Valid ∧ d.dayNumber = z := by
  induction z with
  | zero => exact ⟨epoch, epoch_valid, dayNumber_epoch⟩
  | succ n ih =>
      rcases ih with ⟨d, hd, hz⟩
      refine ⟨d.next, next_valid hd, ?_⟩
      rw [dayNumber_next hd, hz]
  | pred n ih =>
      rcases ih with ⟨d, hd, hz⟩
      rcases exists_previous hd with ⟨e, he, rfl⟩
      rw [dayNumber_next he] at hz
      exact ⟨e, he, by omega⟩

/-! # The order of the days -/

theorem dayNumber_lt_next_year (h : d.Valid) :
    d.dayNumber < daysBeforeYear (d.year + 1) - 719162 := by
  rcases h with ⟨hmonth, hday⟩
  have hlast : daysBeforeMonth d.year d.month + monthLength d.year d.month ≤
      daysBeforeMonth d.year 12 + monthLength d.year 12 := by
    rcases lt_or_eq_of_le hmonth.2 with hlt | heq
    · have hmono : daysBeforeMonth d.year d.month + monthLength d.year d.month ≤
          daysBeforeMonth d.year 12 := daysBeforeMonth_mono hmonth.1 (le_refl 12) hlt
      have := monthLength_range d.year 12
      omega
    · rw [heq]
  rw [daysBeforeYear_next]
  unfold dayNumber
  omega

theorem dayNumber_near (h : d.Valid) (hlow : -(2 ^ 31) ≤ d.year) (hhigh : d.year < 2 ^ 31) :
    -(2 ^ 40) < d.dayNumber ∧ d.dayNumber < 2 ^ 40 := by
  have hmonths := h.month
  have hdays := h.day
  have hlength := monthLength_range d.year d.month
  unfold dayNumber daysBeforeYear daysBeforeMonth
  split
  · omega
  · split
    · omega
    · omega

theorem dayNumber_lt (h : d.Valid) (h' : d'.Valid) (hlt : d.Before d') :
    d.dayNumber < d'.dayNumber := by
  rcases hlt with hyear | ⟨hyear, hmonth | ⟨hmonth, hday⟩⟩
  · have hend := dayNumber_lt_next_year h
    have hmono : daysBeforeYear (d.year + 1) ≤ daysBeforeYear d'.year :=
      daysBeforeYear_mono hyear
    have hstart : daysBeforeYear d'.year - 719162 ≤ d'.dayNumber := by
      have hm := month_cases h'.month
      have hd := h'.day.1
      have hnonneg : 0 ≤ daysBeforeMonth d'.year d'.month := by
        unfold daysBeforeMonth
        split
        · omega
        · split
          · omega
          · omega
      unfold dayNumber
      omega
    omega
  · have hmono : daysBeforeMonth d.year d.month + monthLength d.year d.month ≤
        daysBeforeMonth d.year d'.month := daysBeforeMonth_mono h.month.1 h'.month.2 hmonth
    have hend := h.day.2
    have hstart := h'.day.1
    unfold dayNumber
    rw [← hyear]
    omega
  · unfold dayNumber
    rw [← hyear, ← hmonth]
    omega

theorem before_cases (d d' : Date) : d.Before d' ∨ d = d' ∨ d'.Before d := by
  rcases d with ⟨year, month, day⟩
  rcases d' with ⟨year', month', day'⟩
  simp only [Before, mk.injEq]
  omega

theorem dayNumber_lt_iff (h : d.Valid) (h' : d'.Valid) :
    d.dayNumber < d'.dayNumber <-> d.Before d' := by
  constructor
  · intro hlt
    rcases before_cases d d' with hbefore | rfl | hafter
    · exact hbefore
    · exact absurd hlt (lt_irrefl _)
    · exact absurd (dayNumber_lt h' h hafter) (lt_asymm hlt)
  · exact dayNumber_lt h h'

theorem dayNumber_inj (h : d.Valid) (h' : d'.Valid) (heq : d.dayNumber = d'.dayNumber) :
    d = d' := by
  rcases before_cases d d' with hbefore | hsame | hafter
  · exact absurd heq (ne_of_lt (dayNumber_lt h h' hbefore))
  · exact hsame
  · exact absurd heq.symm (ne_of_lt (dayNumber_lt h' h hafter))

/-! # The date of a day -/

noncomputable def ofDayNumber (z : Int) : Date := Classical.choose (exists_dayNumber z)

theorem ofDayNumber_valid (z : Int) : (ofDayNumber z).Valid :=
  (Classical.choose_spec (exists_dayNumber z)).1

@[simp] theorem dayNumber_ofDayNumber (z : Int) : (ofDayNumber z).dayNumber = z :=
  (Classical.choose_spec (exists_dayNumber z)).2

theorem ofDayNumber_dayNumber (h : d.Valid) : ofDayNumber d.dayNumber = d :=
  dayNumber_inj (ofDayNumber_valid _) h (dayNumber_ofDayNumber _)

/-! # Months -/

def first (year month : Int) : Date := { year, month, day := 1 }

theorem first_valid {year month : Int} (h : 1 ≤ month ∧ month ≤ 12) :
    (first year month).Valid := by
  have hlength := monthLength_range year month
  exact ⟨h, ⟨le_refl 1, by dsimp only [first]; omega⟩⟩

def firstOfNext (year month : Int) : Date :=
  if month = 12 then first (year + 1) 1 else first year (month + 1)

theorem firstOfNext_day (year month : Int) : (firstOfNext year month).day = 1 := by
  unfold firstOfNext
  split
  · rfl
  · rfl

theorem firstOfNext_valid {year month : Int} (h : 1 ≤ month ∧ month ≤ 12) :
    (firstOfNext year month).Valid := by
  unfold firstOfNext
  split
  · exact first_valid (by decide)
  · exact first_valid (by omega)

theorem month_iff (h : d.Valid) {year month : Int} (hmonth : 1 ≤ month ∧ month ≤ 12) :
    (first year month).dayNumber ≤ d.dayNumber ∧
        d.dayNumber < (firstOfNext year month).dayNumber <->
      d.year = year ∧ d.month = month := by
  have hd := h.month
  have hday := h.day.1
  rw [← not_lt, dayNumber_lt_iff h (first_valid hmonth),
    dayNumber_lt_iff h (firstOfNext_valid hmonth)]
  unfold Before firstOfNext
  split
  · dsimp only [first]
    omega
  · dsimp only [first]
    omega

/-! # Weekdays -/

/-- Day 0 was a Thursday. -/
def IsMonday (z : Int) : Prop := (z + 3) % 7 = 0

end Date

end Calendar
