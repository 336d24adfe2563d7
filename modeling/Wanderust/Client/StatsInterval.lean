import Wanderust.Client.Calendar
import Wanderust.Intervals.Fibres

/-!
# Intervals of statistics

`stats_interval` of the client: the current day, week or month, for a given
time.  Each kind of interval is the fibre of a key of the times: the number of
the day, of the week, or of the month.
-/

namespace Wanderust

open Calendar Intervals

def secsPerDay : Int := 86400

/-! # The client -/

def dayInterval (now : Int) : Option (Int × Int × String) := do
  let days := now / secsPerDay
  let start ← checkedI64 (days * secsPerDay)
  let last ← checkedI64 ((← checkedI64 (start + secsPerDay)) - 1)
  return (start, last, "current day")

def weekInterval (now : Int) : Option (Int × Int × String) := do
  let days := now / secsPerDay
  -- with a Monday-Sunday week: Monday is 0
  let weekdayMonday0 := (← checkedI64 (days + 3)) % 7
  let startDays ← checkedI64 (days - weekdayMonday0)
  let start ← checkedI64 (startDays * secsPerDay)
  let last ← checkedI64 ((← checkedI64 (start + (← checkedI64 (7 * secsPerDay)))) - 1)
  return (start, last, "current week")

/-- The year and the month after, in the types of the source. -/
def followingMonth (year month : Int) : Option (Int × Int) :=
  if month = 12 then (checkedI32 (year + 1)).map fun y => (y, 1)
  else (checkedU32 (month + 1)).map fun m => (year, m)

def monthInterval (now : Int) : Option (Int × Int × String) := do
  let days := now / secsPerDay
  let (year, month, _) ← civilFromDays days
  let startDays ← daysFromCivil year month 1
  let (nextYear, nextMonth) ← followingMonth year month
  let nextStartDays ← daysFromCivil nextYear nextMonth 1
  let start ← checkedI64 (startDays * secsPerDay)
  let last ← checkedI64 ((← checkedI64 (nextStartDays * secsPerDay)) - 1)
  return (start, last, "current month")

/-- The interval of the kind, if there is such a kind; nothing where an operation overflows. -/
def statsInterval (now : Int) (kind : String) : Option (Option (Int × Int × String)) :=
  match kind with
  | "day" => (dayInterval now).map some
  | "week" => (weekInterval now).map some
  | "month" => (monthInterval now).map some
  | _ => some none

/-! # Periods -/

inductive Period where
  | day
  | week
  | month
deriving DecidableEq

namespace Period

def kind : Period -> String
  | .day => "day"
  | .week => "week"
  | .month => "month"

end Period

noncomputable def civilDate (t : Int) : Date := Date.ofDayNumber (t / secsPerDay)

namespace Period

/-- What the times of one interval have in common. -/
noncomputable def key : Period -> Int -> Int
  | .day, t => t / secsPerDay
  | .week, t => (t / secsPerDay + 3) / 7
  | .month, t => 12 * (civilDate t).year + ((civilDate t).month - 1)

noncomputable def startDay : Period -> Int -> Int
  | .day, t => t / secsPerDay
  | .week, t => t / secsPerDay - (t / secsPerDay + 3) % 7
  | .month, t => (Date.first (civilDate t).year (civilDate t).month).dayNumber

noncomputable def nextStartDay : Period -> Int -> Int
  | .day, t => t / secsPerDay + 1
  | .week, t => t / secsPerDay - (t / secsPerDay + 3) % 7 + 7
  | .month, t => (Date.firstOfNext (civilDate t).year (civilDate t).month).dayNumber

noncomputable def start (p : Period) (t : Int) : Int := p.startDay t * secsPerDay

noncomputable def last (p : Period) (t : Int) : Int := p.nextStartDay t * secsPerDay - 1

def label : Period -> String
  | .day => "current day"
  | .week => "current week"
  | .month => "current month"

end Period

theorem monthKey_eq_iff {t x : Int} :
    Period.month.key x = Period.month.key t <->
      (civilDate x).year = (civilDate t).year ∧ (civilDate x).month = (civilDate t).month := by
  have ht := (Date.ofDayNumber_valid (t / secsPerDay)).month
  have hx := (Date.ofDayNumber_valid (x / secsPerDay)).month
  unfold Period.key civilDate
  dsimp only
  omega

theorem Period.fibres (p : Period) : Fibres p.key p.start p.last := by
  intro t x
  have hdays : (p.start t ≤ x ∧ x ≤ p.last t) <->
      p.startDay t ≤ x / secsPerDay ∧ x / secsPerDay < p.nextStartDay t := by
    unfold Period.start Period.last secsPerDay
    omega
  rw [hdays]
  cases p with
  | day =>
      unfold Period.startDay Period.nextStartDay Period.key
      dsimp only
      omega
  | week =>
      unfold Period.startDay Period.nextStartDay Period.key
      dsimp only
      omega
  | month =>
      have hvalid : (civilDate x).Valid := Date.ofDayNumber_valid (x / secsPerDay)
      have hmonth : 1 ≤ (civilDate t).month ∧ (civilDate t).month ≤ 12 :=
        (Date.ofDayNumber_valid (t / secsPerDay)).month
      have hnumber : (civilDate x).dayNumber = x / secsPerDay :=
        Date.dayNumber_ofDayNumber (x / secsPerDay)
      rw [monthKey_eq_iff, ← Date.month_iff hvalid hmonth, hnumber]
      rfl

/-! # The client computes the intervals -/

/-- The times with a following month in the years of the source. -/
def Covered (t : Int) : Prop :=
  InI32 (civilDate t).year ∧ ((civilDate t).month = 12 -> InI32 ((civilDate t).year + 1))

variable {now : Int}

theorem civilDate_valid (t : Int) : (civilDate t).Valid :=
  Date.ofDayNumber_valid (t / secsPerDay)

theorem dayNumber_civilDate (t : Int) : (civilDate t).dayNumber = t / secsPerDay :=
  Date.dayNumber_ofDayNumber (t / secsPerDay)

theorem Covered.days_near (h : Covered now) :
    -(2 ^ 40) < now / secsPerDay ∧ now / secsPerDay < 2 ^ 40 := by
  rw [← dayNumber_civilDate]
  exact Date.dayNumber_near (civilDate_valid now) h.1.1 h.1.2

theorem Covered.followingMonth (h : Covered now) :
    followingMonth (civilDate now).year (civilDate now).month =
      some ((Date.firstOfNext (civilDate now).year (civilDate now).month).year,
        (Date.firstOfNext (civilDate now).year (civilDate now).month).month) := by
  have hmonth := (civilDate_valid now).month
  unfold Wanderust.followingMonth Date.firstOfNext
  split
  case isTrue hlast =>
    rw [checkedI32_eq (h.2 hlast)]
    rfl
  case isFalse =>
    rw [checkedU32_eq (by unfold InU32; omega)]
    rfl

theorem Covered.nextYear (h : Covered now) :
    InI32 (Date.firstOfNext (civilDate now).year (civilDate now).month).year := by
  unfold Date.firstOfNext
  split
  case isTrue hlast => exact h.2 hlast
  case isFalse => exact h.1

theorem dayInterval_eq (h : Covered now) :
    dayInterval now = some (Period.day.start now, Period.day.last now, "current day") := by
  have hnear := h.days_near
  unfold dayInterval Period.start Period.last Period.startDay Period.nextStartDay
  dsimp only
  unfold secsPerDay at *
  refine bind_checkedI64 _ rfl (by unfold InI64; omega) ?_
  refine bind_checkedI64 _ rfl (by unfold InI64; omega) ?_
  exact bind_checkedI64 ((now / 86400 + 1) * 86400 - 1) (by omega) (by unfold InI64; omega) rfl

theorem weekInterval_eq (h : Covered now) :
    weekInterval now = some (Period.week.start now, Period.week.last now, "current week") := by
  have hnear := h.days_near
  unfold weekInterval Period.start Period.last Period.startDay Period.nextStartDay
  dsimp only
  unfold secsPerDay at *
  refine bind_checkedI64 _ rfl (by unfold InI64; omega) ?_
  refine bind_checkedI64 _ rfl (by unfold InI64; omega) ?_
  refine bind_checkedI64 _ rfl (by unfold InI64; omega) ?_
  refine bind_checkedI64 _ rfl (by unfold InI64; omega) ?_
  refine bind_checkedI64 _ rfl (by unfold InI64; omega) ?_
  exact bind_checkedI64 ((now / 86400 - (now / 86400 + 3) % 7 + 7) * 86400 - 1) (by omega)
    (by unfold InI64; omega) rfl

theorem monthInterval_eq (h : Covered now) :
    monthInterval now =
      some (Period.month.start now, Period.month.last now, "current month") := by
  have hvalid := civilDate_valid now
  have hfirstValid : (Date.first (civilDate now).year (civilDate now).month).Valid :=
    Date.first_valid hvalid.month
  have hnextValid : (Date.firstOfNext (civilDate now).year (civilDate now).month).Valid :=
    Date.firstOfNext_valid hvalid.month
  have hcivil : civilFromDays (now / secsPerDay) =
      some ((civilDate now).year, (civilDate now).month, (civilDate now).day) := by
    rw [← dayNumber_civilDate]
    exact civilFromDays_date hvalid h.1
  have hfirst := daysFromCivil_date hfirstValid h.1
  have hnext := daysFromCivil_date hnextValid h.nextYear
  rw [Date.firstOfNext_day] at hnext
  have hfirstNear := Date.dayNumber_near hfirstValid h.1.1 h.1.2
  have hnextNear := Date.dayNumber_near hnextValid h.nextYear.1 h.nextYear.2
  unfold monthInterval
  refine bind_some_eq hcivil ?_
  refine bind_some_eq hfirst ?_
  refine bind_some_eq h.followingMonth ?_
  refine bind_some_eq hnext ?_
  refine bind_checkedI64 (Period.month.start now) rfl ?_ ?_
  · unfold Period.start Period.startDay secsPerDay InI64
    dsimp only
    omega
  · refine bind_checkedI64 (Period.month.last now + 1) ?_ ?_ ?_
    · unfold Period.last Period.nextStartDay
      dsimp only
      omega
    · unfold Period.last Period.nextStartDay secsPerDay InI64
      dsimp only
      omega
    · refine bind_checkedI64 (Period.month.last now) (by omega) ?_ rfl
      unfold Period.last Period.nextStartDay secsPerDay InI64
      dsimp only
      omega

theorem statsInterval_eq (h : Covered now) (p : Period) :
    statsInterval now p.kind = some (some (p.start now, p.last now, p.label)) := by
  cases p with
  | day =>
      show (dayInterval now).map some = _
      rw [dayInterval_eq h]
      rfl
  | week =>
      show (weekInterval now).map some = _
      rw [weekInterval_eq h]
      rfl
  | month =>
      show (monthInterval now).map some = _
      rw [monthInterval_eq h]
      rfl

end Wanderust
