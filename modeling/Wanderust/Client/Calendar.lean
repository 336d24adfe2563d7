import Wanderust.Calendar.Gregorian
import Wanderust.Common.Integers

/-!
# The calendar of the client

The two conversions of `client/src/main.rs` between days since 1970-01-01 and
civil dates.  Both reckon in years that begin on the first of March, grouped in
eras of 400 years; their result is missing where an operation overflows.
-/

namespace Wanderust

open Calendar

def civilFromDays (daysSinceEpoch : Int) : Option (Int × Int × Int) := do
  let z ← checkedI64 (daysSinceEpoch + 719468)
  let era ← shiftedDiv z 146096 146097
  let doe ← checkedI64 (z - (← checkedI64 (era * 146097)))
  let days1 ← checkedI64 (doe - doe.tdiv 1460)
  let days2 ← checkedI64 (days1 + doe.tdiv 36524)
  let days3 ← checkedI64 (days2 - doe.tdiv 146096)
  let yoe := days3.tdiv 365
  let y ← checkedI64 (yoe + (← checkedI64 (era * 400)))
  let before1 ← checkedI64 ((← checkedI64 (365 * yoe)) + yoe.tdiv 4)
  let before2 ← checkedI64 (before1 - yoe.tdiv 100)
  let doy ← checkedI64 (doe - before2)
  let mp := (← checkedI64 ((← checkedI64 (5 * doy)) + 2)).tdiv 153
  let start := (← checkedI64 ((← checkedI64 (153 * mp)) + 2)).tdiv 5
  let d ← checkedI64 ((← checkedI64 (doy - start)) + 1)
  let m ← checkedI64 (mp + if mp < 10 then 3 else -9)
  let year ← checkedI64 (y + if m ≤ 2 then 1 else 0)
  return (castI32 year, castU32 m, castU32 d)

def daysFromCivil (year month day : Int) : Option Int := do
  let y ← checkedI64 (year - if month ≤ 2 then 1 else 0)
  let era ← shiftedDiv y 399 400
  let yoe ← checkedI64 (y - (← checkedI64 (era * 400)))
  let mp ← checkedI64 (month + if 2 < month then -3 else 9)
  let start := (← checkedI64 ((← checkedI64 (153 * mp)) + 2)).tdiv 5
  let doy ← checkedI64 ((← checkedI64 (start + day)) - 1)
  let before1 ← checkedI64 ((← checkedI64 (yoe * 365)) + yoe.tdiv 4)
  let before2 ← checkedI64 (before1 - yoe.tdiv 100)
  let doe ← checkedI64 (before2 + doy)
  let days ← checkedI64 ((← checkedI64 (era * 146097)) + doe)
  checkedI64 (days - 719468)

/-! # Years that begin in March -/

/-- A date by its era, the year of the era, the month from March on, and the day. -/
structure MarchDate where
  era : Int
  yoe : Int
  mp : Int
  day : Int

namespace MarchDate

def monthStart (p : MarchDate) : Int := (153 * p.mp + 2) / 5

def doy (p : MarchDate) : Int := p.monthStart + (p.day - 1)

def doe (p : MarchDate) : Int := 365 * p.yoe + p.yoe / 4 - p.yoe / 100 + p.doy

def dayNumber (p : MarchDate) : Int := p.era * 146097 + p.doe - 719468

/-- The months are in range, and the day of the year lies in its month. -/
structure Valid (p : MarchDate) : Prop where
  yoe : 0 ≤ p.yoe ∧ p.yoe < 400
  mp : 0 ≤ p.mp ∧ p.mp < 12
  day : 1 ≤ p.day ∧ p.day ≤ 31
  inMonth : p.doy < (153 * (p.mp + 1) + 2) / 5
  inYear : p.doy < 366
  leapDay : p.doy = 365 -> p.yoe % 4 = 3 ∧ (p.yoe % 100 ≠ 99 ∨ p.yoe = 399)

/-- The era of an `i32` year. -/
def Near (p : MarchDate) : Prop := -5368710 ≤ p.era ∧ p.era ≤ 5368709

/-- January and February belong to the year that began in the March before. -/
def ofDate (d : Date) : MarchDate :=
  let y := d.year - if d.month ≤ 2 then 1 else 0
  { era := y / 400
    yoe := y % 400
    mp := d.month + if 2 < d.month then -3 else 9
    day := d.day }

variable {d : Date} {p : MarchDate}

theorem ofDate_valid (h : d.Valid) : (ofDate d).Valid := by
  rcases d with ⟨year, month, day⟩
  rcases h with ⟨hmonth, hday⟩
  have hlast : day ≤ 31 := le_trans hday.2 (monthLength_range year month).2
  have hcases := month_cases hmonth
  unfold monthLength IsLeap at hday
  dsimp only at hday hcases
  refine ⟨?_, ?_, ⟨hday.1, hlast⟩, ?_, ?_, ?_⟩
  · dsimp only [ofDate]
    omega
  · dsimp only [ofDate]
    omega
  · dsimp only [ofDate, doy, monthStart]
    omega
  · dsimp only [ofDate, doy, monthStart]
    omega
  · dsimp only [ofDate, doy, monthStart]
    omega

theorem dayNumber_ofDate (h : d.Valid) : (ofDate d).dayNumber = d.dayNumber := by
  rcases d with ⟨year, month, day⟩
  have hcases := month_cases h.month
  dsimp only at hcases
  unfold Date.dayNumber daysBeforeYear daysBeforeMonth IsLeap
  dsimp only [ofDate, dayNumber, doe, doy, monthStart]
  omega

/-! # From a day number -/

theorem doy_range (h : p.Valid) : 0 ≤ p.doy ∧ p.doy < 366 := by
  rcases h with ⟨_, hmp, hday, _, hinYear, _⟩
  unfold doy monthStart at *
  omega

theorem doe_range (h : p.Valid) : 0 ≤ p.doe ∧ p.doe < 146097 := by
  have hdoy := doy_range h
  rcases h with ⟨hyoe, _, _, _, _, hleap⟩
  unfold doe
  omega

/-- The leap days of the era are taken out before the division by the length of a year. -/
theorem yoe_eq (h : p.Valid) :
    (p.doe - p.doe / 1460 + p.doe / 36524 - p.doe / 146096) / 365 = p.yoe := by
  have hdoy := doy_range h
  rcases h with ⟨hyoe, _, _, _, _, hleap⟩
  unfold doe
  generalize p.doy = doy at *
  generalize p.yoe = yoe at *
  generalize hdoe : 365 * yoe + yoe / 4 - yoe / 100 + doy = doe
  -- a block of four years may be one day longer than 1460 days, a century or an era never is
  have hfour : doe / 1460 = yoe / 4 ∨ doe / 1460 = yoe / 4 + 1 := by omega
  have hquarter : yoe / 4 = 25 * (yoe / 100) + yoe % 100 / 4 := by omega
  have hcentury : doe / 36524 = yoe / 100 + doe / 146096 := by
    have hstart : 36524 * (yoe / 100) ≤ doe := by omega
    have hend : doe < 36524 * (yoe / 100 + 1) ∨ doe = 146096 := by omega
    rcases hend with hend | hlast
    · have hnone : doe / 146096 = 0 := by omega
      have hsame : doe / 36524 = yoe / 100 := by omega
      rw [hnone, hsame, add_zero]
    · omega
  rcases hfour with hfour | hfour
  · omega
  · omega

theorem mp_eq (h : p.Valid) : (5 * p.doy + 2) / 153 = p.mp := by
  rcases h with ⟨_, hmp, hday, hinMonth, _, _⟩
  unfold doy monthStart at *
  omega

theorem civilFromDays_dayNumber (h : p.Valid) (hnear : p.Near) :
    civilFromDays p.dayNumber =
      some (castI32 (p.yoe + p.era * 400 +
          if p.mp + (if p.mp < 10 then 3 else -9) ≤ 2 then 1 else 0),
        castU32 (p.mp + if p.mp < 10 then 3 else -9), castU32 p.day) := by
  have hdoe := doe_range h
  have hdoy := doy_range h
  have hsplit : p.doe = 365 * p.yoe + p.yoe / 4 - p.yoe / 100 + p.doy := rfl
  have hstart : p.monthStart = (153 * p.mp + 2) / 5 := rfl
  have hday : p.doy = p.monthStart + (p.day - 1) := rfl
  unfold Near at hnear
  have hera : shiftedDiv (p.era * 146097 + p.doe) 146096 146097 = some p.era := by
    have hdiv : (p.era * 146097 + p.doe) / 146097 = p.era := by omega
    have hshift : InI64 (p.era * 146097 + p.doe - 146096) := by
      unfold InI64
      omega
    rw [shiftedDiv_eq (by decide) (by decide) hshift, hdiv]
  have hyear : (p.doe - p.doe / 1460 + p.doe / 36524 - p.doe / 146096).tdiv 365 = p.yoe := by
    rw [Int.tdiv_eq_ediv_of_nonneg (by omega), yoe_eq h]
  have hmonth : (5 * p.doy + 2).tdiv 153 = p.mp := by
    rw [Int.tdiv_eq_ediv_of_nonneg (by omega), mp_eq h]
  rcases h with ⟨hyoe, hmp, hdayRange, _, _, _⟩
  have hmonthStart : (153 * p.mp + 2).tdiv 5 = p.monthStart :=
    Int.tdiv_eq_ediv_of_nonneg (by omega)
  unfold civilFromDays dayNumber
  refine bind_checkedI64 (p.era * 146097 + p.doe) (by omega) (by unfold InI64; omega) ?_
  refine bind_some_eq hera ?_
  refine bind_checkedI64 (p.era * 146097) rfl (by unfold InI64; omega) ?_
  refine bind_checkedI64 p.doe (by omega) (by unfold InI64; omega) ?_
  simp only [Int.tdiv_eq_ediv_of_nonneg hdoe.1]
  refine bind_checkedI64 (p.doe - p.doe / 1460) rfl (by unfold InI64; omega) ?_
  refine bind_checkedI64 (p.doe - p.doe / 1460 + p.doe / 36524) rfl (by unfold InI64; omega) ?_
  refine bind_checkedI64 (p.doe - p.doe / 1460 + p.doe / 36524 - p.doe / 146096) rfl
    (by unfold InI64; omega) ?_
  rw [hyear]
  simp only [Int.tdiv_eq_ediv_of_nonneg hyoe.1]
  refine bind_checkedI64 (p.era * 400) rfl (by unfold InI64; omega) ?_
  refine bind_checkedI64 (p.yoe + p.era * 400) rfl (by unfold InI64; omega) ?_
  refine bind_checkedI64 (365 * p.yoe) rfl (by unfold InI64; omega) ?_
  refine bind_checkedI64 (365 * p.yoe + p.yoe / 4) rfl (by unfold InI64; omega) ?_
  refine bind_checkedI64 (365 * p.yoe + p.yoe / 4 - p.yoe / 100) rfl
    (by unfold InI64; omega) ?_
  refine bind_checkedI64 p.doy (by omega) (by unfold InI64; omega) ?_
  refine bind_checkedI64 (5 * p.doy) rfl (by unfold InI64; omega) ?_
  refine bind_checkedI64 (5 * p.doy + 2) rfl (by unfold InI64; omega) ?_
  rw [hmonth]
  refine bind_checkedI64 (153 * p.mp) rfl (by unfold InI64; omega) ?_
  refine bind_checkedI64 (153 * p.mp + 2) rfl (by unfold InI64; omega) ?_
  rw [hmonthStart]
  refine bind_checkedI64 (p.day - 1) (by omega) (by unfold InI64; omega) ?_
  refine bind_checkedI64 p.day (by omega) (by unfold InI64; omega) ?_
  refine bind_checkedI64 (p.mp + if p.mp < 10 then 3 else -9) rfl (by unfold InI64; omega) ?_
  exact bind_checkedI64 _ rfl (by unfold InI64; omega) rfl

theorem ofDate_near (hyear : InI32 d.year) : (ofDate d).Near := by
  unfold InI32 at hyear
  unfold Near
  dsimp only [ofDate]
  omega

end MarchDate

/-! # The two conversions -/

open MarchDate

variable {d : Date}

theorem civilFromDays_date (h : d.Valid) (hyear : InI32 d.year) :
    civilFromDays d.dayNumber = some (d.year, d.month, d.day) := by
  have hresult := civilFromDays_dayNumber (ofDate_valid h) (ofDate_near hyear)
  have hmonth := h.month
  have hday := (ofDate_valid h).day
  have hm : (ofDate d).mp + (if (ofDate d).mp < 10 then 3 else -9) = d.month := by
    dsimp only [ofDate]
    omega
  have hy : (ofDate d).yoe + (ofDate d).era * 400 + (if d.month ≤ 2 then 1 else 0) = d.year := by
    dsimp only [ofDate]
    omega
  rw [dayNumber_ofDate h, hm, hy, castI32_eq hyear, castU32_eq (by unfold InU32; omega),
    castU32_eq (by unfold InU32; omega)] at hresult
  exact hresult

theorem daysFromCivil_date (h : d.Valid) (hyear : InI32 d.year) :
    daysFromCivil d.year d.month d.day = some d.dayNumber := by
  have hvalid := ofDate_valid h
  have hdoe := doe_range hvalid
  have hdoy := doy_range hvalid
  have hnear := ofDate_near hyear
  have hnumber := dayNumber_ofDate h
  have hmonth := h.month
  rcases hvalid with ⟨hyoe, hmp, hday, _, _, _⟩
  have hdoeEq : (ofDate d).doe =
      365 * (ofDate d).yoe + (ofDate d).yoe / 4 - (ofDate d).yoe / 100 + (ofDate d).doy := rfl
  have hdoyEq : (ofDate d).doy = (153 * (ofDate d).mp + 2) / 5 + (d.day - 1) := rfl
  have hnumberEq : (ofDate d).dayNumber =
      (ofDate d).era * 146097 + (ofDate d).doe - 719468 := rfl
  have hdayEq : (ofDate d).day = d.day := rfl
  have hmpEq : d.month + (if 2 < d.month then -3 else 9) = (ofDate d).mp := rfl
  have hera : (d.year - if d.month ≤ 2 then 1 else 0) / 400 = (ofDate d).era := rfl
  have hyoeEq : (d.year - if d.month ≤ 2 then 1 else 0) % 400 = (ofDate d).yoe := rfl
  generalize ofDate d = p at *
  have hstart : (153 * p.mp + 2).tdiv 5 = (153 * p.mp + 2) / 5 :=
    Int.tdiv_eq_ediv_of_nonneg (by omega)
  unfold Near at hnear
  unfold InI32 at hyear
  unfold daysFromCivil
  refine bind_checkedI64 _ rfl (by unfold InI64; omega) ?_
  generalize hy : (d.year - if d.month ≤ 2 then 1 else 0) = y at *
  have hshift : shiftedDiv y 399 400 = some p.era := by
    rw [shiftedDiv_eq (by decide) (by decide) (by unfold InI64; omega), hera]
  refine bind_some_eq hshift ?_
  refine bind_checkedI64 (p.era * 400) rfl (by unfold InI64; omega) ?_
  refine bind_checkedI64 p.yoe (by omega) (by unfold InI64; omega) ?_
  refine bind_checkedI64 p.mp hmpEq (by unfold InI64; omega) ?_
  refine bind_checkedI64 (153 * p.mp) rfl (by unfold InI64; omega) ?_
  refine bind_checkedI64 (153 * p.mp + 2) rfl (by unfold InI64; omega) ?_
  rw [hstart]
  refine bind_checkedI64 ((153 * p.mp + 2) / 5 + d.day) rfl (by unfold InI64; omega) ?_
  refine bind_checkedI64 p.doy (by omega) (by unfold InI64; omega) ?_
  simp only [Int.tdiv_eq_ediv_of_nonneg hyoe.1]
  refine bind_checkedI64 (p.yoe * 365) rfl (by unfold InI64; omega) ?_
  refine bind_checkedI64 (p.yoe * 365 + p.yoe / 4) rfl (by unfold InI64; omega) ?_
  refine bind_checkedI64 (p.yoe * 365 + p.yoe / 4 - p.yoe / 100) rfl (by unfold InI64; omega) ?_
  refine bind_checkedI64 p.doe (by omega) (by unfold InI64; omega) ?_
  refine bind_checkedI64 (p.era * 146097) rfl (by unfold InI64; omega) ?_
  refine bind_checkedI64 (p.era * 146097 + p.doe) rfl (by unfold InI64; omega) ?_
  have hlast : p.era * 146097 + p.doe - 719468 = d.dayNumber := by omega
  rw [hlast]
  exact checkedI64_eq (by unfold InI64; omega)

end Wanderust
