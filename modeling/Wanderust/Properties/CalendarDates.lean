import Wanderust.Client.Calendar

/-!
# Calendar conversions

The two conversions of the client are inverse to each other on the dates whose
year the source can hold, and the day numbers follow the order of the dates.
-/

namespace Wanderust

open Calendar

variable {z : Int} {d d' : Date}

theorem civilFromDays_inverse (hyear : InI32 (Date.ofDayNumber z).year) :
    exists d : Date, d.Valid ∧ d.dayNumber = z ∧
      civilFromDays z = some (d.year, d.month, d.day) ∧
      daysFromCivil d.year d.month d.day = some z := by
  have hvalid := Date.ofDayNumber_valid z
  have hnumber := Date.dayNumber_ofDayNumber z
  have hcivil := civilFromDays_date hvalid hyear
  have hdays := daysFromCivil_date hvalid hyear
  rw [hnumber] at hcivil hdays
  exact ⟨Date.ofDayNumber z, hvalid, hnumber, hcivil, hdays⟩

theorem daysFromCivil_lt (h : d.Valid) (hyear : InI32 d.year) (h' : d'.Valid)
    (hyear' : InI32 d'.year) (hbefore : d.Before d') :
    exists n n', daysFromCivil d.year d.month d.day = some n ∧
      daysFromCivil d'.year d'.month d'.day = some n' ∧ n < n' :=
  ⟨d.dayNumber, d'.dayNumber, daysFromCivil_date h hyear, daysFromCivil_date h' hyear',
    Date.dayNumber_lt h h' hbefore⟩

theorem calendar_inverse :
    (forall z, InI32 (Date.ofDayNumber z).year ->
      exists d : Date, d.Valid ∧ d.dayNumber = z ∧
        civilFromDays z = some (d.year, d.month, d.day) ∧
        daysFromCivil d.year d.month d.day = some z) ∧
    (forall d : Date, d.Valid -> InI32 d.year ->
      exists n, daysFromCivil d.year d.month d.day = some n ∧
        civilFromDays n = some (d.year, d.month, d.day)) ∧
    (forall d d' : Date, d.Valid -> InI32 d.year -> d'.Valid -> InI32 d'.year ->
      d.Before d' ->
      exists n n', daysFromCivil d.year d.month d.day = some n ∧
        daysFromCivil d'.year d'.month d'.day = some n' ∧ n < n') ∧
    daysFromCivil 1970 1 1 = some 0 := by
  refine ⟨fun z => civilFromDays_inverse, ?_, ?_, ?_⟩
  · intro d h hyear
    exact ⟨d.dayNumber, daysFromCivil_date h hyear, civilFromDays_date h hyear⟩
  · intro d d' h hyear h' hyear' hbefore
    exact daysFromCivil_lt h hyear h' hyear' hbefore
  · have hepoch := daysFromCivil_date Date.epoch_valid (by decide)
    rw [Date.dayNumber_epoch] at hepoch
    exact hepoch

/-- The leap day at the end of an era, and the day after it. -/
theorem calendar_inverse_leapDay :
    (exists n, daysFromCivil 2000 2 29 = some n ∧ civilFromDays n = some (2000, 2, 29)) ∧
      exists n n', daysFromCivil 2000 2 29 = some n ∧ daysFromCivil 2000 3 1 = some n' ∧
        n < n' := by
  have hvalid : Date.Valid ⟨2000, 2, 29⟩ := by decide
  have hvalid' : Date.Valid ⟨2000, 3, 1⟩ := by decide
  have hyear : InI32 2000 := by decide
  exact ⟨calendar_inverse.2.1 ⟨2000, 2, 29⟩ hvalid hyear,
    calendar_inverse.2.2.1 ⟨2000, 2, 29⟩ ⟨2000, 3, 1⟩ hvalid hyear hvalid' hyear (by decide)⟩

end Wanderust
