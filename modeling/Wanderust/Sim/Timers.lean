import Wanderust.Sim.Road

/-!
# The timers of the vehicle

The four ways a call of `advance` goes: no time passes, the pause goes on, a
pause begins, or the vehicle drives.  The times, the speed and the shown speed
keep to their ranges on all of them.
-/

namespace Wanderust.Sim

variable {F : Type} [ExactArith F] {g : Graph F} {s s' : Simulator F} {dtSecs : F}

/-! # The ways of a call -/

namespace Simulator

def Waits (s : Simulator F) (dtSecs : F) : Prop := dtSecs < s.pauseSecsLeft

/-- The state after the pause, with a new speed where there was one. -/
def resumed (s : Simulator F) : Simulator F :=
  if 0 < s.pauseSecsLeft then ({ s with pauseSecsLeft := 0 } : Simulator F).resampleSpeed
  else s

def Drives (s : Simulator F) (dtSecs : F) : Prop :=
  0 < dtSecs ∧ ¬ s.Waits dtSecs ∧ dtSecs < s.resumed.driveSecsLeft

def paused (s : Simulator F) : Simulator F :=
  let pause := s.rng.range (pauseMinSecs : F) pauseMaxSecs
  let driving := pause.2.range (driveMinSecs : F) driveMaxSecs
  { s with
    pauseSecsLeft := pause.1
    driveSecsLeft := driving.1
    rng := driving.2
    lastSpeedKmh := 0 }

/-- The state in which the loop of `advance` starts. -/
def loopStart (s : Simulator F) (dtSecs : F) : Simulator F :=
  { s.resumed with
    driveSecsLeft := s.resumed.driveSecsLeft - dtSecs
    lastSpeedKmh := s.resumed.speedMps * (36 / 10) }

theorem resumed_of_moving (hmoving : s.pauseSecsLeft ≤ 0) : s.resumed = s :=
  if_neg (not_lt.mpr hmoving)

theorem drives_of_moving (hmoving : s.pauseSecsLeft ≤ 0) (hdt : 0 < dtSecs)
    (hdrive : dtSecs < s.driveSecsLeft) : s.Drives dtSecs := by
  refine ⟨hdt, not_lt.mpr (le_trans hmoving (le_of_lt hdt)), ?_⟩
  rw [resumed_of_moving hmoving]
  exact hdrive

theorem advance_idle (h : dtSecs ≤ 0) : s.advance dtSecs = .ok s := if_pos h

theorem advance_waits (hdt : 0 < dtSecs) (h : s.Waits dtSecs) :
    s.advance dtSecs =
      .ok { s with pauseSecsLeft := s.pauseSecsLeft - dtSecs, lastSpeedKmh := 0 } := by
  have hpause : 0 < s.pauseSecsLeft := lt_trans hdt h
  unfold advance
  rw [if_neg (not_le_of_gt hdt), if_pos hpause]
  exact if_pos (sub_pos.mpr h)

theorem advance_resumed (hdt : 0 < dtSecs) (h : ¬ s.Waits dtSecs) :
    s.advance dtSecs = s.resumed.advanceDriving dtSecs := by
  have hover : ¬ 0 < s.pauseSecsLeft - dtSecs := by
    rw [sub_pos]
    exact h
  unfold advance resumed
  rw [if_neg (not_le_of_gt hdt)]
  split
  · exact if_neg hover
  · rfl

theorem advance_pauses (hdt : 0 < dtSecs) (h : ¬ s.Waits dtSecs)
    (hover : ¬ dtSecs < s.resumed.driveSecsLeft) :
    s.advance dtSecs =
      .ok ({ s.resumed with
        driveSecsLeft := s.resumed.driveSecsLeft - dtSecs } : Simulator F).paused := by
  rw [advance_resumed hdt h]
  exact if_pos (sub_nonpos.mpr (not_lt.mp hover))

theorem advance_drives (h : s.Drives dtSecs) :
    s.advance dtSecs =
      (drive maxSteps ((s.loopStart dtSecs).speedMps * dtSecs) (s.loopStart dtSecs) >>=
        updatePosition) := by
  have hover : ¬ s.resumed.driveSecsLeft - dtSecs ≤ 0 := by
    rw [sub_nonpos]
    exact not_le_of_gt h.2.2
  rw [advance_resumed h.1 h.2.1]
  exact if_neg hover

end Simulator

open Simulator

/-! # Standing and driving -/

theorem stands_resumed (s : Simulator F) : Stands s s.resumed := by
  unfold Simulator.resumed
  split
  · exact stands_resampleSpeed s 0
  · exact stands_times s _ _ _ _

theorem stands_paused (s : Simulator F) : Stands s s.paused := stands_times s _ _ _ _

theorem stands_loopStart (s : Simulator F) (dtSecs : F) : Stands s (s.loopStart dtSecs) :=
  (stands_resumed s).trans (stands_times s.resumed _ _ _ _)

theorem advance_stands (h : ¬ s.Drives dtSecs) :
    exists s', s.advance dtSecs = .ok s' ∧ Stands s s' := by
  by_cases hdt : dtSecs ≤ 0
  · exact ⟨s, advance_idle hdt, stands_times s _ _ _ _⟩
  · have hpos := lt_of_not_ge hdt
    by_cases hwaits : s.Waits dtSecs
    · exact ⟨_, advance_waits hpos hwaits, stands_times s _ _ _ _⟩
    · have hover : ¬ dtSecs < s.resumed.driveSecsLeft := fun hlt => h ⟨hpos, hwaits, hlt⟩
      exact ⟨_, advance_pauses hpos hwaits hover,
        ((stands_resumed s).trans (stands_times s.resumed _ _ _ _)).trans (stands_paused _)⟩

/-! # The ranges -/

def InSpeeds (speedMps : F) : Prop :=
  speedMinKmh / (36 / 10) ≤ speedMps ∧ speedMps < speedMaxKmh / (36 / 10)

theorem Drawn.inSpeeds {speedMps : F} (h : Drawn speedMps) : InSpeeds speedMps := by
  rcases h with ⟨r, hr⟩
  have hspeeds : (speedMinKmh : F) < speedMaxKmh := by
    unfold speedMinKmh speedMaxKmh
    norm_num
  have hunit : (0 : F) < 36 / 10 := by norm_num
  rw [hr]
  exact ⟨div_le_div_of_nonneg_right (Rng.range_ge r hspeeds) (le_of_lt hunit),
    div_lt_div_of_pos_right (Rng.range_lt r hspeeds) hunit⟩

theorem InSpeeds.stands (h : InSpeeds s.speedMps) (hs : Stands s s') : InSpeeds s'.speedMps := by
  rcases hs.speed with hsame | hdrawn
  · rw [hsame]
    exact h
  · exact hdrawn.inSpeeds

theorem InSpeeds.passed (h : InSpeeds s.speedMps) (hp : Passed s s') : InSpeeds s'.speedMps := by
  rcases hp.speed with hsame | hdrawn
  · rw [hsame]
    exact h
  · exact hdrawn.inSpeeds

/-- What holds of the timers and the speeds between two calls. -/
structure OnSchedule (s : Simulator F) : Prop where
  speed : InSpeeds s.speedMps
  drive : 0 < s.driveSecsLeft ∧ s.driveSecsLeft < driveMaxSecs
  pause : 0 ≤ s.pauseSecsLeft ∧ s.pauseSecsLeft < pauseMaxSecs
  still : s.moving = false -> s.speedKmh = 0

theorem range_drive (r : Rng) :
    0 < (r.range (driveMinSecs : F) driveMaxSecs).1 ∧
      (r.range (driveMinSecs : F) driveMaxSecs).1 < driveMaxSecs := by
  have hmin : (0 : F) < driveMinSecs := by
    unfold driveMinSecs
    norm_num
  have hrange : (driveMinSecs : F) < driveMaxSecs := by
    unfold driveMinSecs driveMaxSecs
    norm_num
  exact ⟨lt_of_lt_of_le hmin (Rng.range_ge r hrange), Rng.range_lt r hrange⟩

theorem range_pause (r : Rng) :
    0 < (r.range (pauseMinSecs : F) pauseMaxSecs).1 ∧
      (r.range (pauseMinSecs : F) pauseMaxSecs).1 < pauseMaxSecs := by
  have hmin : (0 : F) < pauseMinSecs := by
    unfold pauseMinSecs
    norm_num
  have hrange : (pauseMinSecs : F) < pauseMaxSecs := by
    unfold pauseMinSecs pauseMaxSecs
    norm_num
  exact ⟨lt_of_lt_of_le hmin (Rng.range_ge r hrange), Rng.range_lt r hrange⟩

theorem pauseMaxSecs_pos : (0 : F) < pauseMaxSecs := by
  unfold pauseMaxSecs
  norm_num

theorem Started.onSchedule (h : Started g s) : OnSchedule s where
  speed := h.speed.inSpeeds
  drive := by
    rcases h.driveSecsLeft with ⟨r, hr⟩
    rw [hr]
    exact range_drive r
  pause := by
    rw [h.pauseSecsLeft]
    exact ⟨le_refl 0, pauseMaxSecs_pos⟩
  still hstill := by
    have hmoving : s.moving = true := by
      unfold Simulator.moving
      rw [h.pauseSecsLeft, decide_eq_true_eq]
    rw [hmoving] at hstill
    cases hstill

/-! # One call -/

theorem not_moving_iff : s.moving = false <-> 0 < s.pauseSecsLeft := by
  unfold Simulator.moving
  rw [decide_eq_false_iff_not, not_le]

theorem moving_iff : s.moving = true <-> s.pauseSecsLeft ≤ 0 := by
  unfold Simulator.moving
  rw [decide_eq_true_eq]

theorem OnSchedule.resumed (h : OnSchedule s) :
    s.resumed.pauseSecsLeft = 0 ∧ s.resumed.driveSecsLeft = s.driveSecsLeft := by
  unfold Simulator.resumed
  split
  · exact ⟨rfl, rfl⟩
  case isFalse hpause => exact ⟨le_antisymm (not_lt.mp hpause) h.pause.1, rfl⟩

/-- The loop and the new position write neither the times nor the shown speed. -/
structure SameTimes (s s' : Simulator F) : Prop where
  driveSecsLeft : s'.driveSecsLeft = s.driveSecsLeft
  pauseSecsLeft : s'.pauseSecsLeft = s.pauseSecsLeft
  lastSpeedKmh : s'.lastSpeedKmh = s.lastSpeedKmh
  speed : InSpeeds s.speedMps -> InSpeeds s'.speedMps

theorem SameTimes.trans {s'' : Simulator F} (h : SameTimes s s') (h' : SameTimes s' s'') :
    SameTimes s s'' where
  driveSecsLeft := h'.driveSecsLeft.trans h.driveSecsLeft
  pauseSecsLeft := h'.pauseSecsLeft.trans h.pauseSecsLeft
  lastSpeedKmh := h'.lastSpeedKmh.trans h.lastSpeedKmh
  speed hspeed := h'.speed (h.speed hspeed)

theorem Passed.sameTimes (h : Passed s s') : SameTimes s s' :=
  ⟨h.same.driveSecsLeft, h.same.pauseSecsLeft, h.same.lastSpeedKmh, fun hspeed => hspeed.passed h⟩

theorem drive_sameTimes (turns : Nat) (budgetM : F)
    (h : Simulator.drive turns budgetM s = .ok s') : SameTimes s s' := by
  induction turns generalizing budgetM s with
  | zero =>
      cases h
      exact ⟨rfl, rfl, rfl, id⟩
  | succ turns ih =>
      unfold Simulator.drive at h
      rw [bind_ok_iff] at h
      rcases h with ⟨seg, _, h⟩
      dsimp only at h
      split at h
      · cases h
        exact ⟨rfl, rfl, rfl, id⟩
      · rw [bind_ok_iff] at h
        rcases h with ⟨s1, hs1, h⟩
        exact (passNode_passed hs1).1.sameTimes.trans (ih _ h)

theorem updatePosition_sameTimes (h : s.updatePosition = .ok s') : SameTimes s s' := by
  rcases updatePosition_ok h with ⟨lat, lon, rfl⟩
  exact ⟨rfl, rfl, rfl, id⟩

theorem advance_sameTimes (hdrives : s.Drives dtSecs) (h : s.advance dtSecs = .ok s') :
    SameTimes (s.loopStart dtSecs) s' := by
  rw [advance_drives hdrives, bind_ok_iff] at h
  rcases h with ⟨s1, hloop, hposition⟩
  exact (drive_sameTimes _ _ hloop).trans (updatePosition_sameTimes hposition)

theorem OnSchedule.loopStart (h : OnSchedule s) (hdrives : s.Drives dtSecs) :
    OnSchedule (s.loopStart dtSecs) ∧ (s.loopStart dtSecs).moving = true := by
  have hresumed := h.resumed
  have hpause : (s.loopStart dtSecs).pauseSecsLeft = 0 := hresumed.1
  have hmoving : (s.loopStart dtSecs).moving = true := moving_iff.mpr (le_of_eq hpause)
  have hdrive : (s.loopStart dtSecs).driveSecsLeft = s.driveSecsLeft - dtSecs := by
    rw [← hresumed.2]
    rfl
  have hleft : 0 < s.driveSecsLeft - dtSecs := by
    rw [← hresumed.2]
    exact sub_pos.mpr hdrives.2.2
  refine ⟨⟨h.speed.stands (stands_loopStart s dtSecs), ?_, ?_, ?_⟩, hmoving⟩
  · rw [hdrive]
    exact ⟨hleft, lt_trans (sub_lt_self _ hdrives.1) h.drive.2⟩
  · rw [hpause]
    exact ⟨le_refl 0, pauseMaxSecs_pos⟩
  · intro hstill
    rw [hmoving] at hstill
    cases hstill

theorem InSpeeds.shown {speedMps : F} (h : InSpeeds speedMps) :
    speedMinKmh ≤ speedMps * (36 / 10) ∧ speedMps * (36 / 10) < speedMaxKmh := by
  have hunit : (0 : F) < 36 / 10 := by norm_num
  exact ⟨(div_le_iff₀ hunit).mp h.1, (lt_div_iff₀ hunit).mp h.2⟩

/-- What a call does for the timers and for what the user sees. -/
structure Shown (s : Simulator F) (dtSecs : F) (s' : Simulator F) : Prop where
  schedule : OnSchedule s'
  moving : 0 < dtSecs -> s'.moving = true ->
    speedMinKmh ≤ s'.speedKmh ∧ s'.speedKmh < speedMaxKmh
  still : s'.moving = false -> Stands s s'

theorem OnSchedule.advance_drives (h : OnSchedule s) (hdrives : s.Drives dtSecs)
    (hrun : s.advance dtSecs = .ok s') : Shown s dtSecs s' := by
  rcases h.loopStart hdrives with ⟨hstart, hstartMoving⟩
  have hsame := advance_sameTimes hdrives hrun
  have hmoving : s'.moving = true := by
    rw [moving_iff, hsame.pauseSecsLeft, ← moving_iff]
    exact hstartMoving
  have hstill : s'.moving ≠ false := by
    rw [hmoving]
    decide
  have hshown : s'.speedKmh = (s.loopStart dtSecs).speedMps * (36 / 10) := hsame.lastSpeedKmh
  refine ⟨⟨hsame.speed hstart.speed, ?_, ?_, fun h => absurd h hstill⟩, ?_,
    fun h => absurd h hstill⟩
  · rw [hsame.driveSecsLeft]
    exact hstart.drive
  · rw [hsame.pauseSecsLeft]
    exact hstart.pause
  · intro _ _
    rw [hshown]
    exact hstart.speed.shown

theorem OnSchedule.advance_rests (h : OnSchedule s) (hdt : 0 < dtSecs)
    (hdrives : ¬ s.Drives dtSecs) (hrun : s.advance dtSecs = .ok s') :
    OnSchedule s' ∧ s'.moving = false := by
  by_cases hwaits : s.Waits dtSecs
  · rw [advance_waits hdt hwaits] at hrun
    cases hrun
    have hleft : 0 < s.pauseSecsLeft - dtSecs := sub_pos.mpr hwaits
    have hless : s.pauseSecsLeft - dtSecs < pauseMaxSecs :=
      lt_trans (sub_lt_self _ hdt) h.pause.2
    exact ⟨⟨h.speed, h.drive, ⟨le_of_lt hleft, hless⟩, fun _ => rfl⟩, not_moving_iff.mpr hleft⟩
  · have hover : ¬ dtSecs < s.resumed.driveSecsLeft := fun hlt => hdrives ⟨hdt, hwaits, hlt⟩
    rw [advance_pauses hdt hwaits hover] at hrun
    cases hrun
    have hspeed : InSpeeds s.resumed.speedMps := h.speed.stands (stands_resumed s)
    have hpause := @range_pause F _ s.resumed.rng
    exact ⟨⟨hspeed, range_drive _, ⟨le_of_lt hpause.1, hpause.2⟩, fun _ => rfl⟩,
      not_moving_iff.mpr hpause.1⟩

theorem OnSchedule.advance (h : OnSchedule s) (hrun : s.advance dtSecs = .ok s') :
    Shown s dtSecs s' := by
  by_cases hdrives : s.Drives dtSecs
  · exact h.advance_drives hdrives hrun
  · rcases advance_stands hdrives with ⟨s1, hs1, hstands⟩
    rw [hrun] at hs1
    cases hs1
    by_cases hdt : 0 < dtSecs
    · rcases h.advance_rests hdt hdrives hrun with ⟨hschedule, hstill⟩
      refine ⟨hschedule, fun _ hmoving => ?_, fun _ => hstands⟩
      rw [hstill] at hmoving
      cases hmoving
    · rw [advance_idle (not_lt.mp hdt)] at hrun
      cases hrun
      exact ⟨h, fun hpos => absurd hpos hdt, fun _ => hstands⟩

/-! # Runs -/

theorem OnSchedule.advances (h : OnSchedule s) {dts : List F} (hrun : s.advances dts = .ok s') :
    OnSchedule s' := by
  induction dts generalizing s with
  | nil =>
      cases hrun
      exact h
  | cons dt rest ih =>
      unfold Simulator.advances at hrun
      rw [bind_ok_iff] at hrun
      rcases hrun with ⟨s1, hs1, hrest⟩
      exact ih (h.advance hs1).schedule hrest

end Wanderust.Sim
