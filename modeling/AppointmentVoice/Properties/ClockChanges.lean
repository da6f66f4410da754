import AppointmentVoice.Properties.SlotSearch

/-!
# Slots on a day on which the clock changes

`_slots_in_window` steps through a window on the wall clock and only then converts each
start to UTC.  When the clock is put back, the starts stay in order and each slot has its
full length in real time.  When it is put forward, the wall times that are skipped count
as before the change, so that a slot there lies after the window's true end or on top of
slots that come after the change.

The slots are right exactly when no such slot is taken: the clock is not put forward, the
change lies outside the window, the window has no room for a slot, or all its slots start
before the clock shows the time after the change and what is left behind them is as long
as the jump.

**The result.** `slots_in_real_time_iff`; `slots_in_the_skipped_hour` is a night in Warsaw.
-/

set_option autoImplicit false

namespace AppointmentVoice

open Intervals

/-! ## Zones with one change -/

/-- A zone whose offset changes once. -/
structure ClockChange where
  instant : Int
  before : Int
  after : Int
  deriving DecidableEq, Repr

namespace ClockChange

/-- The wall time from which on the new offset is used: with `fold = 0` a time that is
shown twice counts as the first one, and a time that is skipped as before the change. -/
def resumes (change : ClockChange) : Int := change.instant + max change.before change.after

/-- `utcoffset()` of a wall time with `fold = 0`. -/
def utcoffset (change : ClockChange) (wall : Int) : Int :=
  if wall < change.resumes then change.before else change.after

/-- `astimezone(timezone.utc)` of a wall time. -/
def toUtc (change : ClockChange) (wall : Int) : Int := wall - change.utcoffset wall

def zone (change : ClockChange) : Zone where
  toUtc := change.toUtc
  fromUtc utc := if utc < change.instant then utc + change.before else utc + change.after

/-- How far the clock is put forward. -/
def jump (change : ClockChange) : Int := change.after - change.before

variable {change : ClockChange} {wall later : Int}

theorem toUtc_before (early : wall < change.resumes) :
    change.toUtc wall = wall - change.before := by
  rw [toUtc, utcoffset, if_pos early]

theorem toUtc_after (late : change.resumes ≤ wall) :
    change.toUtc wall = wall - change.after := by
  rw [toUtc, utcoffset, if_neg (not_lt_of_ge late)]

/-- No skipped time lies between two wall times: at least as much time passes as the
clock shows. -/
theorem toUtc_gains (ordered : wall ≤ later)
    (unskipped : change.jump ≤ 0 ∨ change.resumes ≤ wall ∨ later < change.resumes) :
    change.toUtc wall + (later - wall) ≤ change.toUtc later := by
  rcases lt_or_ge wall change.resumes with early | late
  · rcases lt_or_ge later change.resumes with earlyToo | lateToo
    · rw [toUtc_before early, toUtc_before earlyToo]
      omega
    · have back : change.jump ≤ 0 := by omega
      rw [jump] at back
      rw [toUtc_before early, toUtc_after lateToo]
      omega
  · rw [toUtc_after late, toUtc_after (late.trans ordered)]
    omega

end ClockChange

/-! ## The grid of a window -/

theorem le_of_mem_gridFrom {length stop point : Int} (positive : 0 < length) {fuel : Nat}
    {current : Int} (member : point ∈ gridFrom length stop fuel current) : current ≤ point := by
  induction fuel generalizing current with
  | zero => cases member
  | succ fuel ih =>
      rw [gridFrom] at member
      split at member
      · rcases List.mem_cons.mp member with rfl | further
        · exact le_refl _
        · have := ih further
          omega
      · cases member

/-- The steps do not overlap. -/
theorem pairwise_gridFrom {length stop : Int} (positive : 0 < length) (fuel : Nat)
    (current : Int) :
    (gridFrom length stop fuel current).Pairwise fun first second => first + length ≤ second := by
  induction fuel generalizing current with
  | zero => exact .nil
  | succ fuel ih =>
      rw [gridFrom]
      split
      · refine List.pairwise_cons.mpr ⟨fun point member => ?_, ih _⟩
        exact le_of_mem_gridFrom positive member
      · exact .nil

/-- The last step, when there is room for one: what is left behind it is shorter than a
step. -/
theorem last_mem_grid {length start stop : Int} (positive : 0 < length)
    (room : start + length ≤ stop) :
    stop - (stop - start) % length - length ∈ grid length start stop := by
  have whole : (stop - start) % length + length * ((stop - start) / length) = stop - start :=
    Int.emod_add_mul_ediv ..
  have rest := Int.emod_nonneg (stop - start) positive.ne'
  have once : 1 ≤ (stop - start) / length := by
    rw [Int.le_ediv_iff_mul_le positive]
    omega
  rw [mem_grid positive]
  refine ⟨((stop - start) / length - 1).toNat, ?_, ?_⟩
  · rw [Int.toNat_of_nonneg (by omega), Int.sub_mul, Int.mul_comm]
    omega
  · omega

theorem le_last_of_mem_grid {length start stop point : Int} (positive : 0 < length)
    (member : point ∈ grid length start stop) :
    point ≤ stop - (stop - start) % length - length := by
  obtain ⟨count, rfl, fits⟩ := (mem_grid positive).mp member
  have whole : (stop - start) % length + length * ((stop - start) / length) = stop - start :=
    Int.emod_add_mul_ediv ..
  have most : (count : Int) + 1 ≤ (stop - start) / length := by
    rw [Int.le_ediv_iff_mul_le positive, Int.add_mul]
    omega
  have scaled := Int.mul_le_mul_of_nonneg_left most positive.le
  rw [Int.mul_add, Int.mul_comm length count] at scaled
  omega

/-! ## What is promised -/

/-- In real time each slot lies between the ends of the window, and no two slots
overlap. -/
structure SlotsInRealTime (date : Date) (window : Window TimeOfDay) (duration : ℕ+) (zone : Zone) :
    Prop where
  inside : ∀ start ∈ slotsInWindow date window duration zone,
    zone.toUtc (combine date window.1) ≤ start ∧
      start + minutes duration ≤ zone.toUtc (combine date window.2)
  apart : (slotsInWindow date window duration zone).Pairwise fun first second =>
    Disjoint (Set.Ico first (first + minutes duration)) (Set.Ico second (second + minutes duration))

/-- No slot of the window is taken at a time that is skipped, or behind it. -/
def SparesSkipped (change : ClockChange) (start stop length : Int) : Prop :=
  change.jump ≤ 0 ∨ change.resumes ≤ start ∨ stop < change.resumes ∨ stop < start + length ∨
    (stop - (stop - start) % length - length < change.resumes ∧
      change.jump ≤ (stop - start) % length)

section Windows

variable {change : ClockChange} {start stop length : Int}

/-- Two slots do not overlap in real time. -/
def Separate (change : ClockChange) (length first second : Int) : Prop :=
  change.toUtc first + length ≤ change.toUtc second ∨
    change.toUtc second + length ≤ change.toUtc first

instance : Std.Symm (Separate change length) := ⟨fun _ _ separate => separate.symm⟩

/-- The same, on the grid of a window. -/
structure GridInRealTime (change : ClockChange) (start stop length : Int) : Prop where
  inside : ∀ point ∈ grid length start stop, change.toUtc start ≤ change.toUtc point ∧
    change.toUtc point + length ≤ change.toUtc stop
  apart : (grid length start stop).Pairwise (Separate change length)

theorem GridInRealTime.of_spares (positive : 0 < length)
    (spares : SparesSkipped change start stop length) :
    GridInRealTime change start stop length := by
  -- Between two points of a window without a skipped slot the clock gains no time.
  have ends : ∀ point ∈ grid length start stop, start ≤ point ∧ point + length ≤ stop := by
    intro point member
    obtain ⟨count, rfl, fits⟩ := (mem_grid positive).mp member
    have : 0 ≤ (count : Int) * length := by positivity
    exact ⟨by omega, fits⟩
  by_cases room : start + length ≤ stop
  swap
  · have empty : ∀ point, point ∉ grid length start stop := by
      intro point member
      have := ends point member
      omega
    rw [← List.eq_nil_iff_forall_not_mem] at empty
    refine ⟨?_, ?_⟩
    · rw [empty]
      nofun
    · rw [empty]
      exact .nil
  have points : ∀ first ∈ grid length start stop, ∀ second, second ∈ grid length start stop →
      first ≤ second → change.toUtc first + (second - first) ≤ change.toUtc second := by
    intro first member second memberToo ordered
    have lower := ends first member
    have upper := ends second memberToo
    refine ClockChange.toUtc_gains ordered ?_
    rcases spares with back | late | early | short | ⟨last, -⟩
    · exact .inl back
    · exact .inr (.inl (by omega))
    · exact .inr (.inr (by omega))
    · omega
    · have := le_last_of_mem_grid positive memberToo
      exact .inr (.inr (by omega))
  have startMember : start ∈ grid length start stop :=
    (mem_grid positive).mpr ⟨0, by simp, room⟩
  refine ⟨fun point member => ⟨?_, ?_⟩, ?_⟩
  · have := points start startMember point member (ends point member).1
    have := (ends point member).1
    omega
  · have inside := ends point member
    rcases spares with back | late | early | short | ⟨last, rest⟩
    · have := ClockChange.toUtc_gains (by omega : point ≤ stop) (.inl back)
      omega
    · have := change.toUtc_gains (by omega : point ≤ stop) (.inr (.inl (by omega)))
      omega
    · have := ClockChange.toUtc_gains (by omega : point ≤ stop) (.inr (.inr early))
      omega
    · omega
    · have behind := le_last_of_mem_grid positive member
      rw [ClockChange.jump] at rest
      rw [ClockChange.toUtc_before (by omega : point < change.resumes)]
      rcases lt_or_ge stop change.resumes with early | late
      · rw [ClockChange.toUtc_before early]
        omega
      · rw [ClockChange.toUtc_after late]
        omega
  · refine List.Pairwise.imp_of_mem (fun member memberToo behind => .inl ?_)
      (pairwise_gridFrom positive _ start)
    have := points _ member _ memberToo (by omega)
    omega

/-- Slots on both sides of the time at which the clock goes on do not fit: the ones behind
it would lie after the start of the window, and so between any two of the ones before. -/
theorem GridInRealTime.not_astride (positive : 0 < length)
    (real : GridInRealTime change start stop length) (forward : 0 < change.jump)
    (early : start < change.resumes) {point : Int} (member : point ∈ grid length start stop)
    (late : change.resumes ≤ point) : False := by
  obtain ⟨count, rfl, fits⟩ := (mem_grid positive).mp member
  have crosses : ∃ steps : Nat, change.resumes ≤ start + steps * length := ⟨count, late⟩
  -- The first slot that starts at or after that time.
  obtain ⟨steps, found, minimal⟩ : ∃ steps : Nat, change.resumes ≤ start + steps * length ∧
      ∀ fewer < steps, start + (fewer : Int) * length < change.resumes := by
    classical
    exact ⟨Nat.find crosses, Nat.find_spec crosses, fun fewer less =>
      lt_of_not_ge (Nat.find_min crosses less)⟩
  have few : steps ≤ count := by
    by_contra more
    exact absurd late (not_le_of_gt (minimal count (Nat.lt_of_not_le more)))
  have there : ∀ index ≤ steps, start + (index : Int) * length ∈ grid length start stop := by
    intro index within
    refine (mem_grid positive).mpr ⟨index, rfl, ?_⟩
    have scaled : (index : Int) * length ≤ count * length :=
      Int.mul_le_mul_of_nonneg_right (by omega) positive.le
    omega
  have behind := ClockChange.toUtc_after found
  -- It leaves room for the jump behind every slot before it, one after the other.
  have room : ∀ index ≤ steps, change.jump + index * length ≤ steps * length := by
    intro index within
    induction index with
    | zero =>
        have inside := (real.inside _ (there steps (le_refl _))).1
        rw [ClockChange.toUtc_before early, behind] at inside
        rw [ClockChange.jump]
        omega
    | succ index ih =>
        have before := minimal index within
        have different : start + (index : Int) * length ≠ start + steps * length := by omega
        have apart : Separate change length _ _ :=
          real.apart.forall (there index (by omega)) (there steps (le_refl _)) different
        rw [Separate, ClockChange.toUtc_before before, behind] at apart
        have enough := ih (by omega)
        rw [ClockChange.jump] at enough ⊢
        rw [Nat.cast_add, Nat.cast_one, Int.add_mul, Int.one_mul]
        omega
  have none := room steps (le_refl _)
  omega

theorem GridInRealTime.spares (positive : 0 < length)
    (real : GridInRealTime change start stop length) : SparesSkipped change start stop length := by
  by_contra skipped
  simp only [SparesSkipped, not_or, not_and, not_le, not_lt] at skipped
  obtain ⟨forward, early, late, room, rest⟩ := skipped
  have last := last_mem_grid positive room
  rcases lt_or_ge (stop - (stop - start) % length - length) change.resumes with before | behind
  · have inside := (real.inside _ last).2
    rw [ClockChange.toUtc_before before, ClockChange.toUtc_after late] at inside
    have short := rest before
    rw [ClockChange.jump] at short
    omega
  · exact real.not_astride positive forward early last behind

end Windows

/-- The promise about the instants is the one about the grid. -/
theorem slotsInRealTime_iff_grid (change : ClockChange) (date : Date) (window : Window TimeOfDay)
    (duration : ℕ+) :
    SlotsInRealTime date window duration change.zone ↔
      GridInRealTime change (combine date window.1) (combine date window.2) (minutes duration) := by
  have positive : 0 < minutes duration := minutes_pos duration.pos
  have disjoint : ∀ first second : Int,
      Disjoint (Set.Ico (change.toUtc first) (change.toUtc first + minutes duration))
          (Set.Ico (change.toUtc second) (change.toUtc second + minutes duration)) ↔
        Separate change (minutes duration) first second := fun first second =>
    @Intervals.disjoint_iff Int _ (change.toUtc first, change.toUtc first + minutes duration)
      (change.toUtc second, change.toUtc second + minutes duration)
      (Int.lt_add_of_pos_right _ positive) (Int.lt_add_of_pos_right _ positive)
  constructor
  · rintro ⟨inside, apart⟩
    refine ⟨fun point member => inside _ (List.mem_map_of_mem member), ?_⟩
    exact (List.pairwise_map.mp apart).imp fun {first second} => (disjoint first second).mp
  · rintro ⟨inside, apart⟩
    refine ⟨fun start member => ?_, List.pairwise_map.mpr ?_⟩
    · obtain ⟨point, there, rfl⟩ := List.mem_map.mp member
      exact inside point there
    · exact apart.imp fun {first second} => (disjoint first second).mpr

/-- **When slots are right in real time.** In every zone whose clock changes once, for every
date, window and duration: the slots lie in the window and do not overlap in real time
exactly when no slot is taken at a skipped time or behind it. -/
theorem slots_in_real_time_iff (change : ClockChange) (date : Date) (window : Window TimeOfDay)
    (duration : ℕ+) :
    SlotsInRealTime date window duration change.zone ↔
      SparesSkipped change (combine date window.1) (combine date window.2) (minutes duration) := by
  rw [slotsInRealTime_iff_grid]
  exact ⟨GridInRealTime.spares (minutes_pos duration.pos),
    GridInRealTime.of_spares (minutes_pos duration.pos)⟩

/-- The night on which the clock of Warsaw is put forward from two to three, in 2024. -/
def warsawSpring : ClockChange := ⟨1711846800000000, 3600000000, 7200000000⟩

/-- From one to three there is only one hour on that night, but two slots of an hour are
taken: the one at two starts when the window ends. -/
theorem slots_in_the_skipped_hour :
    ¬SlotsInRealTime 19813 (clockTime 1 0, clockTime 3 0) 60 warsawSpring.zone := by
  intro real
  have member : (1711846800000000 : Int) ∈
      slotsInWindow 19813 (clockTime 1 0, clockTime 3 0) 60 warsawSpring.zone := by
    decide
  have inside := (real.inside _ member).2
  revert inside
  decide

end AppointmentVoice
