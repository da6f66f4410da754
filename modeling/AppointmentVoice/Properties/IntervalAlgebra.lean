import AppointmentVoice.Intervals.Covered
import AppointmentVoice.Services.Availability

/-!
# The interval algebra of the schedule

The two operations on lists of windows that a day's schedule is made with, read as
operations on the times of day that the lists cover.

**The result.** For lists of windows that end after they begin, cutting and meeting are the
difference and the intersection of the sets that they cover (`schedule_windows_act_on_sets`);
the windows of a meeting may overlap as those of the lists do
(`overlapping_windows_act_on_sets`).
-/

set_option autoImplicit false

namespace AppointmentVoice

open Intervals

/-- The two operations as operations on sets of times. -/
structure ActOnSets (first second : List (Window TimeOfDay)) : Prop where
  intersected : taken (intersectTimeWindows first second) = taken first ∩ taken second
  subtracted : ∀ reordered, reordered.Perm second →
    taken (subtractTimeWindows first reordered) = taken first \ taken second
  insideIntersected : ∀ window ∈ intersectTimeWindows first second,
    window.Proper ∧ ∃ base ∈ first, window.points ⊆ base.points
  insideSubtracted : ∀ window ∈ subtractTimeWindows first second,
    window.Proper ∧ ∃ base ∈ first, window.points ⊆ base.points
  apart : first.Pairwise Apart → (subtractTimeWindows first second).Pairwise Apart

/-- The two loops of `_intersect_time_windows` overlap each window with each. -/
theorem intersectTimeWindows_eq (first second : List (Window TimeOfDay)) :
    intersectTimeWindows first second = first.flatMap (overlaps second) := rfl

/-- Whatever lists of windows with a start before their end are combined, and in whatever
order they come. -/
theorem schedule_windows_act_on_sets {first second : List (Window TimeOfDay)}
    (proper : ∀ window ∈ first, window.Proper) (properToo : ∀ window ∈ second, window.Proper) :
    ActOnSets first second where
  intersected := by
    rw [intersectTimeWindows_eq]
    exact taken_flatMap_overlaps first second
  subtracted := by
    intro reordered perm
    rw [subtractTimeWindows, taken_cutAll, taken_perm perm]
  insideIntersected := by
    intro window member
    rw [intersectTimeWindows_eq] at member
    exact inside_of_mem_overlaps member
  insideSubtracted := by
    intro window member
    exact inside_of_mem_cutAll proper member
  apart := by
    intro separate
    exact pairwise_apart_cutAll properToo separate

/-- A morning and an afternoon, less a break that touches the morning's end. -/
example : subtractTimeWindows [(9, 12), (13, 18)] [(12, 14), (15, 16)] =
    [(9, 12), (14, 15), (16, 18)] := by decide

/-- Two windows that overlap, and two blocks, one of them over both windows. -/
theorem overlapping_windows_act_on_sets :
    ActOnSets [(9, 12), (11, 18)] [(15, 16), (10, 14)] :=
  schedule_windows_act_on_sets (by simp [Window.Proper]) (by simp [Window.Proper])

end AppointmentVoice
