import AppointmentVoice.Intervals.Windows
import AppointmentVoice.Services.Sequential

/-!
# Slot search

The slots that can be booked on a date: the working hours of the weekday, replaced
by the special hours of the date, less the recurring blocks, divided into steps of
the service's length, less what lies in the past and what is booked.  On the last
dates of the calendar the arithmetic leaves it, and the search raises.
-/

set_option autoImplicit false

namespace AppointmentVoice

open Concurrency Intervals

/-! ## Windows of a day -/

/-- `date.weekday()`: Monday is 0, and the epoch was a Thursday. -/
def weekday (date : Date) : Int := (date + 3) % 7

/-- `datetime.combine(date, time)`: wall-clock microseconds since the epoch. -/
def combine (date : Date) (time : TimeOfDay) : Int := date * dayLength + time.val

/-- `_slots_in_window`. -/
def slotsInWindow (queryDate : Date) (window : Window TimeOfDay) (duration : ℕ+) (zone : Zone) :
    List Instant :=
  (grid (minutes duration) (combine queryDate window.1) (combine queryDate window.2)).map zone.toUtc

/-- The times that a loop computes from its first one: the end of each slot and of the one
that no longer fits, and the slots in UTC. -/
def loopTimes (length : Int) (zone : Zone) (first : Int) (starts : List Int) : List Int :=
  starts.map (· + length) ++ [first + (starts.length + 1) * length] ++ starts.map zone.toUtc

/-- The times that `_slots_in_window` computes. -/
def timesTried (queryDate : Date) (window : Window TimeOfDay) (duration : ℕ+) (zone : Zone) :
    List Int :=
  loopTimes (minutes duration) zone (combine queryDate window.1)
    (grid (minutes duration) (combine queryDate window.1) (combine queryDate window.2))

/-- `_intersect_time_windows`. -/
def intersectTimeWindows (staffWindows salonWindows : List (Window TimeOfDay)) :
    List (Window TimeOfDay) :=
  staffWindows.flatMap fun staff => salonWindows.filterMap fun salon =>
    let start := max staff.1 salon.1
    let stop := min staff.2 salon.2
    if start < stop then some (start, stop) else none

/-- `_subtract_time_windows`. -/
def subtractTimeWindows (baseWindows blockWindows : List (Window TimeOfDay)) :
    List (Window TimeOfDay) :=
  cutAll baseWindows blockWindows

/-- `sorted(set(…))`. -/
def sortedSet (instants : List Instant) : List Instant := instants.dedup.insertionSort (· ≤ ·)

/-! ## The search -/

/-- From the start of a row to its end. -/
def WorkingHours.window (row : WorkingHours) : Window TimeOfDay := (row.startTime, row.endTime)

/-- From the start of a row to its end. -/
def RecurringStaffBlock.window (row : RecurringStaffBlock) : Window TimeOfDay :=
  (row.startTime, row.endTime)

/-- The hours of an exception that is not a closure and has both ends; any time of
day counts as true. -/
def AvailabilityException.specialHours (row : AvailabilityException) : Option (Window TimeOfDay) :=
  match row.isClosed, row.startTime, row.endTime with
  | false, some start, some stop => some (start, stop)
  | _, _, _ => none

/-- `_wh_windows`. -/
def whWindows (businessId tenantId : Nat) (dayOfWeek : Int) (filterStaffId : Option Nat) :
    DbM (List (Window TimeOfDay)) := do
  let rows ← select (.workingHours businessId tenantId dayOfWeek filterStaffId)
  return List.map WorkingHours.window rows

/-- `_has_any_schedule`. -/
def hasAnySchedule (businessId tenantId : Nat) (filterStaffId : Option Nat) : DbM Bool := do
  let row ← select (.anyWorkingHours businessId tenantId filterStaffId)
  return Option.isSome row

/-- The choice of the working hours in `_get_available_slots_for_duration`. -/
def chooseWorkingHours (businessId tenantId : Nat) (dayOfWeek : Int) (staffId : Option Nat) :
    DbM (List (Window TimeOfDay)) := do
  let salonWindows ← whWindows businessId tenantId dayOfWeek none
  match staffId with
  | none => return salonWindows
  | some _ =>
      let staffWindows ← whWindows businessId tenantId dayOfWeek staffId
      let staffScheduled ← hasAnySchedule businessId tenantId staffId
      if !staffScheduled then return salonWindows
      let salonScheduled ← hasAnySchedule businessId tenantId none
      if !salonScheduled then return staffWindows
      return intersectTimeWindows staffWindows salonWindows

/-- The windows of the day once the exceptions have replaced and the blocks have
cut the working hours. -/
def effectiveWindows (workingHours : List (Window TimeOfDay))
    (exceptions : List AvailabilityException) (blocks : List RecurringStaffBlock) :
    List (Window TimeOfDay) :=
  let specialHours := exceptions.filterMap AvailabilityException.specialHours
  let windows := if specialHours.isEmpty then workingHours else specialHours
  if blocks.isEmpty then windows
  else subtractTimeWindows windows (blocks.map RecurringStaffBlock.window)

/-- The body of the last loop of `_get_available_slots_for_duration`. -/
def freeSlot (bookings : List Booking) (nowUtc : Instant) (duration : ℕ+) (slotStart : Instant) :
    Option (Instant × Instant) :=
  let slotEnd := slotStart + minutes duration
  if slotStart ≤ nowUtc then none
  else if bookings.any fun b => b.startsAt < slotEnd && b.endsAt > slotStart then none
  else some (slotStart, slotEnd)

/-- The ends of the slots that are still to come, which the same loop computes. -/
def slotEnds (nowUtc : Instant) (durationMinutes : Nat) (starts : List Instant) : List Instant :=
  (starts.filter (nowUtc < ·)).map (· + minutes durationMinutes)

/-- `_get_available_slots_for_duration`. -/
def getAvailableSlotsForDuration (cfg : Settings) (business : Business) (businessId tenantId : Nat)
    (staffId : Option Nat) (duration : ℕ+) (queryDate : Date) : DbM (List (Instant × Instant)) := do
  let zone ← orRaise (.zoneInfoNotFound business.timezone) (cfg.zoneInfo business.timezone)
  let dayOfWeek := weekday queryDate
  let workingHours ← chooseWorkingHours businessId tenantId dayOfWeek staffId
  if workingHours.isEmpty then return []
  let exceptions : List AvailabilityException ←
    select (.availabilityExceptions businessId tenantId queryDate staffId)
  if exceptions.any (·.isClosed) then return []
  let blocks : List RecurringStaffBlock ←
    select (.recurringStaffBlocks businessId tenantId dayOfWeek staffId)
  let windows := effectiveWindows workingHours exceptions blocks
  eachOrOverflow (windows.flatMap fun window => timesTried queryDate window duration zone)
  let candidateStarts := sortedSet
    (windows.flatMap fun window => slotsInWindow queryDate window duration zone)
  if candidateStarts.isEmpty then return []
  let dayStart := zone.toUtc (queryDate * dayLength)
  let dayEnd := zone.toUtc ((queryDate + 1) * dayLength)
  eachOrOverflow [(queryDate + 1) * dayLength, dayStart, dayEnd]
  let bookings : List Booking ← select (.activeBookings businessId tenantId dayStart dayEnd staffId)
  let nowUtc ← now
  eachOrOverflow (slotEnds nowUtc duration candidateStarts)
  return candidateStarts.filterMap (freeSlot bookings nowUtc duration)

/-- `get_available_slots`. -/
def getAvailableSlots (cfg : Settings) (tenantId businessId serviceId : Nat) (staffId : Option Nat)
    (queryDate : Date) : DbM (List (Instant × Instant)) := do
  let business ← requireBusiness businessId tenantId
  let svc ← requireService serviceId tenantId
  if svc.businessId ≠ businessId then throw (.notFound "Service not found")
  requireStaffIfGiven staffId businessId tenantId
  getAvailableSlotsForDuration cfg business businessId tenantId staffId
    ⟨svc.durationMinutes, svc.durationPositive⟩ queryDate

end AppointmentVoice
