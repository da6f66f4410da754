import AppointmentVoice.Services.FoundSlots

/-!
# The loop of the slot search

`_slots_in_window` adds the duration until the window is full, whatever the duration is, and
the search for a total duration is given the sum of the lines of a booking.  Here the loop
is run for at most some number of rounds; a search that has not come to its end by then
returns `none`.  A step that leaves the calendar raises, and ends the search.

`slotsLoop` is the loop, `availableSlotsWithin` the search around it, and
`getAvailableSlotsForBooking` the search for the services of a booking, whose duration is zero
if it has no lines.
-/

set_option autoImplicit false

namespace AppointmentVoice

open Concurrency Intervals

/-! ## Rounds -/

/-- The loop of `_slots_in_window`. -/
def slotsLoop (duration stop : Int) (zone : Zone) :
    Nat → Int → Option (Except AppError (List Instant))
  | 0, _ => none
  | rounds + 1, current =>
      if ¬InCalendar (current + duration) then some (.error .overflow)
      else if current + duration ≤ stop then
        if ¬InCalendar (zone.toUtc current) then some (.error .overflow)
        else (slotsLoop duration stop zone rounds (current + duration)).map
          (Except.map (zone.toUtc current :: ·))
      else some (.ok [])

/-- `_slots_in_window`. -/
def slotsWithin (rounds : Nat) (queryDate : Date) (window : Window TimeOfDay)
    (durationMinutes : Nat) (zone : Zone) : Option (Except AppError (List Instant)) :=
  slotsLoop (minutes durationMinutes) (combine queryDate window.2) zone rounds
    (combine queryDate window.1)

/-- The loop over the windows in `_get_available_slots_for_duration`. -/
def candidatesWithin (rounds : Nat) (queryDate : Date) (durationMinutes : Nat) (zone : Zone) :
    List (Window TimeOfDay) → Option (Except AppError (List Instant))
  | [] => some (.ok [])
  | window :: windows =>
      match slotsWithin rounds queryDate window durationMinutes zone with
      | none => none
      | some (.error error) => some (.error error)
      | some (.ok starts) =>
          (candidatesWithin rounds queryDate durationMinutes zone windows).map
            (Except.map (starts ++ ·))

/-- The body of the last loop of `_get_available_slots_for_duration`. -/
def freeSlotOf (bookings : List Booking) (nowUtc : Instant) (durationMinutes : Nat)
    (slotStart : Instant) : Option (Instant × Instant) :=
  let slotEnd := slotStart + minutes durationMinutes
  if slotStart ≤ nowUtc then none
  else if bookings.any fun b => b.startsAt < slotEnd && b.endsAt > slotStart then none
  else some (slotStart, slotEnd)

/-! ## The search -/

/-- `_get_available_slots_for_duration`. -/
def availableSlotsWithin (rounds : Nat) (cfg : Settings) (business : Business)
    (businessId tenantId : Nat) (staffId : Option Nat) (durationMinutes : Nat) (queryDate : Date) :
    DbM (Option (List (Instant × Instant))) := do
  let zone ← orRaise (.zoneInfoNotFound business.timezone) (cfg.zoneInfo business.timezone)
  let dayOfWeek := weekday queryDate
  let workingHours ← chooseWorkingHours businessId tenantId dayOfWeek staffId
  if workingHours.isEmpty then return some []
  let exceptions : List AvailabilityException ←
    select (.availabilityExceptions businessId tenantId queryDate staffId)
  if exceptions.any (·.isClosed) then return some []
  let blocks : List RecurringStaffBlock ←
    select (.recurringStaffBlocks businessId tenantId dayOfWeek staffId)
  let windows := effectiveWindows workingHours exceptions blocks
  match candidatesWithin rounds queryDate durationMinutes zone windows with
  | none => return none
  | some (.error error) => throw error
  | some (.ok starts) =>
      let candidateStarts := sortedSet starts
      if candidateStarts.isEmpty then return some []
      let dayStart := zone.toUtc (queryDate * dayLength)
      let dayEnd := zone.toUtc ((queryDate + 1) * dayLength)
      eachOrOverflow [(queryDate + 1) * dayLength, dayStart, dayEnd]
      let bookings : List Booking ←
        select (.activeBookings businessId tenantId dayStart dayEnd staffId)
      let nowUtc ← now
      eachOrOverflow (slotEnds nowUtc durationMinutes candidateStarts)
      return some (candidateStarts.filterMap (freeSlotOf bookings nowUtc durationMinutes))

/-- `get_available_slots`. -/
def getAvailableSlotsWithin (rounds : Nat) (cfg : Settings)
    (tenantId businessId serviceId : Nat) (staffId : Option Nat) (queryDate : Date) :
    DbM (Option (List (Instant × Instant))) := do
  let business ← requireBusiness businessId tenantId
  let svc ← requireService serviceId tenantId
  if svc.businessId ≠ businessId then throw (.notFound "Service not found")
  requireStaffIfGiven staffId businessId tenantId
  availableSlotsWithin rounds cfg business businessId tenantId staffId svc.durationMinutes queryDate

/-- `get_available_slots_for_total_duration`. -/
def getAvailableSlotsForTotalDuration (rounds : Nat) (cfg : Settings) (tenantId businessId : Nat)
    (totalDurationMinutes : Nat) (staffId : Option Nat) (queryDate : Date) :
    DbM (Option (List (Instant × Instant))) := do
  let business ← requireBusiness businessId tenantId
  requireStaffIfGiven staffId businessId tenantId
  availableSlotsWithin rounds cfg business businessId tenantId staffId
    totalDurationMinutes queryDate

/-! ## The lines of a booking -/

/-- `duration_minutes` is that of the service at the time at which the line was added. -/
structure BookingLineItem where
  id : Nat
  tenantId : Nat
  businessId : Nat
  bookingId : Nat
  serviceId : Nat
  position : Nat
  durationMinutes : Nat
  durationPositive : 0 < durationMinutes

/-- `list_booking_line_items`. -/
def listBookingLineItems (lineItems : List BookingLineItem) (bookingId tenantId : Nat) :
    DbM (List BookingLineItem) := do
  let _ ← requireBooking bookingId tenantId
  let rows := lineItems.filter fun row => row.bookingId == bookingId && row.tenantId == tenantId
  return rows.insertionSort fun row other => row.position ≤ other.position

/-- `get_booking_total_duration_minutes`: zero for a booking without line items. -/
def getBookingTotalDurationMinutes (lineItems : List BookingLineItem) (bookingId tenantId : Nat) :
    DbM Nat := do
  let lineItems ← listBookingLineItems lineItems bookingId tenantId
  return (lineItems.map (·.durationMinutes)).sum

/-- The slots for all services of a booking. -/
def getAvailableSlotsForBooking (rounds : Nat) (cfg : Settings) (lineItems : List BookingLineItem)
    (bookingId tenantId businessId : Nat) (staffId : Option Nat) (queryDate : Date) :
    DbM (Option (List (Instant × Instant))) := do
  let total ← getBookingTotalDurationMinutes lineItems bookingId tenantId
  getAvailableSlotsForTotalDuration rounds cfg tenantId businessId total staffId queryDate

end AppointmentVoice
