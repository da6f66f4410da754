import AppointmentVoice.Database.Tables

/-!
# The queries of the services

Every `SELECT` of the modelled services without a lock, by name, with the shape
of its result and its value on a database.  A query that takes the first row
without an order takes the first one in storage order.
-/

set_option autoImplicit false

namespace AppointmentVoice

/-! ## Filters -/

/-- `column == value` for a given staff member, `column IS NULL` for none. -/
def staffScope (wanted column : Option Nat) : Bool := column == wanted

/-- A row of the given staff member or a business-wide one; only the latter
when no staff member is given. -/
def staffOrBusinessWide (wanted column : Option Nat) : Bool :=
  match wanted with
  | some _ => column == wanted || column == none
  | none => column == none

/-- What `_check_double_booking` looks for: an active booking of the staff
member in the business that overlaps the interval. -/
def conflictsWith (staffId businessId : Nat) (startsAt endsAt : Instant)
    (excludeBookingId : Option Nat) (booking : Booking) : Bool :=
  booking.staffId == some staffId && booking.businessId == businessId &&
    booking.status.active && booking.startsAt < endsAt && booking.endsAt > startsAt &&
    excludeBookingId != some booking.id

/-- The filter of `find_matching_waitlist_entries`. -/
structure WaitlistFilter where
  businessId : Nat
  tenantId : Nat
  serviceId : Nat
  desiredDate : Date
  staffId : Option Nat
  deriving DecidableEq, Repr

/-- An entry without a staff preference always fits; one with a preference fits
the slot of that staff member only. -/
def WaitlistFilter.eligible (filter : WaitlistFilter) (entry : WaitlistEntry) : Bool :=
  entry.businessId == filter.businessId && entry.tenantId == filter.tenantId &&
    entry.serviceId == filter.serviceId && entry.desiredDate == filter.desiredDate &&
    staffOrBusinessWide filter.staffId entry.staffId

/-- Eligible and still waiting. -/
def WaitlistFilter.accepts (filter : WaitlistFilter) (entry : WaitlistEntry) : Bool :=
  filter.eligible entry && entry.status == .waiting

/-- The filter of `_lock_stale_offered_entries`. -/
def staleOffer (threshold : Instant) (entry : WaitlistEntry) : Bool :=
  entry.status == .offered && entry.updatedAt ≤ threshold

/-- The filter of `reconcile_stale_notifications`: still `PENDING`, and last touched
before the threshold. -/
def NotificationOutbox.stale (threshold : Instant) (row : NotificationOutbox) : Bool :=
  row.status == .pending && row.reconciledAt.getD row.createdAt < threshold

/-- The filter of `reconcile_stale_calendar_events`. -/
def CalendarEvent.stale (threshold : Instant) (row : CalendarEvent) : Bool :=
  (row.status == .pending || row.status == .failed) &&
    row.reconciledAt.getD row.createdAt < threshold

/-- The steps after which a phone call does nothing any more. -/
def IvrStep.terminal : IvrStep → Bool
  | .bookingConfirmed => true
  | .noSlots => true
  | .expired => true
  | .abandoned => true
  | .externalLinkSent => true
  | .bookingCancelled => true
  | _ => false

/-- `trim(column) != ''`: SQL trims blanks only. -/
def sqlNotBlank (text : String) : Bool := text.toList.any (· != ' ')

/-- The default `limit` of `list_services` and `list_staff`. -/
def listLimit : Nat := 100

/-- The default `limit` of `get_eligible_transfer_staff`. -/
def transferStaffLimit : Nat := 50

/-! ## Queries -/

/-- The SELECTs of the booking services. -/
inductive Query where
  | business (id tenantId : Nat)
  | customer (id tenantId : Nat)
  | service (id tenantId : Nat)
  | staffMember (id tenantId : Nat)
  | booking (id tenantId : Nat)
  | bookingByPrimaryKey (id : Nat)
  | doubleBooking (staffId businessId : Nat) (startsAt endsAt : Instant)
      (excludeBookingId : Option Nat)
  | payment (bookingId tenantId : Nat)
  | pendingPayment (bookingId tenantId : Nat)
  | paymentByPrimaryKey (id : Nat)
  | calendarEvent (bookingId tenantId : Nat)
  | calendarIntegration (businessId tenantId : Nat) (staffId : Option Nat)
  | stalePaymentHolds (threshold : Instant)
  | services (businessId tenantId : Nat)
  | staff (businessId tenantId : Nat)
  | eligibleTransferStaff (businessId tenantId : Nat)
  | workingHours (businessId tenantId : Nat) (dayOfWeek : Int) (staffId : Option Nat)
  | anyWorkingHours (businessId tenantId : Nat) (staffId : Option Nat)
  | scheduledStaffIds (businessId tenantId : Nat)
  | availabilityExceptions (businessId tenantId : Nat) (date : Date) (staffId : Option Nat)
  | recurringStaffBlocks (businessId tenantId : Nat) (dayOfWeek : Int) (staffId : Option Nat)
  | activeBookings (businessId tenantId : Nat) (dayStart dayEnd : Instant) (staffId : Option Nat)
  | nextConfirmedBooking (businessId tenantId customerId : Nat) (now : Instant)
  | lastStaffBooking (businessId tenantId customerId : Nat)
  | customerByPhone (businessId tenantId : Nat) (phoneNormalized : String)
  | clientByCustomer (businessId tenantId customerId : Nat)
  | voiceSession (id tenantId : Nat)
  | voiceSessionByPrimaryKey (id : Nat)
  | voiceSessionByCallSid (callSid : String)
  | waitlistEntryByPrimaryKey (id : Nat)
  | notificationByPrimaryKey (id : Nat)
  | calendarEventByPrimaryKey (id : Nat)
  | serviceByPrimaryKey (id : Nat)
  | staffByPrimaryKey (id : Nat)
  | staleNotifications (threshold : Instant)
  | staleCalendarEvents (threshold : Instant)
  | staleVoiceSessions (now : Instant)
  | dueBookings (now threshold : Instant)
  | queuedReminder (bookingId : Nat)
  deriving DecidableEq, Repr

namespace Query

/-- The shape of the result. -/
def Row : Query → Type
  | .business _ _ => Option Business
  | .customer _ _ => Option Customer
  | .service _ _ => Option Service
  | .staffMember _ _ => Option Staff
  | .booking _ _ => Option Booking
  | .bookingByPrimaryKey _ => Option Booking
  | .doubleBooking _ _ _ _ _ => Option Booking
  | .payment _ _ => Option BookingPayment
  | .pendingPayment _ _ => Option BookingPayment
  | .paymentByPrimaryKey _ => Option BookingPayment
  | .calendarEvent _ _ => Option CalendarEvent
  | .calendarIntegration _ _ _ => Option CalendarIntegration
  | .stalePaymentHolds _ => List Booking
  | .services _ _ => List Service
  | .staff _ _ => List Staff
  | .eligibleTransferStaff _ _ => List Staff
  | .workingHours _ _ _ _ => List WorkingHours
  | .anyWorkingHours _ _ _ => Option WorkingHours
  | .scheduledStaffIds _ _ => List Nat
  | .availabilityExceptions _ _ _ _ => List AvailabilityException
  | .recurringStaffBlocks _ _ _ _ => List RecurringStaffBlock
  | .activeBookings _ _ _ _ _ => List Booking
  | .nextConfirmedBooking _ _ _ _ => Option Booking
  | .lastStaffBooking _ _ _ => Option Booking
  | .customerByPhone _ _ _ => Option Customer
  | .clientByCustomer _ _ _ => Option Client
  | .voiceSession _ _ => Option VoiceSession
  | .voiceSessionByPrimaryKey _ => Option VoiceSession
  | .voiceSessionByCallSid _ => Option VoiceSession
  | .waitlistEntryByPrimaryKey _ => Option WaitlistEntry
  | .notificationByPrimaryKey _ => Option NotificationOutbox
  | .calendarEventByPrimaryKey _ => Option CalendarEvent
  | .serviceByPrimaryKey _ => Option Service
  | .staffByPrimaryKey _ => Option Staff
  | .staleNotifications _ => List NotificationOutbox
  | .staleCalendarEvents _ => List CalendarEvent
  | .staleVoiceSessions _ => List VoiceSession
  | .dueBookings _ _ => List Booking
  | .queuedReminder _ => Option NotificationOutbox

/-- The value of a query on a database. -/
def eval : (query : Query) → Db → query.Row
  | .business id tenantId, db =>
      db.businesses.find? fun row => row.id == id && row.tenantId == tenantId
  | .customer id tenantId, db =>
      db.customers.find? fun row => row.id == id && row.tenantId == tenantId
  | .service id tenantId, db =>
      db.services.find? fun row => row.id == id && row.tenantId == tenantId
  | .staffMember id tenantId, db =>
      db.staff.find? fun row => row.id == id && row.tenantId == tenantId
  | .booking id tenantId, db =>
      db.bookings.find? fun row => row.id == id && row.tenantId == tenantId
  | .bookingByPrimaryKey id, db => db.bookings.find? fun row => row.id == id
  | .doubleBooking staffId businessId startsAt endsAt excludeBookingId, db =>
      db.bookings.find? (conflictsWith staffId businessId startsAt endsAt excludeBookingId)
  | .payment bookingId tenantId, db =>
      db.bookingPayments.find? fun row => row.bookingId == bookingId && row.tenantId == tenantId
  | .pendingPayment bookingId tenantId, db =>
      db.bookingPayments.find? fun row =>
        row.bookingId == bookingId && row.tenantId == tenantId && row.status == .pending
  | .paymentByPrimaryKey id, db => db.bookingPayments.find? fun row => row.id == id
  | .calendarEvent bookingId tenantId, db =>
      db.calendarEvents.find? fun row => row.bookingId == bookingId && row.tenantId == tenantId
  | .calendarIntegration businessId tenantId staffId, db =>
      db.calendarIntegrations.find? fun row =>
        row.businessId == businessId && row.tenantId == tenantId &&
          staffScope staffId row.staffId && row.isActive
  | .stalePaymentHolds threshold, db =>
      db.bookings.filter fun row => row.status == .pendingPayment && row.createdAt < threshold
  | .services businessId tenantId, db =>
      ((db.services.filter fun row =>
        row.businessId == businessId && row.tenantId == tenantId && row.isActive).insertionSort
          fun first second => first.id ≤ second.id).take listLimit
  | .staff businessId tenantId, db =>
      ((db.staff.filter fun row =>
        row.businessId == businessId && row.tenantId == tenantId && row.isActive).insertionSort
          fun first second => first.id ≤ second.id).take listLimit
  | .eligibleTransferStaff businessId tenantId, db =>
      ((db.staff.filter fun row =>
        row.businessId == businessId && row.tenantId == tenantId && row.isActive &&
          row.phone.any sqlNotBlank).insertionSort
            fun first second => first.id ≤ second.id).take transferStaffLimit
  | .workingHours businessId tenantId dayOfWeek staffId, db =>
      db.workingHours.filter fun row =>
        row.businessId == businessId && row.tenantId == tenantId && row.dayOfWeek == dayOfWeek &&
          staffScope staffId row.staffId
  | .anyWorkingHours businessId tenantId staffId, db =>
      db.workingHours.find? fun row =>
        row.businessId == businessId && row.tenantId == tenantId && staffScope staffId row.staffId
  | .scheduledStaffIds businessId tenantId, db =>
      ((db.workingHours.filter fun row =>
        row.businessId == businessId && row.tenantId == tenantId).filterMap (·.staffId)).dedup
  | .availabilityExceptions businessId tenantId date staffId, db =>
      db.availabilityExceptions.filter fun row =>
        row.businessId == businessId && row.tenantId == tenantId && row.date == date &&
          staffOrBusinessWide staffId row.staffId
  | .recurringStaffBlocks businessId tenantId dayOfWeek staffId, db =>
      db.recurringStaffBlocks.filter fun row =>
        row.businessId == businessId && row.tenantId == tenantId && row.dayOfWeek == dayOfWeek &&
          staffOrBusinessWide staffId row.staffId
  | .activeBookings businessId tenantId dayStart dayEnd staffId, db =>
      db.bookings.filter fun row =>
        row.businessId == businessId && row.tenantId == tenantId && row.status.active &&
          row.startsAt < dayEnd && row.endsAt > dayStart &&
          (staffId.isNone || row.staffId == staffId)
  | .nextConfirmedBooking businessId tenantId customerId now, db =>
      ((db.bookings.filter fun row =>
        row.businessId == businessId && row.tenantId == tenantId && row.customerId == customerId &&
          row.status == .confirmed && row.startsAt > now).insertionSort
            fun first second => first.startsAt ≤ second.startsAt).head?
  | .lastStaffBooking businessId tenantId customerId, db =>
      ((db.bookings.filter fun row =>
        row.businessId == businessId && row.tenantId == tenantId && row.customerId == customerId &&
          row.staffId.isSome).insertionSort
            fun first second => second.startsAt ≤ first.startsAt).head?
  | .customerByPhone businessId tenantId phoneNormalized, db =>
      db.customers.find? fun row =>
        row.businessId == businessId && row.tenantId == tenantId &&
          row.phoneNormalized == phoneNormalized
  | .clientByCustomer businessId tenantId customerId, db =>
      db.clients.find? fun row =>
        row.businessId == businessId && row.tenantId == tenantId &&
          row.customerId == some customerId
  | .voiceSession id tenantId, db =>
      db.voiceSessions.find? fun row => row.id == id && row.tenantId == tenantId
  | .voiceSessionByPrimaryKey id, db => db.voiceSessions.find? fun row => row.id == id
  | .voiceSessionByCallSid callSid, db =>
      db.voiceSessions.find? fun row => row.callSid == some callSid
  | .waitlistEntryByPrimaryKey id, db => db.waitlistEntries.find? fun row => row.id == id
  | .notificationByPrimaryKey id, db => db.notificationOutbox.find? fun row => row.id == id
  | .calendarEventByPrimaryKey id, db => db.calendarEvents.find? fun row => row.id == id
  | .serviceByPrimaryKey id, db => db.services.find? fun row => row.id == id
  | .staffByPrimaryKey id, db => db.staff.find? fun row => row.id == id
  | .staleNotifications threshold, db => db.notificationOutbox.filter (·.stale threshold)
  | .staleCalendarEvents threshold, db => db.calendarEvents.filter (·.stale threshold)
  | .staleVoiceSessions now, db =>
      db.voiceSessions.filter fun row => row.expiresAt ≤ now && !row.step.terminal
  | .dueBookings now threshold, db =>
      db.bookings.filter fun row =>
        row.status == .confirmed && row.startsAt > now && row.startsAt ≤ threshold
  | .queuedReminder bookingId, db =>
      db.notificationOutbox.find? fun row =>
        row.bookingId == some bookingId && row.purpose == .bookingReminder

end Query

end AppointmentVoice
