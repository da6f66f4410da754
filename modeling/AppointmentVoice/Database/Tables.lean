import Mathlib

/-!
# The tables

The rows of the application's database, with the columns that the modelled
services read or write, and the database as the list of rows of each table.
Timestamps are microseconds since the epoch in UTC, calendar dates are days
since the epoch, and times of day are microseconds since midnight.  They are
whole numbers without a bound; what a `datetime` of the application can tell is
`InCalendar`, and the services check it where their arithmetic can leave it.

A row carries only what its table and every path that writes it promise: a service
has a positive length, while the hours and the blocks of the schedule may well end
before they begin.
-/

set_option autoImplicit false

namespace AppointmentVoice

/-! ## Time -/

/-- A point in time: microseconds since the epoch, in UTC. -/
abbrev Instant := Int

/-- A calendar date: days since the epoch. -/
abbrev Date := Int

/-- A time of day: microseconds since midnight. -/
abbrev TimeOfDay := Fin 86400000000

/-- The length of a day in microseconds. -/
def dayLength : Int := 86400000000

/-- `timedelta(minutes=…)`. -/
def minutes (count : Nat) : Int := count * 60000000

theorem minutes_pos {count : Nat} (positive : 0 < count) : 0 < minutes count := by
  rw [minutes]
  omega

/-- The first moment that a `datetime` can tell: the year 1 begins. -/
def datetimeMin : Int := -62135596800000000

/-- The first moment past those that a `datetime` can tell: the year 10000 begins. -/
def datetimeEnd : Int := 253402300800000000

/-- A `datetime` can tell the time, whether in UTC or on a wall clock; arithmetic that
leads out of the calendar raises `OverflowError`. -/
def InCalendar (time : Int) : Prop := datetimeMin ≤ time ∧ time < datetimeEnd

instance (time : Int) : Decidable (InCalendar time) :=
  inferInstanceAs (Decidable (_ ∧ _))

theorem InCalendar.between {early time late : Int} (first : InCalendar early)
    (last : InCalendar late) (after : early ≤ time) (before : time ≤ late) : InCalendar time :=
  ⟨first.1.trans after, before.trans_lt last.2⟩

/-- `datetime.date()` of a UTC timestamp. -/
def dateOf (instant : Instant) : Date := instant.fdiv dayLength

/-! ## Catalogue -/

/-- Whether the salon takes bookings itself or sends a link. -/
inductive BookingMode where
  | internalBooking
  | externalBookingLink
  deriving DecidableEq, Repr

/-- The column is a plain string, so it can hold a policy that the service does
not know. -/
inductive TransferDestinationPolicy where
  | businessPhone
  | staff
  | unknown (raw : String)
  deriving DecidableEq, Repr

/-- A row of `businesses`. -/
structure Business where
  id : Nat
  tenantId : Nat
  name : String
  timezone : String
  language : String
  ownerNotificationPhone : Option String
  transferPhoneNumber : Option String
  transferEnabled : Bool
  transferDestinationPolicy : TransferDestinationPolicy
  bookingMode : BookingMode
  externalBookingUrl : Option String
  externalBookingLabel : Option String
  deriving DecidableEq, Repr

/-- A row of `customers`. -/
structure Customer where
  id : Nat
  tenantId : Nat
  businessId : Nat
  phone : String
  phoneNormalized : String
  name : Option String
  deriving DecidableEq, Repr

/-- A row of `clients`, linked to a customer or not. -/
structure Client where
  id : Nat
  tenantId : Nat
  businessId : Nat
  customerId : Option Nat
  name : String
  deriving DecidableEq, Repr

/-- `ServiceCreate` and `ServiceUpdate` reject a duration of less than a
minute. -/
structure Service where
  id : Nat
  tenantId : Nat
  businessId : Nat
  name : String
  durationMinutes : Nat
  durationPositive : 0 < durationMinutes
  isActive : Bool
  currency : Option String
  depositRequired : Bool
  depositMinorUnits : Option Nat
  deriving DecidableEq, Repr

/-- A row of `staff`. -/
structure Staff where
  id : Nat
  tenantId : Nat
  businessId : Nat
  name : String
  phone : Option String
  isActive : Bool
  deriving DecidableEq, Repr

/-- Whether a calendar shows who comes. -/
inductive CalendarVisibility where
  | publicEvents
  | privateEvents
  deriving DecidableEq, Repr

/-- A row of `calendar_integrations`. -/
structure CalendarIntegration where
  id : Nat
  tenantId : Nat
  businessId : Nat
  staffId : Option Nat
  provider : String
  isActive : Bool
  visibility : CalendarVisibility
  deriving DecidableEq, Repr

/-! ## Schedule -/

/-- A row of `working_hours`; without a member of staff it is the salon's. -/
structure WorkingHours where
  tenantId : Nat
  businessId : Nat
  staffId : Option Nat
  dayOfWeek : Int
  startTime : TimeOfDay
  endTime : TimeOfDay
  deriving DecidableEq, Repr

/-- A row of `availability_exceptions`: a closure of the date, or special hours. -/
structure AvailabilityException where
  tenantId : Nat
  businessId : Nat
  staffId : Option Nat
  date : Date
  isClosed : Bool
  startTime : Option TimeOfDay
  endTime : Option TimeOfDay
  deriving DecidableEq, Repr

/-- `RecurringStaffBlockCreate.end_after_start` compares the two ends with their UTC
offsets, which the columns drop, so a stored block can end before it begins. -/
structure RecurringStaffBlock where
  tenantId : Nat
  businessId : Nat
  staffId : Option Nat
  dayOfWeek : Int
  startTime : TimeOfDay
  endTime : TimeOfDay
  deriving DecidableEq, Repr

/-! ## Bookings and what hangs on them -/

/-- The states of a booking. -/
inductive BookingStatus where
  | confirmed
  | cancelled
  | pendingPayment
  deriving DecidableEq, Repr

/-- The statuses in which a booking takes up its slot. -/
def BookingStatus.active : BookingStatus → Bool
  | .confirmed => true
  | .pendingPayment => true
  | .cancelled => false

/-- Where a booking was made. -/
inductive BookingSource where
  | api
  | ivr
  deriving DecidableEq, Repr

/-- The text of a source. -/
def BookingSource.value : BookingSource → String
  | .api => "api"
  | .ivr => "ivr"

/-- A row of `bookings`. -/
structure Booking where
  id : Nat
  tenantId : Nat
  businessId : Nat
  customerId : Nat
  serviceId : Nat
  staffId : Option Nat
  startsAt : Instant
  endsAt : Instant
  status : BookingStatus
  source : BookingSource
  cancelReason : Option String
  createdAt : Instant
  deriving DecidableEq, Repr

/-- The states of a payment. -/
inductive BookingPaymentStatus where
  | pending
  | succeeded
  | failed
  | refunded
  deriving DecidableEq, Repr

/-- A row of `booking_payments`. -/
structure BookingPayment where
  id : Nat
  tenantId : Nat
  businessId : Nat
  bookingId : Nat
  provider : String
  providerSessionId : Option String
  providerPaymentId : Option String
  amountMinorUnits : Nat
  currency : String
  status : BookingPaymentStatus
  failureReason : Option String
  paidAt : Option Instant
  refundedAt : Option Instant
  deriving DecidableEq, Repr

/-- The audited actions of the booking services. -/
inductive AuditAction where
  | bookingCreated
  | bookingCancelled
  | bookingRescheduled
  | bookingConfirmed
  | bookingOverrideCreated
  | bookingOverrideCancelled
  | bookingHoldExpired
  | bookingPaymentRefunded
  deriving DecidableEq, Repr

/-- A row of `audit_logs`. -/
structure AuditLog where
  id : Nat
  tenantId : Nat
  adminId : Option Nat
  action : AuditAction
  targetBookingId : Option Nat
  source : Option String
  deriving DecidableEq, Repr

/-- What a message is about. -/
inductive NotificationPurpose where
  | bookingConfirmation
  | bookingCancellation
  | bookingReminder
  | externalBookingLink
  | waitlistOffer
  deriving DecidableEq, Repr

/-- The states of a message. -/
inductive NotificationStatus where
  | pending
  | sent
  | failed
  deriving DecidableEq, Repr

/-- A row of `notification_outbox`. -/
structure NotificationOutbox where
  id : Nat
  tenantId : Nat
  businessId : Nat
  bookingId : Option Nat
  purpose : NotificationPurpose
  recipientPhone : String
  body : String
  status : NotificationStatus := .pending
  attempts : Nat := 0
  lastError : Option String := none
  providerMessageId : Option String := none
  createdAt : Instant
  sentAt : Option Instant := none
  reconciledAt : Option Instant := none
  deriving DecidableEq, Repr

/-- The states of a calendar event. -/
inductive CalendarSyncStatus where
  | pending
  | synced
  | failed
  | cancelled
  | cancelFailed
  deriving DecidableEq, Repr

/-- A row of `calendar_events`. -/
structure CalendarEvent where
  id : Nat
  tenantId : Nat
  businessId : Nat
  bookingId : Nat
  provider : String
  providerEventId : Option String := none
  status : CalendarSyncStatus := .pending
  attempts : Nat := 0
  cancelAttempts : Nat := 0
  lastError : Option String := none
  createdAt : Instant
  syncedAt : Option Instant := none
  reconciledAt : Option Instant := none
  deriving DecidableEq, Repr

/-- The states of a waitlist entry. -/
inductive WaitlistEntryStatus where
  | waiting
  | offered
  | confirmed
  | expired
  | cancelled
  deriving DecidableEq, Repr

/-- A row of `waitlist_entries`. -/
structure WaitlistEntry where
  id : Nat
  tenantId : Nat
  businessId : Nat
  customerId : Nat
  serviceId : Nat
  staffId : Option Nat
  offeredForStaffId : Option Nat
  desiredDate : Date
  status : WaitlistEntryStatus
  createdAt : Instant
  updatedAt : Instant
  deriving DecidableEq, Repr

/-! ## Phone calls -/

/-- The steps of a phone call. -/
inductive IvrStep where
  | incoming
  | serviceSelection
  | staffSelection
  | slotSelection
  | bookingConfirmed
  | noSlots
  | expired
  | abandoned
  | transferUnavailable
  | externalLinkSent
  | manageBooking
  | rescheduleSlotSelection
  | bookingCancelled
  deriving DecidableEq, Repr

/-- `slotCandidates` is the decoded list of the JSON column; the pairs are the
`start` and `end` of a candidate. -/
structure VoiceSession where
  id : Nat
  tenantId : Nat
  businessId : Nat
  callerPhone : String
  step : IvrStep
  locale : String
  selectedServiceId : Option Nat
  selectedStaffId : Option Nat
  selectedSlotStart : Option Instant
  selectedSlotEnd : Option Instant
  bookingId : Option Nat
  managedBookingId : Option Nat
  slotCandidates : Option (List (Instant × Instant))
  noInputCount : Nat
  invalidKeyCount : Nat
  callSid : Option String
  transferDestination : Option String
  expiresAt : Instant
  deriving DecidableEq, Repr

/-! ## The database -/

/-- The tables. -/
structure Db where
  businesses : List Business
  customers : List Customer
  clients : List Client
  services : List Service
  staff : List Staff
  calendarIntegrations : List CalendarIntegration
  workingHours : List WorkingHours
  availabilityExceptions : List AvailabilityException
  recurringStaffBlocks : List RecurringStaffBlock
  bookings : List Booking
  bookingPayments : List BookingPayment
  auditLogs : List AuditLog
  notificationOutbox : List NotificationOutbox
  calendarEvents : List CalendarEvent
  waitlistEntries : List WaitlistEntry
  voiceSessions : List VoiceSession
  deriving DecidableEq, Repr

/-- The database with no row in any table. -/
def Db.empty : Db := ⟨[], [], [], [], [], [], [], [], [], [], [], [], [], [], [], []⟩

end AppointmentVoice
