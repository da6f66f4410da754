import AppointmentVoice.Formats.Iso
import AppointmentVoice.Database.Session

/-!
# What the services share

The errors and settings of the services, the statements as programs, the
lookups that raise when a row is missing or belongs to another business, the
audit log, the outbox and the calendar rows.

A change to a mapped object is written where the service makes it.  The session
would send it with its next flush; no statement in between reads the row.
-/

set_option autoImplicit false

namespace AppointmentVoice

open Concurrency

/-! ## Errors and settings -/

/-- The exceptions of the services: the domain errors with their message, a
constraint violation as the driver reports it, an unknown time zone, a time outside
the calendar of `datetime`, a failed push to Redis, a row gone at refresh, a missing
row where `.one()` wants one, a value that its column does not take, the errors with
which a worker gives its job back, and whatever a provider raises. -/
inductive AppError where
  | badRequest (message : String)
  | notFound (message : String)
  | conflict (message : String)
  | integrity (constraint : Constraint)
  | zoneInfoNotFound (key : String)
  | overflow
  | redis
  | refresh
  | noResultFound
  | data
  | smsDelivery (error : Option String)
  | calendarSync (error : Option String)
  | calendarCancel (error : Option String)
  | provider
  deriving DecidableEq, Repr

/-- A time zone: wall-clock time to UTC (with `fold = 0`) and back. -/
structure Zone where
  toUtc : Int → Instant
  fromUtc : Instant → Int

/-- The settings the services read, the zone database of `zoneinfo`, and the
keyed hash of the public links. -/
structure Settings where
  bookingPaymentHoldMinutes : Nat
  waitlistOfferTimeoutMinutes : Nat
  bookingPublicBaseUrl : String
  ivrSessionTtlMinutes : Nat
  ivrSlotSearchDays : Nat
  ivrMaxSlots : Nat
  workerMaxRetries : Nat
  workerReconciliationStaleMinutes : Nat
  reminderLeadMinutes : Nat
  reminderMinAdvanceMinutes : Nat
  zoneInfo : String → Option Zone
  sign : Nat → Int → String

/-- A service function. -/
abbrev DbM := Program Sql AppError

/-! ## Statements as programs -/

/-- Send a SELECT. -/
def select (query : Query) : DbM query.Row := Program.issue (S := Sql) (.select query)

/-- `SELECT ... FOR UPDATE` of a booking: its row is locked until the transaction ends. -/
def selectBookingForUpdate (id tenantId : Nat) : DbM (Option Booking) :=
  Program.issue (S := Sql) (.selectBookingForUpdate id tenantId)

/-- `SELECT ... FOR UPDATE SKIP LOCKED` of the entries that wait for a slot. -/
def selectWaitlistForUpdateSkipLocked (filter : WaitlistFilter) : DbM (List WaitlistEntry) :=
  Program.issue (S := Sql) (.selectWaitlistForUpdateSkipLocked filter)

/-- `SELECT ... FOR UPDATE SKIP LOCKED` of the offers made before a time. -/
def selectStaleOffersForUpdateSkipLocked (threshold : Instant) : DbM (List WaitlistEntry) :=
  Program.issue (S := Sql) (.selectStaleOffersForUpdateSkipLocked threshold)

/-- Send an UPDATE by primary key. -/
def update (write : Write) : DbM Unit := Program.issue (S := Sql) (.update write)

/-- `db.commit()`. -/
def commit : DbM Unit := Program.issue (S := Sql) .commit

/-- `db.rollback()`. -/
def rollback : DbM Unit := Program.issue (S := Sql) .rollback

/-- Read the clock. -/
def now : DbM Instant := Program.issue (S := Sql) .now

/-- A request to the world outside: the queue, or a provider. -/
def ask (request : Request) : DbM request.Answer := Program.issue (S := Sql) (.ask request)

/-- Insert a row and return its key; a violated constraint is raised. -/
def insert (draft : Nat → Write) : DbM Nat :=
  Program.call (S := Sql) (.insert draft) fun
    | Except.ok id => .ret id
    | Except.error constraint => .raise (.integrity constraint)

/-- `enqueue_job`: a push that Redis does not take is raised. -/
def enqueueJob (job : QueuedJob) : DbM Unit :=
  Program.call (S := Sql) (.push job) fun
    | true => .ret ()
    | false => .raise .redis

/-- Push the jobs one after the other. -/
def enqueueJobs : List QueuedJob → DbM Unit
  | [] => pure ()
  | job :: jobs => do
      enqueueJob job
      enqueueJobs jobs

/-- The row, or the error of a missing one. -/
def orRaise {α : Type} (error : AppError) : Option α → DbM α
  | some row => pure row
  | none => throw error

/-- The time, or the error of arithmetic that leaves the calendar. -/
def orOverflow (time : Int) : DbM Int :=
  if InCalendar time then pure time else throw .overflow

/-- A column of some length takes the text: it is not longer, and has no NUL. -/
def fitsColumn (limit : Nat) (text : String) : Bool :=
  text.length ≤ limit && !text.toList.contains (Char.ofNat 0)

/-- PostgreSQL takes the texts of a write, or it raises a `DataError`. -/
def orDataError (fits : Bool) : DbM Unit := if fits then pure () else throw .data

/-- Of several times. -/
def eachOrOverflow (times : List Int) : DbM Unit :=
  if ∀ time ∈ times, InCalendar time then pure () else throw .overflow

/-! ## Lookups -/

/-- `require_business`: the business, if it is one of the tenant. -/
def requireBusiness (businessId tenantId : Nat) : DbM Business := do
  orRaise (.notFound "Business not found") (← select (.business businessId tenantId))

/-- `require_customer`: the customer, if it is one of the tenant. -/
def requireCustomer (customerId tenantId : Nat) : DbM Customer := do
  orRaise (.notFound "Customer not found") (← select (.customer customerId tenantId))

/-- `require_customer_in_business`: a customer of another business is not found. -/
def requireCustomerInBusiness (customerId businessId tenantId : Nat) : DbM Customer := do
  let customer ← requireCustomer customerId tenantId
  if customer.businessId ≠ businessId then throw (.notFound "Customer not found")
  return customer

/-- `require_service`: the service, if it is one of the tenant. -/
def requireService (serviceId tenantId : Nat) : DbM Service := do
  orRaise (.notFound "Service not found") (← select (.service serviceId tenantId))

/-- `require_service_in_business`: a service of another business is not found. -/
def requireServiceInBusiness (serviceId businessId tenantId : Nat) : DbM Service := do
  let service ← requireService serviceId tenantId
  if service.businessId ≠ businessId then throw (.notFound "Service not found")
  return service

/-- `require_staff`: the member of staff, if it is one of the tenant. -/
def requireStaff (staffId tenantId : Nat) : DbM Staff := do
  orRaise (.notFound "Staff member not found") (← select (.staffMember staffId tenantId))

/-- `require_staff_in_business`: a member of another business is not found. -/
def requireStaffInBusiness (staffId businessId tenantId : Nat) : DbM Staff := do
  let member ← requireStaff staffId tenantId
  if member.businessId ≠ businessId then throw (.notFound "Staff member not found")
  return member

/-- `if staff_id is not None: require_staff_in_business(…)`. -/
def requireStaffIfGiven (staffId : Option Nat) (businessId tenantId : Nat) : DbM Unit :=
  match staffId with
  | some staffId => do
      let _ ← requireStaffInBusiness staffId businessId tenantId
      return ()
  | none => pure ()

/-- `require_booking`: the booking, if it is one of the tenant. -/
def requireBooking (bookingId tenantId : Nat) : DbM Booking := do
  orRaise (.notFound "Booking not found") (← select (.booking bookingId tenantId))

/-- `require_booking_in_business`: a booking of another business is not found. -/
def requireBookingInBusiness (bookingId businessId tenantId : Nat) : DbM Booking := do
  let booking ← requireBooking bookingId tenantId
  if booking.businessId ≠ businessId then throw (.notFound "Booking not found")
  return booking

/-- `_require_booking_in_business_for_update`. -/
def requireBookingInBusinessForUpdate (bookingId businessId tenantId : Nat) : DbM Booking := do
  let booking ← orRaise (.notFound "Booking not found")
    (← selectBookingForUpdate bookingId tenantId)
  if booking.businessId ≠ businessId then throw (.notFound "Booking not found")
  return booking

/-- `db.refresh(booking)`. -/
def refreshBooking (bookingId : Nat) : DbM Booking := do
  orRaise .refresh (← select (.bookingByPrimaryKey bookingId))

/-- `db.refresh(payment)`. -/
def refreshPayment (paymentId : Nat) : DbM BookingPayment := do
  orRaise .refresh (← select (.paymentByPrimaryKey paymentId))

/-- `db.refresh(entry)`. -/
def refreshWaitlistEntry (entryId : Nat) : DbM WaitlistEntry := do
  orRaise .refresh (← select (.waitlistEntryByPrimaryKey entryId))

/-! ## Text -/

/-- The characters that `str.strip()` removes. -/
def isSpace (char : Char) : Bool :=
  let code := char.toNat
  (9 ≤ code && code ≤ 13) || (28 ≤ code && code ≤ 32) || code == 0x85 || code == 0xA0 ||
    code == 0x1680 || (0x2000 ≤ code && code ≤ 0x200A) || code == 0x2028 || code == 0x2029 ||
    code == 0x202F || code == 0x205F || code == 0x3000

/-- `not (reason or "").strip()`. -/
def blank (reason : Option String) : Bool := (reason.getD "").toList.all isSpace

/-- A number of at most two digits, as `%02d` writes it. -/
def twoDigits (number : Int) : String :=
  if number < 10 then "0" ++ toString number else toString number

/-- `strftime("%Y-%m-%d")`. -/
def formatDate (date : Date) : String :=
  let (year, month, day) := Formats.civil date
  toString year ++ "-" ++ twoDigits month ++ "-" ++ twoDigits day

/-- `strftime("%Y-%m-%d %H:%M")` of a wall-clock time. -/
def formatWallClock (wall : Int) : String :=
  let seconds := (wall.fmod dayLength) / 1000000
  formatDate (wall.fdiv dayLength) ++ " " ++ twoDigits (seconds / 3600) ++ ":" ++
    twoDigits (seconds / 60 % 60)

/-- `starts_at.astimezone(ZoneInfo(business.timezone))`: an unknown zone name is an
error of `zoneinfo`, and so is a local time outside the calendar one of `datetime`. -/
def Settings.localTime (cfg : Settings) (business : Business) (startsAt : Instant) :
    Except AppError Int :=
  match cfg.zoneInfo business.timezone with
  | some zone =>
      if InCalendar (zone.fromUtc startsAt) then .ok (zone.fromUtc startsAt)
      else .error .overflow
  | none => .error (.zoneInfoNotFound business.timezone)

/-- The local time of the business can be told. -/
def Settings.TellsTime (cfg : Settings) (business : Business) (startsAt : Instant) : Prop :=
  (cfg.localTime business startsAt).toOption.isSome = true

instance (cfg : Settings) (business : Business) (startsAt : Instant) :
    Decidable (cfg.TellsTime business startsAt) :=
  inferInstanceAs (Decidable (_ = _))

/-- The errors of the conversion. -/
theorem Settings.error_localTime {cfg : Settings} {business : Business} {startsAt : Instant}
    {error : AppError} (failed : cfg.localTime business startsAt = .error error) :
    error = .zoneInfoNotFound business.timezone ∨ error = .overflow := by
  rw [localTime] at failed
  split at failed
  · split at failed
    · cases failed
    · cases failed
      exact .inr rfl
  · cases failed
    exact .inl rfl

theorem Settings.not_tellsTime {cfg : Settings} {business : Business} {startsAt : Instant}
    {error : AppError} (failed : cfg.localTime business startsAt = .error error) :
    ¬cfg.TellsTime business startsAt := by
  rw [TellsTime, failed]
  exact Bool.false_ne_true

/-- `_format_local_time`. -/
def formatLocalTime (cfg : Settings) (startsAt : Instant) (business : Business) : DbM String :=
  match cfg.localTime business startsAt with
  | .ok wall => pure (formatWallClock wall)
  | .error error => throw error

/-- `BOOKING_TOKEN_TTL_SECONDS`. -/
def bookingTokenTtlSeconds : Int := 90 * 24 * 3600

/-- `generate_booking_token`: the booking, the expiry, and their signature. -/
def generateBookingToken (cfg : Settings) (bookingId : Nat) : DbM String := do
  let time ← now
  let exp := time / 1000000 + bookingTokenTtlSeconds
  return toString bookingId ++ "." ++ toString exp ++ "." ++ cfg.sign bookingId exp

/-- `str.rstrip("/")`. -/
def stripSlashes (text : String) : String :=
  String.ofList (text.toList.reverse.dropWhile (· == '/')).reverse

/-- `build_public_management_url`: none unless a base is configured. -/
def buildPublicManagementUrl (cfg : Settings) (bookingId : Nat) : DbM (Option String) := do
  let base := stripSlashes cfg.bookingPublicBaseUrl
  if base.isEmpty then return none
  let token ← generateBookingToken cfg bookingId
  return some (base ++ "/" ++ token)

/-! ## Audit log -/

/-- `create_audit_log(…, commit=False)`. -/
def createAuditLog (tenantId : Nat) (adminId : Option Nat) (action : AuditAction)
    (targetBookingId : Nat) (source : Option String) : DbM Unit := do
  let _ ← insert fun id =>
    .insertAudit ⟨id, tenantId, adminId, action, some targetBookingId, source⟩

/-! ## Outbox -/

/-- One SMS to be sent.  `created_at` is filled in by the database, with the time at
which the transaction has begun. -/
def addIntent (tenantId businessId : Nat) (bookingId : Option Nat) (purpose : NotificationPurpose)
    (recipientPhone body : String) (createdAt : Instant) : DbM Nat :=
  insert fun id =>
    .insertOutbox { id, tenantId, businessId, bookingId, purpose, recipientPhone, body, createdAt }

/-- The message to the owner, for a business that has a number for it. -/
def addOwnerIntent (booking : Booking) (business : Business) (purpose : NotificationPurpose)
    (body : String) (createdAt : Instant) : DbM (List Nat) :=
  match business.ownerNotificationPhone with
  | some phone =>
      if phone.isEmpty then pure []
      else do
        let id ← addIntent booking.tenantId booking.businessId (some booking.id) purpose phone body
          createdAt
        return [id]
  | none => pure []

/-- `enqueue_booking_confirmation`: a message to the customer, and one to the owner if there is
a number. -/
def enqueueBookingConfirmation (cfg : Settings) (booking : Booking) (business : Business)
    (customer : Customer) (service : Service) (createdAt : Instant) : DbM (List Nat) := do
  let when ← formatLocalTime cfg booking.startsAt business
  let manageUrl ← buildPublicManagementUrl cfg booking.id
  let manageSuffix := match manageUrl with
    | some url => " Manage: " ++ url
    | none => ""
  let first ← addIntent booking.tenantId booking.businessId (some booking.id)
    .bookingConfirmation customer.phone
    ("Your " ++ service.name ++ " appointment at " ++ business.name ++ " is confirmed for " ++
      when ++ "." ++ manageSuffix) createdAt
  let owner ← addOwnerIntent booking business .bookingConfirmation
    ("New booking: " ++ service.name ++ " for " ++ customer.phone ++ " on " ++ when ++
      ".") createdAt
  return first :: owner

/-- `enqueue_booking_cancellation`: a message to the customer, and one to the owner if there is
a number. -/
def enqueueBookingCancellation (cfg : Settings) (booking : Booking) (business : Business)
    (customer : Customer) (service : Service) (createdAt : Instant) : DbM (List Nat) := do
  let when ← formatLocalTime cfg booking.startsAt business
  let first ← addIntent booking.tenantId booking.businessId (some booking.id)
    .bookingCancellation customer.phone
    ("Your " ++ service.name ++ " appointment at " ++ business.name ++ " on " ++ when ++
      " has been cancelled.") createdAt
  let owner ← addOwnerIntent booking business .bookingCancellation
    ("Booking cancelled: " ++ service.name ++ " for " ++ customer.phone ++ " on " ++ when ++
      ".") createdAt
  return first :: owner

/-- `enqueue_waitlist_offer`. -/
def enqueueWaitlistOffer (entry : WaitlistEntry) (business : Business) (customer : Customer)
    (service : Service) (createdAt : Instant) : DbM Nat :=
  addIntent entry.tenantId entry.businessId none .waitlistOffer customer.phone
    ("Good news! A " ++ service.name ++ " slot opened up at " ++ business.name ++ " on " ++
      formatDate entry.desiredDate ++ ". Call us to book it.") createdAt

/-! ## Calendar -/

/-- `_get_calendar_integration`: the staff member's own, else the business's. -/
def getCalendarIntegration (businessId tenantId : Nat) (staffId : Option Nat) :
    DbM (Option CalendarIntegration) := do
  match staffId with
  | some _ =>
      let own : Option CalendarIntegration ←
        select (.calendarIntegration businessId tenantId staffId)
      match own with
      | some integration => return some integration
      | none => select (.calendarIntegration businessId tenantId none)
  | none => select (.calendarIntegration businessId tenantId none)

/-- `enqueue_calendar_event`: a row for the calendar of the member of staff, or of the salon. -/
def enqueueCalendarEvent (booking : Booking) (business : Business) (createdAt : Instant) :
    DbM Nat := do
  let integration ← getCalendarIntegration business.id booking.tenantId booking.staffId
  let provider := match integration with
    | some row => row.provider
    | none => "null"
  insert fun id =>
    .insertCalendarEvent
      { id, tenantId := booking.tenantId, businessId := booking.businessId,
        bookingId := booking.id, provider, createdAt }

end AppointmentVoice
