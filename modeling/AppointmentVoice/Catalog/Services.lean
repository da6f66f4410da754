import AppointmentVoice.Catalog.Store
import AppointmentVoice.Services.Booking

/-!
# Services, their deletion and the rows that name them

The functions that delete and edit services, and those that insert rows with a reference
to one, as programs over the statements of a session.  What a new booking brings with it
in other tables (its audit entry, its messages and its calendar row) refers to no service
and is left out here.
-/

set_option autoImplicit false

namespace AppointmentVoice.Catalog

open Concurrency

/-- The domain errors, and what the database layer raises. -/
inductive CatalogError where
  | badRequest (message : String)
  | notFound (message : String)
  | conflict (message : String)
  | integrity (constraint : CatalogConstraint)
  | staleData
  | database
  deriving DecidableEq, Repr

/-- The errors that the handlers of the application answer. -/
def CatalogError.Domain : CatalogError → Prop
  | .badRequest _ => True
  | .notFound _ => True
  | .conflict _ => True
  | _ => False

/-- The programs of the catalogue services. -/
abbrev CatalogM := Program CatalogSql CatalogError

/-! ## Statements as programs -/

/-- Send a SELECT. -/
def select (query : CatalogQuery) : CatalogM query.Row :=
  Program.issue (S := CatalogSql) (.select query)

/-- `db.commit()`. -/
def commit : CatalogM Unit := Program.issue (S := CatalogSql) .commit

/-- Raise unless there is a value. -/
def orRaise {α : Type} (error : CatalogError) : Option α → CatalogM α
  | some value => pure value
  | none => throw error

/-- What a refused `INSERT` raises. -/
def numbered : Except CatalogConstraint Nat → CatalogM Nat
  | .ok id => pure id
  | .error constraint => throw (.integrity constraint)

/-- Send an INSERT; a constraint that refuses the row raises. -/
def insert (draft : Nat → Instant → CatalogRow) : CatalogM Nat := do
  let answer : Except CatalogConstraint Nat ← Program.issue (S := CatalogSql) (.insert draft)
  numbered answer

/-- The flush of an edited row; without a changed column there is nothing to flush. -/
def update (serviceId : Nat) (columns : ServiceColumns) : CatalogM Unit := do
  if columns = {} then return ()
  let found : Bool ← Program.issue (S := CatalogSql) (.update serviceId columns)
  if found = false then throw .staleData

/-- The flush of a deleted row. -/
def delete (serviceId : Nat) : CatalogM Unit := do
  let refused : Option CatalogConstraint ← Program.issue (S := CatalogSql) (.delete serviceId)
  match refused with
  | some constraint => throw (.integrity constraint)
  | none => pure ()

/-! ## Salons, customers, staff and services -/

/-- `require_business`: the business, if it is one of the tenant. -/
def requireBusiness (businessId tenantId : Nat) : CatalogM Business := do
  orRaise (.notFound "Business not found") (← select (.business businessId tenantId))

/-- `require_customer`: the customer, if it is one of the tenant. -/
def requireCustomer (customerId tenantId : Nat) : CatalogM Customer := do
  orRaise (.notFound "Customer not found") (← select (.customer customerId tenantId))

/-- `require_customer_in_business`: a customer of another business is not found. -/
def requireCustomerInBusiness (customerId businessId tenantId : Nat) : CatalogM Customer := do
  let customer ← requireCustomer customerId tenantId
  if customer.businessId ≠ businessId then throw (.notFound "Customer not found")
  return customer

/-- `require_staff`: the member of staff, if it is one of the tenant. -/
def requireStaff (staffId tenantId : Nat) : CatalogM Staff := do
  orRaise (.notFound "Staff member not found") (← select (.staff staffId tenantId))

/-- `require_staff_in_business`: a member of another business is not found. -/
def requireStaffInBusiness (staffId businessId tenantId : Nat) : CatalogM Staff := do
  let member ← requireStaff staffId tenantId
  if member.businessId ≠ businessId then throw (.notFound "Staff member not found")
  return member

/-- `if staff_id is not None: require_staff_in_business(...)`. -/
def requireStaffIfGiven (staffId : Option Nat) (businessId tenantId : Nat) : CatalogM Unit :=
  match staffId with
  | some staffId => do
      let _ ← requireStaffInBusiness staffId businessId tenantId
  | none => pure ()

/-- `require_service`: the service, if it is one of the tenant. -/
def requireService (serviceId tenantId : Nat) : CatalogM Service := do
  orRaise (.notFound "Service not found") (← select (.service serviceId tenantId))

/-- `require_service_in_business`: a service of another business is not found. -/
def requireServiceInBusiness (serviceId businessId tenantId : Nat) : CatalogM Service := do
  let svc ← requireService serviceId tenantId
  if svc.businessId ≠ businessId then throw (.notFound "Service not found")
  return svc

/-! ## Services -/

/-- What the deletion of a booked service is refused with. -/
def confirmedBookings : CatalogError :=
  .conflict "Cannot delete a service that has confirmed bookings"

/-- `delete_service`: a service with a booking that is not cancelled stays. -/
def deleteService (serviceId tenantId businessId : Nat) : CatalogM Unit := do
  let svc ← requireServiceInBusiness serviceId businessId tenantId
  let hasBookings : Option Booking ← select (.uncancelledBooking serviceId businessId tenantId)
  if hasBookings.isSome then throw confirmedBookings
  delete svc.id
  commit

/-- `_check_deposit_fields`. -/
def checkDepositFields (svc : Service) : CatalogM Unit := do
  if svc.depositRequired && (svc.depositMinorUnits.isNone || svc.currency.isNone) then
    throw (.badRequest
      "deposit_minor_units and currency are required when deposit_required is true")

/-- `update_service`. -/
def updateService (serviceId businessId tenantId : Nat) (body : ServiceColumns) :
    CatalogM Service := do
  let svc ← requireServiceInBusiness serviceId businessId tenantId
  checkDepositFields (body.set svc)
  update svc.id (body.changed svc)
  commit
  orRaise .database (← select (.serviceByPrimaryKey svc.id))

/-! ## Rows that refer to a service -/

/-- `_check_double_booking`. -/
def checkDoubleBooking (staffId : Option Nat) (businessId : Nat) (startsAt endsAt : Instant) :
    CatalogM Unit := do
  match staffId with
  | none => return ()
  | some staffId =>
      let taken : Option Booking ← select (.doubleBooking staffId businessId startsAt endsAt)
      if taken.isSome then
        throw (.conflict "This time slot is already booked for the selected staff")

/-- `create_booking`, as far as it concerns these tables.  The booking is flushed before the
`try` block begins. -/
def createBooking (args : CreateBooking) : CatalogM Booking := do
  if args.override && blank args.reason then
    throw (.badRequest "reason is required for an admin override booking")
  let _ ← requireBusiness args.businessId args.tenantId
  let _ ← requireCustomerInBusiness args.customerId args.businessId args.tenantId
  let svc ← requireServiceInBusiness args.serviceId args.businessId args.tenantId
  requireStaffIfGiven args.staffId args.businessId args.tenantId
  let endsAt := args.startsAt + minutes svc.durationMinutes
  checkDoubleBooking args.staffId args.businessId args.startsAt endsAt
  let id ← insert fun id clock => .booking
    ⟨id, args.tenantId, args.businessId, args.customerId, args.serviceId, args.staffId,
      args.startsAt, endsAt, .confirmed, args.source, none, clock⟩
  commit
  orRaise .database (← select (.bookingByPrimaryKey id))

/-- The arguments of `create_waitlist_entry`. -/
structure CreateWaitlistEntry where
  tenantId : Nat
  businessId : Nat
  customerId : Nat
  serviceId : Nat
  desiredDate : Date
  staffId : Option Nat := none

/-- `create_waitlist_entry`. -/
def createWaitlistEntry (args : CreateWaitlistEntry) : CatalogM WaitlistEntry := do
  let _ ← requireBusiness args.businessId args.tenantId
  let _ ← requireCustomerInBusiness args.customerId args.businessId args.tenantId
  let _ ← requireServiceInBusiness args.serviceId args.businessId args.tenantId
  requireStaffIfGiven args.staffId args.businessId args.tenantId
  let id ← insert fun id clock => .waitlistEntry
    ⟨id, args.tenantId, args.businessId, args.customerId, args.serviceId, args.staffId, none,
      args.desiredDate, .waiting, clock, clock⟩
  commit
  orRaise .database (← select (.waitlistEntryByPrimaryKey id))

/-- `require_booking`: the booking, if it is one of the tenant. -/
def requireBooking (bookingId tenantId : Nat) : CatalogM Booking := do
  orRaise (.notFound "Booking not found") (← select (.booking bookingId tenantId))

/-- `add_booking_line_item`: the items of the booking are counted, and the new one gets the next
position. -/
def addBookingLineItem (bookingId tenantId serviceId : Nat) : CatalogM BookingLineItem := do
  let booking ← requireBooking bookingId tenantId
  let svc ← requireService serviceId tenantId
  if svc.businessId ≠ booking.businessId then throw (.notFound "Service not found")
  let nextPosition : Nat ← select (.lineItemCount bookingId)
  let id ← insert fun id _ => .lineItem
    ⟨id, tenantId, booking.businessId, bookingId, serviceId, nextPosition, svc.durationMinutes⟩
  commit
  orRaise .database (← select (.lineItemByPrimaryKey id))

/-- `list_booking_line_items`. -/
def listBookingLineItems (bookingId tenantId : Nat) : CatalogM (List BookingLineItem) := do
  let _ ← requireBooking bookingId tenantId
  select (.lineItems bookingId tenantId)

/-- `get_booking_total_duration_minutes`: zero for a booking without line items. -/
def getBookingTotalDurationMinutes (bookingId tenantId : Nat) : CatalogM Nat := do
  let lineItems ← listBookingLineItems bookingId tenantId
  return (lineItems.map (·.durationMinutes)).sum

/-! ## The machine -/

/-- The calls that are interleaved. -/
inductive CatalogCall where
  | deleteService (serviceId tenantId businessId : Nat)
  | updateService (serviceId businessId tenantId : Nat) (body : ServiceColumns)
  | createBooking (args : CreateBooking)
  | createWaitlistEntry (args : CreateWaitlistEntry)
  | addBookingLineItem (bookingId tenantId serviceId : Nat)

/-- What a call returns. -/
inductive CatalogResult where
  | none
  | service (row : Service)
  | booking (row : Booking)
  | waitlistEntry (row : WaitlistEntry)
  | lineItem (row : BookingLineItem)

/-- The program of a call. -/
def performCatalog : CatalogCall → CatalogM CatalogResult
  | .deleteService serviceId tenantId businessId => do
      deleteService serviceId tenantId businessId
      return .none
  | .updateService serviceId businessId tenantId body => do
      return .service (← updateService serviceId businessId tenantId body)
  | .createBooking args => do return .booking (← createBooking args)
  | .createWaitlistEntry args => do return .waitlistEntry (← createWaitlistEntry args)
  | .addBookingLineItem bookingId tenantId serviceId => do
      return .lineItem (← addBookingLineItem bookingId tenantId serviceId)

/-- Any number of requests, each in a session of its own, while time goes on. -/
def catalogMachine : Machine CatalogSql CatalogWorld CatalogCall CatalogError CatalogResult where
  perform := performCatalog
  exec pid _ stmt world := execCatalog pid stmt world
  enter pid world := world.release pid
  leave pid world := world.release pid
  ambient before after := ∃ clock, before.clock ≤ clock ∧ after = { before with clock }

/-- The catalogue with the calls that are under way. -/
abbrev CatalogConfig := Config CatalogSql CatalogWorld CatalogCall CatalogError CatalogResult

end AppointmentVoice.Catalog
