import AppointmentVoice.Services.Workers

/-!
# Bookings, payment holds and the waitlist

The transactions of the booking service and of the waitlist sweep, statement by
statement, and the calls through which they are reached.
-/

set_option autoImplicit false

namespace AppointmentVoice

open Concurrency

/-! ## Making a booking -/

/-- What a booking over another one is refused with. -/
def slotTaken : AppError := .conflict "This time slot is already booked for the selected staff"

/-- `_check_double_booking`. -/
def checkDoubleBooking (staffId : Option Nat) (businessId : Nat) (startsAt endsAt : Instant)
    (excludeBookingId : Option Nat) : DbM Unit := do
  match staffId with
  | none => return ()
  | some staffId =>
      let conflict : Option Booking ←
        select (.doubleBooking staffId businessId startsAt endsAt excludeBookingId)
      match conflict with
      | some _ => throw slotTaken
      | none => return ()

/-- The `except IntegrityError` clause around a commit: the exclusion constraint
becomes a domain error, any other violation is raised again. -/
def onIntegrityError {α : Type} : AppError → DbM α
  | .integrity constraint => do
      rollback
      if constraint = .noOverlappingStaffBookings then throw slotTaken
      throw (.integrity constraint)
  | error => throw error

/-- The arguments of `create_booking`. -/
structure CreateBooking where
  tenantId : Nat
  businessId : Nat
  customerId : Nat
  serviceId : Nat
  staffId : Option Nat
  startsAt : Instant
  source : BookingSource := .api
  actorId : Option Nat := none
  override : Bool := false
  reason : Option String := none
  deriving DecidableEq, Repr

/-- `create_booking`.  The insert of the booking is flushed before the `try`
block begins.  The requested start is a datetime in UTC; its end may lie past the
last one. -/
def createBooking (cfg : Settings) (args : CreateBooking) : DbM Booking := do
  if args.override && blank args.reason then
    throw (.badRequest "reason is required for an admin override booking")
  let startedAt ← now
  let business ← requireBusiness args.businessId args.tenantId
  let customer ← requireCustomerInBusiness args.customerId args.businessId args.tenantId
  let svc ← requireServiceInBusiness args.serviceId args.businessId args.tenantId
  requireStaffIfGiven args.staffId args.businessId args.tenantId
  let endsAt ← orOverflow (args.startsAt + minutes svc.durationMinutes)
  checkDoubleBooking args.staffId args.businessId args.startsAt endsAt none
  let draft (id : Nat) : Booking :=
    ⟨id, args.tenantId, args.businessId, args.customerId, args.serviceId, args.staffId,
      args.startsAt, endsAt, .confirmed, args.source, none, startedAt⟩
  let bookingId ← insert fun id => .insertBooking (draft id)
  createAuditLog args.tenantId args.actorId
    (if args.override then .bookingOverrideCreated else .bookingCreated) bookingId
    (if args.override then args.reason else some args.source.value)
  let intentIds ← enqueueBookingConfirmation cfg (draft bookingId) business customer svc startedAt
  let eventId ← MonadExcept.tryCatch
    (do
      let eventId ← enqueueCalendarEvent (draft bookingId) business startedAt
      commit
      return eventId)
    onIntegrityError
  let booking ← refreshBooking bookingId
  enqueueJobs (intentIds.map .sendNotification)
  enqueueJob (.syncCalendarEvent eventId)
  return booking

/-! ## Payment holds -/

/-- `_fail_linked_pending_payment`, for a booking that has just been given the
cancel reason. -/
def failLinkedPendingPayment (booking : Booking) (cancelReason : Option String) : DbM Unit := do
  let payment : Option BookingPayment ← select (.pendingPayment booking.id booking.tenantId)
  match payment with
  | some payment => update (.updatePayment payment.id (.fail cancelReason))
  | none => return ()

/-- The arguments of `create_pending_payment_hold`. -/
structure CreatePendingPaymentHold where
  tenantId : Nat
  businessId : Nat
  customerId : Nat
  serviceId : Nat
  staffId : Option Nat
  startsAt : Instant
  provider : String
  providerSessionId : Option String := none
  source : BookingSource := .api
  deriving DecidableEq, Repr

/-- `create_pending_payment_hold`.  Here the insert of the booking is inside the
`try` block. -/
def createPendingPaymentHold (args : CreatePendingPaymentHold) : DbM Booking := do
  let startedAt ← now
  let _ ← requireBusiness args.businessId args.tenantId
  let _ ← requireCustomerInBusiness args.customerId args.businessId args.tenantId
  let svc ← requireServiceInBusiness args.serviceId args.businessId args.tenantId
  match svc.depositRequired, svc.depositMinorUnits, svc.currency with
  | true, some amount, some currency => do
      requireStaffIfGiven args.staffId args.businessId args.tenantId
      let endsAt ← orOverflow (args.startsAt + minutes svc.durationMinutes)
      checkDoubleBooking args.staffId args.businessId args.startsAt endsAt none
      let draft (id : Nat) : Booking :=
        ⟨id, args.tenantId, args.businessId, args.customerId, args.serviceId, args.staffId,
          args.startsAt, endsAt, .pendingPayment, args.source, none, startedAt⟩
      let bookingId ← MonadExcept.tryCatch
        (do
          let bookingId ← insert fun id => .insertBooking (draft id)
          let _ ← insert fun id =>
            .insertPayment ⟨id, args.tenantId, args.businessId, bookingId, args.provider,
              args.providerSessionId, none, amount, currency, .pending, none, none, none⟩
          createAuditLog args.tenantId none .bookingCreated bookingId
            (some ("payment_hold:" ++ args.provider))
          commit
          return bookingId)
        onIntegrityError
      refreshBooking bookingId
  | _, _, _ => throw (.badRequest "service does not require a deposit")

/-- The arguments of `confirm_booking_payment`. -/
structure ConfirmBookingPayment where
  bookingId : Nat
  businessId : Nat
  tenantId : Nat
  providerPaymentId : Option String := none
  source : String := "stripe_webhook"
  deriving DecidableEq, Repr

/-- What a confirmation is refused with when there is no hold to confirm. -/
def notAwaitingPayment : AppError := .conflict "Booking is not awaiting payment"

/-- `confirm_booking_payment`: a booking that is confirmed and paid already is returned as it
is. -/
def confirmBookingPayment (cfg : Settings) (args : ConfirmBookingPayment) : DbM Booking := do
  let booking ← requireBookingInBusinessForUpdate args.bookingId args.businessId args.tenantId
  match booking.status with
  | .confirmed =>
      let payment : Option BookingPayment ← select (.payment booking.id args.tenantId)
      match payment with
      | some payment =>
          if payment.status = .succeeded then return booking
          throw notAwaitingPayment
      | none => throw notAwaitingPayment
  | .cancelled => throw notAwaitingPayment
  | .pendingPayment =>
      let payment ← orRaise (.notFound "No payment found for this booking")
        (← select (.payment booking.id args.tenantId))
      if payment.status ≠ .pending then throw (.conflict "Payment is not pending")
      let paidAt ← now
      update (.updatePayment payment.id (.succeed args.providerPaymentId paidAt))
      update (.updateBooking booking.id .confirm)
      createAuditLog args.tenantId none .bookingConfirmed booking.id (some args.source)
      let business ← requireBusiness booking.businessId args.tenantId
      let customer ← requireCustomerInBusiness booking.customerId booking.businessId args.tenantId
      let svc ← requireServiceInBusiness booking.serviceId booking.businessId args.tenantId
      let intentIds ← enqueueBookingConfirmation cfg booking business customer svc paidAt
      let eventId ← enqueueCalendarEvent booking business paidAt
      commit
      let booking ← refreshBooking booking.id
      enqueueJobs (intentIds.map .sendNotification)
      enqueueJob (.syncCalendarEvent eventId)
      return booking

/-! ## Freeing a slot -/

/-- The slot of a booking, as the waitlist sees it. -/
def slotOf (booking : Booking) (tenantId : Nat) : WaitlistFilter :=
  ⟨booking.businessId, tenantId, booking.serviceId, dateOf booking.startsAt, booking.staffId⟩

/-- A booking of a business. -/
structure BookingRef where
  bookingId : Nat
  businessId : Nat
  tenantId : Nat
  deriving DecidableEq, Repr

/-- Cancel reason of an expired hold. -/
def holdExpired : String := "payment_hold_expired"

/-- `expire_pending_payment_hold`: the hold is cancelled and its slot offered, in one commit. -/
def expirePendingPaymentHold (args : BookingRef) : DbM Booking := do
  let startedAt ← now
  let booking ← requireBookingInBusinessForUpdate args.bookingId args.businessId args.tenantId
  if booking.status ≠ .pendingPayment then
    throw (.conflict "Booking is not a pending payment hold")
  update (.updateBooking booking.id (.cancel (some holdExpired)))
  failLinkedPendingPayment booking (some holdExpired)
  createAuditLog args.tenantId none .bookingHoldExpired booking.id (some holdExpired)
  let matching ← selectWaitlistForUpdateSkipLocked (slotOf booking args.tenantId)
  let offerIds ← (match matching with
    | [] => pure []
    | entry :: _ => do
        update (.updateWaitlistEntry entry.id (.offer booking.staffId startedAt))
        let business ← requireBusiness booking.businessId args.tenantId
        let service ← requireServiceInBusiness booking.serviceId booking.businessId args.tenantId
        let customer ← requireCustomerInBusiness entry.customerId entry.businessId args.tenantId
        let offerId ← enqueueWaitlistOffer entry business customer service startedAt
        return [offerId] : DbM (List Nat))
  commit
  let booking ← refreshBooking booking.id
  enqueueJobs (offerIds.map .sendNotification)
  return booking

/-- The loop of `expire_stale_payment_holds`: a hold that is no longer pending
is skipped, any other error ends the sweep. -/
def expireEach : List Booking → DbM Nat
  | [] => pure 0
  | booking :: rest => do
      let expired ← MonadExcept.tryCatch
        (do
          let _ ← expirePendingPaymentHold ⟨booking.id, booking.businessId, booking.tenantId⟩
          return 1)
        (fun
          | .conflict _ => do
              rollback
              return 0
          | error => throw error)
      let others ← expireEach rest
      return expired + others

/-- `expire_stale_payment_holds`: the holds that are too old, one after the other. -/
def expireStalePaymentHolds (cfg : Settings) : DbM Nat := do
  let time ← now
  let stale ← select (.stalePaymentHolds (time - minutes cfg.bookingPaymentHoldMinutes))
  expireEach stale

/-- The arguments of `refund_booking_payment`. -/
structure RefundBookingPayment extends BookingRef where
  actorId : Option Nat := none
  reason : Option String := none
  deriving DecidableEq, Repr

/-- `refund_booking_payment`: the rows are read without a lock. -/
def refundBookingPayment (args : RefundBookingPayment) : DbM BookingPayment := do
  let booking ← requireBookingInBusiness args.bookingId args.businessId args.tenantId
  let payment ← orRaise (.notFound "No payment found for this booking")
    (← select (.payment booking.id args.tenantId))
  if payment.status ≠ .succeeded then
    throw (.conflict "Only a succeeded payment can be refunded")
  let refundedAt ← now
  update (.updatePayment payment.id (.refund refundedAt))
  createAuditLog args.tenantId args.actorId .bookingPaymentRefunded booking.id args.reason
  commit
  refreshPayment payment.id

/-- The arguments of `cancel_booking`. -/
structure CancelBooking extends BookingRef where
  reason : Option String := none
  actorId : Option Nat := none
  override : Bool := false
  deriving DecidableEq, Repr

/-- `cancel_booking`: the booking is cancelled and its slot offered, in one commit, and then the
jobs are pushed. -/
def cancelBooking (cfg : Settings) (args : CancelBooking) : DbM Booking := do
  if args.override && blank args.reason then
    throw (.badRequest "reason is required for an admin override cancellation")
  let startedAt ← now
  let booking ← requireBookingInBusinessForUpdate args.bookingId args.businessId args.tenantId
  if booking.status = .cancelled then throw (.conflict "Booking is already cancelled")
  update (.updateBooking booking.id (.cancel args.reason))
  failLinkedPendingPayment booking args.reason
  createAuditLog args.tenantId args.actorId
    (if args.override then .bookingOverrideCancelled else .bookingCancelled) booking.id
    (if args.override then args.reason else some booking.source.value)
  let business ← requireBusiness booking.businessId args.tenantId
  let customer ← requireCustomerInBusiness booking.customerId booking.businessId args.tenantId
  let service ← requireServiceInBusiness booking.serviceId booking.businessId args.tenantId
  let intentIds ← enqueueBookingCancellation cfg booking business customer service startedAt
  let matching ← selectWaitlistForUpdateSkipLocked (slotOf booking args.tenantId)
  let offerIds ← (match matching with
    | [] => pure []
    | entry :: _ => do
        update (.updateWaitlistEntry entry.id (.offer booking.staffId startedAt))
        let waitlistCustomer ←
          requireCustomerInBusiness entry.customerId entry.businessId args.tenantId
        let offerId ← enqueueWaitlistOffer entry business waitlistCustomer service startedAt
        return [offerId] : DbM (List Nat))
  let calendarEvent : Option CalendarEvent ← select (.calendarEvent booking.id args.tenantId)
  commit
  let booking ← refreshBooking booking.id
  enqueueJobs (intentIds.map .sendNotification)
  enqueueJobs (offerIds.map .sendNotification)
  enqueueJobs (calendarEvent.toList.map fun event => .cancelCalendarEvent event.id)
  return booking

/-- The arguments of `reschedule_booking`. -/
structure RescheduleBooking extends BookingRef where
  newStartsAt : Instant
  reason : Option String := none
  actorId : Option Nat := none
  source : BookingSource := .api
  deriving DecidableEq, Repr

/-- `reschedule_booking`: cancel, create and a last audit row, each with a commit
of its own. -/
def rescheduleBooking (cfg : Settings) (args : RescheduleBooking) : DbM Booking := do
  let found ← requireBookingInBusiness args.bookingId args.businessId args.tenantId
  if found.status ≠ .confirmed then
    throw (.conflict "Only a confirmed booking can be rescheduled")
  let old ← cancelBooking cfg
    { bookingId := found.id, businessId := args.businessId, tenantId := args.tenantId,
      reason := args.reason, actorId := args.actorId }
  let new ← createBooking cfg
    { tenantId := args.tenantId, businessId := old.businessId, customerId := old.customerId,
      serviceId := old.serviceId, staffId := old.staffId, startsAt := args.newStartsAt,
      source := args.source, actorId := args.actorId }
  createAuditLog args.tenantId args.actorId .bookingRescheduled new.id
    (some ("rescheduled_from_booking_" ++ toString old.id))
  commit
  return new

/-! ## The waitlist -/

/-- The arguments of `create_waitlist_entry`. -/
structure CreateWaitlistEntry where
  tenantId : Nat
  businessId : Nat
  customerId : Nat
  serviceId : Nat
  desiredDate : Date
  staffId : Option Nat := none
  deriving DecidableEq, Repr

/-- `create_waitlist_entry`. -/
def createWaitlistEntry (args : CreateWaitlistEntry) : DbM WaitlistEntry := do
  let startedAt ← now
  let _ ← requireBusiness args.businessId args.tenantId
  let _ ← requireCustomerInBusiness args.customerId args.businessId args.tenantId
  let _ ← requireServiceInBusiness args.serviceId args.businessId args.tenantId
  requireStaffIfGiven args.staffId args.businessId args.tenantId
  let entryId ← insert fun id =>
    .insertWaitlistEntry ⟨id, args.tenantId, args.businessId, args.customerId, args.serviceId,
      args.staffId, none, args.desiredDate, .waiting, startedAt, startedAt⟩
  commit
  refreshWaitlistEntry entryId

/-! ## The waitlist sweep -/

/-- `_escalate_to_next_waiting_entry`. -/
def escalateToNextWaitingEntry (startedAt : Instant) (expired : WaitlistEntry) :
    DbM (List Nat) := do
  let candidates ← selectWaitlistForUpdateSkipLocked
    ⟨expired.businessId, expired.tenantId, expired.serviceId, expired.desiredDate,
      expired.offeredForStaffId⟩
  match candidates with
  | [] => return []
  | next :: _ =>
      update (.updateWaitlistEntry next.id (.offer expired.offeredForStaffId startedAt))
      let business ← requireBusiness next.businessId next.tenantId
      let customer ← requireCustomerInBusiness next.customerId next.businessId next.tenantId
      let service ← requireServiceInBusiness next.serviceId next.businessId next.tenantId
      let offerId ← enqueueWaitlistOffer next business customer service startedAt
      return [offerId]

/-- The loop of `expire_stale_waitlist_offers`, all in one transaction. -/
def expireOffers (startedAt : Instant) : List WaitlistEntry → DbM (List Nat)
  | [] => pure []
  | entry :: rest => do
      update (.updateWaitlistEntry entry.id (.expire startedAt))
      let first ← escalateToNextWaitingEntry startedAt entry
      let others ← expireOffers startedAt rest
      return first ++ others

/-- `expire_stale_waitlist_offers`: the offers that are too old expire, and their slots go to
the next who wait, in one commit. -/
def expireStaleWaitlistOffers (cfg : Settings) : DbM Nat := do
  let startedAt ← now
  let stale ← selectStaleOffersForUpdateSkipLocked
    (startedAt - minutes cfg.waitlistOfferTimeoutMinutes)
  if stale.isEmpty then return 0
  let offerIds ← expireOffers startedAt stale
  commit
  enqueueJobs (offerIds.map .sendNotification)
  return stale.length

/-! ## Calls -/

/-- The entry points of the booking service, of the waitlist and of the sweeps, and the
work of the workers. -/
inductive Call where
  | createBooking (args : CreateBooking)
  | createPendingPaymentHold (args : CreatePendingPaymentHold)
  | confirmBookingPayment (args : ConfirmBookingPayment)
  | expirePendingPaymentHold (args : BookingRef)
  | expireStalePaymentHolds
  | refundBookingPayment (args : RefundBookingPayment)
  | cancelBooking (args : CancelBooking)
  | rescheduleBooking (args : RescheduleBooking)
  | createWaitlistEntry (args : CreateWaitlistEntry)
  | expireStaleWaitlistOffers
  | work (task : WorkerCall)
  deriving DecidableEq, Repr

/-- What the calls return. -/
inductive Reply where
  | booking (row : Booking)
  | payment (row : BookingPayment)
  | waitlistEntry (row : WaitlistEntry)
  | count (number : Nat)
  deriving DecidableEq, Repr

/-- The program of a call. -/
def perform (cfg : Settings) : Call → DbM Reply
  | .createBooking args => .booking <$> createBooking cfg args
  | .createPendingPaymentHold args => .booking <$> createPendingPaymentHold args
  | .confirmBookingPayment args => .booking <$> confirmBookingPayment cfg args
  | .expirePendingPaymentHold args => .booking <$> expirePendingPaymentHold args
  | .expireStalePaymentHolds => .count <$> expireStalePaymentHolds cfg
  | .refundBookingPayment args => .payment <$> refundBookingPayment args
  | .cancelBooking args => .booking <$> cancelBooking cfg args
  | .rescheduleBooking args => .booking <$> rescheduleBooking cfg args
  | .createWaitlistEntry args => .waitlistEntry <$> createWaitlistEntry args
  | .expireStaleWaitlistOffers => .count <$> expireStaleWaitlistOffers cfg
  | .work task => .count <$> work cfg task

end AppointmentVoice
