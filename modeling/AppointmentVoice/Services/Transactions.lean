import AppointmentVoice.Database.Consistency
import AppointmentVoice.Services.Booking

/-!
# The transactions of the booking service

The abstract level: what the booking service does to the database is a sequence
of atomic transactions, each of one of nine kinds, each with the exact rows it
writes and the condition on the committed rows under which it may happen.  That
the interleaved statements of any number of calls amount to such a sequence is
proved in the modules that follow; the properties of whole histories are proved
about such sequences.

A transaction is a `Transaction`; its rows are `Transaction.writes`, and `Transaction.Enabled`
is its condition.
-/

set_option autoImplicit false

namespace AppointmentVoice

/-! ## Kinds of transactions -/

/-- A message that no worker has tried to send. -/
structure NotificationOutbox.Fresh (message : NotificationOutbox) : Prop where
  pending : message.status = .pending
  untried : message.attempts = 0

/-- A calendar event of a booking that no worker has tried to deliver. -/
structure CalendarEvent.Fresh (booking : Booking) (event : CalendarEvent) : Prop where
  pending : event.status = .pending
  tenant : event.tenantId = booking.tenantId

/-- What a worker writes: it marks messages and calendar events, and adds reminders. -/
inductive Write.Clerical : Write → Prop where
  | notification (id : Nat) (change : NotificationChange) :
      Clerical (.updateNotification id change)
  | calendarEvent (id : Nat) (change : CalendarChange) : Clerical (.updateCalendarEvent id change)
  | reminder {message : NotificationOutbox} (purpose : message.purpose = .bookingReminder)
      (fresh : message.Fresh) : Clerical (.insertOutbox message)

/-- A freed slot offered to a waiting entry, with the message that says so. -/
structure Offer where
  entry : WaitlistEntry
  staffId : Option Nat
  offeredAt : Instant
  message : NotificationOutbox

/-- One turn of the waitlist sweep: an offer expires, and its slot may be
offered again. -/
structure Round where
  expired : WaitlistEntry
  expiredAt : Instant
  offer : Option Offer

/-- What a call commits in one transaction. -/
inductive Transaction where
  | book (booking : Booking) (audit : AuditLog) (messages : List NotificationOutbox)
      (event : CalendarEvent)
  | hold (booking : Booking) (payment : BookingPayment) (audit : AuditLog)
  | confirm (booking : Booking) (payment : BookingPayment) (providerPaymentId : Option String)
      (paidAt : Instant) (audit : AuditLog) (messages : List NotificationOutbox)
      (event : CalendarEvent)
  | free (booking : Booking) (reason : Option String) (payment : Option BookingPayment)
      (audit : AuditLog) (messages : List NotificationOutbox) (offer : Option Offer)
  | refund (payment : BookingPayment) (refundedAt : Instant) (audit : AuditLog)
  | note (audit : AuditLog)
  | enroll (entry : WaitlistEntry)
  | sweep (rounds : List Round)
  | clerk (changes : List Write) (clerical : ∀ write ∈ changes, write.Clerical)

/-! ## Their writes -/

/-- The rows of an offer. -/
def Offer.writes (offer : Offer) : List Write :=
  [.updateWaitlistEntry offer.entry.id (.offer offer.staffId offer.offeredAt),
    .insertOutbox offer.message]

/-- The writes of an offer that may be missing. -/
def Offer.writes? : Option Offer → List Write
  | some offer => offer.writes
  | none => []

/-- The rows of an offer that expires, and of the next one. -/
def Round.writes (round : Round) : List Write :=
  .updateWaitlistEntry round.expired.id (.expire round.expiredAt) :: Offer.writes? round.offer

/-- The payment, if there is one, fails with the reason of the cancellation. -/
def failWrites (reason : Option String) : Option BookingPayment → List Write
  | some payment => [.updatePayment payment.id (.fail reason)]
  | none => []

namespace Transaction

/-- The rows of a transaction, in the order of the flushes. -/
def writes : Transaction → List Write
  | .book booking audit messages event =>
      [.insertBooking booking, .insertAudit audit] ++ messages.map .insertOutbox ++
        [.insertCalendarEvent event]
  | .hold booking payment audit =>
      [.insertBooking booking, .insertPayment payment, .insertAudit audit]
  | .confirm booking payment providerPaymentId paidAt audit messages event =>
      [.updatePayment payment.id (.succeed providerPaymentId paidAt),
        .updateBooking booking.id .confirm, .insertAudit audit] ++
        messages.map .insertOutbox ++ [.insertCalendarEvent event]
  | .free booking reason payment audit messages offer =>
      [.updateBooking booking.id (.cancel reason)] ++ failWrites reason payment ++
        [.insertAudit audit] ++ messages.map .insertOutbox ++ Offer.writes? offer
  | .refund payment refundedAt audit =>
      [.updatePayment payment.id (.refund refundedAt), .insertAudit audit]
  | .note audit => [.insertAudit audit]
  | .enroll entry => [.insertWaitlistEntry entry]
  | .sweep rounds => rounds.flatMap Round.writes
  | .clerk changes _ => changes

end Transaction

/-! ## When they may happen -/

namespace Call

/-- Calls that create a confirmed booking. -/
def books : Call → Bool
  | .createBooking _ => true
  | .rescheduleBooking _ => true
  | _ => false

/-- Calls that cancel a booking. -/
def cancels : Call → Bool
  | .cancelBooking _ => true
  | .rescheduleBooking _ => true
  | _ => false

/-- Calls that expire a payment hold. -/
def expires : Call → Bool
  | .expirePendingPaymentHold _ => true
  | .expireStalePaymentHolds => true
  | _ => false

end Call

/-- Messages about a booking, with one purpose. -/
structure About (booking : Booking) (purpose : NotificationPurpose)
    (messages : List NotificationOutbox) : Prop where
  nonempty : messages ≠ []
  each : ∀ message ∈ messages, message.purpose = purpose ∧ message.bookingId = some booking.id
  fresh : ∀ message ∈ messages, message.Fresh

/-- The offer of a slot to an entry that waits for it. -/
structure Offer.Enabled (db : Db) (slot : WaitlistFilter) (offer : Offer) : Prop where
  entry : offer.entry ∈ db.waitlistEntries
  accepted : slot.accepts offer.entry = true
  staff : offer.staffId = slot.staffId
  purpose : offer.message.purpose = .waitlistOffer
  tenant : offer.message.tenantId = offer.entry.tenantId
  business : offer.message.businessId = offer.entry.businessId
  fresh : offer.message.Fresh

/-- The slot that an expired offer was for. -/
def Round.slot (round : Round) : WaitlistFilter :=
  ⟨round.expired.businessId, round.expired.tenantId, round.expired.serviceId,
    round.expired.desiredDate, round.expired.offeredForStaffId⟩

/-- A payment that waits for its booking to be settled. -/
structure BookingPayment.Due (db : Db) (booking : Booking) (payment : BookingPayment) : Prop where
  there : payment ∈ db.bookingPayments
  pending : payment.status = .pending
  ofBooking : payment.bookingId = booking.id
  tenant : payment.tenantId = booking.tenantId

/-- The booking has no payment that waits. -/
def Booking.NothingDue (db : Db) (booking : Booking) : Prop :=
  ∀ payment : BookingPayment, ¬payment.Due db booking

/-- The call, if it may free the booking, and with which audit row. -/
inductive Frees : Call → Booking → AuditLog → List NotificationOutbox → Prop where
  | expire {call : Call} {booking : Booking} {audit : AuditLog} (caller : call.expires = true)
      (pending : booking.status = .pendingPayment) (action : audit.action = .bookingHoldExpired) :
      Frees call booking audit []
  | cancel {call : Call} {booking : Booking} {audit : AuditLog}
      {messages : List NotificationOutbox} (caller : call.cancels = true)
      (active : booking.status ≠ .cancelled)
      (action : audit.action = .bookingCancelled ∨ audit.action = .bookingOverrideCancelled)
      (about : About booking .bookingCancellation messages) :
      Frees call booking audit messages

/-- The condition of a transaction on the committed rows and on its call. -/
inductive Transaction.Enabled (db : Db) : Call → Transaction → Prop where
  | book {call : Call} {booking : Booking} {audit : AuditLog}
      {messages : List NotificationOutbox} {event : CalendarEvent} (caller : call.books = true)
      (fresh : booking.id ∉ Table.bookings.ids db) (confirmed : booking.status = .confirmed)
      (action : audit.action = .bookingCreated ∨ audit.action = .bookingOverrideCreated)
      (about : About booking .bookingConfirmation messages)
      (ofBooking : event.bookingId = booking.id) (freshEvent : event.Fresh booking) :
      Enabled db call (.book booking audit messages event)
  | hold {args : CreatePendingPaymentHold} {booking : Booking} {payment : BookingPayment}
      {audit : AuditLog} (fresh : booking.id ∉ Table.bookings.ids db)
      (freshPayment : payment.id ∉ Table.bookingPayments.ids db)
      (held : booking.status = .pendingPayment) (pending : payment.status = .pending)
      (ofBooking : payment.bookingId = booking.id) (tenant : payment.tenantId = booking.tenantId)
      (action : audit.action = .bookingCreated) :
      Enabled db (.createPendingPaymentHold args) (.hold booking payment audit)
  | confirm {args : ConfirmBookingPayment} {booking : Booking} {payment : BookingPayment}
      {paidAt : Instant} {audit : AuditLog} {messages : List NotificationOutbox}
      {event : CalendarEvent} (there : booking ∈ db.bookings) (named : args.bookingId = booking.id)
      (held : booking.status = .pendingPayment) (due : payment.Due db booking)
      (action : audit.action = .bookingConfirmed) (target : audit.targetBookingId = some booking.id)
      (about : About booking .bookingConfirmation messages)
      (ofBooking : event.bookingId = booking.id) (freshEvent : event.Fresh booking) :
      Enabled db (.confirmBookingPayment args)
        (.confirm booking payment args.providerPaymentId paidAt audit messages event)
  | free {call : Call} {booking : Booking} {reason : Option String}
      {payment : Option BookingPayment} {audit : AuditLog} {messages : List NotificationOutbox}
      {offer : Option Offer} (there : booking ∈ db.bookings)
      (frees : Frees call booking audit messages)
      (due : ∀ row, payment = some row → row.Due db booking)
      (nothing : payment = none → booking.NothingDue db)
      (offers : ∀ given, offer = some given → given.Enabled db (slotOf booking booking.tenantId)) :
      Enabled db call (.free booking reason payment audit messages offer)
  | refund {args : RefundBookingPayment} {payment : BookingPayment} {refundedAt : Instant}
      {audit : AuditLog}
      (settled : ∃ row ∈ db.bookingPayments, row.id = payment.id ∧
        (row.status = .succeeded ∨ row.status = .refunded))
      (action : audit.action = .bookingPaymentRefunded) :
      Enabled db (.refundBookingPayment args) (.refund payment refundedAt audit)
  | note {args : RescheduleBooking} {audit : AuditLog}
      (action : audit.action = .bookingRescheduled) :
      Enabled db (.rescheduleBooking args) (.note audit)
  | enroll {args : CreateWaitlistEntry} {entry : WaitlistEntry}
      (fresh : entry.id ∉ Table.waitlistEntries.ids db) (waiting : entry.status = .waiting)
      (unoffered : entry.offeredForStaffId = none) :
      Enabled db (.createWaitlistEntry args) (.enroll entry)
  | sweep {rounds : List Round} (distinct : (rounds.map (·.expired.id)).Nodup)
      (offered : ∀ round ∈ rounds, round.expired ∈ db.waitlistEntries ∧
        round.expired.status = .offered)
      (offers : ∀ round ∈ rounds, ∀ given, round.offer = some given →
        given.Enabled db round.slot)
      (distinctOffers : ((rounds.filterMap (·.offer)).map (·.entry.id)).Nodup) :
      Enabled db .expireStaleWaitlistOffers (.sweep rounds)
  | clerk {task : WorkerCall} {changes : List Write}
      {clerical : ∀ write ∈ changes, write.Clerical} :
      Enabled db (.work task) (.clerk changes clerical)

end AppointmentVoice
