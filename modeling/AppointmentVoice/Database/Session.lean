import AppointmentVoice.Concurrency.RelyGuarantee
import AppointmentVoice.Database.Queries

/-!
# Sessions on the database

What a service's database session can do, one statement at a time, under
`READ COMMITTED`: a statement sees the committed rows and the session's own
uncommitted writes; a write stays private to its session until `COMMIT`; a row
that is updated or selected `FOR UPDATE` is locked until the session's
transaction ends, and a statement that needs a row locked by another session
waits, or skips the row when it says `SKIP LOCKED`.

Inserts take their primary key from a sequence that is never rolled back, and
check the unique and exclusion constraints against the rows of all sessions:
against another session's uncommitted row they wait, against a visible one they
fail.  An update never makes an inactive booking active and never moves one, so
the exclusion constraint is checked at inserts only.

The world also holds what lies outside the database: the clock, the jobs pushed
to Redis, and the fate of each push.  The journal records every committed
transaction with the call it came from; no statement reads it.
-/

set_option autoImplicit false

namespace AppointmentVoice

open Concurrency

/-! ## Rows, writes and constraints -/

/-- The rows that statements lock. -/
inductive RowId where
  | booking (id : Nat)
  | bookingPayment (id : Nat)
  | waitlistEntry (id : Nat)
  | notification (id : Nat)
  | calendarEvent (id : Nat)
  | voiceSession (id : Nat)
  deriving DecidableEq, Repr

/-- The columns set by an `UPDATE` of a booking. -/
inductive BookingChange where
  | confirm
  | cancel (reason : Option String)
  deriving DecidableEq, Repr

/-- The row with the changed columns set. -/
def BookingChange.apply (change : BookingChange) (row : Booking) : Booking :=
  match change with
  | .confirm => { row with status := .confirmed }
  | .cancel reason => { row with status := .cancelled, cancelReason := reason }

/-- The columns set by an `UPDATE` of a payment. -/
inductive PaymentChange where
  | succeed (providerPaymentId : Option String) (paidAt : Instant)
  | fail (failureReason : Option String)
  | refund (refundedAt : Instant)
  deriving DecidableEq, Repr

/-- The row with the changed columns set. -/
def PaymentChange.apply (change : PaymentChange) (row : BookingPayment) : BookingPayment :=
  match change with
  | .succeed providerPaymentId paidAt =>
      { row with status := .succeeded, providerPaymentId, paidAt := some paidAt }
  | .fail failureReason => { row with status := .failed, failureReason }
  | .refund refundedAt => { row with status := .refunded, refundedAt := some refundedAt }

/-- The columns set by an `UPDATE` of a waitlist entry; `updated_at` is set by
every one of them. -/
inductive WaitlistChange where
  | offer (offeredForStaffId : Option Nat) (updatedAt : Instant)
  | expire (updatedAt : Instant)
  deriving DecidableEq, Repr

/-- The row with the changed columns set. -/
def WaitlistChange.apply (change : WaitlistChange) (row : WaitlistEntry) : WaitlistEntry :=
  match change with
  | .offer offeredForStaffId updatedAt =>
      { row with status := .offered, offeredForStaffId, updatedAt }
  | .expire updatedAt => { row with status := .expired, updatedAt }

/-- The columns set by an `UPDATE` of an outbox row.  The counter is written as the
value that was read plus one. -/
inductive NotificationChange where
  | send (attempts : Nat) (sentAt : Instant) (providerMessageId : Option String)
  | giveUp (attempts : Nat) (lastError : Option String)
  | retry (attempts : Nat) (lastError : Option String)
  | requeue (reconciledAt : Instant)
  deriving DecidableEq, Repr

/-- The row with the changed columns set. -/
def NotificationChange.apply (change : NotificationChange) (row : NotificationOutbox) :
    NotificationOutbox :=
  match change with
  | .send attempts sentAt providerMessageId =>
      { row with status := .sent, attempts, sentAt := some sentAt, providerMessageId }
  | .giveUp attempts lastError => { row with status := .failed, attempts, lastError }
  | .retry attempts lastError => { row with attempts, lastError }
  | .requeue reconciledAt => { row with reconciledAt := some reconciledAt }

/-- The columns set by an `UPDATE` of a calendar event. -/
inductive CalendarChange where
  | sync (attempts : Nat) (providerEventId : Option String) (syncedAt : Instant)
  | giveUpSync (attempts : Nat) (lastError : String)
  | retrySync (attempts : Nat) (lastError : String)
  | drop
  | cancel (cancelAttempts : Nat)
  | giveUpCancel (cancelAttempts : Nat) (lastError : String)
  | retryCancel (cancelAttempts : Nat) (lastError : String)
  | requeue (reconciledAt : Instant)
  deriving DecidableEq, Repr

/-- The row with the changed columns set. -/
def CalendarChange.apply (change : CalendarChange) (row : CalendarEvent) : CalendarEvent :=
  match change with
  | .sync attempts providerEventId syncedAt =>
      { row with status := .synced, attempts, providerEventId, syncedAt := some syncedAt }
  | .giveUpSync attempts lastError =>
      { row with status := .failed, attempts, lastError := some lastError }
  | .retrySync attempts lastError => { row with attempts, lastError := some lastError }
  | .drop => { row with status := .cancelled }
  | .cancel cancelAttempts => { row with status := .cancelled, cancelAttempts }
  | .giveUpCancel cancelAttempts lastError =>
      { row with status := .cancelFailed, cancelAttempts, lastError := some lastError }
  | .retryCancel cancelAttempts lastError =>
      { row with cancelAttempts, lastError := some lastError }
  | .requeue reconciledAt => { row with reconciledAt := some reconciledAt }

/-- The columns set by an `UPDATE` of a phone call's session; a column that is not
set keeps its value. -/
structure SessionChange where
  step : Option IvrStep := none
  selectedServiceId : Option (Option Nat) := none
  selectedStaffId : Option (Option Nat) := none
  selectedSlotStart : Option (Option Instant) := none
  selectedSlotEnd : Option (Option Instant) := none
  bookingId : Option (Option Nat) := none
  managedBookingId : Option (Option Nat) := none
  slotCandidates : Option (Option (List (Instant × Instant))) := none
  noInputCount : Option Nat := none
  invalidKeyCount : Option Nat := none
  callSid : Option (Option String) := none
  transferDestination : Option (Option String) := none
  deriving DecidableEq, Repr

/-- The row with the changed columns set. -/
def SessionChange.apply (change : SessionChange) (row : VoiceSession) : VoiceSession :=
  { row with
    step := change.step.getD row.step
    selectedServiceId := change.selectedServiceId.getD row.selectedServiceId
    selectedStaffId := change.selectedStaffId.getD row.selectedStaffId
    selectedSlotStart := change.selectedSlotStart.getD row.selectedSlotStart
    selectedSlotEnd := change.selectedSlotEnd.getD row.selectedSlotEnd
    bookingId := change.bookingId.getD row.bookingId
    managedBookingId := change.managedBookingId.getD row.managedBookingId
    slotCandidates := change.slotCandidates.getD row.slotCandidates
    noInputCount := change.noInputCount.getD row.noInputCount
    invalidKeyCount := change.invalidKeyCount.getD row.invalidKeyCount
    callSid := change.callSid.getD row.callSid
    transferDestination := change.transferDestination.getD row.transferDestination }

/-- One row written by a flush. -/
inductive Write where
  | insertBooking (row : Booking)
  | updateBooking (id : Nat) (change : BookingChange)
  | insertPayment (row : BookingPayment)
  | updatePayment (id : Nat) (change : PaymentChange)
  | insertAudit (row : AuditLog)
  | insertOutbox (row : NotificationOutbox)
  | updateNotification (id : Nat) (change : NotificationChange)
  | insertCalendarEvent (row : CalendarEvent)
  | updateCalendarEvent (id : Nat) (change : CalendarChange)
  | insertWaitlistEntry (row : WaitlistEntry)
  | updateWaitlistEntry (id : Nat) (change : WaitlistChange)
  | insertCustomer (row : Customer)
  | insertVoiceSession (row : VoiceSession)
  | updateVoiceSession (id : Nat) (change : SessionChange)
  deriving DecidableEq, Repr

/-- The row an update locks. -/
def Write.target : Write → Option RowId
  | .updateBooking id _ => some (.booking id)
  | .updatePayment id _ => some (.bookingPayment id)
  | .updateWaitlistEntry id _ => some (.waitlistEntry id)
  | .updateNotification id _ => some (.notification id)
  | .updateCalendarEvent id _ => some (.calendarEvent id)
  | .updateVoiceSession id _ => some (.voiceSession id)
  | _ => none

/-- The tables after one change. -/
def Db.apply (db : Db) : Write → Db
  | .insertBooking row => { db with bookings := db.bookings ++ [row] }
  | .updateBooking id change =>
      { db with bookings := db.bookings.map fun row =>
        if row.id = id then change.apply row else row }
  | .insertPayment row => { db with bookingPayments := db.bookingPayments ++ [row] }
  | .updatePayment id change =>
      { db with
        bookingPayments := db.bookingPayments.map fun row =>
          if row.id = id then change.apply row else row }
  | .insertAudit row => { db with auditLogs := db.auditLogs ++ [row] }
  | .insertOutbox row => { db with notificationOutbox := db.notificationOutbox ++ [row] }
  | .updateNotification id change =>
      { db with
        notificationOutbox := db.notificationOutbox.map fun row =>
          if row.id = id then change.apply row else row }
  | .insertCalendarEvent row => { db with calendarEvents := db.calendarEvents ++ [row] }
  | .updateCalendarEvent id change =>
      { db with
        calendarEvents := db.calendarEvents.map fun row =>
          if row.id = id then change.apply row else row }
  | .insertWaitlistEntry row => { db with waitlistEntries := db.waitlistEntries ++ [row] }
  | .updateWaitlistEntry id change =>
      { db with
        waitlistEntries := db.waitlistEntries.map fun row =>
          if row.id = id then change.apply row else row }
  | .insertCustomer row => { db with customers := db.customers ++ [row] }
  | .insertVoiceSession row => { db with voiceSessions := db.voiceSessions ++ [row] }
  | .updateVoiceSession id change =>
      { db with
        voiceSessions := db.voiceSessions.map fun row =>
          if row.id = id then change.apply row else row }

/-- The tables after several changes, one after the other. -/
def Db.applyAll (db : Db) (writes : List Write) : Db := writes.foldl Db.apply db

/-- The constraints that an insert can violate. -/
inductive Constraint where
  | noOverlappingStaffBookings
  | uqBookingPaymentsBookingId
  | uqCalendarEventsBookingId
  | uqCustomersBusinessPhone
  deriving DecidableEq, Repr

/-- `staff_id WITH =, tstzrange(starts_at, ends_at, '[)') WITH &&` over the
active rows with a staff member.  An empty range overlaps nothing. -/
def excludes (first second : Booking) : Bool :=
  first.status.active && second.status.active && first.staffId.isSome &&
    first.staffId == second.staffId &&
    first.startsAt < first.endsAt && second.startsAt < second.endsAt &&
    first.startsAt < second.endsAt && second.startsAt < first.endsAt

/-- The constraint that keeps two rows from standing beside each other. -/
def Write.clash : Write → Write → Option Constraint
  | .insertBooking first, .insertBooking second =>
      if excludes first second then some .noOverlappingStaffBookings else none
  | .insertPayment first, .insertPayment second =>
      if first.bookingId == second.bookingId then some .uqBookingPaymentsBookingId else none
  | .insertCalendarEvent first, .insertCalendarEvent second =>
      if first.bookingId == second.bookingId then some .uqCalendarEventsBookingId else none
  | .insertCustomer first, .insertCustomer second =>
      if first.businessId == second.businessId && first.phoneNormalized == second.phoneNormalized
      then some .uqCustomersBusinessPhone else none
  | _, _ => none

/-- The constraint an insert would violate in a database. -/
def Db.violated (db : Db) : Write → Option Constraint
  | .insertBooking row =>
      if db.bookings.any (excludes row) then some .noOverlappingStaffBookings else none
  | .insertPayment row =>
      if db.bookingPayments.any (·.bookingId == row.bookingId) then
        some .uqBookingPaymentsBookingId else none
  | .insertCalendarEvent row =>
      if db.calendarEvents.any (·.bookingId == row.bookingId) then
        some .uqCalendarEventsBookingId else none
  | .insertCustomer row =>
      if db.customers.any fun other =>
        other.businessId == row.businessId && other.phoneNormalized == row.phoneNormalized then
        some .uqCustomersBusinessPhone else none
  | _ => none

/-! ## Statements -/

/-- The jobs that the modelled services push to Redis. -/
inductive QueuedJob where
  | sendNotification (notificationId : Nat)
  | syncCalendarEvent (eventId : Nat)
  | cancelCalendarEvent (eventId : Nat)
  deriving DecidableEq, Repr

/-- The job takes an event out of the provider's calendar. -/
def QueuedJob.withdraws : QueuedJob → Bool
  | .cancelCalendarEvent _ => true
  | _ => false

/-- A job in the queue, with the number of attempts that have failed. -/
structure QueueEntry where
  job : QueuedJob
  attempts : Nat := 0
  deriving DecidableEq, Repr

/-- What the SMS provider is asked to send. -/
structure SmsMessage where
  recipient : String
  body : String
  deriving DecidableEq, Repr

/-- What the SMS provider answers. -/
structure SmsSendResult where
  success : Bool
  providerMessageId : Option String := none
  error : Option String := none
  deriving DecidableEq, Repr

/-- What the calendar provider is asked to enter. -/
structure CalendarEventPayload where
  title : String
  startsAt : Instant
  endsAt : Instant
  deriving DecidableEq, Repr

/-- What the calendar provider answers. -/
structure CalendarResult where
  success : Bool
  providerEventId : Option String := none
  error : Option String := none
  deriving DecidableEq, Repr

/-- What a worker asks of the providers and of the queue.  The keys of the rows that
a message and a calendar event are for are kept for the books only. -/
inductive Request where
  | sendSms (notificationId : Nat) (message : SmsMessage)
  | createEvent (eventId : Nat) (payload : CalendarEventPayload)
  | cancelEvent (providerEventId : Option String)
  | dequeue (entry : QueueEntry)
  | ack (entry : QueueEntry)
  | scheduleRetry (entry : QueueEntry)
  | moveToFailedQueue (entry : QueueEntry)
  deriving DecidableEq, Repr

/-- A provider that raises gives no result; `dequeue` answers whether the entry was
there. -/
def Request.Answer : Request → Type
  | .sendSms _ _ => Option SmsSendResult
  | .createEvent _ _ => Option CalendarResult
  | .cancelEvent _ => Option CalendarResult
  | .dequeue _ => Bool
  | .ack _ => Unit
  | .scheduleRetry _ => Unit
  | .moveToFailedQueue _ => Unit

/-- The statements of a session, and what else a service does to the world around it:
reading the clock, pushing a job, and asking a provider or the queue. -/
inductive Stmt where
  | select (query : Query)
  | selectBookingForUpdate (id tenantId : Nat)
  | selectWaitlistForUpdateSkipLocked (filter : WaitlistFilter)
  | selectStaleOffersForUpdateSkipLocked (threshold : Instant)
  | insert (draft : Nat → Write)
  | update (write : Write)
  | commit
  | rollback
  | now
  | push (job : QueuedJob)
  | ask (request : Request)

/-- `push` answers whether Redis took the job. -/
def Stmt.Answer : Stmt → Type
  | .select query => query.Row
  | .selectBookingForUpdate _ _ => Option Booking
  | .selectWaitlistForUpdateSkipLocked _ => List WaitlistEntry
  | .selectStaleOffersForUpdateSkipLocked _ => List WaitlistEntry
  | .insert _ => Except Constraint Nat
  | .update _ => Unit
  | .commit => Unit
  | .rollback => Unit
  | .now => Instant
  | .push _ => Bool
  | .ask request => request.Answer

/-- The signature of the services. -/
abbrev Sql : Signature := ⟨Stmt, Stmt.Answer⟩

/-! ## The world -/

/-- An event in the provider's calendar, with the key of the row it was made for. -/
structure LiveEvent where
  eventId : Nat
  providerEventId : Option String
  deriving DecidableEq, Repr

/-- The queue, from a push until the job is acknowledged or given up, and the
providers: their coming answers, the messages that were accepted, and the events that
are live. -/
structure Outside where
  queue : List QueueEntry
  failed : List QueueEntry
  smsCalls : Nat
  smsProvider : Nat → Option SmsSendResult
  accepted : List Nat
  calendarCalls : Nat
  calendarProvider : Nat → Option CalendarResult
  live : List LiveEvent

namespace Outside

/-- Nothing has happened yet, and no provider is configured. -/
def start : Outside where
  queue := []
  failed := []
  smsCalls := 0
  smsProvider := fun _ => some ⟨false, none, some "sms_provider_not_configured"⟩
  accepted := []
  calendarCalls := 0
  calendarProvider := fun _ => some ⟨false, none, some "calendar_provider_not_configured"⟩
  live := []

/-- A job has been pushed. -/
def enqueue (outside : Outside) (job : QueuedJob) : Outside :=
  { outside with queue := outside.queue ++ [{ job }] }

/-- Several jobs have been pushed. -/
def enqueueAll (outside : Outside) (jobs : List QueuedJob) : Outside :=
  jobs.foldl enqueue outside

/-- The answer to a request.  An entry stays in the queue while a worker handles it. -/
def ask (outside : Outside) : (request : Request) → request.Answer × Outside
  | .sendSms notificationId _ =>
      let result := outside.smsProvider outside.smsCalls
      let called := { outside with smsCalls := outside.smsCalls + 1 }
      match result with
      | some ⟨true, _, _⟩ =>
          (result, { called with accepted := outside.accepted ++ [notificationId] })
      | _ => (result, called)
  | .createEvent eventId _ =>
      let result := outside.calendarProvider outside.calendarCalls
      let called := { outside with calendarCalls := outside.calendarCalls + 1 }
      match result with
      | some ⟨true, made, _⟩ => (result, { called with live := outside.live ++ [⟨eventId, made⟩] })
      | _ => (result, called)
  | .cancelEvent providerEventId =>
      let result := outside.calendarProvider outside.calendarCalls
      let called := { outside with calendarCalls := outside.calendarCalls + 1 }
      match result with
      | some ⟨true, _, _⟩ =>
          (result, { called with
            live := outside.live.filter fun event => event.providerEventId != providerEventId })
      | _ => (result, called)
  | .dequeue entry => (decide (entry ∈ outside.queue), outside)
  | .ack entry => ((), { outside with queue := outside.queue.erase entry })
  | .scheduleRetry entry =>
      ((), { outside with
        queue := outside.queue.erase entry ++ [{ entry with attempts := entry.attempts + 1 }] })
  | .moveToFailedQueue entry =>
      ((), { outside with
        queue := outside.queue.erase entry
        failed := outside.failed ++ [entry] })

/-- What happens outside without a worker: entries are delivered again, and what the
providers are going to answer changes. -/
structure Drifts (before after : Outside) : Prop where
  queue : ∃ entries, after.queue = before.queue ++ entries ∧ ∀ entry ∈ entries, entry ∈ before.queue
  failed : after.failed = before.failed
  accepted : after.accepted = before.accepted
  live : after.live = before.live

end Outside

/-- A committed transaction. -/
structure Committed (Call : Type) where
  call : Call
  writes : List Write

/-- The committed database, the uncommitted writes and the row locks of the
open sessions, the sequence, the clock, the jobs pushed to Redis, and what lies
outside. -/
structure World (Call : Type) where
  db : Db
  pending : List (Pid × Write)
  locks : List (RowId × Pid)
  nextId : Nat
  clock : Instant
  jobs : List QueuedJob
  pushes : Nat
  redisTakes : Nat → Bool
  journal : List (Committed Call)
  outside : Outside

namespace World

variable {Call : Type}

/-- The world of a database before any call. -/
def start (db : Db) (nextId : Nat) (clock : Instant) (redisTakes : Nat → Bool) : World Call :=
  ⟨db, [], [], nextId, clock, [], 0, redisTakes, [], .start⟩

/-- The uncommitted writes of a session, in order. -/
def writesOf (world : World Call) (pid : Pid) : List Write :=
  (world.pending.filter (·.1 == pid)).map Prod.snd

/-- What a statement of a session sees. -/
def view (world : World Call) (pid : Pid) : Db := world.db.applyAll (world.writesOf pid)

/-- A session holds the lock of a row. -/
def holds (world : World Call) (pid : Pid) (row : RowId) : Bool := (row, pid) ∈ world.locks

/-- Another session holds the lock of a row. -/
def lockedByOther (world : World Call) (pid : Pid) (row : RowId) : Bool :=
  world.locks.any fun lock => lock.1 == row && lock.2 != pid

/-- Take the lock of a row. -/
def acquire (world : World Call) (pid : Pid) (row : RowId) : World Call :=
  if world.holds pid row then world else { world with locks := world.locks ++ [(row, pid)] }

/-- A session holds the locks of several rows. -/
def acquireAll (world : World Call) (pid : Pid) (rows : List RowId) : World Call :=
  rows.foldl (fun world row => world.acquire pid row) world

/-- Add an uncommitted write. -/
def append (world : World Call) (pid : Pid) (write : Write) : World Call :=
  { world with pending := world.pending ++ [(pid, write)] }

/-- End the transaction of a session without its writes. -/
def release (world : World Call) (pid : Pid) : World Call :=
  { world with
    pending := world.pending.filter (·.1 != pid)
    locks := world.locks.filter (·.2 != pid) }

/-- An insert waits while another session has an uncommitted row it clashes
with, or has changed a committed row it clashes with and may still commit. -/
def mustWait (world : World Call) (pid : Pid) (write : Write) : Bool :=
  world.pending.any fun entry =>
    entry.1 != pid &&
      ((write.clash entry.2).isSome ||
        match write, entry.2 with
        | .insertBooking row, .updateBooking id _ =>
            world.db.bookings.any fun other => other.id == id && excludes row other
        | _, _ => false)

end World

/-! ## Execution -/

/-- The oldest entry of a list: `ORDER BY created_at LIMIT 1`. -/
def oldest : List WaitlistEntry → Option WaitlistEntry
  | [] => none
  | entry :: rest =>
      match oldest rest with
      | none => some entry
      | some other => if entry.createdAt ≤ other.createdAt then some entry else some other

variable {Call : Type}

/-- The effect of a statement of a session; `none` while it has to wait. -/
def execStmt (pid : Pid) (call : Call) :
    (stmt : Stmt) → World Call → Option (stmt.Answer × World Call)
  | .select query, world => some (query.eval (world.view pid), world)
  | .selectBookingForUpdate id tenantId, world =>
      match (world.view pid).bookings.find? fun row => row.id == id && row.tenantId == tenantId with
      | none => some (none, world)
      | some row =>
          if world.lockedByOther pid (.booking row.id) then none
          else some (some row, world.acquire pid (.booking row.id))
  | .selectWaitlistForUpdateSkipLocked filter, world =>
      let unlocked := (world.view pid).waitlistEntries.filter fun entry =>
        filter.accepts entry && !world.lockedByOther pid (.waitlistEntry entry.id)
      match oldest unlocked with
      | none => some ([], world)
      | some entry => some ([entry], world.acquire pid (.waitlistEntry entry.id))
  | .selectStaleOffersForUpdateSkipLocked threshold, world =>
      let unlocked := (world.view pid).waitlistEntries.filter fun entry =>
        staleOffer threshold entry && !world.lockedByOther pid (.waitlistEntry entry.id)
      some (unlocked, world.acquireAll pid (unlocked.map fun entry => .waitlistEntry entry.id))
  | .insert draft, world =>
      let write := draft world.nextId
      let advanced := { world with nextId := world.nextId + 1 }
      if world.mustWait pid write then none
      else match (world.view pid).violated write with
        | some constraint => some (.error constraint, advanced)
        | none => some (.ok world.nextId, advanced.append pid write)
  | .update write, world =>
      match write.target with
      | none => some ((), world.append pid write)
      | some row =>
          if world.lockedByOther pid row then none
          else some ((), (world.acquire pid row).append pid write)
  | .commit, world =>
      some ((), { world.release pid with
        db := world.view pid
        journal := world.journal ++ [⟨call, world.writesOf pid⟩] })
  | .rollback, world => some ((), world.release pid)
  | .now, world => some (world.clock, world)
  | .push job, world =>
      let counted := { world with pushes := world.pushes + 1 }
      if world.redisTakes world.pushes then
        some (true, { counted with
          jobs := world.jobs ++ [job]
          outside := world.outside.enqueue job })
      else some (false, counted)
  | .ask request, world =>
      some ((world.outside.ask request).1,
        { world with outside := (world.outside.ask request).2 })

end AppointmentVoice
