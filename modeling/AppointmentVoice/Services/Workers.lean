import AppointmentVoice.Services.Common

/-!
# The workers

What the background workers do with one job, and the sweeps that make jobs again
for rows that no job has come back for: a message is read, handed to the provider
and marked in three separate steps, a calendar event likewise, and neither step
locks the row.

A job stays in the queue while it is handled.  When the handler returns it is
acknowledged, when the handler raises it comes back with one more attempt, and after
`worker_max_retries` of those it goes to the failed queue.
-/

set_option autoImplicit false

namespace AppointmentVoice

open Concurrency

/-! ## Messages -/

/-- `MAX_NOTIFICATION_ATTEMPTS`. -/
def maxNotificationAttempts : Nat := 3

/-- The columns of the row take what the provider has answered. -/
def SmsSendResult.isStorable (result : SmsSendResult) : Bool :=
  if result.success then result.providerMessageId.all (fitsColumn 128)
  else result.error.all (fitsColumn 500)

/-- The part of `send_notification_in_worker` after the provider's answer. -/
def recordDelivery (intent : NotificationOutbox) (result : SmsSendResult) : DbM Unit :=
  if result.success then do
    let sentAt ← now
    orDataError result.isStorable
    update (.updateNotification intent.id
      (.send (intent.attempts + 1) sentAt result.providerMessageId))
    commit
  else if intent.attempts + 1 ≥ maxNotificationAttempts then do
    orDataError result.isStorable
    update (.updateNotification intent.id (.giveUp (intent.attempts + 1) result.error))
    commit
  else do
    orDataError result.isStorable
    update (.updateNotification intent.id (.retry (intent.attempts + 1) result.error))
    commit
    throw (.smsDelivery result.error)

/-- The part of `send_notification_in_worker` after the row has been read. -/
def deliver (intent : NotificationOutbox) : DbM Unit := do
  let result : Option SmsSendResult ←
    ask (.sendSms intent.id ⟨intent.recipientPhone, intent.body⟩)
  match result with
  | none => throw .provider
  | some result => recordDelivery intent result

/-- `send_notification_in_worker`: the row is read without a lock. -/
def sendNotificationInWorker (notificationId : Nat) : DbM Unit := do
  let found : Option NotificationOutbox ← select (.notificationByPrimaryKey notificationId)
  match found with
  | none => return ()
  | some intent => if intent.status = .pending then deliver intent else return ()

/-! ## Calendar events -/

/-- `….one()`. -/
def one {α : Type} (row : Option α) : DbM α := orRaise .noResultFound row

/-- `_build_event_payload`. -/
def buildEventPayload (booking : Booking) (service : Service) (staff : Option Staff)
    (visibility : CalendarVisibility) : CalendarEventPayload :=
  match visibility with
  | .privateEvents => ⟨"Busy", booking.startsAt, booking.endsAt⟩
  | .publicEvents =>
      let title := match staff with
        | some member => service.name ++ " – " ++ member.name
        | none => service.name
      ⟨title, booking.startsAt, booking.endsAt⟩

/-- `(result.error or "")[:500]`. -/
def lastErrorOf (result : CalendarResult) : String :=
  String.ofList ((result.error.getD "").toList.take 500)

/-- The columns of the row take what the provider has answered when it was asked to make the
event. -/
def CalendarResult.isStorable (result : CalendarResult) : Bool :=
  if result.success then result.providerEventId.all (fitsColumn 255)
  else fitsColumn 500 (lastErrorOf result)

/-- The part of `sync_calendar_event_in_worker` after the provider's answer. -/
def recordSync (cfg : Settings) (event : CalendarEvent) (result : CalendarResult) : DbM Unit :=
  if result.success then do
    let syncedAt ← now
    orDataError result.isStorable
    update (.updateCalendarEvent event.id
      (.sync (event.attempts + 1) result.providerEventId syncedAt))
    commit
  else if event.attempts + 1 ≥ cfg.workerMaxRetries then do
    orDataError result.isStorable
    update (.updateCalendarEvent event.id (.giveUpSync (event.attempts + 1) (lastErrorOf result)))
    commit
  else do
    orDataError result.isStorable
    update (.updateCalendarEvent event.id (.retrySync (event.attempts + 1) (lastErrorOf result)))
    commit
    throw (.calendarSync result.error)

/-- The member of staff of a booking, if it has one. -/
def staffOf (booking : Booking) : DbM (Option Staff) :=
  match booking.staffId with
  | some staffId => do
      let member ← one (← select (.staffByPrimaryKey staffId))
      return some member
  | none => pure none

/-- The part of `sync_calendar_event_in_worker` after the row has been read. -/
def syncEvent (cfg : Settings) (event : CalendarEvent) : DbM Unit := do
  let booking ← one (← select (.bookingByPrimaryKey event.bookingId))
  if booking.tenantId ≠ event.tenantId then return ()
  let service ← one (← select (.serviceByPrimaryKey booking.serviceId))
  let staff ← staffOf booking
  let integration ← getCalendarIntegration booking.businessId booking.tenantId booking.staffId
  let visibility := match integration with
    | some row => row.visibility
    | none => .publicEvents
  let result : Option CalendarResult ←
    ask (.createEvent event.id (buildEventPayload booking service staff visibility))
  match result with
  | none => throw .provider
  | some result => recordSync cfg event result

/-- `sync_calendar_event_in_worker`. -/
def syncCalendarEventInWorker (cfg : Settings) (eventId : Nat) : DbM Unit := do
  let found : Option CalendarEvent ← select (.calendarEventByPrimaryKey eventId)
  match found with
  | none => return ()
  | some event =>
      if event.status = .pending ∨ event.status = .failed then syncEvent cfg event else return ()

/-- The part of `cancel_calendar_event_in_worker` after the provider's answer, of which only
the error is stored. -/
def recordCancel (cfg : Settings) (event : CalendarEvent) (result : CalendarResult) : DbM Unit :=
  if result.success then do
    update (.updateCalendarEvent event.id (.cancel (event.cancelAttempts + 1)))
    commit
  else if event.cancelAttempts + 1 ≥ cfg.workerMaxRetries then do
    orDataError (fitsColumn 500 (lastErrorOf result))
    update (.updateCalendarEvent event.id
      (.giveUpCancel (event.cancelAttempts + 1) (lastErrorOf result)))
    commit
  else do
    orDataError (fitsColumn 500 (lastErrorOf result))
    update (.updateCalendarEvent event.id
      (.retryCancel (event.cancelAttempts + 1) (lastErrorOf result)))
    commit
    throw (.calendarCancel result.error)

/-- The part of `cancel_calendar_event_in_worker` after the row has been read.  An
event that was never synced needs no call of the provider. -/
def withdrawEvent (cfg : Settings) (event : CalendarEvent) : DbM Unit := do
  let booking ← one (← select (.bookingByPrimaryKey event.bookingId))
  if booking.tenantId ≠ event.tenantId then return ()
  if event.status = .pending ∨ event.status = .failed then do
    update (.updateCalendarEvent event.id .drop)
    commit
  else do
    let result : Option CalendarResult ← ask (.cancelEvent event.providerEventId)
    match result with
    | none => throw .provider
    | some result => recordCancel cfg event result

/-- `cancel_calendar_event_in_worker`. -/
def cancelCalendarEventInWorker (cfg : Settings) (eventId : Nat) : DbM Unit := do
  let found : Option CalendarEvent ← select (.calendarEventByPrimaryKey eventId)
  match found with
  | none => return ()
  | some event =>
      if event.status = .cancelled ∨ event.status = .cancelFailed then return ()
      else withdrawEvent cfg event

/-! ## Jobs -/

/-- The handler of a job. -/
def handleJob (cfg : Settings) : QueuedJob → DbM Unit
  | .sendNotification notificationId => sendNotificationInWorker notificationId
  | .syncCalendarEvent eventId => syncCalendarEventInWorker cfg eventId
  | .cancelCalendarEvent eventId => cancelCalendarEventInWorker cfg eventId

/-- `ack_job`. -/
def ackJob (entry : QueueEntry) : DbM Unit := ask (.ack entry)

/-- `schedule_retry`. -/
def scheduleRetry (entry : QueueEntry) : DbM Unit := ask (.scheduleRetry entry)

/-- `move_job_to_failed_queue`. -/
def moveJobToFailedQueue (entry : QueueEntry) : DbM Unit := ask (.moveToFailedQueue entry)

/-- What becomes of the entry after its job has been handled. -/
def settleJob (cfg : Settings) (entry : QueueEntry) : Option AppError → DbM Unit
  | none => ackJob entry
  | some _ =>
      if entry.attempts < cfg.workerMaxRetries then scheduleRetry entry
      else moveJobToFailedQueue entry

/-- The handler, with its error, and the end of its session. -/
def runHandler (cfg : Settings) (job : QueuedJob) : DbM (Option AppError) := do
  let outcome ← MonadExcept.tryCatch
    (do
      handleJob cfg job
      return none)
    (fun error => pure (some error))
  rollback
  return outcome

/-- `process_next_job` for one entry of the queue; the answer is the number of jobs
handled. -/
def processJob (cfg : Settings) (entry : QueueEntry) : DbM Nat := do
  let taken : Bool ← ask (.dequeue entry)
  if taken then do
    let outcome ← runHandler cfg entry.job
    settleJob cfg entry outcome
    return 1
  else return 0

/-! ## Sweeps -/

/-- Write the rows one after the other. -/
def updateAll : List Write → DbM Unit
  | [] => pure ()
  | write :: writes => do
      update write
      updateAll writes

/-- The rows are marked at the commit, after the jobs have been pushed. -/
def requeue (jobs : List QueuedJob) (marks : List Write) : DbM Nat := do
  enqueueJobs jobs
  if marks.isEmpty then return 0
  updateAll marks
  commit
  return marks.length

/-- `reconcile_stale_notifications`: the messages that have been pending too long are queued
again. -/
def reconcileStaleNotifications (cfg : Settings) : DbM Nat := do
  let currentTime ← now
  let stale : List NotificationOutbox ← select (.staleNotifications
    (currentTime - minutes cfg.workerReconciliationStaleMinutes))
  requeue (stale.map fun intent => .sendNotification intent.id)
    (stale.map fun intent => .updateNotification intent.id (.requeue currentTime))

/-- `reconcile_stale_calendar_events`: the events that have been pending too long are queued
again. -/
def reconcileStaleCalendarEvents (cfg : Settings) : DbM Nat := do
  let currentTime ← now
  let stale : List CalendarEvent ← select (.staleCalendarEvents
    (currentTime - minutes cfg.workerReconciliationStaleMinutes))
  requeue (stale.map fun event => .syncCalendarEvent event.id)
    (stale.map fun event => .updateCalendarEvent event.id (.requeue currentTime))

/-- One turn of `enqueue_due_reminders`: the job is pushed before the row is
committed. -/
def remind (cfg : Settings) (createdAt : Instant) (booking : Booking) : DbM Nat := do
  if booking.startsAt - booking.createdAt < minutes cfg.reminderMinAdvanceMinutes then return 0
  let alreadyQueued : Option NotificationOutbox ← select (.queuedReminder booking.id)
  match alreadyQueued with
  | some _ => return 0
  | none =>
      let business ← requireBusiness booking.businessId booking.tenantId
      let customer ←
        requireCustomerInBusiness booking.customerId booking.businessId booking.tenantId
      let service ← requireServiceInBusiness booking.serviceId booking.businessId booking.tenantId
      let when ← formatLocalTime cfg booking.startsAt business
      let intentId ← addIntent booking.tenantId booking.businessId (some booking.id)
        .bookingReminder customer.phone
        ("Reminder: your " ++ service.name ++ " appointment at " ++ business.name ++ " is at " ++
          when ++ ".") createdAt
      enqueueJob (.sendNotification intentId)
      return 1

/-- The reminders of the bookings, one after the other; the answer is how many there are. -/
def remindEach (cfg : Settings) (createdAt : Instant) : List Booking → DbM Nat
  | [] => pure 0
  | booking :: rest => do
      let reminded ← remind cfg createdAt booking
      let others ← remindEach cfg createdAt rest
      return reminded + others

/-- `enqueue_due_reminders`. -/
def enqueueDueReminders (cfg : Settings) : DbM Nat := do
  let startedAt ← now
  let dueBookings : List Booking ←
    select (.dueBookings startedAt (startedAt + minutes cfg.reminderLeadMinutes))
  let count ← remindEach cfg startedAt dueBookings
  if count = 0 then return 0
  commit
  return count

/-! ## Calls -/

/-- What a worker does in one go. -/
inductive WorkerCall where
  | processJob (entry : QueueEntry)
  | reconcileStaleNotifications
  | reconcileStaleCalendarEvents
  | enqueueDueReminders
  deriving DecidableEq, Repr

/-- The program of a worker. -/
def work (cfg : Settings) : WorkerCall → DbM Nat
  | .processJob entry => processJob cfg entry
  | .reconcileStaleNotifications => reconcileStaleNotifications cfg
  | .reconcileStaleCalendarEvents => reconcileStaleCalendarEvents cfg
  | .enqueueDueReminders => enqueueDueReminders cfg

end AppointmentVoice
