import AppointmentVoice.Concurrency.Paths
import AppointmentVoice.Services.Transactions

/-!
# Which statements the services issue

Of which kinds the statements of a function are can be read off its text, whatever
the answers.  The functions that the services share only read, note and push; the
transactions also lock, update and commit; the inserts of bookings are in two
functions only.  One lemma for each function says so for any kind of statements
that is wide enough.

The lemmas carry the names of the functions, in the namespaces of what they say of the
statements; `perform` says so of every call.
-/

set_option autoImplicit false

namespace AppointmentVoice

open Concurrency Program

/-! ## Kinds of statements -/

namespace Stmt

/-- The kind takes in reading and noting. -/
structure Noting (kind : Stmt → Prop) : Prop where
  select : ∀ query, kind (.select query)
  now : kind .now
  audit : ∀ row : Nat → AuditLog, kind (.insert fun id => .insertAudit (row id))
  outbox : ∀ row : Nat → NotificationOutbox, (∀ id, (row id).Fresh) →
    kind (.insert fun id => .insertOutbox (row id))

/-- The kind takes in pushing too. -/
structure Plain (kind : Stmt → Prop) : Prop extends Noting kind where
  push : ∀ job, job.withdraws = false → kind (.push job)

instance {kind : Stmt → Prop} : Coe (Plain kind) (Noting kind) := ⟨Plain.toNoting⟩

/-- The kind takes in calendar events and the ends of transactions too. -/
structure Ending (kind : Stmt → Prop) : Prop extends Plain kind where
  event : ∀ row : Nat → CalendarEvent, (∀ id, (row id).status = .pending) →
    kind (.insert fun id => .insertCalendarEvent (row id))
  commit : kind .commit
  rollback : kind .rollback

/-- The kind takes in the locks of bookings, the updates of the payments and the entries
that are new too. -/
structure Charging (kind : Stmt → Prop) : Prop extends Ending kind where
  lock : ∀ id tenantId, kind (.selectBookingForUpdate id tenantId)
  payment : ∀ id change, kind (.update (.updatePayment id change))
  enroll : ∀ row : Nat → WaitlistEntry, kind (.insert fun id => .insertWaitlistEntry (row id))

/-- The kind takes in all that is done to the waitlist too. -/
structure Locking (kind : Stmt → Prop) : Prop extends Charging kind where
  waitlist : ∀ filter, kind (.selectWaitlistForUpdateSkipLocked filter)
  staleOffers : ∀ threshold, kind (.selectStaleOffersForUpdateSkipLocked threshold)
  entry : ∀ id change, kind (.update (.updateWaitlistEntry id change))

/-- The kind takes in everything that the booking service does. -/
structure Salon (kind : Stmt → Prop) : Prop extends Locking kind where
  book : ∀ row : Nat → Booking, kind (.insert fun id => .insertBooking (row id))
  pay : ∀ row : Nat → BookingPayment, kind (.insert fun id => .insertPayment (row id))
  confirm : ∀ id, kind (.update (.updateBooking id .confirm))
  cancel : ∀ id reason, kind (.update (.updateBooking id (.cancel reason)))
  withdraw : ∀ id, kind (.push (.cancelCalendarEvent id))

end Stmt

/-! ## Functions -/

namespace Issues

variable {α β : Type} {kind : Stmt → Prop}

theorem ret (value : α) : (pure value : DbM α).Only kind := Only.ret value

theorem raise (error : AppError) : (throw error : DbM α).Only kind := Only.raise error

theorem insert {draft : Nat → Write} (fits : kind (.insert draft)) :
    (AppointmentVoice.insert draft).Only kind := by
  refine .call fits fun answer => ?_
  cases answer with
  | ok id => exact ret id
  | error constraint => exact raise _

theorem orRaise (error : AppError) (row : Option α) :
    (AppointmentVoice.orRaise error row).Only kind := by
  cases row with
  | none => exact raise error
  | some value => exact ret value

theorem orOverflow (time : Int) : (AppointmentVoice.orOverflow time).Only kind := by
  rw [AppointmentVoice.orOverflow]
  split
  · exact ret _
  · exact raise _

theorem orDataError (fits : Bool) : (AppointmentVoice.orDataError fits).Only kind := by
  cases fits with
  | false => exact raise _
  | true => exact ret ()

theorem eachOrOverflow (times : List Int) : (AppointmentVoice.eachOrOverflow times).Only kind := by
  rw [AppointmentVoice.eachOrOverflow]
  split
  · exact ret _
  · exact raise _

/-- `if …: raise …`. -/
theorem guard {condition : Prop} [Decidable condition] {error : AppError} {rest : Unit → DbM α}
    (goesOn : (rest ()).Only kind) :
    (if condition then (throw error : DbM Unit) >>= rest else rest () : DbM α).Only kind := by
  split
  · exact raise error
  · exact goesOn

/-- A row that is looked up and has to belong to the business. -/
theorem inBusiness {lookup : DbM α} (looks : lookup.Only kind) {condition : α → Prop}
    [DecidablePred condition] (error : AppError) :
    (do
      let row ← lookup
      if condition row then throw error
      return row : DbM α).Only kind :=
  Only.bind looks fun row => guard (ret row)

section Noting

variable (noting : Stmt.Noting kind)
include noting

theorem select (query : Query) : (AppointmentVoice.select query).Only kind :=
  Only.issue (noting.select query)

theorem now : AppointmentVoice.now.Only kind := Only.issue noting.now

omit noting in
theorem enqueueJob {job : QueuedJob} (fits : kind (.push job)) :
    (AppointmentVoice.enqueueJob job).Only kind := by
  refine .call fits fun answer => ?_
  cases answer with
  | true => exact ret ()
  | false => exact raise _

omit noting in
theorem enqueueJobs {jobs : List QueuedJob} (fits : ∀ job ∈ jobs, kind (.push job)) :
    (AppointmentVoice.enqueueJobs jobs).Only kind := by
  induction jobs with
  | nil => exact ret ()
  | cons job jobs ih =>
      exact Only.bind (enqueueJob (fits job List.mem_cons_self)) fun _ =>
        ih fun other member => fits other (List.mem_cons_of_mem _ member)

omit noting in
/-- The jobs of messages. -/
theorem notify (plain : Stmt.Plain kind) (ids : List Nat) :
    (AppointmentVoice.enqueueJobs (ids.map .sendNotification)).Only kind := by
  refine enqueueJobs fun job member => ?_
  obtain ⟨id, -, rfl⟩ := List.mem_map.mp member
  exact plain.push _ rfl

theorem requireBusiness (businessId tenantId : Nat) :
    (AppointmentVoice.requireBusiness businessId tenantId).Only kind :=
  Only.bind (select noting _) fun _ => orRaise _ _

theorem requireCustomerInBusiness (customerId businessId tenantId : Nat) :
    (AppointmentVoice.requireCustomerInBusiness customerId businessId tenantId).Only kind :=
  inBusiness (Only.bind (select noting _) fun _ => orRaise _ _) _

theorem requireServiceInBusiness (serviceId businessId tenantId : Nat) :
    (AppointmentVoice.requireServiceInBusiness serviceId businessId tenantId).Only kind :=
  inBusiness (Only.bind (select noting _) fun _ => orRaise _ _) _

theorem requireStaffIfGiven (staffId : Option Nat) (businessId tenantId : Nat) :
    (AppointmentVoice.requireStaffIfGiven staffId businessId tenantId).Only kind := by
  cases staffId with
  | none => exact ret ()
  | some id =>
      exact Only.bind (inBusiness (Only.bind (select noting _) fun _ => orRaise _ _) _) fun _ =>
        ret _

theorem requireBookingInBusiness (bookingId businessId tenantId : Nat) :
    (AppointmentVoice.requireBookingInBusiness bookingId businessId tenantId).Only kind :=
  inBusiness (Only.bind (select noting _) fun _ => orRaise _ _) _

theorem refreshBooking (bookingId : Nat) :
    (AppointmentVoice.refreshBooking bookingId).Only kind :=
  Only.bind (select noting _) fun _ => orRaise _ _

theorem refreshPayment (paymentId : Nat) :
    (AppointmentVoice.refreshPayment paymentId).Only kind :=
  Only.bind (select noting _) fun _ => orRaise _ _

theorem checkDoubleBooking (staffId : Option Nat) (businessId : Nat) (startsAt endsAt : Instant)
    (excludeBookingId : Option Nat) :
    (AppointmentVoice.checkDoubleBooking staffId businessId startsAt endsAt
      excludeBookingId).Only kind := by
  cases staffId with
  | none => exact ret ()
  | some id =>
      refine Only.bind (select noting _) fun conflict => ?_
      cases conflict with
      | none => exact ret ()
      | some booking => exact raise _

theorem createAuditLog (tenantId : Nat) (adminId : Option Nat) (action : AuditAction)
    (targetBookingId : Nat) (source : Option String) :
    (AppointmentVoice.createAuditLog tenantId adminId action targetBookingId source).Only kind :=
  Only.bind (insert (noting.audit _)) fun _ => ret _

theorem addIntent (tenantId businessId : Nat) (bookingId : Option Nat)
    (purpose : NotificationPurpose) (recipientPhone body : String) (createdAt : Instant) :
    (AppointmentVoice.addIntent tenantId businessId bookingId purpose recipientPhone body
      createdAt).Only kind :=
  insert (noting.outbox _ fun _ => ⟨rfl, rfl⟩)

theorem addOwnerIntent (booking : Booking) (business : Business) (purpose : NotificationPurpose)
    (body : String) (createdAt : Instant) :
    (AppointmentVoice.addOwnerIntent booking business purpose body createdAt).Only kind := by
  rw [AppointmentVoice.addOwnerIntent]
  split
  · split
    · exact ret _
    · exact Only.bind (addIntent noting _ _ _ _ _ _ _) fun _ => ret _
  · exact ret _

omit noting in
theorem formatLocalTime (cfg : Settings) (startsAt : Instant) (business : Business) :
    (AppointmentVoice.formatLocalTime cfg startsAt business).Only kind := by
  rw [AppointmentVoice.formatLocalTime]
  split
  · exact ret _
  · exact raise _

theorem buildPublicManagementUrl (cfg : Settings) (bookingId : Nat) :
    (AppointmentVoice.buildPublicManagementUrl cfg bookingId).Only kind := by
  rw [AppointmentVoice.buildPublicManagementUrl]
  cases (stripSlashes cfg.bookingPublicBaseUrl).isEmpty with
  | true => exact ret _
  | false => exact Only.bind (Only.bind (now noting) fun time => ret _) fun token => ret _

theorem enqueueBookingConfirmation (cfg : Settings) (booking : Booking) (business : Business)
    (customer : Customer) (service : Service) (createdAt : Instant) :
    (AppointmentVoice.enqueueBookingConfirmation cfg booking business customer service
      createdAt).Only kind := by
  rw [AppointmentVoice.enqueueBookingConfirmation]
  refine Only.bind (formatLocalTime _ _ _) fun when => ?_
  refine Only.bind (buildPublicManagementUrl noting _ _) fun manageUrl => ?_
  refine Only.bind (addIntent noting _ _ _ _ _ _ _) fun first => ?_
  exact Only.bind (addOwnerIntent noting _ _ _ _ _) fun owner => ret _

theorem enqueueBookingCancellation (cfg : Settings) (booking : Booking) (business : Business)
    (customer : Customer) (service : Service) (createdAt : Instant) :
    (AppointmentVoice.enqueueBookingCancellation cfg booking business customer service
      createdAt).Only kind :=
  Only.bind (formatLocalTime _ _ _) fun _ => Only.bind (addIntent noting _ _ _ _ _ _ _) fun _ =>
    Only.bind (addOwnerIntent noting _ _ _ _ _) fun _ => ret _

theorem enqueueWaitlistOffer (entry : WaitlistEntry) (business : Business) (customer : Customer)
    (service : Service) (createdAt : Instant) :
    (AppointmentVoice.enqueueWaitlistOffer entry business customer service createdAt).Only kind :=
  addIntent noting _ _ _ _ _ _ _

end Noting

section Ending

variable (ending : Stmt.Ending kind)
include ending

theorem enqueueCalendarEvent (booking : Booking) (business : Business) (createdAt : Instant) :
    (AppointmentVoice.enqueueCalendarEvent booking business createdAt).Only kind := by
  refine Only.bind ?_ fun _ => insert (ending.event _ fun _ => rfl)
  cases booking.staffId with
  | none => exact select ending.toPlain _
  | some id =>
      refine Only.bind (select ending.toPlain _) fun own => ?_
      cases own with
      | none => exact select ending.toPlain _
      | some integration => exact ret _

theorem onIntegrityError (error : AppError) :
    (AppointmentVoice.onIntegrityError error : DbM α).Only kind := by
  cases error with
  | integrity constraint => exact Only.bind (Only.issue ending.rollback) fun _ => guard (raise _)
  | _ => exact raise _

/-- Making a booking inserts it. -/
theorem createBooking (books : ∀ row : Nat →
    Booking, kind (.insert fun id => .insertBooking (row id)))
    (cfg : Settings) (args : CreateBooking) :
      (AppointmentVoice.createBooking cfg args).Only kind := by
  have plain := ending.toPlain
  rw [AppointmentVoice.createBooking]
  refine guard ?_
  refine Only.bind (now plain) fun _ => Only.bind (requireBusiness plain _ _) fun _ => ?_
  refine Only.bind (requireCustomerInBusiness plain _ _ _) fun _ => ?_
  refine Only.bind (requireServiceInBusiness plain _ _ _) fun _ => ?_
  refine Only.bind (requireStaffIfGiven plain _ _ _) fun _ => ?_
  refine Only.bind (orOverflow _) fun _ =>
    Only.bind (checkDoubleBooking plain _ _ _ _ _) fun _ => ?_
  refine Only.bind (insert (books _)) fun _ =>
    Only.bind (createAuditLog plain _ _ _ _ _) fun _ => ?_
  refine Only.bind (enqueueBookingConfirmation plain _ _ _ _ _ _) fun _ => ?_
  refine Only.bind (Only.tryCatch ?_ (onIntegrityError ending)) fun _ => ?_
  · exact Only.bind (enqueueCalendarEvent ending _ _ _) fun _ =>
      Only.bind (Only.issue ending.commit)
      fun _ => ret _
  · exact Only.bind (refreshBooking plain _) fun _ => Only.bind (notify plain _) fun _ =>
      Only.bind (enqueueJob (plain.push _ rfl)) fun _ => ret _

/-- A hold inserts the booking and the payment. -/
theorem createPendingPaymentHold
    (books : ∀ row : Nat → Booking, kind (.insert fun id => .insertBooking (row id)))
    (pays : ∀ row : Nat → BookingPayment, kind (.insert fun id => .insertPayment (row id)))
    (args : CreatePendingPaymentHold) :
    (AppointmentVoice.createPendingPaymentHold args).Only kind := by
  have plain := ending.toPlain
  rw [AppointmentVoice.createPendingPaymentHold]
  refine Only.bind (now plain) fun _ => Only.bind (requireBusiness plain _ _) fun _ => ?_
  refine Only.bind (requireCustomerInBusiness plain _ _ _) fun _ => ?_
  refine Only.bind (requireServiceInBusiness plain _ _ _) fun svc => ?_
  split
  · refine Only.bind (requireStaffIfGiven plain _ _ _) fun _ => Only.bind (orOverflow _) fun _ => ?_
    refine Only.bind (checkDoubleBooking plain _ _ _ _ _) fun _ => ?_
    refine Only.bind (Only.tryCatch ?_ (onIntegrityError ending)) fun _ => refreshBooking plain _
    exact Only.bind (insert (books _)) fun _ => Only.bind (insert (pays _)) fun _ =>
      Only.bind (createAuditLog plain _ _ _ _ _) fun _ => Only.bind (Only.issue ending.commit)
        fun _ => ret _
  · exact raise _

end Ending

section Charging

variable (charging : Stmt.Charging kind)
include charging

theorem requireBookingInBusinessForUpdate (bookingId businessId tenantId : Nat) :
    (AppointmentVoice.requireBookingInBusinessForUpdate bookingId businessId tenantId).Only kind :=
  Only.bind (Only.issue (charging.lock _ _)) fun _ => Only.bind (orRaise _ _) fun row =>
    guard (ret row)

theorem failLinkedPendingPayment (booking : Booking) (reason : Option String) :
    (AppointmentVoice.failLinkedPendingPayment booking reason).Only kind := by
  refine Only.bind (select charging.toPlain _) fun payment => ?_
  split
  · exact Only.issue (charging.payment _ _)
  · exact ret _

theorem confirmBookingPayment (confirms : ∀ id, kind (.update (.updateBooking id .confirm)))
    (cfg : Settings) (args : ConfirmBookingPayment) :
    (AppointmentVoice.confirmBookingPayment cfg args).Only kind := by
  refine Only.bind (requireBookingInBusinessForUpdate charging _ _ _) fun booking => ?_
  cases booking.status with
  | confirmed =>
      refine Only.bind (select charging.toPlain _) fun payment => ?_
      cases payment with
      | none => exact raise _
      | some payment =>
          dsimp only
          split
          · exact ret _
          · exact raise _
  | cancelled => exact raise _
  | pendingPayment =>
      refine Only.bind (select charging.toPlain _) fun found =>
        Only.bind (orRaise _ _) fun payment => guard ?_
      exact Only.bind (now charging.toPlain) fun _ =>
        Only.bind (Only.issue (charging.payment _ _)) fun _ =>
        Only.bind (Only.issue (confirms _)) fun _ =>
          Only.bind (createAuditLog charging.toPlain _ _ _ _ _) fun _ =>
          Only.bind (requireBusiness charging.toPlain _ _) fun _ =>
        Only.bind (requireCustomerInBusiness charging.toPlain _ _ _) fun _ =>
        Only.bind (requireServiceInBusiness charging.toPlain _ _ _) fun _ =>
        Only.bind (enqueueBookingConfirmation charging.toPlain _ _ _ _ _ _) fun _ =>
        Only.bind (enqueueCalendarEvent charging.toEnding _ _ _) fun _ =>
          Only.bind (Only.issue charging.commit) fun _ =>
        Only.bind (refreshBooking charging.toPlain _) fun _ =>
          Only.bind (notify charging.toPlain _) fun _ =>
        Only.bind (enqueueJob (charging.push _ rfl)) fun _ => ret _

theorem refundBookingPayment (args : RefundBookingPayment) :
    (AppointmentVoice.refundBookingPayment args).Only kind := by
  refine Only.bind (requireBookingInBusiness charging.toPlain _ _ _) fun _ =>
    Only.bind (select charging.toPlain _) fun _ =>
    Only.bind (orRaise _ _) fun payment => guard ?_
  exact Only.bind (now charging.toPlain) fun _ =>
    Only.bind (Only.issue (charging.payment _ _)) fun _ =>
      Only.bind (createAuditLog charging.toPlain _ _ _ _ _) fun _ =>
      Only.bind (Only.issue charging.commit) fun _ => refreshPayment charging.toPlain _

theorem createWaitlistEntry (args : CreateWaitlistEntry) :
    (AppointmentVoice.createWaitlistEntry args).Only kind := by
  have plain := charging.toPlain
  refine Only.bind (now plain) fun _ => Only.bind (requireBusiness plain _ _) fun _ => ?_
  refine Only.bind (requireCustomerInBusiness plain _ _ _) fun _ => ?_
  refine Only.bind (requireServiceInBusiness plain _ _ _) fun _ => ?_
  refine Only.bind (requireStaffIfGiven plain _ _ _) fun _ => ?_
  refine Only.bind (insert (charging.enroll _)) fun _ =>
    Only.bind (Only.issue charging.commit) fun _ => ?_
  exact Only.bind (select plain _) fun _ => orRaise _ _

end Charging

section Locking

variable (locking : Stmt.Locking kind)
include locking

theorem expirePendingPaymentHold
    (cancels : ∀ id reason, kind (.update (.updateBooking id (.cancel reason))))
    (args : BookingRef) :
    (AppointmentVoice.expirePendingPaymentHold args).Only kind := by
  refine Only.bind (now locking.toPlain) fun _ =>
    Only.bind (requireBookingInBusinessForUpdate locking.toCharging _ _ _) fun booking =>
    guard ?_
  refine Only.bind (Only.issue (cancels _ _)) fun _ =>
    Only.bind (failLinkedPendingPayment locking.toCharging _ _) fun _ =>
    Only.bind (createAuditLog locking.toPlain _ _ _ _ _) fun _ =>
      Only.bind (Only.issue (locking.waitlist _)) fun matching =>
    Only.bind ?_ fun _ => Only.bind (Only.issue locking.commit) fun _ =>
      Only.bind (refreshBooking locking.toPlain _) fun _ =>
    Only.bind (notify locking.toPlain _) fun _ => ret _
  cases matching with
  | nil => exact ret _
  | cons entry rest =>
      exact Only.bind (Only.issue (locking.entry _ _)) fun _ =>
        Only.bind (requireBusiness locking.toPlain _ _) fun _ =>
        Only.bind (requireServiceInBusiness locking.toPlain _ _ _) fun _ =>
        Only.bind (requireCustomerInBusiness locking.toPlain _ _ _) fun _ =>
        Only.bind (enqueueWaitlistOffer locking.toPlain _ _ _ _ _) fun _ => ret _

theorem expireEach (cancels : ∀ id reason, kind (.update (.updateBooking id (.cancel reason))))
    (bookings : List Booking) :
    (AppointmentVoice.expireEach bookings).Only kind := by
  induction bookings with
  | nil => exact ret _
  | cons booking rest ih =>
      refine Only.bind
        (Only.tryCatch (Only.bind (expirePendingPaymentHold locking cancels _) fun _ => ret _)
        fun error => ?_) fun _ => Only.bind ih fun _ => ret _
      cases error with
      | conflict message => exact Only.bind (Only.issue locking.rollback) fun _ => ret _
      | _ => exact raise _

theorem expireStalePaymentHolds
    (cancels : ∀ id reason, kind (.update (.updateBooking id (.cancel reason)))) (cfg : Settings) :
    (AppointmentVoice.expireStalePaymentHolds cfg).Only kind :=
  Only.bind (now locking.toPlain) fun _ => Only.bind (select locking.toPlain _) fun _ =>
    expireEach locking cancels _

theorem cancelBooking (cancels : ∀ id reason, kind (.update (.updateBooking id (.cancel reason))))
    (withdraws : ∀ id, kind (.push (.cancelCalendarEvent id)))
    (cfg : Settings) (args : CancelBooking) :
    (AppointmentVoice.cancelBooking cfg args).Only kind := by
  rw [AppointmentVoice.cancelBooking]
  refine guard ?_
  refine Only.bind (now locking.toPlain) fun _ =>
    Only.bind (requireBookingInBusinessForUpdate locking.toCharging _ _ _) fun booking =>
    guard ?_
  refine Only.bind (Only.issue (cancels _ _)) fun _ =>
    Only.bind (failLinkedPendingPayment locking.toCharging _ _) fun _ =>
    Only.bind (createAuditLog locking.toPlain _ _ _ _ _) fun _ =>
      Only.bind (requireBusiness locking.toPlain _ _) fun _ =>
    Only.bind (requireCustomerInBusiness locking.toPlain _ _ _) fun _ =>
    Only.bind (requireServiceInBusiness locking.toPlain _ _ _) fun _ =>
    Only.bind (enqueueBookingCancellation locking.toPlain _ _ _ _ _ _) fun _ =>
    Only.bind (Only.issue (locking.waitlist _)) fun matching => Only.bind ?_ fun _ =>
    Only.bind (select locking.toPlain _) fun _ => Only.bind (Only.issue locking.commit) fun _ =>
      Only.bind (refreshBooking locking.toPlain _) fun _ =>
    Only.bind (notify locking.toPlain _) fun _ => Only.bind (notify locking.toPlain _) fun _ =>
    Only.bind (enqueueJobs ?_) fun _ => ret _
  · cases matching with
      | nil => exact ret _
      | cons entry rest =>
          exact Only.bind (Only.issue (locking.entry _ _)) fun _ =>
            Only.bind (requireCustomerInBusiness locking.toPlain _ _ _) fun _ =>
            Only.bind (enqueueWaitlistOffer locking.toPlain _ _ _ _ _) fun _ => ret _
  · intro job member
    obtain ⟨event, -, rfl⟩ := List.mem_map.mp member
    exact withdraws _

theorem expireOffers (startedAt : Instant) (entries : List WaitlistEntry) :
    (AppointmentVoice.expireOffers startedAt entries).Only kind := by
  induction entries with
  | nil => exact ret _
  | cons entry rest ih =>
      refine Only.bind (Only.issue (locking.entry _ _)) fun _ => Only.bind ?_ fun _ =>
        Only.bind ih fun _ => ret _
      refine Only.bind (Only.issue (locking.waitlist _)) fun candidates => ?_
      cases candidates with
      | nil => exact ret _
      | cons next others =>
          exact Only.bind (Only.issue (locking.entry _ _)) fun _ =>
            Only.bind (requireBusiness locking.toPlain _ _) fun _ =>
            Only.bind (requireCustomerInBusiness locking.toPlain _ _ _) fun _ =>
            Only.bind (requireServiceInBusiness locking.toPlain _ _ _) fun _ =>
            Only.bind (enqueueWaitlistOffer locking.toPlain _ _ _ _ _) fun _ => ret _

theorem expireStaleWaitlistOffers (cfg : Settings) :
    (AppointmentVoice.expireStaleWaitlistOffers cfg).Only kind := by
  refine Only.bind (now locking.toPlain) fun _ =>
    Only.bind (Only.issue (locking.staleOffers _)) fun stale => ?_
  split
  · exact ret _
  · exact Only.bind (expireOffers locking _ _) fun _ =>
      Only.bind (Only.issue locking.commit) fun _ =>
      Only.bind (notify locking.toPlain _) fun _ => ret _

end Locking

section Salon

theorem map {program : DbM α} (wrap : α → β) (only : program.Only kind) :
    (wrap <$> program).Only kind := by
  rw [map_eq_pure_bind]
  exact Only.bind only fun _ => ret _

variable (salon : Stmt.Salon kind)
include salon

theorem rescheduleBooking (cfg : Settings) (args : RescheduleBooking) :
    (AppointmentVoice.rescheduleBooking cfg args).Only kind := by
  have plain := salon.toPlain
  refine Only.bind (requireBookingInBusiness plain _ _ _) fun existing => guard ?_
  refine Only.bind
    (cancelBooking salon.toLocking salon.cancel salon.withdraw cfg _) fun cancelled => ?_
  refine Only.bind (createBooking salon.toEnding salon.book cfg _) fun moved => ?_
  refine Only.bind (createAuditLog plain _ _ _ _ _) fun _ => ?_
  exact Only.bind (Only.issue salon.commit) fun _ => ret _

/-- Every call but those of the workers. -/
theorem perform (cfg : Settings) {call : Call} (served : ∀ task, call ≠ .work task) :
    (AppointmentVoice.perform cfg call).Only kind := by
  have locking := salon.toLocking
  cases call with
  | createBooking args => exact map _ (createBooking salon.toEnding salon.book cfg args)
  | createPendingPaymentHold args =>
      exact map _ (createPendingPaymentHold salon.toEnding salon.book salon.pay args)
  | confirmBookingPayment args =>
      exact map _ (confirmBookingPayment locking.toCharging salon.confirm cfg args)
  | expirePendingPaymentHold args =>
      exact map _ (expirePendingPaymentHold locking salon.cancel args)
  | expireStalePaymentHolds => exact map _ (expireStalePaymentHolds locking salon.cancel cfg)
  | refundBookingPayment args => exact map _ (refundBookingPayment locking.toCharging args)
  | cancelBooking args => exact map _ (cancelBooking locking salon.cancel salon.withdraw cfg args)
  | rescheduleBooking args => exact map _ (rescheduleBooking salon cfg args)
  | createWaitlistEntry args => exact map _ (createWaitlistEntry locking.toCharging args)
  | expireStaleWaitlistOffers => exact map _ (expireStaleWaitlistOffers locking cfg)
  | work task => exact absurd rfl (served task)

end Salon

end Issues

/-! ## Inserts of bookings -/

/-- The write adds a booking. -/
def Write.addsBooking : Write → Bool
  | .insertBooking _ => true
  | _ => false

/-- The statement is not an insert of a booking. -/
def Stmt.NoBooking : Stmt → Prop
  | .insert draft => ∀ id, (draft id).addsBooking = false
  | .update write => write.addsBooking = false
  | _ => True

theorem Stmt.noBooking_locking : Stmt.Locking Stmt.NoBooking where
  select _ := trivial
  now := trivial
  push _ _ := trivial
  audit _ _ := rfl
  outbox _ _ _ := rfl
  event _ _ _ := rfl
  commit := trivial
  rollback := trivial
  lock _ _ := trivial
  waitlist _ := trivial
  staleOffers _ := trivial
  payment _ _ := rfl
  entry _ _ := rfl
  enroll _ _ := rfl

/-- The program inserts no booking. -/
abbrev BooksNothing {α : Type} (program : DbM α) : Prop := program.Only Stmt.NoBooking

end AppointmentVoice
