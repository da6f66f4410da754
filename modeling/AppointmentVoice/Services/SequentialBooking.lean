import AppointmentVoice.Services.Sequential

/-!
# Making and cancelling bookings alone

What `cancel_booking` and `create_booking` come to when they run alone: which rows
have to be there for them to commit, what they commit, and how many jobs they
push.  A call that raises before its commit leaves the committed rows and Redis as
they were; after the commit only Redis can make it raise.

**The calls.** `cancelBooking_alone` and `createBooking_alone`.
-/

set_option autoImplicit false

namespace AppointmentVoice

open Concurrency

/-! ## What has to be there -/

/-- The rows from which the messages about a booking are composed. -/
structure Contact (cfg : Settings) (db : Db) (tenantId businessId customerId serviceId : Nat)
    (startsAt : Instant) (business : Business) (customer : Customer) (service : Service) :
    Prop where
  businessFound : Query.eval (.business businessId tenantId) db = some business
  customerFound : Query.eval (.customer customerId tenantId) db = some customer
  customerHere : customer.businessId = businessId
  serviceFound : Query.eval (.service serviceId tenantId) db = some service
  serviceHere : service.businessId = businessId
  tells : cfg.TellsTime business startsAt

theorem Contact.unique {cfg : Settings} {db : Db} {tenantId businessId customerId serviceId : Nat}
    {startsAt otherStart : Instant} {business otherBusiness : Business}
    {customer otherCustomer : Customer} {service otherService : Service}
    (one : Contact cfg db tenantId businessId customerId serviceId startsAt business customer
      service)
    (two : Contact cfg db tenantId businessId customerId serviceId otherStart otherBusiness
      otherCustomer otherService) :
    otherBusiness = business ∧ otherCustomer = customer ∧ otherService = service := by
  have sameBusiness := two.businessFound.symm.trans one.businessFound
  have sameCustomer := two.customerFound.symm.trans one.customerFound
  have sameService := two.serviceFound.symm.trans one.serviceFound
  cases sameBusiness
  cases sameCustomer
  cases sameService
  exact ⟨rfl, rfl, rfl⟩

/-- The entry that a freed slot would be offered to. -/
def nextWaiting (db : Db) (tenantId : Nat) (booking : Booking) : Option WaitlistEntry :=
  oldest (db.waitlistEntries.filter (slotOf booking tenantId).accepts)

/-- The customer of the entry that a freed slot would be offered to is there. -/
def WaitingCustomerFound (db : Db) (tenantId : Nat) (booking : Booking) : Prop :=
  ∀ entry, nextWaiting db tenantId booking = some entry → ∃ customer : Customer,
    Query.eval (.customer entry.customerId tenantId) db = some customer ∧
      customer.businessId = entry.businessId

/-- `cancel_booking` finds all it looks for. -/
def CanCancel (cfg : Settings) (db : Db) (tenantId : Nat) (booking : Booking) : Prop :=
  (∃ business customer service, Contact cfg db tenantId booking.businessId booking.customerId
    booking.serviceId booking.startsAt business customer service) ∧
      WaitingCustomerFound db tenantId booking

/-- The jobs that `cancel_booking` pushes: one for each message, one for an offer
and one for the calendar. -/
def cancelPushes (db : Db) (tenantId : Nat) (booking : Booking) (business : Business) : Nat :=
  business.messages + (nextWaiting db tenantId booking).toList.length +
    (Query.eval (.calendarEvent booking.id tenantId) db : Option CalendarEvent).toList.length

/-- The calendar jobs among them. -/
def calendarJobs (db : Db) (tenantId : Nat) (booking : Booking) : List QueuedJob :=
  (Query.eval (.calendarEvent booking.id tenantId) db : Option CalendarEvent).toList.map
    fun event => .cancelCalendarEvent event.id

/-! ## Cancelling -/

/-- The booking has been cancelled and committed. -/
structure CancelDone (before : Solo) (booking : Booking) (reason : Option String)
    (after : Solo) : Prop where
  writes : after.writes = []
  bookings : after.db.bookings = before.view.bookings.map fun row =>
    if row.id = booking.id then BookingChange.apply (.cancel reason) row else row
  calendarEvents : after.db.calendarEvents = before.view.calendarEvents
  catalogue : SameCatalogue before.view after.db
  nextId : before.nextId ≤ after.nextId
  redisTakes : after.redisTakes = before.redisTakes

section Cancelling

variable {cfg : Settings} {args : CancelBooking} {solo : Solo} {booking : Booking}
variable {post : Except AppError Booking → Solo → Prop}

/-- The booking is found again after it has been changed. -/
theorem refresh_changed {db : Db} {bookings : List Booking} (change : BookingChange)
    (keys : (bookings.map (·.id)).Nodup) (there : booking ∈ bookings)
    (after : db.bookings = bookings.map fun row =>
      if row.id = booking.id then change.apply row else row) :
    Query.eval (.bookingByPrimaryKey booking.id) db = some (change.apply booking) := by
  have fresh : ∀ row : Booking, (if row.id = booking.id then change.apply row else row).id =
      row.id := by
    intro row
    split <;> cases change <;> rfl
  have first : bookings.find? (fun row => row.id == booking.id) = some booking := by
    cases search : bookings.find? (fun row => row.id == booking.id) with
    | none => exact absurd (beq_self_eq_true _) (List.find?_eq_none.mp search booking there)
    | some row =>
        have same : row.id = booking.id := by simpa using List.find?_some search
        rw [List.inj_on_of_nodup_map keys (List.mem_of_find?_eq_some search) there same]
  simp only [Query.eval, after, List.find?_map]
  have sameSearch : ((fun row : Booking => row.id == booking.id) ∘ fun row =>
      if row.id = booking.id then change.apply row else row) =
      fun row => row.id == booking.id := by
    funext row
    rw [Function.comp_apply, fresh]
  rw [sameSearch, first, Option.map_some, if_pos rfl]

/-- **Cancelling alone.** A call that finds a row missing raises and leaves
everything as it was; any other commits the cancellation, and returns the booking
if Redis takes its jobs. -/
theorem cancelBooking_alone (plain : (args.override && blank args.reason) = false)
    (keys : (Table.bookings.ids solo.view).Nodup)
    (found : Query.eval (.booking args.bookingId args.tenantId) solo.view = some booking)
    (here : booking.businessId = args.businessId) (active : booking.status ≠ .cancelled)
    (fails : ¬CanCancel cfg solo.view args.tenantId booking → ∀ error (after : Solo),
      after.db = solo.db → after.jobs = solo.jobs → post (.error error) after)
    (lost : ∀ business customer service, Contact cfg solo.view args.tenantId booking.businessId
        booking.customerId booking.serviceId booking.startsAt business customer service →
      WaitingCustomerFound solo.view args.tenantId booking →
      ¬solo.Takes (cancelPushes solo.view args.tenantId booking business) → ∀ after middle : Solo,
        CancelDone solo booking args.reason middle → after.db = middle.db →
          post (.error .redis) after)
    (done : ∀ business customer service, Contact cfg solo.view args.tenantId booking.businessId
        booking.customerId booking.serviceId booking.startsAt business customer service →
      WaitingCustomerFound solo.view args.tenantId booking →
      solo.Takes (cancelPushes solo.view args.tenantId booking business) → ∀ after : Solo,
        CancelDone solo booking args.reason after →
        after.pushes = solo.pushes + cancelPushes solo.view args.tenantId booking business →
          post (.ok (BookingChange.apply (.cancel args.reason) booking)) after) :
    Ends (cancelBooking cfg args) solo post := by
  rw [cancelBooking, plain, if_neg Bool.false_ne_true]
  refine Ends.now ?_
  refine Ends.requireBookingInBusinessForUpdate (fun absent => ?_) fun row there _ => ?_
  · exact absurd here (absent booking found)
  have member : booking ∈ solo.view.bookings := List.mem_of_find?_eq_some found
  rw [found] at there
  cases there
  rw [if_neg active]
  refine Ends.update ?_
  refine Ends.failLinkedPendingPayment fun paid quietly => ?_
  refine Ends.createAuditLog fun audit noted => ?_
  have audited := quietly.trans noted
  have cancelled := solo.amend_view (.updateBooking booking.id (.cancel args.reason))
  have catalogue : SameCatalogue solo.view audit.view :=
    .trans (by rw [cancelled]; exact ⟨rfl, rfl, rfl, rfl, rfl⟩) audited.catalogue
  have early : ¬CanCancel cfg solo.view args.tenantId booking → ∀ error,
      post (.error error) audit :=
        fun unable error => fails unable error audit audited.db audited.jobs
  refine Ends.requireBusiness (fun missing => early ?_) fun business businessFound => ?_
  · rintro ⟨⟨business, customer, service, contact⟩, -⟩
    rw [catalogue.business, contact.businessFound] at missing
    cases missing
  rw [catalogue.business] at businessFound
  refine Ends.requireCustomerInBusiness (fun missing => early ?_) fun customer customerFound
    customerHere => ?_
  · rintro ⟨⟨_, customer, service, contact⟩, -⟩
    rw [catalogue.customer] at missing
    exact missing customer contact.customerFound contact.customerHere
  rw [catalogue.customer] at customerFound
  refine Ends.requireServiceInBusiness (fun missing => early ?_) fun service serviceFound
    serviceHere => ?_
  · rintro ⟨⟨_, customer, service, contact⟩, -⟩
    rw [catalogue.service] at missing
    exact missing service contact.serviceFound contact.serviceHere
  rw [catalogue.service] at serviceFound
  refine Ends.enqueueBookingCancellation (fun missing => early ?_)
    fun tells ids told sent quietlyTold => ?_
  · rintro ⟨⟨_, customer, service, contact⟩, -⟩
    have same := contact.businessFound.symm.trans businessFound
    cases same
    exact missing contact.tells
  have contact : Contact cfg solo.view args.tenantId booking.businessId booking.customerId
      booking.serviceId booking.startsAt business customer service :=
    ⟨businessFound, customerFound, customerHere, serviceFound, serviceHere, tells⟩
  have quietlyTold := audited.trans quietlyTold
  have toldCatalogue : SameCatalogue solo.view told.view :=
    .trans (by rw [cancelled]; exact ⟨rfl, rfl, rfl, rfl, rfl⟩) quietlyTold.catalogue
  have toldWaitlist : told.view.waitlistEntries = solo.view.waitlistEntries := by
    rw [quietlyTold.waitlistEntries, cancelled]
    rfl
  -- After the offer, whoever it went to, the session commits and pushes its jobs.
  have finish : WaitingCustomerFound solo.view args.tenantId booking → ∀ (last : Solo)
      (offerIds : List Nat),
      offerIds.length = (nextWaiting solo.view args.tenantId booking).toList.length →
      Steadily told last →
      Ends (do
        let calendarEvent : Option CalendarEvent ←
          select (.calendarEvent booking.id args.tenantId)
        commit
        let booking ← refreshBooking booking.id
        enqueueJobs (ids.map .sendNotification)
        enqueueJobs (offerIds.map .sendNotification)
        enqueueJobs (calendarEvent.toList.map fun event => .cancelCalendarEvent event.id)
        return booking) last post := by
    intro customerFound last offerIds offers steadily
    have whole := quietlyTold.toSteadily.trans steadily
    have bookings : last.view.bookings = solo.view.bookings.map fun row =>
        if row.id = booking.id then BookingChange.apply (.cancel args.reason) row else row := by
      rw [whole.bookings, cancelled]
      rfl
    have events : last.view.calendarEvents = solo.view.calendarEvents := by
      rw [whole.calendarEvents, cancelled]
      rfl
    have cancelDone : CancelDone solo booking args.reason last.committed :=
      ⟨rfl, bookings, events, toldCatalogue.trans steadily.catalogue, whole.nextId,
        whole.redisTakes⟩
    refine Ends.select (.calendarEvent booking.id args.tenantId) ?_
    have sameEvent : Query.eval (.calendarEvent booking.id args.tenantId) last.view =
        Query.eval (.calendarEvent booking.id args.tenantId) solo.view :=
      congrArg (List.find? _) events
    rw [sameEvent]
    refine Ends.commit ?_
    refine Ends.refreshBooking (refresh_changed (.cancel args.reason) keys member bookings) ?_
    have pushes : cancelPushes solo.view args.tenantId booking business =
        (ids.map QueuedJob.sendNotification).length +
          ((offerIds.map QueuedJob.sendNotification).length +
            (calendarJobs solo.view args.tenantId booking).length) := by
      simp only [cancelPushes, calendarJobs, List.length_map, sent, offers, Nat.add_assoc]
    have sameTakes : ∀ count, solo.Takes count ↔ last.committed.Takes count := by
      intro count
      change _ ↔ ∀ index < count, last.redisTakes (last.pushes + index) = true
      rw [whole.redisTakes, whole.pushes]
      exact Iff.rfl
    have refused : ¬last.committed.Takes (cancelPushes solo.view args.tenantId booking business) →
        ∀ after : Solo, after.db = last.committed.db → post (.error .redis) after := by
      intro short after same
      refine lost business customer service contact customerFound ?_ after _ cancelDone same
      rwa [sameTakes]
    rw [pushes] at refused
    simp only [Solo.takes_add] at refused
    refine Ends.enqueueJobs (fun first => ?_) fun short after same =>
      refused (fun all => short all.1) after same
    refine Ends.enqueueJobs (fun second => ?_) fun short after same =>
      refused (fun all => short all.2.1) after same
    refine Ends.enqueueJobs (fun third => ?_) fun short after same =>
      refused (fun all => short all.2.2) after same
    refine done business customer service contact customerFound ?_ _ ?_ ?_
    · rw [sameTakes, pushes]
      simp only [Solo.takes_add]
      exact ⟨first, second, third⟩
    · exact ⟨rfl, cancelDone.bookings, cancelDone.calendarEvents, cancelDone.catalogue,
        cancelDone.nextId, cancelDone.redisTakes⟩
    · have total : ∀ first second third : List QueuedJob,
          (((last.committed.pushed first).pushed second).pushed third).pushes =
            last.pushes + (first.length + (second.length + third.length)) := by
        intro first second third
        simp only [Solo.pushed, Solo.committed, Nat.add_assoc]
      have samePushes : last.pushes = solo.pushes := whole.pushes
      rw [pushes, ← samePushes]
      exact total _ _ _
  refine Ends.waitlist ?_
  rw [toldWaitlist]
  cases waiting : nextWaiting solo.view args.tenantId booking with
  | none =>
      have nobody : WaitingCustomerFound solo.view args.tenantId booking := by
        intro entry found
        rw [waiting] at found
        cases found
      rw [nextWaiting] at waiting
      rw [waiting]
      exact finish nobody told [] (by rw [nextWaiting, waiting]; rfl) (Quietly.refl told).toSteadily
  | some entry =>
      rw [nextWaiting] at waiting
      rw [waiting]
      refine Ends.bind (Ends.update ?_)
      have offered := Steadily.offer told entry.id booking.staffId solo.clock
      have sameCustomer : ∀ id, Query.eval (.customer id args.tenantId) (told.amend
          (.updateWaitlistEntry entry.id (.offer booking.staffId solo.clock))).view =
            Query.eval (.customer id args.tenantId) solo.view := fun id =>
        (toldCatalogue.trans offered.catalogue).customer id args.tenantId
      refine Ends.requireCustomerInBusiness
        (fun missing error => ?_) fun other otherFound here => ?_
      · refine fails ?_ error _ quietlyTold.db quietlyTold.jobs
        rintro ⟨-, all⟩
        obtain ⟨other, otherFound, here⟩ := all entry waiting
        rw [sameCustomer] at missing
        exact missing other otherFound here
      rw [sameCustomer] at otherFound
      refine Ends.addIntent fun offerId last quietly => ?_
      have everybody : WaitingCustomerFound solo.view args.tenantId booking := by
        intro first isFirst
        rw [nextWaiting, waiting] at isFirst
        cases isFirst
        exact ⟨other, otherFound, here⟩
      exact finish everybody last [offerId] (by rw [nextWaiting, waiting]; rfl)
        (offered.trans quietly.toSteadily)

end Cancelling

/-! ## Making a booking -/

/-- A booking that keeps a staff member from being booked for an interval.  The
check of the service looks at the business's own bookings; the constraint of the
database at all of them, but not at empty ones. -/
def blocks (staffId businessId : Nat) (startsAt endsAt : Instant) (row : Booking) : Bool :=
  row.staffId == some staffId && row.status.active && row.startsAt < endsAt &&
    startsAt < row.endsAt && (row.businessId == businessId || row.startsAt < row.endsAt)

/-- The staff member, if one is given, is free. -/
def StaffFree (db : Db) (staffId : Option Nat) (businessId : Nat) (startsAt endsAt : Instant) :
    Prop :=
  ∀ id, staffId = some id → ∀ row ∈ db.bookings, blocks id businessId startsAt endsAt row = false

/-- `create_booking` finds all it looks for. -/
def CanCreate (cfg : Settings) (db : Db) (args : CreateBooking) : Prop :=
  (∃ business customer service, Contact cfg db args.tenantId args.businessId args.customerId
    args.serviceId args.startsAt business customer service ∧
      InCalendar (args.startsAt + minutes service.durationMinutes) ∧
      StaffFree db args.staffId args.businessId args.startsAt
        (args.startsAt + minutes service.durationMinutes)) ∧
    StaffFound db args.staffId args.businessId args.tenantId

/-- The row that `create_booking` adds. -/
def CreateBooking.row (args : CreateBooking) (service : Service) (id : Nat) (createdAt : Instant) :
    Booking :=
  ⟨id, args.tenantId, args.businessId, args.customerId, args.serviceId, args.staffId,
    args.startsAt, args.startsAt + minutes service.durationMinutes, .confirmed, args.source, none,
    createdAt⟩

/-- The booking has been added and committed. -/
structure CreateDone (before : Solo) (row : Booking) (after : Solo) : Prop where
  writes : after.writes = []
  bookings : after.db.bookings = before.view.bookings ++ [row]
  catalogue : SameCatalogue before.view after.db
  nextId : before.nextId < after.nextId
  redisTakes : after.redisTakes = before.redisTakes

/-- The two checks together look for a booking that blocks the interval. -/
theorem blocks_iff {args : CreateBooking} {staffId : Nat} (service : Service) (id : Nat)
    (createdAt : Instant) (given : args.staffId = some staffId) (row : Booking) :
    blocks staffId args.businessId args.startsAt
        (args.startsAt + minutes service.durationMinutes) row = true ↔
      conflictsWith staffId args.businessId args.startsAt
          (args.startsAt + minutes service.durationMinutes) none row = true ∨
        excludes (args.row service id createdAt) row = true := by
  have ordered : args.startsAt < args.startsAt + minutes service.durationMinutes :=
    Int.lt_add_of_pos_right _ (minutes_pos service.durationPositive)
  have confirmed : BookingStatus.confirmed.active = true := rfl
  have noExclusion : (none : Option Nat) ≠ some row.id := nofun
  simp only [blocks, conflictsWith, excludes, CreateBooking.row, given, confirmed, ordered,
    Bool.and_eq_true, Bool.or_eq_true, beq_iff_eq, decide_eq_true_eq,
      Option.isSome_some, bne_iff_ne,
    eq_comm (a := row.staffId)]
  tauto

theorem staffFree_iff {db : Db} {args : CreateBooking} (service : Service) (id : Nat)
    (createdAt : Instant) :
    StaffFree db args.staffId args.businessId args.startsAt
        (args.startsAt + minutes service.durationMinutes) ↔
      (∀ staffId, args.staffId = some staffId → Query.eval (.doubleBooking staffId args.businessId
        args.startsAt (args.startsAt + minutes service.durationMinutes) none) db = none) ∧
      db.violated (.insertBooking (args.row service id createdAt)) = none := by
  have unviolated : db.violated (.insertBooking (args.row service id createdAt)) = none ↔
      ∀ row ∈ db.bookings, ¬excludes (args.row service id createdAt) row = true := by
    rw [Db.violated, ite_eq_right_iff, ← List.any_eq_false, Bool.eq_false_iff]
    exact ⟨fun clear present => Option.some_ne_none _ (clear present), fun clear present =>
      absurd present clear⟩
  rw [unviolated]
  cases given : args.staffId with
  | none =>
      refine iff_of_true (by rintro _ ⟨⟩) ⟨by rintro _ ⟨⟩, fun row _ excluded => ?_⟩
      simp [excludes, CreateBooking.row, given] at excluded
  | some staffId =>
      have same := fun row => not_congr (blocks_iff service id createdAt given row)
      simp only [StaffFree, Query.eval, Option.some.injEq, forall_eq', Bool.eq_false_iff, ne_eq,
        same, not_or]
      exact forall₂_and.trans (and_congr_left' List.find?_eq_none.symm)

/-- The booking is found again after it has been added. -/
theorem refresh_created {db : Db} {bookings : List Booking} {row : Booking}
    (fresh : ∀ other ∈ bookings, other.id ≠ row.id) (after : db.bookings = bookings ++ [row]) :
    Query.eval (.bookingByPrimaryKey row.id) db = some row := by
  have absent : bookings.find? (fun other => other.id == row.id) = none := by
    rw [List.find?_eq_none]
    intro other there
    rw [beq_iff_eq]
    exact fresh other there
  simp only [Query.eval, after, List.find?_append, absent, Option.none_or]
  rw [List.find?_singleton, if_pos (beq_self_eq_true _)]

section Creating

variable {cfg : Settings} {args : CreateBooking} {solo : Solo}
variable {post : Except AppError Booking → Solo → Prop}

/-- **Creating alone.** A call that finds a row missing, the staff member taken or a time that
cannot be told raises and leaves everything as it was; any other commits the booking, and
returns it if Redis takes its jobs. -/
theorem createBooking_alone (plain : (args.override && blank args.reason) = false)
    (fresh : ∀ row ∈ solo.view.bookings, row.id ≠ solo.nextId)
    (freshEvents : ∀ event ∈ solo.view.calendarEvents, event.bookingId ≠ solo.nextId)
    (fails : ¬CanCreate cfg solo.view args → ∀ error (after : Solo),
      after.db = solo.db → after.jobs = solo.jobs → post (.error error) after)
    (lost : CanCreate cfg solo.view args → ∀ business customer service, Contact cfg solo.view
        args.tenantId args.businessId args.customerId args.serviceId args.startsAt business customer
          service →
      ¬solo.Takes (business.messages + 1) → ∀ after middle : Solo,
        CreateDone solo (args.row service solo.nextId solo.clock) middle → after.db = middle.db →
          post (.error .redis) after)
    (done : CanCreate cfg solo.view args → ∀ business customer service, Contact cfg solo.view
        args.tenantId args.businessId args.customerId args.serviceId args.startsAt business customer
          service →
      solo.Takes (business.messages + 1) → ∀ after : Solo,
        CreateDone solo (args.row service solo.nextId solo.clock) after →
          post (.ok (args.row service solo.nextId solo.clock)) after) :
    Ends (createBooking cfg args) solo post := by
  have early : ¬CanCreate cfg solo.view args → ∀ error, post (.error error) solo :=
    fun unable error => fails unable error solo rfl rfl
  rw [createBooking, plain, if_neg Bool.false_ne_true]
  refine Ends.now ?_
  refine Ends.requireBusiness (fun missing => early ?_) fun business businessFound => ?_
  · rintro ⟨⟨business, customer, service, contact, -⟩, -⟩
    rw [contact.businessFound] at missing
    cases missing
  refine Ends.requireCustomerInBusiness (fun missing => early ?_) fun customer customerFound
    customerHere => ?_
  · rintro ⟨⟨_, customer, service, contact, -⟩, -⟩
    exact missing customer contact.customerFound contact.customerHere
  refine Ends.requireServiceInBusiness (fun missing => early ?_) fun service serviceFound
    serviceHere => ?_
  · rintro ⟨⟨_, customer, service, contact, -⟩, -⟩
    exact missing service contact.serviceFound contact.serviceHere
  refine Ends.requireStaffIfGiven (fun missing => early ?_) fun staffFound => ?_
  · rintro ⟨-, staffFound⟩
    exact missing staffFound
  have mine : CanCreate cfg solo.view args →
      InCalendar (args.startsAt + minutes service.durationMinutes) ∧
        StaffFree solo.view args.staffId args.businessId args.startsAt
          (args.startsAt + minutes service.durationMinutes) := by
    rintro ⟨⟨_, _, other, contact, fits, free⟩, -⟩
    rw [contact.serviceFound] at serviceFound
    cases serviceFound
    exact ⟨fits, free⟩
  refine Ends.orOverflow (fun leaves => early fun able => leaves (mine able).1) fun fits => ?_
  have taken : ¬StaffFree solo.view args.staffId args.businessId args.startsAt
      (args.startsAt + minutes service.durationMinutes) → ¬CanCreate cfg solo.view args :=
    fun full able => full (mine able).2
  refine Ends.checkDoubleBooking (fun id conflict given answer => early (taken ?_) _) fun free => ?_
  · rw [staffFree_iff service solo.nextId solo.clock]
    rintro ⟨clear, -⟩
    rw [clear id given] at answer
    cases answer
  cases fine : solo.view.violated (.insertBooking (args.row service solo.nextId solo.clock)) with
  | some constraint =>
      refine Ends.refused fine (fails (taken ?_) _ _ rfl rfl)
      rw [staffFree_iff service solo.nextId solo.clock]
      rintro ⟨-, clear⟩
      rw [clear] at fine
      cases fine
  | none =>
      refine Ends.insert fine ?_
      refine Ends.createAuditLog fun audit noted => ?_
      refine Ends.enqueueBookingConfirmation (fun missing error => ?_)
        fun tells ids told sent quietly => ?_
      · refine fails ?_ error audit noted.db noted.jobs
        rintro ⟨⟨_, customer, service, contact, -⟩, -⟩
        have same := contact.businessFound.symm.trans businessFound
        cases same
        exact missing contact.tells
      have whole : Quietly (solo.add [.insertBooking (args.row service solo.nextId solo.clock)])
          told := noted.trans quietly
      have added := solo.add_view [.insertBooking (args.row service solo.nextId solo.clock)]
      have contact : Contact cfg solo.view args.tenantId args.businessId args.customerId
          args.serviceId args.startsAt business customer service :=
        ⟨businessFound, customerFound, customerHere, serviceFound, serviceHere, tells⟩
      have canCreate : CanCreate cfg solo.view args := by
        refine ⟨⟨business, customer, service, contact, fits, ?_⟩, staffFound⟩
        rw [staffFree_iff service solo.nextId solo.clock]
        exact ⟨free, fine⟩
      refine Ends.bind (Ends.tryCatch (Ends.enqueueCalendarEvent (fun event there => ?_)
        fun event ofBooking => Ends.commit ?_))
      · rw [whole.calendarEvents, added] at there
        exact freshEvents event there
      have last := told.add_view [.insertCalendarEvent event]
      have createDone : CreateDone solo (args.row service solo.nextId solo.clock)
          (told.add [.insertCalendarEvent event]).committed := by
        refine ⟨rfl, ?_, ?_, ?_, whole.redisTakes⟩
        · change (told.add [.insertCalendarEvent event]).view.bookings = _
          rw [last]
          exact whole.bookings.trans (by rw [added]; rfl)
        · refine .trans ?_ (.trans whole.catalogue ?_)
          · rw [added]
            exact ⟨rfl, rfl, rfl, rfl, rfl⟩
          · rw [Solo.committed, last]
            exact ⟨rfl, rfl, rfl, rfl, rfl⟩
        · have later := whole.nextId
          simp only [Solo.add, List.length_singleton] at later
          exact Nat.lt_of_lt_of_le later (Nat.le_add_right _ _)
      refine Ends.refreshBooking (refresh_created fresh createDone.bookings) ?_
      have sameTakes : ∀ count, solo.Takes count ↔
          (told.add [.insertCalendarEvent event]).committed.Takes count := by
        intro count
        change _ ↔ ∀ index < count, told.redisTakes (told.pushes + index) = true
        rw [whole.redisTakes, whole.pushes]
        exact Iff.rfl
      have all : solo.Takes (business.messages + 1) ↔
          (told.add [.insertCalendarEvent event]).committed.Takes
            ((ids.map QueuedJob.sendNotification).length + 1) := by
        rw [sameTakes, List.length_map, sent]
      rw [Solo.takes_add] at all
      refine Ends.enqueueJobs (fun first => ?_) fun short after same =>
        lost canCreate business customer service contact (fun both => short (all.mp both).1) after _
          createDone same
      refine Ends.enqueueJob (fun second => ?_) fun refused => ?_
      · refine done canCreate business customer service contact (all.mpr ⟨first, ?_⟩) _ ?_
        · intro index below
          rw [Nat.lt_one_iff.mp below]
          exact second
        · exact ⟨rfl, createDone.bookings, createDone.catalogue, createDone.nextId,
            createDone.redisTakes⟩
      · refine lost canCreate business customer service contact (fun both => ?_) _ _ createDone rfl
        have second := (all.mp both).2 0 Nat.one_pos
        exact absurd (refused.symm.trans second) Bool.false_ne_true

end Creating

end AppointmentVoice
