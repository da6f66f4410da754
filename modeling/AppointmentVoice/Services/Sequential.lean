import AppointmentVoice.Database.Alone
import AppointmentVoice.Database.Rows
import AppointmentVoice.Services.Booking

/-!
# Rules for calls that run alone

What a service function comes to when no other session is open, as rules that
follow its text: one for each statement and one for each function that the
services share.  A rule for a lookup has one premise for the row that is found
and one for the error that is raised when there is none.

**The rules.** They carry the names of the statements and functions, as `Ends.enqueueJob`,
`Ends.requireBusiness` or `Ends.enqueueBookingConfirmation`.
-/

set_option autoImplicit false

namespace AppointmentVoice

open Concurrency

/-! ## States -/

namespace Solo

/-- Uncommitted writes are added. -/
def add (solo : Solo) (writes : List Write) : Solo :=
  { solo with writes := solo.writes ++ writes, nextId := solo.nextId + writes.length }

/-- An update is added; it takes no key. -/
def amend (solo : Solo) (write : Write) : Solo := { solo with writes := solo.writes ++ [write] }

/-- Everything that is seen is committed. -/
def committed (solo : Solo) : Solo := { solo with db := solo.view, writes := [] }

/-- Redis has taken some jobs. -/
def pushed (solo : Solo) (jobs : List QueuedJob) : Solo :=
  { solo with
    jobs := solo.jobs ++ jobs
    pushes := solo.pushes + jobs.length
    outside := solo.outside.enqueueAll jobs }

/-- Redis takes the next pushes. -/
def Takes (solo : Solo) (count : Nat) : Prop :=
  ∀ index < count, solo.redisTakes (solo.pushes + index) = true

@[simp] theorem amend_view (solo : Solo) (write : Write) :
    (solo.amend write).view = solo.view.apply write := by
  rw [amend, view, Db.applyAll_append]
  rfl

@[simp] theorem committed_view (solo : Solo) : solo.committed.view = solo.view := rfl

@[simp] theorem add_view (solo : Solo) (writes : List Write) :
    (solo.add writes).view = solo.view.applyAll writes := by
  rw [add, view, Db.applyAll_append]
  rfl

/-- Redis takes two batches when it takes the first and then the second. -/
theorem takes_add (solo : Solo) (jobs : List QueuedJob) (count : Nat) :
    solo.Takes (jobs.length + count) ↔ solo.Takes jobs.length ∧ (solo.pushed jobs).Takes count := by
  constructor
  · intro all
    refine ⟨fun index below => all index (by omega), fun index below => ?_⟩
    have later := all (jobs.length + index) (by omega)
    rwa [← Nat.add_assoc] at later
  · rintro ⟨first, second⟩ index below
    by_cases early : index < jobs.length
    · exact first index early
    · have later := second (index - jobs.length) (by omega)
      have same : (solo.pushed jobs).pushes + (index - jobs.length) = solo.pushes + index := by
        change solo.pushes + jobs.length + (index - jobs.length) = _
        omega
      rwa [same] at later

end Solo

/-! ## The catalogue -/

/-- The rows that bookings are made from, and the calls, are the same. -/
structure SameCatalogue (before after : Db) : Prop where
  businesses : after.businesses = before.businesses
  customers : after.customers = before.customers
  services : after.services = before.services
  staff : after.staff = before.staff
  voiceSessions : after.voiceSessions = before.voiceSessions

/-- The write touches neither the catalogue nor a call. -/
def Write.ofLedger : Write → Bool
  | .insertCustomer _ => false
  | .insertVoiceSession _ => false
  | .updateVoiceSession _ _ => false
  | _ => true

namespace SameCatalogue

variable {before after later : Db}

theorem refl (db : Db) : SameCatalogue db db := ⟨rfl, rfl, rfl, rfl, rfl⟩

theorem symm (same : SameCatalogue before after) : SameCatalogue after before :=
  ⟨same.businesses.symm, same.customers.symm, same.services.symm, same.staff.symm,
    same.voiceSessions.symm⟩

theorem trans (first : SameCatalogue before after) (second : SameCatalogue after later) :
    SameCatalogue before later :=
  ⟨second.businesses.trans first.businesses, second.customers.trans first.customers,
    second.services.trans first.services, second.staff.trans first.staff,
    second.voiceSessions.trans first.voiceSessions⟩

theorem applyAll {writes : List Write} (ledger : ∀ write ∈ writes, write.ofLedger = true)
    (db : Db) : SameCatalogue db (db.applyAll writes) := by
  induction writes generalizing db with
  | nil => exact refl db
  | cons write writes ih =>
      refine .trans ?_ (ih (fun other member => ledger other (List.mem_cons_of_mem _ member)) _)
      have here := ledger write List.mem_cons_self
      cases write with
      | insertCustomer row => cases here
      | insertVoiceSession row => cases here
      | updateVoiceSession id change => cases here
      | _ => exact ⟨rfl, rfl, rfl, rfl, rfl⟩

theorem business (same : SameCatalogue before after) (id tenantId : Nat) :
    Query.eval (.business id tenantId) after = Query.eval (.business id tenantId) before := by
  exact congrArg (List.find? _) same.businesses

theorem customer (same : SameCatalogue before after) (id tenantId : Nat) :
    Query.eval (.customer id tenantId) after = Query.eval (.customer id tenantId) before := by
  exact congrArg (List.find? _) same.customers

theorem service (same : SameCatalogue before after) (id tenantId : Nat) :
    Query.eval (.service id tenantId) after = Query.eval (.service id tenantId) before := by
  exact congrArg (List.find? _) same.services

theorem staffMember (same : SameCatalogue before after) (id tenantId : Nat) :
    Query.eval (.staffMember id tenantId) after = Query.eval (.staffMember id tenantId) before := by
  exact congrArg (List.find? _) same.staff

end SameCatalogue

/-! ## Postconditions -/

section Rules

variable {α β : Type}

/-- What a function that runs alone comes to. -/
def Ends (program : DbM α) (solo : Solo) (post : Except AppError α → Solo → Prop) : Prop :=
  post (program.run Solo.exec solo).1 (program.run Solo.exec solo).2

variable {solo : Solo} {post : Except AppError β → Solo → Prop}

theorem Ends.mono {program : DbM α} {weak strong : Except AppError α → Solo → Prop}
    (ends : Ends program solo strong) (implies : ∀ result after, strong result after →
      weak result after) : Ends program solo weak :=
  implies _ _ ends

theorem Ends.bind {program : DbM α} {next : α → DbM β}
    (ends : Ends program solo fun result after =>
      match result with
      | .ok value => Ends (next value) after post
      | .error error => post (.error error) after) : Ends (program >>= next) solo post := by
  rw [Ends, Program.run_bind]
  rw [Ends] at ends
  generalize program.run Solo.exec solo = outcome at ends ⊢
  obtain ⟨result, after⟩ := outcome
  cases result with
  | ok value => exact ends
  | error error => exact ends

theorem Ends.tryCatch {program : DbM β} {handler : AppError → DbM β}
    (ends : Ends program solo fun result after =>
      match result with
      | .ok value => post (.ok value) after
      | .error error => Ends (handler error) after post) :
    Ends (MonadExcept.tryCatch program handler) solo post := by
  rw [Ends, Program.run_tryCatch]
  rw [Ends] at ends
  generalize program.run Solo.exec solo = outcome at ends ⊢
  obtain ⟨result, after⟩ := outcome
  cases result with
  | ok value => exact ends
  | error error => exact ends

theorem Ends.ret {value : β} (met : post (.ok value) solo) : Ends (pure value) solo post := met

theorem Ends.raise {error : AppError} {next : α → DbM β} (met : post (.error error) solo) :
    Ends ((throw error : DbM α) >>= next) solo post := met

/-! ## Statements -/

theorem Ends.select (query : Query) {next : query.Row → DbM β}
    (ends : Ends (next (query.eval solo.view)) solo post) :
    Ends (AppointmentVoice.select query >>= next) solo post := ends

theorem Ends.now {next : Instant → DbM β} (ends : Ends (next solo.clock) solo post) :
    Ends (AppointmentVoice.now >>= next) solo post := ends

theorem Ends.update {write : Write} {next : Unit → DbM β}
    (ends : Ends (next ()) (solo.amend write) post) :
    Ends (AppointmentVoice.update write >>= next) solo post := ends

theorem Ends.commit {next : Unit → DbM β} (ends : Ends (next ()) solo.committed post) :
    Ends (AppointmentVoice.commit >>= next) solo post := ends

theorem Ends.rollback {next : Unit → DbM β} (ends : Ends (next ()) solo.close post) :
    Ends (AppointmentVoice.rollback >>= next) solo post := ends

theorem Ends.waitlist {filter : WaitlistFilter} {next : List WaitlistEntry → DbM β}
    (ends : Ends (next (oldest (solo.view.waitlistEntries.filter filter.accepts)).toList) solo
      post) :
    Ends (selectWaitlistForUpdateSkipLocked filter >>= next) solo post := ends

theorem Ends.lock {bookingId tenantId : Nat} {next : Option Booking → DbM β}
    (ends : Ends (next (solo.view.bookings.find? fun row =>
      row.id == bookingId && row.tenantId == tenantId)) solo post) :
    Ends (selectBookingForUpdate bookingId tenantId >>= next) solo post := ends

theorem Ends.refreshBooking {bookingId : Nat} {row : Booking} {next : Booking → DbM β}
    (found : Query.eval (.bookingByPrimaryKey bookingId) solo.view = some row)
    (ends : Ends (next row) solo post) :
    Ends (AppointmentVoice.refreshBooking bookingId >>= next) solo post := by
  rw [AppointmentVoice.refreshBooking, bind_assoc]
  refine Ends.select _ ?_
  rw [found]
  exact ends

/-- An insert that violates nothing. -/
theorem Ends.insert {draft : Nat → Write} {next : Nat → DbM β}
    (fine : solo.view.violated (draft solo.nextId) = none)
    (ends : Ends (next solo.nextId) (solo.add [draft solo.nextId]) post) :
    Ends (AppointmentVoice.insert draft >>= next) solo post := by
  change Ends ((match (solo.exec (.insert draft)).1 with
    | Except.ok id => Program.ret id
    | Except.error constraint => .raise (.integrity constraint)) >>= next)
      (solo.exec (.insert draft)).2 post
  simp only [Solo.exec, fine]
  exact ends

/-- An insert that violates a constraint. -/
theorem Ends.refused {draft : Nat → Write} {next : Nat → DbM β} {constraint : Constraint}
    (violated : solo.view.violated (draft solo.nextId) = some constraint)
    (raised : post (.error (.integrity constraint)) { solo with nextId := solo.nextId + 1 }) :
    Ends (AppointmentVoice.insert draft >>= next) solo post := by
  change Ends ((match (solo.exec (.insert draft)).1 with
    | Except.ok id => Program.ret id
    | Except.error constraint => .raise (.integrity constraint)) >>= next)
      (solo.exec (.insert draft)).2 post
  simp only [Solo.exec, violated]
  exact raised

/-! ## Pushes -/

theorem Ends.enqueueJob {job : QueuedJob} {next : Unit → DbM β}
    (taken : solo.redisTakes solo.pushes = true → Ends (next ()) (solo.pushed [job]) post)
    (lost : solo.redisTakes solo.pushes = false →
      post (.error .redis) { solo with pushes := solo.pushes + 1 }) :
    Ends (AppointmentVoice.enqueueJob job >>= next) solo post := by
  change Ends ((match (solo.exec (.push job)).1 with
    | true => Program.ret ()
    | false => .raise .redis) >>= next) (solo.exec (.push job)).2 post
  cases takes : solo.redisTakes solo.pushes with
  | true =>
      simp only [Solo.exec, takes, if_true]
      exact taken takes
  | false =>
      simp only [Solo.exec, takes]
      exact lost takes

/-- The jobs are pushed, or Redis refuses one of them. -/
theorem Ends.enqueueJobs {jobs : List QueuedJob} {next : Unit → DbM β}
    (taken : solo.Takes jobs.length → Ends (next ()) (solo.pushed jobs) post)
    (lost : ¬solo.Takes jobs.length → ∀ after : Solo, after.db = solo.db →
      post (.error .redis) after) :
    Ends (AppointmentVoice.enqueueJobs jobs >>= next) solo post := by
  induction jobs generalizing solo with
  | nil =>
      have same : solo.pushed [] = solo := by simp [Solo.pushed, Outside.enqueueAll]
      rw [same] at taken
      exact taken fun _ below => absurd below (Nat.not_lt_zero _)
  | cons job jobs ih =>
      rw [AppointmentVoice.enqueueJobs, bind_assoc]
      refine Ends.enqueueJob (fun takes => ?_) fun refused => ?_
      · have once : solo.Takes [job].length := by
          intro index below
          rw [Nat.lt_one_iff.mp below]
          exact takes
        have rest : (solo.pushed [job]).Takes jobs.length ↔ solo.Takes (job :: jobs).length := by
          rw [List.length_cons, Nat.add_comm, ← List.length_singleton (a := job), solo.takes_add]
          exact (and_iff_right once).symm
        refine ih (fun later => ?_) fun refused after sameDb => ?_
        · have joined : (solo.pushed [job]).pushed jobs = solo.pushed (job :: jobs) := by
            simp [Solo.pushed, Outside.enqueueAll, Nat.add_assoc, Nat.add_comm 1]
          rw [joined]
          exact taken (rest.mp later)
        · exact lost (fun all => refused (rest.mpr all)) after sameDb
      · refine lost (fun all => ?_) _ rfl
        have first := all 0 (Nat.succ_pos _)
        rw [Nat.add_zero, refused] at first
        cases first

/-! ## Lookups -/

theorem Ends.orRaise {error : AppError} {row : Option α} {next : α → DbM β}
    (missing : row = none → post (.error error) solo)
    (found : ∀ value, row = some value → Ends (next value) solo post) :
    Ends (AppointmentVoice.orRaise error row >>= next) solo post := by
  cases row with
  | none => exact missing rfl
  | some value => exact found value rfl

theorem Ends.orOverflow {time : Int} {next : Int → DbM β}
    (outside : ¬InCalendar time → ∀ error, post (.error error) solo)
    (inside : InCalendar time → Ends (next time) solo post) :
    Ends (AppointmentVoice.orOverflow time >>= next) solo post := by
  unfold AppointmentVoice.orOverflow
  split
  · next fits => exact inside fits
  · next leaves => exact outside leaves _

theorem Ends.orDataError {fits : Bool} {next : Unit → DbM β}
    (refused : fits = false → post (.error .data) solo)
    (taken : fits = true → Ends (next ()) solo post) :
    Ends (AppointmentVoice.orDataError fits >>= next) solo post := by
  cases fits with
  | false => exact refused rfl
  | true => exact taken rfl

theorem Ends.eachOrOverflow {times : List Int} {next : Unit → DbM β}
    (outside : ¬(∀ time ∈ times, InCalendar time) → post (.error .overflow) solo)
    (inside : (∀ time ∈ times, InCalendar time) → Ends (next ()) solo post) :
    Ends (AppointmentVoice.eachOrOverflow times >>= next) solo post := by
  unfold AppointmentVoice.eachOrOverflow
  split
  · next fits => exact inside fits
  · next leaves => exact outside leaves

theorem Ends.requireBusiness {businessId tenantId : Nat} {next : Business → DbM β}
    (missing : Query.eval (.business businessId tenantId) solo.view = none →
      ∀ error, post (.error error) solo)
    (found : ∀ business, Query.eval (.business businessId tenantId) solo.view = some business →
      Ends (next business) solo post) :
    Ends (AppointmentVoice.requireBusiness businessId tenantId >>= next) solo post := by
  rw [AppointmentVoice.requireBusiness, bind_assoc]
  exact Ends.select _ (Ends.orRaise (fun none => missing none _) found)

/-- A row that has to be there and to belong to the business. -/
theorem Ends.inBusiness {row : Option α} {businessOf : α → Nat} {businessId : Nat}
    {error : AppError} {next : α → DbM β}
    (missing : (∀ value, row = some value → businessOf value ≠ businessId) →
      ∀ error, post (.error error) solo)
    (found : ∀ value, row = some value → businessOf value = businessId →
      Ends (next value) solo post) :
    Ends (AppointmentVoice.orRaise error row >>= fun value =>
      (if businessOf value ≠ businessId then do
        throw error
        pure value
      else pure value) >>= next) solo post := by
  refine Ends.orRaise (fun none => missing ?_ _) fun value there => ?_
  · intro value there
    rw [there] at none
    cases none
  · by_cases here : businessOf value = businessId
    · rw [if_neg (not_not.mpr here)]
      exact found value there here
    · rw [if_pos here]
      refine missing ?_ _
      intro other same
      rw [there] at same
      cases same
      exact here

theorem Ends.requireCustomerInBusiness {customerId businessId tenantId : Nat}
    {next : Customer → DbM β}
    (missing : (∀ customer, Query.eval (.customer customerId tenantId) solo.view = some customer →
      customer.businessId ≠ businessId) → ∀ error, post (.error error) solo)
    (found : ∀ customer, Query.eval (.customer customerId tenantId) solo.view = some customer →
      customer.businessId = businessId → Ends (next customer) solo post) :
    Ends (AppointmentVoice.requireCustomerInBusiness customerId businessId tenantId >>= next) solo
      post := by
  simp only [AppointmentVoice.requireCustomerInBusiness, requireCustomer, bind_assoc]
  exact Ends.select _ (Ends.inBusiness missing found)

theorem Ends.requireServiceInBusiness {serviceId businessId tenantId : Nat}
    {next : Service → DbM β}
    (missing : (∀ service, Query.eval (.service serviceId tenantId) solo.view = some service →
      service.businessId ≠ businessId) → ∀ error, post (.error error) solo)
    (found : ∀ service, Query.eval (.service serviceId tenantId) solo.view = some service →
      service.businessId = businessId → Ends (next service) solo post) :
    Ends (AppointmentVoice.requireServiceInBusiness serviceId businessId tenantId >>= next) solo
      post := by
  simp only [AppointmentVoice.requireServiceInBusiness, requireService, bind_assoc]
  exact Ends.select _ (Ends.inBusiness missing found)

theorem Ends.requireBookingInBusiness {bookingId businessId tenantId : Nat}
    {next : Booking → DbM β}
    (missing : (∀ booking, Query.eval (.booking bookingId tenantId) solo.view = some booking →
      booking.businessId ≠ businessId) → ∀ error, post (.error error) solo)
    (found : ∀ booking, Query.eval (.booking bookingId tenantId) solo.view = some booking →
      booking.businessId = businessId → Ends (next booking) solo post) :
    Ends (AppointmentVoice.requireBookingInBusiness bookingId businessId tenantId >>= next) solo
      post := by
  simp only [AppointmentVoice.requireBookingInBusiness, requireBooking, bind_assoc]
  exact Ends.select _ (Ends.inBusiness missing found)

theorem Ends.requireBookingInBusinessForUpdate {bookingId businessId tenantId : Nat}
    {next : Booking → DbM β}
    (missing : (∀ booking, Query.eval (.booking bookingId tenantId) solo.view = some booking →
      booking.businessId ≠ businessId) → ∀ error, post (.error error) solo)
    (found : ∀ booking, Query.eval (.booking bookingId tenantId) solo.view = some booking →
      booking.businessId = businessId → Ends (next booking) solo post) :
    Ends (AppointmentVoice.requireBookingInBusinessForUpdate bookingId businessId tenantId >>= next)
      solo post := by
  simp only [AppointmentVoice.requireBookingInBusinessForUpdate, bind_assoc]
  exact Ends.lock (Ends.inBusiness missing found)

/-- The staff member, if one is given, is there and belongs to the business. -/
def StaffFound (db : Db) (staffId : Option Nat) (businessId tenantId : Nat) : Prop :=
  ∀ id, staffId = some id → ∃ member : Staff,
    Query.eval (.staffMember id tenantId) db = some member ∧ member.businessId = businessId

theorem Ends.requireStaffIfGiven {staffId : Option Nat} {businessId tenantId : Nat}
    {next : Unit → DbM β}
    (missing : ¬StaffFound solo.view staffId businessId tenantId →
      ∀ error, post (.error error) solo)
    (found : StaffFound solo.view staffId businessId tenantId → Ends (next ()) solo post) :
    Ends (AppointmentVoice.requireStaffIfGiven staffId businessId tenantId >>= next) solo
      post := by
  cases staffId with
  | none => exact found nofun
  | some id =>
      simp only [AppointmentVoice.requireStaffIfGiven, requireStaffInBusiness, requireStaff,
        bind_assoc]
      refine Ends.select _ (Ends.inBusiness (fun absent => missing fun present => ?_) ?_)
      · obtain ⟨member, there, here⟩ := present id rfl
        exact absent member there here
      · intro member there here
        refine found ?_
        rintro _ ⟨⟩
        exact ⟨member, there, here⟩

theorem Ends.checkDoubleBooking {staffId : Option Nat} {businessId : Nat}
    {startsAt endsAt : Instant}
    {next : Unit → DbM β}
    (taken : ∀ id conflict, staffId = some id →
      Query.eval (.doubleBooking id businessId startsAt endsAt none) solo.view = some conflict →
        post (.error slotTaken) solo)
    (free : (∀ id, staffId = some id →
      Query.eval (.doubleBooking id businessId startsAt endsAt none) solo.view = none) →
        Ends (next ()) solo post) :
    Ends (AppointmentVoice.checkDoubleBooking staffId businessId startsAt endsAt none >>= next) solo
      post := by
  cases staffId with
  | none => exact free nofun
  | some id =>
      simp only [AppointmentVoice.checkDoubleBooking]
      refine Ends.select _ ?_
      cases answer : Query.eval (.doubleBooking id businessId startsAt endsAt none) solo.view with
      | none =>
          refine free ?_
          rintro _ ⟨⟩
          exact answer
      | some conflict => exact taken id conflict rfl answer

/-! ## Work that changes no booking -/

/-- The write changes neither bookings nor calendar events nor the waitlist nor
the catalogue. -/
def Write.quiet : Write → Bool
  | .insertPayment _ => true
  | .updatePayment _ _ => true
  | .insertAudit _ => true
  | .insertOutbox _ => true
  | _ => false

/-- Nothing has been committed or pushed, and what is seen of the bookings, the
calendar events and the catalogue is the same. -/
structure Steadily (before after : Solo) : Prop where
  db : after.db = before.db
  clock : after.clock = before.clock
  jobs : after.jobs = before.jobs
  pushes : after.pushes = before.pushes
  redisTakes : after.redisTakes = before.redisTakes
  nextId : before.nextId ≤ after.nextId
  bookings : after.view.bookings = before.view.bookings
  calendarEvents : after.view.calendarEvents = before.view.calendarEvents
  catalogue : SameCatalogue before.view after.view

/-- The same, and the waitlist is the same too. -/
structure Quietly (before after : Solo) : Prop extends Steadily before after where
  waitlistEntries : after.view.waitlistEntries = before.view.waitlistEntries

theorem Steadily.trans {first second third : Solo} (one : Steadily first second)
    (two : Steadily second third) : Steadily first third :=
  ⟨two.db.trans one.db, two.clock.trans one.clock, two.jobs.trans one.jobs,
    two.pushes.trans one.pushes, two.redisTakes.trans one.redisTakes,
    Nat.le_trans one.nextId two.nextId, two.bookings.trans one.bookings,
    two.calendarEvents.trans one.calendarEvents, one.catalogue.trans two.catalogue⟩

theorem Quietly.refl (solo : Solo) : Quietly solo solo :=
  ⟨⟨rfl, rfl, rfl, rfl, rfl, Nat.le_refl _, rfl, rfl, .refl _⟩, rfl⟩

theorem Quietly.trans {first second third : Solo} (one : Quietly first second)
    (two : Quietly second third) : Quietly first third :=
  ⟨one.toSteadily.trans two.toSteadily, two.waitlistEntries.trans one.waitlistEntries⟩

theorem Write.ofLedger_of_quiet {write : Write} (quiet : write.quiet = true) :
    write.ofLedger = true := by
  cases write <;> first | rfl | cases quiet

theorem Db.applyAll_quiet {writes : List Write} (quiet : ∀ write ∈ writes, write.quiet = true)
    (db : Db) : (db.applyAll writes).bookings = db.bookings ∧
      (db.applyAll writes).calendarEvents = db.calendarEvents ∧
      (db.applyAll writes).waitlistEntries = db.waitlistEntries := by
  induction writes generalizing db with
  | nil => exact ⟨rfl, rfl, rfl⟩
  | cons write writes ih =>
      have rest := ih (fun other member => quiet other (List.mem_cons_of_mem _ member))
        (db.apply write)
      have here := quiet write List.mem_cons_self
      rw [applyAll_cons]
      cases write with
      | insertPayment row => exact rest
      | updatePayment id change => exact rest
      | insertAudit row => exact rest
      | insertOutbox row => exact rest
      | _ => cases here

theorem Quietly.add {writes : List Write} (quiet : ∀ write ∈ writes, write.quiet = true)
    (solo : Solo) : Quietly solo (solo.add writes) := by
  obtain ⟨bookings, events, waitlist⟩ := Db.applyAll_quiet quiet solo.view
  have catalogue := SameCatalogue.applyAll
    (fun write member => Write.ofLedger_of_quiet (quiet write member)) solo.view
  rw [← Solo.add_view] at bookings events waitlist catalogue
  exact ⟨⟨rfl, rfl, rfl, rfl, rfl, Nat.le_add_right _ _, bookings, events, catalogue⟩, waitlist⟩

theorem Quietly.insert {write : Write} (quiet : write.quiet = true) (solo : Solo) :
    Quietly solo (solo.add [write]) := by
  refine .add (fun other member => ?_) solo
  rw [List.mem_singleton] at member
  rw [member]
  exact quiet

/-! ## Rows that are added -/

/-- How many messages go out for a booking of the business. -/
def Business.messages (business : Business) : Nat :=
  match business.ownerNotificationPhone with
  | some phone => if phone.isEmpty then 1 else 2
  | none => 1

theorem Ends.createAuditLog {tenantId : Nat} {adminId : Option Nat} {action : AuditAction}
    {bookingId : Nat} {source : Option String} {next : Unit → DbM β}
    (ends : ∀ after, Quietly solo after → Ends (next ()) after post) :
    Ends (AppointmentVoice.createAuditLog tenantId adminId action bookingId source >>= next) solo
      post := by
  rw [AppointmentVoice.createAuditLog, bind_assoc]
  exact Ends.insert rfl (ends _ (.insert rfl solo))

theorem Ends.addIntent {tenantId businessId : Nat} {bookingId : Option Nat}
    {purpose : NotificationPurpose} {phone body : String} {createdAt : Instant}
    {next : Nat → DbM β}
    (ends : ∀ id after, Quietly solo after → Ends (next id) after post) :
    Ends (AppointmentVoice.addIntent tenantId businessId bookingId purpose phone body createdAt >>=
      next) solo post :=
  Ends.insert rfl (ends _ _ (.insert rfl solo))

theorem Ends.addOwnerIntent {booking : Booking} {business : Business}
    {purpose : NotificationPurpose} {body : String} {createdAt : Instant}
    {next : List Nat → DbM β}
    (ends : ∀ (ids : List Nat) after, ids.length + 1 = business.messages → Quietly solo after →
      Ends (next ids) after post) :
    Ends (AppointmentVoice.addOwnerIntent booking business purpose body createdAt >>= next) solo
      post := by
  unfold AppointmentVoice.addOwnerIntent
  split
  · next phone given =>
      split
      · next empty =>
          exact ends [] solo (by simp [Business.messages, given, empty]) (.refl solo)
      · next full =>
          rw [bind_assoc]
          refine Ends.addIntent fun id after quietly => ?_
          exact ends [id] after (by simp [Business.messages, given, full]) quietly
  · next missing => exact ends [] solo (by simp [Business.messages, missing]) (.refl solo)

theorem Ends.formatLocalTime {cfg : Settings} {startsAt : Instant} {business : Business}
    {next : String → DbM β}
    (untold : ¬cfg.TellsTime business startsAt → ∀ error, post (.error error) solo)
    (told : cfg.TellsTime business startsAt → ∀ text, Ends (next text) solo post) :
    Ends (AppointmentVoice.formatLocalTime cfg startsAt business >>= next) solo post := by
  unfold AppointmentVoice.formatLocalTime
  split
  · next wall found => exact told (by rw [Settings.TellsTime, found]; rfl) _
  · next error failed => exact untold (Settings.not_tellsTime failed) error

theorem Ends.buildPublicManagementUrl {cfg : Settings} {bookingId : Nat}
    {next : Option String → DbM β} (ends : ∀ url, Ends (next url) solo post) :
    Ends (AppointmentVoice.buildPublicManagementUrl cfg bookingId >>= next) solo post := by
  unfold AppointmentVoice.buildPublicManagementUrl
  dsimp only
  split
  · exact ends none
  · simp only [generateBookingToken, bind_assoc]
    exact Ends.now (ends _)

theorem Ends.enqueueBookingConfirmation {cfg : Settings} {booking : Booking} {business : Business}
    {customer : Customer} {service : Service} {createdAt : Instant} {next : List Nat → DbM β}
    (untold : ¬cfg.TellsTime business booking.startsAt → ∀ error, post (.error error) solo)
    (ends : cfg.TellsTime business booking.startsAt → ∀ (ids : List Nat) after,
      ids.length = business.messages → Quietly solo after → Ends (next ids) after post) :
    Ends (AppointmentVoice.enqueueBookingConfirmation cfg booking business customer service
      createdAt >>= next) solo post := by
  simp only [AppointmentVoice.enqueueBookingConfirmation, bind_assoc]
  refine Ends.formatLocalTime untold fun tells text => ?_
  refine Ends.buildPublicManagementUrl fun url => ?_
  refine Ends.addIntent fun first middle one => ?_
  refine Ends.addOwnerIntent fun ids after count two => ?_
  exact ends tells (first :: ids) after count (one.trans two)

theorem Ends.enqueueBookingCancellation {cfg : Settings} {booking : Booking} {business : Business}
    {customer : Customer} {service : Service} {createdAt : Instant} {next : List Nat → DbM β}
    (untold : ¬cfg.TellsTime business booking.startsAt → ∀ error, post (.error error) solo)
    (ends : cfg.TellsTime business booking.startsAt → ∀ (ids : List Nat) after,
      ids.length = business.messages → Quietly solo after → Ends (next ids) after post) :
    Ends (AppointmentVoice.enqueueBookingCancellation cfg booking business customer service
      createdAt >>= next) solo post := by
  simp only [AppointmentVoice.enqueueBookingCancellation, bind_assoc]
  refine Ends.formatLocalTime untold fun tells text => ?_
  refine Ends.addIntent fun first middle one => ?_
  refine Ends.addOwnerIntent fun ids after count two => ?_
  exact ends tells (first :: ids) after count (one.trans two)

theorem Ends.enqueueCalendarEvent {booking : Booking} {business : Business} {createdAt : Instant}
    {next : Nat → DbM β}
    (unique : ∀ event ∈ solo.view.calendarEvents, event.bookingId ≠ booking.id)
    (ends : ∀ event : CalendarEvent, event.bookingId = booking.id →
      Ends (next solo.nextId) (solo.add [.insertCalendarEvent event]) post) :
    Ends (AppointmentVoice.enqueueCalendarEvent booking business createdAt >>= next) solo post := by
  have fine : ∀ event : CalendarEvent, event.bookingId = booking.id →
      solo.view.violated (.insertCalendarEvent event) = none := by
    intro event ofBooking
    rw [Db.violated, if_neg]
    rw [Bool.not_eq_true, List.any_eq_false]
    intro other there
    rw [ofBooking, beq_iff_eq]
    exact unique other there
  simp only [AppointmentVoice.enqueueCalendarEvent, getCalendarIntegration, bind_assoc]
  have insert : ∀ provider : String, Ends (AppointmentVoice.insert (fun id => .insertCalendarEvent
      { id, tenantId := booking.tenantId, businessId := booking.businessId,
        bookingId := booking.id, provider, createdAt }) >>= next) solo post := fun provider =>
          Ends.insert (fine _ rfl) (ends _ rfl)
  cases booking.staffId with
  | none => exact Ends.select _ (insert _)
  | some staffId =>
      refine Ends.bind (Ends.select (.calendarIntegration business.id booking.tenantId
        (some staffId)) ?_)
      cases Query.eval (.calendarIntegration business.id booking.tenantId (some staffId))
        solo.view with
      | none => exact insert _
      | some own => exact insert _

theorem Steadily.offer (solo : Solo) (entryId : Nat) (staffId : Option Nat) (offeredAt : Instant) :
    Steadily solo (solo.amend (.updateWaitlistEntry entryId (.offer staffId offeredAt))) := by
  have view := solo.amend_view (.updateWaitlistEntry entryId (.offer staffId offeredAt))
  exact ⟨rfl, rfl, rfl, rfl, rfl, Nat.le_refl _, by rw [view]; rfl, by rw [view]; rfl,
    by rw [view]; exact ⟨rfl, rfl, rfl, rfl, rfl⟩⟩

theorem Ends.failLinkedPendingPayment {booking : Booking} {reason : Option String}
    {next : Unit → DbM β} (ends : ∀ after, Quietly solo after → Ends (next ()) after post) :
    Ends (AppointmentVoice.failLinkedPendingPayment booking reason >>= next) solo post := by
  unfold AppointmentVoice.failLinkedPendingPayment
  refine Ends.bind (Ends.select (.pendingPayment booking.id booking.tenantId) ?_)
  cases Query.eval (.pendingPayment booking.id booking.tenantId) solo.view with
  | none => exact ends solo (.refl solo)
  | some payment =>
      refine ends (solo.amend (.updatePayment payment.id (.fail reason))) ?_
      have view := solo.amend_view (.updatePayment payment.id (.fail reason))
      exact ⟨⟨rfl, rfl, rfl, rfl, rfl, Nat.le_refl _, by rw [view]; rfl, by rw [view]; rfl,
        by rw [view]; exact ⟨rfl, rfl, rfl, rfl, rfl⟩⟩, by rw [view]; rfl⟩

end Rules

end AppointmentVoice
