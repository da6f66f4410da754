import AppointmentVoice.Services.Rules

/-!
# Rules for the shared functions

One rule for each function that the services share: the lookups, the check for
a double booking, the audit log, the outbox and the calendar rows.  A proof
about a service function uses these and does not look inside the functions.

The rules carry the names of the functions, as `requireBusiness_rule`,
`checkDoubleBooking_rule` or `enqueueBookingConfirmation_rule`.
-/

set_option autoImplicit false

namespace AppointmentVoice

open Concurrency World

section HelperRules

variable {cfg : Settings} {law : Db → Prop} {pid : Pid} {owner : Call} {α β : Type}
variable {writes : List Write} {knows : Knowledge pid} {recalls : Memory}
variable {ok : α → World Call → Log → Prop} {err : AppError → Log → Prop}

/-! ## Lookups -/

theorem orRaise_rule {error : AppError} {row : Option β} {next : β → DbM α}
    (missing : ∀ log, recalls.holds log → err error log)
    (found : ∀ value, row = some value →
      Spec cfg law pid owner (At pid writes knows recalls) (next value) ok err) :
    Spec cfg law pid owner (At pid writes knows recalls) (orRaise error row >>= next) ok err := by
  cases row with
  | none => exact raise_rule missing
  | some value => exact found value rfl

theorem orOverflow_rule {time : Int} {next : Int → DbM α}
    (outside : ∀ log, recalls.holds log → err .overflow log)
    (inside : InCalendar time → Spec cfg law pid owner (At pid writes knows recalls) (next time)
      ok err) :
    Spec cfg law pid owner (At pid writes knows recalls) (orOverflow time >>= next) ok err := by
  rw [orOverflow]
  split
  · next fits => exact inside fits
  · exact raise_rule outside

theorem requireBusiness_rule {businessId tenantId : Nat} {next : Business → DbM α}
    (recalls' : Business → Memory)
    (sees : ∀ business log, recalls.holds log → (recalls' business).holds
      (log ++ [⟨.select (.business businessId tenantId), some business⟩]))
    (missing : ∀ message log, recalls.holds log → err (.notFound message) log)
    (continues : ∀ business,
      Spec cfg law pid owner (At pid writes knows (recalls' business)) (next business) ok err) :
    Spec cfg law pid owner (At pid writes knows recalls)
      (requireBusiness businessId tenantId >>= next) ok err := by
  rw [requireBusiness, bind_assoc]
  refine stmt_rule (.select (.business businessId tenantId))
    (fun
      | none => At pid writes knows recalls
      | some business => At pid writes knows (recalls' business)) ?_ ?_
  · intro world log answer after consistent lawHolds met executed
    cases executed
    refine ⟨⟨consistent, lawHolds⟩, .quiet (.of_same rfl rfl) rfl rfl, ?_⟩
    cases Query.eval (.business businessId tenantId) (world.view pid) with
    | none => exact met.frame writes met.1 rfl (fun _ held => held) trivial
    | some business => exact ⟨met.1, met.2.1, sees business log met.2.2⟩
  · intro answer
    cases answer with
    | none => exact raise_rule (missing _)
    | some business => exact continues business

theorem requireCustomerInBusiness_rule {customerId businessId tenantId : Nat}
    {next : Customer → DbM α}
    (missing : ∀ message log, recalls.holds log → err (.notFound message) log)
    (continues : ∀ customer,
      Spec cfg law pid owner (At pid writes knows recalls) (next customer) ok err) :
    Spec cfg law pid owner (At pid writes knows recalls)
      (requireCustomerInBusiness customerId businessId tenantId >>= next) ok err := by
  simp only [requireCustomerInBusiness, requireCustomer, bind_assoc]
  refine glance_rule (fun _ => trivial) fun answer => orRaise_rule (missing _) fun customer _ => ?_
  split
  · exact raise_rule (missing _)
  · exact continues customer

theorem seeServiceInBusiness_rule {serviceId businessId tenantId : Nat}
    {next : Service → DbM α} (recalls' : Service → Memory)
    (sees : ∀ service log, service.businessId = businessId → recalls.holds log →
      (recalls' service).holds (log ++ [⟨.select (.service serviceId tenantId), some service⟩]))
    (missing : ∀ message log, recalls.holds log → err (.notFound message) log)
    (continues : ∀ service,
      Spec cfg law pid owner (At pid writes knows (recalls' service)) (next service) ok err) :
    Spec cfg law pid owner (At pid writes knows recalls)
      (requireServiceInBusiness serviceId businessId tenantId >>= next) ok err := by
  simp only [requireServiceInBusiness, requireService, bind_assoc]
  refine stmt_rule (.select (.service serviceId tenantId))
    (fun
      | none => At pid writes knows recalls
      | some service =>
          if service.businessId = businessId then At pid writes knows (recalls' service)
          else At pid writes knows recalls) ?_ ?_
  · intro world log answer after consistent lawHolds met executed
    cases executed
    refine ⟨⟨consistent, lawHolds⟩, .quiet (.of_same rfl rfl) rfl rfl, ?_⟩
    cases Query.eval (.service serviceId tenantId) (world.view pid) with
    | none => exact met.frame writes met.1 rfl (fun _ held => held) trivial
    | some service =>
        dsimp only
        split
        · next here => exact ⟨met.1, met.2.1, sees service log here met.2.2⟩
        · exact met.frame writes met.1 rfl (fun _ held => held) trivial
  · intro answer
    cases answer with
    | none => exact raise_rule (missing _)
    | some service =>
        change Spec cfg law pid owner
          (if service.businessId = businessId then _ else _)
          ((if service.businessId ≠ businessId then _ else _) >>= next) ok err
        by_cases here : service.businessId = businessId
        · rw [if_pos here, if_neg (not_not.mpr here)]
          exact continues service
        · rw [if_neg here, if_pos here]
          exact raise_rule (missing _)

theorem requireServiceInBusiness_rule {serviceId businessId tenantId : Nat}
    {next : Service → DbM α}
    (missing : ∀ message log, recalls.holds log → err (.notFound message) log)
    (continues : ∀ service,
      Spec cfg law pid owner (At pid writes knows recalls) (next service) ok err) :
    Spec cfg law pid owner (At pid writes knows recalls)
      (requireServiceInBusiness serviceId businessId tenantId >>= next) ok err :=
  seeServiceInBusiness_rule (fun _ => recalls) (fun _ _ _ => Memory.persists _ trivial) missing
    continues

theorem requireStaffInBusiness_rule {staffId businessId tenantId : Nat} {next : Staff → DbM α}
    (missing : ∀ message log, recalls.holds log → err (.notFound message) log)
    (continues : ∀ member,
      Spec cfg law pid owner (At pid writes knows recalls) (next member) ok err) :
    Spec cfg law pid owner (At pid writes knows recalls)
      (requireStaffInBusiness staffId businessId tenantId >>= next) ok err := by
  simp only [requireStaffInBusiness, requireStaff, bind_assoc]
  refine glance_rule (fun _ => trivial) fun answer => orRaise_rule (missing _) fun member _ => ?_
  split
  · exact raise_rule (missing _)
  · exact continues member

theorem requireStaffIfGiven_rule {staffId : Option Nat} {businessId tenantId : Nat}
    {next : Unit → DbM α}
    (missing : ∀ message log, recalls.holds log → err (.notFound message) log)
    (continues : Spec cfg law pid owner (At pid writes knows recalls) (next ()) ok err) :
    Spec cfg law pid owner (At pid writes knows recalls)
      (requireStaffIfGiven staffId businessId tenantId >>= next) ok err := by
  cases staffId with
  | none => exact continues
  | some staff =>
      simp only [requireStaffIfGiven, bind_assoc]
      exact requireStaffInBusiness_rule missing fun _ => continues

theorem requireBookingInBusiness_rule {bookingId businessId tenantId : Nat}
    {next : Booking → DbM α}
    (missing : ∀ message log, recalls.holds log → err (.notFound message) log)
    (continues : ∀ booking : Booking, booking.id = bookingId → booking.tenantId = tenantId →
      Spec cfg law pid owner (At pid [] (knows.and (.known pid booking.id)) recalls) (next booking)
        ok err) :
    Spec cfg law pid owner (At pid [] knows recalls)
      (requireBookingInBusiness bookingId businessId tenantId >>= next) ok err := by
  simp only [requireBookingInBusiness, requireBooking, bind_assoc]
  refine stmt_rule (.select (.booking bookingId tenantId))
    (fun
      | none => At pid [] knows recalls
      | some booking => fun world log => (booking.id = bookingId ∧ booking.tenantId = tenantId) ∧
          At pid [] (knows.and (.known pid booking.id)) recalls world log) ?_ ?_
  · intro world log answer after consistent lawHolds met executed
    simp only [execStmt, view_of_writesOf_nil met.1] at executed
    cases executed
    refine ⟨⟨consistent, lawHolds⟩, .quiet (.of_same rfl rfl) rfl rfl, ?_⟩
    cases present : Query.eval (.booking bookingId tenantId) world.db with
    | none => exact met.frame [] met.1 rfl (fun _ held => held) trivial
    | some booking =>
        have matched := List.find?_some present
        simp only [Bool.and_eq_true, beq_iff_eq] at matched
        exact ⟨matched, met.1, ⟨met.2.1, List.mem_map_of_mem (List.mem_of_find?_eq_some present)⟩,
          recalls.persists trivial met.2.2⟩
  · intro answer
    cases answer with
    | none => exact raise_rule (missing _)
    | some booking =>
        refine pure_rule fun matched => orRaise_rule (missing _) fun row same => ?_
        cases same
        split
        · exact raise_rule (missing _)
        · exact continues booking matched.1 matched.2

theorem requireBookingInBusinessForUpdate_rule {bookingId businessId tenantId : Nat}
    {next : Booking → DbM α} {before : Log → Prop} (after : Option Booking → Log → Prop)
    (sees : ∀ answer log, before log →
      after answer (log ++ [⟨.selectBookingForUpdate bookingId tenantId, answer⟩]))
    (missing : ∀ answer, (∀ booking : Booking, answer = some booking →
      booking.businessId ≠ businessId) → ∀ message log, after answer log →
      err (.notFound message) log)
    (continues : ∀ booking : Booking, booking.id = bookingId → booking.tenantId = tenantId →
      booking.businessId = businessId → Spec cfg law pid owner
        (AtLog pid [] (knows.and (.held pid booking)) (after (some booking))) (next booking) ok
        err) :
    Spec cfg law pid owner (AtLog pid [] knows before)
      (requireBookingInBusinessForUpdate bookingId businessId tenantId >>= next) ok err := by
  simp only [requireBookingInBusinessForUpdate, bind_assoc]
  refine lock_rule after sees (raise_rule (missing none nofun _)) fun row sameId sameTenant => ?_
  dsimp only [orRaise, Program.pure_eq_ret, Program.ret_bind]
  split
  · next otherBusiness =>
      refine raise_rule (missing _ ?_ _)
      rintro booking ⟨⟩
      exact otherBusiness
  · next sameBusiness => exact continues row sameId sameTenant (not_not.mp sameBusiness)

/-- A booking that is known to be committed is found again. -/
theorem refreshBooking_rule {bookingId : Nat} {next : Booking → DbM α}
    (known : ∀ world, knows.holds world → Known bookingId world)
    (continues : ∀ booking : Booking, booking.id = bookingId →
      Spec cfg law pid owner (At pid [] knows recalls) (next booking) ok err) :
    Spec cfg law pid owner (At pid [] knows recalls) (refreshBooking bookingId >>= next) ok
      err := by
  rw [refreshBooking, bind_assoc]
  refine stmt_rule (.select (.bookingByPrimaryKey bookingId))
    (fun answer world log => (∃ booking : Booking, answer = some booking ∧ booking.id = bookingId) ∧
      At pid [] knows recalls world log) ?_ ?_
  · intro world log answer after consistent lawHolds met executed
    simp only [execStmt, view_of_writesOf_nil met.1] at executed
    cases executed
    refine ⟨⟨consistent, lawHolds⟩, .quiet (.of_same rfl rfl) rfl rfl, ?_,
      met.frame [] met.1 rfl (fun _ held => held) trivial⟩
    obtain ⟨row, there, same⟩ := List.mem_map.mp (known world met.2.1)
    cases present : Query.eval (.bookingByPrimaryKey bookingId) world.db with
    | none =>
        have absent := List.find?_eq_none.mp present row there
        simp [same] at absent
    | some booking => exact ⟨booking, rfl, by simpa using List.find?_some present⟩
  · intro answer
    refine pure_rule ?_
    rintro ⟨booking, rfl, same⟩
    exact continues booking same

/-! ## The check for a double booking -/

theorem checkDoubleBooking_rule {staffId : Option Nat} {businessId : Nat}
    {startsAt endsAt : Instant} {excludeBookingId : Option Nat} {next : Unit → DbM α}
    (taken : ∀ staff (conflict : Booking) log, recalls.holds log →
      err slotTaken (log ++ [⟨.select (.doubleBooking staff businessId startsAt endsAt
        excludeBookingId), some conflict⟩]))
    (continues : Spec cfg law pid owner (At pid writes knows recalls) (next ()) ok err) :
    Spec cfg law pid owner (At pid writes knows recalls)
      (checkDoubleBooking staffId businessId startsAt endsAt excludeBookingId >>= next) ok err := by
  cases staffId with
  | none => exact continues
  | some staff =>
      unfold checkDoubleBooking
      refine stmt_rule (.select (.doubleBooking staff businessId startsAt endsAt excludeBookingId))
        (fun
          | none => At pid writes knows recalls
          | some _ => fun _ log => err slotTaken log) ?_ ?_
      · intro world log answer after consistent lawHolds met executed
        cases executed
        refine ⟨⟨consistent, lawHolds⟩, .quiet (.of_same rfl rfl) rfl rfl, ?_⟩
        cases Query.eval (.doubleBooking staff businessId startsAt endsAt excludeBookingId)
            (world.view pid) with
        | none => exact met.frame writes met.1 rfl (fun _ held => held) rfl
        | some conflict => exact taken staff conflict log met.2.2
      · intro answer
        cases answer with
        | none => exact continues
        | some conflict => exact failed_rule

/-! ## Audit log and outbox -/

theorem keyed_insertAudit (row : Nat → AuditLog) : Keyed fun id => .insertAudit (row id) :=
  ⟨fun table _ => .inl (by cases table <;> rfl), fun _ => rfl⟩

theorem keyed_insertOutbox (row : Nat → NotificationOutbox)
    (keyed : ∀ id, (row id).id = id) : Keyed fun id => .insertOutbox (row id) :=
  ⟨fun table id => by
      cases table <;> first | exact .inl rfl | exact .inr (congrArg some (keyed id)),
    fun _ => rfl⟩

theorem createAuditLog_rule {tenantId : Nat} {adminId : Option Nat} {action : AuditAction}
    {targetBookingId : Nat} {source : Option String} {next : Unit → DbM α}
    (continues : ∀ audit : AuditLog, audit.action = action →
      audit.targetBookingId = some targetBookingId →
      Spec cfg law pid owner (At pid (writes ++ [.insertAudit audit]) knows recalls) (next ()) ok
        err) :
    Spec cfg law pid owner (At pid writes knows recalls)
      (createAuditLog tenantId adminId action targetBookingId source >>= next) ok err := by
  rw [createAuditLog, bind_assoc]
  exact plainInsert_rule (keyed_insertAudit _) (fun _ => .inl ⟨_, rfl⟩)
    fun id => continues _ rfl rfl

theorem addIntent_rule {tenantId businessId : Nat} {bookingId : Option Nat}
    {purpose : NotificationPurpose} {recipientPhone body : String} {createdAt : Instant}
    {next : Nat → DbM α}
    (continues : ∀ message : NotificationOutbox, message.tenantId = tenantId →
      message.businessId = businessId → message.bookingId = bookingId → message.purpose = purpose →
      message.Fresh →
      Spec cfg law pid owner (At pid (writes ++ [.insertOutbox message]) knows recalls)
        (next message.id) ok err) :
    Spec cfg law pid owner (At pid writes knows recalls)
      (addIntent tenantId businessId bookingId purpose recipientPhone body createdAt >>= next) ok
        err :=
  plainInsert_rule (keyed_insertOutbox _ fun _ => rfl) (fun _ => .inr ⟨_, rfl⟩)
    fun id => continues
      { id, tenantId, businessId, bookingId, purpose, recipientPhone, body, createdAt }
      rfl rfl rfl rfl ⟨rfl, rfl⟩

theorem formatLocalTime_rule {startsAt : Instant} {business : Business} {next : String → DbM α}
    (untold : ∀ error, cfg.localTime business startsAt = .error error → ∀ log,
      recalls.holds log → err error log)
    (continues : ∀ text, Spec cfg law pid owner (At pid writes knows recalls) (next text) ok err) :
    Spec cfg law pid owner (At pid writes knows recalls)
      (formatLocalTime cfg startsAt business >>= next) ok err := by
  unfold formatLocalTime
  split
  · exact continues _
  · next error failed => exact raise_rule (untold error failed)

theorem buildPublicManagementUrl_rule {bookingId : Nat} {next : Option String → DbM α}
    (continues : ∀ url, Spec cfg law pid owner (At pid writes knows recalls) (next url) ok err) :
    Spec cfg law pid owner (At pid writes knows recalls)
      (buildPublicManagementUrl cfg bookingId >>= next) ok err := by
  unfold buildPublicManagementUrl
  dsimp only
  split
  · exact continues none
  · simp only [generateBookingToken, bind_assoc]
    exact now_rule fun time => continues _

theorem About.single {booking : Booking} {purpose : NotificationPurpose}
    {message : NotificationOutbox} (samePurpose : message.purpose = purpose)
    (ofBooking : message.bookingId = some booking.id) (fresh : message.Fresh) :
    About booking purpose [message] where
  nonempty := List.cons_ne_nil _ _
  each := fun other member => by
    rw [List.mem_singleton] at member
    subst member
    exact ⟨samePurpose, ofBooking⟩
  fresh := fun other member => by
    rw [List.mem_singleton] at member
    subst member
    exact fresh

/-- The message to the owner joins the messages about the booking. -/
theorem addOwnerIntent_rule {booking : Booking} {business : Business}
    {purpose : NotificationPurpose} {body : String} {createdAt : Instant} {next : List Nat → DbM α}
    (messages : List NotificationOutbox) (about : About booking purpose messages)
    (continues : ∀ ids messages, About booking purpose messages →
      Spec cfg law pid owner (At pid (writes ++ messages.map .insertOutbox) knows recalls)
        (next ids) ok err) :
    Spec cfg law pid owner (At pid (writes ++ messages.map .insertOutbox) knows recalls)
      (addOwnerIntent booking business purpose body createdAt >>= next) ok err := by
  unfold addOwnerIntent
  split
  · split
    · exact continues [] messages about
    · rw [bind_assoc]
      refine addIntent_rule fun message _ _ ofBooking samePurpose fresh => ?_
      have added : About booking purpose (messages ++ [message]) := by
        refine ⟨by simp, fun other member => ?_, fun other member => ?_⟩
        · rcases List.mem_append.mp member with old | new
          · exact about.each other old
          · rw [List.mem_singleton] at new
            subst new
            exact ⟨samePurpose, ofBooking⟩
        · rcases List.mem_append.mp member with old | new
          · exact about.fresh other old
          · rw [List.mem_singleton] at new
            subst new
            exact fresh
      have continued := continues [message.id] (messages ++ [message]) added
      rw [List.map_append, ← List.append_assoc] at continued
      exact continued
  · exact continues [] messages about

theorem enqueueBookingConfirmation_rule {booking : Booking} {business : Business}
    {customer : Customer} {service : Service} {createdAt : Instant} {next : List Nat → DbM α}
    (untold : ∀ error, cfg.localTime business booking.startsAt = .error error → ∀ log,
      recalls.holds log → err error log)
    (continues : ∀ ids messages, About booking .bookingConfirmation messages →
      Spec cfg law pid owner (At pid (writes ++ messages.map .insertOutbox) knows recalls)
        (next ids) ok err) :
    Spec cfg law pid owner (At pid writes knows recalls)
      (enqueueBookingConfirmation cfg booking business customer service createdAt >>=
        next) ok err := by
  simp only [enqueueBookingConfirmation, bind_assoc]
  refine formatLocalTime_rule untold fun text => ?_
  refine buildPublicManagementUrl_rule fun url => ?_
  refine addIntent_rule fun message _ _ ofBooking purpose fresh => ?_
  exact addOwnerIntent_rule [message] (.single purpose ofBooking fresh) fun ids => continues _

theorem enqueueBookingCancellation_rule {booking : Booking} {business : Business}
    {customer : Customer} {service : Service} {createdAt : Instant} {next : List Nat → DbM α}
    (untold : ∀ error, cfg.localTime business booking.startsAt = .error error → ∀ log,
      recalls.holds log → err error log)
    (continues : ∀ ids messages, About booking .bookingCancellation messages →
      Spec cfg law pid owner (At pid (writes ++ messages.map .insertOutbox) knows recalls)
        (next ids) ok err) :
    Spec cfg law pid owner (At pid writes knows recalls)
      (enqueueBookingCancellation cfg booking business customer service createdAt >>=
        next) ok err := by
  simp only [enqueueBookingCancellation, bind_assoc]
  refine formatLocalTime_rule untold fun text => ?_
  refine addIntent_rule fun message _ _ ofBooking purpose fresh => ?_
  exact addOwnerIntent_rule [message] (.single purpose ofBooking fresh) fun ids => continues _

theorem enqueueWaitlistOffer_rule {entry : WaitlistEntry} {business : Business}
    {customer : Customer} {service : Service} {createdAt : Instant} {next : Nat → DbM α}
    (continues : ∀ message : NotificationOutbox, message.tenantId = entry.tenantId →
      message.businessId = entry.businessId → message.purpose = .waitlistOffer → message.Fresh →
      Spec cfg law pid owner (At pid (writes ++ [.insertOutbox message]) knows recalls)
        (next message.id) ok err) :
    Spec cfg law pid owner (At pid writes knows recalls)
      (enqueueWaitlistOffer entry business customer service createdAt >>= next) ok err :=
  addIntent_rule fun message tenant business _ purpose fresh =>
    continues message tenant business purpose fresh

/-! ## Calendar -/

theorem getCalendarIntegration_rule {businessId tenantId : Nat} {staffId : Option Nat}
    {next : Option CalendarIntegration → DbM α}
    (continues : ∀ integration,
      Spec cfg law pid owner (At pid writes knows recalls) (next integration) ok err) :
    Spec cfg law pid owner (At pid writes knows recalls)
      (getCalendarIntegration businessId tenantId staffId >>= next) ok err := by
  cases staffId with
  | none => exact glance_rule (fun _ => trivial) continues
  | some staff =>
      unfold getCalendarIntegration
      refine glance_rule (fun _ => trivial) fun own => ?_
      cases own with
      | none => exact glance_rule (fun _ => trivial) continues
      | some integration => exact continues (some integration)

theorem keyed_insertCalendarEvent (row : Nat → CalendarEvent) (keyed : ∀ id, (row id).id = id) :
    Keyed fun id => .insertCalendarEvent (row id) :=
  ⟨fun table id => by
      cases table <;> first | exact .inl rfl | exact .inr (congrArg some (keyed id)),
    fun _ => rfl⟩

theorem enqueueCalendarEvent_rule {booking : Booking} {business : Business} {createdAt : Instant}
    {next : Nat → DbM α}
    (referable : ∀ world, world.Consistent → knows.holds world → world.writesOf pid = writes →
      world.Referable pid booking.id)
    (refused : ∀ world log event, world.Consistent → law world.db →
      At pid writes knows recalls world log → event ∈ (world.view pid).calendarEvents →
      event.bookingId = booking.id → ∀ draft,
      err (.integrity .uqCalendarEventsBookingId)
        (log ++ [⟨.insert draft, .error .uqCalendarEventsBookingId⟩]))
    (continues : ∀ event : CalendarEvent, event.bookingId = booking.id → event.Fresh booking →
      Spec cfg law pid owner (At pid (writes ++ [.insertCalendarEvent event]) knows recalls)
        (next event.id) ok err) :
    Spec cfg law pid owner (At pid writes knows recalls)
      (enqueueCalendarEvent booking business createdAt >>= next) ok err := by
  simp only [enqueueCalendarEvent, bind_assoc]
  refine getCalendarIntegration_rule fun integration => ?_
  refine insert_rule (keyed_insertCalendarEvent _ fun _ => rfl) ?_ ?_ ?_
  · intro world consistent known own
    exact ⟨referable world consistent known own, fun _ => nofun⟩
  · intro constraint world log consistent lawHolds met violated
    simp only [Db.violated] at violated
    split at violated
    · next present =>
        cases violated
        obtain ⟨event, there, same⟩ := List.any_eq_true.mp present
        exact refused world log event consistent lawHolds met there (by simpa using same) _
    · cases violated
  · intro id
    exact continues _ rfl ⟨rfl, rfl⟩

end HelperRules

end AppointmentVoice
