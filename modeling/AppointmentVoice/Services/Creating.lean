import AppointmentVoice.Services.HelperRules

/-!
# Making bookings and holds among other sessions

The proofs that `create_booking` and `create_pending_payment_hold` keep the
discipline, with what their outcome says about the statements they issued.  A
call loses the race when it finds a double booking or when its insert violates
the exclusion constraint.
-/

set_option autoImplicit false

namespace AppointmentVoice

open Concurrency World

/-! ## Losing -/

/-- A statement by which a call learns that its slot is taken. -/
def Losing : Event Sql → Prop
  | ⟨.select (.doubleBooking _ _ _ _ _), answer⟩ => (answer : Option Booking) ≠ none
  | ⟨.insert _, answer⟩ => (answer : Except Constraint Nat) = .error .noOverlappingStaffBookings
  | _ => False

/-- A statement that others can see: a commit or a push. -/
def Visible : Event Sql → Prop
  | ⟨.commit, _⟩ => True
  | ⟨.push _, _⟩ => True
  | _ => False

/-- An insert refused by the exclusion constraint. -/
def Refused : Event Sql → Prop
  | ⟨.insert _, answer⟩ => (answer : Except Constraint Nat) = .error .noOverlappingStaffBookings
  | _ => False

theorem Ordinary.not_losing {event : Event Sql} (ordinary : Ordinary event) : ¬Losing event := by
  intro losing
  obtain ⟨stmt, answer⟩ := event
  cases stmt with
  | select query =>
      cases query with
      | doubleBooking => exact losing ordinary
      | _ => exact losing
  | insert draft =>
      obtain ⟨id, accepted⟩ := ordinary
      rw [Losing, accepted] at losing
      cases losing
  | _ => exact losing

theorem Ordinary.not_visible {event : Event Sql} (ordinary : Ordinary event) : ¬Visible event := by
  intro visible
  obtain ⟨stmt, answer⟩ := event
  cases stmt with
  | commit => exact ordinary
  | push job => exact ordinary
  | _ => exact visible

/-- Every statement after a given log has a property that ordinary ones have. -/
def Memory.since (base : Log) (property : Event Sql → Prop)
    (closed : ∀ event, Ordinary event → property event) : Memory where
  holds log := ∃ rest, log = base ++ rest ∧ ∀ event ∈ rest, property event
  persists := by
    rintro log event ordinary ⟨rest, rfl, each⟩
    refine ⟨rest ++ [event], List.append_assoc .., fun other member => ?_⟩
    rcases List.mem_append.mp member with old | new
    · exact each other old
    · rw [List.mem_singleton] at new
      subst new
      exact closed other ordinary

/-- Only ordinary statements after a given log. -/
def Memory.ordinary (base : Log) : Memory := .since base Ordinary fun _ ordinary => ordinary

theorem Memory.ordinary_self (base : Log) : (ordinary base).holds base :=
  ⟨[], (List.append_nil base).symm, fun _ member => absurd member List.not_mem_nil⟩

/-- No losing statement after a given log. -/
def Memory.winning (base : Log) : Memory :=
  .since base (fun event => ¬Losing event) fun _ ordinary => ordinary.not_losing

theorem Memory.winning_add {base log : Log} {event : Event Sql} (holds : (winning base).holds log)
    (fine : ¬Losing event) : (winning base).holds (log ++ [event]) := by
  obtain ⟨rest, rfl, each⟩ := holds
  refine ⟨rest ++ [event], List.append_assoc .., fun other member => ?_⟩
  rcases List.mem_append.mp member with old | new
  · exact each other old
  · rw [List.mem_singleton] at new
    subst new
    exact fine

theorem Memory.winning_of_ordinary {base log : Log} (holds : (ordinary base).holds log) :
    (winning base).holds log := by
  obtain ⟨rest, rfl, each⟩ := holds
  exact ⟨rest, rfl, fun event member => (each event member).not_losing⟩

/-- What the statements of `create_booking` say about an error it raises. -/
structure CreateFailed (error : AppError) (rest : Log) : Prop where
  losing : (∃ event ∈ rest, Losing event) → (∀ event ∈ rest, ¬Visible event) ∧
    (error = slotTaken ∨ error = .integrity .noOverlappingStaffBookings)
  integrity : ∀ constraint, error = .integrity constraint → ∃ event ∈ rest, Refused event

/-- What the statements of `create_pending_payment_hold` say about an error it
raises. -/
structure HoldFailed (error : AppError) (rest : Log) : Prop where
  losing : (∃ event ∈ rest, Losing event) →
    (∀ event ∈ rest, ¬Visible event) ∧ error = slotTaken
  integrity : ∀ constraint, error ≠ .integrity constraint

theorem CreateFailed.of_winning {error : AppError} {rest : Log}
    (each : ∀ event ∈ rest, ¬Losing event) (other : ∀ constraint, error ≠ .integrity constraint) :
    CreateFailed error rest where
  losing := fun ⟨event, member, losing⟩ => absurd losing (each event member)
  integrity := fun constraint same => absurd same (other constraint)

theorem HoldFailed.of_winning {error : AppError} {rest : Log}
    (each : ∀ event ∈ rest, ¬Losing event) (other : ∀ constraint, error ≠ .integrity constraint) :
    HoldFailed error rest where
  losing := fun ⟨event, member, losing⟩ => absurd losing (each event member)
  integrity := other

theorem ordinary_snoc_not_visible {rest : Log} {last : Event Sql}
    (each : ∀ event ∈ rest, Ordinary event) (silent : ¬Visible last) :
    ∀ event ∈ rest ++ [last], ¬Visible event := by
  intro event member
  rcases List.mem_append.mp member with old | new
  · exact (each event old).not_visible
  · rw [List.mem_singleton] at new
    subst new
    exact silent

section Creating

variable {cfg : Settings} {law : Db → Prop} {pid : Pid} {owner : Call}

theorem keyed_insertBooking (row : Nat → Booking) (key : ∀ id, (row id).id = id) :
    Keyed fun id => .insertBooking (row id) := by
  refine ⟨fun table id => ?_, fun _ => rfl⟩
  cases table with
  | bookings => exact .inr (congrArg some (key id))
  | _ => exact .inl rfl

theorem keyed_insertPayment (row : Nat → BookingPayment) (key : ∀ id, (row id).id = id) :
    Keyed fun id => .insertPayment (row id) := by
  refine ⟨fun table id => ?_, fun _ => rfl⟩
  cases table with
  | bookingPayments => exact .inr (congrArg some (key id))
  | _ => exact .inl rfl

/-- A booking that the session itself has inserted is referable and new. -/
theorem own_insert {world : World Call} {writes : List Write} {booking : Booking}
    (own : world.writesOf pid = writes) (inserted : Write.insertBooking booking ∈ writes) :
    world.Referable pid booking.id :=
  .inr ⟨booking, own ▸ inserted, rfl⟩

theorem own_insert_fresh {world : World Call} (consistent : world.Consistent) (table : Table)
    {writes : List Write} {write : Write} {id : Nat} (own : world.writesOf pid = writes)
    (inserted : write ∈ writes) (key : table.inserted write = some id) :
    id ∉ table.ids world.db :=
  consistent.inserted_fresh (own ▸ inserted) key

/-- No calendar event refers to a booking that its own session has just
inserted. -/
theorem own_insert_no_event {world : World Call} (consistent : world.Consistent)
    {writes : List Write} {booking : Booking} (own : world.writesOf pid = writes)
    (inserted : Write.insertBooking booking ∈ writes)
    (noEvents : ∀ event, Write.insertCalendarEvent event ∉ writes) {event : CalendarEvent}
    (there : event ∈ (world.view pid).calendarEvents) : event.bookingId ≠ booking.id := by
  intro same
  rw [view, own] at there
  obtain ⟨origin, committed | pending, version⟩ := Db.mem_applyAll_events there
  · refine own_insert_fresh consistent .bookings own inserted rfl ?_
    rw [← same, version.bookingId]
    exact consistent.events origin committed
  · exact noEvents origin pending

theorem createBooking_spec (lawful : Lawful law) (books : owner.books = true)
    (args : CreateBooking) (base : Log) :
    Spec cfg law pid owner (At pid [] (.nothing pid) (.ordinary base)) (createBooking cfg args)
      (fun _ => At pid [] (.nothing pid) (.winning base))
      (fun error log => ∃ rest, log = base ++ rest ∧ CreateFailed error rest) := by
  have early : ∀ (error : AppError), (∀ constraint, error ≠ .integrity constraint) →
      ∀ log, (Memory.ordinary base).holds log →
        ∃ rest, log = base ++ rest ∧ CreateFailed error rest := by
    rintro error other log ⟨rest, rfl, each⟩
    exact ⟨rest, rfl, .of_winning (fun event member => (each event member).not_losing) other⟩
  unfold createBooking
  dsimp only
  split
  · exact raise_rule (early _ (by rintro _ ⟨⟩))
  refine now_rule fun startedAt => ?_
  refine requireBusiness_rule (fun _ => .ordinary base) (fun _ _ => Memory.persists _ trivial)
    (fun _ => early _ (by rintro _ ⟨⟩)) fun business => ?_
  refine requireCustomerInBusiness_rule (fun _ => early _ (by rintro _ ⟨⟩)) fun customer => ?_
  refine requireServiceInBusiness_rule (fun _ => early _ (by rintro _ ⟨⟩)) fun svc => ?_
  refine requireStaffIfGiven_rule (fun _ => early _ (by rintro _ ⟨⟩)) ?_
  refine orOverflow_rule (early _ (by rintro _ ⟨⟩)) fun _ => ?_
  refine checkDoubleBooking_rule ?_ ?_
  · rintro staff conflict log ⟨rest, rfl, each⟩
    refine ⟨_, List.append_assoc .., fun _ => ⟨ordinary_snoc_not_visible each ?_, .inl rfl⟩,
      by rintro _ ⟨⟩⟩
    rintro ⟨⟩
  refine insert_rule (keyed_insertBooking _ fun _ => rfl) ?_ ?_ fun bookingId => ?_
  · intro world _ _ own
    exact ⟨trivial, fun _ _ => own⟩
  · rintro constraint world log consistent - ⟨own, -, rest, rfl, each⟩ violated
    have overlap : constraint = .noOverlappingStaffBookings := by
      simp only [Db.violated] at violated
      split at violated <;> cases violated
      rfl
    subst overlap
    refine ⟨_, List.append_assoc .., fun _ => ⟨ordinary_snoc_not_visible each ?_, .inr rfl⟩,
      fun _ _ => ⟨_, List.mem_append_right _ (List.mem_singleton_self _), rfl⟩⟩
    rintro ⟨⟩
  refine createAuditLog_rule fun audit action _ => ?_
  refine enqueueBookingConfirmation_rule ?_ fun intentIds messages about => ?_
  · intro error untold
    obtain rfl | rfl := Settings.error_localTime untold
    · exact early _ (by rintro _ ⟨⟩)
    · exact early _ (by rintro _ ⟨⟩)
  refine bind_rule (fun _ => At pid [] (.known pid bookingId) (.winning base)) ?_ fun eventId => ?_
  · refine tryCatch_rule (fun _ _ => False) ?_ fun _ => ⟨fun _ _ _ impossible => impossible.elim⟩
    refine enqueueCalendarEvent_rule ?_ ?_ fun event ofBooking fresh => ?_
    · intro world _ _ own
      exact own_insert own (by simp)
    · rintro world log event consistent - met there same -
      exact own_insert_no_event consistent met.1 (by simp) (by simp) there same
    · refine commit_rule lawful (.book _ audit messages event) rfl
        (.known pid bookingId) (.winning base) ?_ ?_ ?_ ?_
      · intro world consistent _ own
        refine .book books (own_insert_fresh consistent .bookings own List.mem_cons_self rfl) rfl ?_
          about ofBooking fresh
        split at action
        · exact .inr action
        · exact .inl action
      · intro world consistent _ own
        change bookingId ∈ Table.bookings.ids (world.view pid)
        rw [view, own, Table.ids_applyAll]
        simp [Table.inserted]
      · intro log holds
        exact Memory.winning_add (Memory.winning_of_ordinary holds) (by rintro ⟨⟩)
      · exact ret_rule fun _ _ _ met => met
  have pushed : ∀ job answer log, (Memory.winning base).holds log →
      (Memory.winning base).holds (log ++ [⟨.push job, answer⟩]) :=
    fun job answer log holds => Memory.winning_add holds (by rintro ⟨⟩)
  have lost : ∀ job log, (Memory.winning base).holds log →
      ∃ rest, log ++ [⟨.push job, false⟩] = base ++ rest ∧ CreateFailed .redis rest := by
    intro job log holds
    obtain ⟨rest, same, each⟩ := pushed job false log holds
    exact ⟨rest, same, .of_winning each (by rintro _ ⟨⟩)⟩
  refine refreshBooking_rule (fun _ known => known) fun booking _ => ?_
  refine enqueueJobs_rule (fun job => pushed job true) lost ?_
  refine enqueueJob_rule (pushed _ true) (lost _) ?_
  exact ret_rule fun _ _ _ met => ⟨met.1, trivial, met.2.2⟩

/-- No payment refers to a booking that its own session has just inserted. -/
theorem own_insert_no_payment {world : World Call} (consistent : world.Consistent)
    {booking : Booking} (own : world.writesOf pid = [.insertBooking booking])
    {payment : BookingPayment} (there : payment ∈ (world.view pid).bookingPayments) :
    payment.bookingId ≠ booking.id := by
  intro same
  rw [view, own] at there
  refine own_insert_fresh consistent .bookings own (List.mem_singleton_self _) rfl ?_
  rw [← same]
  exact consistent.payments payment there

theorem createPendingPaymentHold_spec (lawful : Lawful law) {args : CreatePendingPaymentHold}
    (caller : owner = .createPendingPaymentHold args) (base : Log) :
    Spec cfg law pid owner (At pid [] (.nothing pid) (.ordinary base))
      (createPendingPaymentHold args)
      (fun _ => At pid [] (.nothing pid) (.winning base))
      (fun error log => ∃ rest, log = base ++ rest ∧ HoldFailed error rest) := by
  have early : ∀ (error : AppError), (∀ constraint, error ≠ .integrity constraint) →
      ∀ log, (Memory.ordinary base).holds log →
        ∃ rest, log = base ++ rest ∧ HoldFailed error rest := by
    rintro error other log ⟨rest, rfl, each⟩
    exact ⟨rest, rfl, .of_winning (fun event member => (each event member).not_losing) other⟩
  unfold createPendingPaymentHold
  refine now_rule fun startedAt => ?_
  refine requireBusiness_rule (fun _ => .ordinary base) (fun _ _ => Memory.persists _ trivial)
    (fun _ => early _ (by rintro _ ⟨⟩)) fun business => ?_
  refine requireCustomerInBusiness_rule (fun _ => early _ (by rintro _ ⟨⟩)) fun customer => ?_
  refine requireServiceInBusiness_rule (fun _ => early _ (by rintro _ ⟨⟩)) fun svc => ?_
  split
  swap
  · exact raise_rule (early _ (by rintro _ ⟨⟩))
  refine requireStaffIfGiven_rule (fun _ => early _ (by rintro _ ⟨⟩)) ?_
  refine orOverflow_rule (early _ (by rintro _ ⟨⟩)) fun _ => ?_
  refine checkDoubleBooking_rule ?_ ?_
  · rintro staff conflict log ⟨rest, rfl, each⟩
    refine ⟨_, List.append_assoc .., fun _ => ⟨ordinary_snoc_not_visible each ?_, rfl⟩,
      by rintro _ ⟨⟩⟩
    rintro ⟨⟩
  refine bind_rule (fun bookingId => At pid [] (.known pid bookingId) (.winning base)) ?_
    fun bookingId => ?_
  · -- The handler is reached by the exclusion constraint only.
    refine tryCatch_rule
      (fun error log => error = .integrity .noOverlappingStaffBookings ∧
        ∃ rest, log = base ++ rest ∧ ∀ event ∈ rest, ¬Visible event) ?_ fun error => ?_
    · refine insert_rule (keyed_insertBooking _ fun _ => rfl) ?_ ?_ fun bookingId => ?_
      · intro world _ _ own
        exact ⟨trivial, fun _ _ => own⟩
      · rintro constraint world log consistent - ⟨own, -, rest, rfl, each⟩ violated
        simp only [Db.violated] at violated
        split at violated <;> cases violated
        exact ⟨rfl, _, List.append_assoc .., ordinary_snoc_not_visible each (by rintro ⟨⟩)⟩
      refine insert_rule (keyed_insertPayment _ fun _ => rfl) ?_ ?_ fun paymentId => ?_
      · intro world _ _ own
        exact ⟨own_insert own (List.mem_singleton_self _), by rintro _ ⟨⟩⟩
      · intro constraint world log consistent _ met violated
        simp only [Db.violated] at violated
        split at violated <;> cases violated
        next present =>
          obtain ⟨payment, there, same⟩ := List.any_eq_true.mp present
          exact absurd (by simpa using same) (own_insert_no_payment consistent met.1 there)
      refine createAuditLog_rule fun audit action _ => ?_
      refine commit_rule lawful (.hold _ _ audit) rfl (.known pid bookingId) (.winning base)
        ?_ ?_ ?_ ?_
      · intro world consistent _ own
        subst caller
        exact .hold (own_insert_fresh consistent .bookings own List.mem_cons_self rfl)
          (own_insert_fresh consistent .bookingPayments own
            (List.mem_cons_of_mem _ List.mem_cons_self) rfl) rfl rfl rfl rfl action
      · intro world consistent _ own
        change bookingId ∈ Table.bookings.ids (world.view pid)
        rw [view, own, Table.ids_applyAll]
        simp [Table.inserted]
      · intro log holds
        exact Memory.winning_add (Memory.winning_of_ordinary holds) (by rintro ⟨⟩)
      · exact ret_rule fun _ _ _ met => met
    · refine pure_rule ?_
      rintro rfl
      refine rollback_rule (.since base (fun event => ¬Visible event) fun _ ordinary =>
        ordinary.not_visible) ?_ (raise_rule ?_)
      · rintro log ⟨rest, rfl, silent⟩
        refine ⟨_, List.append_assoc .., fun event member => ?_⟩
        rcases List.mem_append.mp member with old | new
        · exact silent event old
        · rw [List.mem_singleton] at new
          subst new
          exact id
      · rintro log ⟨rest, rfl, silent⟩
        exact ⟨rest, rfl, fun _ => ⟨silent, rfl⟩, by rintro _ ⟨⟩⟩
  · rw [← bind_pure (refreshBooking bookingId)]
    refine refreshBooking_rule (fun _ known => known) fun booking _ => ?_
    exact ret_rule fun _ _ _ met => ⟨met.1, trivial, met.2.2⟩

/-! ## Entering the waitlist -/

theorem keyed_insertWaitlistEntry (row : Nat → WaitlistEntry) (keyed : ∀ id, (row id).id = id) :
    Keyed fun id => .insertWaitlistEntry (row id) :=
  ⟨fun table id => by
      cases table <;> first | exact .inl rfl | exact .inr (congrArg some (keyed id)),
    fun _ => rfl⟩

theorem createWaitlistEntry_spec (lawful : Lawful law) {args : CreateWaitlistEntry}
    (caller : owner = .createWaitlistEntry args) :
    Spec cfg law pid owner (At pid [] (.nothing pid) .nothing) (createWaitlistEntry args)
      (fun _ _ _ => True) (fun _ _ => True) := by
  unfold createWaitlistEntry
  refine now_rule fun startedAt => ?_
  refine requireBusiness_rule (fun _ => .nothing) (fun _ _ _ => trivial) (fun _ _ _ => trivial)
    fun business => ?_
  refine requireCustomerInBusiness_rule (fun _ _ _ => trivial) fun customer => ?_
  refine requireServiceInBusiness_rule (fun _ _ _ => trivial) fun svc => ?_
  refine requireStaffIfGiven_rule (fun _ _ _ => trivial) ?_
  refine insert_rule (keyed_insertWaitlistEntry _ fun _ => rfl) ?_ ?_ fun entryId => ?_
  · exact fun _ _ _ _ => ⟨trivial, fun _ => nofun⟩
  · exact fun _ _ _ _ _ _ _ => trivial
  refine commit_rule lawful (.enroll _) rfl (.nothing pid) .nothing ?_ (fun _ _ _ _ => trivial)
    (fun _ _ => trivial) ?_
  · intro world consistent _ own
    subst caller
    exact .enroll (own_insert_fresh consistent .waitlistEntries own List.mem_cons_self rfl) rfl rfl
  · rw [← bind_pure (refreshWaitlistEntry entryId), refreshWaitlistEntry, bind_assoc]
    refine glance_rule (fun _ => trivial) fun answer => ?_
    exact orRaise_rule (fun _ _ => trivial) fun _ _ => ret_rule fun _ _ _ _ => trivial

end Creating

end AppointmentVoice
