import AppointmentVoice.Services.Creating

/-!
# Settling payments among other sessions

The proofs that `confirm_booking_payment` and `refund_booking_payment` keep the
discipline, and what the outcome of a confirmation says about the statements it
issued: it committed, or it found the booking confirmed and paid and did nothing
else, or it raised an error and showed nothing to anyone.

**The specifications.** `confirmBookingPayment_spec` and `refundBookingPayment_spec`.
-/

set_option autoImplicit false

namespace AppointmentVoice

open Concurrency World

/-! ## The outcome of a confirmation -/

/-- The statement that reads the booking under its lock. -/
def ConfirmBookingPayment.lock (args : ConfirmBookingPayment) (answer : Option Booking) :
    Event Sql :=
  ⟨.selectBookingForUpdate args.bookingId args.tenantId, answer⟩

/-- The statement that reads the payment of the booking. -/
def ConfirmBookingPayment.readPayment (args : ConfirmBookingPayment) (booking : Booking)
    (answer : Option BookingPayment) : Event Sql :=
  ⟨.select (.payment booking.id args.tenantId), answer⟩

/-- The call has found its booking confirmed and its payment succeeded. -/
def ConfirmBookingPayment.Redelivered (args : ConfirmBookingPayment) (log : Log) : Prop :=
  ∃ (booking : Booking) (payment : BookingPayment),
    booking.businessId = args.businessId ∧ booking.status = .confirmed ∧
      payment.status = .succeeded ∧
      [args.lock (some booking), args.readPayment booking (some payment)] <+: log

/-- The booking that the statement locks. -/
def lockedBooking : Event Sql → Option Booking
  | ⟨.selectBookingForUpdate _ _, answer⟩ => answer
  | _ => none

/-- The statement reads a business in whose time zone the start cannot be told. -/
def readsUntold (cfg : Settings) (businessId : Nat) (startsAt : Instant) : Event Sql → Bool
  | ⟨.select (.business id _), answer⟩ =>
      id == businessId &&
        match (answer : Option Business) with
        | some business => !decide (cfg.TellsTime business startsAt)
        | none => false
  | _ => false

/-- The call has locked a booking and read a business in whose time zone its start cannot
be told, because `zoneinfo` does not know the zone or the local time leaves the calendar. -/
def untoldStart (cfg : Settings) (businessId : Nat) (earlier : Log) : Bool :=
  (earlier.filterMap lockedBooking).any fun booking =>
    earlier.any (readsUntold cfg businessId booking.startsAt)

/-- After that the call has found a service of the business and goes on to compose the
messages. -/
def UntoldStart (cfg : Settings) (earlier : Log) : Event Sql → Prop
  | ⟨.select (.service _ _), answer⟩ =>
      ∃ service : Service, (answer : Option Service) = some service ∧
        untoldStart cfg service.businessId earlier = true
  | _ => False

/-- No calendar event refers to a booking that waits for its payment. -/
def NoEventOnHold (db : Db) : Prop :=
  ∀ event ∈ db.calendarEvents, ∀ booking ∈ db.bookings, booking.id = event.bookingId →
    booking.status ≠ .pendingPayment

/-- Nothing that others can see. -/
def Silent (log : Log) : Prop := ∀ event ∈ log, ¬Visible event

/-- What a confirmation may come to. -/
inductive ConfirmOutcome (cfg : Settings) (law : Db → Prop) (args : ConfirmBookingPayment) :
    Except AppError Booking → Log → Prop where
  | redelivered {booking : Booking} {payment : BookingPayment}
      (sameBusiness : booking.businessId = args.businessId)
      (confirmed : booking.status = .confirmed)
      (succeeded : payment.status = .succeeded) :
      ConfirmOutcome cfg law args (.ok booking)
        [args.lock (some booking), args.readPayment booking (some payment)]
  | committed {result : Except AppError Booking} {log : Log} (commits : ⟨.commit, ()⟩ ∈ log)
      (first : ¬args.Redelivered log) : ConfirmOutcome cfg law args result log
  | rejected {error : AppError} {log : Log} (message : String)
      (domain : error = .conflict message ∨ error = .notFound message) (silent : Silent log)
      (first : ¬args.Redelivered log) : ConfirmOutcome cfg law args (.error error) log
  | untold {error : AppError} {log : Log}
      (seen : ∃ earlier event, earlier ++ [event] <+: log ∧ UntoldStart cfg earlier event)
      (silent : Silent log) (first : ¬args.Redelivered log) :
      ConfirmOutcome cfg law args (.error error) log
  | refused {error : AppError} {log : Log} (lawless : ∃ db, law db ∧ ¬NoEventOnHold db) :
      ConfirmOutcome cfg law args (.error error) log

section Settling

variable {cfg : Settings} {law : Db → Prop} {pid : Pid} {owner : Call}

/-- What a redelivery has found at its first statement. -/
theorem ConfirmBookingPayment.Redelivered.lock {args : ConfirmBookingPayment}
    {answer : Option Booking} {rest : Log}
    (redelivered : args.Redelivered (args.lock answer :: rest)) :
    ∃ booking payment, answer = some booking ∧ booking.businessId = args.businessId ∧
      booking.status = .confirmed ∧ payment.status = .succeeded ∧
      [args.readPayment booking (some payment)] <+: rest := by
  obtain ⟨booking, payment, sameBusiness, confirmed, succeeded, later, same⟩ := redelivered
  simp only [List.cons_append, List.nil_append, List.cons.injEq] at same
  obtain ⟨first, rfl⟩ := same
  cases first
  exact ⟨booking, payment, rfl, sameBusiness, confirmed, succeeded, later, rfl⟩

theorem ConfirmBookingPayment.readPayment_inj {args : ConfirmBookingPayment} {booking : Booking}
    {first second : Option BookingPayment}
    (same : args.readPayment booking first = args.readPayment booking second) : first = second := by
  injection same with _ answers

theorem silent_since {args : ConfirmBookingPayment} {answer : Option Booking} {log : Log}
    (holds : (Memory.ordinary [args.lock answer]).holds log) : Silent log := by
  obtain ⟨rest, rfl, each⟩ := holds
  intro event member
  rcases List.mem_append.mp member with first | later
  · rw [List.mem_singleton] at first
    subst first
    exact id
  · exact (each event later).not_visible

/-- The call has begun by reading its booking, which was not confirmed. -/
theorem not_redelivered_since {args : ConfirmBookingPayment} {booking : Booking}
    (unconfirmed : booking.status ≠ .confirmed) {property : Event Sql → Prop}
    {closed : ∀ event, Ordinary event → property event} {log : Log}
    (holds : (Memory.since [args.lock (some booking)] property closed).holds log) :
    ¬args.Redelivered log := by
  obtain ⟨rest, rfl, -⟩ := holds
  intro redelivered
  obtain ⟨other, payment, same, -, confirmed, -⟩ := redelivered.lock
  cases same
  exact unconfirmed confirmed

/-- The call has begun with the given statements and has committed since. -/
def Memory.committedSince (base : Log) : Memory :=
  (since base (fun _ => True) fun _ _ => trivial).and (saw ⟨.commit, ()⟩)

theorem Memory.committedSince_commit {base log : Log} (holds : (ordinary base).holds log) :
    (committedSince base).holds (log ++ [⟨.commit, ()⟩]) := by
  obtain ⟨rest, rfl, -⟩ := holds
  exact ⟨⟨rest ++ [⟨.commit, ()⟩], List.append_assoc .., fun _ _ => trivial⟩,
    List.mem_append_right _ (List.mem_singleton_self _)⟩

theorem Memory.committedSince_add {base log : Log} (event : Event Sql)
    (holds : (committedSince base).holds log) : (committedSince base).holds (log ++ [event]) := by
  obtain ⟨⟨rest, rfl, -⟩, seen⟩ := holds
  exact ⟨⟨rest ++ [event], List.append_assoc .., fun _ _ => trivial⟩, List.mem_append_left _ seen⟩

/-- Something that does not depend on the log, and a memory. -/
def Memory.given (fact : Prop) (memory : Memory) : Memory where
  holds log := fact ∧ memory.holds log
  persists := fun ordinary holds => ⟨holds.1, memory.persists ordinary holds.2⟩

/-- Some statements have been issued, and another after them. -/
def Memory.sawAfter (first : Log) (second : Event Sql) : Memory where
  holds log := ∃ earlier, first ⊆ earlier ∧ earlier ++ [second] <+: log
  persists := by
    rintro log event - ⟨earlier, seen, begins⟩
    exact ⟨earlier, seen, begins.trans (List.prefix_append ..)⟩

/-- The payment that is found under the lock of its booking waits for it, if it
is pending. -/
theorem payment_due {world : World Call} {booking : Booking} {payment : BookingPayment}
    {tenantId : Nat} (held : Held pid booking world) (sameTenant : booking.tenantId = tenantId)
    (found : Query.eval (.payment booking.id tenantId) world.db = some payment)
    (pending : payment.status = .pending) : HeldDue pid booking payment world := by
  have matched := List.find?_some found
  simp only [Bool.and_eq_true, beq_iff_eq] at matched
  exact ⟨held, List.mem_of_find?_eq_some found, pending, matched.1, matched.2.trans sameTenant.symm⟩

theorem confirmBookingPayment_spec (lawful : Lawful law) {args : ConfirmBookingPayment}
    (caller : owner = .confirmBookingPayment args) :
    Spec cfg law pid owner (AtLog pid [] (.nothing pid) (· = []))
      (confirmBookingPayment cfg args)
      (fun booking _ log => ConfirmOutcome cfg law args (.ok booking) log)
      (fun error log => ConfirmOutcome cfg law args (.error error) log) := by
  unfold confirmBookingPayment
  refine requireBookingInBusinessForUpdate_rule (fun answer log => log = [args.lock answer])
    ?_ ?_ fun booking sameId sameTenant sameBusiness => ?_
  · rintro answer log rfl
    rfl
  · rintro answer elsewhere message log rfl
    refine .rejected message (.inr rfl) (by simp [Silent, Visible, ConfirmBookingPayment.lock])
      fun redelivered => ?_
    obtain ⟨other, payment, same, here, -⟩ := redelivered.lock
    exact elsewhere other same here
  split
  · next confirmed =>
      refine select_rule (fun _ => .nothing pid)
        (fun answer log => log = [args.lock (some booking), args.readPayment booking answer])
        (fun _ _ _ => trivial) ?_ fun answer => ?_
      · rintro answer log rfl
        rfl
      have rejected : (∀ payment : BookingPayment, answer = some payment →
          payment.status ≠ .succeeded) →
          ∀ log, log = [args.lock (some booking), args.readPayment booking answer] →
            ConfirmOutcome cfg law args (.error notAwaitingPayment) log := by
        rintro unpaid log rfl
        refine .rejected _ (.inl rfl)
          (by simp [Silent, Visible, ConfirmBookingPayment.lock, ConfirmBookingPayment.readPayment])
          fun redelivered => ?_
        obtain ⟨other, payment, same, -, -, succeeded, later, begins⟩ := redelivered.lock
        cases same
        simp only [List.cons_append, List.nil_append, List.cons.injEq] at begins
        exact unpaid payment (ConfirmBookingPayment.readPayment_inj begins.1).symm succeeded
      split
      · next payment =>
          split
          · next succeeded =>
              refine ret_rule ?_
              rintro world log - ⟨-, -, rfl⟩
              exact .redelivered sameBusiness confirmed succeeded
          · next unpaid =>
              refine raise_rule (rejected ?_)
              rintro other ⟨⟩
              exact unpaid
      · exact raise_rule (rejected nofun)
  · next cancelled =>
      refine raise_rule ?_
      rintro log rfl
      have begun := Memory.ordinary_self [args.lock (some booking)]
      exact .rejected _ (.inl rfl) (silent_since begun)
        (not_redelivered_since (by rw [cancelled]; exact nofun) begun)
  · next held =>
      have unconfirmed : booking.status ≠ .confirmed := by
        rw [held]
        exact nofun
      have rejected : ∀ message error log, error = .conflict message ∨ error = .notFound message →
          (Memory.ordinary [args.lock (some booking)]).holds log →
            ConfirmOutcome cfg law args (.error error) log := by
        intro message error log domain begun
        exact .rejected message domain (silent_since begun)
          (not_redelivered_since unconfirmed begun)
      refine select_rule
        (fun answer => .all fun payment =>
          .given (answer = some payment ∧ payment.status = .pending)
          (.heldDue pid booking payment))
        (fun _ => (Memory.ordinary [args.lock (some booking)]).holds) ?_ ?_ fun answer => ?_
      · rintro world consistent ⟨-, known⟩ payment ⟨found, pending⟩
        exact payment_due known sameTenant found pending
      · rintro answer log rfl
        exact Memory.persists _ trivial (Memory.ordinary_self _)
      refine orRaise_rule (fun log => rejected _ _ log (.inr rfl)) fun payment found => ?_
      dsimp only
      split
      · exact raise_rule fun log => rejected _ _ log (.inl rfl)
      next pending =>
      rw [not_not] at pending
      refine now_rule fun paidAt => ?_
      refine update_rule rfl (fun _ _ _ => trivial) ?_
      refine update_rule rfl ?_ ?_
      · rintro world - ⟨⟨-, known⟩, -⟩
        exact ⟨booking, known.2, rfl, held⟩
      refine createAuditLog_rule fun audit action target => ?_
      refine requireBusiness_rule
        (fun business => (Memory.ordinary [args.lock (some booking)]).and
          (.saw ⟨.select (.business booking.businessId args.tenantId), some business⟩))
        ?_ (fun _ log => rejected _ _ log (.inr rfl)) fun business => ?_
      · intro business log holds
        exact ⟨Memory.persists _ trivial holds, List.mem_append_right _ (List.mem_singleton_self _)⟩
      refine requireCustomerInBusiness_rule
        (fun _ log holds => rejected _ _ log (.inr rfl) holds.1) fun customer => ?_
      refine seeServiceInBusiness_rule
        (fun svc => (Memory.ordinary [args.lock (some booking)]).and
          (.given (svc.businessId = booking.businessId)
            (.sawAfter [args.lock (some booking),
                ⟨.select (.business booking.businessId args.tenantId), some business⟩]
              ⟨.select (.service booking.serviceId args.tenantId), some svc⟩)))
        ?_ (fun _ log holds => rejected _ _ log (.inr rfl) holds.1) fun svc => ?_
      · intro svc log here holds
        have locked : args.lock (some booking) ∈ log := by
          obtain ⟨rest, rfl, -⟩ := holds.1
          exact List.mem_cons_self
        exact ⟨Memory.persists _ trivial holds.1, here, log,
          List.cons_subset.mpr ⟨locked, List.cons_subset.mpr ⟨holds.2, List.nil_subset _⟩⟩,
          List.prefix_refl _⟩
      refine enqueueBookingConfirmation_rule ?_ fun intentIds messages about => ?_
      · rintro error failed log ⟨begun, here, earlier, known, begins⟩
        obtain ⟨locked, seen⟩ := List.cons_subset.mp known
        have read : readsUntold cfg svc.businessId booking.startsAt
            ⟨.select (.business booking.businessId args.tenantId), some business⟩ = true := by
          simp [readsUntold, here, Settings.not_tellsTime failed]
        have found : untoldStart cfg svc.businessId earlier = true := by
          rw [untoldStart, List.any_eq_true]
          exact ⟨booking, List.mem_filterMap.mpr ⟨_, locked, rfl⟩,
            List.any_eq_true.mpr ⟨_, seen List.mem_cons_self, read⟩⟩
        exact .untold ⟨earlier, _, begins, svc, rfl, found⟩ (silent_since begun)
          (not_redelivered_since unconfirmed begun)
      refine enqueueCalendarEvent_rule ?_ ?_ fun event ofBooking fresh => ?_
      · rintro world - ⟨⟨-, known⟩, -⟩ -
        exact .inl (List.mem_map_of_mem known.2)
      · rintro world log event - lawHolds ⟨own, ⟨⟨-, known⟩, -⟩, -⟩ there same -
        refine .refused ⟨world.db, lawHolds, fun none => ?_⟩
        rw [view, own] at there
        obtain ⟨origin, committed | inserted, version⟩ := Db.mem_applyAll_events there
        · exact none origin committed booking known.2 (same.symm.trans version.bookingId) held
        · simp at inserted
      refine commit_rule lawful
        (.confirm booking payment args.providerPaymentId paidAt audit messages event) rfl
        (.known pid booking.id) (.committedSince [args.lock (some booking)]) ?_ ?_ ?_ ?_
      · rintro world - ⟨⟨-, known⟩, due⟩ -
        subst caller
        exact .confirm known.2 sameId.symm held (due payment ⟨found, pending⟩).2 action target about
          ofBooking fresh
      · rintro world - ⟨⟨-, known⟩, -⟩ -
        exact known_applyAll _ (List.mem_map_of_mem known.2)
      · exact fun log holds => Memory.committedSince_commit holds.1
      have done : ∀ result log, (Memory.committedSince [args.lock (some booking)]).holds log →
          ConfirmOutcome cfg law args result log :=
        fun result log holds => .committed holds.2 (not_redelivered_since unconfirmed holds.1)
      refine refreshBooking_rule (fun _ known => known) fun fresh _ => ?_
      refine enqueueJobs_rule (fun job log => Memory.committedSince_add _)
        (fun job log holds => done _ _ (Memory.committedSince_add _ holds)) ?_
      refine enqueueJob_rule (fun log => Memory.committedSince_add _)
        (fun log holds => done _ _ (Memory.committedSince_add _ holds)) (ret_rule ?_)
      exact fun world log _ met => done _ log met.2.2

/-! ## Refunds -/

theorem refundBookingPayment_spec (lawful : Lawful law) {args : RefundBookingPayment}
    (caller : owner = .refundBookingPayment args) :
    Spec cfg law pid owner (At pid [] (.nothing pid) .nothing) (refundBookingPayment args)
      (fun _ _ _ => True) (fun _ _ => True) := by
  unfold refundBookingPayment
  refine requireBookingInBusiness_rule (fun _ _ _ => trivial) fun booking _ _ => ?_
  refine select_rule
    (fun answer => .all fun payment => .given (answer = some payment ∧ payment.status = .succeeded)
      (.settled pid payment.id)) (fun _ => Memory.nothing.holds) ?_ (fun _ _ _ => trivial)
    fun answer => ?_
  · rintro world - - payment ⟨found, succeeded⟩
    exact ⟨payment, List.mem_of_find?_eq_some found, rfl, .inl succeeded⟩
  refine orRaise_rule (fun _ _ => trivial) fun payment found => ?_
  dsimp only
  split
  · exact raise_rule fun _ _ => trivial
  next succeeded =>
  rw [not_not] at succeeded
  refine now_rule fun refundedAt => ?_
  refine update_rule rfl (fun _ _ _ => trivial) ?_
  refine createAuditLog_rule fun audit action _ => ?_
  refine commit_rule lawful (.refund payment refundedAt audit) rfl (.nothing pid) .nothing ?_
    (fun _ _ _ _ => trivial) (fun _ _ => trivial) ?_
  · rintro world - ⟨-, settled⟩ -
    subst caller
    exact .refund (settled payment ⟨found, succeeded⟩) action
  · rw [← bind_pure (refreshPayment payment.id), refreshPayment, bind_assoc]
    refine glance_rule (fun _ => trivial) fun answer => ?_
    exact orRaise_rule (fun _ _ => trivial) fun _ _ => ret_rule fun _ _ _ _ => trivial

end Settling

end AppointmentVoice
