import AppointmentVoice.Services.SequentialBooking

/-!
# Making and ending payment holds alone

What `create_pending_payment_hold` and `expire_pending_payment_hold` come to when they run
alone.  Each changes the bookings in its one commit or not at all: a hold is one row more,
an expiry the one row cancelled.

**The calls.** `createPendingPaymentHold_alone` and `expirePendingPaymentHold_alone`.
-/

set_option autoImplicit false

namespace AppointmentVoice

open Concurrency

section Holds

variable {solo : Solo} {post : Except AppError Booking → Solo → Prop}

/-- The row that `create_pending_payment_hold` adds. -/
def CreatePendingPaymentHold.row (args : CreatePendingPaymentHold) (service : Service) (id : Nat)
    (createdAt : Instant) : Booking :=
  ⟨id, args.tenantId, args.businessId, args.customerId, args.serviceId, args.staffId,
    args.startsAt, args.startsAt + minutes service.durationMinutes, .pendingPayment, args.source,
    none, createdAt⟩

/-- An insert that is refused ends in a rollback and an error. -/
theorem onIntegrityError_alone {α : Type} (constraint : Constraint) {middle : Solo}
    (same : middle.db = solo.db) :
    Ends (onIntegrityError (α := α) (.integrity constraint)) middle fun result after =>
      ∃ error, result = .error error ∧ after.db = solo.db := by
  rw [onIntegrityError]
  refine Ends.rollback ?_
  split
  · exact ⟨_, rfl, same⟩
  · exact ⟨_, rfl, same⟩

/-- **A hold alone.** A call commits one row for a staff member of the business, or it
commits nothing. -/
theorem createPendingPaymentHold_alone {args : CreatePendingPaymentHold}
    (fresh : ∀ row ∈ solo.view.bookings, row.id ≠ solo.nextId)
    (fails : ∀ error (after : Solo), after.db = solo.db → post (.error error) after)
    (done : ∀ service : Service, StaffFound solo.view args.staffId args.businessId args.tenantId →
      ∀ result (after : Solo),
        after.db.bookings = solo.view.bookings ++ [args.row service solo.nextId solo.clock] →
          post result after) :
    Ends (createPendingPaymentHold args) solo post := by
  rw [createPendingPaymentHold]
  refine Ends.now ?_
  refine Ends.requireBusiness (fun _ error => fails error solo rfl) fun _ _ => ?_
  refine Ends.requireCustomerInBusiness (fun _ error => fails error solo rfl) fun _ _ _ => ?_
  refine Ends.requireServiceInBusiness (fun _ error => fails error solo rfl) fun service _ _ => ?_
  split
  swap
  · exact fails _ solo rfl
  next amount currency _ _ _ =>
  refine Ends.requireStaffIfGiven (fun _ error => fails error solo rfl) fun staffFound => ?_
  refine Ends.orOverflow (fun _ error => fails error solo rfl) fun _ => ?_
  refine Ends.checkDoubleBooking (fun _ _ _ _ => fails _ solo rfl) fun _ => ?_
  refine Ends.bind (Ends.tryCatch ?_)
  cases fine : solo.view.violated (.insertBooking (args.row service solo.nextId solo.clock)) with
  | some constraint =>
      refine Ends.refused fine ((onIntegrityError_alone constraint rfl).mono ?_)
      rintro _ after ⟨error, rfl, same⟩
      exact fails error after same
  | none =>
      refine Ends.insert fine ?_
      have added := solo.add_view [.insertBooking (args.row service solo.nextId solo.clock)]
      cases fineToo : (solo.add
        [.insertBooking (args.row service solo.nextId solo.clock)]).view.violated
          (.insertPayment ⟨solo.nextId + 1, args.tenantId, args.businessId, solo.nextId,
            args.provider, args.providerSessionId, none, amount, currency, .pending, none, none,
            none⟩) with
      | some constraint =>
          refine Ends.refused fineToo ((onIntegrityError_alone constraint rfl).mono ?_)
          rintro _ after ⟨error, rfl, same⟩
          exact fails error after same
      | none =>
          refine Ends.insert fineToo ?_
          have payment : (Write.insertPayment ⟨solo.nextId + 1, args.tenantId, args.businessId,
            solo.nextId, args.provider, args.providerSessionId, none, amount, currency, .pending,
            none, none, none⟩).quiet = true := rfl
          have paid := Quietly.insert payment
            (solo.add [.insertBooking (args.row service solo.nextId solo.clock)])
          refine Ends.createAuditLog fun audit noted => Ends.commit ?_
          have bookings : audit.committed.db.bookings =
              solo.view.bookings ++ [args.row service solo.nextId solo.clock] :=
            (paid.trans noted).bookings.trans (by rw [added]; rfl)
          change Ends (refreshBooking solo.nextId) audit.committed post
          rw [← bind_pure (refreshBooking solo.nextId)]
          exact Ends.refreshBooking (refresh_created fresh bookings)
            (Ends.ret (done service staffFound _ _ bookings))

/-- **The end of a hold alone.** A call commits the hold cancelled, or it commits
nothing. -/
theorem expirePendingPaymentHold_alone {args : BookingRef}
    (keys : (Table.bookings.ids solo.view).Nodup)
    (fails : ∀ error (after : Solo), after.db = solo.db → post (.error error) after)
    (done : ∀ result (after : Solo),
      after.db.bookings = (solo.view.bookings.map fun row =>
        if row.id = args.bookingId then BookingChange.apply (.cancel (some holdExpired)) row
        else row) →
      post result after) :
    Ends (expirePendingPaymentHold args) solo post := by
  rw [expirePendingPaymentHold]
  refine Ends.now ?_
  refine Ends.requireBookingInBusinessForUpdate (fun _ error => fails error solo rfl)
    fun booking found _ => ?_
  have member : booking ∈ solo.view.bookings := List.mem_of_find?_eq_some found
  have sameId : booking.id = args.bookingId := by
    have condition := List.find?_some found
    rw [Bool.and_eq_true, beq_iff_eq] at condition
    exact condition.1
  split
  · exact fails _ solo rfl
  refine Ends.update ?_
  refine Ends.failLinkedPendingPayment fun paid quietly => ?_
  refine Ends.createAuditLog fun audit noted => ?_
  have audited := quietly.trans noted
  have cancelled := solo.amend_view (.updateBooking booking.id (.cancel (some holdExpired)))
  -- Whoever the slot was offered to, the session commits and pushes its jobs.
  have finish : ∀ (last : Solo) (offerIds : List Nat), Steadily audit last →
      Ends (do
        commit
        let booking ← refreshBooking booking.id
        enqueueJobs (offerIds.map .sendNotification)
        return booking) last post := by
    intro last offerIds steadily
    have bookings : last.committed.db.bookings = solo.view.bookings.map fun row =>
        if row.id = booking.id then BookingChange.apply (.cancel (some holdExpired)) row
          else row := by
      change last.view.bookings = _
      rw [(audited.toSteadily.trans steadily).bookings, cancelled]
      rfl
    refine Ends.commit (Ends.refreshBooking
      (refresh_changed (.cancel (some holdExpired)) keys member bookings) ?_)
    rw [sameId] at bookings
    refine Ends.enqueueJobs (fun _ => Ends.ret (done _ _ bookings)) fun _ after same => ?_
    exact done _ after (by rw [same]; exact bookings)
  refine Ends.waitlist ?_
  cases oldest (audit.view.waitlistEntries.filter (slotOf booking args.tenantId).accepts) with
  | none => exact finish audit [] (Quietly.refl audit).toSteadily
  | some entry =>
      refine Ends.bind (Ends.update ?_)
      have offered := Steadily.offer audit entry.id booking.staffId solo.clock
      refine Ends.requireBusiness (fun _ error => fails error _ audited.db) fun _ _ => ?_
      refine Ends.requireServiceInBusiness (fun _ error => fails error _ audited.db)
        fun _ _ _ => ?_
      refine Ends.requireCustomerInBusiness (fun _ error => fails error _ audited.db)
        fun _ _ _ => ?_
      refine Ends.addIntent fun offerId last told => ?_
      exact finish last [offerId] (offered.trans told.toSteadily)

end Holds

end AppointmentVoice
