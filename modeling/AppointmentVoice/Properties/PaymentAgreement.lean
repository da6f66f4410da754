import AppointmentVoice.Services.History

/-!
# Bookings and payments agree

In every committed state of every interleaving, a booking and its payment tell
the same story: the booking waits exactly while the payment does, a failed
payment belongs to a cancelled booking, and a payment that has succeeded belongs
to a booking that was confirmed by exactly one confirmation and never expired.
A cancelled booking stays cancelled.

The counts are taken over the journal of committed transactions.

**The result.** `PaymentInvariant.step` for one transaction, and for every run
`payments_agree_in_every_run`.
-/

set_option autoImplicit false

namespace AppointmentVoice

open Concurrency World

/-! ## Counting transactions -/

/-- The transaction is one of `confirm_booking_payment` and confirms the
booking. -/
def confirmedBy (bookingId : Nat) (entry : Committed Call) : Bool :=
  (match entry.call with
    | .confirmBookingPayment _ => true
    | _ => false) && decide (.updateBooking bookingId .confirm ∈ entry.writes)

/-- The transaction is one of `expire_pending_payment_hold`, called directly or
by the sweep, and cancels the booking. -/
def expiredBy (bookingId : Nat) (entry : Committed Call) : Bool :=
  entry.call.expires && entry.writes.any fun
    | .updateBooking id (.cancel _) => id == bookingId
    | _ => false

def confirmations (journal : List (Committed Call)) (bookingId : Nat) : Nat :=
  journal.countP (confirmedBy bookingId)

def expiries (journal : List (Committed Call)) (bookingId : Nat) : Nat :=
  journal.countP (expiredBy bookingId)

theorem confirmations_snoc (journal : List (Committed Call)) (entry : Committed Call)
    (bookingId : Nat) :
    confirmations (journal ++ [entry]) bookingId =
      confirmations journal bookingId + if confirmedBy bookingId entry then 1 else 0 := by
  simp [confirmations, List.countP_append, List.countP_singleton]

theorem expiries_snoc (journal : List (Committed Call)) (entry : Committed Call)
    (bookingId : Nat) :
    expiries (journal ++ [entry]) bookingId =
      expiries journal bookingId + if expiredBy bookingId entry then 1 else 0 := by
  simp [expiries, List.countP_append, List.countP_singleton]

/-- A transaction that does not update the booking counts for neither. -/
theorem counts_other (journal : List (Committed Call)) (call : Call) (transaction : Transaction)
    (bookingId : Nat)
    (other : ∀ change, transaction.bookingUpdate ≠ some (bookingId, change)) :
    confirmations (journal ++ [⟨call, transaction.writes⟩]) bookingId =
        confirmations journal bookingId ∧
      expiries (journal ++ [⟨call, transaction.writes⟩]) bookingId =
        expiries journal bookingId := by
  have absent : ∀ change, Write.updateBooking bookingId change ∉ transaction.writes :=
    fun change member => other change (Transaction.mem_updateBooking.mp member)
  have notConfirmed : confirmedBy bookingId ⟨call, transaction.writes⟩ = false := by
    simp [confirmedBy, absent]
  have notExpired : expiredBy bookingId ⟨call, transaction.writes⟩ = false := by
    simp only [expiredBy, Bool.and_eq_false_iff, List.any_eq_false]
    refine .inr fun write member => ?_
    split
    · next id reason =>
        rw [beq_iff_eq]
        rintro rfl
        exact absent _ member
    · exact nofun
  rw [confirmations_snoc, expiries_snoc, notConfirmed, notExpired]
  exact ⟨rfl, rfl⟩

/-- A transaction of a call that expires nothing counts for no expiry. -/
theorem expiries_of_not_expires {call : Call} {writes : List Write} {bookingId : Nat}
    (journal : List (Committed Call)) (keeps : call.expires = false) :
    expiries (journal ++ [⟨call, writes⟩]) bookingId = expiries journal bookingId := by
  simp [expiries_snoc, expiredBy, keeps]

/-- Only a confirmation counts for one. -/
theorem confirmations_of_cancel {call : Call} {transaction : Transaction} {bookingId : Nat}
    {reason : Option String} (journal : List (Committed Call))
    (cancelled : transaction.bookingUpdate = some (bookingId, .cancel reason)) :
    confirmations (journal ++ [⟨call, transaction.writes⟩]) bookingId =
      confirmations journal bookingId := by
  have absent : Write.updateBooking bookingId .confirm ∉ transaction.writes := by
    rw [Transaction.mem_updateBooking, cancelled]
    exact nofun
  simp [confirmations_snoc, confirmedBy, absent]

theorem confirmations_of_confirm {args : ConfirmBookingPayment} {transaction : Transaction}
    {bookingId : Nat} (journal : List (Committed Call))
    (confirmed : transaction.bookingUpdate = some (bookingId, .confirm)) :
    confirmations (journal ++ [⟨.confirmBookingPayment args, transaction.writes⟩]) bookingId =
      confirmations journal bookingId + 1 := by
  have present := Transaction.mem_updateBooking.mpr confirmed
  simp [confirmations_snoc, confirmedBy, present]

/-! ## Agreement -/

/-- A booking and its payment tell the same story. -/
structure Agrees (journal : List (Committed Call)) (booking : Booking)
    (payment : BookingPayment) : Prop where
  pending : booking.status = .pendingPayment ↔ payment.status = .pending
  failed : payment.status = .failed → booking.status = .cancelled
  paid : payment.status = .succeeded ∨ payment.status = .refunded →
    confirmations journal booking.id = 1 ∧ expiries journal booking.id = 0

/-- Every booking agrees with its payment. -/
def PaymentsAgree (db : Db) (journal : List (Committed Call)) : Prop :=
  ∀ booking ∈ db.bookings, ∀ payment ∈ db.bookingPayments, payment.bookingId = booking.id →
    Agrees journal booking payment

/-- What the agreement rests on: a booking has one payment, of its own tenant; a
booking whose payment still waits has been neither confirmed nor expired; and
only bookings that exist have been updated. -/
structure PaymentInvariant (db : Db) (journal : List (Committed Call)) : Prop where
  agree : PaymentsAgree db journal
  tenants : ∀ booking ∈ db.bookings, ∀ payment ∈ db.bookingPayments,
    payment.bookingId = booking.id → payment.tenantId = booking.tenantId
  single : ∀ first ∈ db.bookingPayments, ∀ second ∈ db.bookingPayments,
    first.bookingId = second.bookingId → first = second
  untouched : ∀ payment ∈ db.bookingPayments, payment.status = .pending →
    confirmations journal payment.bookingId = 0 ∧ expiries journal payment.bookingId = 0
  updated : ∀ bookingId, bookingId ∉ Table.bookings.ids db →
    confirmations journal bookingId = 0 ∧ expiries journal bookingId = 0

theorem PaymentInvariant.catalogue {before after : Db} {journal : List (Committed Call)}
    (same : SameLedger before after) (invariant : PaymentInvariant before journal) :
    PaymentInvariant after journal where
  agree := by
    rw [PaymentsAgree, same.bookings, same.bookingPayments]
    exact invariant.agree
  tenants := by
    rw [same.bookings, same.bookingPayments]
    exact invariant.tenants
  single := by
    rw [same.bookingPayments]
    exact invariant.single
  untouched := by
    rw [same.bookingPayments]
    exact invariant.untouched
  updated := by
    rw [same.ids]
    exact invariant.updated

/-- The journal grows by a transaction that updates another booking or none. -/
theorem Agrees.snoc {journal : List (Committed Call)} {booking : Booking}
    {payment : BookingPayment} (agrees : Agrees journal booking payment) (call : Call)
    (transaction : Transaction)
    (other : ∀ change, transaction.bookingUpdate ≠ some (booking.id, change)) :
    Agrees (journal ++ [⟨call, transaction.writes⟩]) booking payment := by
  obtain ⟨confirmed, expired⟩ := counts_other journal call transaction booking.id other
  refine ⟨agrees.pending, agrees.failed, fun paid => ?_⟩
  rw [confirmed, expired]
  exact agrees.paid paid

section Steps

variable {world : World Call} {call : Call}

/-- The bookings that a transaction updates exist. -/
theorem bookingUpdate_known {db : Db} {transaction : Transaction}
    (enabled : transaction.Enabled db call) {bookingId : Nat} {change : BookingChange}
    (updates : transaction.bookingUpdate = some (bookingId, change)) :
    bookingId ∈ Table.bookings.ids db := by
  cases enabled with
  | confirm there =>
      cases updates
      exact List.mem_map_of_mem there
  | free there =>
      cases updates
      exact List.mem_map_of_mem there
  | _ => cases updates

/-- Bookings that do not exist yet have not been updated. -/
theorem PaymentInvariant.updated_step (invariant : PaymentInvariant world.db world.journal)
    {transaction : Transaction} (enabled : transaction.Enabled world.db call) (bookingId : Nat)
    (absent : bookingId ∉ Table.bookings.ids (world.db.applyAll transaction.writes)) :
    confirmations (world.journal ++ [⟨call, transaction.writes⟩]) bookingId = 0 ∧
      expiries (world.journal ++ [⟨call, transaction.writes⟩]) bookingId = 0 := by
  have before : bookingId ∉ Table.bookings.ids world.db :=
    fun known => absent (known_applyAll _ known)
  obtain ⟨confirmed, expired⟩ := counts_other world.journal call transaction bookingId
    fun change updates => before (bookingUpdate_known enabled updates)
  rw [confirmed, expired]
  exact invariant.updated bookingId before

/-- A transaction that updates no booking and changes no payment. -/
theorem PaymentInvariant.same_payments (invariant : PaymentInvariant world.db world.journal)
    (consistent : world.Consistent) {transaction : Transaction}
    (enabled : transaction.Enabled world.db call) (noUpdate : transaction.bookingUpdate = none)
    (payments : (world.db.applyAll transaction.writes).bookingPayments =
      world.db.bookingPayments)
    (bookings : ∀ row ∈ (world.db.applyAll transaction.writes).bookings,
      row ∈ world.db.bookings ∨ row.id ∉ Table.bookings.ids world.db) :
    PaymentInvariant (world.db.applyAll transaction.writes)
      (world.journal ++ [⟨call, transaction.writes⟩]) := by
  have other : ∀ bookingId change, transaction.bookingUpdate ≠ some (bookingId, change) := by
    intro bookingId change
    rw [noUpdate]
    exact nofun
  -- A payment belongs to a booking that was there before.
  have old : ∀ booking ∈ (world.db.applyAll transaction.writes).bookings,
      ∀ payment ∈ world.db.bookingPayments, payment.bookingId = booking.id →
        booking ∈ world.db.bookings := by
    intro booking member payment paid same
    rcases bookings booking member with there | fresh
    · exact there
    · refine absurd (consistent.payments payment paid) ?_
      rw [same]
      exact fresh
  refine ⟨?_, ?_, ?_, ?_, invariant.updated_step enabled⟩
  · intro booking member payment paid same
    rw [payments] at paid
    exact (invariant.agree booking (old booking member payment paid same) payment paid same).snoc
      call transaction (other booking.id)
  · intro booking member payment paid same
    rw [payments] at paid
    exact invariant.tenants booking (old booking member payment paid same) payment paid same
  · rw [payments]
    exact invariant.single
  · intro payment paid pending
    rw [payments] at paid
    obtain ⟨confirmed, expired⟩ := counts_other world.journal call transaction
      payment.bookingId (other payment.bookingId)
    rw [confirmed, expired]
    exact invariant.untouched payment paid pending

/-- A transaction that rewrites bookings and payments in place. -/
theorem PaymentInvariant.in_place (invariant : PaymentInvariant world.db world.journal)
    {transaction : Transaction} (enabled : transaction.Enabled world.db call)
    (onBooking : Booking → Booking) (onPayment : BookingPayment → BookingPayment)
    (bookings : transaction.bookingsAfter world.db.bookings = world.db.bookings.map onBooking)
    (payments : transaction.paymentsAfter world.db.bookingPayments =
      world.db.bookingPayments.map onPayment)
    (bookingKept : ∀ row, (onBooking row).id = row.id ∧ (onBooking row).tenantId = row.tenantId)
    (paymentKept : ∀ row, (onPayment row).bookingId = row.bookingId ∧
      (onPayment row).tenantId = row.tenantId)
    (agree : ∀ booking ∈ world.db.bookings, ∀ payment ∈ world.db.bookingPayments,
      payment.bookingId = booking.id →
      Agrees (world.journal ++ [⟨call, transaction.writes⟩]) (onBooking booking)
        (onPayment payment))
    (untouched : ∀ payment ∈ world.db.bookingPayments, (onPayment payment).status = .pending →
      confirmations (world.journal ++ [⟨call, transaction.writes⟩]) payment.bookingId = 0 ∧
        expiries (world.journal ++ [⟨call, transaction.writes⟩]) payment.bookingId = 0) :
    PaymentInvariant (world.db.applyAll transaction.writes)
      (world.journal ++ [⟨call, transaction.writes⟩]) := by
  have bookingsAfter := (transaction.bookings_applyAll world.db).trans bookings
  have paymentsAfter := (transaction.payments_applyAll world.db).trans payments
  refine ⟨?_, ?_, ?_, ?_, invariant.updated_step enabled⟩
  · intro booking member payment paid same
    rw [bookingsAfter] at member
    rw [paymentsAfter] at paid
    obtain ⟨row, there, rfl⟩ := List.mem_map.mp member
    obtain ⟨origin, paidBefore, rfl⟩ := List.mem_map.mp paid
    rw [(bookingKept row).1, (paymentKept origin).1] at same
    exact agree row there origin paidBefore same
  · intro booking member payment paid same
    rw [bookingsAfter] at member
    rw [paymentsAfter] at paid
    obtain ⟨row, there, rfl⟩ := List.mem_map.mp member
    obtain ⟨origin, paidBefore, rfl⟩ := List.mem_map.mp paid
    rw [(bookingKept row).1, (paymentKept origin).1] at same
    rw [(bookingKept row).2, (paymentKept origin).2]
    exact invariant.tenants row there origin paidBefore same
  · rw [paymentsAfter]
    intro first one second two same
    obtain ⟨origin, there, rfl⟩ := List.mem_map.mp one
    obtain ⟨other, thereToo, rfl⟩ := List.mem_map.mp two
    rw [(paymentKept origin).1, (paymentKept other).1] at same
    rw [invariant.single origin there other thereToo same]
  · intro payment paid pending
    rw [paymentsAfter] at paid
    obtain ⟨origin, there, rfl⟩ := List.mem_map.mp paid
    rw [(paymentKept origin).1]
    exact untouched origin there pending

/-- Rewriting the rows with a given key. -/
def rewriteBooking (bookingId : Nat) (change : BookingChange) (row : Booking) : Booking :=
  if row.id = bookingId then change.apply row else row

def rewritePayment (paymentId : Nat) (change : PaymentChange) (row : BookingPayment) :
    BookingPayment :=
  if row.id = paymentId then change.apply row else row

theorem rewriteBooking_kept (bookingId : Nat) (change : BookingChange) (row : Booking) :
    (rewriteBooking bookingId change row).id = row.id ∧
      (rewriteBooking bookingId change row).tenantId = row.tenantId := by
  unfold rewriteBooking
  split
  · cases change <;> exact ⟨rfl, rfl⟩
  · exact ⟨rfl, rfl⟩

theorem rewritePayment_kept (paymentId : Nat) (change : PaymentChange) (row : BookingPayment) :
    (rewritePayment paymentId change row).bookingId = row.bookingId ∧
      (rewritePayment paymentId change row).tenantId = row.tenantId := by
  unfold rewritePayment
  split
  · cases change <;> exact ⟨rfl, rfl⟩
  · exact ⟨rfl, rfl⟩

/-- The one payment of a booking is the one that was due. -/
theorem PaymentInvariant.due_only (invariant : PaymentInvariant world.db world.journal)
    (consistent : world.Consistent) {booking row : Booking} {payment origin : BookingPayment}
    (due : payment.Due world.db booking) (there : booking ∈ world.db.bookings)
    (member : row ∈ world.db.bookings) (paid : origin ∈ world.db.bookingPayments)
    (same : origin.bookingId = row.id) :
    (row = booking ∧ origin = payment) ∨ (row.id ≠ booking.id ∧ origin.id ≠ payment.id) := by
  by_cases sameRow : row.id = booking.id
  · refine .inl ⟨consistent.booking_unique member there sameRow, ?_⟩
    refine invariant.single origin paid payment due.there ?_
    rw [same, sameRow, due.ofBooking]
  · refine .inr ⟨sameRow, fun sameId => sameRow ?_⟩
    rw [← same, consistent.payment_unique paid due.there sameId, due.ofBooking]

theorem update_elsewhere {transaction : Transaction} {bookingId other : Nat}
    {change : BookingChange} (updates : transaction.bookingUpdate = some (bookingId, change))
    (different : other ≠ bookingId) (change' : BookingChange) :
    transaction.bookingUpdate ≠ some (other, change') := by
  rw [updates]
  intro same
  injection same with pair
  exact different (congrArg Prod.fst pair).symm

/-- A transaction that settles a booking together with the payment that was due. -/
theorem PaymentInvariant.settle_step (invariant : PaymentInvariant world.db world.journal)
    (consistent : world.Consistent) {transaction : Transaction} {booking : Booking}
    {payment : BookingPayment} {change : BookingChange} {paymentChange : PaymentChange}
    (enabled : transaction.Enabled world.db call) (there : booking ∈ world.db.bookings)
    (due : payment.Due world.db booking)
    (updates : transaction.bookingUpdate = some (booking.id, change))
    (bookings : transaction.bookingsAfter world.db.bookings =
      world.db.bookings.map (rewriteBooking booking.id change))
    (payments : transaction.paymentsAfter world.db.bookingPayments =
      world.db.bookingPayments.map (rewritePayment payment.id paymentChange))
    (settled : Agrees (world.journal ++ [⟨call, transaction.writes⟩]) (change.apply booking)
      (paymentChange.apply payment)) :
    PaymentInvariant (world.db.applyAll transaction.writes)
      (world.journal ++ [⟨call, transaction.writes⟩]) := by
  refine invariant.in_place enabled _ _ bookings payments (rewriteBooking_kept _ _)
    (rewritePayment_kept _ _) ?_ ?_
  · intro row member origin paid same
    rcases invariant.due_only consistent due there member paid same with
      ⟨rfl, rfl⟩ | ⟨notRow, notPaid⟩
    · rw [rewriteBooking, if_pos rfl, rewritePayment, if_pos rfl]
      exact settled
    · rw [rewriteBooking, if_neg notRow, rewritePayment, if_neg notPaid]
      exact (invariant.agree row member origin paid same).snoc _ _ (update_elsewhere updates notRow)
  · intro origin paid pending
    by_cases sameId : origin.id = payment.id
    · rw [rewritePayment, if_pos sameId] at pending
      exact absurd pending (paymentChange.not_pending origin)
    · rw [rewritePayment, if_neg sameId] at pending
      have elsewhere : origin.bookingId ≠ booking.id := by
        intro same
        rw [invariant.single origin paid payment due.there
          (same.trans due.ofBooking.symm)] at sameId
        exact sameId rfl
      obtain ⟨confirmed, expired⟩ := counts_other world.journal call transaction
        origin.bookingId (update_elsewhere updates elsewhere)
      rw [confirmed, expired]
      exact invariant.untouched origin paid pending

theorem PaymentInvariant.hold_step (invariant : PaymentInvariant world.db world.journal)
    (consistent : world.Consistent) {booking : Booking} {payment : BookingPayment}
    {audit : AuditLog} (enabled : Transaction.Enabled world.db call (.hold booking payment audit))
    (fresh : booking.id ∉ Table.bookings.ids world.db) (held : booking.status = .pendingPayment)
    (pending : payment.status = .pending) (ofBooking : payment.bookingId = booking.id)
    (tenant : payment.tenantId = booking.tenantId) :
    PaymentInvariant (world.db.applyAll (Transaction.writes (.hold booking payment audit)))
      (world.journal ++ [⟨call, Transaction.writes (.hold booking payment audit)⟩]) := by
  have oldPayment : ∀ row ∈ world.db.bookingPayments, row.bookingId ≠ booking.id := by
    intro row member same
    refine fresh ?_
    rw [← same]
    exact consistent.payments row member
  have oldBooking : ∀ row ∈ world.db.bookings, row.id ≠ booking.id := by
    intro row member same
    refine fresh ?_
    rw [← same]
    exact List.mem_map_of_mem member
  have quiet := fun bookingId =>
    counts_other world.journal call (.hold booking payment audit) bookingId fun _ => nofun
  have bookings : ∀ row ∈ (world.db.applyAll
      (Transaction.writes (.hold booking payment audit))).bookings,
      row ∈ world.db.bookings ∨ row = booking := by
    intro row member
    exact (List.mem_append.mp member).imp_right List.mem_singleton.mp
  have payments : ∀ row ∈ (world.db.applyAll
      (Transaction.writes (.hold booking payment audit))).bookingPayments,
      row ∈ world.db.bookingPayments ∨ row = payment := by
    intro row member
    exact (List.mem_append.mp member).imp_right List.mem_singleton.mp
  refine ⟨?_, ?_, ?_, ?_, invariant.updated_step enabled⟩
  · intro row member origin paid same
    rcases bookings row member with old | rfl <;> rcases payments origin paid with oldPaid | rfl
    · exact (invariant.agree row old origin oldPaid same).snoc _ _ fun _ => nofun
    · exact absurd (same.symm.trans ofBooking) (oldBooking row old)
    · exact absurd same (oldPayment origin oldPaid)
    · refine ⟨⟨fun _ => pending, fun _ => held⟩, ?_, ?_⟩
      · rw [pending]
        exact nofun
      · rw [pending]
        rintro (settled | settled) <;> cases settled
  · intro row member origin paid same
    rcases bookings row member with old | rfl <;> rcases payments origin paid with oldPaid | rfl
    · exact invariant.tenants row old origin oldPaid same
    · exact absurd (same.symm.trans ofBooking) (oldBooking row old)
    · exact absurd same (oldPayment origin oldPaid)
    · exact tenant
  · intro first one second two same
    rcases payments first one with oldFirst | rfl <;> rcases payments second
      two with oldSecond | rfl
    · exact invariant.single first oldFirst second oldSecond same
    · exact absurd (same.trans ofBooking) (oldPayment first oldFirst)
    · exact absurd (same.symm.trans ofBooking) (oldPayment second oldSecond)
    · rfl
  · intro origin paid waits
    rw [(quiet origin.bookingId).1, (quiet origin.bookingId).2]
    rcases payments origin paid with oldPaid | rfl
    · exact invariant.untouched origin oldPaid waits
    · rw [ofBooking]
      exact invariant.updated booking.id fresh

theorem Call.not_expires_of_cancels {call : Call} (cancels : call.cancels = true) :
    call.expires = false := by
  cases call <;> first | rfl | cases cancels

/-- Freeing a booking whose payment, if there is one, no longer waits. -/
theorem PaymentInvariant.free_step (invariant : PaymentInvariant world.db world.journal)
    (consistent : world.Consistent) {booking : Booking} {reason : Option String}
    {audit : AuditLog} {messages : List NotificationOutbox} {offer : Option Offer}
    (enabled : Transaction.Enabled world.db call (.free booking reason none audit messages offer))
    (there : booking ∈ world.db.bookings) (frees : Frees call booking audit messages)
    (nothing : booking.NothingDue world.db) :
    PaymentInvariant
      (world.db.applyAll (Transaction.writes (.free booking reason none audit messages offer)))
      (world.journal ++
        [⟨call, Transaction.writes (.free booking reason none audit messages offer)⟩]) := by
  have settled : ∀ origin ∈ world.db.bookingPayments, origin.bookingId = booking.id →
      origin.status ≠ .pending := fun origin paid same waits =>
    nothing origin ⟨paid, waits, same, invariant.tenants booking there origin paid same⟩
  refine invariant.in_place enabled (rewriteBooking booking.id (.cancel reason))
    id rfl (List.map_id _).symm (rewriteBooking_kept _ _)
    (fun _ => ⟨rfl, rfl⟩) ?_ ?_
  · intro row member origin paid same
    by_cases sameRow : row.id = booking.id
    · have equal := consistent.booking_unique member there sameRow
      subst equal
      rw [rewriteBooking, if_pos rfl]
      have agrees := invariant.agree row member origin paid same
      refine ⟨⟨nofun, fun waits => absurd waits (settled origin paid same)⟩, fun _ => rfl,
        fun done => ?_⟩
      obtain ⟨confirmed, expired⟩ := agrees.paid done
      refine ⟨(confirmations_of_cancel world.journal rfl).trans confirmed, ?_⟩
      cases frees with
      | expire caller pending => exact absurd (agrees.pending.mp pending) (settled origin paid same)
      | cancel caller =>
          exact (expiries_of_not_expires world.journal (Call.not_expires_of_cancels caller)).trans
            expired
    · rw [rewriteBooking, if_neg sameRow]
      exact (invariant.agree row member origin paid same).snoc _ _ (update_elsewhere rfl sameRow)
  · intro origin paid waits
    have elsewhere : origin.bookingId ≠ booking.id := fun same => settled origin paid same waits
    obtain ⟨confirmed, expired⟩ := counts_other world.journal call
      (.free booking reason none audit messages offer) origin.bookingId
        (update_elsewhere rfl elsewhere)
    rw [confirmed, expired]
    exact invariant.untouched origin paid waits

theorem PaymentInvariant.refund_step (invariant : PaymentInvariant world.db world.journal)
    (consistent : world.Consistent) {payment : BookingPayment} {refundedAt : Instant}
    {audit : AuditLog}
    (enabled : Transaction.Enabled world.db call (.refund payment refundedAt audit))
    (settled : ∃ row ∈ world.db.bookingPayments, row.id = payment.id ∧
      (row.status = .succeeded ∨ row.status = .refunded)) :
    PaymentInvariant (world.db.applyAll (Transaction.writes (.refund payment refundedAt audit)))
      (world.journal ++ [⟨call, Transaction.writes (.refund payment refundedAt audit)⟩]) := by
  obtain ⟨current, currentThere, currentId, done⟩ := settled
  refine invariant.in_place enabled id (rewritePayment payment.id (.refund refundedAt))
    (List.map_id _).symm rfl
    (fun _ => ⟨rfl, rfl⟩) (rewritePayment_kept _ _) ?_ ?_
  · intro row member origin paid same
    have agrees := invariant.agree row member origin paid same
    by_cases sameId : origin.id = payment.id
    · have equal := consistent.payment_unique paid currentThere (sameId.trans currentId.symm)
      subst equal
      rw [rewritePayment, if_pos sameId]
      have kept := agrees.snoc call (.refund payment refundedAt audit) fun _ => nofun
      refine ⟨⟨fun waits => ?_, nofun⟩, nofun, fun _ => kept.paid done⟩
      rw [agrees.pending.mp waits] at done
      rcases done with done | done <;> cases done
    · rw [rewritePayment, if_neg sameId]
      exact agrees.snoc _ _ fun _ => nofun
  · intro origin paid waits
    have quiet := counts_other world.journal call (.refund payment refundedAt audit)
      origin.bookingId fun _ => nofun
    rw [quiet.1, quiet.2]
    unfold rewritePayment at waits
    split at waits
    · cases waits
    · exact invariant.untouched origin paid waits

/-- **One transaction keeps the agreement.** -/
theorem PaymentInvariant.step (invariant : PaymentInvariant world.db world.journal)
    (consistent : world.Consistent) {transaction : Transaction}
    (enabled : transaction.Enabled world.db call) :
    PaymentInvariant (world.db.applyAll transaction.writes)
      (world.journal ++ [⟨call, transaction.writes⟩]) := by
  have enabled' := enabled
  cases enabled with
  | book caller fresh confirmed =>
      refine invariant.same_payments consistent enabled' rfl (Transaction.payments_applyAll ..) ?_
      intro row member
      rw [Transaction.bookings_applyAll] at member
      rcases List.mem_append.mp member with old | new
      · exact .inl old
      · rw [List.mem_singleton] at new
        subst new
        exact .inr fresh
  | @hold args booking payment audit fresh freshPayment held pending ofBooking tenant =>
      exact invariant.hold_step consistent enabled' fresh held pending ofBooking tenant
  | @confirm args booking payment paidAt audit messages event there named held due =>
      have waited := invariant.untouched payment due.there due.pending
      rw [due.ofBooking] at waited
      refine invariant.settle_step consistent enabled' there due rfl rfl rfl
        ⟨⟨nofun, nofun⟩, nofun, fun _ => ⟨?_, ?_⟩⟩
      · refine (confirmations_of_confirm world.journal rfl).trans ?_
        exact congrArg (· + 1) waited.1
      · exact (expiries_of_not_expires world.journal rfl).trans waited.2
  | @free call booking reason payment audit messages offer there frees due nothing =>
      cases payment with
      | some payment =>
          exact invariant.settle_step consistent enabled' there (due payment rfl) rfl rfl rfl
            ⟨⟨nofun, nofun⟩, fun _ => rfl, fun paid => by rcases paid with paid | paid
              <;> cases paid⟩
      | none => exact invariant.free_step consistent enabled' there frees (nothing rfl)
  | refund settled => exact invariant.refund_step consistent enabled' settled
  | note =>
      refine invariant.same_payments consistent enabled' rfl (Transaction.payments_applyAll ..) ?_
      intro row member
      rw [Transaction.bookings_applyAll] at member
      exact .inl member
  | enroll =>
      refine invariant.same_payments consistent enabled' rfl (Transaction.payments_applyAll ..) ?_
      intro row member
      rw [Transaction.bookings_applyAll] at member
      exact .inl member
  | clerk =>
      refine invariant.same_payments consistent enabled' rfl (Transaction.payments_applyAll ..) ?_
      intro row member
      rw [Transaction.bookings_applyAll] at member
      exact .inl member
  | sweep =>
      refine invariant.same_payments consistent enabled' rfl (Transaction.payments_applyAll ..) ?_
      intro row member
      rw [Transaction.bookings_applyAll] at member
      exact .inl member

end Steps

/-! ## Cancelled bookings -/

/-- The booking exists and is cancelled. -/
def Cancelled (bookingId : Nat) (db : Db) : Prop :=
  bookingId ∈ Table.bookings.ids db ∧
    ∀ row ∈ db.bookings, row.id = bookingId → row.status = .cancelled

/-- No enabled transaction revives a cancelled booking. -/
theorem Cancelled.step {db : Db} {call : Call} {transaction : Transaction} {bookingId : Nat}
    (cancelled : Cancelled bookingId db) (enabled : transaction.Enabled db call) :
    Cancelled bookingId (db.applyAll transaction.writes) := by
  refine ⟨known_applyAll _ cancelled.1, fun row member same => ?_⟩
  rw [Transaction.bookings_applyAll] at member
  have inserted : ∀ booking : Booking, booking.id ∉ Table.bookings.ids db →
      row ∈ db.bookings ++ [booking] → row.status = .cancelled := by
    intro booking fresh there
    rcases List.mem_append.mp there with old | new
    · exact cancelled.2 row old same
    · rw [List.mem_singleton] at new
      subst new
      rw [same] at fresh
      exact absurd cancelled.1 fresh
  cases enabled with
  | book caller fresh => exact inserted _ fresh member
  | hold fresh => exact inserted _ fresh member
  | @confirm args booking payment paidAt audit messages event there named held =>
      obtain ⟨origin, old, rfl⟩ := List.mem_map.mp member
      split at same
      · next updated =>
          rw [show (BookingChange.apply .confirm origin).id = origin.id from rfl, updated] at same
          rw [cancelled.2 booking there same] at held
          cases held
      · next untouched =>
          rw [if_neg untouched]
          exact cancelled.2 origin old same
  | free =>
      obtain ⟨origin, old, rfl⟩ := List.mem_map.mp member
      split
      · rfl
      · next untouched =>
          rw [if_neg untouched] at same
          exact cancelled.2 origin old same
  | refund => exact cancelled.2 row member same
  | note => exact cancelled.2 row member same
  | enroll => exact cancelled.2 row member same
  | clerk => exact cancelled.2 row member same
  | sweep => exact cancelled.2 row member same

/-! ## Every run -/

/-- **Bookings and payments agree in every committed state of every run**, and
what is cancelled stays cancelled. -/
theorem payments_agree_in_every_run (cfg : Settings) {db : Db} {nextId : Nat}
    (wellFormed : db.WellFormed nextId) (noPayments : db.bookingPayments = []) (clock : Instant)
    (redisTakes : Nat → Bool) {config : BookingConfig}
    (runs : BookingRun cfg (bookingStart db nextId clock redisTakes) config) :
    PaymentsAgree config.world.db config.world.journal ∧
      ∀ later, BookingRun cfg config later → ∀ booking ∈ config.world.db.bookings,
        booking.status = .cancelled → ∀ row ∈ later.world.db.bookings, row.id = booking.id →
          row.status = .cancelled := by
  have start := orderly_start cfg (fun _ => True) wellFormed trivial clock redisTakes
  have orderly := BookingRun.orderly lawful_true start runs
  constructor
  · refine (BookingRun.history lawful_true PaymentInvariant start runs ?_ ?_ ?_).agree
    · have none : ∀ payment, payment ∉ db.bookingPayments := by
        intro payment member
        rw [noPayments] at member
        cases member
      exact ⟨fun _ _ payment paid => absurd paid (none payment),
        fun _ _ payment paid => absurd paid (none payment),
        fun payment paid => absurd paid (none payment),
        fun payment paid => absurd paid (none payment), fun _ _ => ⟨rfl, rfl⟩⟩
    · exact fun _ _ _ same invariant => invariant.catalogue same
    · exact fun world call transaction consistent _ enabled invariant =>
        invariant.step consistent enabled
  · intro later more booking there cancelled row member same
    have kept : Cancelled booking.id later.world.db := by
      refine BookingRun.history lawful_true (fun db _ => Cancelled booking.id db) orderly
        more ?_ ?_ ?_
      · refine ⟨List.mem_map_of_mem there, fun other present sameId => ?_⟩
        rw [orderly.invariant.1.booking_unique present there sameId]
        exact cancelled
      · rintro before after journal unchanged ⟨known, each⟩
        refine ⟨?_, ?_⟩
        · rw [unchanged.ids]
          exact known
        · rw [unchanged.bookings]
          exact each
      · exact fun world call transaction _ _ enabled before => before.step enabled
    exact kept.2 row member same

/-! ## A run with a payment -/

def sampleSettings : Settings where
  bookingPaymentHoldMinutes := 15
  waitlistOfferTimeoutMinutes := 60
  bookingPublicBaseUrl := ""
  ivrSessionTtlMinutes := 10
  ivrSlotSearchDays := 7
  ivrMaxSlots := 5
  workerMaxRetries := 3
  workerReconciliationStaleMinutes := 15
  reminderLeadMinutes := 1440
  reminderMinAdvanceMinutes := 1440
  zoneInfo key := if key = "UTC" then some ⟨id, id⟩ else none
  sign _ _ := ""

theorem halfHour_pos : 0 < 30 := by decide

/-- A salon with one member of staff, one customer and one service that asks for
a deposit. -/
def sampleDb : Db :=
  { Db.empty with
    businesses := [⟨1, 1, "Salon", "UTC", "en", none, none, false, .businessPhone, .internalBooking,
      none, none⟩]
    customers := [⟨1, 1, 1, "+48100200300", "+48100200300", none⟩]
    services := [⟨1, 1, 1, "Haircut", 30, halfHour_pos, true, some "PLN", true, some 5000⟩]
    staff := [⟨1, 1, 1, "Anna", none, true⟩] }

theorem sampleDb_wellFormed : sampleDb.WellFormed 10 where
  keys := fun table => by cases table <;> decide
  below := fun table => by cases table <;> decide
  exclusion := by decide
  payments := by decide
  events := by decide

def sampleStart : BookingConfig := bookingStart sampleDb 10 0 fun _ => true

def sampleHold : Call :=
  .createPendingPaymentHold
    { tenantId := 1, businessId := 1, customerId := 1, serviceId := 1, staffId := some 1,
      startsAt := 0, provider := "stripe" }

/-- A hold is made and then confirmed. -/
def holdAndConfirm : List (Action Call) :=
  wholeCall 0 sampleHold 11 ++
    wholeCall 1 (.confirmBookingPayment { bookingId := 10, businessId := 1, tenantId := 1 }) 17

theorem holdAndConfirm_possible :
    (sampleStart.runActions (bookingMachine sampleSettings) holdAndConfirm).isSome = true := by
  decide +kernel

theorem payments_agree_after_confirmation :
    ∃ config, BookingRun sampleSettings sampleStart config ∧
      config.world.db.bookings.map (·.status) = [.confirmed] ∧
      config.world.db.bookingPayments.map (·.status) = [.succeeded] ∧
      PaymentsAgree config.world.db config.world.journal := by
  have runs := BookingRun.of_actions holdAndConfirm_possible
  refine ⟨_, runs, by decide +kernel, by decide +kernel, ?_⟩
  exact (payments_agree_in_every_run sampleSettings sampleDb_wellFormed rfl 0
    (fun _ => true) runs).1

end AppointmentVoice
