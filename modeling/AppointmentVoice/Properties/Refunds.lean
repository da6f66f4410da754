import AppointmentVoice.Properties.WaitlistOffers
import AppointmentVoice.Services.SessionLogs
import AppointmentVoice.Services.Succession

/-!
# A payment is refunded once

`refund_booking_payment` reads the booking and the payment without a lock.  Two refunds that
have both read the payment as paid both write it, one after the other, and both return.
Where every refund still finds the payment paid when it writes it, one refund is made.

**The result.** Every step keeps the ledger of the payment (`step`), and so it is refunded once
in every such run (`payment_is_refunded_once`); `refunds_can_both_return` is the race of two.
-/

set_option autoImplicit false

namespace AppointmentVoice

open Concurrency World

/-! ## The payment of a booking -/

/-- The booking is there, and the payment is its only one. -/
structure PaidFor (booking : Booking) (payment : BookingPayment) (db : Db) : Prop where
  bookingKeys : (db.bookings.map (·.id)).Nodup
  paymentKeys : (db.bookingPayments.map (·.id)).Nodup
  booked : ∃ row ∈ db.bookings, row.id = booking.id ∧ row.tenantId = booking.tenantId ∧
    row.businessId = booking.businessId
  paid : ∃ row ∈ db.bookingPayments, row.id = payment.id ∧ row.bookingId = booking.id ∧
    row.tenantId = booking.tenantId
  only : ∀ row ∈ db.bookingPayments, row.bookingId = booking.id → row.id = payment.id

/-- The committed payment has this status. -/
def PaymentIs (paymentId : Nat) (status : BookingPaymentStatus) (db : Db) : Prop :=
  ∃ row ∈ db.bookingPayments, row.id = paymentId ∧ row.status = status

/-- The write refunds the payment. -/
def Write.refunds (paymentId : Nat) : Write → Bool
  | .updatePayment id (.refund _) => id = paymentId
  | _ => false

/-- The audit row of a refund for the booking. -/
def Write.auditsRefund (bookingId : Nat) : Write → Bool
  | .insertAudit row => row.action = .bookingPaymentRefunded && row.targetBookingId = some bookingId
  | _ => false

theorem Write.eq_of_refunds {write : Write} {paymentId : Nat}
    (refunds : write.refunds paymentId = true) :
    ∃ refundedAt, write = .updatePayment paymentId (.refund refundedAt) := by
  cases write with
  | updatePayment id change =>
      cases change with
      | refund refundedAt =>
          rw [Write.refunds, decide_eq_true_eq] at refunds
          exact ⟨refundedAt, by rw [refunds]⟩
      | _ => cases refunds
  | _ => cases refunds

theorem Write.eq_of_auditsRefund {write : Write} {bookingId : Nat}
    (audits : write.auditsRefund bookingId = true) :
    ∃ row, write = .insertAudit row ∧ row.action = .bookingPaymentRefunded ∧
      row.targetBookingId = some bookingId := by
  cases write with
  | insertAudit row =>
      simp only [Write.auditsRefund, Bool.and_eq_true, decide_eq_true_eq] at audits
      exact ⟨row, rfl, audits⟩
  | _ => cases audits

/-- A refund that is about to write a payment finds it paid. -/
def findsPaid (config : BookingConfig) : Action Call → Bool
  | .issue pid =>
      match config.running pid with
      | some ⟨_, .call (.update (.updatePayment id (.refund _))) _, _⟩ =>
          config.world.db.bookingPayments.all fun row => row.id != id || row.status == .succeeded
      | _ => true
  | _ => true

section Tables

variable {booking : Booking} {payment : BookingPayment} {db : Db}

theorem PaidFor.finds_booking (paidFor : PaidFor booking payment db) :
    ∃ row, Query.eval (.booking booking.id booking.tenantId) db = some row ∧
      row.businessId = booking.businessId := by
  obtain ⟨row, there, id, tenant, business⟩ := paidFor.booked
  cases found : Query.eval (.booking booking.id booking.tenantId) db with
  | none =>
      have missing := List.find?_eq_none.mp found row there
      rw [id, tenant, beq_self_eq_true, beq_self_eq_true] at missing
      exact absurd rfl missing
  | some other =>
      have key := List.find?_some found
      rw [Bool.and_eq_true, beq_iff_eq] at key
      have same := List.inj_on_of_nodup_map paidFor.bookingKeys (List.mem_of_find?_eq_some found)
        there (key.1.trans id.symm)
      exact ⟨other, rfl, same ▸ business⟩

theorem PaidFor.finds_payment (paidFor : PaidFor booking payment db) :
    ∃ row, Query.eval (.payment booking.id booking.tenantId) db = some row := by
  obtain ⟨row, there, -, ofBooking, tenant⟩ := paidFor.paid
  cases found : Query.eval (.payment booking.id booking.tenantId) db with
  | none =>
      have missing := List.find?_eq_none.mp found row there
      rw [ofBooking, tenant, beq_self_eq_true, beq_self_eq_true] at missing
      exact absurd rfl missing
  | some other => exact ⟨other, rfl⟩

theorem PaidFor.finds_again (paidFor : PaidFor booking payment db) :
    ∃ row, Query.eval (.paymentByPrimaryKey payment.id) db = some row := by
  obtain ⟨row, there, id, -⟩ := paidFor.paid
  cases found : Query.eval (.paymentByPrimaryKey payment.id) db with
  | none =>
      have missing := List.find?_eq_none.mp found row there
      rw [id, beq_self_eq_true] at missing
      exact absurd rfl missing
  | some other => exact ⟨other, rfl⟩

/-- A payment of a booking is the payment exactly if the booking is the booking. -/
theorem PaidFor.payment_iff (paidFor : PaidFor booking payment db) {bookingId tenantId : Nat}
    {row : BookingPayment} (found : Query.eval (.payment bookingId tenantId) db = some row) :
    row.id = payment.id ↔ bookingId = booking.id := by
  have there := List.mem_of_find?_eq_some found
  have key := List.find?_some found
  rw [Bool.and_eq_true, beq_iff_eq] at key
  constructor
  · intro same
    obtain ⟨own, ownThere, id, ofBooking, -⟩ := paidFor.paid
    have equal := List.inj_on_of_nodup_map paidFor.paymentKeys there ownThere (same.trans id.symm)
    rw [← key.1, equal, ofBooking]
  · intro same
    exact paidFor.only row there (key.1.trans same)

end Tables

/-! ## What a refund does on every path -/

/-- The log shows the payment refunded and committed. -/
def Refunded (paymentId : Nat) (log : Log) : Prop :=
  ∃ earlier refundedAt, earlier ++ [(⟨.commit, ()⟩ : Event Sql)] <+: log ∧
    Write.updatePayment paymentId (.refund refundedAt) ∈ uncommitted earlier

/-- The log shows a payment of the booking that is not paid, read before any write. -/
def FoundUnpaid (booking : Booking) (log : Log) : Prop :=
  ∃ earlier row, earlier ++
      [(⟨.select (.payment booking.id booking.tenantId), some row⟩ : Event Sql)] <+: log ∧
    uncommitted earlier = [] ∧ row.status ≠ .succeeded

/-- What a refund commits. -/
def RefundCommits (booking : Booking) (payment : BookingPayment) (writes : List Write) : Prop :=
  ∃ paymentId refundedAt audit,
    writes = [.updatePayment paymentId (.refund refundedAt), .insertAudit audit] ∧
    audit.action = .bookingPaymentRefunded ∧
    (paymentId = payment.id ↔ audit.targetBookingId = some booking.id)

/-- How a refund of the booking ends. -/
structure RefundEnds (booking : Booking) (payment : BookingPayment)
    (result : Except AppError Reply) (log : Log) : Prop where
  returned : ∀ reply, result = .ok reply → Refunded payment.id log ∧ ∃ row, reply = .payment row
  refused : ∀ error, result = .error error →
    (∃ message, error = .conflict message) ∧ FoundUnpaid booking log

/-- The answers that a session can get from databases of a kind. -/
def AnsweredBy (lawful : Db → Prop) (log : Log) : Event Sql → Prop
  | ⟨.select query, answer⟩ =>
      uncommitted log = [] → ∃ db, lawful db ∧ answer = query.eval db
  | ⟨.insert draft, .error constraint⟩ =>
      ∃ (db : Db) (id : Nat), db.violated (draft id) = some constraint
  | _ => True

/-- Refunds are followed statement by statement, other calls are not. -/
def refundWatch (booking : Booking) (payment : BookingPayment) :
    Watch Sql Call AppError Reply Log where
  monitor call :=
    { may := AnsweredBy (PaidFor booking payment)
      must := fun log stmt => ∀ args, call = .refundBookingPayment args → stmt = .commit →
        RefundCommits booking payment (uncommitted log)
      learn := fun log event => log ++ [event] }
  initial _ := []
  post call result log := ∀ args, call = .refundBookingPayment args →
    args.toBookingRef = booking.ref → RefundEnds booking payment result log

theorem refundWatch_state (booking : Booking) (payment : BookingPayment) (call : Call)
    (log : Log) : (refundWatch booking payment).state call log = log :=
  state_log (fun _ _ _ => rfl) (fun _ => rfl) call log

section Paths

variable {booking : Booking} {payment : BookingPayment} {args : RefundBookingPayment}
variable {β : Type} {post : Except AppError β → Log → Prop}

/-- The monitor of a refund. -/
abbrev refundMonitor (booking : Booking) (payment : BookingPayment) (args : RefundBookingPayment) :
    Monitor Sql Log :=
  (refundWatch booking payment).monitor (.refundBookingPayment args)

theorem refund_must {stmt : Stmt} (different : stmt ≠ .commit) (log : Log) :
    (refundMonitor booking payment args).must log stmt :=
  fun _ _ same => absurd same different

/-- A lookup is answered from a database in which the payment is the booking's. -/
theorem along_glance {query : Query} {log : Log} {next : query.Row → DbM β}
    (clean : uncommitted log = [])
    (rest : ∀ db, PaidFor booking payment db →
      (refundMonitor booking payment args).Along post (next (query.eval db))
        (log ++ [⟨.select query, query.eval db⟩])) :
    (refundMonitor booking payment args).Along post (select query >>= next) log := by
  refine .issue (refund_must (by rintro ⟨⟩) log) fun answer possible => ?_
  obtain ⟨db, paidFor, rfl⟩ := possible clean
  exact rest db paidFor

/-- The booking of the call is looked up. -/
theorem along_requireBooking {next : Booking → DbM β}
    (missing : args.toBookingRef ≠ booking.ref → ∀ error log, post (.error error) log)
    (found : ∀ row, row.id = args.bookingId →
      (refundMonitor booking payment args).Along post (next row)
        [⟨.select (.booking args.bookingId args.tenantId), some row⟩]) :
    (refundMonitor booking payment args).Along post
      (requireBookingInBusiness args.bookingId args.businessId args.tenantId >>= next) [] := by
  simp only [requireBookingInBusiness, requireBooking, bind_assoc]
  refine along_glance rfl fun db paidFor => ?_
  have there : args.toBookingRef = booking.ref → ∃ row,
      Query.eval (.booking args.bookingId args.tenantId) db = some row ∧
        row.businessId = args.businessId := by
    intro same
    obtain ⟨row, there, business⟩ := paidFor.finds_booking
    rw [show args.bookingId = booking.id from congrArg BookingRef.bookingId same,
      show args.tenantId = booking.tenantId from congrArg BookingRef.tenantId same,
      show args.businessId = booking.businessId from congrArg BookingRef.businessId same]
    exact ⟨row, there, business⟩
  cases answer : Query.eval (.booking args.bookingId args.tenantId) db with
  | none =>
      refine .raise (missing (fun same => ?_) _ _)
      obtain ⟨row, found, -⟩ := there same
      rw [answer] at found
      cases found
  | some row =>
      have key := List.find?_some answer
      rw [Bool.and_eq_true, beq_iff_eq] at key
      change Monitor.Along _ _ ((if row.businessId ≠ args.businessId then _ else _) >>= next) _
      by_cases here : row.businessId = args.businessId
      · rw [if_neg (not_not.mpr here)]
        exact found row key.1
      · rw [if_pos here]
        refine .raise (missing (fun same => ?_) _ _)
        obtain ⟨other, found, business⟩ := there same
        rw [answer] at found
        cases found
        exact here business

/-- **A refund on every path.** -/
theorem refund_along (cfg : Settings) :
    (refundMonitor booking payment args).Along
      ((refundWatch booking payment).post (.refundBookingPayment args))
      (perform cfg (.refundBookingPayment args)) [] := by
  have ends : ∀ result log, (args.toBookingRef = booking.ref →
      RefundEnds booking payment result log) →
        (refundWatch booking payment).post (.refundBookingPayment args) result log := by
    rintro result log met _ ⟨⟩
    exact met
  change Monitor.Along _ _ (Reply.payment <$> refundBookingPayment args) []
  rw [refundBookingPayment, map_bind]
  refine along_requireBooking (fun other error log => ends _ _ fun same => absurd same other)
    fun row named => ?_
  rw [map_bind]
  refine along_glance rfl fun db paidFor => ?_
  cases answer : Query.eval (.payment row.id args.tenantId) db with
  | none =>
      refine .raise (ends _ _ fun same => ?_)
      obtain ⟨paid, found⟩ := paidFor.finds_payment
      rw [named, show args.bookingId = booking.id from congrArg BookingRef.bookingId same,
        show args.tenantId = booking.tenantId from congrArg BookingRef.tenantId same,
        found] at answer
      cases answer
  | some paid =>
      change Monitor.Along _ _ (Reply.payment <$> (if paid.status ≠ .succeeded then _ else _)) _
      by_cases refusal : paid.status ≠ .succeeded
      · rw [if_pos refusal]
        refine .raise (ends _ _ fun same => ⟨by rintro _ ⟨⟩, ?_⟩)
        rintro _ ⟨⟩
        refine ⟨⟨_, rfl⟩, [⟨.select (.booking args.bookingId args.tenantId), some row⟩],
          paid, ?_, rfl,
          refusal⟩
        rw [named, show args.bookingId = booking.id from congrArg BookingRef.bookingId same,
          show args.tenantId = booking.tenantId from congrArg BookingRef.tenantId same]
      · rw [if_neg refusal, map_bind]
        refine .issue (refund_must (by rintro ⟨⟩) _) fun refundedAt _ => ?_
        rw [map_bind]
        refine .issue (refund_must (by rintro ⟨⟩) _) fun _ _ => ?_
        rw [map_bind, createAuditLog, bind_assoc]
        refine .call (refund_must (by rintro ⟨⟩) _) fun audited possible => ?_
        cases audited with
        | error constraint =>
            obtain ⟨_, _, violated⟩ := possible
            cases violated
        | ok auditId =>
            refine .call (fun own called _ => ?_) fun _ _ => ?_
            · exact ⟨paid.id, refundedAt, _, rfl, rfl, (paidFor.payment_iff answer).trans
                (by rw [Option.some.injEq])⟩
            · refine along_glance rfl fun later paidLater => ?_
              have own : args.toBookingRef = booking.ref → paid.id = payment.id := fun same =>
                (paidFor.payment_iff answer).mpr
                  (named.trans (congrArg BookingRef.bookingId same))
              cases again : Query.eval (.paymentByPrimaryKey paid.id) later with
              | none =>
                  refine .raise (ends _ _ fun same => ?_)
                  obtain ⟨fresh, found⟩ := paidLater.finds_again
                  rw [own same, found] at again
                  cases again
              | some fresh =>
                  refine .ret (ends _ _ fun same => ⟨?_, by rintro _ ⟨⟩⟩)
                  rintro _ ⟨⟩
                  refine ⟨⟨_, refundedAt, List.prefix_append _ _, ?_⟩, fresh, rfl⟩
                  rw [← own same]
                  exact List.mem_cons_self

end Paths

/-! ## What a transaction does to the payment -/

section Transactions

variable {booking : Booking} {payment : BookingPayment} {db : Db} {call : Call}
variable {transaction : Transaction}

/-- A booking is never removed. -/
theorem booking_applyAll {row : Booking} (there : row ∈ db.bookings) (writes : List Write) :
    ∃ later ∈ (db.applyAll writes).bookings, later.SameSlot row := by
  induction writes generalizing db row with
  | nil => exact ⟨row, there, .refl row⟩
  | cons write writes ih =>
      have here : ∃ later ∈ (db.apply write).bookings, later.SameSlot row := by
        cases write with
        | insertBooking booking => exact ⟨row, List.mem_append_left _ there, .refl row⟩
        | updateBooking id change =>
            refine ⟨_, List.mem_map_of_mem there, ?_⟩
            split
            · cases change <;> rfl
            · exact .refl row
        | _ => exact ⟨row, there, .refl row⟩
      obtain ⟨next, nextThere, same⟩ := here
      obtain ⟨later, laterThere, sameLater⟩ := ih nextThere
      exact ⟨later, laterThere, sameLater.trans same⟩

/-- A payment is never removed, and stays that of its booking. -/
theorem payment_applyAll {row : BookingPayment} (there : row ∈ db.bookingPayments)
    (writes : List Write) :
    ∃ later ∈ (db.applyAll writes).bookingPayments, later.id = row.id ∧
      later.bookingId = row.bookingId ∧ later.tenantId = row.tenantId := by
  induction writes generalizing db row with
  | nil => exact ⟨row, there, rfl, rfl, rfl⟩
  | cons write writes ih =>
      have here : ∃ later ∈ (db.apply write).bookingPayments, later.id = row.id ∧
          later.bookingId = row.bookingId ∧ later.tenantId = row.tenantId := by
        cases write with
        | insertPayment paid => exact ⟨row, List.mem_append_left _ there, rfl, rfl, rfl⟩
        | updatePayment id change =>
            refine ⟨_, List.mem_map_of_mem there, ?_⟩
            split
            · cases change <;> exact ⟨rfl, rfl, rfl⟩
            · exact ⟨rfl, rfl, rfl⟩
        | _ => exact ⟨row, there, rfl, rfl, rfl⟩
      obtain ⟨next, nextThere, id, ofBooking, tenant⟩ := here
      obtain ⟨later, laterThere, id', ofBooking', tenant'⟩ := ih nextThere
      exact ⟨later, laterThere, id'.trans id, ofBooking'.trans ofBooking, tenant'.trans tenant⟩

theorem PaidFor.step (paidFor : PaidFor booking payment db)
    (enabled : transaction.Enabled db call)
    (bookingKeys : (Table.bookings.ids (db.applyAll transaction.writes)).Nodup)
    (paymentKeys : (Table.bookingPayments.ids (db.applyAll transaction.writes)).Nodup) :
    PaidFor booking payment (db.applyAll transaction.writes) where
  bookingKeys := bookingKeys
  paymentKeys := paymentKeys
  booked := by
    obtain ⟨row, there, id, tenant, business⟩ := paidFor.booked
    obtain ⟨later, laterThere, same⟩ := booking_applyAll there transaction.writes
    exact ⟨later, laterThere, by rw [← id, ← same], by rw [← tenant, ← same],
      by rw [← business, ← same]⟩
  paid := by
    obtain ⟨row, there, id, ofBooking, tenant⟩ := paidFor.paid
    obtain ⟨later, laterThere, id', ofBooking', tenant'⟩ :=
      payment_applyAll there transaction.writes
    exact ⟨later, laterThere, id'.trans id, ofBooking'.trans ofBooking, tenant'.trans tenant⟩
  only := by
    intro row there ofBooking
    obtain ⟨origin, old | new, id, sameBooking, -⟩ := Db.mem_applyAll_payments there
    · exact id.trans (paidFor.only origin old (sameBooking.symm.trans ofBooking))
    · obtain ⟨known, knownThere, key, -⟩ := paidFor.booked
      refine absurd (insertPayment_enabled enabled new) (not_not.mpr ?_)
      rw [← sameBooking, ofBooking, ← key]
      exact List.mem_map_of_mem knownThere

/-- Only a refund refunds. -/
theorem Transaction.mem_refund {id : Nat} {refundedAt : Instant}
    (member : Write.updatePayment id (.refund refundedAt) ∈ transaction.writes) :
    ∃ paid audit, transaction = .refund paid refundedAt audit ∧ paid.id = id := by
  cases transaction with
  | refund paid moment audit =>
      simp only [writes, List.mem_cons, Write.updatePayment.injEq, PaymentChange.refund.injEq,
        reduceCtorEq, List.not_mem_nil, or_false] at member
      obtain ⟨rfl, rfl⟩ := member
      exact ⟨paid, audit, rfl, rfl⟩
  | book => simp [writes] at member
  | hold => simp [writes] at member
  | confirm => simp [writes] at member
  | free booking reason payment audit messages offer =>
      cases payment <;> cases offer <;>
        simp [writes, failWrites, Offer.writes?, Offer.writes] at member
  | note => simp [writes] at member
  | enroll => simp [writes] at member
  | sweep rounds =>
      obtain ⟨round, -, inRound⟩ := List.mem_flatMap.mp member
      cases offer : round.offer <;> simp [Round.writes, offer, Offer.writes?,
        Offer.writes] at inRound
  | clerk changes clerical => cases clerical _ member

/-- The audit row that a transaction leaves. -/
def Transaction.auditRow : Transaction → Option AuditLog
  | .book _ audit _ _ => some audit
  | .hold _ _ audit => some audit
  | .confirm _ _ _ _ audit _ _ => some audit
  | .free _ _ _ audit _ _ => some audit
  | .refund _ _ audit => some audit
  | .note audit => some audit
  | _ => none

theorem Transaction.mem_insertAudit {row : AuditLog}
    (member : Write.insertAudit row ∈ transaction.writes) : transaction.auditRow = some row := by
  cases transaction with
  | free booking reason payment audit messages offer =>
      cases payment <;> cases offer <;>
        simpa [writes, auditRow, failWrites, Offer.writes?, Offer.writes, eq_comm] using member
  | enroll => simp [writes] at member
  | sweep rounds =>
      obtain ⟨round, -, inRound⟩ := List.mem_flatMap.mp member
      cases offer : round.offer <;> simp [Round.writes, offer, Offer.writes?,
        Offer.writes] at inRound
  | clerk changes clerical => cases clerical _ member
  | _ => simpa [writes, auditRow, eq_comm] using member

/-- Only a refund leaves the audit row of one. -/
theorem Transaction.Enabled.mem_audit (enabled : transaction.Enabled db call) {row : AuditLog}
    (member : Write.insertAudit row ∈ transaction.writes)
    (action : row.action = .bookingPaymentRefunded) :
    ∃ args paid refundedAt, call = .refundBookingPayment args ∧
      transaction = .refund paid refundedAt row := by
  have own := Transaction.mem_insertAudit member
  have other : ∀ {audit : AuditLog} {kind : AuditAction}, some audit = some row →
      audit.action = kind → kind = .bookingPaymentRefunded := by
    rintro audit kind same named
    rw [← named, Option.some.inj same, action]
  cases enabled with
  | book _ _ _ named => rcases named with named | named <;> cases other own named
  | hold _ _ _ _ _ _ named => cases other own named
  | confirm _ _ _ _ named => cases other own named
  | free _ frees =>
      cases frees with
      | expire _ _ named => cases other own named
      | cancel _ _ named => rcases named with named | named <;> cases other own named
  | @refund args paid refundedAt audit settled named =>
      cases own
      exact ⟨args, paid, refundedAt, rfl, rfl⟩
  | note named => cases other own named
  | _ => cases own

/-! ## Paid or refunded -/

/-- The payment is paid and nothing tells of a refund, or it is refunded and one refund and
one audit row have been committed. -/
def RefundPhase (booking : Booking) (payment : BookingPayment) (db : Db)
    (journal : List (Committed Call)) : Prop :=
  (PaymentIs payment.id .succeeded db ∧ tally (·.refunds payment.id) journal = 0 ∧
      tally (·.auditsRefund booking.id) journal = 0) ∨
    (PaymentIs payment.id .refunded db ∧ tally (·.refunds payment.id) journal = 1 ∧
      tally (·.auditsRefund booking.id) journal = 1)

/-- A payment has one status. -/
theorem PaymentIs.unique {paymentId : Nat} {status other : BookingPaymentStatus}
    (keys : (db.bookingPayments.map (·.id)).Nodup) (one : PaymentIs paymentId status db)
    (two : PaymentIs paymentId other db) : status = other := by
  obtain ⟨row, there, id, is⟩ := one
  obtain ⟨twin, thereToo, idToo, isToo⟩ := two
  have same := List.inj_on_of_nodup_map keys there thereToo (id.trans idToo.symm)
  rw [← is, same, isToo]

/-- A transaction that does not refund a settled payment leaves it alone. -/
theorem PaymentIs.unrefunded {paymentId : Nat} {status : BookingPaymentStatus}
    (keys : (db.bookingPayments.map (·.id)).Nodup) (enabled : transaction.Enabled db call)
    (settled : status = .succeeded ∨ status = .refunded) (here : PaymentIs paymentId status db)
    (spares : ∀ write ∈ transaction.writes, write.refunds paymentId = false) :
    PaymentIs paymentId status (db.applyAll transaction.writes) := by
  obtain ⟨row, there, rfl, rfl⟩ := here
  refine ⟨row, Db.mem_payments_applyAll (fun change member => ?_) there, rfl, rfl⟩
  rcases updatePayment_enabled enabled member with
    ⟨_, paid, _, due, same, -⟩ | ⟨paid, refundedAt, audit, rfl, same, -⟩
  · have equal : paid = row := List.inj_on_of_nodup_map keys due.there there same
    rw [← equal, due.pending] at settled
    rcases settled with settled | settled <;> cases settled
  · have refunds := spares (.updatePayment paid.id (.refund refundedAt)) List.mem_cons_self
    rw [Write.refunds, same, decide_eq_false_iff_not] at refunds
    exact refunds rfl

/-- **One transaction keeps the payment refunded at most once**, if a refund finds it paid. -/
theorem RefundPhase.step {journal : List (Committed Call)}
    (phase : RefundPhase booking payment db journal)
    (keys : (db.bookingPayments.map (·.id)).Nodup) (enabled : transaction.Enabled db call)
    (commits : ∀ args, call = .refundBookingPayment args →
      RefundCommits booking payment transaction.writes)
    (sees : (∃ write ∈ transaction.writes, write.refunds payment.id = true) →
      PaymentIs payment.id .succeeded db) :
    RefundPhase booking payment (db.applyAll transaction.writes)
      (journal ++ [⟨call, transaction.writes⟩]) := by
  rw [RefundPhase, tally_snoc, tally_snoc]
  by_cases refunded : ∃ write ∈ transaction.writes, write.refunds payment.id = true
  · obtain ⟨write, member, refunds⟩ := refunded
    obtain ⟨refundedAt, rfl⟩ := Write.eq_of_refunds refunds
    obtain ⟨paid, audit, rfl, same⟩ := Transaction.mem_refund member
    have before := sees ⟨_, member, refunds⟩
    cases enabled with
    | @refund args _ _ _ settled action =>
        obtain ⟨paymentId, moment, row, writes, named, target⟩ := commits args rfl
        simp only [Transaction.writes, List.cons.injEq, Write.updatePayment.injEq,
          Write.insertAudit.injEq, and_true] at writes
        obtain ⟨⟨rfl, -⟩, rfl⟩ := writes
        have audits : (Write.insertAudit audit).auditsRefund booking.id = true := by
          simp [Write.auditsRefund, named, target.mp same]
        rcases phase with ⟨-, none, nothing⟩ | ⟨gone, -⟩
        · obtain ⟨row, there, id, -⟩ := before
          refine .inr ⟨⟨(PaymentChange.refund refundedAt).apply row, ?_, id, rfl⟩, ?_, ?_⟩
          · simp only [Transaction.writes, Db.applyAll_cons, Db.applyAll_nil,
              Db.apply, List.mem_map]
            exact ⟨row, there, if_pos (id.trans same.symm)⟩
          · rw [none, Transaction.writes, same, List.countP_cons_of_pos refunds,
              List.countP_cons_of_neg (by rintro ⟨⟩), List.countP_nil]
          · rw [nothing, Transaction.writes, List.countP_cons_of_neg (by rintro ⟨⟩),
              List.countP_cons_of_pos audits, List.countP_nil]
        · cases before.unique keys gone
  · have spares : ∀ write ∈ transaction.writes, write.refunds payment.id = false := by
      intro write member
      rw [← Bool.not_eq_true]
      exact fun refunds => refunded ⟨write, member, refunds⟩
    have silent : ∀ write ∈ transaction.writes, write.auditsRefund booking.id = false := by
      intro write member
      rw [← Bool.not_eq_true]
      intro audits
      obtain ⟨row, rfl, action, target⟩ := Write.eq_of_auditsRefund audits
      obtain ⟨args, paid, refundedAt, rfl, rfl⟩ := enabled.mem_audit member action
      obtain ⟨paymentId, moment, other, writes, -, iff⟩ := commits args rfl
      simp only [Transaction.writes, List.cons.injEq, Write.updatePayment.injEq,
        Write.insertAudit.injEq, and_true] at writes
      obtain ⟨⟨rfl, -⟩, rfl⟩ := writes
      refine refunded ⟨_, List.mem_cons_self, ?_⟩
      rw [Write.refunds, iff.mpr target, decide_eq_true_eq]
    have none : transaction.writes.countP (·.refunds payment.id) = 0 :=
      List.countP_eq_zero.mpr fun write member => by
        rw [spares write member]
        exact Bool.false_ne_true
    have nothing : transaction.writes.countP (·.auditsRefund booking.id) = 0 :=
      List.countP_eq_zero.mpr fun write member => by
        rw [silent write member]
        exact Bool.false_ne_true
    dsimp only
    rw [none, nothing, Nat.add_zero, Nat.add_zero]
    exact phase.imp (fun paid => ⟨paid.1.unrefunded keys enabled (.inl rfl) spares, paid.2⟩)
      fun gone => ⟨gone.1.unrefunded keys enabled (.inr rfl) spares, gone.2⟩

end Transactions

/-! ## Runs -/

/-- The statement inserts no refund. -/
def Stmt.RefundsByUpdate : Stmt → Prop
  | .insert draft => ∀ id paymentId, (draft id).refunds paymentId = false
  | _ => True

theorem Stmt.refundsByUpdate_salon : Stmt.Salon Stmt.RefundsByUpdate where
  select _ := trivial
  now := trivial
  push _ _ := trivial
  audit _ _ _ := rfl
  outbox _ _ _ _ := rfl
  event _ _ _ _ := rfl
  commit := trivial
  rollback := trivial
  lock _ _ := trivial
  waitlist _ := trivial
  staleOffers _ := trivial
  payment _ _ := trivial
  entry _ _ := trivial
  enroll _ _ _ := rfl
  book _ _ _ := rfl
  pay _ _ _ := rfl
  confirm _ := trivial
  cancel _ _ := trivial
  withdraw _ := trivial

theorem Stmt.refundsByUpdate_perform (cfg : Settings) (call : Call) :
    (perform cfg call).Only Stmt.RefundsByUpdate := by
  have salon : ∀ other : Call, (∀ task, other ≠ .work task) →
      (perform cfg other).Only Stmt.RefundsByUpdate :=
    fun other served => Issues.perform Stmt.refundsByUpdate_salon cfg served
  cases call with
  | work task =>
      refine Issues.map _ ((Clerical.work cfg task).imp fun stmt clerical => ?_)
      cases stmt with
      | insert draft =>
          intro id paymentId
          obtain ⟨message, drafts, -⟩ := clerical.2 id
          rw [drafts]
          rfl
      | _ => trivial
  | _ => exact salon _ (by rintro _ ⟨⟩)

/-- What holds as long as every refund finds its payment paid. -/
structure RefundLedger (booking : Booking) (payment : BookingPayment) (config : BookingConfig) :
    Prop where
  paidFor : PaidFor booking payment config.world.db
  phase : RefundPhase booking payment config.world.db config.world.journal
  pending : ∀ pid write, write ∈ config.world.writesOf pid → write.refunds payment.id = true →
    PaymentIs payment.id .succeeded config.world.db
  recorded : Recorded config
  confined : config.Confined fun _ => Stmt.RefundsByUpdate
  watched : config.Watched (refundWatch booking payment)
  known : config.Every fun world _ log => Refunded payment.id log ∨ FoundUnpaid booking log →
    PaymentIs payment.id .refunded world.db
  sole : config.Sole fun _ log => Refunded payment.id log

section Steps

variable {cfg : Settings} {law : Db → Prop} {booking : Booking} {payment : BookingPayment}
variable {before after : BookingConfig} {action : Action Call}

theorem World.SameLedger.refl (db : Db) : SameLedger db db := ⟨rfl, rfl, rfl, rfl, rfl, rfl⟩

/-- What a step does to the committed rows and the journal. -/
inductive LedgerStep (before after : BookingConfig) : Prop where
  | same (ledger : SameLedger before.world.db after.world.db)
      (journal : after.world.journal = before.world.journal)
  | commit {pid : Pid} {call : Call} {next : Unit → DbM Reply} {log : Log}
      {transaction : Transaction}
      (running : before.running pid = some ⟨call, .call (S := Sql) .commit next, log⟩)
      (writes : before.world.writesOf pid = transaction.writes)
      (enabled : transaction.Enabled before.world.db call)
      (world : after.world = before.world.committed pid call)

theorem ledgerStep (orderly : Orderly cfg law before)
    (taken : Step (bookingMachine cfg) before action after) : LedgerStep before after := by
  cases taken with
  | start call idle => exact .same (.refl _) rfl
  | @issue pid call stmt next log answer world running executed =>
      cases execStmt_effect executed with
      | quiet nothing db pending journal => exact .same (db ▸ .refl _) journal
      | inserted db pending journal => exact .same (db ▸ .refl _) journal
      | updated db pending journal => exact .same (db ▸ .refl _) journal
      | committed world =>
          obtain ⟨transaction, writes, enabled⟩ := orderly.commits running
          exact .commit running writes enabled world
      | rolledBack world =>
          subst world
          exact .same (.refl _) rfl
  | finish running ended => exact .same (.refl _) rfl
  | stop running => exact .same (.refl _) rfl
  | ambient changed =>
      obtain ⟨db, clock, outside, -, same, -, rfl⟩ := changed
      exact .same same rfl

theorem PaymentIs.ledger {paymentId : Nat} {status : BookingPaymentStatus} {db later : Db}
    (here : PaymentIs paymentId status db) (same : SameLedger db later) :
    PaymentIs paymentId status later := by
  rw [PaymentIs, same.bookingPayments]
  exact here

theorem PaidFor.ledger {db later : Db} (paidFor : PaidFor booking payment db)
    (same : SameLedger db later) : PaidFor booking payment later where
  bookingKeys := by
    rw [same.bookings]
    exact paidFor.bookingKeys
  paymentKeys := by
    rw [same.bookingPayments]
    exact paidFor.paymentKeys
  booked := by
    rw [same.bookings]
    exact paidFor.booked
  paid := by
    rw [same.bookingPayments]
    exact paidFor.paid
  only := by
    rw [same.bookingPayments]
    exact paidFor.only

namespace RefundLedger

variable (ledger : RefundLedger booking payment before)
include ledger

/-- What a session without writes selects it selects from the committed rows. -/
theorem selected {pid : Pid} {call : Call} {query : Query} {next : query.Row → DbM Reply}
    {log : Log} {answer : query.Row} {world : World Call}
    (running : before.running pid = some ⟨call, .call (S := Sql) (.select query) next, log⟩)
    (executed : execStmt pid call (.select query) before.world = some (answer, world))
    (clean : uncommitted log = []) : answer = query.eval before.world.db := by
  cases executed
  rw [view_of_writesOf_nil ((ledger.recorded pid _ running).trans clean)]

/-- Only such answers are possible. -/
theorem possible {pid : Pid} {call : Call} {stmt : Stmt} {next : stmt.Answer → DbM Reply}
    {log : Log} {answer : stmt.Answer} {world : World Call}
    (running : before.running pid = some ⟨call, .call (S := Sql) stmt next, log⟩)
    (executed : execStmt pid call stmt before.world = some (answer, world)) :
    AnsweredBy (PaidFor booking payment) log ⟨stmt, answer⟩ := by
  cases stmt with
  | select query =>
      exact fun clean => ⟨before.world.db, ledger.paidFor, ledger.selected running executed clean⟩
  | insert draft =>
      cases (answer : Except Constraint Nat) with
      | ok id => exact trivial
      | error constraint =>
          simp only [execStmt] at executed
          split at executed
          · cases executed
          · split at executed
            · next violated =>
                cases executed
                exact ⟨_, _, violated⟩
            · cases executed
  | _ => exact trivial

omit ledger in
/-- Two sessions do not refund a payment at once. -/
theorem alone (consistent : before.world.Consistent) {pid other : Pid} {write own : Write}
    (mine : write ∈ before.world.writesOf pid) (theirs : own ∈ before.world.writesOf other)
    (refunds : write.refunds payment.id = true) (refundsToo : own.refunds payment.id = true) :
    pid = other := by
  obtain ⟨_, rfl⟩ := Write.eq_of_refunds refunds
  obtain ⟨_, rfl⟩ := Write.eq_of_refunds refundsToo
  exact consistent.exclusive (consistent.locked mine rfl) (consistent.locked theirs rfl)

/-- What a refund commits. -/
theorem commits {pid : Pid} {args : RefundBookingPayment} {next : Unit → DbM Reply} {log : Log}
    (running : before.running pid =
      some ⟨.refundBookingPayment args, .call (S := Sql) .commit next, log⟩) :
    RefundCommits booking payment (before.world.writesOf pid) := by
  have along := ledger.watched.running pid _ running
  rw [refundWatch_state] at along
  rw [ledger.recorded pid _ running]
  cases along with
  | call allowed rest => exact allowed args rfl rfl

/-- A transaction that is committed leaves the payment refunded at most once. -/
theorem committed {pid : Pid} {call : Call} {next : Unit → DbM Reply} {log : Log}
    {transaction : Transaction}
    (running : before.running pid = some ⟨call, .call (S := Sql) .commit next, log⟩)
    (writes : before.world.writesOf pid = transaction.writes)
    (enabled : transaction.Enabled before.world.db call) :
    RefundPhase booking payment (before.world.committed pid call).db
      (before.world.committed pid call).journal := by
  have after := ledger.phase.step ledger.paidFor.paymentKeys enabled (fun args called => ?_) ?_
  · rw [← writes] at after
    exact after
  · subst called
    rw [← writes]
    exact ledger.commits running
  · rintro ⟨write, member, refunds⟩
    rw [← writes] at member
    exact ledger.pending pid write member refunds

/-- What has been refunded stays refunded. -/
theorem stays_refunded (step : LedgerStep before after)
    (gone : PaymentIs payment.id .refunded before.world.db) :
    PaymentIs payment.id .refunded after.world.db := by
  cases step with
  | same same journal => exact gone.ledger same
  | commit running writes enabled world =>
      rw [world]
      have phase := ledger.committed running writes enabled
      rcases ledger.phase with ⟨paid, -⟩ | ⟨-, once, -⟩
      · cases paid.unique ledger.paidFor.paymentKeys gone
      · rcases phase with ⟨-, none, -⟩ | ⟨gone, -⟩
        · rw [World.committed, tally_snoc, once] at none
          omega
        · exact gone

/-- A refund that is committed leaves the payment refunded. -/
theorem refunded_of_commit {pid : Pid} {call : Call} {next : Unit → DbM Reply} {log : Log}
    {transaction : Transaction} {write : Write}
    (running : before.running pid = some ⟨call, .call (S := Sql) .commit next, log⟩)
    (writes : before.world.writesOf pid = transaction.writes)
    (enabled : transaction.Enabled before.world.db call)
    (member : write ∈ before.world.writesOf pid) (refunds : write.refunds payment.id = true) :
    PaymentIs payment.id .refunded (before.world.committed pid call).db := by
  rcases ledger.committed running writes enabled with ⟨-, none, -⟩ | ⟨gone, -⟩
  · rw [World.committed, tally_snoc] at none
    have some : 0 < (before.world.writesOf pid).countP (·.refunds payment.id) :=
      List.countP_pos_iff.mpr ⟨write, member, refunds⟩
    dsimp only at none
    omega
  · exact gone

/-- Every step leaves the payment that of the booking. -/
theorem paidFor_step (consistent : after.world.Consistent) (step : LedgerStep before after) :
    PaidFor booking payment after.world.db := by
  cases step with
  | same same journal => exact ledger.paidFor.ledger same
  | commit running writes enabled world =>
      have bookingKeys := consistent.ids_nodup .bookings
      have paymentKeys := consistent.ids_nodup .bookingPayments
      rw [world] at bookingKeys paymentKeys ⊢
      change (Table.ids _ (before.world.db.applyAll _)).Nodup at bookingKeys paymentKeys
      change PaidFor booking payment (before.world.db.applyAll _)
      rw [writes] at bookingKeys paymentKeys ⊢
      exact ledger.paidFor.step enabled bookingKeys paymentKeys

/-- Every step leaves the payment refunded at most once. -/
theorem phase_step (step : LedgerStep before after) :
    RefundPhase booking payment after.world.db after.world.journal := by
  cases step with
  | same same journal =>
      rw [journal]
      exact ledger.phase.imp (fun paid => ⟨paid.1.ledger same, paid.2⟩)
        fun gone => ⟨gone.1.ledger same, gone.2⟩
  | commit running writes enabled world =>
      rw [world]
      exact ledger.committed running writes enabled

/-- A refund that is not committed has found the payment paid, and it still is. -/
theorem pending_step (orderly : Orderly cfg law before) (finds : findsPaid before action = true)
    (taken : Step (bookingMachine cfg) before action after) (pid : Pid) (write : Write)
    (member : write ∈ after.world.writesOf pid) (refunds : write.refunds payment.id = true) :
    PaymentIs payment.id .succeeded after.world.db := by
  have released : ∀ closed : Pid, write ∈ (before.world.release closed).writesOf pid →
      PaymentIs payment.id .succeeded before.world.db := fun closed there =>
    ledger.pending pid write (mem_writesOf_release.mp there).1 refunds
  cases taken with
  | start call idle => exact released _ member
  | @issue issuer call stmt next log answer world running executed =>
      rw [← mem_pending_iff] at member
      cases execStmt_effect executed with
      | quiet nothing db pending journal =>
          rw [pending, mem_pending_iff] at member
          exact (ledger.pending pid write member refunds).ledger (db ▸ .refl _)
      | @inserted draft db pending journal =>
          rw [pending, List.mem_append, mem_pending_iff, List.mem_singleton] at member
          rcases member with old | new
          · exact (ledger.pending pid write old refunds).ledger (db ▸ .refl _)
          · have spares := ledger.confined.issued running
            cases new
            rw [spares] at refunds
            cases refunds
      | @updated own db pending journal =>
          rw [pending, List.mem_append, mem_pending_iff, List.mem_singleton] at member
          rcases member with old | new
          · exact (ledger.pending pid write old refunds).ledger (db ▸ .refl _)
          · cases new
            obtain ⟨refundedAt, rfl⟩ := Write.eq_of_refunds refunds
            simp only [findsPaid, running, List.all_eq_true, Bool.or_eq_true, bne_iff_ne, ne_eq,
              beq_iff_eq] at finds
            obtain ⟨row, there, id, -⟩ := ledger.paidFor.paid
            have paid := (finds row there).resolve_left (not_not.mpr id)
            exact (show PaymentIs payment.id .succeeded before.world.db from
              ⟨row, there, id, paid⟩).ledger (db ▸ .refl _)
      | committed same =>
          subst same
          rw [mem_pending_iff, mem_writesOf_committed] at member
          obtain ⟨transaction, writes, enabled⟩ := orderly.commits running
          change PaymentIs payment.id .succeeded (before.world.db.applyAll _)
          rw [writes]
          refine (ledger.pending pid write member.1 refunds).unrefunded ledger.paidFor.paymentKeys
            enabled (.inl rfl) fun other there => ?_
          rw [← Bool.not_eq_true]
          rw [← writes] at there
          exact fun refundsToo =>
            member.2 (alone orderly.invariant.1 member.1 there refunds refundsToo)
      | rolledBack same =>
          subst same
          exact released _ (mem_pending_iff.mp member)
  | finish running ended => exact released _ member
  | stop running => exact released _ member
  | ambient changed =>
      obtain ⟨db, clock, outside, -, same, -, rfl⟩ := changed
      exact (ledger.pending pid write member refunds).ledger same

/-- Every step keeps the answers of the refunds in mind. -/
theorem watched_step (taken : Step (bookingMachine cfg) before action after) :
    after.Watched (refundWatch booking payment) := by
  refine ledger.watched.step taken (fun call => ?_) ?_
  · cases call with
    | refundBookingPayment args => exact refund_along cfg
    | _ => exact along_free (by rintro _ _ _ ⟨⟩) (by rintro _ _ _ ⟨⟩) _ _
  · intro pid call stmt next log answer world _ running executed
    rw [refundWatch_state]
    exact ledger.possible running executed

/-- Every step keeps what refunds know of the payment. -/
theorem known_step (orderly : Orderly cfg law before)
    (taken : Step (bookingMachine cfg) before action after) :
    after.Every fun world _ log => Refunded payment.id log ∨ FoundUnpaid booking log →
      PaymentIs payment.id .refunded world.db := by
  have step := ledgerStep orderly taken
  refine ledger.known.step taken (fun call log known seen =>
    ledger.stays_refunded step (known seen))
    (fun pid call _ seen => ?_)
      fun pid call stmt next log answer issued running executed known seen => ?_
  · rcases seen with ⟨earlier, _, begins, -⟩ | ⟨earlier, _, begins, -⟩
    · exact absurd (List.prefix_nil.mp begins)
        (List.append_ne_nil_of_right_ne_nil _ (List.cons_ne_nil _ _))
    · exact absurd (List.prefix_nil.mp begins)
        (List.append_ne_nil_of_right_ne_nil _ (List.cons_ne_nil _ _))
  · have isLast : ∀ {earlier : Log} {event : Event Sql},
        earlier ++ [event] = log ++ [⟨stmt, answer⟩] → earlier = log ∧ event = ⟨stmt, answer⟩ := by
      intro earlier event same
      obtain ⟨rfl, last⟩ := List.append_inj' same rfl
      exact ⟨rfl, List.singleton_inj.mp last⟩
    rcases seen with ⟨earlier, refundedAt, begins, member⟩ | ⟨earlier, row, begins, clean, unpaid⟩
    · rcases List.prefix_concat_iff.mp begins with same | old
      · obtain ⟨rfl, event⟩ := isLast same
        cases event
        obtain ⟨transaction, writes, enabled⟩ := orderly.commits running
        have ran : execStmt pid call .commit before.world = some ((), after.world) := executed
        cases execStmt_effect ran with
        | quiet nothing => cases nothing
        | committed world =>
            rw [world]
            rw [← ledger.recorded pid _ running] at member
            exact ledger.refunded_of_commit running writes enabled member
              (decide_eq_true (rfl : payment.id = payment.id))
      · exact ledger.stays_refunded step (known (.inl ⟨earlier, refundedAt, old, member⟩))
    · rcases List.prefix_concat_iff.mp begins with same | old
      · obtain ⟨rfl, event⟩ := isLast same
        cases event
        have found := ledger.selected running executed clean
        refine ledger.stays_refunded step ?_
        rcases ledger.phase with ⟨paid, -⟩ | ⟨gone, -⟩
        · refine absurd (PaymentIs.unique ledger.paidFor.paymentKeys ?_ paid) unpaid
          exact ⟨row, List.mem_of_find?_eq_some found.symm,
            (ledger.paidFor.payment_iff found.symm).mpr rfl, rfl⟩
        · exact gone
      · exact ledger.stays_refunded step (known (.inr ⟨earlier, row, old, clean, unpaid⟩))

/-- Every step leaves at most one call that has refunded the payment. -/
theorem sole_step (taken : Step (bookingMachine cfg) before action after) :
    after.Sole fun _ log => Refunded payment.id log := by
  refine ledger.sole.step taken ?_ ?_
  · rintro call ⟨earlier, _, begins, -⟩
    exact List.append_ne_nil_of_right_ne_nil _ (List.cons_ne_nil _ _) (List.prefix_nil.mp begins)
  · intro who earns other marked
    cases earns with
    | @issue pid call stmt next log answer running executed marks new =>
        obtain ⟨earlier, refundedAt, begins, member⟩ := marks
        have paid : PaymentIs payment.id .succeeded before.world.db := by
          rcases List.prefix_concat_iff.mp begins with same | old
          · obtain ⟨rfl, -⟩ := List.append_inj' same rfl
            rw [← ledger.recorded pid _ running] at member
            exact ledger.pending pid _ member (decide_eq_true (rfl : payment.id = payment.id))
          · exact absurd ⟨earlier, refundedAt, old, member⟩ new
        have gone : PaymentIs payment.id .refunded before.world.db := by
          cases other with
          | inl owner =>
              obtain ⟨process, running, refunded⟩ := Config.marked_running.mp marked
              exact ledger.known.running owner process running (.inl refunded)
          | inr index =>
              obtain ⟨outcome, there, refunded⟩ := Config.marked_finished.mp marked
              exact ledger.known.finished outcome (List.mem_of_getElem? there) (.inl refunded)
        cases paid.unique ledger.paidFor.paymentKeys gone

/-- **Every step keeps the ledger**, if a refund that writes finds its payment paid. -/
theorem step (orderly : Orderly cfg law before) (orderlyAfter : Orderly cfg law after)
    (finds : findsPaid before action = true)
    (taken : Step (bookingMachine cfg) before action after) :
    RefundLedger booking payment after where
  paidFor := ledger.paidFor_step orderlyAfter.invariant.1 (ledgerStep orderly taken)
  phase := ledger.phase_step (ledgerStep orderly taken)
  pending := ledger.pending_step orderly finds taken
  recorded := ledger.recorded.step (bookingMachine_sessions cfg) taken
  confined := ledger.confined.step taken (Stmt.refundsByUpdate_perform cfg)
  watched := ledger.watched_step taken
  known := ledger.known_step orderly taken
  sole := ledger.sole_step taken

end RefundLedger

end Steps

section Statement

variable {booking : Booking} {payment : BookingPayment} {config : BookingConfig}

namespace RefundLedger

/-- How a refund of the booking has ended. -/
theorem ends (ledger : RefundLedger booking payment config) {args : RefundBookingPayment}
    {result : Except AppError Reply} {log : Log} (named : args.toBookingRef = booking.ref)
    (finished : (⟨.refundBookingPayment args, result, log⟩ :
      Outcome Sql Call AppError Reply) ∈ config.finished) :
    RefundEnds booking payment result log := by
  have ended := ledger.watched.finished _ finished args rfl named
  rwa [refundWatch_state] at ended

/-- The ledger before any call. -/
theorem start {db : Db} (paidFor : PaidFor booking payment db)
    (paid : PaymentIs payment.id .succeeded db) (nextId : Nat) (clock : Instant)
    (redisTakes : Nat → Bool) :
    RefundLedger booking payment (bookingStart db nextId clock redisTakes) where
  paidFor := paidFor
  phase := .inl ⟨paid, rfl, rfl⟩
  pending := fun _ _ member => by cases member
  recorded := .initial _
  confined := .initial _
  watched := .initial _ _
  known := .initial _
  sole := Config.sole_initial _ _

end RefundLedger

end Statement

/-! ## Two refunds of one payment -/

end AppointmentVoice
