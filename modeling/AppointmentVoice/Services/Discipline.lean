import AppointmentVoice.Services.Transactions

/-!
# The discipline of the booking service

The machine on which any number of calls of the booking service run, and what
each of them promises the others: to touch only its own uncommitted writes and
its own locks, and to change the committed rows only by committing an enabled
transaction of the abstract level.  The invariant is the consistency of the
world, together with any law about the committed rows that enabled transactions
keep.

A session learns facts by reading, and keeps them while the others run because
it holds a lock (`Held`), because no transaction changes them under that lock
(`Due`, `NothingDue`), or because no transaction ever undoes them (`Known`,
`Settled`).
-/

set_option autoImplicit false

namespace AppointmentVoice

open Concurrency World

/-! ## Machine and discipline -/

/-- Starting and ending a call opens and closes its session.  The surroundings
let time pass, edit the catalogue and deliver jobs again. -/
def bookingMachine (cfg : Settings) : Machine Sql (World Call) Call AppError Reply where
  perform := perform cfg
  exec := execStmt
  enter pid world := world.release pid
  leave pid world := world.release pid
  ambient before after := ∃ db clock outside, before.clock ≤ clock ∧ SameLedger before.db db ∧
    before.outside.Drifts outside ∧ after = { before with db, clock, outside }

/-- What a step of a session does to the world. -/
structure Moves (pid : Pid) (before after : World Call) : Prop where
  own : OwnOnly pid before after
  ledger : (after.db = before.db ∧ after.journal = before.journal) ∨
    ∃ call transaction, before.writesOf pid = Transaction.writes transaction ∧
      transaction.Enabled before.db call ∧
      after.db = before.db.applyAll transaction.writes ∧
      after.journal = before.journal ++ [⟨call, transaction.writes⟩]

/-- A law about the committed rows that enabled transactions keep. -/
structure Lawful (law : Db → Prop) : Prop where
  commit : ∀ {db : Db} {call : Call} {transaction : Transaction},
    (∀ table : Table, (table.ids db).Nodup) → law db → transaction.Enabled db call →
      law (db.applyAll transaction.writes)
  catalogue : ∀ {before after : Db}, SameLedger before after → law before → law after

/-- The database is consistent and keeps a law of its rows, while the sessions move as their
locks let them. -/
def bookingDiscipline (law : Db → Prop) : Discipline (World Call) where
  invariant world := world.Consistent ∧ law world.db
  guarantee := Moves

section Facts

variable {cfg : Settings} {law : Db → Prop} {pid : Pid}

theorem Moves.quiet {before after : World Call} (own : OwnOnly pid before after)
    (db : after.db = before.db) (journal : after.journal = before.journal) :
    Moves pid before after :=
  ⟨own, .inl ⟨db, journal⟩⟩

/-! ## Facts -/

/-- A fact that a session can rely on: neither its own statements before the end
of the transaction nor anything the others do makes it false. -/
structure Fact (pid : Pid) (fact : World Call → Prop) : Prop where
  frame : ∀ {before after : World Call}, after.db = before.db →
    (∀ row, (row, pid) ∈ before.locks → (row, pid) ∈ after.locks) → fact before → fact after
  commit : ∀ {before after : World Call} {other : Pid} {call : Call} {transaction : Transaction},
    before.Consistent → other ≠ pid → before.writesOf other = transaction.writes →
      transaction.Enabled before.db call → after.db = before.db.applyAll transaction.writes →
      (∀ row, (row, pid) ∈ before.locks → (row, pid) ∈ after.locks) → fact before → fact after
  catalogue : ∀ {before after : World Call}, SameLedger before.db after.db →
    after.locks = before.locks → fact before → fact after

namespace Fact

theorem const (fact : Prop) : Fact pid fun _ => fact :=
  ⟨fun _ _ holds => holds, fun _ _ _ _ _ _ holds => holds, fun _ _ holds => holds⟩

theorem and {first second : World Call → Prop} (one : Fact pid first) (two : Fact pid second) :
    Fact pid fun world => first world ∧ second world where
  frame db locks holds := ⟨one.frame db locks holds.1, two.frame db locks holds.2⟩
  commit consistent different writes enabled db locks holds :=
    ⟨one.commit consistent different writes enabled db locks holds.1,
      two.commit consistent different writes enabled db locks holds.2⟩
  catalogue same locks holds := ⟨one.catalogue same locks holds.1, two.catalogue same locks holds.2⟩

theorem all {ι : Type} {facts : ι → World Call → Prop} (each : ∀ index, Fact pid (facts index)) :
    Fact pid fun world => ∀ index, facts index world where
  frame db locks holds index := (each index).frame db locks (holds index)
  commit consistent different writes enabled db locks holds index :=
    (each index).commit consistent different writes enabled db locks (holds index)
  catalogue same locks holds index := (each index).catalogue same locks (holds index)

theorem imp {premise : Prop} {fact : World Call → Prop} (each : premise → Fact pid fact) :
    Fact pid fun world => premise → fact world where
  frame db locks holds given := (each given).frame db locks (holds given)
  commit consistent different writes enabled db locks holds given :=
    (each given).commit consistent different writes enabled db locks (holds given)
  catalogue same locks holds given := (each given).catalogue same locks (holds given)

/-- Facts are stable. -/
theorem stable {fact : World Call → Prop} (factual : Fact pid fact) :
    (bookingDiscipline law).Stable (bookingMachine cfg) pid fact := by
  rintro before after
    ⟨⟨consistent, -⟩, -, ⟨other, different, moves⟩ | ⟨db, clock, outside, -, same, -, rfl⟩⟩ holds
  · have locks : ∀ row, (row, pid) ∈ before.locks → (row, pid) ∈ after.locks :=
      fun row => (moves.own.locks row pid (Ne.symm different)).mpr
    rcases moves.ledger with ⟨unchanged, -⟩ | ⟨call, transaction, writes, enabled, changed, -⟩
    · exact factual.frame unchanged locks holds
    · exact factual.commit consistent different writes enabled changed locks holds
  · exact factual.catalogue same rfl holds

end Fact

/-! ## Rows under a lock -/

/-- The session holds the lock of a booking and knows its committed row. -/
def Held (pid : Pid) (booking : Booking) (world : World Call) : Prop :=
  (.booking booking.id, pid) ∈ world.locks ∧ booking ∈ world.db.bookings

/-- The session holds the lock of a waitlist entry and knows its committed row. -/
def HeldEntry (pid : Pid) (entry : WaitlistEntry) (world : World Call) : Prop :=
  (.waitlistEntry entry.id, pid) ∈ world.locks ∧ entry ∈ world.db.waitlistEntries

theorem held_fact (booking : Booking) : Fact pid (Held pid booking) where
  frame db locks holds := ⟨locks _ holds.1, db ▸ holds.2⟩
  commit consistent different writes _ db locks holds := by
    refine ⟨locks _ holds.1, ?_⟩
    rw [db, ← writes]
    exact Db.mem_bookings_applyAll
      (fun change => consistent.untouched different holds.1 rfl) holds.2
  catalogue same locks holds := ⟨locks ▸ holds.1, same.bookings ▸ holds.2⟩

theorem heldEntry_fact (entry : WaitlistEntry) : Fact pid (HeldEntry pid entry) where
  frame db locks holds := ⟨locks _ holds.1, db ▸ holds.2⟩
  commit consistent different writes _ db locks holds := by
    refine ⟨locks _ holds.1, ?_⟩
    rw [db, ← writes]
    exact Db.mem_waitlist_applyAll
      (fun change => consistent.untouched different holds.1 rfl) holds.2
  catalogue same locks holds := ⟨locks ▸ holds.1, same.waitlistEntries ▸ holds.2⟩

/-! ## Payments of a locked booking -/

/-- An enabled transaction updates a payment that waits, together with its
booking, or refunds one that is settled. -/
theorem updatePayment_enabled {db : Db} {call : Call} {transaction : Transaction}
    (enabled : transaction.Enabled db call) {id : Nat} {change : PaymentChange}
    (member : Write.updatePayment id change ∈ transaction.writes) :
    (∃ booking, ∃ payment : BookingPayment, ∃ bookingChange, payment.Due db booking ∧
      payment.id = id ∧
        booking ∈ db.bookings ∧
        Write.updateBooking booking.id bookingChange ∈ transaction.writes) ∨
      ∃ paid refundedAt audit, transaction = .refund paid refundedAt audit ∧ paid.id = id ∧
        ∃ payment ∈ db.bookingPayments, payment.id = id ∧
          (payment.status = .succeeded ∨ payment.status = .refunded) := by
  cases enabled with
  | book => simp [Transaction.writes] at member
  | hold => simp [Transaction.writes] at member
  | @confirm args booking payment paidAt audit messages event there named held due =>
      simp only [Transaction.writes, List.cons_append, List.nil_append, List.mem_cons,
        Write.updatePayment.injEq, reduceCtorEq, List.mem_append, List.mem_map,
        List.not_mem_nil, or_false, and_false, exists_false] at member
      obtain ⟨rfl, -⟩ := member
      exact .inl ⟨booking, payment, .confirm, due, rfl, there, by simp [Transaction.writes]⟩
  | @free _ booking reason payment audit messages offer there frees due nothing offers =>
      refine .inl ?_
      cases payment with
      | none =>
          cases offer <;> simp [Transaction.writes, failWrites, Offer.writes?,
            Offer.writes] at member
      | some payment =>
          have same : id = payment.id := by
            cases offer <;>
              simp [Transaction.writes, failWrites, Offer.writes?, Offer.writes] at member <;>
              exact member.1
          exact ⟨booking, payment, .cancel reason, due payment rfl, same.symm, there,
            by simp [Transaction.writes]⟩
  | @refund args paid refundedAt audit settled =>
      simp only [Transaction.writes, List.mem_cons, Write.updatePayment.injEq, reduceCtorEq,
        List.not_mem_nil, or_false] at member
      obtain ⟨rfl, -⟩ := member
      exact .inr ⟨paid, refundedAt, audit, rfl, rfl, settled⟩
  | note => simp [Transaction.writes] at member
  | enroll => simp [Transaction.writes] at member
  | sweep =>
      simp only [Transaction.writes, List.mem_flatMap] at member
      obtain ⟨round, -, member⟩ := member
      cases given : round.offer <;>
        simp [Round.writes, Offer.writes?, Offer.writes, given] at member
  | @clerk _ _ clerical => cases clerical _ member

/-- An enabled transaction inserts a payment only for a booking that is new. -/
theorem insertPayment_enabled {db : Db} {call : Call} {transaction : Transaction}
    (enabled : transaction.Enabled db call) {payment : BookingPayment}
    (member : Write.insertPayment payment ∈ transaction.writes) :
    payment.bookingId ∉ Table.bookings.ids db := by
  cases enabled with
  | book => simp [Transaction.writes] at member
  | hold fresh freshPayment held pending ofBooking =>
      simp only [Transaction.writes, List.mem_cons, Write.insertPayment.injEq, reduceCtorEq,
        false_or, List.not_mem_nil, or_false] at member
      subst member
      rw [ofBooking]
      exact fresh
  | confirm => simp [Transaction.writes] at member
  | @free _ _ _ payment _ _ offer =>
      cases payment <;> cases offer <;>
        simp [Transaction.writes, failWrites, Offer.writes?, Offer.writes] at member
  | refund => simp [Transaction.writes] at member
  | note => simp [Transaction.writes] at member
  | enroll => simp [Transaction.writes] at member
  | sweep =>
      simp only [Transaction.writes, List.mem_flatMap] at member
      obtain ⟨round, -, member⟩ := member
      cases given : round.offer <;>
        simp [Round.writes, Offer.writes?, Offer.writes, given] at member
  | @clerk _ _ clerical => cases clerical _ member

/-- The payment of a locked booking that waits for it to be settled. -/
def HeldDue (pid : Pid) (booking : Booking) (payment : BookingPayment)
    (world : World Call) : Prop :=
  Held pid booking world ∧ payment.Due world.db booking

/-- A locked booking without a payment that waits. -/
def HeldNothingDue (pid : Pid) (booking : Booking) (world : World Call) : Prop :=
  Held pid booking world ∧ booking.NothingDue world.db

/-- No other session's transaction updates a payment that waits for a booking
under this session's lock. -/
theorem due_untouched {world : World Call} (consistent : world.Consistent) {other : Pid}
    (different : other ≠ pid) {call : Call} {transaction : Transaction}
    (writes : world.writesOf other = transaction.writes)
    (enabled : transaction.Enabled world.db call) {booking : Booking} {payment : BookingPayment}
    (held : Held pid booking world) (due : payment.Due world.db booking) (change : PaymentChange) :
    Write.updatePayment payment.id change ∉ transaction.writes := by
  intro member
  rcases updatePayment_enabled enabled member with
    ⟨theirs, paid, bookingChange, dueToThem, same, there, changed⟩ |
    ⟨-, -, -, -, -, paid, there, same, settled⟩
  · have equal := consistent.payment_unique dueToThem.there due.there same
    subst equal
    have sameBooking : theirs.id = booking.id := dueToThem.ofBooking.symm.trans due.ofBooking
    rw [sameBooking, ← writes] at changed
    exact consistent.untouched different held.1 rfl changed
  · have equal := consistent.payment_unique there due.there same
    subst equal
    rw [due.pending] at settled
    rcases settled with settled | settled <;> cases settled

theorem heldDue_fact (booking : Booking) (payment : BookingPayment) :
    Fact pid (HeldDue pid booking payment) where
  frame db locks holds := ⟨(held_fact booking).frame db locks holds.1, db ▸ holds.2⟩
  commit consistent different writes enabled db locks holds := by
    refine ⟨(held_fact booking).commit consistent different writes enabled db locks holds.1, ?_⟩
    refine ⟨?_, holds.2.pending, holds.2.ofBooking, holds.2.tenant⟩
    rw [db]
    exact Db.mem_payments_applyAll
      (due_untouched consistent different writes enabled holds.1 holds.2) holds.2.there
  catalogue same locks holds :=
    ⟨(held_fact booking).catalogue same locks holds.1,
      same.bookingPayments ▸ holds.2.there, holds.2.pending, holds.2.ofBooking, holds.2.tenant⟩

/-- No change of a payment makes it wait. -/
theorem PaymentChange.not_pending (change : PaymentChange) (payment : BookingPayment) :
    (change.apply payment).status ≠ .pending := by
  cases change <;> exact nofun

theorem heldNothingDue_fact (booking : Booking) : Fact pid (HeldNothingDue pid booking) where
  frame db locks holds := ⟨(held_fact booking).frame db locks holds.1, db ▸ holds.2⟩
  commit consistent different writes enabled db locks holds := by
    refine ⟨(held_fact booking).commit consistent different writes enabled db locks holds.1, ?_⟩
    rintro payment ⟨there, pending, ofBooking, tenant⟩
    rw [db] at there
    obtain ⟨origin, source, -, sameBooking, sameTenant, ⟨change, version, -, equal⟩ | equal⟩ :=
      Db.mem_applyAll_payments there
    · rw [equal] at pending
      exact change.not_pending version pending
    · subst equal
      rcases source with old | inserted
      · exact holds.2 payment ⟨old, pending, ofBooking, tenant⟩
      · refine insertPayment_enabled enabled inserted ?_
        rw [ofBooking]
        exact List.mem_map_of_mem holds.1.2
  catalogue same locks holds :=
    ⟨(held_fact booking).catalogue same locks holds.1, fun payment due =>
      holds.2 payment ⟨same.bookingPayments ▸ due.there, due.pending, due.ofBooking, due.tenant⟩⟩

/-! ## Facts that nothing undoes -/

/-- The booking with this key is committed. -/
def Known (bookingId : Nat) (world : World Call) : Prop :=
  bookingId ∈ Table.bookings.ids world.db

/-- The payment with this key has succeeded, and may have been refunded. -/
def Settled (paymentId : Nat) (world : World Call) : Prop :=
  ∃ row ∈ world.db.bookingPayments, row.id = paymentId ∧
    (row.status = .succeeded ∨ row.status = .refunded)

theorem known_applyAll {db : Db} {bookingId : Nat} (writes : List Write)
    (known : bookingId ∈ Table.bookings.ids db) :
    bookingId ∈ Table.bookings.ids (db.applyAll writes) := by
  rw [Table.ids_applyAll]
  exact List.mem_append_left _ known

theorem known_fact (bookingId : Nat) : Fact pid (Known bookingId) where
  frame db _ holds := by
    rw [Known, db]
    exact holds
  commit _ _ _ _ db _ holds := by
    rw [Known, db]
    exact known_applyAll _ holds
  catalogue same _ holds := by
    rw [Known, same.ids]
    exact holds

/-- An enabled transaction touches a settled payment only to refund it. -/
theorem settled_applyAll {db : Db} {call : Call} {transaction : Transaction}
    (keys : (Table.bookingPayments.ids db).Nodup) (enabled : transaction.Enabled db call)
    {payment : BookingPayment} (there : payment ∈ db.bookingPayments)
    (settled : payment.status = .succeeded ∨ payment.status = .refunded) :
    ∃ row ∈ (db.applyAll transaction.writes).bookingPayments, row.id = payment.id ∧
      (row.status = .succeeded ∨ row.status = .refunded) := by
  by_cases touched : ∃ change, Write.updatePayment payment.id change ∈ transaction.writes
  · obtain ⟨change, member⟩ := touched
    rcases updatePayment_enabled enabled member with
      ⟨booking, paid, bookingChange, due, same, -⟩ | ⟨paid, refundedAt, audit, rfl, same, -⟩
    · have equal : paid = payment := List.inj_on_of_nodup_map keys due.there there same
      rw [← equal, due.pending] at settled
      rcases settled with settled | settled <;> cases settled
    · refine ⟨(PaymentChange.refund refundedAt).apply payment, ?_, rfl, .inr rfl⟩
      simp only [Transaction.writes, Db.applyAll_cons, Db.applyAll_nil, Db.apply, List.mem_map]
      exact ⟨payment, there, if_pos same.symm⟩
  · exact ⟨payment, Db.mem_payments_applyAll (fun change member => touched ⟨change, member⟩) there,
      rfl, settled⟩

theorem settled_fact (paymentId : Nat) : Fact pid (Settled paymentId) where
  frame db _ holds := by
    rw [Settled, db]
    exact holds
  commit consistent _ _ enabled db _ holds := by
    obtain ⟨row, there, same, settled⟩ := holds
    rw [Settled, db, ← same]
    exact settled_applyAll (consistent.ids_nodup _) enabled there settled
  catalogue same _ holds := by
    rw [Settled, same.bookingPayments]
    exact holds

end Facts

end AppointmentVoice
