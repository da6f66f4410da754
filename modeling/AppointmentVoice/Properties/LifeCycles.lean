import AppointmentVoice.Properties.WaitlistOffers

/-!
# Records move along their life cycles

Bookings, payments and waitlist entries each have a life cycle: a booking waits
for its payment, is confirmed, and is cancelled; a payment is settled or fails,
and may be refunded; an entry waits, is offered a slot, and its offer expires.
Whatever calls run at once, a committed record stays in its table under its key,
its status only moves along its life cycle, and what was agreed with the customer
never changes.  The audit trail only grows at its end.

What a record may become is a relation between two versions of it.  A transaction
takes every record to a version that it may become, and so does a whole run.

**The result.** `Transaction.Enabled.becomes` for one transaction, and for every run
`records_move_along_their_life_cycles`.
-/

set_option autoImplicit false

namespace AppointmentVoice

open Concurrency World Relation

/-! ## Life cycles -/

inductive BookingStatus.Leads : BookingStatus → BookingStatus → Prop where
  | confirm : Leads .pendingPayment .confirmed
  | giveUp : Leads .pendingPayment .cancelled
  | cancel : Leads .confirmed .cancelled

inductive BookingPaymentStatus.Leads : BookingPaymentStatus → BookingPaymentStatus → Prop where
  | succeed : Leads .pending .succeeded
  | fail : Leads .pending .failed
  | refund : Leads .succeeded .refunded

inductive WaitlistEntryStatus.Leads : WaitlistEntryStatus → WaitlistEntryStatus → Prop where
  | offer : Leads .waiting .offered
  | expire : Leads .offered .expired

/-- A payment that has been settled stays so. -/
theorem BookingPaymentStatus.settled_of_path {first second : BookingPaymentStatus}
    (path : ReflTransGen Leads first second) (settled : first = .succeeded ∨ first = .refunded) :
    second = .succeeded ∨ second = .refunded := by
  induction path with
  | refl => exact settled
  | tail _ leads ih =>
      cases leads with
      | succeed => exact .inl rfl
      | fail => rcases ih with ih | ih <;> cases ih
      | refund => exact .inr rfl

/-- An entry that has been offered a slot does not wait again. -/
theorem WaitlistEntryStatus.moved_of_path {first second : WaitlistEntryStatus}
    (path : ReflTransGen Leads first second) (moved : first ≠ .waiting) : second ≠ .waiting := by
  induction path with
  | refl => exact moved
  | tail _ leads ih => cases leads <;> exact nofun

/-! ## Versions of a record -/

/-- The appointment stays, the status moves, and a cancelled booking is as it is. -/
structure Booking.Becomes (row later : Booking) : Prop where
  appointment : later.SameSlot row
  path : ReflTransGen BookingStatus.Leads row.status later.status
  final : row.status = .cancelled → later = row

/-- The amount and the booking it is for stay, the status moves, the receipt of a settled
payment stays, and a failed payment is as it is. -/
structure BookingPayment.Becomes (row later : BookingPayment) : Prop where
  terms : { later with
    status := row.status
    providerPaymentId := row.providerPaymentId
    failureReason := row.failureReason
    paidAt := row.paidAt
    refundedAt := row.refundedAt } = row
  path : ReflTransGen BookingPaymentStatus.Leads row.status later.status
  receipt : row.status = .succeeded ∨ row.status = .refunded →
    later.providerPaymentId = row.providerPaymentId ∧ later.paidAt = row.paidAt
  final : row.status = .failed → later = row

/-- The wish stays, the status moves, the slot that was offered stays, and an entry whose
offer has expired is as it is. -/
structure WaitlistEntry.Becomes (row later : WaitlistEntry) : Prop where
  wish : { later with
    status := row.status
    offeredForStaffId := row.offeredForStaffId
    updatedAt := row.updatedAt } = row
  path : ReflTransGen WaitlistEntryStatus.Leads row.status later.status
  offered : row.status ≠ .waiting → later.offeredForStaffId = row.offeredForStaffId
  final : row.status ≠ .waiting → row.status ≠ .offered → later = row

/-- The text and its receiver stay. -/
def NotificationOutbox.Becomes (row later : NotificationOutbox) : Prop :=
  { later with
    status := row.status
    attempts := row.attempts
    lastError := row.lastError
    providerMessageId := row.providerMessageId
    sentAt := row.sentAt
    reconciledAt := row.reconciledAt } = row

/-- The booking that the event is for stays. -/
def CalendarEvent.Becomes (row later : CalendarEvent) : Prop :=
  { later with
    providerEventId := row.providerEventId
    status := row.status
    attempts := row.attempts
    cancelAttempts := row.cancelAttempts
    lastError := row.lastError
    syncedAt := row.syncedAt
    reconciledAt := row.reconciledAt } = row

namespace Booking.Becomes

variable {row version later : Booking}

theorem refl (row : Booking) : row.Becomes row := ⟨.refl row, .refl, fun _ => rfl⟩

theorem trans (first : row.Becomes version) (second : version.Becomes later) :
    row.Becomes later where
  appointment := second.appointment.trans first.appointment
  path := first.path.trans second.path
  final cancelled := by
    have same := first.final cancelled
    rw [second.final (same ▸ cancelled), same]

end Booking.Becomes

namespace BookingPayment.Becomes

variable {row version later : BookingPayment}

theorem refl (row : BookingPayment) : row.Becomes row :=
  ⟨rfl, .refl, fun _ => ⟨rfl, rfl⟩, fun _ => rfl⟩

theorem trans (first : row.Becomes version) (second : version.Becomes later) :
    row.Becomes later where
  terms := by
    have one := first.terms
    rw [← second.terms] at one
    exact one
  path := first.path.trans second.path
  receipt settled := by
    obtain ⟨provider, paid⟩ := first.receipt settled
    obtain ⟨provider', paid'⟩ :=
      second.receipt (BookingPaymentStatus.settled_of_path first.path settled)
    exact ⟨provider'.trans provider, paid'.trans paid⟩
  final failed := by
    have same := first.final failed
    rw [second.final (same ▸ failed), same]

end BookingPayment.Becomes

namespace WaitlistEntry.Becomes

variable {row version later : WaitlistEntry}

theorem refl (row : WaitlistEntry) : row.Becomes row := ⟨rfl, .refl, fun _ => rfl, fun _ _ => rfl⟩

theorem trans (first : row.Becomes version) (second : version.Becomes later) :
    row.Becomes later where
  wish := by
    have one := first.wish
    rw [← second.wish] at one
    exact one
  path := first.path.trans second.path
  offered moved :=
    (second.offered (WaitlistEntryStatus.moved_of_path first.path moved)).trans
      (first.offered moved)
  final moved closed := by
    have same := first.final moved closed
    rw [second.final (same ▸ moved) (same ▸ closed), same]

end WaitlistEntry.Becomes

theorem NotificationOutbox.Becomes.refl (row : NotificationOutbox) : row.Becomes row := rfl

theorem CalendarEvent.Becomes.refl (row : CalendarEvent) : row.Becomes row := rfl

theorem NotificationOutbox.Becomes.trans {row version later : NotificationOutbox}
    (first : row.Becomes version) (second : version.Becomes later) : row.Becomes later := by
  have one := first
  rw [Becomes, ← second] at one
  exact one

theorem CalendarEvent.Becomes.trans {row version later : CalendarEvent}
    (first : row.Becomes version) (second : version.Becomes later) : row.Becomes later := by
  have one := first
  rw [Becomes, ← second] at one
  exact one

/-! ## Tables and their later versions -/

section Lasting

variable {α : Type} {becomes : α → α → Prop} {rows middle later : List α}

/-- Every row of a table has a version in a later state of the table. -/
def Lasting (becomes : α → α → Prop) (rows later : List α) : Prop :=
  ∀ row ∈ rows, ∃ version ∈ later, becomes row version

theorem Lasting.refl (refl : ∀ row, becomes row row) (rows : List α) : Lasting becomes rows rows :=
  fun row member => ⟨row, member, refl row⟩

theorem Lasting.trans
    (compose : ∀ {row version last : α}, becomes row version → becomes version last →
      becomes row last)
    (first : Lasting becomes rows middle) (second : Lasting becomes middle later) :
    Lasting becomes rows later := by
  intro row member
  obtain ⟨version, there, one⟩ := first row member
  obtain ⟨last, here, two⟩ := second version there
  exact ⟨last, here, compose one two⟩

theorem Lasting.insert (refl : ∀ row, becomes row row) (rows : List α) (row : α) :
    Lasting becomes rows (rows ++ [row]) :=
  fun row member => ⟨row, List.mem_append_left _ member, refl row⟩

/-- An update takes the rows that it names to a version that they may become. -/
theorem Lasting.update {key : α → Nat} {id : Nat} {change : α → α} (refl : ∀ row, becomes row row)
    (moves : ∀ row ∈ rows, key row = id → becomes row (change row)) :
    Lasting becomes rows (rows.map fun row => if key row = id then change row else row) := by
  intro row member
  refine ⟨_, List.mem_map_of_mem member, ?_⟩
  by_cases named : key row = id
  · rw [if_pos named]
    exact moves row member named
  · rw [if_neg named]
    exact refl row

end Lasting

/-- Every record of the ledger has a later version, and the audit trail has only grown. -/
structure Db.Becomes (before after : Db) : Prop where
  bookings : Lasting Booking.Becomes before.bookings after.bookings
  payments : Lasting BookingPayment.Becomes before.bookingPayments after.bookingPayments
  waitlist : Lasting WaitlistEntry.Becomes before.waitlistEntries after.waitlistEntries
  messages : Lasting NotificationOutbox.Becomes before.notificationOutbox after.notificationOutbox
  events : Lasting CalendarEvent.Becomes before.calendarEvents after.calendarEvents
  audits : before.auditLogs <+: after.auditLogs

namespace Db.Becomes

variable {before middle after : Db}

theorem refl (db : Db) : db.Becomes db where
  bookings := .refl Booking.Becomes.refl _
  payments := .refl BookingPayment.Becomes.refl _
  waitlist := .refl WaitlistEntry.Becomes.refl _
  messages := .refl NotificationOutbox.Becomes.refl _
  events := .refl CalendarEvent.Becomes.refl _
  audits := List.prefix_rfl

theorem trans (first : before.Becomes middle) (second : middle.Becomes after) :
    before.Becomes after where
  bookings := .trans Booking.Becomes.trans first.bookings second.bookings
  payments := .trans BookingPayment.Becomes.trans first.payments second.payments
  waitlist := .trans WaitlistEntry.Becomes.trans first.waitlist second.waitlist
  messages := .trans NotificationOutbox.Becomes.trans first.messages second.messages
  events := .trans CalendarEvent.Becomes.trans first.events second.events
  audits := first.audits.trans second.audits

/-- An edit of the catalogue leaves the ledger alone. -/
theorem catalogue (same : SameLedger before after) : before.Becomes after := by
  have here := refl before
  exact ⟨same.bookings ▸ here.bookings, same.bookingPayments ▸ here.payments,
    same.waitlistEntries ▸ here.waitlist, same.notificationOutbox ▸ here.messages,
    same.calendarEvents ▸ here.events, same.auditLogs ▸ here.audits⟩

end Db.Becomes

/-! ## Messages, events and the audit trail -/

theorem NotificationChange.apply_becomes (change : NotificationChange) (row : NotificationOutbox) :
    row.Becomes (change.apply row) := by
  cases change <;> rfl

theorem CalendarChange.apply_becomes (change : CalendarChange) (row : CalendarEvent) :
    row.Becomes (change.apply row) := by
  cases change <;> rfl

section Writes

variable {db : Db}

theorem Db.messages_applyAll (writes : List Write) (db : Db) :
    Lasting NotificationOutbox.Becomes db.notificationOutbox
      (db.applyAll writes).notificationOutbox := by
  induction writes generalizing db with
  | nil => exact .refl NotificationOutbox.Becomes.refl _
  | cons write writes ih =>
      refine .trans NotificationOutbox.Becomes.trans ?_ (ih (db.apply write))
      cases write with
      | insertOutbox row => exact .insert NotificationOutbox.Becomes.refl _ row
      | updateNotification id change =>
          exact .update NotificationOutbox.Becomes.refl fun row _ _ => change.apply_becomes row
      | _ => exact .refl NotificationOutbox.Becomes.refl _

theorem Db.events_applyAll (writes : List Write) (db : Db) :
    Lasting CalendarEvent.Becomes db.calendarEvents (db.applyAll writes).calendarEvents := by
  induction writes generalizing db with
  | nil => exact .refl CalendarEvent.Becomes.refl _
  | cons write writes ih =>
      refine .trans CalendarEvent.Becomes.trans ?_ (ih (db.apply write))
      cases write with
      | insertCalendarEvent row => exact .insert CalendarEvent.Becomes.refl _ row
      | updateCalendarEvent id change =>
          exact .update CalendarEvent.Becomes.refl fun row _ _ => change.apply_becomes row
      | _ => exact .refl CalendarEvent.Becomes.refl _

theorem Db.audits_applyAll (writes : List Write) (db : Db) :
    db.auditLogs <+: (db.applyAll writes).auditLogs := by
  induction writes generalizing db with
  | nil => exact List.prefix_rfl
  | cons write writes ih =>
      refine List.IsPrefix.trans ?_ (ih (db.apply write))
      cases write with
      | insertAudit row => exact List.prefix_append _ _
      | _ => exact List.prefix_rfl

/-! ## Entries of the waitlist -/

/-- The updates of an entry, in order. -/
def entryChanges (id : Nat) (writes : List Write) : List WaitlistChange :=
  writes.filterMap fun
    | .updateWaitlistEntry other change => if other = id then some change else none
    | _ => none

theorem mem_entryChanges {id : Nat} {writes : List Write} {change : WaitlistChange} :
    change ∈ entryChanges id writes ↔ Write.updateWaitlistEntry id change ∈ writes := by
  simp only [entryChanges, List.mem_filterMap]
  constructor
  · rintro ⟨write, member, named⟩
    cases write with
    | updateWaitlistEntry other given =>
        simp only [Option.ite_none_right_eq_some, Option.some.injEq] at named
        obtain ⟨rfl, rfl⟩ := named
        exact member
    | _ => cases named
  · intro member
    exact ⟨_, member, if_pos rfl⟩

/-- The version of an entry after a list of writes. -/
theorem Db.mem_waitlist_changes (writes : List Write) {db : Db} {row : WaitlistEntry}
    (member : row ∈ db.waitlistEntries) :
    (entryChanges row.id writes).foldl (fun version change => change.apply version) row ∈
      (db.applyAll writes).waitlistEntries := by
  induction writes generalizing db row with
  | nil => exact member
  | cons write writes ih =>
      cases write with
      | insertWaitlistEntry inserted => exact ih (List.mem_append_left _ member)
      | updateWaitlistEntry id change =>
          have there : (if row.id = id then change.apply row else row) ∈
              (db.apply (.updateWaitlistEntry id change)).waitlistEntries :=
            List.mem_map_of_mem member
          by_cases named : row.id = id
          · have keeps : (change.apply row).id = row.id := by cases change <;> rfl
            rw [if_pos named] at there
            have later := ih there
            rw [keeps] at later
            simpa [entryChanges, named] using later
          · rw [if_neg named] at there
            simpa [entryChanges, Ne.symm named] using ih there
      | _ => exact ih member

/-- The number of updates of an entry is that of its offers and expiries. -/
theorem length_entryChanges (id : Nat) (writes : List Write) :
    (entryChanges id writes).length =
      writes.countP (·.offersTo id) + writes.countP (·.expiresOffer id) := by
  induction writes with
  | nil => rfl
  | cons write writes ih =>
      have split : entryChanges id (write :: writes) =
          entryChanges id [write] ++ entryChanges id writes := by
        rw [entryChanges, ← List.singleton_append, List.filterMap_append]
        rfl
      have one : (entryChanges id [write]).length =
          (if write.offersTo id then 1 else 0) + if write.expiresOffer id then 1 else 0 := by
        cases write with
        | updateWaitlistEntry other change =>
            by_cases named : other = id <;> cases change <;>
              simp [entryChanges, Write.offersTo, Write.expiresOffer, named]
        | _ => rfl
      rw [split, List.length_append, one, ih, List.countP_cons, List.countP_cons]
      omega

end Writes

section Steps

variable {world : World Call} {call : Call} {transaction : Transaction}

/-- A transaction updates an entry once at most: it offers a slot to one that waits, or lets
the offer to one expire. -/
theorem Transaction.Enabled.entryChanges_cases (enabled : transaction.Enabled world.db call)
    (consistent : world.Consistent) {row : WaitlistEntry} (there : row ∈ world.db.waitlistEntries) :
    entryChanges row.id transaction.writes = [] ∨
      (∃ staffId updatedAt, entryChanges row.id transaction.writes = [.offer staffId updatedAt] ∧
        row.status = .waiting) ∨
      ∃ updatedAt, entryChanges row.id transaction.writes = [.expire updatedAt] ∧
        row.status = .offered := by
  have waits : transaction.writes.countP (·.offersTo row.id) ≠ 0 →
      transaction.writes.countP (·.offersTo row.id) = 1 ∧ row.status = .waiting := by
    intro moved
    obtain ⟨once, entry, member, same, waiting⟩ := enabled.offersTo_waiting moved
    exact ⟨once, consistent.entry_unique member there same ▸ waiting⟩
  have opens : transaction.writes.countP (·.expiresOffer row.id) ≠ 0 →
      transaction.writes.countP (·.expiresOffer row.id) = 1 ∧ row.status = .offered := by
    intro moved
    obtain ⟨once, entry, member, same, offered⟩ := enabled.expiresOffer_offered moved
    exact ⟨once, consistent.entry_unique member there same ▸ offered⟩
  have short : (entryChanges row.id transaction.writes).length ≤ 1 := by
    rw [length_entryChanges]
    by_contra long
    have offered : transaction.writes.countP (·.offersTo row.id) ≠ 0 := by
      intro none
      have := (opens (by omega)).1
      omega
    have expired : transaction.writes.countP (·.expiresOffer row.id) ≠ 0 := by
      intro none
      have := (waits offered).1
      omega
    have waiting := (waits offered).2
    rw [(opens expired).2] at waiting
    cases waiting
  cases changes : entryChanges row.id transaction.writes with
  | nil => exact .inl rfl
  | cons change rest =>
      rw [changes, List.length_cons] at short
      obtain rfl : rest = [] := List.eq_nil_of_length_eq_zero (by omega)
      have written : Write.updateWaitlistEntry row.id change ∈ transaction.writes :=
        mem_entryChanges.mp (changes ▸ List.mem_cons_self)
      cases change with
      | offer staffId updatedAt =>
          have moved : 0 < transaction.writes.countP (·.offersTo row.id) :=
            List.countP_pos_iff.mpr ⟨_, written, beq_self_eq_true row.id⟩
          exact .inr (.inl ⟨staffId, updatedAt, rfl, (waits (by omega)).2⟩)
      | expire updatedAt =>
          have moved : 0 < transaction.writes.countP (·.expiresOffer row.id) :=
            List.countP_pos_iff.mpr ⟨_, written, beq_self_eq_true row.id⟩
          exact .inr (.inr ⟨updatedAt, rfl, (opens (by omega)).2⟩)

theorem Transaction.Enabled.waitlist_becomes (enabled : transaction.Enabled world.db call)
    (consistent : world.Consistent) :
    Lasting WaitlistEntry.Becomes world.db.waitlistEntries
      (world.db.applyAll transaction.writes).waitlistEntries := by
  intro row there
  refine ⟨_, Db.mem_waitlist_changes transaction.writes there, ?_⟩
  rcases enabled.entryChanges_cases consistent there with none | ⟨staffId, updatedAt,
    one, waiting⟩ |
    ⟨updatedAt, one, offered⟩
  · rw [none]
    exact .refl row
  · rw [one]
    refine ⟨rfl, ?_, fun moved => absurd waiting moved, fun moved => absurd waiting moved⟩
    rw [waiting]
    exact .single .offer
  · rw [one]
    refine ⟨rfl, ?_, fun _ => rfl, fun _ closed => absurd offered closed⟩
    rw [offered]
    exact .single .expire

/-! ## Bookings and payments -/

theorem Transaction.Enabled.bookings_becomes (enabled : transaction.Enabled world.db call)
    (consistent : world.Consistent) :
    Lasting Booking.Becomes world.db.bookings (world.db.applyAll transaction.writes).bookings := by
  rw [Transaction.bookings_applyAll]
  cases enabled with
  | book => exact .insert Booking.Becomes.refl _ _
  | hold => exact .insert Booking.Becomes.refl _ _
  | confirm there named held =>
      refine .update Booking.Becomes.refl fun row member same => ?_
      obtain rfl := consistent.booking_unique member there same
      refine ⟨BookingChange.apply_sameSlot _ row, ?_, fun cancelled => ?_⟩
      · rw [held]
        exact .single .confirm
      · rw [held] at cancelled
        cases cancelled
  | @free _ _ reason _ _ _ _ there frees =>
      refine .update Booking.Becomes.refl fun row member same => ?_
      obtain rfl := consistent.booking_unique member there same
      have active : row.status ≠ .cancelled := by
        cases frees with
        | expire caller pending =>
            rw [pending]
            exact nofun
        | cancel caller active => exact active
      refine ⟨BookingChange.apply_sameSlot _ row, ?_, fun cancelled => absurd cancelled active⟩
      have cancelled : (BookingChange.apply (.cancel reason) row).status = .cancelled := rfl
      rw [cancelled]
      cases status : row.status with
      | confirmed => exact .single .cancel
      | cancelled => exact absurd status active
      | pendingPayment => exact .single .giveUp
  | _ => exact .refl Booking.Becomes.refl _

theorem Transaction.Enabled.payments_becomes (enabled : transaction.Enabled world.db call)
    (consistent : world.Consistent) :
    Lasting BookingPayment.Becomes world.db.bookingPayments
      (world.db.applyAll transaction.writes).bookingPayments := by
  rw [Transaction.payments_applyAll]
  cases enabled with
  | hold => exact .insert BookingPayment.Becomes.refl _ _
  | confirm there named held due =>
      refine .update BookingPayment.Becomes.refl fun row member same => ?_
      obtain rfl := consistent.payment_unique member due.there same
      have pending := due.pending
      refine ⟨rfl, ?_, ?_, ?_⟩
      · rw [pending]
        exact .single .succeed
      · simp [pending]
      · simp [pending]
  | @free _ _ reason payment _ _ _ there frees due =>
      cases payment with
      | none => exact .refl BookingPayment.Becomes.refl _
      | some payment =>
          refine .update BookingPayment.Becomes.refl fun row member same => ?_
          obtain rfl := consistent.payment_unique member (due payment rfl).there same
          have pending := (due row rfl).pending
          refine ⟨rfl, ?_, ?_, ?_⟩
          · rw [pending]
            exact .single .fail
          · simp [pending]
          · simp [pending]
  | refund settled =>
      obtain ⟨paid, there, named, settled⟩ := settled
      refine .update BookingPayment.Becomes.refl fun row member same => ?_
      obtain rfl := consistent.payment_unique member there (same.trans named.symm)
      refine ⟨rfl, ?_, fun _ => ⟨rfl, rfl⟩, fun failed => ?_⟩
      · rcases settled with succeeded | refunded
        · rw [succeeded]
          exact .single .refund
        · rw [refunded]
          exact .refl
      · rw [failed] at settled
        rcases settled with settled | settled <;> cases settled
  | _ => exact .refl BookingPayment.Becomes.refl _

/-- **A transaction takes every record along its life cycle.** -/
theorem Transaction.Enabled.becomes (enabled : transaction.Enabled world.db call)
    (consistent : world.Consistent) : world.db.Becomes (world.db.applyAll transaction.writes) where
  bookings := enabled.bookings_becomes consistent
  payments := enabled.payments_becomes consistent
  waitlist := enabled.waitlist_becomes consistent
  messages := Db.messages_applyAll _ _
  events := Db.events_applyAll _ _
  audits := Db.audits_applyAll _ _

end Steps

/-! ## Every run -/

/-- **Records move along their life cycles.**  From any point of any run on, whatever calls are
interleaved, every committed record keeps its key and has one later version, which it may
become: no booking is revived, no payment is settled twice, no offer is renewed, and no row of
the audit trail is changed or lost. -/
theorem records_move_along_their_life_cycles (cfg : Settings) {db : Db} {nextId : Nat}
    (wellFormed : db.WellFormed nextId) (clock : Instant) (redisTakes : Nat → Bool)
    {before after : BookingConfig}
    (first : BookingRun cfg (bookingStart db nextId clock redisTakes) before)
    (second : BookingRun cfg before after) :
    before.world.db.Becomes after.world.db ∧ ∀ table : Table, (table.ids after.world.db).Nodup := by
  have start := orderly_start cfg (fun _ => True) wellFormed trivial clock redisTakes
  have orderly := BookingRun.orderly lawful_true start first
  refine ⟨?_, (BookingRun.orderly lawful_true orderly second).invariant.1.ids_nodup⟩
  refine BookingRun.history lawful_true (fun later _ => before.world.db.Becomes later)
    orderly second
    (.refl _) ?_ ?_
  · exact fun _ _ _ same became => became.trans (.catalogue same)
  · exact fun world call transaction consistent _ enabled became =>
      became.trans (enabled.becomes consistent)

theorem hold_is_cancelled_along_its_life_cycle :
    ∃ before after : BookingConfig,
      before.world.db.bookings.map (·.status) = [.pendingPayment] ∧
      after.world.db.bookings.map (·.status) = [.cancelled] ∧
      before.world.db.Becomes after.world.db ∧
        ∀ table : Table, (table.ids after.world.db).Nodup := by
  have steps : ((waitingStart.runActions (bookingMachine sampleSettings)
      (wholeCall 0 sampleHold 11)).bind fun before =>
        (before.runActions (bookingMachine sampleSettings) (wholeCall 1
          (.cancelBooking { bookingId := 10, businessId := 1, tenantId := 1 }) 19)).map fun after =>
            (before.world.db.bookings.map (·.status), after.world.db.bookings.map (·.status))) =
      some ([.pendingPayment], [.cancelled]) := by decide +kernel
  obtain ⟨before, ran, rest⟩ := Option.bind_eq_some_iff.mp steps
  obtain ⟨after, ranOn, reached⟩ := Option.map_eq_some_iff.mp rest
  rw [Prod.mk.injEq] at reached
  exact ⟨before, after, reached.1, reached.2,
    records_move_along_their_life_cycles sampleSettings waitingDb_wellFormed 0 (fun _ => true)
      (.of_runActions _ ran) (.of_runActions _ ranOn)⟩

end AppointmentVoice
