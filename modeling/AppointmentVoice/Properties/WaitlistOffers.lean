import AppointmentVoice.Properties.PaymentAgreement
import AppointmentVoice.Services.Consultation

/-!
# A freed slot is offered once

Cancellations, expiries and the waitlist sweep hand freed slots to waiting
customers.  In every interleaving an entry is offered a slot at most once and an
offer expires at most once, every offer is committed together with its message,
and no more offers are made for a service on a day than slots have become free
and offers have expired.  A call that frees a slot looks for somebody who waits for it, and
one that finds nobody has found every entry that waits for the slot locked by another.

Moves are counted over the writes of the journal of committed transactions.
`WaitlistInvariant` is the invariant, `Transaction.Enabled.covered` counts the moves of one
transaction, and `WaitlistInvariant.step` says that an enabled transaction keeps it.

**Main result**: `freed_slots_are_offered_once`, over every run.
`freed_slot_is_offered_to_the_first_waiting` is a run with two customers who wait.
-/

set_option autoImplicit false

namespace AppointmentVoice

open Concurrency World

/-! ## Moves -/

/-- The entry is offered a slot. -/
def Write.offersTo (entryId : Nat) : Write → Bool
  | .updateWaitlistEntry id (.offer _ _) => id == entryId
  | _ => false

/-- The offer to the entry expires. -/
def Write.expiresOffer (entryId : Nat) : Write → Bool
  | .updateWaitlistEntry id (.expire _) => id == entryId
  | _ => false

/-- The booking is cancelled. -/
def Write.freesBooking (bookingId : Nat) : Write → Bool
  | .updateBooking id (.cancel _) => id == bookingId
  | _ => false

/-- An offer or the message of one. -/
def Write.isOffer : Write → Bool
  | .updateWaitlistEntry _ (.offer _ _) => true
  | .insertOutbox row => row.purpose = .waitlistOffer
  | _ => false

/-- How many committed writes have a property. -/
def tally (property : Write → Bool) (journal : List (Committed Call)) : Nat :=
  (journal.flatMap (·.writes)).countP property

theorem tally_snoc (property : Write → Bool) (journal : List (Committed Call))
    (entry : Committed Call) :
    tally property (journal ++ [entry]) = tally property journal + entry.writes.countP
      property := by
  simp [tally]

/-! ## What a transaction does to the waitlist -/

/-- The offers of a transaction, in order. -/
def Transaction.offers : Transaction → List Offer
  | .free _ _ _ _ _ offer => offer.toList
  | .sweep rounds => rounds.filterMap (·.offer)
  | _ => []

/-- The rounds of a transaction, each of which lets an offer expire. -/
def Transaction.rounds : Transaction → List Round
  | .sweep rounds => rounds
  | _ => []

theorem Offer.writes?_toList (offer : Option Offer) :
    Offer.writes? offer = offer.toList.flatMap Offer.writes := by
  cases offer <;> simp [Offer.writes?]

theorem outbox_filter_nil {messages : List NotificationOutbox} {property : Write → Bool}
    (other : ∀ message ∈ messages, property (.insertOutbox message) = false) :
    (messages.map Write.insertOutbox).filter property = [] := by
  rw [List.filter_eq_nil_iff]
  intro write member
  obtain ⟨message, there, rfl⟩ := List.mem_map.mp member
  simp [other message there]

theorem About.not_offer {booking : Booking} {purpose : NotificationPurpose}
    {messages : List NotificationOutbox} (about : About booking purpose messages)
    (other : purpose ≠ .waitlistOffer) :
    ∀ message ∈ messages, Write.isOffer (.insertOutbox message) = false := by
  intro message member
  simp [Write.isOffer, (about.each message member).1, other]

/-- The message of an enabled offer is one of an offer. -/
theorem Offer.Enabled.filter_writes {db : Db} {slot : WaitlistFilter} {offer : Offer}
    (enabled : offer.Enabled db slot) : offer.writes.filter Write.isOffer = offer.writes := by
  simp [Offer.writes, Write.isOffer, enabled.purpose]

theorem Round.filter_writes {db : Db} {round : Round}
    (enabled : ∀ given, round.offer = some given → given.Enabled db round.slot) :
    round.writes.filter Write.isOffer = round.offer.toList.flatMap Offer.writes := by
  rw [Round.writes, Offer.writes?_toList, List.filter_cons_of_neg (by simp [Write.isOffer])]
  cases given : round.offer with
  | none => rfl
  | some offer => simpa using (enabled offer given).filter_writes

theorem rounds_filter {db : Db} {rounds : List Round}
    (enabled : ∀ round ∈ rounds, ∀ given, round.offer = some given →
      given.Enabled db round.slot) :
    (rounds.flatMap Round.writes).filter Write.isOffer =
      (rounds.filterMap (·.offer)).flatMap Offer.writes := by
  induction rounds with
  | nil => rfl
  | cons round rounds ih =>
      rw [List.flatMap_cons, List.filter_append,
        Round.filter_writes (enabled round List.mem_cons_self),
        ih fun other member => enabled other (List.mem_cons_of_mem _ member)]
      cases given : round.offer <;> simp [given]

section Moves

variable {db : Db} {call : Call} {transaction : Transaction}

/-- **Every offer is committed with its message**, and no such message without an
offer. -/
theorem Transaction.Enabled.offers_filter (enabled : transaction.Enabled db call) :
    transaction.writes.filter Write.isOffer = transaction.offers.flatMap Offer.writes := by
  cases enabled with
  | book caller fresh confirmed action about =>
      simp [Transaction.writes, Transaction.offers, Write.isOffer,
        outbox_filter_nil (about.not_offer (by rintro ⟨⟩))]
  | hold => rfl
  | confirm there named held due action target about =>
      simp [Transaction.writes, Transaction.offers, Write.isOffer,
        outbox_filter_nil (about.not_offer (by rintro ⟨⟩))]
  | @free call booking reason payment audit messages offer there frees due nothing offers =>
      have quiet : (messages.map Write.insertOutbox).filter Write.isOffer = [] := by
        cases frees with
        | expire => rfl
        | cancel caller active action about =>
            exact outbox_filter_nil (about.not_offer (by rintro ⟨⟩))
      have failing : (failWrites reason payment).filter Write.isOffer = [] := by
        cases payment <;> rfl
      have offering : (Offer.writes? offer).filter Write.isOffer =
          offer.toList.flatMap Offer.writes := by
        rw [Offer.writes?_toList]
        cases given : offer with
        | none => rfl
        | some offer => simpa using (offers offer given).filter_writes
      simp only [Transaction.writes, Transaction.offers, List.filter_append, quiet, failing,
        offering]
      rfl
  | refund => rfl
  | note => rfl
  | enroll => rfl
  | @sweep rounds distinct offered offers =>
      exact rounds_filter offers
  | @clerk task changes clerical =>
      change changes.filter Write.isOffer = []
      rw [List.filter_eq_nil_iff]
      intro write member
      cases clerical write member with
      | notification id change => exact Bool.false_ne_true
      | calendarEvent id change => exact Bool.false_ne_true
      | reminder purpose fresh => simp [Write.isOffer, purpose]

/-! ## Counting the moves of a transaction -/

/-- A property of writes that only those of one table have. -/
def OnlyOf (table : Table) (property : Write → Bool) : Prop :=
  ∀ write, write.table ≠ some table → property write = false

theorem OnlyOf.countP_zero {table : Table} {property : Write → Bool} (only : OnlyOf table property)
    {writes : List Write} (others : ∀ write ∈ writes, write.table ≠ some table) :
    writes.countP property = 0 := by
  rw [List.countP_eq_zero]
  intro write member
  rw [only write (others write member)]
  exact Bool.false_ne_true

/-- The update that makes an offer. -/
def Offer.move (offer : Offer) : Write :=
  .updateWaitlistEntry offer.entry.id (.offer offer.staffId offer.offeredAt)

/-- The update that lets an offer expire. -/
def Round.expiry (round : Round) : Write :=
  .updateWaitlistEntry round.expired.id (.expire round.expiredAt)

theorem Offer.countP_writes {property : Write → Bool} (only : OnlyOf .waitlistEntries property)
    (offer : Option Offer) :
    (Offer.writes? offer).countP property = (offer.toList.map Offer.move).countP property := by
  cases offer with
  | none => rfl
  | some offer =>
      have message := only (.insertOutbox offer.message) nofun
      simp [Offer.writes?, Offer.writes, Offer.move, List.countP_cons, message]

/-- The updates of the waitlist in a transaction are its offers and expiries. -/
theorem Transaction.countP_waitlist {property : Write → Bool}
    (only : OnlyOf .waitlistEntries property)
    (enters : ∀ entry, property (.insertWaitlistEntry entry) = false) (transaction : Transaction) :
    transaction.writes.countP property =
      (transaction.offers.map Offer.move).countP property +
        (transaction.rounds.map Round.expiry).countP property := by
  have inserts : ∀ row, property (.insertBooking row) = false := fun _ => only _ nofun
  have updates : ∀ id change, property (.updateBooking id change) = false :=
    fun _ _ => only _ nofun
  have pays : ∀ row, property (.insertPayment row) = false := fun _ => only _ nofun
  have settles : ∀ id change, property (.updatePayment id change) = false :=
    fun _ _ => only _ nofun
  have audits : ∀ row, property (.insertAudit row) = false := fun _ => only _ nofun
  cases transaction with
  | book booking audit messages event =>
      rw [writes, List.append_assoc, List.countP_append, only.countP_zero notice_table]
      simp [offers, Transaction.rounds, inserts, audits]
  | hold booking payment audit =>
      simp [writes, offers, Transaction.rounds, inserts, pays, audits]
  | confirm booking payment providerPaymentId paidAt audit messages event =>
      rw [writes, List.append_assoc, List.countP_append, only.countP_zero notice_table]
      simp [offers, Transaction.rounds, updates, settles, audits]
  | free booking reason payment audit messages offer =>
      have failing : (failWrites reason payment).countP property = 0 := by
        cases payment <;> simp [failWrites, settles]
      rw [writes, List.countP_append, List.countP_append, List.countP_append, List.countP_append,
        failing, only.countP_zero outbox_table, Offer.countP_writes only]
      simp [offers, Transaction.rounds, updates, audits]
  | refund payment refundedAt audit =>
      simp [writes, offers, Transaction.rounds, settles, audits]
  | note audit => simp [writes, offers, Transaction.rounds, audits]
  | enroll entry => simp [writes, offers, Transaction.rounds, enters]
  | sweep rounds =>
      simp only [writes, offers, Transaction.rounds]
      induction rounds with
      | nil => rfl
      | cons round rounds ih =>
          rw [List.flatMap_cons, List.countP_append, ih, Round.writes, List.countP_cons,
            Offer.countP_writes only, List.map_cons, List.countP_cons, Round.expiry]
          cases given : round.offer with
          | none =>
              simp only [List.filterMap_cons, given, Option.toList_none, List.map_nil,
                List.countP_nil]
              omega
          | some offer =>
              simp only [List.filterMap_cons, given, Option.toList_some, List.map_cons,
                List.map_nil, List.countP_cons, List.countP_nil]
              omega
  | clerk changes clerical => exact only.countP_zero (clerk_table clerical)

theorem Transaction.countP_offersTo (transaction : Transaction) (entryId : Nat) :
    transaction.writes.countP (·.offersTo entryId) =
      (transaction.offers.map (·.entry.id)).count entryId := by
  rw [countP_waitlist (fun write other => by cases write <;> first | rfl | exact absurd rfl other)
      fun _ => rfl,
    List.countP_map, List.countP_map, List.count, List.countP_map]
  have none : transaction.rounds.countP (Write.offersTo entryId ∘ Round.expiry) = 0 := by
    rw [List.countP_eq_zero]
    exact fun _ _ => Bool.false_ne_true
  rw [none]
  rfl

theorem Transaction.countP_expiresOffer (transaction : Transaction) (entryId : Nat) :
    transaction.writes.countP (·.expiresOffer entryId) =
      (transaction.rounds.map (·.expired.id)).count entryId := by
  rw [countP_waitlist (fun write other => by cases write <;> first | rfl | exact absurd rfl other)
      fun _ => rfl,
    List.countP_map, List.countP_map, List.count, List.countP_map]
  have none : transaction.offers.countP (Write.expiresOffer entryId ∘ Offer.move) = 0 := by
    rw [List.countP_eq_zero]
    exact fun _ _ => Bool.false_ne_true
  rw [none, Nat.zero_add]
  rfl

/-- The entries that a transaction makes offers to wait, and each of them is
offered one slot. -/
theorem Transaction.Enabled.offered (enabled : transaction.Enabled db call) :
    (transaction.offers.map (·.entry.id)).Nodup ∧
      ∀ offer ∈ transaction.offers, offer.entry ∈ db.waitlistEntries ∧
        offer.entry.status = .waiting := by
  have waits : ∀ {slot : WaitlistFilter} {offer : Offer}, offer.Enabled db slot →
      offer.entry ∈ db.waitlistEntries ∧ offer.entry.status = .waiting := by
    intro slot offer enabled
    have accepted := enabled.accepted
    simp only [WaitlistFilter.accepts, Bool.and_eq_true, beq_iff_eq] at accepted
    exact ⟨enabled.entry, accepted.2⟩
  cases enabled with
  | @free call booking reason payment audit messages offer there frees due nothing offers =>
      cases offer with
      | none => exact ⟨.nil, fun _ member => absurd member List.not_mem_nil⟩
      | some given =>
          refine ⟨List.nodup_singleton _, fun offer member => ?_⟩
          rw [Transaction.offers, Option.toList_some, List.mem_singleton] at member
          subst member
          exact waits (offers offer rfl)
  | sweep distinct offered offers distinctOffers =>
      refine ⟨distinctOffers, fun offer member => ?_⟩
      obtain ⟨round, there, given⟩ := List.mem_filterMap.mp member
      exact waits (offers round there offer given)
  | _ => exact ⟨.nil, fun _ member => absurd member List.not_mem_nil⟩

/-- The offers that a transaction lets expire are open, and each of them expires
once. -/
theorem Transaction.Enabled.expiring (enabled : transaction.Enabled db call) :
    (transaction.rounds.map (·.expired.id)).Nodup ∧
      ∀ round ∈ transaction.rounds, round.expired ∈ db.waitlistEntries ∧
        round.expired.status = .offered := by
  cases enabled with
  | sweep distinct offered => exact ⟨distinct, offered⟩
  | _ => exact ⟨.nil, fun _ member => absurd member List.not_mem_nil⟩

theorem freesBooking_only (bookingId : Nat) : OnlyOf .bookings (Write.freesBooking bookingId) := by
  intro write other
  cases write <;> first | rfl | exact absurd rfl other

/-- A transaction frees at most the booking that it cancels. -/
theorem Transaction.countP_freesBooking (transaction : Transaction) (bookingId : Nat) :
    transaction.writes.countP (·.freesBooking bookingId) =
      match transaction with
      | .free booking _ _ _ _ _ => if booking.id = bookingId then 1 else 0
      | _ => 0 := by
  have only := freesBooking_only bookingId
  cases transaction with
  | book booking audit messages event =>
      rw [writes, List.append_assoc, List.countP_append, only.countP_zero notice_table]
      rfl
  | hold booking payment audit => rfl
  | confirm booking payment providerPaymentId paidAt audit messages event =>
      rw [writes, List.append_assoc, List.countP_append, only.countP_zero notice_table]
      rfl
  | free booking reason payment audit messages offer =>
      have failing : (failWrites reason payment).countP (Write.freesBooking bookingId) = 0 := by
        cases payment <;> rfl
      rw [writes, List.countP_append, List.countP_append, List.countP_append, List.countP_append,
        failing, only.countP_zero outbox_table, only.countP_zero (offer_table offer (by decide))]
      simp [Write.freesBooking, List.countP_cons]
  | refund payment refundedAt audit => rfl
  | note audit => rfl
  | enroll entry => rfl
  | sweep rounds => exact only.countP_zero (sweep_table rounds (by decide))
  | clerk changes clerical => exact only.countP_zero (clerk_table clerical)

end Moves

/-! ## Each move happens once -/

/-- What the journal says about the moves of the waitlist: an entry that waits
has been neither offered a slot nor let go, nor has one that is not there, an open
offer has not expired, and no entry has been offered a slot or let go twice. -/
structure OfferedOnce (db : Db) (journal : List (Committed Call)) : Prop where
  waiting : ∀ row ∈ db.waitlistEntries, row.status = .waiting →
    tally (·.offersTo row.id) journal = 0 ∧ tally (·.expiresOffer row.id) journal = 0
  offered : ∀ row ∈ db.waitlistEntries, row.status = .offered →
    tally (·.expiresOffer row.id) journal = 0
  absent : ∀ entryId, entryId ∉ Table.waitlistEntries.ids db →
    tally (·.offersTo entryId) journal = 0 ∧ tally (·.expiresOffer entryId) journal = 0
  once : ∀ entryId, tally (·.offersTo entryId) journal ≤ 1 ∧
    tally (·.expiresOffer entryId) journal ≤ 1

section Once

variable {world : World Call} {call : Call} {transaction : Transaction}

/-- An offer in a transaction is one to an entry that waits. -/
theorem Transaction.Enabled.offersTo_waiting (enabled : transaction.Enabled world.db call)
    {entryId : Nat} (moved : transaction.writes.countP (·.offersTo entryId) ≠ 0) :
    transaction.writes.countP (·.offersTo entryId) = 1 ∧
      ∃ row ∈ world.db.waitlistEntries, row.id = entryId ∧ row.status = .waiting := by
  obtain ⟨distinct, each⟩ := enabled.offered
  rw [Transaction.countP_offersTo] at moved ⊢
  have member := List.count_pos_iff.mp (Nat.pos_of_ne_zero moved)
  obtain ⟨offer, there, rfl⟩ := List.mem_map.mp member
  exact ⟨List.count_eq_one_of_mem distinct member, offer.entry, (each offer there).1, rfl,
    (each offer there).2⟩

/-- An expiry in a transaction is one of an open offer. -/
theorem Transaction.Enabled.expiresOffer_offered (enabled : transaction.Enabled world.db call)
    {entryId : Nat} (moved : transaction.writes.countP (·.expiresOffer entryId) ≠ 0) :
    transaction.writes.countP (·.expiresOffer entryId) = 1 ∧
      ∃ row ∈ world.db.waitlistEntries, row.id = entryId ∧ row.status = .offered := by
  obtain ⟨distinct, each⟩ := enabled.expiring
  rw [Transaction.countP_expiresOffer] at moved ⊢
  have member := List.count_pos_iff.mp (Nat.pos_of_ne_zero moved)
  obtain ⟨round, there, rfl⟩ := List.mem_map.mp member
  exact ⟨List.count_eq_one_of_mem distinct member, round.expired, (each round there).1, rfl,
    (each round there).2⟩

/-- A transaction that does not update an entry neither offers it a slot nor lets
it go. -/
theorem countP_untouched {writes : List Write} {entryId : Nat}
    (untouched : ∀ change, Write.updateWaitlistEntry entryId change ∉ writes) :
    writes.countP (·.offersTo entryId) = 0 ∧ writes.countP (·.expiresOffer entryId) = 0 := by
  constructor
  · rw [List.countP_eq_zero]
    intro write member moved
    unfold Write.offersTo at moved
    split at moved
    · rw [beq_iff_eq] at moved
      subst moved
      exact untouched _ member
    · cases moved
  · rw [List.countP_eq_zero]
    intro write member moved
    unfold Write.expiresOffer at moved
    split at moved
    · rw [beq_iff_eq] at moved
      subst moved
      exact untouched _ member
    · cases moved

/-- An enabled transaction moves only entries that are there. -/
theorem Transaction.Enabled.moves_known (enabled : transaction.Enabled world.db call)
    {entryId : Nat} {change : WaitlistChange}
    (member : Write.updateWaitlistEntry entryId change ∈ transaction.writes) :
    entryId ∈ Table.waitlistEntries.ids world.db := by
  cases change with
  | offer staffId updatedAt =>
      obtain ⟨-, row, there, rfl, -⟩ := enabled.offersTo_waiting
        (Nat.ne_of_gt (List.countP_pos_iff.mpr ⟨_, member, beq_self_eq_true entryId⟩))
      exact List.mem_map_of_mem there
  | expire updatedAt =>
      obtain ⟨-, row, there, rfl, -⟩ := enabled.expiresOffer_offered
        (Nat.ne_of_gt (List.countP_pos_iff.mpr ⟨_, member, beq_self_eq_true entryId⟩))
      exact List.mem_map_of_mem there

/-- An entry that an enabled transaction puts on the waitlist is new. -/
theorem Transaction.Enabled.enters_new {db : Db} (enabled : transaction.Enabled db call)
    {entry : WaitlistEntry} (member : Write.insertWaitlistEntry entry ∈ transaction.writes) :
    entry.id ∉ Table.waitlistEntries.ids db ∧ transaction.writes = [.insertWaitlistEntry entry] ∧
      entry.status = .waiting ∧ entry.offeredForStaffId = none := by
  cases enabled with
  | enroll fresh waiting unoffered =>
      rw [Transaction.writes, List.mem_singleton, Write.insertWaitlistEntry.injEq] at member
      subst member
      exact ⟨fresh, rfl, waiting, unoffered⟩
  | @free _ _ _ payment _ _ offer =>
      cases payment <;> cases offer <;>
        simp [Transaction.writes, failWrites, Offer.writes?, Offer.writes] at member
  | sweep =>
      obtain ⟨round, -, inRound⟩ := List.mem_flatMap.mp member
      cases given : round.offer <;>
        simp [Round.writes, Offer.writes?, Offer.writes, given] at inRound
  | @clerk task changes clerical => cases clerical _ member
  | _ => simp [Transaction.writes] at member

/-- **One transaction keeps the moves single.** -/
theorem OfferedOnce.step (single : OfferedOnce world.db world.journal)
    (consistent : world.Consistent) (enabled : transaction.Enabled world.db call) :
    OfferedOnce (world.db.applyAll transaction.writes)
      (world.journal ++ [⟨call, transaction.writes⟩]) := by
  have entered : ∀ entry, Write.insertWaitlistEntry entry ∈ transaction.writes →
      tally (·.offersTo entry.id) (world.journal ++ [⟨call, transaction.writes⟩]) = 0 ∧
        tally (·.expiresOffer entry.id) (world.journal ++ [⟨call, transaction.writes⟩]) = 0 := by
    intro entry member
    obtain ⟨fresh, writes, -⟩ := enabled.enters_new member
    obtain ⟨notOffered, notExpired⟩ := single.absent entry.id fresh
    rw [tally_snoc, tally_snoc, notOffered, notExpired, writes]
    exact ⟨rfl, rfl⟩
  refine ⟨?_, ?_, ?_, ?_⟩
  · intro row member waits
    obtain ⟨origin, source, -, ⟨change, version, -, equal⟩ | ⟨rfl, spared⟩⟩ :=
      Db.mem_applyAll_waitlist member
    · rw [equal] at waits
      cases change <;> cases waits
    · by_cases inserted : Write.insertWaitlistEntry row ∈ transaction.writes
      · exact entered row inserted
      · obtain ⟨notOffered, notExpired⟩ := countP_untouched (spared.resolve_left inserted)
        obtain ⟨before, beforeToo⟩ :=
          single.waiting row (source.resolve_right inserted) waits
        rw [tally_snoc, tally_snoc, before, beforeToo]
        exact ⟨(Nat.zero_add _).trans notOffered, (Nat.zero_add _).trans notExpired⟩
  · intro row member isOffered
    obtain ⟨origin, source, sameId, ⟨change, version, written, equal⟩ | ⟨rfl, spared⟩⟩ :=
      Db.mem_applyAll_waitlist member
    · -- The offer is of this transaction, so the entry was waiting before it.
      have moved : transaction.writes.countP (·.offersTo row.id) ≠ 0 := by
        rw [equal] at isOffered
        cases change with
        | expire updatedAt => cases isOffered
        | offer staffId updatedAt =>
            refine Nat.ne_of_gt (List.countP_pos_iff.mpr ⟨_, written, ?_⟩)
            exact beq_self_eq_true row.id
      obtain ⟨-, waiter, there, named, waits⟩ := enabled.offersTo_waiting moved
      have before := (single.waiting waiter there waits).2
      rw [named] at before
      rw [tally_snoc, before, Nat.zero_add]
      by_contra expires
      obtain ⟨-, other, thereToo, namedToo, open_⟩ := enabled.expiresOffer_offered expires
      have same := consistent.entry_unique there thereToo (named.trans namedToo.symm)
      rw [same, open_] at waits
      cases waits
    · by_cases inserted : Write.insertWaitlistEntry row ∈ transaction.writes
      · exact (entered row inserted).2
      · rw [tally_snoc, single.offered row (source.resolve_right inserted) isOffered,
          (countP_untouched (spared.resolve_left inserted)).2]
  · intro entryId absent
    have before : entryId ∉ Table.waitlistEntries.ids world.db := by
      intro known
      rw [Table.ids_applyAll] at absent
      exact absent (List.mem_append_left _ known)
    obtain ⟨notOffered, notExpired⟩ := single.absent entryId before
    have untouched : ∀ change, Write.updateWaitlistEntry entryId change ∉ transaction.writes :=
      fun change member => before (enabled.moves_known member)
    obtain ⟨notNow, notNowEither⟩ := countP_untouched untouched
    rw [tally_snoc, tally_snoc, notOffered, notExpired]
    exact ⟨(Nat.zero_add _).trans notNow, (Nat.zero_add _).trans notNowEither⟩
  · intro entryId
    rw [tally_snoc, tally_snoc]
    obtain ⟨offers, expiries⟩ := single.once entryId
    constructor
    · by_cases moved : transaction.writes.countP (·.offersTo entryId) = 0
      · rw [moved]
        exact offers
      · obtain ⟨one, waiter, there, rfl, waits⟩ := enabled.offersTo_waiting moved
        rw [one, (single.waiting waiter there waits).1]
    · by_cases moved : transaction.writes.countP (·.expiresOffer entryId) = 0
      · rw [moved]
        exact expiries
      · obtain ⟨one, holder, there, rfl, open_⟩ := enabled.expiresOffer_offered moved
        rw [one, single.offered holder there open_]

/-- What the journal says about cancellations: a booking that is not cancelled,
or not there, has not been freed, and no booking has been freed twice. -/
structure FreedOnce (db : Db) (journal : List (Committed Call)) : Prop where
  active : ∀ row ∈ db.bookings, row.status ≠ .cancelled → tally (·.freesBooking row.id) journal = 0
  absent : ∀ bookingId, bookingId ∉ Table.bookings.ids db →
    tally (·.freesBooking bookingId) journal = 0
  once : ∀ bookingId, tally (·.freesBooking bookingId) journal ≤ 1

/-- A transaction frees only a booking that was active, once, and leaves it
cancelled. -/
theorem Transaction.Enabled.frees_active (enabled : transaction.Enabled world.db call)
    {bookingId : Nat} (freed : transaction.writes.countP (·.freesBooking bookingId) ≠ 0) :
    transaction.writes.countP (·.freesBooking bookingId) = 1 ∧
      (∃ row ∈ world.db.bookings, row.id = bookingId ∧ row.status ≠ .cancelled) ∧
      ∀ row ∈ (world.db.applyAll transaction.writes).bookings, row.id = bookingId →
        row.status = .cancelled := by
  rw [Transaction.countP_freesBooking] at freed ⊢
  cases enabled with
  | @free call booking reason payment audit messages offer there frees =>
      dsimp only at freed ⊢
      split at freed
      · next named =>
          subst named
          have active : booking.status ≠ .cancelled := by
            cases frees with
            | expire caller pending =>
                rw [pending]
                exact nofun
            | cancel caller active => exact active
          refine ⟨if_pos rfl, ⟨booking, there, rfl, active⟩, fun row member same => ?_⟩
          rw [Transaction.bookings_applyAll] at member
          obtain ⟨origin, old, rfl⟩ := List.mem_map.mp member
          split
          · rfl
          · next untouched =>
              rw [if_neg untouched] at same
              exact absurd same untouched
      · exact absurd rfl freed
  | _ => exact absurd rfl freed

/-- **One transaction keeps cancellations single.** -/
theorem FreedOnce.step (single : FreedOnce world.db world.journal)
    (consistent : world.Consistent) (enabled : transaction.Enabled world.db call) :
    FreedOnce (world.db.applyAll transaction.writes)
      (world.journal ++ [⟨call, transaction.writes⟩]) := by
  refine ⟨?_, ?_, ?_⟩
  · intro row member active
    rw [tally_snoc]
    have notNow : transaction.writes.countP (·.freesBooking row.id) = 0 := by
      by_contra freed
      exact active ((enabled.frees_active freed).2.2 row member rfl)
    rw [notNow]
    by_cases known : row.id ∈ Table.bookings.ids world.db
    · obtain ⟨origin, old, sameId⟩ := List.mem_map.mp known
      have before : origin.status ≠ .cancelled := by
        intro cancelled
        have settled : Cancelled origin.id world.db :=
          ⟨List.mem_map_of_mem old, fun other present same => by
            rw [consistent.booking_unique present old same]; exact cancelled⟩
        exact active ((settled.step enabled).2 row member sameId.symm)
      rw [← sameId]
      exact single.active origin old before
    · exact single.absent row.id known
  · intro bookingId absent
    have before : bookingId ∉ Table.bookings.ids world.db := fun known =>
      absent (known_applyAll _ known)
    rw [tally_snoc, single.absent bookingId before, Nat.zero_add]
    by_contra freed
    obtain ⟨-, ⟨row, there, rfl, -⟩, -⟩ := enabled.frees_active freed
    exact before (List.mem_map_of_mem there)
  · intro bookingId
    rw [tally_snoc]
    by_cases freed : transaction.writes.countP (·.freesBooking bookingId) = 0
    · rw [freed]
      exact single.once bookingId
    · obtain ⟨one, ⟨row, there, rfl, active⟩, -⟩ := enabled.frees_active freed
      rw [one, single.active row there active]

end Once

/-! ## Slots and offers -/

/-- What offers are counted by. -/
structure SlotKey where
  tenantId : Nat
  businessId : Nat
  serviceId : Nat
  date : Date
  deriving DecidableEq, Repr

def Booking.slotKey (booking : Booking) : SlotKey :=
  ⟨booking.tenantId, booking.businessId, booking.serviceId, dateOf booking.startsAt⟩

def WaitlistEntry.slotKey (entry : WaitlistEntry) : SlotKey :=
  ⟨entry.tenantId, entry.businessId, entry.serviceId, entry.desiredDate⟩

/-- The entry is there, with the key. -/
def Db.hasEntry (db : Db) (id : Nat) (key : SlotKey) : Bool :=
  db.waitlistEntries.any fun row => row.id == id && row.slotKey == key

/-- The booking is there, with the key. -/
def Db.hasBooking (db : Db) (id : Nat) (key : SlotKey) : Bool :=
  db.bookings.any fun row => row.id == id && row.slotKey == key

/-- An entry of a key is offered a slot. -/
def offeredFor (db : Db) (key : SlotKey) : Write → Bool
  | .updateWaitlistEntry id (.offer _ _) => db.hasEntry id key
  | _ => false

/-- An offer to an entry of a key expires. -/
def expiredFor (db : Db) (key : SlotKey) : Write → Bool
  | .updateWaitlistEntry id (.expire _) => db.hasEntry id key
  | _ => false

/-- A booking of a key is cancelled. -/
def freedFor (db : Db) (key : SlotKey) : Write → Bool
  | .updateBooking id (.cancel _) => db.hasBooking id key
  | _ => false

/-- No more offers have been made for a key than bookings have been freed and
offers have expired. -/
def OffersCovered (db : Db) (journal : List (Committed Call)) : Prop :=
  ∀ key, tally (offeredFor db key) journal ≤
    tally (freedFor db key) journal + tally (expiredFor db key) journal

/-- Writes keep the keys of the entries that are on the waitlist. -/
theorem Db.hasEntry_applyAll (db : Db) {writes : List Write} {entryId : Nat} (key : SlotKey)
    (others : ∀ entry, Write.insertWaitlistEntry entry ∈ writes → entry.id ≠ entryId) :
    (db.applyAll writes).hasEntry entryId key = db.hasEntry entryId key := by
  induction writes generalizing db with
  | nil => rfl
  | cons write writes ih =>
      rw [applyAll_cons, ih _ fun entry member => others entry (List.mem_cons_of_mem _ member)]
      cases write with
      | insertWaitlistEntry row =>
          have other := others row List.mem_cons_self
          simp [hasEntry, Db.apply, other]
      | updateWaitlistEntry id change =>
          rw [hasEntry, hasEntry, Db.apply, List.any_map]
          congr 1
          funext row
          rw [Function.comp_apply]
          split
          · cases change <;> rfl
          · rfl
      | _ => rfl

/-- Writes keep the keys of the bookings that are there. -/
theorem Db.hasBooking_applyAll {db : Db} {id : Nat} {key : SlotKey}
    (there : db.hasBooking id key = true) (writes : List Write) :
    (db.applyAll writes).hasBooking id key = true := by
  induction writes generalizing db with
  | nil => exact there
  | cons write writes ih =>
      refine ih ?_
      obtain ⟨row, member, same⟩ := List.any_eq_true.mp there
      refine List.any_eq_true.mpr ?_
      cases write with
      | insertBooking new => exact ⟨row, List.mem_append_left _ member, same⟩
      | updateBooking other change =>
          refine ⟨_, List.mem_map_of_mem member, ?_⟩
          split
          · cases change <;> exact same
          · exact same
      | _ => exact ⟨row, member, same⟩

section Covered

variable {world : World Call} {call : Call} {transaction : Transaction} {key : SlotKey}

theorem hasEntry_iff (consistent : world.Consistent) {entry : WaitlistEntry}
    (there : entry ∈ world.db.waitlistEntries) :
    world.db.hasEntry entry.id key = true ↔ entry.slotKey = key := by
  simp only [Db.hasEntry, List.any_eq_true, Bool.and_eq_true, beq_iff_eq]
  constructor
  · rintro ⟨row, member, sameId, sameKey⟩
    rw [← consistent.entry_unique member there sameId]
    exact sameKey
  · exact fun same => ⟨entry, there, rfl, same⟩

/-- A slot is offered to an entry of its own key. -/
theorem Offer.Enabled.slotKey_eq {db : Db} {slot : WaitlistFilter} {offer : Offer}
    (enabled : offer.Enabled db slot) :
    offer.entry.slotKey = ⟨slot.tenantId, slot.businessId, slot.serviceId, slot.desiredDate⟩ := by
  have accepted := enabled.accepted
  simp only [WaitlistFilter.accepts, WaitlistFilter.eligible, Bool.and_eq_true,
    beq_iff_eq] at accepted
  obtain ⟨⟨⟨⟨⟨business, tenant⟩, service⟩, date⟩, -⟩, -⟩ := accepted
  rw [WaitlistEntry.slotKey, business, tenant, service, date]

/-- **The offers of a transaction are covered by what it frees and lets
expire.** -/
theorem Transaction.Enabled.covered (enabled : transaction.Enabled world.db call)
    (consistent : world.Consistent) (key : SlotKey) :
    transaction.writes.countP (offeredFor world.db key) ≤
      transaction.writes.countP (freedFor world.db key) +
        transaction.writes.countP (expiredFor world.db key) := by
  have offersOnly : OnlyOf .waitlistEntries (offeredFor world.db key) := by
    intro write other
    cases write <;> first | rfl | exact absurd rfl other
  have expiriesOnly : OnlyOf .waitlistEntries (expiredFor world.db key) := by
    intro write other
    cases write <;> first | rfl | exact absurd rfl other
  have noOffers : ∀ rounds : List Round,
      rounds.countP (offeredFor world.db key ∘ Round.expiry) = 0 := fun rounds => by
    rw [List.countP_eq_zero]
    exact fun _ _ => Bool.false_ne_true
  rw [Transaction.countP_waitlist offersOnly fun _ => rfl,
    Transaction.countP_waitlist expiriesOnly fun _ => rfl]
  simp only [List.countP_map, noOffers, Nat.add_zero]
  cases enabled with
  | @free call booking reason payment audit messages offer there frees due nothing offers =>
      cases offer with
      | none => exact Nat.zero_le _
      | some given =>
          have enabled := offers given rfl
          by_cases counted : world.db.hasEntry given.entry.id key = true
          · have sameKey := (hasEntry_iff consistent enabled.entry).mp counted
            rw [enabled.slotKey_eq] at sameKey
            have freed : 0 < (Transaction.writes
                (.free booking reason payment audit messages (some given))).countP
                (freedFor world.db key) := by
              rw [List.countP_pos_iff]
              refine ⟨.updateBooking booking.id (.cancel reason), by simp [Transaction.writes], ?_⟩
              refine List.any_eq_true.mpr ⟨booking, there, ?_⟩
              rw [Bool.and_eq_true, beq_iff_eq, beq_iff_eq]
              exact ⟨rfl, sameKey⟩
            have atMostOne := List.countP_le_length
              (p := offeredFor world.db key ∘ Offer.move) (l := [given])
            simp only [Transaction.offers, Option.toList_some, List.length_singleton] at atMostOne ⊢
            omega
          · simp only [Transaction.offers, Option.toList_some]
            rw [List.countP_cons_of_neg (p := offeredFor world.db key ∘ Offer.move) counted]
            exact Nat.zero_le _
  | @sweep rounds distinct offered offers =>
      refine Nat.le_trans ?_ (Nat.le_add_left _ _)
      refine Nat.le_trans ?_ (Nat.le_add_left _ _)
      simp only [Transaction.offers, Transaction.rounds, List.countP_filterMap]
      refine List.countP_mono_left fun round member counted => ?_
      cases given : round.offer with
      | none => simp [given] at counted
      | some offer =>
          have enabled := offers round member offer given
          have sameKey : offer.entry.slotKey = key := by
            refine (hasEntry_iff consistent enabled.entry).mp ?_
            rw [given] at counted
            exact counted
          rw [enabled.slotKey_eq] at sameKey
          exact (hasEntry_iff consistent (offered round member).1).mpr sameKey
  | _ => exact Nat.zero_le _

/-- Every move that has been made is one of an entry that is on the waitlist. -/
theorem OfferedOnce.moved_known (single : OfferedOnce world.db world.journal) {entryId : Nat}
    {change : WaitlistChange}
    (member : Write.updateWaitlistEntry entryId change ∈ world.journal.flatMap (·.writes)) :
    entryId ∈ Table.waitlistEntries.ids world.db := by
  by_contra absent
  obtain ⟨notOffered, notExpired⟩ := single.absent entryId absent
  cases change with
  | offer staffId updatedAt =>
      exact List.countP_eq_zero.mp notOffered _ member (beq_self_eq_true entryId)
  | expire updatedAt =>
      exact List.countP_eq_zero.mp notExpired _ member (beq_self_eq_true entryId)

theorem OffersCovered.step (covered : OffersCovered world.db world.journal)
    (single : OfferedOnce world.db world.journal) (consistent : world.Consistent)
    (enabled : transaction.Enabled world.db call) :
    OffersCovered (world.db.applyAll transaction.writes)
      (world.journal ++ [⟨call, transaction.writes⟩]) := by
  intro key
  have sameKey : ∀ entryId, entryId ∈ Table.waitlistEntries.ids world.db →
      (world.db.applyAll transaction.writes).hasEntry entryId key =
        world.db.hasEntry entryId key := by
    intro entryId known
    refine world.db.hasEntry_applyAll key fun entry entered same => ?_
    exact (enabled.enters_new entered).1 (same ▸ known)
  have sameOffers : ∀ writes : List Write, (∀ entryId change,
      Write.updateWaitlistEntry entryId change ∈ writes →
        entryId ∈ Table.waitlistEntries.ids world.db) →
      writes.countP (offeredFor (world.db.applyAll transaction.writes) key) =
        writes.countP (offeredFor world.db key) := by
    intro writes known
    refine List.countP_congr fun write member => ?_
    unfold offeredFor
    split
    · rw [sameKey _ (known _ _ member)]
    · rfl
  have sameExpiries : ∀ writes : List Write, (∀ entryId change,
      Write.updateWaitlistEntry entryId change ∈ writes →
        entryId ∈ Table.waitlistEntries.ids world.db) →
      writes.countP (expiredFor (world.db.applyAll transaction.writes) key) =
        writes.countP (expiredFor world.db key) := by
    intro writes known
    refine List.countP_congr fun write member => ?_
    unfold expiredFor
    split
    · rw [sameKey _ (known _ _ member)]
    · rfl
  have moreFreed : ∀ writes : List Write, writes.countP (freedFor world.db key) ≤
      writes.countP (freedFor (world.db.applyAll transaction.writes) key) := by
    intro writes
    refine List.countP_mono_left fun write _ freed => ?_
    unfold freedFor at freed ⊢
    split at freed
    · exact Db.hasBooking_applyAll freed _
    · cases freed
  have before := covered key
  have now := enabled.covered consistent key
  have earlier := moreFreed (world.journal.flatMap (·.writes))
  have added := moreFreed transaction.writes
  rw [tally_snoc, tally_snoc, tally_snoc]
  unfold tally at before ⊢
  dsimp only
  rw [sameOffers _ fun _ _ => single.moved_known, sameExpiries _ fun _ _ => single.moved_known,
    sameOffers _ fun _ _ => enabled.moves_known, sameExpiries _ fun _ _ => enabled.moves_known]
  omega

end Covered

/-! ## Finding nobody -/

/-- A session that looks for somebody looks for one who waits for a slot that it has freed:
that of the booking which it has locked, or that of an offer which it has let expire.  If it
finds nobody, it has found every waiting entry that its slot is fit for locked by another.  A
call that has cancelled a booking, or let a hold expire, has looked for somebody for its
slot. -/
structure SkipsOnlyLocked (config : BookingConfig) : Prop where
  looksFor : ∀ pid process filter next, config.running pid = some process →
    process.rest = .call (.selectWaitlistForUpdateSkipLocked filter) next →
    (consultation.state process.call process.log).LooksFor filter
  skips : ∀ pid process filter next after, config.running pid = some process →
    process.rest = .call (.selectWaitlistForUpdateSkipLocked filter) next →
    execStmt pid process.call (.selectWaitlistForUpdateSkipLocked filter) config.world =
      some (([] : List WaitlistEntry), after) →
    ∀ entry ∈ (config.world.view pid).waitlistEntries, entry.status = .waiting →
      filter.eligible entry = true →
      ∃ other, other ≠ pid ∧ (RowId.waitlistEntry entry.id, other) ∈ config.world.locks
  looked : ∀ outcome ∈ config.finished, ∀ ref reply, outcome.call.freedRef = some ref →
    outcome.result = .ok reply →
    ∃ booking, consultation.state outcome.call outcome.log = .asked booking ∧
      booking.id = ref.bookingId ∧ booking.tenantId = ref.tenantId

/-- Whoever finds nobody has found every entry locked. -/
theorem locked_of_nobody {pid : Pid} {call : Call} {filter : WaitlistFilter}
    {world after : World Call}
    (executed : execStmt pid call (.selectWaitlistForUpdateSkipLocked filter) world =
      some (([] : List WaitlistEntry), after))
    {entry : WaitlistEntry} (there : entry ∈ (world.view pid).waitlistEntries)
    (waits : entry.status = .waiting) (eligible : filter.eligible entry = true) :
    ∃ other, other ≠ pid ∧ (RowId.waitlistEntry entry.id, other) ∈ world.locks := by
  simp only [execStmt] at executed
  split at executed
  · next nobody =>
      have none := oldest_eq_none nobody
      rw [List.filter_eq_nil_iff] at none
      have locked := none entry there
      simp only [WaitlistFilter.accepts, waits, eligible, beq_self_eq_true, Bool.and_self,
        Bool.true_and, Bool.not_eq_true', Bool.not_eq_false] at locked
      exact lockedByOther_iff.mp locked
  · injection executed with same
    injection same with answers
    cases answers

theorem skipsOnlyLocked {cfg : Settings} {db : Db} {nextId : Nat} {clock : Instant}
    {redisTakes : Nat → Bool} {config : BookingConfig}
    (runs : BookingRun cfg (bookingStart db nextId clock redisTakes) config) :
    SkipsOnlyLocked config where
  looksFor _ _ _ _ running asks := (consultation_reached runs).looksFor running asks
  skips _ _ _ _ _ _ _ executed _ there waits eligible :=
    locked_of_nobody executed there waits eligible
  looked := (consultation_reached runs).finished

/-! ## Every run -/

/-- Every offer in a transaction is followed by its message, and there is no such
message without an offer. -/
def OffersAnnounced (writes : List Write) : Prop :=
  ∃ offers : List Offer, writes.filter Write.isOffer = offers.flatMap Offer.writes ∧
    ∀ offer ∈ offers, offer.entry.status = .waiting ∧ offer.message.purpose = .waitlistOffer ∧
      offer.message.tenantId = offer.entry.tenantId ∧
      offer.message.businessId = offer.entry.businessId

theorem Transaction.Enabled.announced {db : Db} {call : Call} {transaction : Transaction}
    (enabled : transaction.Enabled db call) : OffersAnnounced transaction.writes := by
  refine ⟨transaction.offers, enabled.offers_filter, fun offer member => ?_⟩
  have waits := (enabled.offered.2 offer member).2
  cases enabled with
  | @free call booking reason payment audit messages given there frees due nothing offers =>
      have same : given = some offer := Option.mem_toList.mp member
      have enabled := offers offer same
      exact ⟨waits, enabled.purpose, enabled.tenant, enabled.business⟩
  | sweep distinct offered offers =>
      obtain ⟨round, there, given⟩ := List.mem_filterMap.mp member
      have enabled := offers round there offer given
      exact ⟨waits, enabled.purpose, enabled.tenant, enabled.business⟩
  | _ => exact absurd member List.not_mem_nil

/-- What holds of the waitlist over a whole history. -/
structure WaitlistInvariant (db : Db) (journal : List (Committed Call)) : Prop where
  offered : OfferedOnce db journal
  announced : ∀ committed ∈ journal, OffersAnnounced committed.writes
  freed : FreedOnce db journal
  covered : OffersCovered db journal

theorem WaitlistInvariant.empty (db : Db) : WaitlistInvariant db [] where
  offered := ⟨fun _ _ _ => ⟨rfl, rfl⟩, fun _ _ _ => rfl, fun _ _ => ⟨rfl, rfl⟩,
    fun _ => ⟨Nat.zero_le 1, Nat.zero_le 1⟩⟩
  announced := fun _ member => absurd member List.not_mem_nil
  freed := ⟨fun _ _ _ => rfl, fun _ _ => rfl, fun _ => Nat.zero_le 1⟩
  covered := fun _ => Nat.zero_le _

theorem WaitlistInvariant.catalogue {before after : Db} {journal : List (Committed Call)}
    (same : SameLedger before after) (invariant : WaitlistInvariant before journal) :
    WaitlistInvariant after journal := by
  obtain ⟨⟨waiting, offered, unknown, once⟩, announced, ⟨active, absent, freedOnce⟩, covered⟩ :=
    invariant
  refine ⟨⟨?_, ?_, ?_, once⟩, announced, ⟨?_, ?_, freedOnce⟩, fun key => ?_⟩
  · rw [same.waitlistEntries]
    exact waiting
  · rw [same.waitlistEntries]
    exact offered
  · rw [same.ids]
    exact unknown
  · rw [same.bookings]
    exact active
  · rw [same.ids]
    exact absent
  · have entries : after.hasEntry = before.hasEntry := by
      funext id key
      rw [Db.hasEntry, Db.hasEntry, same.waitlistEntries]
    have bookings : after.hasBooking = before.hasBooking := by
      funext id key
      rw [Db.hasBooking, Db.hasBooking, same.bookings]
    have unchanged := covered key
    unfold offeredFor expiredFor freedFor at unchanged ⊢
    rw [entries, bookings]
    exact unchanged

theorem WaitlistInvariant.step {world : World Call} {call : Call} {transaction : Transaction}
    (invariant : WaitlistInvariant world.db world.journal) (consistent : world.Consistent)
    (enabled : transaction.Enabled world.db call) :
    WaitlistInvariant (world.db.applyAll transaction.writes)
      (world.journal ++ [⟨call, transaction.writes⟩]) where
  offered := invariant.offered.step consistent enabled
  announced := by
    intro committed member
    rcases List.mem_append.mp member with old | new
    · exact invariant.announced committed old
    · rw [List.mem_singleton] at new
      subst new
      exact enabled.announced
  freed := invariant.freed.step consistent enabled
  covered := invariant.covered.step invariant.offered consistent enabled

/-- **Freed slots are offered without loss or duplication** in every run: the counts of the
moves hold, and whoever frees a slot looks for somebody and skips only entries that another
has locked. -/
theorem freed_slots_are_offered_once (cfg : Settings) {db : Db} {nextId : Nat}
    (wellFormed : db.WellFormed nextId) (clock : Instant) (redisTakes : Nat → Bool)
    {config : BookingConfig}
    (runs : BookingRun cfg (bookingStart db nextId clock redisTakes) config) :
    WaitlistInvariant config.world.db config.world.journal ∧ SkipsOnlyLocked config := by
  have start := orderly_start cfg (fun _ => True) wellFormed trivial clock redisTakes
  refine ⟨?_, skipsOnlyLocked runs⟩
  refine BookingRun.history lawful_true WaitlistInvariant start runs (.empty db) ?_ ?_
  · exact fun _ _ _ same invariant => invariant.catalogue same
  · exact fun world call transaction consistent _ enabled invariant =>
      invariant.step consistent enabled

/-! ## A run with a waiting customer -/

/-- The sample salon, with two customers waiting for the same day. -/
def waitingDb : Db :=
  { sampleDb with
    waitlistEntries :=
      [⟨1, 1, 1, 1, 1, none, none, 0, .waiting, 0, 0⟩,
        ⟨2, 1, 1, 1, 1, none, none, 0, .waiting, 5, 5⟩] }

theorem waitingDb_wellFormed : waitingDb.WellFormed 10 where
  keys := fun table => by cases table <;> decide
  below := fun table => by cases table <;> decide
  exclusion := by decide
  payments := by decide
  events := by decide

def waitingStart : BookingConfig := bookingStart waitingDb 10 0 fun _ => true

/-- A hold is made and cancelled. -/
def holdAndCancel : List (Action Call) :=
  wholeCall 0 sampleHold 11 ++
    wholeCall 1 (.cancelBooking { bookingId := 10, businessId := 1, tenantId := 1 }) 19

theorem holdAndCancel_possible :
    (waitingStart.runActions (bookingMachine sampleSettings) holdAndCancel).isSome = true := by
  decide +kernel

theorem freed_slot_is_offered_to_the_first_waiting :
    ∃ config, BookingRun sampleSettings waitingStart config ∧
      config.world.db.waitlistEntries.map (·.status) = [.offered, .waiting] ∧
      tally (·.offersTo 1) config.world.journal = 1 ∧
      WaitlistInvariant config.world.db config.world.journal := by
  have runs := BookingRun.of_actions holdAndCancel_possible
  refine ⟨_, runs, by decide +kernel, by decide +kernel, ?_⟩
  exact (freed_slots_are_offered_once sampleSettings waitingDb_wellFormed 0 (fun _ => true) runs).1

end AppointmentVoice
