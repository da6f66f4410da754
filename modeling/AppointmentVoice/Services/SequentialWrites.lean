import AppointmentVoice.Services.SequentialBooking

/-!
# What a call that runs alone has written

Up to its commit a service function only adds writes to its transaction.  Here the
writes are kept as a list, and each function that the services share has a rule that
says which rows it adds to the list.  The commit makes exactly the list the difference
between the committed rows before and after.

**The rules.** `Ends.notes` for a row more, and one rule for each shared function, as
`Ends.tells`, `Ends.failsPayment` or `Ends.offers`.
-/

set_option autoImplicit false

namespace AppointmentVoice

open Concurrency

/-! ## Transactions that have not ended -/

/-- The writes have been added; nothing has been committed or pushed. -/
structure Wrote (before after : Solo) (writes : List Write) : Prop where
  db : after.db = before.db
  writes : after.writes = before.writes ++ writes
  clock : after.clock = before.clock
  pushes : after.pushes = before.pushes
  redisTakes : after.redisTakes = before.redisTakes

namespace Wrote

variable {before after : Solo} {writes : List Write}

theorem refl (solo : Solo) : Wrote solo solo [] := ⟨rfl, (List.append_nil _).symm, rfl, rfl, rfl⟩

theorem amend (wrote : Wrote before after writes) (write : Write) :
    Wrote before (after.amend write) (writes ++ [write]) := by
  refine ⟨wrote.db, ?_, wrote.clock, wrote.pushes, wrote.redisTakes⟩
  rw [Solo.amend, wrote.writes, List.append_assoc]

theorem add (wrote : Wrote before after writes) (more : List Write) :
    Wrote before (after.add more) (writes ++ more) := by
  refine ⟨wrote.db, ?_, wrote.clock, wrote.pushes, wrote.redisTakes⟩
  rw [Solo.add, wrote.writes, List.append_assoc]

theorem view (wrote : Wrote before after writes) :
    after.view = before.view.applyAll writes := by
  rw [Solo.view, wrote.db, wrote.writes, Db.applyAll_append]
  rfl

theorem catalogue (wrote : Wrote before after writes)
    (ledger : ∀ write ∈ writes, write.ofLedger = true) :
    SameCatalogue before.view after.view := by
  rw [wrote.view]
  exact .applyAll ledger _

/-- After the commit Redis takes what it would have taken before the call. -/
theorem takes_committed (wrote : Wrote before after writes) (count : Nat) :
    after.committed.Takes count ↔ before.Takes count := by
  change (∀ index < count, after.redisTakes (after.pushes + index) = true) ↔ _
  rw [wrote.redisTakes, wrote.pushes]
  exact Iff.rfl

end Wrote

/-- A session that has written nothing sees the committed rows. -/
theorem Solo.view_of_clean {solo : Solo} (clean : solo.writes = []) : solo.view = solo.db := by
  rw [Solo.view, clean]
  rfl

/-- No write takes a row out of the audit log. -/
theorem Db.auditLogs_le_apply (db : Db) (write : Write) :
    db.auditLogs.length ≤ (db.apply write).auditLogs.length := by
  cases write with
  | insertAudit row => exact List.length_append ▸ Nat.le_add_right _ _
  | _ => exact Nat.le_refl _

theorem Db.auditLogs_le_applyAll (db : Db) (writes : List Write) :
    db.auditLogs.length ≤ (db.applyAll writes).auditLogs.length := by
  induction writes generalizing db with
  | nil => exact Nat.le_refl _
  | cons write writes ih => exact Nat.le_trans (db.auditLogs_le_apply write) (ih _)

/-- A transaction with a row for the audit log changes the database. -/
theorem Db.applyAll_ne_of_audit {writes : List Write} {audit : AuditLog}
    (noted : Write.insertAudit audit ∈ writes) (db : Db) : db.applyAll writes ≠ db := by
  obtain ⟨first, last, rfl⟩ := List.append_of_mem noted
  have longer : db.auditLogs.length <
      (db.applyAll (first ++ .insertAudit audit :: last)).auditLogs.length := by
    rw [applyAll_append, applyAll_cons]
    calc db.auditLogs.length
        ≤ (db.applyAll first).auditLogs.length := db.auditLogs_le_applyAll first
      _ < ((db.applyAll first).apply (.insertAudit audit)).auditLogs.length := by
          simp [Db.apply]
      _ ≤ _ := Db.auditLogs_le_applyAll _ last
  intro same
  rw [same] at longer
  exact Nat.lt_irrefl _ longer

/-! ## The rows of an operation -/

/-- The phones that a message about a booking goes to. -/
def Business.phones (business : Business) (customer : Customer) : List String :=
  customer.phone :: (match business.ownerNotificationPhone with
    | some phone => if phone.isEmpty then [] else [phone]
    | none => [])

/-- One pending message about the booking for each phone. -/
structure Tells (booking : Booking) (purpose : NotificationPurpose) (phones : List String)
    (intents : List NotificationOutbox) : Prop where
  phones : intents.map (·.recipientPhone) = phones
  about : ∀ intent ∈ intents, intent.tenantId = booking.tenantId ∧
    intent.businessId = booking.businessId ∧ intent.bookingId = some booking.id ∧
      intent.purpose = purpose ∧ intent.status = .pending

/-- The offer of a freed slot to the customer of a waitlist entry. -/
structure Offers (entry : WaitlistEntry) (customer : Customer) (intent : NotificationOutbox) :
    Prop where
  tenant : intent.tenantId = entry.tenantId
  business : intent.businessId = entry.businessId
  purpose : intent.purpose = .waitlistOffer
  phone : intent.recipientPhone = customer.phone
  pending : intent.status = .pending

/-- The calendar row of a booking. -/
structure Enters (booking : Booking) (event : CalendarEvent) : Prop where
  tenant : event.tenantId = booking.tenantId
  business : event.businessId = booking.businessId
  booking : event.bookingId = booking.id
  pending : event.status = .pending

/-- The booking has no calendar row. -/
def Unlisted (db : Db) (bookingId : Nat) : Prop :=
  ∀ event ∈ db.calendarEvents, event.bookingId ≠ bookingId

/-- What `_fail_linked_pending_payment` writes. -/
def failedPayment (db : Db) (booking : Booking) (reason : Option String) : List Write :=
  (Query.eval (.pendingPayment booking.id booking.tenantId) db : Option BookingPayment).toList.map
    fun payment => .updatePayment payment.id (.fail reason)

section Rules

variable {β : Type} {before solo : Solo} {writes : List Write}
variable {post : Except AppError β → Solo → Prop}

theorem Ends.notes (wrote : Wrote before solo writes) {tenantId bookingId : Nat}
    {adminId : Option Nat} {action : AuditAction} {source : Option String} {next : Unit → DbM β}
    (ends : ∀ auditId after, Wrote before after (writes ++
      [.insertAudit ⟨auditId, tenantId, adminId, action, some bookingId, source⟩]) →
        Ends (next ()) after post) :
    Ends (AppointmentVoice.createAuditLog tenantId adminId action bookingId source >>= next) solo
      post := by
  rw [AppointmentVoice.createAuditLog, bind_assoc]
  exact Ends.insert rfl (ends _ _ (wrote.add _))

theorem Ends.failsPayment (wrote : Wrote before solo writes) {booking : Booking}
    {reason : Option String} {next : Unit → DbM β}
    (ends : ∀ after, Wrote before after (writes ++ failedPayment solo.view booking reason) →
      Ends (next ()) after post) :
    Ends (AppointmentVoice.failLinkedPendingPayment booking reason >>= next) solo post := by
  unfold AppointmentVoice.failLinkedPendingPayment
  refine Ends.bind (Ends.select (.pendingPayment booking.id booking.tenantId) ?_)
  rw [failedPayment] at ends
  cases search : Query.eval (.pendingPayment booking.id booking.tenantId) solo.view with
  | none =>
      rw [search] at ends
      exact ends solo (by simpa using wrote)
  | some payment =>
      rw [search] at ends
      exact ends _ (wrote.amend _)

/-- A message to the owner, after the one to the customer. -/
theorem Ends.tellsOwner (wrote : Wrote before solo writes) {booking : Booking}
    {business : Business} {customer : Customer} {purpose : NotificationPurpose} {body : String}
    {createdAt : Instant} {first : NotificationOutbox} {next : List Nat → DbM β}
    (told : Tells booking purpose [customer.phone] [first])
    (ends : ∀ intents after, Tells booking purpose (business.phones customer) (first :: intents) →
      Wrote before after (writes ++ intents.map .insertOutbox) →
        Ends (next (intents.map (·.id))) after post) :
    Ends (AppointmentVoice.addOwnerIntent booking business purpose body createdAt >>= next) solo
      post := by
  have phone : first.recipientPhone = customer.phone := by
    simpa using told.phones
  unfold AppointmentVoice.addOwnerIntent
  split
  · next number given =>
      split
      · next empty =>
          refine ends [] solo ⟨?_, told.about⟩ (by simpa using wrote)
          simp [Business.phones, given, empty, phone]
      · next full =>
          rw [bind_assoc]
          refine Ends.insert rfl (ends [⟨_, _, _, _, _, number, body, .pending, 0, none, none,
            createdAt, none, none⟩] _ ⟨?_, ?_⟩ (wrote.add _))
          · simp [Business.phones, given, full, phone]
          · intro intent member
            rcases List.mem_cons.mp member with rfl | member
            · exact told.about _ List.mem_cons_self
            · rw [List.mem_singleton.mp member]
              exact ⟨rfl, rfl, rfl, rfl, rfl⟩
  · next missing =>
      refine ends [] solo ⟨?_, told.about⟩ (by simpa using wrote)
      simp [Business.phones, missing, phone]

/-- The two messages about a booking. -/
theorem Ends.tells (wrote : Wrote before solo writes) {booking : Booking} {business : Business}
    {customer : Customer} {purpose : NotificationPurpose} {body ownerBody : String}
    {createdAt : Instant} {next : List Nat → DbM β}
    (ends : ∀ intents after, Tells booking purpose (business.phones customer) intents →
      Wrote before after (writes ++ intents.map .insertOutbox) →
        Ends (next (intents.map (·.id))) after post) :
    Ends (do
      let first ← AppointmentVoice.addIntent booking.tenantId booking.businessId (some booking.id)
        purpose customer.phone body createdAt
      let owner ← AppointmentVoice.addOwnerIntent booking business purpose ownerBody createdAt
      next (first :: owner)) solo post := by
  have told : ∀ id, Tells booking purpose [customer.phone] [⟨id, booking.tenantId,
      booking.businessId, some booking.id, purpose, customer.phone, body, .pending, 0, none, none,
        createdAt, none, none⟩] := by
    intro id
    refine ⟨rfl, fun intent member => ?_⟩
    rw [List.mem_singleton.mp member]
    exact ⟨rfl, rfl, rfl, rfl, rfl⟩
  refine Ends.insert rfl (Ends.tellsOwner (wrote.add _) (told solo.nextId)
    fun intents after all wrote => ?_)
  rw [List.append_assoc] at wrote
  exact ends _ after all wrote

theorem Ends.offers (wrote : Wrote before solo writes) {entry : WaitlistEntry}
    {business : Business} {customer : Customer} {service : Service} {createdAt : Instant}
    {next : Nat → DbM β}
    (ends : ∀ intent after, Offers entry customer intent →
      Wrote before after (writes ++ [.insertOutbox intent]) → Ends (next intent.id) after post) :
    Ends (AppointmentVoice.enqueueWaitlistOffer entry business customer service createdAt >>= next)
      solo post :=
  Ends.insert rfl (ends ⟨_, _, _, _, _, _, _, .pending, 0, none, none, _, none, none⟩ _
    ⟨rfl, rfl, rfl, rfl, rfl⟩ (wrote.add _))

/-- A booking has one calendar row at most. -/
theorem Ends.enters (wrote : Wrote before solo writes) {booking : Booking} {business : Business}
    {createdAt : Instant} {next : Nat → DbM β}
    (listed : ¬Unlisted solo.view booking.id → ∀ after : Solo, after.db = before.db →
      post (.error (.integrity .uqCalendarEventsBookingId)) after)
    (ends : Unlisted solo.view booking.id → ∀ event after, Enters booking event →
      Wrote before after (writes ++ [.insertCalendarEvent event]) →
        Ends (next event.id) after post) :
    Ends (AppointmentVoice.enqueueCalendarEvent booking business createdAt >>= next) solo post := by
  have insert : ∀ provider : String, Ends (AppointmentVoice.insert (fun id => .insertCalendarEvent
      { id, tenantId := booking.tenantId, businessId := booking.businessId,
        bookingId := booking.id, provider, createdAt }) >>= next) solo post := by
    intro provider
    have violated : ∀ event : CalendarEvent, event.bookingId = booking.id →
        (solo.view.violated (.insertCalendarEvent event) = none ↔
          Unlisted solo.view booking.id) := by
      intro event ofBooking
      rw [Db.violated, ofBooking, ite_eq_right_iff, Unlisted]
      simp
    by_cases unlisted : Unlisted solo.view booking.id
    · refine Ends.insert ((violated _ rfl).mpr unlisted) ?_
      exact ends unlisted ⟨_, _, _, _, _, none, .pending, 0, 0, none, _, none, none⟩ _
        ⟨rfl, rfl, rfl, rfl⟩ (wrote.add _)
    · have taken : solo.view.violated (.insertCalendarEvent ⟨solo.nextId, booking.tenantId,
          booking.businessId, booking.id, provider, none, .pending, 0, 0, none, createdAt, none,
            none⟩) = some .uqCalendarEventsBookingId := by
        have some := mt (violated ⟨solo.nextId, booking.tenantId, booking.businessId, booking.id,
          provider, none, .pending, 0, 0, none, createdAt, none, none⟩ rfl).mp unlisted
        rw [Db.violated] at some ⊢
        split at some
        · next here => rw [if_pos here]
        · exact absurd rfl some
      exact Ends.refused taken (listed unlisted _ wrote.db)
  simp only [AppointmentVoice.enqueueCalendarEvent, getCalendarIntegration, bind_assoc]
  cases booking.staffId with
  | none => exact Ends.select _ (insert _)
  | some staffId =>
      refine Ends.bind (Ends.select (.calendarIntegration business.id booking.tenantId
        (some staffId)) ?_)
      cases Query.eval (.calendarIntegration business.id booking.tenantId (some staffId))
        solo.view with
      | none => exact insert _
      | some own => exact insert _

end Rules

/-! ## The pushes -/

end AppointmentVoice
