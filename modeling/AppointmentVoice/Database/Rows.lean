import AppointmentVoice.Database.Isolation

/-!
# What a list of writes does to the rows

The writes of a transaction are applied in order, but each table only sees its
own: a key is in the table afterwards exactly when it was there before or was
inserted, a row whose key no update names is kept as it is, and a row that is
there afterwards was there before, was inserted, or was updated.  The updates
of a booking leave its slot alone and make an inactive booking active only by
confirming it.

**The rows.** `mem_applyAll_bookings` and `mem_bookings_applyAll`, and their like for the
payments and the waitlist, say where the rows afterwards come from and where those before have
gone.
-/

set_option autoImplicit false

namespace AppointmentVoice

/-! ## Applying writes -/

namespace Db

@[simp] theorem applyAll_nil (db : Db) : db.applyAll [] = db := rfl

@[simp] theorem applyAll_cons (db : Db) (write : Write) (writes : List Write) :
    db.applyAll (write :: writes) = (db.apply write).applyAll writes := rfl

theorem applyAll_append (db : Db) (first second : List Write) :
    db.applyAll (first ++ second) = (db.applyAll first).applyAll second :=
  List.foldl_append

end Db

/-! ## Keys -/

/-- The tables whose rows are found by their primary key. -/
inductive Table where
  | bookings
  | bookingPayments
  | waitlistEntries
  | notificationOutbox
  | calendarEvents
  deriving DecidableEq, Repr

namespace Table

/-- The primary keys of a table, in storage order. -/
def ids : Table → Db → List Nat
  | .bookings, db => db.bookings.map (·.id)
  | .bookingPayments, db => db.bookingPayments.map (·.id)
  | .waitlistEntries, db => db.waitlistEntries.map (·.id)
  | .notificationOutbox, db => db.notificationOutbox.map (·.id)
  | .calendarEvents, db => db.calendarEvents.map (·.id)

/-- The primary key that a write adds to a table. -/
def inserted : Table → Write → Option Nat
  | .bookings, .insertBooking row => some row.id
  | .bookingPayments, .insertPayment row => some row.id
  | .waitlistEntries, .insertWaitlistEntry row => some row.id
  | .notificationOutbox, .insertOutbox row => some row.id
  | .calendarEvents, .insertCalendarEvent row => some row.id
  | _, _ => none

theorem ids_map_update {α : Type} (key : α → Nat) (rows : List α) (id : Nat) (change : α → α)
    (keeps : ∀ row, key (change row) = key row) :
    (rows.map fun row => if key row = id then change row else row).map key = rows.map key := by
  rw [List.map_map]
  refine List.map_congr_left fun row _ => ?_
  by_cases same : key row = id
  · simp [same, keeps]
  · simp [same]

theorem ids_apply (table : Table) (db : Db) (write : Write) :
    table.ids (db.apply write) = table.ids db ++ (table.inserted write).toList := by
  cases write with
  | insertBooking row => cases table <;> simp [ids, inserted, Db.apply]
  | updateBooking id change =>
      have keeps := ids_map_update Booking.id db.bookings id change.apply
        (fun row => by cases change <;> rfl)
      cases table <;> simp only [ids, inserted, Db.apply, Option.toList_none, List.append_nil]
      exact keeps
  | insertPayment row => cases table <;> simp [ids, inserted, Db.apply]
  | updatePayment id change =>
      have keeps := ids_map_update BookingPayment.id db.bookingPayments id change.apply
        (fun row => by cases change <;> rfl)
      cases table <;> simp only [ids, inserted, Db.apply, Option.toList_none, List.append_nil]
      exact keeps
  | updateWaitlistEntry id change =>
      have keeps := ids_map_update WaitlistEntry.id db.waitlistEntries id change.apply
        (fun row => by cases change <;> rfl)
      cases table <;> simp only [ids, inserted, Db.apply, Option.toList_none, List.append_nil]
      exact keeps
  | updateNotification id change =>
      have keeps := ids_map_update NotificationOutbox.id db.notificationOutbox id change.apply
        (fun row => by cases change <;> rfl)
      cases table <;> simp only [ids, inserted, Db.apply, Option.toList_none, List.append_nil]
      exact keeps
  | updateCalendarEvent id change =>
      have keeps := ids_map_update CalendarEvent.id db.calendarEvents id change.apply
        (fun row => by cases change <;> rfl)
      cases table <;> simp only [ids, inserted, Db.apply, Option.toList_none, List.append_nil]
      exact keeps
  | _ => cases table <;> simp [ids, inserted, Db.apply]

/-- The keys after a list of writes: the old ones, then the inserted ones. -/
theorem ids_applyAll (table : Table) (db : Db) (writes : List Write) :
    table.ids (db.applyAll writes) = table.ids db ++ writes.filterMap table.inserted := by
  induction writes generalizing db with
  | nil => simp
  | cons write writes ih =>
      rw [Db.applyAll_cons, ih, ids_apply, List.filterMap_cons]
      cases table.inserted write <;> simp

end Table

/-! ## Bookings -/

/-- Two versions of one booking: they differ at most in the columns that an
update sets. -/
def Booking.SameSlot (row origin : Booking) : Prop :=
  { row with status := origin.status, cancelReason := origin.cancelReason } = origin

namespace Booking.SameSlot

variable {row origin older : Booking}

theorem refl (row : Booking) : row.SameSlot row := rfl

theorem trans (first : row.SameSlot origin) (second : origin.SameSlot older) :
    row.SameSlot older := by
  unfold SameSlot at *
  rw [← second, ← first]

theorem id (same : row.SameSlot origin) : row.id = origin.id := by rw [← same]

theorem excludes (same : row.SameSlot origin) {other otherOrigin : Booking}
    (sameOther : other.SameSlot otherOrigin) (active : row.status.active = true →
      origin.status.active = true) (activeOther : other.status.active = true →
      otherOrigin.status.active = true) (clash : AppointmentVoice.excludes row other = true) :
    AppointmentVoice.excludes origin otherOrigin = true := by
  simp only [AppointmentVoice.excludes, Bool.and_eq_true] at clash ⊢
  rw [← same, ← sameOther]
  obtain ⟨⟨⟨⟨⟨⟨⟨first, second⟩, staff⟩, equal⟩, proper⟩, properOther⟩, before⟩, after⟩ := clash
  exact ⟨⟨⟨⟨⟨⟨⟨active first, activeOther second⟩, staff⟩, equal⟩, proper⟩, properOther⟩,
    before⟩, after⟩

end Booking.SameSlot

theorem BookingChange.apply_sameSlot (change : BookingChange) (row : Booking) :
    (change.apply row).SameSlot row := by
  cases change <;> rfl

namespace Db

/-- Where a booking that is there after a list of writes comes from. -/
theorem mem_applyAll_bookings {db : Db} {writes : List Write} {row : Booking}
    (member : row ∈ (db.applyAll writes).bookings) :
    ∃ origin, (origin ∈ db.bookings ∨ Write.insertBooking origin ∈ writes) ∧
      row.SameSlot origin ∧
      ((∃ change version, Write.updateBooking row.id change ∈ writes ∧
          row = change.apply version) ∨ row = origin) ∧
      (row.status.active = true →
        origin.status.active = true ∨ Write.updateBooking row.id .confirm ∈ writes) := by
  induction writes generalizing db with
  | nil => exact ⟨row, .inl member, .refl row, .inr rfl, .inl⟩
  | cons write writes ih =>
      obtain ⟨origin, source, same, changed, active⟩ := ih member
      have later : ∀ {other}, other ∈ writes → other ∈ write :: writes := List.mem_cons_of_mem _
      have changedLater : (∃ change version, Write.updateBooking row.id change ∈ write :: writes ∧
          row = change.apply version) ∨ row = origin :=
        changed.imp_left fun ⟨change, version, there, equal⟩ =>
          ⟨change, version, later there, equal⟩
      rcases source with old | new
      · cases write with
        | insertBooking inserted =>
            simp only [Db.apply, List.mem_append, List.mem_singleton] at old
            refine ⟨origin, ?_, same, changedLater, fun now => (active now).imp_right later⟩
            rcases old with old | rfl
            · exact .inl old
            · exact .inr List.mem_cons_self
        | updateBooking id change =>
            simp only [Db.apply, List.mem_map] at old
            obtain ⟨older, member, rfl⟩ := old
            by_cases named : older.id = id
            · rw [if_pos named] at same active changedLater
              have sameId : row.id = id := by
                rw [(same.trans (change.apply_sameSlot older)).id, named]
              refine ⟨older, .inl member, same.trans (change.apply_sameSlot older), .inl ?_,
                fun now => ?_⟩
              · rcases changedLater with found | equal
                · exact found
                · exact ⟨change, older, by rw [sameId]; exact List.mem_cons_self, equal⟩
              · rcases active now with stays | confirmed
                · cases change with
                  | confirm => exact .inr (by rw [sameId]; exact List.mem_cons_self)
                  | cancel reason => cases stays
                · exact .inr (later confirmed)
            · rw [if_neg named] at same active changedLater
              exact ⟨older, .inl member, same, changedLater,
                fun now => (active now).imp_right later⟩
        | _ =>
            exact ⟨origin, .inl old, same, changedLater, fun now => (active now).imp_right later⟩
      · exact ⟨origin, .inr (later new), same, changedLater,
          fun now => (active now).imp_right later⟩

/-- A booking that no update names is kept. -/
theorem mem_bookings_applyAll {db : Db} {writes : List Write} {row : Booking}
    (untouched : ∀ change, Write.updateBooking row.id change ∉ writes)
    (member : row ∈ db.bookings) : row ∈ (db.applyAll writes).bookings := by
  induction writes generalizing db with
  | nil => exact member
  | cons write writes ih =>
      refine ih (fun change there => untouched change (List.mem_cons_of_mem _ there)) ?_
      cases write with
      | insertBooking inserted => exact List.mem_append_left _ member
      | updateBooking id change =>
          refine List.mem_map.mpr ⟨row, member, if_neg ?_⟩
          rintro rfl
          exact untouched change List.mem_cons_self
      | _ => exact member

/-! ## Payments -/

/-- Where a payment that is there after a list of writes comes from. -/
theorem mem_applyAll_payments {db : Db} {writes : List Write} {row : BookingPayment}
    (member : row ∈ (db.applyAll writes).bookingPayments) :
    ∃ origin, (origin ∈ db.bookingPayments ∨ Write.insertPayment origin ∈ writes) ∧
      row.id = origin.id ∧ row.bookingId = origin.bookingId ∧ row.tenantId = origin.tenantId ∧
      ((∃ change version, Write.updatePayment row.id change ∈ writes ∧
          row = change.apply version) ∨ row = origin) := by
  induction writes generalizing db with
  | nil => exact ⟨row, .inl member, rfl, rfl, rfl, .inr rfl⟩
  | cons write writes ih =>
      obtain ⟨origin, source, sameId, sameBooking, sameTenant, changed⟩ := ih member
      have later : ∀ {other}, other ∈ writes → other ∈ write :: writes := List.mem_cons_of_mem _
      have changedLater : (∃ change version, Write.updatePayment row.id change ∈ write :: writes ∧
          row = change.apply version) ∨ row = origin :=
        changed.imp_left fun ⟨change, version, there, equal⟩ =>
          ⟨change, version, later there, equal⟩
      rcases source with old | new
      · cases write with
        | insertPayment inserted =>
            simp only [Db.apply, List.mem_append, List.mem_singleton] at old
            refine ⟨origin, ?_, sameId, sameBooking, sameTenant, changedLater⟩
            rcases old with old | rfl
            · exact .inl old
            · exact .inr List.mem_cons_self
        | updatePayment id change =>
            simp only [Db.apply, List.mem_map] at old
            obtain ⟨older, member, rfl⟩ := old
            by_cases named : older.id = id
            · rw [if_pos named] at sameId sameBooking sameTenant changedLater
              have keeps : (change.apply older).id = older.id ∧
                  (change.apply older).bookingId = older.bookingId ∧
                  (change.apply older).tenantId = older.tenantId := by
                cases change <;> exact ⟨rfl, rfl, rfl⟩
              rw [keeps.1] at sameId
              rw [keeps.2.1] at sameBooking
              rw [keeps.2.2] at sameTenant
              refine ⟨older, .inl member, sameId, sameBooking, sameTenant, .inl ?_⟩
              rcases changedLater with found | equal
              · exact found
              · refine ⟨change, older, ?_, equal⟩
                rw [sameId, named]
                exact List.mem_cons_self
            · rw [if_neg named] at sameId sameBooking sameTenant changedLater
              exact ⟨older, .inl member, sameId, sameBooking, sameTenant, changedLater⟩
        | _ => exact ⟨origin, .inl old, sameId, sameBooking, sameTenant, changedLater⟩
      · exact ⟨origin, .inr (later new), sameId, sameBooking, sameTenant, changedLater⟩

/-- A payment that no update names is kept. -/
theorem mem_payments_applyAll {db : Db} {writes : List Write} {row : BookingPayment}
    (untouched : ∀ change, Write.updatePayment row.id change ∉ writes)
    (member : row ∈ db.bookingPayments) : row ∈ (db.applyAll writes).bookingPayments := by
  induction writes generalizing db with
  | nil => exact member
  | cons write writes ih =>
      refine ih (fun change there => untouched change (List.mem_cons_of_mem _ there)) ?_
      cases write with
      | insertPayment inserted => exact List.mem_append_left _ member
      | updatePayment id change =>
          refine List.mem_map.mpr ⟨row, member, if_neg ?_⟩
          rintro rfl
          exact untouched change List.mem_cons_self
      | _ => exact member

/-! ## Waitlist entries -/

/-- A waitlist entry that no update names is kept. -/
theorem mem_waitlist_applyAll {db : Db} {writes : List Write} {row : WaitlistEntry}
    (untouched : ∀ change, Write.updateWaitlistEntry row.id change ∉ writes)
    (member : row ∈ db.waitlistEntries) : row ∈ (db.applyAll writes).waitlistEntries := by
  induction writes generalizing db with
  | nil => exact member
  | cons write writes ih =>
      refine ih (fun change there => untouched change (List.mem_cons_of_mem _ there)) ?_
      cases write with
      | insertWaitlistEntry inserted => exact List.mem_append_left _ member
      | updateWaitlistEntry id change =>
          refine List.mem_map.mpr ⟨row, member, if_neg ?_⟩
          rintro rfl
          exact untouched change List.mem_cons_self
      | _ => exact member

/-- Where a waitlist entry that is there after a list of writes comes from. -/
theorem mem_applyAll_waitlist {db : Db} {writes : List Write} {row : WaitlistEntry}
    (member : row ∈ (db.applyAll writes).waitlistEntries) :
    ∃ origin, (origin ∈ db.waitlistEntries ∨ Write.insertWaitlistEntry origin ∈ writes) ∧
      row.id = origin.id ∧
      ((∃ change version, Write.updateWaitlistEntry row.id change ∈ writes ∧
          row = change.apply version) ∨
        (row = origin ∧ (Write.insertWaitlistEntry origin ∈ writes ∨
          ∀ change, Write.updateWaitlistEntry row.id change ∉ writes))) := by
  induction writes generalizing db with
  | nil => exact ⟨row, .inl member, rfl, .inr ⟨rfl, .inr fun _ there => by cases there⟩⟩
  | cons write writes ih =>
      obtain ⟨origin, source, sameId, changed⟩ := ih member
      have later : ∀ {other}, other ∈ writes → other ∈ write :: writes := List.mem_cons_of_mem _
      have changedLater : (∃ change version, Write.updateWaitlistEntry row.id change ∈
          write :: writes ∧ row = change.apply version) ∨
          (row = origin ∧ (Write.insertWaitlistEntry origin ∈ writes ∨
            ∀ change, Write.updateWaitlistEntry row.id change ∉ writes)) :=
        changed.imp_left fun ⟨change, version, there, equal⟩ =>
          ⟨change, version, later there, equal⟩
      -- An update of another row, or of another table, is no reason to doubt the row.
      have spare : (∀ change, Write.updateWaitlistEntry row.id change ≠ write) →
          (row = origin ∧ (Write.insertWaitlistEntry origin ∈ writes ∨
            ∀ change, Write.updateWaitlistEntry row.id change ∉ writes)) →
          row = origin ∧ (Write.insertWaitlistEntry origin ∈ write :: writes ∨
            ∀ change, Write.updateWaitlistEntry row.id change ∉ write :: writes) := by
        rintro other ⟨equal, spared⟩
        refine ⟨equal, spared.imp later fun spared change there => ?_⟩
        rcases List.mem_cons.mp there with same | rest
        · exact other change same
        · exact spared change rest
      rcases source with old | new
      · cases write with
        | insertWaitlistEntry inserted =>
            simp only [Db.apply, List.mem_append, List.mem_singleton] at old
            refine ⟨origin, ?_, sameId, changedLater.imp_right (spare nofun)⟩
            rcases old with old | rfl
            · exact .inl old
            · exact .inr List.mem_cons_self
        | updateWaitlistEntry id change =>
            simp only [Db.apply, List.mem_map] at old
            obtain ⟨older, member, rfl⟩ := old
            by_cases named : older.id = id
            · rw [if_pos named] at sameId changedLater
              have keeps : (change.apply older).id = older.id := by cases change <;> rfl
              rw [keeps] at sameId
              refine ⟨older, .inl member, sameId, .inl ?_⟩
              rcases changedLater with found | ⟨equal, -⟩
              · exact found
              · refine ⟨change, older, ?_, equal⟩
                rw [sameId, named]
                exact List.mem_cons_self
            · rw [if_neg named] at sameId changedLater spare
              refine ⟨older, .inl member, sameId, changedLater.imp_right
                (spare fun other same => ?_)⟩
              cases same
              exact named sameId.symm
        | _ => exact ⟨origin, .inl old, sameId, changedLater.imp_right (spare nofun)⟩
      · refine ⟨origin, .inr (later new), sameId, changedLater.imp_right ?_⟩
        rintro ⟨equal, -⟩
        exact ⟨equal, .inl (later new)⟩

/-- A session finds an entry waiting only if it has inserted it, or if it is waiting in
the committed table and the session has not touched it. -/
theorem waiting_untouched {db : Db} {writes : List Write} {row : WaitlistEntry}
    (none : ∀ entry, Write.insertWaitlistEntry entry ∉ writes)
    (member : row ∈ (db.applyAll writes).waitlistEntries) (waiting : row.status = .waiting) :
    row ∈ db.waitlistEntries ∧ ∀ change, Write.updateWaitlistEntry row.id change ∉ writes := by
  obtain ⟨origin, source, -, ⟨change, version, -, equal⟩ | ⟨rfl, spared⟩⟩ :=
    mem_applyAll_waitlist member
  · rw [equal] at waiting
    cases change <;> cases waiting
  · exact ⟨source.resolve_right (none row), spared.resolve_left (none row)⟩

end Db

/-! ## Calendar events -/

/-- Two versions of one calendar event: no update touches these columns. -/
structure CalendarEvent.SameEvent (row origin : CalendarEvent) : Prop where
  id : row.id = origin.id
  tenantId : row.tenantId = origin.tenantId
  businessId : row.businessId = origin.businessId
  bookingId : row.bookingId = origin.bookingId

theorem CalendarEvent.SameEvent.refl (row : CalendarEvent) : row.SameEvent row :=
  ⟨rfl, rfl, rfl, rfl⟩

theorem CalendarEvent.SameEvent.trans {row origin older : CalendarEvent}
    (first : row.SameEvent origin) (second : origin.SameEvent older) : row.SameEvent older :=
  ⟨first.id.trans second.id, first.tenantId.trans second.tenantId,
    first.businessId.trans second.businessId, first.bookingId.trans second.bookingId⟩

theorem CalendarChange.apply_sameEvent (change : CalendarChange) (row : CalendarEvent) :
    (change.apply row).SameEvent row := by
  cases change <;> exact ⟨rfl, rfl, rfl, rfl⟩

/-- Where a calendar event that is there after a list of writes comes from. -/
theorem Db.mem_applyAll_events {db : Db} {writes : List Write} {event : CalendarEvent}
    (member : event ∈ (db.applyAll writes).calendarEvents) :
    ∃ origin, (origin ∈ db.calendarEvents ∨ Write.insertCalendarEvent origin ∈ writes) ∧
      event.SameEvent origin := by
  induction writes generalizing db with
  | nil => exact ⟨event, .inl member, .refl event⟩
  | cons write writes ih =>
      obtain ⟨origin, source, same⟩ := ih member
      rcases source with old | new
      · cases write with
        | insertCalendarEvent inserted =>
            simp only [Db.apply, List.mem_append, List.mem_singleton] at old
            refine ⟨origin, ?_, same⟩
            rcases old with old | rfl
            · exact .inl old
            · exact .inr List.mem_cons_self
        | updateCalendarEvent id change =>
            simp only [Db.apply, List.mem_map] at old
            obtain ⟨older, member, rfl⟩ := old
            refine ⟨older, .inl member, same.trans ?_⟩
            by_cases named : older.id = id
            · rw [if_pos named]
              exact change.apply_sameEvent older
            · rw [if_neg named]
              exact .refl older
        | _ => exact ⟨origin, .inl old, same⟩
      · exact ⟨origin, .inr (List.mem_cons_of_mem _ new), same⟩

end AppointmentVoice
