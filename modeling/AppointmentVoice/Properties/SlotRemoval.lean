import AppointmentVoice.Services.FoundSlots
import AppointmentVoice.Services.SequentialHolds

/-!
# Bookings and availability

A booking takes from the slots of its staff member those that it overlaps, and nothing else;
when it is cancelled or its hold expires, they are back
(`bookings_act_exactly_on_availability`).

**Two searches.**  No service writes the rows that a search reads beside the bookings
(`SameSchedule.run`), so two searches differ only in the bookings of their day
(`answer_congr`), and one booking more takes away the slots that it overlaps
(`answer_append`).  Whether a search leaves the calendar and raises does not depend on the
bookings at all (`SameSchedule.fitsCalendar`).
-/

set_option autoImplicit false

namespace AppointmentVoice

open Concurrency Intervals

/-! ## Rows that no service writes -/

/-- The rows that a search reads beside the bookings. -/
structure SameSchedule (before after : Db) : Prop where
  businesses : after.businesses = before.businesses
  services : after.services = before.services
  staff : after.staff = before.staff
  workingHours : after.workingHours = before.workingHours
  availabilityExceptions : after.availabilityExceptions = before.availabilityExceptions
  recurringStaffBlocks : after.recurringStaffBlocks = before.recurringStaffBlocks

namespace SameSchedule

variable {before after later : Db}

theorem refl (db : Db) : SameSchedule db db := ⟨rfl, rfl, rfl, rfl, rfl, rfl⟩

theorem trans (first : SameSchedule before after) (second : SameSchedule after later) :
    SameSchedule before later :=
  ⟨second.businesses.trans first.businesses, second.services.trans first.services,
    second.staff.trans first.staff, second.workingHours.trans first.workingHours,
    second.availabilityExceptions.trans first.availabilityExceptions,
    second.recurringStaffBlocks.trans first.recurringStaffBlocks⟩

theorem applyAll (db : Db) (writes : List Write) : SameSchedule db (db.applyAll writes) := by
  induction writes generalizing db with
  | nil => exact refl db
  | cons write writes ih =>
      have here : SameSchedule db (db.apply write) := by
        cases write <;> exact ⟨rfl, rfl, rfl, rfl, rfl, rfl⟩
      exact here.trans (ih (db.apply write))

/-- A statement writes none of the rows, and the clock stands still. -/
theorem exec (stmt : Stmt) (solo : Solo) :
    SameSchedule solo.db (solo.exec stmt).2.db ∧ (solo.exec stmt).2.clock = solo.clock := by
  cases stmt with
  | insert draft =>
      simp only [Solo.exec]
      split
      · exact ⟨refl _, rfl⟩
      · exact ⟨refl _, rfl⟩
  | push job =>
      simp only [Solo.exec]
      split
      · exact ⟨refl _, rfl⟩
      · exact ⟨refl _, rfl⟩
  | commit => exact ⟨applyAll _ _, rfl⟩
  | _ => exact ⟨refl _, rfl⟩

/-- Nor does a run. -/
theorem run {α : Type} (program : DbM α) (solo : Solo) :
    SameSchedule solo.db (program.run Solo.exec solo).2.db ∧
      (program.run Solo.exec solo).2.clock = solo.clock := by
  induction program generalizing solo with
  | ret value => exact ⟨refl _, rfl⟩
  | raise error => exact ⟨refl _, rfl⟩
  | call stmt next ih =>
      obtain ⟨step, clock⟩ := exec stmt solo
      obtain ⟨rest, clockToo⟩ := ih (solo.exec stmt).1 (solo.exec stmt).2
      exact ⟨step.trans rest, clockToo.trans clock⟩

/-- The search finds its rows in both or in neither. -/
theorem found {cfg : Settings} {request : SlotRequest} {business : Business} {service : Service}
    {zone : Zone} (same : SameSchedule before after)
    (found : request.Found cfg before business service zone) :
    request.Found cfg after business service zone where
  businessFound := (congrArg (List.find? _) same.businesses).trans found.businessFound
  serviceFound := (congrArg (List.find? _) same.services).trans found.serviceFound
  serviceHere := found.serviceHere
  staffFound := by
    intro id given
    obtain ⟨member, there, here⟩ := found.staffFound id given
    exact ⟨member, (congrArg (List.find? _) same.staff).trans there, here⟩
  zoneKnown := found.zoneKnown

theorem openWindows (same : SameSchedule before after) (search : SlotSearch) :
    search.openWindows after = search.openWindows before := by
  have weekWindows : search.weekWindows after = search.weekWindows before := by
    funext scope
    simp only [SlotSearch.weekWindows, SlotSearch.hours, Query.eval, same.workingHours]
  have hasSchedule : search.hasSchedule after = search.hasSchedule before := by
    funext scope
    simp only [SlotSearch.hasSchedule, Query.eval, same.workingHours]
  have chosenHours : search.chosenHours after = search.chosenHours before := by
    simp only [SlotSearch.chosenHours, weekWindows, hasSchedule]
  have exceptions : search.exceptions after = search.exceptions before := by
    simp only [SlotSearch.exceptions, Query.eval, same.availabilityExceptions]
  have blocks : search.blocks after = search.blocks before := by
    simp only [SlotSearch.blocks, Query.eval, same.recurringStaffBlocks]
  simp only [SlotSearch.openWindows, chosenHours, exceptions, blocks]

/-- The search computes the same times. -/
theorem fitsCalendar (same : SameSchedule before after) {search : SlotSearch} {zone : Zone}
    {time : Instant} :
    search.FitsCalendar after zone time ↔ search.FitsCalendar before zone time := by
  rw [SlotSearch.FitsCalendar, SlotSearch.FitsCalendar, same.openWindows]

end SameSchedule

/-! ## The slots and the bookings of the day -/

section Removal

variable {search : SlotSearch} {before after : Db} {zone : Zone} {time : Instant} {row : Booking}

/-- The slot and the booking have a moment in common. -/
def Booking.overlaps (row : Booking) (slot : Instant × Instant) : Bool :=
  row.startsAt < slot.2 && slot.1 < row.endsAt

/-- The search looks at the booking. -/
def SlotSearch.sees (search : SlotSearch) (zone : Zone) (row : Booking) : Bool :=
  row.businessId == search.businessId && row.tenantId == search.tenantId && row.status.active &&
    row.startsAt < zone.toUtc ((search.queryDate + 1) * dayLength) &&
    row.endsAt > zone.toUtc (search.queryDate * dayLength) &&
    (search.staffId.isNone || row.staffId == search.staffId)

theorem SlotSearch.dayBookings_eq (search : SlotSearch) (db : Db) (zone : Zone) :
    search.dayBookings db zone = db.bookings.filter (search.sees zone) := rfl

/-- Two searches differ only in the bookings of their day. -/
theorem found_congr (same : SameSchedule before after)
    (bookings : after.bookings.filter (search.sees zone) =
      before.bookings.filter (search.sees zone)) :
    search.found after zone time = search.found before zone time := by
  rw [SlotSearch.found, SlotSearch.found, same.openWindows, SlotSearch.freeIn, SlotSearch.freeIn,
    SlotSearch.dayBookings_eq, SlotSearch.dayBookings_eq, bookings]

/-- So they answer alike. -/
theorem answer_congr (same : SameSchedule before after)
    (bookings : after.bookings.filter (search.sees zone) =
      before.bookings.filter (search.sees zone)) :
    search.answer after zone time = search.answer before zone time := by
  by_cases fits : search.FitsCalendar before zone time
  · rw [SlotSearch.answer_ok fits, SlotSearch.answer_ok (same.fitsCalendar.mpr fits),
      found_congr same bookings]
  · rw [SlotSearch.answer_error fits, SlotSearch.answer_error (mt same.fitsCalendar.mp fits)]

/-- One booking more takes the slot away if it overlaps it. -/
theorem freeSlot_append (bookings : List Booking) (now : Instant) (duration : ℕ+)
    (start : Instant) :
    freeSlot (bookings ++ [row]) now duration start =
      (freeSlot bookings now duration start).filter fun slot => !row.overlaps slot := by
  have any : ∀ slot : Instant × Instant, ((bookings ++ [row]).any fun b =>
      b.startsAt < slot.2 && b.endsAt > slot.1) =
        ((bookings.any fun b => b.startsAt < slot.2 && b.endsAt > slot.1) ||
          row.overlaps slot) := by
    intro slot
    rw [List.any_append, List.any_cons, List.any_nil, Bool.or_false]
    rfl
  have here := any (start, start + minutes duration)
  simp only at here
  simp only [freeSlot, here]
  by_cases past : start ≤ now
  · rw [if_pos past, if_pos past, Option.filter_none]
  · rw [if_neg past, if_neg past]
    cases bookings.any fun b => b.startsAt < start + minutes duration && b.endsAt > start with
    | true => rfl
    | false =>
        cases taken : row.overlaps (start, start + minutes duration) with
        | true => simp [Option.filter, taken]
        | false => simp [Option.filter, taken]

/-- **A booking takes the slots that it overlaps.** -/
theorem found_append (same : SameSchedule before after)
    (added : after.bookings = before.bookings ++ [row])
    (sees : search.sees zone row = true ∨
      ∀ slot ∈ search.found before zone time, row.overlaps slot = false) :
    search.found after zone time =
      (search.found before zone time).filter fun slot => !row.overlaps slot := by
  by_cases seen : search.sees zone row = true
  · have bookings : search.dayBookings after zone = search.dayBookings before zone ++ [row] := by
      rw [SlotSearch.dayBookings_eq, SlotSearch.dayBookings_eq, added, List.filter_append,
        List.filter_singleton, seen]
      rfl
    rw [SlotSearch.found, SlotSearch.found, same.openWindows, SlotSearch.freeIn, SlotSearch.freeIn,
      bookings, List.filter_filterMap]
    exact List.filterMap_congr fun start _ => freeSlot_append _ _ _ start
  · have apart := sees.resolve_left seen
    have unseen : after.bookings.filter (search.sees zone) =
        before.bookings.filter (search.sees zone) := by
      rw [added, List.filter_append, List.filter_singleton, Bool.eq_false_of_not_eq_true seen]
      exact List.append_nil _
    rw [found_congr same unseen, eq_comm, List.filter_eq_self]
    intro slot there
    rw [apart slot there]
    rfl

theorem answer_append (same : SameSchedule before after)
    (added : after.bookings = before.bookings ++ [row])
    (sees : search.sees zone row = true ∨
      ∀ slot ∈ search.found before zone time, row.overlaps slot = false) :
    search.answer after zone time =
      (search.answer before zone time).map (List.filter fun slot => !row.overlaps slot) := by
  by_cases fits : search.FitsCalendar before zone time
  · rw [SlotSearch.answer_ok fits, SlotSearch.answer_ok (same.fitsCalendar.mpr fits),
      found_append same added sees]
    rfl
  · rw [SlotSearch.answer_error fits, SlotSearch.answer_error (mt same.fitsCalendar.mp fits)]
    rfl

/-- A slot of a staff member and a booking of the day that the search does not see have
nothing in common. -/
theorem overlaps_of_unseen {offset : Int}
    (ofStaff : row.staffId = search.staffId) (here : row.businessId = search.businessId)
    (tenant : row.tenantId = search.tenantId) (active : row.status.active = true)
    (unseen : search.sees (Zone.fixed offset) row = false) {slot : Instant × Instant}
    (member : slot ∈ search.found before (Zone.fixed offset) time) :
    row.overlaps slot = false := by
  obtain ⟨wall, early, late, starts⟩ := wall_of_mem_found member
  have length := (mem_found_iff.mp member).2.1
  simp only [SlotSearch.sees, ofStaff, here, tenant, active, beq_self_eq_true, Bool.or_true,
    Bool.and_true, Bool.true_and, Zone.fixed, Bool.and_eq_false_iff] at unseen
  simp only [Zone.fixed] at starts
  simp only [Booking.overlaps, Bool.and_eq_false_iff, decide_eq_false_iff_not, not_lt]
  rcases unseen with after | before
  · have later := not_lt.mp (of_decide_eq_false after)
    exact .inl (by linarith)
  · have earlier := not_lt.mp (of_decide_eq_false before)
    exact .inr (by linarith)

end Removal

/-! ## Making and ending a booking -/

/-- The calls that add a booking. -/
inductive Making where
  | booking (args : CreateBooking)
  | hold (args : CreatePendingPaymentHold)

def Making.run (cfg : Settings) : Making → DbM Booking
  | .booking args => createBooking cfg args
  | .hold args => createPendingPaymentHold args

/-- The calls that end a booking. -/
inductive Ending where
  | cancel (args : CancelBooking)
  | expire (args : BookingRef)

def Ending.run (cfg : Settings) : Ending → DbM Booking
  | .cancel args => cancelBooking cfg args
  | .expire args => expirePendingPaymentHold args

/-- The state after a call whose session has been closed. -/
def Solo.after {α : Type} (solo : Solo) (call : DbM α) : Solo :=
  (call.run Solo.exec solo).2.close

section Calls

variable {cfg : Settings} {solo : Solo}

/-- A call adds one active booking for a staff member of its business, or none. -/
theorem Making.adds (making : Making) (cfg : Settings)
    (fresh : ∀ row ∈ solo.view.bookings, row.id ≠ solo.nextId)
    (freshEvents : ∀ event ∈ solo.view.calendarEvents, event.bookingId ≠ solo.nextId) :
    (solo.after (making.run cfg)).db = solo.db ∨
      ∃ row, (solo.after (making.run cfg)).db.bookings = solo.view.bookings ++ [row] ∧
        row.id = solo.nextId ∧ row.status.active = true ∧
        StaffFound solo.view row.staffId row.businessId row.tenantId := by
  cases making with
  | booking args =>
      have ends : Ends (createBooking cfg args) solo fun _ after =>
          after.db = solo.db ∨ ∃ row, after.db.bookings = solo.view.bookings ++ [row] ∧
            row.id = solo.nextId ∧ row.status.active = true ∧
            StaffFound solo.view row.staffId row.businessId row.tenantId := by
        cases plain : args.override && blank args.reason with
        | true =>
            rw [createBooking, if_pos plain]
            exact Ends.raise (.inl rfl)
        | false =>
            refine createBooking_alone plain fresh freshEvents (fun _ _ after same _ =>
              .inl same) ?_ ?_
            · intro able _ _ service _ _ after middle done same
              exact .inr ⟨_, by rw [same]; exact done.bookings, rfl, rfl, able.2⟩
            · intro able _ _ service _ _ after done
              exact .inr ⟨_, done.bookings, rfl, rfl, able.2⟩
      exact ends
  | hold args =>
      have ends : Ends (createPendingPaymentHold args) solo fun _ after =>
          after.db = solo.db ∨ ∃ row, after.db.bookings = solo.view.bookings ++ [row] ∧
            row.id = solo.nextId ∧ row.status.active = true ∧
            StaffFound solo.view row.staffId row.businessId row.tenantId :=
        createPendingPaymentHold_alone fresh (fun _ after same => .inl same)
          fun service found _ after bookings => .inr ⟨_, bookings, rfl, rfl, found⟩
      exact ends

/-- A call cancels the rows with one key, or none. -/
theorem Ending.cancels (ending : Ending) (cfg : Settings)
    (keys : (Table.bookings.ids solo.view).Nodup) :
    (solo.after (ending.run cfg)).db = solo.db ∨
      ∃ id reason, (solo.after (ending.run cfg)).db.bookings = solo.view.bookings.map fun row =>
        if row.id = id then BookingChange.apply (.cancel reason) row else row := by
  cases ending with
  | cancel args =>
      have ends : Ends (cancelBooking cfg args) solo fun _ after =>
          after.db = solo.db ∨ ∃ id reason, after.db.bookings = solo.view.bookings.map fun row =>
            if row.id = id then BookingChange.apply (.cancel reason) row else row := by
        cases plain : args.override && blank args.reason with
        | true =>
            rw [cancelBooking, if_pos plain]
            exact Ends.raise (.inl rfl)
        | false =>
            by_cases there : ∃ booking, Query.eval (.booking args.bookingId args.tenantId)
                solo.view = some booking ∧ booking.businessId = args.businessId ∧
                  booking.status ≠ .cancelled
            · obtain ⟨booking, found, here, active⟩ := there
              refine cancelBooking_alone plain keys found here active
                (fun _ _ after same _ => .inl same) ?_ ?_
              · intro _ _ _ _ _ _ after middle done same
                exact .inr ⟨_, _, by rw [same]; exact done.bookings⟩
              · intro _ _ _ _ _ _ after done _
                exact .inr ⟨_, _, done.bookings⟩
            · rw [cancelBooking, plain, if_neg Bool.false_ne_true]
              refine Ends.now ?_
              refine Ends.requireBookingInBusinessForUpdate (fun _ _ => .inl rfl)
                fun booking found here => ?_
              by_cases cancelled : booking.status = .cancelled
              · rw [if_pos cancelled]
                exact Ends.raise (.inl rfl)
              · exact absurd ⟨booking, found, here, cancelled⟩ there
      exact ends
  | expire args =>
      have ends : Ends (expirePendingPaymentHold args) solo fun _ after =>
          after.db = solo.db ∨ ∃ id reason, after.db.bookings = solo.view.bookings.map fun row =>
            if row.id = id then BookingChange.apply (.cancel reason) row else row :=
        expirePendingPaymentHold_alone keys (fun _ _ same => .inl same)
          fun _ _ bookings => .inr ⟨_, _, bookings⟩
      exact ends

/-- The search after a call whose session has been closed. -/
theorem Solo.after_answer {α : Type} {request : SlotRequest} {business : Business}
    {service : Service} {zone : Zone} (found : request.Found cfg solo.db business service zone)
    (call : DbM α) :
    ((request.run cfg).run Solo.exec (solo.after call)).1 =
      (request.search service).answer (solo.after call).db zone solo.clock := by
  obtain ⟨same, clock⟩ := SameSchedule.run call solo
  have foundAfter : request.Found cfg (solo.after call).view business service zone :=
    same.found found
  rw [SlotRequest.run_found foundAfter]
  change SlotSearch.answer _ _ _ _ = _
  rw [show (solo.after call).clock = solo.clock from clock]
  rfl

/-- The bookings that a search sees after a row has been added and cancelled. -/
theorem sees_cancelled {search : SlotSearch} {zone : Zone} {bookings : List Booking}
    {row : Booking} (fresh : ∀ other ∈ bookings, other.id ≠ row.id) (reason : Option String) :
    ((bookings ++ [row]).map fun other => if other.id = row.id then
        BookingChange.apply (.cancel reason) other else other).filter (search.sees zone) =
      bookings.filter (search.sees zone) := by
  have kept : (bookings.map fun other => if other.id = row.id then
      BookingChange.apply (.cancel reason) other else other) = bookings := by
    refine (List.map_congr_left fun other there => ?_).trans (List.map_id bookings)
    rw [if_neg (fresh other there)]
    rfl
  have unseen : search.sees zone (BookingChange.apply (.cancel reason) row) = false := by
    have inactive : (BookingChange.apply (.cancel reason) row).status.active = false := rfl
    simp only [SlotSearch.sees, inactive, Bool.and_false, Bool.false_and]
  rw [List.map_append, kept, List.filter_append, List.map_singleton, if_pos rfl,
    List.filter_singleton, unseen]
  exact List.append_nil _

end Calls

/-- A staff member belongs to one business. -/
theorem StaffFound.same {db : Db} {staffId businessId otherBusiness tenantId otherTenant : Nat}
    (keys : (db.staff.map (·.id)).Nodup) (one : StaffFound db (some staffId) businessId tenantId)
    (two : StaffFound db (some staffId) otherBusiness otherTenant) :
    otherBusiness = businessId ∧ otherTenant = tenantId := by
  obtain ⟨member, there, here⟩ := one staffId rfl
  obtain ⟨other, thereToo, hereToo⟩ := two staffId rfl
  have key := List.find?_some there
  have keyToo := List.find?_some thereToo
  rw [Bool.and_eq_true, beq_iff_eq, beq_iff_eq] at key keyToo
  have same := List.inj_on_of_nodup_map keys (List.mem_of_find?_eq_some there)
    (List.mem_of_find?_eq_some thereToo) (key.1.trans keyToo.1.symm)
  subst same
  exact ⟨hereToo.symm.trans here, keyToo.2.symm.trans key.2⟩

section Ended

variable {cfg : Settings} {solo : Solo} {bookings : List Booking} {row : Booking}

/-- When the last row is cancelled by a call, the bookings that a search sees are those
before it. -/
theorem Ending.restores (ending : Ending) (idle : solo.writes = [])
    (rows : solo.db.bookings = bookings ++ [row]) (keys : (Table.bookings.ids solo.db).Nodup)
    (active : row.status.active = true) {ended : Booking}
    (there : ended ∈ (solo.after (ending.run cfg)).db.bookings) (same : ended.id = row.id)
    (cancelled : ended.status = .cancelled) (search : SlotSearch) (zone : Zone) :
    (solo.after (ending.run cfg)).db.bookings.filter (search.sees zone) =
      bookings.filter (search.sees zone) := by
  have whole : solo.view = solo.db := by
    rw [Solo.view, idle]
    rfl
  have rowThere : row ∈ solo.db.bookings := by
    rw [rows]
    exact List.mem_append_right _ List.mem_cons_self
  have live : row.status ≠ .cancelled := by
    intro dead
    rw [dead] at active
    cases active
  have fresh : ∀ other ∈ bookings, other.id ≠ row.id := by
    rw [Table.ids, rows, List.map_append, List.nodup_append] at keys
    exact fun other old => keys.2.2 other.id (List.mem_map_of_mem old) row.id List.mem_cons_self
  obtain unchanged | ⟨key, reason, changed⟩ := ending.cancels cfg (whole ▸ keys)
  · rw [unchanged] at there
    rw [List.inj_on_of_nodup_map keys there rowThere same] at cancelled
    exact absurd cancelled live
  · rw [whole] at changed
    rw [changed, List.mem_map] at there
    obtain ⟨other, otherThere, rfl⟩ := there
    have sameId : other.id = row.id := by
      rw [← same]
      split <;> rfl
    obtain rfl := List.inj_on_of_nodup_map keys otherThere rowThere sameId
    by_cases hit : other.id = key
    · subst hit
      rw [changed, rows]
      exact sees_cancelled fresh reason
    · rw [if_neg hit] at cancelled
      exact absurd cancelled live

end Ended

/-! ## Results -/

/-- **Booking and cancelling act on availability exactly.** In a zone with a constant offset,
a booking for a staff member leaves of the staff member's slots those that it does not
overlap, in their order; a booking for anybody else leaves all of them; and when the booking
has been cancelled or its hold has expired, the slots are those before it.  On a date inside
the calendar the searches return these lists; where one leaves the calendar, all raise. -/
theorem bookings_act_exactly_on_availability (cfg : Settings) (solo : Solo)
    (idle : solo.writes = []) (wellFormed : solo.db.WellFormed solo.nextId)
    (staffKeys : (solo.db.staff.map (·.id)).Nodup) (request : SlotRequest) (staffId : Nat)
    (given : request.staffId = some staffId) {business : Business} {service : Service}
    {offset : Int} (found : request.Found cfg solo.db business service (Zone.fixed offset))
    (making : Making) (row : Booking) (added : row ∈ (solo.after (making.run cfg)).db.bookings)
    (new : row ∉ solo.db.bookings) :
    ∃ answer, (request.run cfg).run Solo.exec solo = (answer, solo) ∧
      ((request.search service).InsideCalendar offset → ∃ slots, answer = .ok slots) ∧
      (∀ error, answer = .error error → error = .overflow) ∧
      (row.staffId = some staffId →
        ((request.run cfg).run Solo.exec (solo.after (making.run cfg))).1 =
          answer.map (List.filter fun slot => !row.overlaps slot)) ∧
      (row.staffId ≠ some staffId →
        ((request.run cfg).run Solo.exec (solo.after (making.run cfg))).1 = answer) ∧
      ∀ (ending : Ending) (ended : Booking),
        ended ∈ ((solo.after (making.run cfg)).after (ending.run cfg)).db.bookings →
        ended.id = row.id → ended.status = .cancelled →
        ((request.run cfg).run Solo.exec
          ((solo.after (making.run cfg)).after (ending.run cfg))).1 = answer := by
  have whole : solo.view = solo.db := by
    rw [Solo.view, idle]
    rfl
  have foundHere : request.Found cfg solo.view business service (Zone.fixed offset) := by
    rw [whole]
    exact found
  have keys : (Table.bookings.ids solo.view).Nodup := by
    rw [whole]
    exact wellFormed.keys .bookings
  have fresh : ∀ other ∈ solo.view.bookings, other.id ≠ solo.nextId := by
    rw [whole]
    exact fun other there => (wellFormed.below .bookings other.id (List.mem_map_of_mem there)).ne
  have freshEvents : ∀ event ∈ solo.view.calendarEvents, event.bookingId ≠ solo.nextId := by
    rw [whole]
    exact fun event there => (wellFormed.below .bookings _ (wellFormed.events event there)).ne
  -- The booking that was added is the last row.
  obtain unchanged | ⟨last, bookings, id, active, staffFound⟩ :=
    making.adds cfg fresh freshEvents
  · rw [unchanged] at added
    exact absurd added new
  rw [whole] at bookings fresh staffFound
  rw [bookings, List.mem_append, List.mem_singleton] at added
  obtain rfl := added.resolve_left new
  have schedule := (SameSchedule.run (making.run cfg) solo).1
  have madeFound : request.Found cfg (solo.after (making.run cfg)).db business service
      (Zone.fixed offset) := schedule.found found
  rw [← id] at fresh
  refine ⟨_, SlotRequest.run_found foundHere, fun inside => ⟨_, inside.answerIn _⟩, ?_,
    fun mine => ?_, fun others => ?_, ?_⟩
  · intro error raised
    by_cases fits : (request.search service).FitsCalendar solo.view (Zone.fixed offset) solo.clock
    · rw [SlotSearch.answer_ok fits] at raised
      cases raised
    · rw [SlotSearch.answer_error fits] at raised
      cases raised
      rfl
  · rw [Solo.after_answer found, whole]
    obtain ⟨sameBusiness, sameTenant⟩ := StaffFound.same staffKeys (given ▸ found.staffFound)
      (mine ▸ staffFound)
    refine answer_append schedule bookings ?_
    cases seen : ((request.search service).sees (Zone.fixed offset) row) with
    | true => exact .inl rfl
    | false =>
        refine .inr fun slot member => ?_
        exact overlaps_of_unseen (mine.trans given.symm) sameBusiness sameTenant active seen member
  · rw [Solo.after_answer found, whole]
    have unseen : (request.search service).sees (Zone.fixed offset) row = false := by
      have notMine : (row.staffId == request.staffId) = false := by
        rw [beq_eq_false_iff_ne, given]
        exact others
      have someone : request.staffId.isNone = false := by
        rw [given]
        rfl
      simp only [SlotSearch.sees, SlotRequest.search, notMine, someone, Bool.or_false,
        Bool.and_false]
    refine answer_congr schedule ?_
    rw [bookings, List.filter_append, List.filter_singleton, unseen]
    exact List.append_nil _
  · intro ending ended there same cancelled
    rw [Solo.after_answer madeFound, whole]
    have keysAfter : (Table.bookings.ids (solo.after (making.run cfg)).db).Nodup := by
      change ((solo.after (making.run cfg)).db.bookings.map (·.id)).Nodup
      rw [bookings, List.map_append, List.map_singleton, List.nodup_append]
      refine ⟨wellFormed.keys .bookings, List.nodup_singleton _, ?_⟩
      intro key old other new
      obtain ⟨before, thereBefore, rfl⟩ := List.mem_map.mp old
      rw [List.mem_singleton.mp new]
      exact fresh before thereBefore
    have clock : (solo.after (making.run cfg)).clock = solo.clock :=
      (SameSchedule.run (making.run cfg) solo).2
    have scheduleAfter := (SameSchedule.run (ending.run cfg) (solo.after (making.run cfg))).1
    rw [clock]
    exact answer_congr (schedule.trans scheduleAfter)
      (ending.restores rfl bookings keysAfter active there same cancelled _ _)

/-- The salon of the first Monday before any appointment. -/
def quietMonday : Solo := ⟨mondayDb, [], 10, 0, [], 0, fun _ => true, .start⟩

/-- The appointment of half past eleven takes its slot from the Monday. -/
theorem monday_appointment_takes_its_slot :
    ∃ slots, (mondayRequest.run sampleSettings).run Solo.exec quietMonday =
        (.ok slots, quietMonday) ∧
      ((mondayRequest.run sampleSettings).run Solo.exec
        (quietMonday.after (createBooking sampleSettings (takeSlot (some 1))))).1 =
          .ok (slots.filter fun slot => !{ takingBooking with id := 10 }.overlaps slot) := by
  have found : mondayRequest.Found sampleSettings quietMonday.db sampleSalon sampleService
      (Zone.fixed 0) := by
    refine ⟨rfl, rfl, rfl, ?_, ?_⟩
    · rintro _ ⟨⟩
      exact ⟨⟨1, 1, 1, "Anna", none, true⟩, rfl, rfl⟩
    · simp [sampleSettings, sampleSalon, Zone.fixed, Function.id_def]
  obtain ⟨answer, before, returns, -, taken, -⟩ :=
    bookings_act_exactly_on_availability sampleSettings quietMonday
    rfl mondayDb_wellFormed (by decide) mondayRequest 1 rfl found (.booking (takeSlot (some 1)))
    { takingBooking with id := 10 } (by decide +kernel) (by decide)
  obtain ⟨slots, rfl⟩ := returns ⟨by decide, by decide, by decide, by decide⟩
  exact ⟨slots, before, taken rfl⟩

end AppointmentVoice
