import AppointmentVoice.Properties.NoDoubleBooking
import AppointmentVoice.Properties.SpecialHours
import AppointmentVoice.Services.SequentialBooking
import AppointmentVoice.Services.Statements

/-!
# What search shows and what booking accepts

The slot search and `create_booking` decide separately whether a slot is taken.
For a staff member they look at the same bookings, as long as the slot lies
between the two midnights of its day in UTC: the search compares its slots only
with the bookings of that range, and a slot of the wall clock can leave it on a
date on which the offset changes.  Without a staff member `create_booking` compares
the slot with nothing.

**The result.** `hidden_staff_slots_are_refused` for a staff member; without one, what the
search hides is booked all the same (`taken_slot_of_anybody_is_booked`).
-/

set_option autoImplicit false

namespace AppointmentVoice

open Concurrency Intervals

/-! ## What search hides -/

/-- A slot of the schedule that the search leaves out, and an active booking in its
scope that overlaps it. -/
structure SlotRequest.Hidden (cfg : Settings) (request : SlotRequest) (solo : Solo)
    (service : Service) (zone : Zone) (slot : Instant × Instant) : Prop where
  onGrid : ∃ hours : List (Window TimeOfDay),
    (∀ window, window ∈ hours ↔ (request.search service).WorkingWindow solo.view window) ∧
      slot.1 ∈ (request.search service).startsIn zone (effectiveWindows hours
        ((request.search service).exceptions solo.view) ((request.search service).blocks solo.view))
  length : slot.2 = slot.1 + minutes service.durationMinutes
  inCalendar : InCalendar slot.2
  leftOut : ∀ slots, (request.run cfg).run Solo.exec solo = (.ok slots, solo) → slot ∉ slots
  booked : ∃ booking, (request.search service).Booked solo.view booking ∧
    booking.startsAt < slot.2 ∧ slot.1 < booking.endsAt

/-- The arguments of `create_booking` for a slot of the search. -/
structure SlotRequest.Books (request : SlotRequest) (slot : Instant × Instant)
    (args : CreateBooking) : Prop where
  tenant : args.tenantId = request.tenantId
  business : args.businessId = request.businessId
  service : args.serviceId = request.serviceId
  staff : args.staffId = request.staffId
  starts : args.startsAt = slot.1
  allowed : (args.override && blank args.reason) = false

/-- The customer is there and belongs to the business. -/
def CustomerFound (db : Db) (args : CreateBooking) : Prop :=
  ∃ customer : Customer, Query.eval (.customer args.customerId args.tenantId) db = some customer ∧
    customer.businessId = args.businessId

section Hidden

variable {cfg : Settings} {request : SlotRequest} {solo : Solo} {business : Business}
variable {service : Service} {zone : Zone} {slot : Instant × Instant} {args : CreateBooking}

/-- A call that finds its rows and a conflicting booking raises and changes
nothing. -/
theorem createBooking_conflict (found : request.Found cfg solo.view business service zone)
    (fits : InCalendar (slot.1 + minutes service.durationMinutes))
    (books : request.Books slot args) (customer : CustomerFound solo.view args) {staffId : Nat}
    (given : request.staffId = some staffId) {booking : Booking}
    (there : booking ∈ solo.view.bookings)
    (conflicts : conflictsWith staffId request.businessId slot.1
      (slot.1 + minutes service.durationMinutes) none booking = true) :
    (createBooking cfg args).run Solo.exec solo = (.error slotTaken, solo) := by
  suffices ends : Ends (createBooking cfg args) solo fun result after =>
      result = .error slotTaken ∧ after = solo from Prod.ext ends.1 ends.2
  have staffFound : StaffFound solo.view args.staffId args.businessId args.tenantId := by
    rw [books.staff, books.business, books.tenant]
    exact found.staffFound
  rw [createBooking, books.allowed, if_neg Bool.false_ne_true]
  refine Ends.now ?_
  refine Ends.requireBusiness (fun missing => ?_) fun row there => ?_
  · rw [books.business, books.tenant, found.businessFound] at missing
    cases missing
  refine Ends.requireCustomerInBusiness (fun missing => ?_) fun row there here => ?_
  · obtain ⟨row, there, here⟩ := customer
    exact absurd here (missing row there)
  refine Ends.requireServiceInBusiness (fun missing => ?_) fun row there here => ?_
  · rw [books.service, books.tenant, books.business] at missing
    exact absurd found.serviceHere (missing service found.serviceFound)
  rw [books.service, books.tenant, found.serviceFound] at there
  cases there
  refine Ends.requireStaffIfGiven (fun missing => absurd staffFound missing) fun _ => ?_
  rw [← books.starts] at fits
  refine Ends.orOverflow (fun leaves => absurd fits leaves) fun _ => ?_
  refine Ends.checkDoubleBooking (fun id conflict _ _ => ⟨rfl, rfl⟩) fun free => ?_
  have clear := free staffId (books.staff.trans given)
  rw [books.business, books.starts] at clear
  exact absurd conflicts (List.find?_eq_none.mp clear booking ‹_›)

end Hidden

/-- **What search hides for a staff member, booking refuses.** A slot that the
search for a staff member leaves out beside a booking is refused by
`create_booking` in the same state, which it leaves as it is; and no interleaving
of any calls ends with two active bookings of one staff member that overlap. -/
theorem hidden_staff_slots_are_refused (cfg : Settings) :
    (∀ (request : SlotRequest) (solo : Solo) (business : Business) (service : Service) (zone : Zone)
        (slot : Instant × Instant) (args : CreateBooking), request.staffId ≠ none →
      request.Found cfg solo.view business service zone →
      request.Hidden cfg solo service zone slot → request.Books slot args →
      CustomerFound solo.view args →
        (createBooking cfg args).run Solo.exec solo = (.error slotTaken, solo)) ∧
    ∀ (db : Db) (nextId : Nat), db.WellFormed nextId → ∀ clock redisTakes config,
      BookingRun cfg (bookingStart db nextId clock redisTakes) config →
        NoDoubleBooking config.world.db := by
  refine ⟨?_, fun db nextId wellFormed clock redisTakes config runs =>
    noDoubleBooking_in_every_run wellFormed runs⟩
  intro request solo business service zone slot args staffed found hidden books customer
  obtain ⟨staffId, given⟩ := Option.ne_none_iff_exists'.mp staffed
  obtain ⟨booking, ⟨there, here, _, active, staff⟩, starts, ends⟩ := hidden.booked
  have ofStaff : booking.staffId = some staffId := by
    rcases staff with none | same
    · exact absurd none staffed
    · exact same.trans given
  refine createBooking_conflict found (hidden.length ▸ hidden.inCalendar) books customer given
    there ?_
  rw [hidden.length] at starts
  simp only [conflictsWith, ofStaff, show booking.businessId = request.businessId from here, active,
    starts, ends, beq_self_eq_true, decide_true, Bool.and_self, Bool.true_and,
    bne_iff_ne, ne_eq, reduceCtorEq, not_false_eq_true]

/-- The salon of the first Monday, on which one appointment is taken. -/
def sampleTaken : Solo := ⟨sampleMonday, [], 10, 0, [], 0, fun _ => true, .start⟩

theorem sampleTaken_found (staffId : Option Nat)
    (there : StaffFound sampleMonday staffId 1 1) :
    SlotRequest.Found sampleSettings ⟨1, 1, 1, staffId, 4⟩ sampleTaken.view sampleSalon
      sampleService ⟨id, id⟩ :=
  ⟨rfl, rfl, rfl, there, rfl⟩

/-- The slot of half past eleven, which is taken. -/
def takenSlot : Instant × Instant := (combine 4 (clockTime 11 30), combine 4 (clockTime 12 0))

def takeSlot (staffId : Option Nat) : CreateBooking :=
  { tenantId := 1, businessId := 1, customerId := 1, serviceId := 1, staffId := staffId,
    startsAt := takenSlot.1 }

/-- The appointment that takes the slot. -/
def takingBooking : Booking :=
  ⟨2, 1, 1, 1, 1, some 1, combine 4 (clockTime 11 30), combine 4 (clockTime 12 0), .confirmed, .api,
    none, 0⟩

theorem takenSlot_left_out (staffId : Option Nat)
    (answer : ((SlotRequest.run sampleSettings ⟨1, 1, 1, staffId, 4⟩).run Solo.exec
      sampleTaken).1.map (·.contains takenSlot) = .ok false) :
    ∀ slots, (SlotRequest.run sampleSettings ⟨1, 1, 1, staffId, 4⟩).run Solo.exec sampleTaken =
      (.ok slots, sampleTaken) → takenSlot ∉ slots := by
  intro slots result member
  rw [result] at answer
  have absent : slots.contains takenSlot = false := Except.ok.inj answer
  rw [List.contains_iff_mem.mpr member] at absent
  cases absent

theorem sampleMonday_hoursOf {staffId : Option Nat} {row : WorkingHours}
    (hours : ((⟨1, 1, 1, staffId, 4⟩ : SlotRequest).search sampleService).HoursOf sampleMonday none
      row) : row.window = (clockTime 9 0, clockTime 12 0) := by
  obtain ⟨there, -, -, scope⟩ := hours
  simp only [sampleMonday, List.mem_cons, List.not_mem_nil, or_false] at there
  rcases there with rfl | rfl
  · rfl
  · cases scope

/-- Whoever is searched for, the salon's hours are there. -/
theorem sampleMonday_salon (staffId : Option Nat) :
    ((⟨1, 1, 1, staffId, 4⟩ : SlotRequest).search sampleService).OpenFor sampleMonday none
      (clockTime 9 0, clockTime 12 0) :=
  ⟨_, ⟨List.mem_cons_self, rfl, rfl, rfl⟩, rfl, rfl⟩

theorem takenSlot_hidden_from_anybody :
    SlotRequest.Hidden sampleSettings ⟨1, 1, 1, none, 4⟩ sampleTaken sampleService ⟨id, id⟩
      takenSlot where
  onGrid := by
    refine ⟨[(clockTime 9 0, clockTime 12 0)], fun window => ?_, by decide +kernel⟩
    rw [List.mem_singleton]
    constructor
    · rintro rfl
      exact .salon (.inl rfl) (sampleMonday_salon none)
    · rintro (⟨_, row, hours, _, rfl⟩ | ⟨given⟩ | ⟨given⟩)
      · exact sampleMonday_hoursOf hours
      · exact absurd rfl given
      · exact absurd rfl given
  length := by decide +kernel
  inCalendar := by decide +kernel
  leftOut := takenSlot_left_out none (by decide +kernel)
  booked :=
    ⟨takingBooking, ⟨List.mem_singleton.mpr rfl, rfl, rfl, rfl, .inl rfl⟩, by decide +kernel,
    by decide +kernel⟩

theorem takenSlot_hidden_from_staff :
    SlotRequest.Hidden sampleSettings ⟨1, 1, 1, some 1, 4⟩ sampleTaken sampleService ⟨id, id⟩
      takenSlot where
  onGrid := by
    have staff : ((⟨1, 1, 1, some 1, 4⟩ : SlotRequest).search sampleService).OpenFor sampleMonday
        (some 1) (clockTime 10 0, clockTime 13 0) :=
      ⟨_, ⟨List.mem_cons_of_mem _ List.mem_cons_self, rfl, rfl, rfl⟩, rfl, rfl⟩
    have scheduled : ((⟨1, 1, 1, some 1, 4⟩ : SlotRequest).search sampleService).Scheduled
        sampleMonday (some 1) := staff.imp fun _ opens => opens.1
    have scheduledToo : ((⟨1, 1, 1, some 1, 4⟩ : SlotRequest).search sampleService).Scheduled
        sampleMonday none := (sampleMonday_salon _).imp fun _ opens => opens.1
    refine ⟨[(clockTime 10 0, clockTime 12 0)], fun window => ?_, by decide +kernel⟩
    rw [List.mem_singleton]
    constructor
    · rintro rfl
      exact .common (Option.some_ne_none 1) scheduled scheduledToo staff (sampleMonday_salon _)
        (by decide)
    · rintro (⟨alone, _⟩ | ⟨_, _, alone, _⟩ | ⟨_, _, _, ⟨own, hoursOwn, _, rfl⟩,
        ⟨row, hours, _, rfl⟩, _⟩)
      · exact absurd alone (not_or.mpr ⟨Option.some_ne_none 1, not_not.mpr scheduled⟩)
      · exact absurd scheduledToo alone
      · obtain ⟨there, -, -, scope⟩ := hoursOwn
        change own ∈ sampleMonday.workingHours at there
        simp only [sampleMonday, List.mem_cons, List.not_mem_nil, or_false] at there
        rcases there with rfl | rfl
        · cases scope
        · rw [sampleMonday_hoursOf hours]
          rfl
  length := by decide +kernel
  inCalendar := by decide +kernel
  leftOut := takenSlot_left_out (some 1) (by decide +kernel)
  booked :=
    ⟨takingBooking, ⟨List.mem_singleton.mpr rfl, rfl, rfl, rfl, .inr rfl⟩, by decide +kernel,
    by decide +kernel⟩

theorem takeSlot_books (staffId : Option Nat) :
    SlotRequest.Books ⟨1, 1, 1, staffId, 4⟩ takenSlot (takeSlot staffId) :=
  ⟨rfl, rfl, rfl, rfl, rfl, rfl⟩

theorem taken_slot_of_staff_is_refused :
    (createBooking sampleSettings (takeSlot (some 1))).run Solo.exec sampleTaken =
      (.error slotTaken, sampleTaken) := by
  refine (hidden_staff_slots_are_refused sampleSettings).1 ⟨1, 1, 1, some 1, 4⟩ sampleTaken
    sampleSalon sampleService ⟨id, id⟩ takenSlot (takeSlot (some 1)) (Option.some_ne_none 1)
    (sampleTaken_found (some 1) ?_) takenSlot_hidden_from_staff (takeSlot_books _)
    ⟨_, rfl, rfl⟩
  rintro _ ⟨⟩
  exact ⟨_, rfl, rfl⟩

/-- Without a staff member the hidden slot is booked all the same. -/
theorem taken_slot_of_anybody_is_booked :
    ¬∀ (cfg : Settings) (request : SlotRequest) (solo : Solo) (business : Business)
      (service : Service) (zone : Zone) (slot : Instant × Instant) (args : CreateBooking),
      request.Found cfg solo.view business service zone →
      request.Hidden cfg solo service zone slot → request.Books slot args →
      CustomerFound solo.view args →
        ∃ message, ((createBooking cfg args).run Solo.exec solo).1 =
          .error (.conflict message) := by
  intro refused
  obtain ⟨message, raised⟩ := refused sampleSettings ⟨1, 1, 1, none, 4⟩ sampleTaken sampleSalon
    sampleService ⟨id, id⟩ takenSlot (takeSlot none) (sampleTaken_found none nofun)
    takenSlot_hidden_from_anybody (takeSlot_books none) ⟨_, rfl, rfl⟩
  have accepted : ((createBooking sampleSettings (takeSlot none)).run Solo.exec
    sampleTaken).1.toBool =
      true := by
    decide +kernel
  rw [raised] at accepted
  cases accepted

end AppointmentVoice
