import AppointmentVoice.Properties.SearchAndBooking
import AppointmentVoice.Services.StaffScope

/-!
# What search offers a staff member

The search loads the bookings that meet the day between its two midnights, turned
into UTC, and compares its slots with these.  As long as no slot of the day leaves
that range, every slot it offers for a staff member is accepted by
`create_booking`.  On a date on which the clock is put forward shortly before
midnight the last slots of the day do leave it, and a booking of the next day can
be in their way.

**The result.** `offered_slots_are_accepted`, for every state that any run reaches;
`slot_before_spring_midnight_is_refused` is such a date.
-/

set_option autoImplicit false

namespace AppointmentVoice

open Concurrency Intervals

/-- The slots of a length that lie within a day on the wall clock lie between its
two midnights in UTC. -/
def Zone.KeepsDay (zone : Zone) (date : Date) (duration : ℕ+) : Prop :=
  ∀ wall, date * dayLength ≤ wall → wall + minutes duration < (date + 1) * dayLength →
    zone.toUtc (date * dayLength) ≤ zone.toUtc wall ∧
      zone.toUtc wall + minutes duration ≤ zone.toUtc ((date + 1) * dayLength)

/-- The staff member is free for the slot, and neither the check of the service nor
the constraint of the database is in its way. -/
structure SlotRequest.Accepted (request : SlotRequest) (db : Db) (staffId : Nat)
    (service : Service) (slot : Instant × Instant) : Prop where
  free : ∀ booking ∈ db.bookings, booking.staffId = some staffId → booking.status.active = true →
    ¬(booking.startsAt < slot.2 ∧ slot.1 < booking.endsAt)
  checked : Query.eval (.doubleBooking staffId request.businessId slot.1 slot.2 none) db = none
  inserted : ∀ args id createdAt, request.Books slot args →
    db.violated (.insertBooking (args.row service id createdAt)) = none

section Offered

variable {cfg : Settings} {request : SlotRequest} {solo : Solo} {business : Business}
variable {service : Service} {zone : Zone} {slots : List (Instant × Instant)}

/-- A start of a slot is a wall-clock time of the day from which the slot stays in
the day. -/
theorem wall_of_mem_startsIn {search : SlotSearch} {windows : List (Window TimeOfDay)}
    {start : Instant} (member : start ∈ search.startsIn zone windows) :
    ∃ wall, search.queryDate * dayLength ≤ wall ∧
      wall + minutes search.duration < (search.queryDate + 1) * dayLength ∧
      start = zone.toUtc wall := by
  rw [SlotSearch.startsIn, mem_sortedSet, List.mem_flatMap] at member
  obtain ⟨window, -, inside⟩ := member
  rw [slotsInWindow, List.mem_map] at inside
  obtain ⟨wall, onGrid, rfl⟩ := inside
  obtain ⟨count, rfl, room⟩ := (mem_grid (minutes_pos search.duration.pos)).mp onGrid
  have steps : 0 ≤ (count : Int) * minutes search.duration := by
    have positive := minutes_pos search.duration.pos
    positivity
  have early : (0 : Int) ≤ window.1.val := Int.natCast_nonneg _
  have late : (window.2.val : Int) < dayLength := Int.ofNat_lt.mpr window.2.isLt
  have next : (search.queryDate + 1) * dayLength =
    search.queryDate * dayLength + dayLength := by ring
  rw [combine] at room ⊢
  refine ⟨_, by linarith, ?_, rfl⟩
  rw [combine] at room
  linarith

/-- The search has computed the end of every slot that it finds. -/
theorem end_mem_computedIn {search : SlotSearch} {db : Db} {now : Instant}
    {windows : List (Window TimeOfDay)} {slot : Instant × Instant}
    (member : slot ∈ search.freeIn db zone now windows) :
    slot.2 ∈ search.computedIn zone now windows := by
  obtain ⟨start, isStart, given⟩ := List.mem_filterMap.mp member
  obtain ⟨rfl, length, later, -⟩ := freeSlot_eq_some.mp given
  have some : ¬(search.startsIn zone windows).isEmpty = true := by
    rw [List.isEmpty_iff]
    exact List.ne_nil_of_mem isStart
  rw [SlotSearch.computedIn, if_neg some]
  refine List.mem_append_right _ (List.mem_append_right _ (List.mem_map.mpr ⟨slot.1, ?_, ?_⟩))
  · exact List.mem_filter.mpr ⟨isStart, decide_eq_true later⟩
  · exact length.symm

/-- What the search returns for a day that keeps its slots ends in the calendar and is
free of every booking in its scope. -/
theorem free_of_offered (found : request.Found cfg solo.view business service zone)
    (keeps : zone.KeepsDay request.queryDate ⟨service.durationMinutes, service.durationPositive⟩)
    (result : (request.run cfg).run Solo.exec solo = (.ok slots, solo))
    {slot : Instant × Instant} (offered : slot ∈ slots) :
    slot.2 = slot.1 + minutes service.durationMinutes ∧ InCalendar slot.2 ∧
      ∀ booking, (request.search service).Booked solo.view booking →
        ¬(booking.startsAt < slot.2 ∧ slot.1 < booking.endsAt) := by
  have ends : Ends (request.run cfg) solo fun result _ => ∀ slots, result = .ok slots →
      ∀ slot ∈ slots, slot.2 = slot.1 + minutes service.durationMinutes ∧ InCalendar slot.2 ∧
        ∀ booking, (request.search service).Booked solo.view booking →
          ¬(booking.startsAt < slot.2 ∧ slot.1 < booking.endsAt) := by
    refine SlotRequest.run_ends found (fun _ => ?_) (fun _ => ?_) fun hours _ _ _ => ?_
    · rintro _ ⟨⟩ slot member
      cases member
    · rintro _ ⟨⟩ slot member
      cases member
    intro slots answer slot member
    rw [SlotSearch.answerIn_eq_ok_iff] at answer
    obtain ⟨fits, rfl⟩ := answer
    have ended := fits _ (end_mem_computedIn member)
    obtain ⟨start, isStart, given⟩ := List.mem_filterMap.mp member
    obtain ⟨rfl, length, -, clear⟩ := freeSlot_eq_some.mp given
    obtain ⟨wall, early, late, utc⟩ := wall_of_mem_startsIn isStart
    obtain ⟨starts, ends⟩ := keeps wall early late
    rw [← utc] at starts ends
    refine ⟨length, ended, fun booking ⟨there, ofBusiness, ofTenant, active, staff⟩
      ⟨before, after⟩ => ?_⟩
    rw [List.any_eq_false] at clear
    refine clear booking ?_ ?_
    · simp only [SlotSearch.dayBookings, Query.eval, List.mem_filter, Bool.and_eq_true,
        Bool.or_eq_true, beq_iff_eq, decide_eq_true_eq, Option.isNone_iff_eq_none]
      rw [length] at before
      exact ⟨there, ⟨⟨⟨⟨ofBusiness, ofTenant⟩, active⟩, before.trans_le ends⟩,
        starts.trans_lt after⟩, staff⟩
    · simp only [Bool.and_eq_true, decide_eq_true_eq]
      exact ⟨before, after⟩
  rw [Ends, result] at ends
  exact ends slots rfl slot offered

/-- A slot that is free of the bookings in the scope of the search is accepted, when
every booking stays with the business of its staff member. -/
theorem accepted_of_free {staffId : Nat} {slot : Instant × Instant}
    (found : request.Found cfg solo.view business service zone)
    (given : request.staffId = some staffId) (inScope : solo.view.StaffScoped)
    (length : slot.2 = slot.1 + minutes service.durationMinutes)
    (free : ∀ booking, (request.search service).Booked solo.view booking →
      ¬(booking.startsAt < slot.2 ∧ slot.1 < booking.endsAt)) :
    request.Accepted solo.view staffId service slot := by
  obtain ⟨member, memberFound, here⟩ := found.staffFound staffId given
  have ofMember := List.find?_some memberFound
  simp only [Bool.and_eq_true, beq_iff_eq] at ofMember
  have freeOfAll : ∀ booking ∈ solo.view.bookings, booking.staffId = some staffId →
      booking.status.active = true → ¬(booking.startsAt < slot.2 ∧ slot.1 < booking.endsAt) := by
    intro booking there ofStaff active
    obtain ⟨other, otherThere, sameId, sameBusiness, sameTenant⟩ :=
      inScope.bookings booking there ⟨staffId, booking.businessId, booking.tenantId⟩
        (by rw [Booking.place?, ofStaff]; rfl)
    have same : other = member :=
      List.inj_on_of_nodup_map inScope.keys otherThere (List.mem_of_find?_eq_some memberFound)
        (sameId.trans ofMember.1.symm)
    subst same
    exact free booking ⟨there, sameBusiness.symm.trans here, sameTenant.symm.trans ofMember.2,
      active, .inr (ofStaff.trans given.symm)⟩
  have staffFree : StaffFree solo.view request.staffId request.businessId slot.1
      (slot.1 + minutes service.durationMinutes) := by
    intro id same row there
    rw [given, Option.some.injEq] at same
    subst same
    rw [← length, Bool.eq_false_iff]
    intro inTheWay
    simp only [blocks, Bool.and_eq_true, beq_iff_eq, decide_eq_true_eq] at inTheWay
    obtain ⟨⟨⟨⟨ofStaff, active⟩, starts⟩, ends⟩, -⟩ := inTheWay
    exact freeOfAll row there ofStaff active ⟨starts, ends⟩
  refine ⟨freeOfAll, ?_, fun args id createdAt books => ?_⟩
  · refine List.find?_eq_none.mpr fun row there conflicts => ?_
    simp only [conflictsWith, Bool.and_eq_true, beq_iff_eq, decide_eq_true_eq] at conflicts
    obtain ⟨⟨⟨⟨⟨ofStaff, -⟩, active⟩, starts⟩, ends⟩, -⟩ := conflicts
    exact freeOfAll row there ofStaff active ⟨starts, ends⟩
  · rw [← books.staff, ← books.business, ← books.starts] at staffFree
    exact ((staffFree_iff service id createdAt).mp staffFree).2

end Offered

/-- The committed rows of a configuration, as a session that runs alone finds them. -/
def BookingConfig.quietly (config : BookingConfig) (clock : Instant) : Solo :=
  ⟨config.world.db, [], config.world.nextId, clock, [], 0, fun _ => true, config.world.outside⟩

/-- **What search offers, booking accepts.** In every state reached by any
interleaving of calls, on a date whose slots stay between its midnights, every slot
that the search offers for a staff member is accepted: the staff member is free, no
check and no constraint is in the way, and `create_booking` for a customer of the
business returns the booking, if its start can be told in the time of the business. -/
theorem offered_slots_are_accepted (cfg : Settings) {db : Db} {nextId : Nat}
    (wellFormed : db.WellFormed nextId) (inScope : db.StaffScoped) (clock : Instant)
    (redisTakes : Nat → Bool) {config : BookingConfig}
    (runs : Runs (salonMachine cfg) (fun _ _ => True) (bookingStart db nextId clock redisTakes)
      config) (now : Instant) (request : SlotRequest) (staffId : Nat)
    (given : request.staffId = some staffId) {business : Business} {service : Service} {zone : Zone}
    (found : request.Found cfg config.world.db business service zone)
    (keeps : zone.KeepsDay request.queryDate ⟨service.durationMinutes, service.durationPositive⟩)
    {slots : List (Instant × Instant)} (result : (request.run cfg).run Solo.exec
      (config.quietly now) = (.ok slots, config.quietly now)) :
    ∀ slot ∈ slots, request.Accepted config.world.db staffId service slot ∧
      ∀ args, request.Books slot args → args.override = false →
        CustomerFound config.world.db args → cfg.TellsTime business args.startsAt →
          ∃ booking after, (createBooking cfg args).run Solo.exec (config.quietly now) =
            (.ok booking, after) := by
  intro slot offered
  have scopedNow := staffScoped_in_every_run inScope runs
  have consistent : config.world.Consistent :=
    (BookingRun.orderly lawful_true (orderly_start cfg (fun _ => True) wellFormed trivial clock
      redisTakes) (Runs.of_salon runs)).invariant.1
  have foundHere : request.Found cfg (config.quietly now).view business service zone := found
  obtain ⟨length, fits, free⟩ := free_of_offered foundHere keeps result offered
  have accepted := accepted_of_free foundHere given scopedNow length free
  refine ⟨accepted, fun args books plain ⟨customer, customerFound, customerHere⟩ tells => ?_⟩
  have contact : Contact cfg config.world.db args.tenantId args.businessId args.customerId
      args.serviceId args.startsAt business customer service := by
    refine ⟨?_, customerFound, customerHere, ?_, ?_, tells⟩
    · rw [books.business, books.tenant]
      exact found.businessFound
    · rw [books.service, books.tenant]
      exact found.serviceFound
    · rw [books.business]
      exact found.serviceHere
  rw [length, ← books.starts] at fits
  have staffFree : StaffFree config.world.db args.staffId args.businessId args.startsAt
      (args.startsAt + minutes service.durationMinutes) := by
    rw [staffFree_iff service 0 0]
    refine ⟨fun id same => ?_, accepted.inserted args 0 0 books⟩
    rw [books.staff, given, Option.some.injEq] at same
    subst same
    rw [books.business, books.starts, ← length]
    exact accepted.checked
  have canCreate : CanCreate cfg config.world.db args := by
    refine ⟨⟨business, customer, service, contact, fits, staffFree⟩, ?_⟩
    rw [books.staff, books.business, books.tenant]
    exact found.staffFound
  have freshBooking : ∀ id ∈ Table.bookings.ids config.world.db, id ≠ config.world.nextId := by
    intro id member
    exact (consistent.below .bookings id (List.mem_append_left _ member)).ne
  suffices ends : Ends (createBooking cfg args) (config.quietly now) fun result _ =>
      ∃ booking, result = .ok booking from
    ends.imp fun booking returned => ⟨_, Prod.ext returned rfl⟩
  have sound : (args.override && blank args.reason) = false := by
    rw [plain, Bool.false_and]
  refine createBooking_alone sound (fun row there => ?_) (fun event there => ?_)
    (fun unable => absurd canCreate unable) (fun _ _ _ _ _ short => absurd (fun _ _ => rfl) short)
    fun _ _ _ _ _ _ _ _ => ⟨_, rfl⟩
  · exact freshBooking row.id (List.mem_map_of_mem there)
  · exact freshBooking event.bookingId (consistent.events event there)

/-! ## A Monday without a change of the clock -/

/-- The salon of the first Monday before any appointment. -/
def mondayDb : Db := { sampleMonday with bookings := [] }

theorem mondayDb_wellFormed : mondayDb.WellFormed 10 where
  keys := fun table => by cases table <;> decide
  below := fun table => by cases table <;> decide
  exclusion := by decide
  payments := by decide
  events := by decide

theorem mondayDb_scoped : mondayDb.StaffScoped := ⟨by decide, nofun⟩

/-- An appointment from half past eleven to twelve. -/
def bookMonday : List (Action Call) := wholeCall 0 (.createBooking (takeSlot (some 1))) 16

def mondayRequest : SlotRequest := ⟨1, 1, 1, some 1, 4⟩

/-- What the search finds after the appointment has been made. -/
def mondaySlots (config : BookingConfig) : Option (List (Instant × Instant)) :=
  ((mondayRequest.run sampleSettings).run Solo.exec (config.quietly 0)).1.toOption

/-- The catalogue is as it was, and the search finds ten and eleven o'clock. -/
def mondayShows (config : BookingConfig) : Bool :=
  decide (config.world.db.businesses = mondayDb.businesses) &&
    decide (config.world.db.services = mondayDb.services) &&
    decide (config.world.db.staff = mondayDb.staff) &&
    decide ((mondaySlots config).map (List.map Prod.fst) =
      some [combine 4 (clockTime 10 0), combine 4 (clockTime 11 0)])

theorem bookMonday_ran :
    ((bookingStart mondayDb 10 0 fun _ => true).runActions (salonMachine sampleSettings)
      bookMonday).map mondayShows = some true := by
  decide +kernel

/-- The slots that the search finds are accepted. -/
theorem monday_slots_are_accepted :
    ∃ (config : BookingConfig) (slots : List (Instant × Instant)),
      Runs (salonMachine sampleSettings) (fun _ _ => True)
        (bookingStart mondayDb 10 0 fun _ => true) config ∧
      slots.map Prod.fst = [combine 4 (clockTime 10 0), combine 4 (clockTime 11 0)] ∧
      ∀ slot ∈ slots, mondayRequest.Accepted config.world.db 1 sampleService slot := by
  obtain ⟨config, ran, shown⟩ := Option.map_eq_some_iff.mp bookMonday_ran
  simp only [mondayShows, Bool.and_eq_true, decide_eq_true_eq] at shown
  obtain ⟨⟨⟨businesses, services⟩, staff⟩, answer⟩ := shown
  obtain ⟨slots, found, starts⟩ := Option.map_eq_some_iff.mp answer
  have runs := Runs.of_runActions bookMonday ran
  have rows : mondayRequest.Found sampleSettings config.world.db sampleSalon sampleService
      ⟨id, id⟩ := by
    refine ⟨?_, ?_, rfl, ?_, rfl⟩
    · rw [Query.eval, businesses]
      rfl
    · rw [Query.eval, services]
      rfl
    · rintro _ ⟨⟩
      refine ⟨⟨1, 1, 1, "Anna", none, true⟩, ?_, rfl⟩
      rw [Query.eval, staff]
      rfl
  have rowsHere : mondayRequest.Found sampleSettings (config.quietly 0).view sampleSalon
      sampleService ⟨id, id⟩ := rows
  have result := SlotRequest.run_returns rowsHere found
  refine ⟨config, slots, runs, starts, fun slot offered => ?_⟩
  have keeps : Zone.KeepsDay ⟨id, id⟩ mondayRequest.queryDate
      ⟨sampleService.durationMinutes, sampleService.durationPositive⟩ :=
    fun wall early late => ⟨early, late.le⟩
  exact (offered_slots_are_accepted sampleSettings mondayDb_wellFormed mondayDb_scoped 0
    (fun _ => true) runs 0 mondayRequest 1 rfl rows keeps result slot offered).1

/-! ## A date on which the clock is put forward -/

/-- Two hours behind UTC up to a midnight and one hour behind from then on: the clock
is put forward from eleven to midnight, and an hour that does not exist counts as
before. -/
def springZone (midnight : Int) : Zone where
  toUtc wall := if wall < midnight then wall + 7200000000 else wall + 3600000000
  fromUtc utc := if utc < midnight + 3600000000 then utc - 7200000000 else utc - 3600000000

/-- The last midnight of March 2024 on which the clock of Nuuk was put forward. -/
def springMidnight : Int := 19813 * dayLength

def springSettings : Settings :=
  { sampleSettings with
    zoneInfo := fun key => if key = "America/Nuuk" then some (springZone springMidnight) else none }

/-- A salon that works on Saturdays up to midnight. -/
def springDb : Db :=
  { sampleDb with
    businesses := [⟨1, 1, "Salon", "America/Nuuk", "en", none, none, false, .businessPhone,
      .internalBooking, none, none⟩]
    workingHours := [⟨1, 1, none, 5, clockTime 10 0, clockTime 23 59⟩] }

def springStart : BookingConfig := bookingStart springDb 10 0 fun _ => true

/-- An appointment for the first half hour of the Sunday. -/
def bookSunday : List (Action Call) :=
  wholeCall 0 (.createBooking
    { tenantId := 1, businessId := 1, customerId := 1, serviceId := 1, staffId := some 1,
      startsAt := springMidnight + 3600000000 }) 16

def springRequest : SlotRequest := ⟨1, 1, 1, some 1, 19812⟩

/-- Eleven o'clock of the Saturday, which is midnight. -/
def springSlot : Instant × Instant :=
  (springMidnight + 3600000000, springMidnight + 3600000000 + 1800000000)

/-- The slot is in the way of a booking of the staff member. -/
def springTaken (config : BookingConfig) : Bool :=
  config.world.db.bookings.any fun booking => booking.staffId == some 1 && booking.status.active &&
    booking.startsAt < springSlot.2 && springSlot.1 < booking.endsAt

theorem bookSunday_ran :
    (springStart.runActions (salonMachine springSettings) bookSunday).map (fun config =>
      (config.world.db.businesses, config.world.db.services, config.world.db.staff,
        springTaken config, ((springRequest.run springSettings).run Solo.exec
          (config.quietly 0)).1.toOption.map (·.contains springSlot))) =
      some (springDb.businesses, springDb.services, springDb.staff, true, some true) := by
  decide +kernel

/-- The search offers the slot, and the booking of the Sunday is in its way. -/
theorem slot_before_spring_midnight_is_refused :
    ¬∀ (config : BookingConfig) (request : SlotRequest) (staffId : Nat) (business : Business)
      (service : Service) (zone : Zone) (slots : List (Instant × Instant)),
      Runs (salonMachine springSettings) (fun _ _ => True) springStart config →
      request.staffId = some staffId →
      request.Found springSettings config.world.db business service zone →
      (request.run springSettings).run Solo.exec (config.quietly 0) =
        (.ok slots, config.quietly 0) →
        ∀ slot ∈ slots, request.Accepted config.world.db staffId service slot := by
  intro accepted
  obtain ⟨config, ran, shown⟩ := Option.map_eq_some_iff.mp bookSunday_ran
  simp only [Prod.mk.injEq] at shown
  obtain ⟨businesses, services, staff, taken, answer⟩ := shown
  obtain ⟨slots, found, offered⟩ := Option.map_eq_some_iff.mp answer
  have runs := Runs.of_runActions bookSunday ran
  have rows : springRequest.Found springSettings (config.quietly 0).view
      ⟨1, 1, "Salon", "America/Nuuk", "en", none, none, false,
        .businessPhone, .internalBooking, none,
        none⟩ sampleService (springZone springMidnight) := by
    refine ⟨?_, ?_, rfl, ?_, rfl⟩
    · change config.world.db.businesses.find? _ = _
      rw [businesses]
      rfl
    · change config.world.db.services.find? _ = _
      rw [services]
      rfl
    · rintro _ ⟨⟩
      refine ⟨⟨1, 1, 1, "Anna", none, true⟩, ?_, rfl⟩
      change config.world.db.staff.find? _ = _
      rw [staff]
      rfl
  have free := (accepted config springRequest 1 _ _ _ slots runs rfl rows
    (SlotRequest.run_returns rows found) springSlot (List.contains_iff_mem.mp offered)).free
  obtain ⟨booking, there, inTheWay⟩ := List.any_eq_true.mp taken
  simp only [Bool.and_eq_true, beq_iff_eq, decide_eq_true_eq] at inTheWay
  obtain ⟨⟨⟨ofStaff, active⟩, starts⟩, ends⟩ := inTheWay
  exact free booking there ofStaff active ⟨starts, ends⟩

end AppointmentVoice
