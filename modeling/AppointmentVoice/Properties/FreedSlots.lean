import AppointmentVoice.Properties.OfferedSlots
import AppointmentVoice.Services.Consultation

/-!
# Who waits for the day of a freed slot

The search maps a date of the salon to instants; a call that frees a slot maps the start of
the booking back to a date, the one that UTC has then.  So the entries that it considers
are those of the day on which the slot was offered exactly when the salon and UTC agree on
the date.

`SlotRequest.wall_of_returned` says on which date a slot starts that a search has returned,
and `slotOf_accepts_iff` for which date a call asks that frees it.

**Main result**: `freed_slots_reach_their_day_iff`, over every run.  An evening in New York is
its counterexample, one in UTC its witness.
-/

set_option autoImplicit false

namespace AppointmentVoice

open Concurrency Intervals Program

/-! ## The day on which a slot was offered -/

/-- An instant of a wall clock is on its date. -/
theorem dateOf_eq {date : Date} {wall : Int} (early : date * dayLength ≤ wall)
    (late : wall < (date + 1) * dayLength) : dateOf wall = date := by
  have arithmetic : ∀ day instant : Int, day * 86400000000 ≤ instant →
      instant < (day + 1) * 86400000000 → instant / 86400000000 = day := by
    intro day instant after before
    omega
  rw [dateOf, Int.fdiv_eq_ediv_of_nonneg _ (by decide)]
  exact arithmetic date wall early late

/-- A slot that is returned starts on the date, on the wall clock of the salon. -/
theorem SlotRequest.wall_of_returned {cfg : Settings} (request : SlotRequest) {solo after : Solo}
    {slots : List (Instant × Instant)} {slot : Instant × Instant}
    (result : (request.run cfg).run Solo.exec solo = (.ok slots, after)) (offered : slot ∈ slots) :
    ∃ business zone wall,
      Query.eval (.business request.businessId request.tenantId) solo.view = some business ∧
      cfg.zoneInfo business.timezone = some zone ∧ dateOf wall = request.queryDate ∧
      slot.1 = zone.toUtc wall := by
  obtain ⟨business, service, zone, found⟩ := SlotRequest.found_of_returned result
  have ends : Ends (request.run cfg) solo fun result _ => ∀ slots, result = .ok slots →
      ∀ slot ∈ slots, ∃ wall, dateOf wall = request.queryDate ∧ slot.1 = zone.toUtc wall := by
    refine SlotRequest.run_ends found (fun _ => ?_) (fun _ => ?_) fun hours _ _ _ => ?_
    · rintro _ ⟨⟩ slot member
      cases member
    · rintro _ ⟨⟩ slot member
      cases member
    intro slots answer slot member
    rw [SlotSearch.answerIn_eq_ok_iff] at answer
    obtain ⟨-, rfl⟩ := answer
    obtain ⟨start, isStart, given⟩ := List.mem_filterMap.mp member
    obtain ⟨rfl, -, -, -⟩ := freeSlot_eq_some.mp given
    obtain ⟨wall, early, late, utc⟩ := wall_of_mem_startsIn isStart
    have positive := minutes_pos (request.search service).duration.pos
    have before : wall < (request.queryDate + 1) * dayLength :=
      lt_trans (lt_add_of_pos_right _ positive) late
    exact ⟨wall, dateOf_eq early before, utc⟩
  rw [Ends, result] at ends
  obtain ⟨wall, onDate, utc⟩ := ends slots rfl slot offered
  exact ⟨business, zone, wall, found.businessFound, found.zoneKnown, onDate, utc⟩

/-- The slot of the booking was returned by a search for the date, at some time and from some
rows. -/
structure Booking.OfferedOn (cfg : Settings) (booking : Booking) (date : Date)
    (staffId : Option Nat)
    (solo after : Solo) (slots : List (Instant × Instant)) : Prop where
  returned : (getAvailableSlots cfg booking.tenantId booking.businessId booking.serviceId staffId
    date).run Solo.exec solo = (.ok slots, after)
  listed : (booking.startsAt, booking.endsAt) ∈ slots

/-- The entry waits for the day, for the service of the booking, and its staff preference
fits. -/
structure WaitlistEntry.WaitsFor (booking : Booking) (date : Date)
    (entry : WaitlistEntry) : Prop where
  waiting : entry.status = .waiting
  business : entry.businessId = booking.businessId
  tenant : entry.tenantId = booking.tenantId
  service : entry.serviceId = booking.serviceId
  day : entry.desiredDate = date
  staff : entry.staffId = none ∨ entry.staffId = booking.staffId

/-- The query for the slot of a booking is for those who wait for its date in UTC. -/
theorem slotOf_accepts_iff {booking : Booking} {entry : WaitlistEntry} :
    (slotOf booking booking.tenantId).accepts entry = true ↔
      entry.WaitsFor booking (dateOf booking.startsAt) := by
  have staff : staffOrBusinessWide booking.staffId entry.staffId = true ↔
      entry.staffId = none ∨ entry.staffId = booking.staffId := by
    cases booking.staffId with
    | none => simp [staffOrBusinessWide]
    | some id =>
        simp only [staffOrBusinessWide, Bool.or_eq_true, beq_iff_eq]
        exact or_comm
  simp only [slotOf, WaitlistFilter.accepts, WaitlistFilter.eligible, Bool.and_eq_true,
    beq_iff_eq, staff]
  constructor
  · rintro ⟨⟨⟨⟨⟨business, tenant⟩, service⟩, day⟩, fits⟩, waiting⟩
    exact ⟨waiting, business, tenant, service, day, fits⟩
  · rintro ⟨waiting, business, tenant, service, day, fits⟩
    exact ⟨⟨⟨⟨⟨business, tenant⟩, service⟩, day⟩, fits⟩, waiting⟩

/-- The call is about to consider who waits for the slot of a booking, with some query. -/
structure AboutToConsider (config : BookingConfig) (pid : Pid) (booking : Booking)
    (filter : WaitlistFilter) : Prop where
  asks : ∃ call next log,
    config.running pid = some ⟨call, .call (.selectWaitlistForUpdateSkipLocked filter) next, log⟩ ∧
    consultation.state call log = .freeing booking

/-- The entries that are considered are those that wait for the date. -/
def ConsidersWaitersOf (config : BookingConfig) (pid : Pid) (booking : Booking)
    (filter : WaitlistFilter)
    (date : Date) : Prop :=
  ∀ entry ∈ (config.world.view pid).waitlistEntries,
    filter.accepts entry = true ↔ entry.WaitsFor booking date

/-- **The waiters of the day are considered exactly when UTC agrees on the date.**  A call
that has freed a booking has considered who waits for it.  When it does, a slot that was
returned for a date starts on that date on the wall clock of the salon, and the entries that
are considered are those that wait for the date if and only if the start has the same date in
UTC, or nobody waits for either date. -/
theorem freed_slots_reach_their_day_iff (cfg : Settings) {db : Db} {nextId : Nat} {clock : Instant}
    {redisTakes : Nat → Bool} {config : BookingConfig}
    (runs : BookingRun cfg (bookingStart db nextId clock redisTakes) config) :
    (∀ outcome ∈ config.finished, ∀ ref reply, outcome.call.freedRef = some ref →
      outcome.result = .ok reply → ∃ booking, consultation.state outcome.call
        outcome.log = .asked booking ∧
        booking.id = ref.bookingId ∧ booking.tenantId = ref.tenantId) ∧
    ∀ pid booking filter, AboutToConsider config pid booking filter →
      ∀ date staffId solo after slots, booking.OfferedOn cfg date staffId solo after slots →
        ∃ business zone wall,
          Query.eval (.business booking.businessId booking.tenantId) solo.view = some business ∧
          cfg.zoneInfo business.timezone = some zone ∧ booking.startsAt = zone.toUtc wall ∧
          dateOf wall = date ∧
          (ConsidersWaitersOf config pid booking filter date ↔
            dateOf (zone.toUtc wall) = dateOf wall ∨
              ∀ entry ∈ (config.world.view pid).waitlistEntries,
                ¬entry.WaitsFor booking (dateOf wall) ∧
                  ¬entry.WaitsFor booking (dateOf (zone.toUtc wall))) := by
  have watched := consultation_reached runs
  refine ⟨watched.finished, ?_⟩
  rintro pid booking filter ⟨call, next, log, running, freeing⟩ date staffId solo
    after slots offered
  obtain ⟨business, zone, wall, businessFound, zoneKnown, onDate, utc⟩ :=
    SlotRequest.wall_of_returned
      (SlotRequest.mk booking.tenantId booking.businessId booking.serviceId
      staffId date) offered.returned offered.listed
  refine ⟨business, zone, wall, businessFound, zoneKnown, utc, onDate, ?_⟩
  have asks : filter = slotOf booking booking.tenantId := by
    rcases watched.looksFor running rfl with ⟨other, same, asks⟩ | ⟨stale, expired, same, -⟩
    · rw [freeing] at same
      cases same
      exact asks
    · rw [freeing] at same
      cases same
  rw [asks, ConsidersWaitersOf]
  simp only [slotOf_accepts_iff]
  rw [← utc, onDate]
  constructor
  · intro same
    by_cases agree : dateOf booking.startsAt = date
    · exact .inl agree
    · refine .inr fun entry member => ⟨fun waits => agree ?_, fun waits => agree ?_⟩
      · exact ((same entry member).mpr waits).day.symm.trans waits.day
      · exact waits.day.symm.trans ((same entry member).mp waits).day
  · rintro (agree | nobody) entry member
    · rw [agree]
    · exact iff_of_false (nobody entry member).2 (nobody entry member).1

/-! ## An evening in two time zones -/

/-- Settings that know UTC and New York in winter. -/
def twoZones : Settings :=
  { sampleSettings with
    zoneInfo := fun key =>
      if key = "UTC" then some (Zone.fixed 0)
      else if key = "America/New_York" then some (Zone.fixed (-18000000000))
      else none }

/-- The first Monday after the epoch. -/
def firstMonday : Date := 4

/-- A salon that works on Mondays until eleven, with a customer who waits for the first of
them. -/
def lateSalon (timezone : String) : Db :=
  { sampleDb with
    businesses :=
      [⟨1, 1, "Salon", timezone, "en", none, none, false, .businessPhone, .internalBooking,
      none, none⟩]
    workingHours := [⟨1, 1, none, 0, clockTime 9 0, clockTime 23 0⟩]
    waitlistEntries := [⟨1, 1, 1, 1, 1, none, none, firstMonday, .waiting, 0, 0⟩] }

/-- The call is about to ask: the booking that it frees, and its query. -/
def nextQuery (config : BookingConfig) (pid : Pid) : Option (Booking × WaitlistFilter) :=
  match config.running pid with
  | some ⟨caller, .call (.selectWaitlistForUpdateSkipLocked filter) _, log⟩ =>
      match consultation.state caller log with
      | .freeing booking => some (booking, filter)
      | _ => none
  | _ => none

/-- An appointment at eight in the evening is made, and a cancellation comes to its query. -/
def bookAndFree (startsAt : Instant) : List (Action Call) :=
  wholeCall 0 (.createBooking
    { tenantId := 1, businessId := 1, customerId := 1, serviceId := 1, staffId := some 1,
      startsAt }) 16 ++
  .start 1 (.cancelBooking { bookingId := 10, businessId := 1, tenantId := 1 }) ::
    List.replicate 9 (.issue 1)

/-- Eight in the evening of the Monday, in UTC and in New York. -/
def atEight : Instant := combine firstMonday (clockTime 20 0)

def atEightInNewYork : Instant := atEight + 18000000000

/-- The booking of the evening. -/
def eveningBooking (startsAt : Instant) : Booking :=
  ⟨10, 1, 1, 1, 1, some 1, startsAt, startsAt + minutes 30, .confirmed, .api, none, 0⟩

theorem bookAndFree_possible :
    ((bookingStart (lateSalon "UTC") 10 0 fun _ => true).runActions (bookingMachine twoZones)
        (bookAndFree atEight)).isSome = true ∧
      ((bookingStart (lateSalon "America/New_York") 10 0 fun _ => true).runActions
        (bookingMachine twoZones) (bookAndFree atEightInNewYork)).isSome = true := by
  decide +kernel

/-- A call that is about to ask. -/
theorem aboutToConsider_of_nextQuery {config : BookingConfig} {pid : Pid} {booking : Booking}
    {filter : WaitlistFilter} (query : nextQuery config pid = some (booking, filter)) :
    AboutToConsider config pid booking filter := by
  unfold nextQuery at query
  split at query
  · next caller own next log running =>
      split at query
      · next freeing =>
          cases query
          exact ⟨caller, next, log, running, freeing⟩
      · cases query
  · cases query

/-- The search at the beginning. -/
def firstSearch (timezone : String) : Solo :=
  ⟨lateSalon timezone, [], 10, 0, [], 0, fun _ => true, .start⟩

/-- A search that returns the slot of a booking. -/
theorem offeredOn_of_answer {cfg : Settings} {booking : Booking} {date : Date}
    {staffId : Option Nat} {solo : Solo}
    (answer : ((getAvailableSlots cfg booking.tenantId booking.businessId booking.serviceId
      staffId date).run Solo.exec solo).1.toOption.map
        (·.contains (booking.startsAt, booking.endsAt)) = some true) :
    ∃ after slots, booking.OfferedOn cfg date staffId solo after slots := by
  obtain ⟨slots, found, listed⟩ := Option.map_eq_some_iff.mp answer
  refine ⟨((getAvailableSlots cfg booking.tenantId booking.businessId booking.serviceId
    staffId date).run Solo.exec solo).2, slots, ⟨?_, List.contains_iff_mem.mp listed⟩⟩
  refine Prod.ext ?_ rfl
  cases result : ((getAvailableSlots cfg booking.tenantId booking.businessId booking.serviceId
      staffId date).run Solo.exec solo).1 with
  | ok value =>
      rw [result] at found
      cases found
      rfl
  | error error =>
      rw [result] at found
      cases found

/-- The query for those who wait on a date for the salon's only service. -/
def queryFor (date : Date) : WaitlistFilter := ⟨1, 1, 1, date, some 1⟩

/-- In UTC the customer who waits for the Monday is considered. -/
theorem evening_in_utc_is_offered_to_its_day : ∃ config,
    BookingRun twoZones (bookingStart (lateSalon "UTC") 10 0 fun _ => true) config ∧
      AboutToConsider config 1 (eveningBooking atEight) (queryFor firstMonday) ∧
      ConsidersWaitersOf config 1 (eveningBooking atEight) (queryFor firstMonday) firstMonday := by
  have runs := BookingRun.of_actions bookAndFree_possible.1
  have asks := aboutToConsider_of_nextQuery (by decide +kernel : nextQuery (Option.get _
    bookAndFree_possible.1) 1 = some (eveningBooking atEight, queryFor firstMonday))
  have returned : ∃ after slots, (eveningBooking atEight).OfferedOn twoZones firstMonday none
      (firstSearch "UTC") after slots := offeredOn_of_answer (by decide +kernel)
  obtain ⟨after, slots, offered⟩ := returned
  obtain ⟨_, zone, wall, -, -, utc, onDate, considers⟩ :=
    (freed_slots_reach_their_day_iff twoZones runs).2 1 _ _ asks _ _ _ _ _ offered
  have agree : dateOf (zone.toUtc wall) = dateOf wall := by
    rw [← utc, onDate]
    decide
  exact ⟨_, runs, asks, considers.mpr (.inl agree)⟩

/-- In New York the same evening is on the Tuesday for UTC, and the customer who waits for the
Monday is left out. -/
theorem evening_in_new_york_is_not_offered_to_its_day : ∃ config,
    BookingRun twoZones (bookingStart (lateSalon "America/New_York") 10 0 fun _ => true) config ∧
      AboutToConsider config 1 (eveningBooking atEightInNewYork) (queryFor (firstMonday + 1)) ∧
      (∃ after slots, (eveningBooking atEightInNewYork).OfferedOn twoZones firstMonday none
        (firstSearch "America/New_York") after slots) ∧
      ¬ConsidersWaitersOf config 1 (eveningBooking atEightInNewYork) (queryFor (firstMonday + 1))
        firstMonday := by
  have runs := BookingRun.of_actions bookAndFree_possible.2
  have asks := aboutToConsider_of_nextQuery (by decide +kernel : nextQuery (Option.get _
    bookAndFree_possible.2) 1 = some (eveningBooking atEightInNewYork, queryFor (firstMonday + 1)))
  refine ⟨_, runs, asks, offeredOn_of_answer (by decide +kernel), fun considers => ?_⟩
  have there : (⟨1, 1, 1, 1, 1, none, none, firstMonday, .waiting, 0, 0⟩ : WaitlistEntry) ∈
      ((Option.get _ bookAndFree_possible.2).world.view 1).waitlistEntries := by
    decide +kernel
  have waits : WaitlistEntry.WaitsFor (eveningBooking atEightInNewYork) firstMonday
      ⟨1, 1, 1, 1, 1, none, none, firstMonday, .waiting, 0, 0⟩ :=
        ⟨rfl, rfl, rfl, rfl, rfl, .inl rfl⟩
  exact absurd ((considers _ there).mpr waits) (by decide)

end AppointmentVoice
