import AppointmentVoice.Properties.OfferedSlots

/-!
# What a slot search finds

The slot search as a function of the rows: the hours that it chooses, the starts that they
leave open on the date (`SlotSearch.openStarts`), and which of these are still to come and
free (`SlotSearch.found`).  A search that finds its rows leaves everything as it was and
returns exactly this list (`SlotRequest.run_found`), unless one of the times that it
computes is outside the calendar; then it raises, whatever has been booked.
-/

set_option autoImplicit false

namespace AppointmentVoice

open Concurrency Intervals

/-! ## The list -/

namespace SlotSearch

variable (search : SlotSearch) (db : Db) (zone : Zone)

/-- The windows of the weekday of a staff member, or of the salon for `none`. -/
def weekWindows (scope : Option Nat) : List (Window TimeOfDay) :=
  (search.hours db scope).map WorkingHours.window

/-- There is a row of working hours, on whatever day. -/
def hasSchedule (scope : Option Nat) : Bool :=
  (Query.eval (.anyWorkingHours search.businessId search.tenantId scope) db).isSome

/-- The working hours that the search chooses. -/
def chosenHours : List (Window TimeOfDay) :=
  match search.staffId with
  | none => search.weekWindows db none
  | some id =>
      if !search.hasSchedule db (some id) then search.weekWindows db none
      else if !search.hasSchedule db none then search.weekWindows db (some id)
      else intersectTimeWindows (search.weekWindows db (some id)) (search.weekWindows db none)

/-- The windows that are open on the date. -/
def openWindows : List (Window TimeOfDay) :=
  if (search.chosenHours db).isEmpty then []
  else if (search.exceptions db).any (·.isClosed) then []
  else effectiveWindows (search.chosenHours db) (search.exceptions db) (search.blocks db)

/-- The starts of the slots of the date, booked or not. -/
def openStarts : List Instant := search.startsIn zone (search.openWindows db)

/-- The slots that the search finds. -/
def found (time : Instant) : List (Instant × Instant) :=
  search.freeIn db zone time (search.openWindows db)

/-- The times that the search computes are in the calendar. -/
def FitsCalendar (time : Instant) : Prop :=
  ∀ computed ∈ search.computedIn zone time (search.openWindows db), InCalendar computed

instance (time : Instant) : Decidable (search.FitsCalendar db zone time) :=
  inferInstanceAs (Decidable (∀ computed ∈ _, _))

/-- What the search answers. -/
def answer (time : Instant) : Except AppError (List (Instant × Instant)) :=
  search.answerIn db zone time (search.openWindows db)

variable {search db zone} {time : Instant}

theorem answer_ok (fits : search.FitsCalendar db zone time) :
    search.answer db zone time = .ok (search.found db zone time) := if_pos fits

theorem answer_error (leaves : ¬search.FitsCalendar db zone time) :
    search.answer db zone time = .error .overflow := if_neg leaves

theorem answer_eq_ok_iff {slots : List (Instant × Instant)} :
    search.answer db zone time = .ok slots ↔
      search.FitsCalendar db zone time ∧ search.found db zone time = slots :=
  answerIn_eq_ok_iff

/-- A date that is not open computes nothing. -/
theorem answer_of_closed (closed : search.openWindows db = []) :
    search.answer db zone time = .ok [] := by
  have nothing : search.FitsCalendar db zone time := by
    rw [FitsCalendar, closed]
    exact fun _ member => absurd member List.not_mem_nil
  rw [answer_ok nothing, found, closed]
  rfl

end SlotSearch

section Found

variable {cfg : Settings} {search : SlotSearch} {request : SlotRequest} {db : Db} {solo : Solo}
variable {business : Business} {service : Service} {zone : Zone} {time : Instant}

/-! ## The search comes to the list -/

theorem Ends.chosenHours {β : Type} {post : Except AppError β → Solo → Prop}
    {next : List (Window TimeOfDay) → DbM β}
    (ends : Ends (next (search.chosenHours solo.view)) solo post) :
    Ends (AppointmentVoice.chooseWorkingHours search.businessId search.tenantId
      (weekday search.queryDate) search.staffId >>= next) solo post := by
  rw [AppointmentVoice.chooseWorkingHours, bind_assoc]
  refine Ends.whWindows search ?_
  cases given : search.staffId with
  | none =>
      simp only [SlotSearch.chosenHours, given] at ends
      exact ends
  | some id =>
      simp only [SlotSearch.chosenHours, given] at ends
      refine Ends.bind (Ends.whWindows search ?_)
      rw [AppointmentVoice.hasAnySchedule, bind_assoc]
      refine Ends.select _ ?_
      change Ends (if (!search.hasSchedule solo.view (some id)) = true then _ else _) solo _
      split
      · next missing =>
          rw [if_pos missing] at ends
          exact ends
      · next staffed =>
          rw [if_neg staffed] at ends
          rw [AppointmentVoice.hasAnySchedule, bind_assoc]
          refine Ends.select _ ?_
          change Ends (if (!search.hasSchedule solo.view none) = true then _ else _) solo _
          split
          · next missing =>
              rw [if_pos missing] at ends
              exact ends
          · next salon =>
              rw [if_neg salon] at ends
              exact ends

/-- The search of one service. -/
theorem SlotSearch.slots_ends (known : cfg.zoneInfo business.timezone = some zone)
    {post : Except AppError (List (Instant × Instant)) → Solo → Prop}
    (met : post (search.answer solo.view zone solo.clock) solo) :
    Ends (search.slots cfg business) solo post := by
  rw [SlotSearch.slots, getAvailableSlotsForDuration, known]
  refine Ends.chosenHours ?_
  have none : search.openWindows solo.view = [] → post (.ok []) solo := by
    intro closed
    rwa [SlotSearch.answer_of_closed closed] at met
  rw [SlotSearch.openWindows] at none
  rw [SlotSearch.answer, SlotSearch.openWindows] at met
  cases empty : (search.chosenHours solo.view).isEmpty with
  | true =>
      rw [empty] at none
      exact Ends.ret (none rfl)
  | false =>
      rw [empty, if_neg Bool.false_ne_true] at met none
      rw [if_neg Bool.false_ne_true]
      refine Ends.select _ ?_
      change Ends (if (search.exceptions solo.view).any (·.isClosed) = true then _ else _) solo _
      cases closed : (search.exceptions solo.view).any (·.isClosed) with
      | true =>
          rw [closed] at none
          exact Ends.ret (none rfl)
      | false =>
          rw [closed, if_neg Bool.false_ne_true] at met
          exact Ends.select _ (search.answerIn_ends _ met)

/-- **A search that finds its rows returns the list**, unless it leaves the calendar. -/
theorem SlotRequest.run_found (found : request.Found cfg solo.view business service zone) :
    (request.run cfg).run Solo.exec solo =
      ((request.search service).answer solo.view zone solo.clock, solo) := by
  have ends : Ends (request.run cfg) solo fun result after =>
      (result, after) = ((request.search service).answer solo.view zone solo.clock, solo) := by
    rw [SlotRequest.run, getAvailableSlots]
    refine Ends.requireBusiness (fun missing => ?_) fun row there => ?_
    · rw [found.businessFound] at missing
      cases missing
    rw [found.businessFound] at there
    cases there
    rw [requireService, bind_assoc]
    refine Ends.select _ ?_
    rw [found.serviceFound]
    refine Ends.orRaise (by rintro ⟨⟩) fun row there => ?_
    cases there
    rw [if_neg (not_not.mpr found.serviceHere)]
    refine Ends.requireStaffIfGiven (fun missing => absurd found.staffFound missing) fun _ => ?_
    change Ends ((request.search service).slots cfg business) solo _
    exact SlotSearch.slots_ends found.zoneKnown rfl
  exact ends

/-! ## The list -/

theorem mem_found_iff {slot : Instant × Instant} :
    slot ∈ search.found db zone time ↔ slot.1 ∈ search.openStarts db zone ∧
      slot.2 = slot.1 + minutes search.duration ∧ time < slot.1 ∧
      ∀ booking ∈ search.dayBookings db zone,
        ¬(booking.startsAt < slot.2 ∧ slot.1 < booking.endsAt) := by
  have clear : (search.dayBookings db zone).any
      (fun b => b.startsAt < slot.2 && b.endsAt > slot.1) = false ↔
        ∀ booking ∈ search.dayBookings db zone,
          ¬(booking.startsAt < slot.2 ∧ slot.1 < booking.endsAt) := by
    rw [List.any_eq_false]
    simp only [Bool.and_eq_true, decide_eq_true_eq, gt_iff_lt]
  rw [SlotSearch.found, SlotSearch.freeIn, List.mem_filterMap, ← clear]
  constructor
  · rintro ⟨start, member, given⟩
    obtain ⟨rfl, length, later, free⟩ := freeSlot_eq_some.mp given
    exact ⟨member, length, later, free⟩
  · rintro ⟨member, rest⟩
    exact ⟨slot.1, member, freeSlot_eq_some.mpr ⟨rfl, rest⟩⟩

/-- The slots come in strictly increasing order. -/
theorem found_increasing :
    (search.found db zone time).Pairwise fun first second => first.1 < second.1 :=
  free_increasing (sortedSet_increasing _)

/-- A slot that is found begins at a wall-clock time of the date, from which it stays in
the date. -/
theorem wall_of_mem_found {slot : Instant × Instant} (member : slot ∈ search.found db zone time) :
    ∃ wall, search.queryDate * dayLength ≤ wall ∧
      wall + minutes search.duration < (search.queryDate + 1) * dayLength ∧
      slot.1 = zone.toUtc wall :=
  wall_of_mem_startsIn (mem_found_iff.mp member).1

end Found

end AppointmentVoice
