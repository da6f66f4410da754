import AppointmentVoice.Properties.SlotSearch

/-!
# Special hours and working hours

`get_available_slots` in any zone: what it comes to when every row it looks up is
there.  The special hours of a date are meant to replace the working hours of its
weekday, but the search looks at the working hours first and returns early when
there are none; so the special hours count on exactly the dates on which they are
not needed to open the salon.

**The result.** `special_hours_replace_working_hours_iff`; `special_hours_open_no_sunday` are
special hours on a day off.
-/

set_option autoImplicit false

namespace AppointmentVoice

open Concurrency Intervals

/-! ## The search in any zone -/

/-- The arguments of `get_available_slots`. -/
structure SlotRequest where
  tenantId : Nat
  businessId : Nat
  serviceId : Nat
  staffId : Option Nat
  queryDate : Date
  deriving DecidableEq, Repr

namespace SlotRequest

/-- The call itself. -/
def run (cfg : Settings) (request : SlotRequest) : DbM (List (Instant × Instant)) :=
  getAvailableSlots cfg request.tenantId request.businessId request.serviceId request.staffId
    request.queryDate

/-- The search that the call makes for a service. -/
def search (request : SlotRequest) (service : Service) : SlotSearch :=
  ⟨request.businessId, request.tenantId, request.staffId,
    ⟨service.durationMinutes, service.durationPositive⟩, request.queryDate⟩

/-- The rows that the call looks up are there, and so is the zone. -/
structure Found (cfg : Settings) (request : SlotRequest) (db : Db) (business : Business)
    (service : Service) (zone : Zone) : Prop where
  businessFound : Query.eval (.business request.businessId request.tenantId) db = some business
  serviceFound : Query.eval (.service request.serviceId request.tenantId) db = some service
  serviceHere : service.businessId = request.businessId
  staffFound : StaffFound db request.staffId request.businessId request.tenantId
  zoneKnown : cfg.zoneInfo business.timezone = some zone

end SlotRequest

namespace SlotSearch

variable (search : SlotSearch) (db : Db) (zone : Zone)

/-- The answer for the special hours less the recurring blocks.  The working hours are
not read. -/
def specialAnswer (now : Instant) : Except AppError (List (Instant × Instant)) :=
  search.answerIn db zone now (subtractTimeWindows (search.specialHours db)
    ((search.blocks db).map RecurringStaffBlock.window))

end SlotSearch

section Searching

variable {cfg : Settings} {request : SlotRequest} {solo : Solo} {business : Business}
variable {service : Service} {zone : Zone}

/-- What the search comes to: nothing on a weekday without working hours or on a
closed date, and else the answer for the effective windows. -/
theorem SlotRequest.run_ends (found : request.Found cfg solo.view business service zone)
    {post : Except AppError (List (Instant × Instant)) → Solo → Prop}
    (shut : (∀ window, ¬(request.search service).WorkingWindow solo.view window) →
      post (.ok []) solo)
    (closed : (request.search service).Closed solo.view → post (.ok []) solo)
    (isOpen : ∀ hours : List (Window TimeOfDay), (∃ window,
        (request.search service).WorkingWindow solo.view window) →
      (∀ window, window ∈ hours ↔ (request.search service).WorkingWindow solo.view window) →
      ¬(request.search service).Closed solo.view →
      post ((request.search service).answerIn solo.view zone solo.clock (effectiveWindows hours
        ((request.search service).exceptions solo.view)
        ((request.search service).blocks solo.view))) solo) :
    Ends (request.run cfg) solo post := by
  rw [SlotRequest.run, getAvailableSlots]
  refine Ends.requireBusiness (fun missing => ?_) fun row there => ?_
  · rw [found.businessFound] at missing
    cases missing
  rw [found.businessFound] at there
  cases there
  rw [requireService, bind_assoc]
  refine Ends.select _ ?_
  rw [found.serviceFound]
  refine Ends.orRaise (by rintro ⟨⟩) fun row there => ?_
  cases there
  rw [if_neg (not_not.mpr found.serviceHere)]
  refine Ends.requireStaffIfGiven (fun missing => absurd found.staffFound missing) fun _ => ?_
  change Ends ((request.search service).slots cfg business) solo post
  rw [SlotSearch.slots, getAvailableSlotsForDuration, found.zoneKnown]
  refine Ends.chooseWorkingHours fun hours chosen => ?_
  cases hours with
  | nil =>
      refine Ends.ret (shut fun window working => ?_)
      exact List.not_mem_nil ((chosen window).mpr working)
  | cons first rest =>
      rw [List.isEmpty_cons, if_neg Bool.false_ne_true]
      have works : ∃ window, (request.search service).WorkingWindow solo.view window :=
        ⟨first, (chosen first).mp List.mem_cons_self⟩
      refine Ends.select _ ?_
      change Ends (if ((request.search service).exceptions solo.view).any (·.isClosed) = true
        then _ else _) solo _
      split
      · next anyClosed =>
          obtain ⟨row, there, isClosed⟩ := List.any_eq_true.mp anyClosed
          exact Ends.ret (closed ⟨row, mem_exceptions_iff.mp there, isClosed⟩)
      · next noneClosed =>
          have notClosed : ¬(request.search service).Closed solo.view := by
            rintro ⟨row, applies, isClosed⟩
            exact noneClosed (List.any_eq_true.mpr ⟨row, mem_exceptions_iff.mpr applies, isClosed⟩)
          have result := isOpen (first :: rest) works chosen notClosed
          exact Ends.select _ (SlotSearch.answerIn_ends _ _ result)

/-- A search that finds its rows leaves everything as it is. -/
theorem SlotRequest.run_returns (found : request.Found cfg solo.view business service zone)
    {slots : List (Instant × Instant)}
    (answer : ((request.run cfg).run Solo.exec solo).1.toOption = some slots) :
    (request.run cfg).run Solo.exec solo = (.ok slots, solo) := by
  have ends : Ends (request.run cfg) solo fun _ after => after = solo :=
    SlotRequest.run_ends found (fun _ => rfl) (fun _ => rfl) fun _ _ _ _ => rfl
  rw [Ends] at ends
  refine Prod.ext ?_ ends
  cases result : ((request.run cfg).run Solo.exec solo).1 with
  | ok value =>
      rw [result] at answer
      cases answer
      rfl
  | error error =>
      rw [result] at answer
      cases answer

/-- A search that returns has found its rows. -/
theorem SlotRequest.found_of_returned {after : Solo}
    {slots : List (Instant × Instant)}
    (result : (request.run cfg).run Solo.exec solo = (.ok slots, after)) :
    ∃ business service zone, request.Found cfg solo.view business service zone := by
  have ends : Ends (request.run cfg) solo fun result _ => ∀ slots, result = .ok slots →
      ∃ business service zone, request.Found cfg solo.view business service zone := by
    rw [SlotRequest.run, getAvailableSlots]
    refine Ends.requireBusiness (by rintro _ error _ ⟨⟩) fun business businessFound => ?_
    rw [requireService, bind_assoc]
    refine Ends.select _ (Ends.orRaise (by rintro _ _ ⟨⟩) fun service serviceFound => ?_)
    by_cases here : service.businessId = request.businessId
    swap
    · rw [if_pos here]
      exact Ends.raise (by rintro _ ⟨⟩)
    rw [if_neg (not_not.mpr here)]
    refine Ends.requireStaffIfGiven (by rintro _ error _ ⟨⟩) fun staffFound => ?_
    unfold getAvailableSlotsForDuration
    refine Ends.orRaise (by rintro _ _ ⟨⟩) fun zone zoneKnown => ?_
    exact fun _ _ =>
      ⟨business, service, zone, businessFound, serviceFound, here, staffFound, zoneKnown⟩
  rw [Ends, result] at ends
  exact ends slots rfl

end Searching

/-! ## Special hours -/

section SpecialHours

variable {search : SlotSearch} {db : Db}

/-- Where there are special hours, the effective windows are theirs. -/
theorem effectiveWindows_special (special : search.specialHours db ≠ [])
    (hours : List (Window TimeOfDay)) :
    effectiveWindows hours (search.exceptions db) (search.blocks db) =
      subtractTimeWindows (search.specialHours db)
        ((search.blocks db).map RecurringStaffBlock.window) := by
  rw [SlotSearch.specialHours] at special ⊢
  simp only [effectiveWindows, List.isEmpty_iff, if_neg special]
  split
  · next none =>
      rw [none]
      rfl
  · rfl

/-- No statement of a session writes working hours. -/
theorem applyAll_workingHours (db : Db) (hours : List WorkingHours) (writes : List Write) :
    ({ db with workingHours := hours } : Db).applyAll writes =
      { db.applyAll writes with workingHours := hours } := by
  induction writes generalizing db with
  | nil => rfl
  | cons write writes ih =>
      have same : ({ db with workingHours := hours } : Db).apply write =
          { db.apply write with workingHours := hours } := by
        cases write <;> rfl
      rw [Db.applyAll, List.foldl_cons, same]
      exact ih (db.apply write)

end SpecialHours

/-- The same state with other working hours. -/
def Solo.withHours (solo : Solo) (hours : List WorkingHours) : Solo :=
  { solo with db := { solo.db with workingHours := hours } }

theorem Solo.withHours_view (solo : Solo) (hours : List WorkingHours) :
    (solo.withHours hours).view = { solo.view with workingHours := hours } :=
  applyAll_workingHours solo.db hours solo.writes

section Results

variable {cfg : Settings} {request : SlotRequest} {business : Business} {service : Service}
variable {zone : Zone}

/-- On a date with special hours and no closure the search answers for the special hours
if the weekday has working hours, and returns nothing otherwise. -/
theorem SlotRequest.run_special {solo : Solo}
    (found : request.Found cfg solo.view business service zone)
    (special : ∃ window, (request.search service).SpecialWindow solo.view window)
    (notClosed : ¬(request.search service).Closed solo.view) :
    ((∃ window, (request.search service).WorkingWindow solo.view window) ∧
        (request.run cfg).run Solo.exec solo =
          ((request.search service).specialAnswer solo.view zone solo.clock, solo)) ∨
      ((∀ window, ¬(request.search service).WorkingWindow solo.view window) ∧
        (request.run cfg).run Solo.exec solo = (.ok [], solo)) := by
  have nonempty : (request.search service).specialHours solo.view ≠ [] := by
    obtain ⟨window, isSpecial⟩ := special
    exact List.ne_nil_of_mem ((mem_specialHours_iff notClosed).mpr isSpecial)
  have ends : Ends (request.run cfg) solo fun result after => after = solo ∧
      (((∃ window, (request.search service).WorkingWindow solo.view window) ∧
          result = (request.search service).specialAnswer solo.view zone solo.clock) ∨
        ((∀ window, ¬(request.search service).WorkingWindow solo.view window) ∧
          result = .ok [])) := by
    refine SlotRequest.run_ends found (fun shut => ?_) (fun closed => absurd closed notClosed)
      fun hours works chosen _ => ?_
    · exact ⟨rfl, .inr ⟨shut, rfl⟩⟩
    · rw [effectiveWindows_special nonempty hours]
      exact ⟨rfl, .inl ⟨works, rfl⟩⟩
  obtain ⟨after, ⟨works, result⟩ | ⟨shut, result⟩⟩ := ends
  · exact .inl ⟨works, Prod.ext result after⟩
  · exact .inr ⟨shut, Prod.ext result after⟩

/-- **When special hours replace working hours.** On a date with special hours and
no closure, the search gives the answer for the special hours less the blocks, their
slots unless a computation leaves the calendar, exactly if the weekday has working hours
or these slots are none; and it answers the same with other working hours exactly if both
or neither open the weekday, or these slots are none. -/
theorem special_hours_replace_working_hours_iff (cfg : Settings) (request : SlotRequest)
    (solo : Solo) {business : Business} {service : Service} {zone : Zone}
    (found : request.Found cfg solo.view business service zone)
    (special : ∃ window, (request.search service).SpecialWindow solo.view window)
    (notClosed : ¬(request.search service).Closed solo.view) :
    ((request.run cfg).run Solo.exec solo =
        ((request.search service).specialAnswer solo.view zone solo.clock, solo) ↔
      (∃ window, (request.search service).WorkingWindow solo.view window) ∨
        (request.search service).specialAnswer solo.view zone solo.clock = .ok []) ∧
    ∀ hours, (((request.run cfg).run Solo.exec (solo.withHours hours)).1 =
        ((request.run cfg).run Solo.exec solo).1 ↔
      ((∃ window, (request.search service).WorkingWindow (solo.withHours hours).view window) ↔
        ∃ window, (request.search service).WorkingWindow solo.view window) ∨
        (request.search service).specialAnswer solo.view zone solo.clock = .ok []) := by
  have here := SlotRequest.run_special found special notClosed
  generalize answerHere : (request.search service).specialAnswer solo.view zone solo.clock = answer
    at here ⊢
  constructor
  · rcases here with ⟨works, result⟩ | ⟨shut, result⟩
    · exact iff_of_true result (.inl works)
    · rw [result, Prod.mk.injEq, and_iff_left rfl]
      refine ⟨fun none => .inr none.symm, fun either => either.elim ?_ Eq.symm⟩
      rintro ⟨window, working⟩
      exact absurd working (shut window)
  · intro hours
    have view := solo.withHours_view hours
    have foundToo : request.Found cfg (solo.withHours hours).view business service zone := by
      rw [view]
      exact ⟨found.businessFound, found.serviceFound, found.serviceHere, found.staffFound,
        found.zoneKnown⟩
    have there := SlotRequest.run_special foundToo (by rw [view]; exact special)
      (by rw [view]; exact notClosed)
    have answerThere : (request.search service).specialAnswer (solo.withHours hours).view zone
        (solo.withHours hours).clock = answer := by
      rw [view, ← answerHere]
      rfl
    rw [answerThere] at there
    rcases here with ⟨works, result⟩ | ⟨shut, result⟩ <;>
      rcases there with ⟨worksToo, resultToo⟩ | ⟨shutToo, resultToo⟩ <;>
      rw [result, resultToo]
    · exact iff_of_true rfl (.inl (iff_of_true worksToo works))
    · rw [eq_comm]
      refine ⟨.inr, fun either => either.elim (fun same => ?_) id⟩
      exact absurd (same.mpr works) (not_exists.mpr shutToo)
    · refine ⟨.inr, fun either => either.elim (fun same => ?_) id⟩
      exact absurd (same.mp worksToo) (not_exists.mpr shut)
    · exact iff_of_true rfl (.inl (iff_of_false (not_exists.mpr shutToo) (not_exists.mpr shut)))

end Results

/-! ## Two special dates -/

/-- The salon of the first Monday with special hours on it and on the Sunday before,
both from ten to eleven for the whole salon. -/
def sampleHoliday : Solo :=
  ⟨{ sampleMonday with
      availabilityExceptions :=
        [⟨1, 1, none, 4, false, some (clockTime 10 0), some (clockTime 11 0)⟩,
          ⟨1, 1, none, 3, false, some (clockTime 10 0), some (clockTime 11 0)⟩] },
    [], 10, 0, [], 0, fun _ => true, .start⟩

def sampleService : Service :=
  ⟨1, 1, 1, "Haircut", 30, halfHour_pos, true, some "PLN", true, some 5000⟩

theorem sampleHoliday_found (date : Date) :
    SlotRequest.Found sampleSettings ⟨1, 1, 1, none, date⟩ sampleHoliday.view sampleSalon
      sampleService ⟨id, id⟩ where
  businessFound := rfl
  serviceFound := rfl
  serviceHere := rfl
  staffFound := nofun
  zoneKnown := rfl

theorem sampleHoliday_open (date : Date) :
    ¬((⟨1, 1, 1, none, date⟩ : SlotRequest).search sampleService).Closed sampleHoliday.view := by
  rintro ⟨row, ⟨there, -⟩, closed⟩
  have noneClosed : ∀ row ∈ sampleHoliday.view.availabilityExceptions, row.isClosed = false := by
    decide
  rw [noneClosed row there] at closed
  cases closed

/-- On the Monday the salon works, and the special hours replace its hours. -/
theorem special_hours_replace_monday :
    ((⟨1, 1, 1, none, 4⟩ : SlotRequest).run sampleSettings).run Solo.exec sampleHoliday =
      (((⟨1, 1, 1, none, 4⟩ : SlotRequest).search sampleService).specialAnswer
        sampleHoliday.view ⟨id, id⟩ 0, sampleHoliday) := by
  have special : ((⟨1, 1, 1, none, 4⟩ : SlotRequest).search sampleService).SpecialWindow
      sampleHoliday.view (clockTime 10 0, clockTime 11 0) :=
    ⟨_, ⟨List.mem_cons_self, rfl, rfl, rfl, .inl rfl⟩, rfl, rfl⟩
  refine (special_hours_replace_working_hours_iff sampleSettings ⟨1, 1, 1, none, 4⟩ sampleHoliday
    (sampleHoliday_found 4) ⟨_, special⟩ (sampleHoliday_open 4)).1.mpr (.inl ?_)
  exact ⟨_, .salon (.inl rfl) ⟨_, ⟨List.mem_cons_self, rfl, rfl, rfl⟩, rfl, rfl⟩⟩

/-- On the Sunday it does not work, and the special hours open nothing. -/
theorem special_hours_open_no_sunday :
    ¬∀ (cfg : Settings) (request : SlotRequest) (solo : Solo) (business : Business)
      (service : Service) (zone : Zone), request.Found cfg solo.view business service zone →
      (∃ window, (request.search service).SpecialWindow solo.view window) →
      ¬(request.search service).Closed solo.view →
        (request.run cfg).run Solo.exec solo =
          ((request.search service).specialAnswer solo.view zone solo.clock, solo) := by
  intro replaced
  have special : ((⟨1, 1, 1, none, 3⟩ : SlotRequest).search sampleService).SpecialWindow
      sampleHoliday.view (clockTime 10 0, clockTime 11 0) :=
    ⟨_, ⟨List.mem_cons_of_mem _ List.mem_cons_self, rfl, rfl, rfl, .inl rfl⟩, rfl, rfl⟩
  have sunday := replaced sampleSettings ⟨1, 1, 1, none, 3⟩ sampleHoliday sampleSalon sampleService
    ⟨id, id⟩ (sampleHoliday_found 3) ⟨_, special⟩ (sampleHoliday_open 3)
  have nothing : (((⟨1, 1, 1, none, 3⟩ : SlotRequest).run sampleSettings).run Solo.exec
      sampleHoliday).1.map List.length = .ok 0 := by
    decide +kernel
  have two : (((⟨1, 1, 1, none, 3⟩ : SlotRequest).search sampleService).specialAnswer
      sampleHoliday.view ⟨id, id⟩ sampleHoliday.clock).map List.length = .ok 2 := by
    decide +kernel
  rw [sunday, two] at nothing
  cases nothing

end AppointmentVoice
