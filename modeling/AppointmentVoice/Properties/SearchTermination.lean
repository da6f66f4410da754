import AppointmentVoice.Services.SearchLoops

/-!
# When the slot search comes to an end

With a positive duration every window is full after finitely many steps, and the search
returns its list, or raises because it has come to the end of the calendar
(`availableSlotsWithin_comes`).  A booking without lines has a total duration of zero, and
the loop stays where it is in any window that is open (`candidatesWithin_open`).  The main
result, `slot_search_terminates`, says so of every search and state.
-/

set_option autoImplicit false

namespace AppointmentVoice

open Concurrency Intervals

/-! ## The loop -/

/-- What a loop comes to that has all its times in the calendar, or else an error. -/
def checked {α : Type} (times : List Int) (value : α) : Except AppError α :=
  if ∀ time ∈ times, InCalendar time then .ok value else .error .overflow

theorem slotsLoop_eq {length stop : Int} {zone : Zone} {rounds : Nat} {current : Int}
    (enough : stop < current + (rounds + 1) * length) :
    slotsLoop length stop zone (rounds + 1) current =
      some (checked (loopTimes length zone current (gridFrom length stop rounds current))
        ((gridFrom length stop rounds current).map zone.toUtc)) := by
  induction rounds generalizing current with
  | zero =>
      have full : ¬ current + length ≤ stop := by
        push_cast at enough
        linarith
      rw [slotsLoop, if_neg full, gridFrom]
      by_cases fits : InCalendar (current + length)
      · simp [checked, loopTimes, fits]
      · simp [checked, loopTimes, fits]
  | succ rounds ih =>
      rw [slotsLoop, gridFrom]
      split
      · next leaves =>
          split
          · simp [checked, loopTimes, leaves]
          · simp [checked, loopTimes, leaves]
      · next first =>
          split
          · rw [ih (by push_cast at enough ⊢; linarith)]
            generalize gridFrom length stop rounds (current + length) = rest
            have last : current + ((current :: rest).length + 1) * length =
                current + length + (rest.length + 1) * length := by
              rw [List.length_cons]
              push_cast
              ring
            have same : (∀ time ∈ loopTimes length zone current (current :: rest),
              InCalendar time) ↔
                InCalendar (zone.toUtc current) ∧
                  ∀ time ∈ loopTimes length zone (current + length) rest, InCalendar time := by
              simp only [loopTimes, last, List.map_cons, List.forall_mem_append, List.cons_append,
                List.forall_mem_cons]
              have told := not_not.mp first
              tauto
            rw [checked, checked]
            simp only [same]
            by_cases utc : InCalendar (zone.toUtc current)
            · by_cases others : ∀ time ∈ loopTimes length zone (current + length) rest,
                  InCalendar time
              · rw [if_neg (not_not.mpr utc), if_pos others, if_pos ⟨utc, others⟩]
                rfl
              · rw [if_neg (not_not.mpr utc), if_neg others, if_neg fun both => others both.2]
                rfl
            · rw [if_pos utc, if_neg fun both => utc both.1]
          · simp [checked, loopTimes, not_not.mp first]

/-- More rounds change nothing once the loop has ended. -/
theorem slotsLoop_more {length stop : Int} {zone : Zone} {rounds more : Nat} {current : Int}
    {result : Except AppError (List Instant)}
    (ended : slotsLoop length stop zone rounds current = some result) (le : rounds ≤ more) :
    slotsLoop length stop zone more current = some result := by
  induction rounds generalizing more current result with
  | zero => cases ended
  | succ rounds ih =>
      obtain ⟨more, rfl⟩ := Nat.exists_eq_add_of_le' (Nat.one_le_of_lt le)
      rw [slotsLoop] at ended ⊢
      split at ended
      · next leaves =>
          rw [if_pos leaves]
          exact ended
      · next told =>
          rw [if_neg told]
          split at ended
          · next fits =>
              rw [if_pos fits]
              split at ended
              · next leaves =>
                  rw [if_pos leaves]
                  exact ended
              · next toldUtc =>
                  rw [if_neg toldUtc]
                  obtain ⟨rest, tail, rfl⟩ := Option.map_eq_some_iff.mp ended
                  rw [ih tail (Nat.le_of_succ_le_succ le)]
                  rfl
          · next full =>
              rw [if_neg full]
              exact ended

/-- With no duration the loop stays in a window that is open, if its start can be told. -/
theorem slotsLoop_zero {stop current : Int} {zone : Zone} (isOpen : current ≤ stop)
    (told : InCalendar current) (toldUtc : InCalendar (zone.toUtc current)) (rounds : Nat) :
    slotsLoop 0 stop zone rounds current = none := by
  induction rounds with
  | zero => rfl
  | succ rounds ih =>
      rw [slotsLoop, Int.add_zero, if_neg (not_not.mpr told), if_pos isOpen,
        if_neg (not_not.mpr toldUtc), ih, Option.map_none]

/-! ## The windows of a date -/

variable {queryDate : Date} {zone : Zone}

theorem combine_le_combine {first second : TimeOfDay} :
    combine queryDate first ≤ combine queryDate second ↔ first ≤ second := by
  rw [combine, combine, Int.add_le_add_iff_left, Int.ofNat_le]
  exact Iff.rfl

/-- The calendar ends between two dates, so it has a date with all its times or not at
all. -/
theorem inCalendar_combine (first second : TimeOfDay) :
    InCalendar (combine queryDate first) ↔ InCalendar (combine queryDate second) := by
  have one := first.isLt
  have two := second.isLt
  rw [InCalendar, InCalendar, combine, combine, datetimeMin, datetimeEnd, dayLength]
  omega

theorem slotsWithin_positive (window : Window TimeOfDay) (duration : ℕ+) :
    ∃ rounds, ∀ more, rounds ≤ more → slotsWithin more queryDate window duration zone =
      some (checked (timesTried queryDate window duration zone)
        (slotsInWindow queryDate window duration zone)) := by
  let start := combine queryDate window.1
  let stop := combine queryDate window.2
  let steps := ((stop - start) / minutes duration).toNat
  have enough : stop < start + (steps + 1) * minutes duration := by
    have positive : 0 < minutes duration := minutes_pos duration.pos
    have whole : (stop - start) / minutes duration ≤ steps := Int.self_le_toNat _
    have short : stop - start < ((stop - start) / minutes duration + 1) * minutes duration :=
      Int.lt_ediv_add_one_mul_self _ positive
    have more := mul_le_mul_of_nonneg_right (add_le_add_left whole 1) positive.le
    omega
  refine ⟨steps + 1, fun more le => ?_⟩
  rw [slotsWithin, slotsLoop_more (slotsLoop_eq enough) le]
  rfl

theorem candidatesWithin_positive (windows : List (Window TimeOfDay)) (duration : ℕ+) :
    ∃ rounds, ∀ more, rounds ≤ more → candidatesWithin more queryDate duration zone windows =
      some (checked (windows.flatMap fun window => timesTried queryDate window duration zone)
        (windows.flatMap fun window => slotsInWindow queryDate window duration zone)) := by
  induction windows with
  | nil => exact ⟨0, fun _ _ => by simp [candidatesWithin, checked]⟩
  | cons window windows ih =>
      obtain ⟨first, head⟩ := slotsWithin_positive window duration
      obtain ⟨rest, tail⟩ := ih
      refine ⟨max first rest, fun more le => ?_⟩
      rw [candidatesWithin, head more (le_of_max_le_left le), tail more (le_of_max_le_right le)]
      simp only [List.flatMap_cons, checked, List.forall_mem_append]
      by_cases here : ∀ time ∈ timesTried queryDate window duration zone, InCalendar time
      · by_cases others : ∀ time ∈ windows.flatMap fun window =>
            timesTried queryDate window duration zone, InCalendar time
        · rw [if_pos here, if_pos others, if_pos ⟨here, others⟩]
          rfl
        · rw [if_pos here, if_neg others, if_neg fun both => others both.2]
          rfl
      · have leaves : ¬((∀ time ∈ timesTried queryDate window duration zone, InCalendar time) ∧
            ∀ time ∈ windows.flatMap fun window => timesTried queryDate window duration zone,
              InCalendar time) := fun both => here both.1
        rw [if_neg here, if_neg leaves]

/-- The first of the windows that is open. -/
def firstOpen (windows : List (Window TimeOfDay)) : Option (Window TimeOfDay) :=
  windows.find? fun window => window.1 ≤ window.2

/-- With no duration, the first open window keeps the search for ever, if its start can be
told. -/
theorem candidatesWithin_open {windows : List (Window TimeOfDay)} {window : Window TimeOfDay}
    (first : firstOpen windows = some window) (told : InCalendar (combine queryDate window.1))
    (toldUtc : InCalendar (zone.toUtc (combine queryDate window.1))) (rounds : Nat) :
    candidatesWithin rounds queryDate 0 zone windows = none := by
  induction windows with
  | nil => cases first
  | cons head windows ih =>
      rw [firstOpen, List.find?_cons] at first
      rw [candidatesWithin]
      split at first
      · next isOpen =>
          cases first
          rw [slotsWithin, minutes, Nat.cast_zero, Int.zero_mul,
            slotsLoop_zero (combine_le_combine.mpr (of_decide_eq_true isOpen)) told toldUtc]
      · next closed =>
          rw [ih first]
          cases rounds with
          | zero => rfl
          | succ rounds =>
              have full : ¬combine queryDate head.1 ≤ combine queryDate head.2 :=
                mt combine_le_combine.mp (of_decide_eq_false closed)
              have toldHead := (inCalendar_combine window.1 head.1).mp told
              rw [slotsWithin, minutes, Nat.cast_zero, Int.zero_mul, slotsLoop, Int.add_zero,
                if_neg (not_not.mpr toldHead), if_neg full]
              rfl

/-- Otherwise one round is enough. -/
theorem candidatesWithin_closed {windows : List (Window TimeOfDay)}
    (fair : ∀ window, firstOpen windows = some window → InCalendar (combine queryDate window.1) →
      ¬InCalendar (zone.toUtc (combine queryDate window.1))) :
    candidatesWithin 1 queryDate 0 zone windows ≠ none := by
  induction windows with
  | nil => exact Option.some_ne_none _
  | cons head windows ih =>
      rw [candidatesWithin, slotsWithin, minutes, Nat.cast_zero, Int.zero_mul, slotsLoop,
        Int.add_zero]
      by_cases told : InCalendar (combine queryDate head.1)
      swap
      · rw [if_pos told]
        exact Option.some_ne_none _
      rw [if_neg (not_not.mpr told)]
      simp only [firstOpen, List.find?_cons] at fair
      by_cases isOpen : head.1 ≤ head.2
      · rw [if_pos (combine_le_combine.mpr isOpen)]
        rw [decide_eq_true isOpen] at fair
        rw [if_pos (fair head rfl told)]
        exact Option.some_ne_none _
      · rw [if_neg (mt combine_le_combine.mp isOpen)]
        rw [decide_eq_false isOpen] at fair
        dsimp only
        rw [ne_eq, Option.map_eq_none_iff]
        exact ih fair

/-! ## Searches for a positive duration -/

/-- After enough rounds the one search does what the other does. -/
def ComesTo {α : Type} (search : Nat → DbM (Option α)) (full : DbM α) (solo : Solo) : Prop :=
  ∃ rounds, ∀ more, rounds ≤ more →
    (search more).run Solo.exec solo = Prod.map (Except.map some) id (full.run Solo.exec solo)

/-- After enough rounds the search ends. -/
def Finishes {α : Type} (search : Nat → DbM (Option α)) (solo : Solo) : Prop :=
  ∃ rounds, ((search rounds).run Solo.exec solo).1 ≠ .ok none

section Searches

variable {α β : Type} {solo : Solo} {cfg : Settings}

theorem ComesTo.finishes {search : Nat → DbM (Option α)} {full : DbM α}
    (comes : ComesTo search full solo) : Finishes search solo := by
  obtain ⟨rounds, same⟩ := comes
  refine ⟨rounds, fun unfinished => ?_⟩
  rw [same rounds (le_refl rounds), Prod.map_fst] at unfinished
  cases result : (full.run Solo.exec solo).1 with
  | error error =>
      rw [result] at unfinished
      cases unfinished
  | ok value =>
      rw [result] at unfinished
      cases unfinished

theorem ComesTo.bind {program : DbM β} {search : Nat → β → DbM (Option α)} {full : β → DbM α}
    (each : ∀ value after, ComesTo (fun rounds => search rounds value) (full value) after) :
    ComesTo (fun rounds => program >>= search rounds) (program >>= full) solo := by
  simp only [ComesTo, Program.run_bind]
  generalize program.run Solo.exec solo = outcome
  obtain ⟨result, after⟩ := outcome
  cases result with
  | error error => exact ⟨0, fun _ _ => rfl⟩
  | ok value => exact each value after

theorem eachOrOverflow_pos {times : List Int} (fits : ∀ time ∈ times, InCalendar time) :
    eachOrOverflow times = pure () := if_pos fits

theorem eachOrOverflow_neg {times : List Int} (leaves : ¬∀ time ∈ times, InCalendar time) :
    eachOrOverflow times = throw .overflow := if_neg leaves

/-- A search that is the same from some round on. -/
theorem ComesTo.eventually {search : Nat → DbM (Option α)} {rest : DbM (Option α)} {full : DbM α}
    (rounds : Nat) (same : ∀ more, rounds ≤ more → search more = rest)
    (comes : ComesTo (fun _ => rest) full solo) : ComesTo search full solo := by
  obtain ⟨start, ran⟩ := comes
  refine ⟨max rounds start, fun more le => ?_⟩
  rw [same more (le_of_max_le_left le)]
  exact ran more (le_of_max_le_right le)

theorem availableSlotsWithin_comes {business : Business} {businessId tenantId : Nat}
    {staffId : Option Nat} (duration : ℕ+) {queryDate : Date} :
    ComesTo (fun rounds => availableSlotsWithin rounds cfg business businessId tenantId staffId
      duration queryDate)
      (getAvailableSlotsForDuration cfg business businessId tenantId staffId duration queryDate)
      solo := by
  refine ComesTo.bind fun zone solo => ComesTo.bind fun hours solo => ?_
  cases hours.isEmpty with
  | true => exact ⟨0, fun _ _ => rfl⟩
  | false =>
      refine ComesTo.bind fun exceptions solo => ?_
      cases exceptions.any (·.isClosed) with
      | true => exact ⟨0, fun _ _ => rfl⟩
      | false =>
          refine ComesTo.bind fun blocks solo => ?_
          obtain ⟨rounds, full⟩ : ∃ rounds, ∀ more, rounds ≤ more →
              candidatesWithin more queryDate duration zone _ = some _ :=
            candidatesWithin_positive (effectiveWindows hours exceptions blocks) duration
          rw [checked] at full
          dsimp only
          split at full
          · next fits =>
              rw [eachOrOverflow_pos fits]
              refine ComesTo.eventually rounds (fun more le => by rw [full more le]) ?_
              dsimp only
              rw [pure_bind]
              generalize sortedSet ((effectiveWindows hours exceptions blocks).flatMap
                fun window => slotsInWindow queryDate window duration zone) = starts
              cases starts.isEmpty with
              | true => exact ⟨0, fun _ _ => rfl⟩
              | false =>
                  refine ComesTo.bind fun _ solo => ComesTo.bind fun bookings solo => ?_
                  refine ComesTo.bind fun nowUtc solo => ComesTo.bind fun _ solo => ?_
                  exact ⟨0, fun _ _ => rfl⟩
          · next leaves =>
              rw [eachOrOverflow_neg leaves]
              refine ⟨rounds, fun more le => ?_⟩
              dsimp only
              rw [full more le]
              rfl

/-- The search of a service. -/
theorem getAvailableSlotsWithin_comes (request : SlotRequest) :
    ComesTo (fun rounds => getAvailableSlotsWithin rounds cfg request.tenantId request.businessId
      request.serviceId request.staffId request.queryDate) (request.run cfg) solo := by
  refine ComesTo.bind fun business solo => ComesTo.bind fun service solo => ?_
  by_cases here : service.businessId = request.businessId
  · simp only [here, ne_eq, not_true_eq_false, if_false]
    exact ComesTo.bind fun _ _ =>
      availableSlotsWithin_comes ⟨service.durationMinutes, service.durationPositive⟩
  · simp only [ne_eq, here, not_false_eq_true, if_true]
    exact ⟨0, fun _ _ => rfl⟩

/-! ## Searches for a duration of zero -/

/-- The loops of the search over the windows of its date. -/
def SlotSearch.candidatesWithin (search : SlotSearch) (db : Db) (zone : Zone)
    (rounds durationMinutes : Nat) : Option (Except AppError (List Instant)) :=
  AppointmentVoice.candidatesWithin rounds search.queryDate durationMinutes zone
    (search.openWindows db)

theorem Ends.availableSlotsWithin (search : SlotSearch) {business : Business} {zone : Zone}
    {rounds durationMinutes : Nat} (known : cfg.zoneInfo business.timezone = some zone)
    {post : Except AppError (Option (List (Instant × Instant))) → Solo → Prop}
    (stays : search.candidatesWithin solo.view zone rounds durationMinutes = none →
      post (.ok none) solo)
    (ends : search.candidatesWithin solo.view zone rounds durationMinutes ≠ none →
      ∀ result, result ≠ .ok none → post result solo) :
    Ends (AppointmentVoice.availableSlotsWithin rounds cfg business search.businessId
      search.tenantId search.staffId durationMinutes search.queryDate) solo post := by
  rw [AppointmentVoice.availableSlotsWithin, known]
  refine Ends.chosenHours ?_
  have nothing : search.openWindows solo.view = [] → post (.ok (some [])) solo := by
    intro closed
    refine ends ?_ _ (by simp)
    rw [SlotSearch.candidatesWithin, closed]
    exact Option.some_ne_none _
  rw [SlotSearch.openWindows] at nothing
  rw [SlotSearch.candidatesWithin, SlotSearch.openWindows] at stays ends
  cases empty : (search.chosenHours solo.view).isEmpty with
  | true =>
      rw [empty] at nothing
      exact Ends.ret (nothing rfl)
  | false =>
      rw [empty, if_neg Bool.false_ne_true] at nothing stays ends
      rw [if_neg Bool.false_ne_true]
      refine Ends.select _ ?_
      change Ends (if (search.exceptions solo.view).any (·.isClosed) = true then _ else _) solo _
      cases closed : (search.exceptions solo.view).any (·.isClosed) with
      | true =>
          rw [closed] at nothing
          exact Ends.ret (nothing rfl)
      | false =>
          rw [closed, if_neg Bool.false_ne_true] at stays ends
          refine Ends.select _ ?_
          simp only [SlotSearch.exceptions, SlotSearch.blocks] at stays ends
          dsimp only
          generalize candidatesWithin rounds search.queryDate durationMinutes zone _ =
            candidates at stays ends ⊢
          cases candidates with
          | none => exact Ends.ret (stays rfl)
          | some result =>
              have done := ends (Option.some_ne_none _)
              cases result with
              | error error => exact done (.error error) (by simp)
              | ok starts =>
                  dsimp only
                  split
                  · exact Ends.ret (done _ (by simp))
                  · refine Ends.eachOrOverflow (fun _ => done _ (by simp)) fun _ => ?_
                    refine Ends.select _ (Ends.now ?_)
                    exact Ends.eachOrOverflow (fun _ => done _ (by simp)) fun _ =>
                      Ends.ret (done _ (by simp))

end Searches

/-! ## Searches for the services of a booking -/

/-- The arguments of a search for the services of a booking. -/
structure BookingSearch where
  bookingId : Nat
  tenantId : Nat
  businessId : Nat
  staffId : Option Nat
  queryDate : Date

namespace BookingSearch

variable (request : BookingSearch) (cfg : Settings) (lineItems : List BookingLineItem)

def within (rounds : Nat) : DbM (Option (List (Instant × Instant))) :=
  getAvailableSlotsForBooking rounds cfg lineItems request.bookingId request.tenantId
    request.businessId request.staffId request.queryDate

/-- The line items of the booking. -/
def lines : List BookingLineItem :=
  lineItems.filter fun row => row.bookingId == request.bookingId && row.tenantId == request.tenantId

/-- The search that is made; its duration does not matter for the windows. -/
def search : SlotSearch :=
  ⟨request.businessId, request.tenantId, request.staffId, 1, request.queryDate⟩

/-- The booking has no line items, its search finds the rows that it needs, and a window is
open on the date.  The start of the first such window can be told: on the first and the last
date of the calendar it can lie outside in UTC, and then the search raises. -/
structure Endless (db : Db) : Prop where
  bare : request.lines lineItems = []
  booking : ∃ booking, Query.eval (.booking request.bookingId request.tenantId) db = some booking
  staff : StaffFound db request.staffId request.businessId request.tenantId
  window : ∃ business zone window, Query.eval (.business request.businessId request.tenantId) db =
      some business ∧ cfg.zoneInfo business.timezone = some zone ∧
    firstOpen (request.search.openWindows db) = some window ∧
      InCalendar (combine request.queryDate window.1) ∧
        InCalendar (zone.toUtc (combine request.queryDate window.1))

/-- The minutes of the line items. -/
def total : Nat := ((request.lines lineItems).map (·.durationMinutes)).sum

end BookingSearch

section Bookings

variable {request : BookingSearch} {cfg : Settings} {lineItems : List BookingLineItem}
variable {solo : Solo}

theorem BookingSearch.total_eq_zero : request.total lineItems = 0 ↔
    request.lines lineItems = [] := by
  rw [BookingSearch.total]
  constructor
  · intro none
    by_contra some
    obtain ⟨row, member⟩ := List.exists_mem_of_ne_nil _ some
    exact absurd (List.sum_eq_zero_iff.mp none _ (List.mem_map_of_mem member))
      row.durationPositive.ne'
  · intro none
    rw [none]
    rfl

/-- The search of a booking looks for the booking, and for the minutes of its line items. -/
theorem Ends.bookingSearch {rounds : Nat}
    {post : Except AppError (Option (List (Instant × Instant))) → Solo → Prop}
    (missing : Query.eval (.booking request.bookingId request.tenantId) solo.view = none →
      ∀ error, post (.error error) solo)
    (found : ∀ booking,
      Query.eval (.booking request.bookingId request.tenantId) solo.view = some booking →
      Ends (getAvailableSlotsForTotalDuration rounds cfg request.tenantId request.businessId
        (request.total lineItems) request.staffId request.queryDate) solo post) :
    Ends (request.within cfg lineItems rounds) solo post := by
  rw [BookingSearch.within, getAvailableSlotsForBooking, getBookingTotalDurationMinutes,
    listBookingLineItems, requireBooking]
  simp only [bind_assoc]
  refine Ends.select _ (Ends.orRaise (fun none => missing none _) fun booking there => ?_)
  have same : (((lineItems.filter fun row => row.bookingId == request.bookingId &&
      row.tenantId == request.tenantId).insertionSort fun row other =>
        row.position ≤ other.position).map (·.durationMinutes)).sum = request.total lineItems :=
    ((List.perm_insertionSort _ _).map _).sum_eq
  simp only [pure_bind, same]
  exact found booking there

theorem totalDuration_finishes {tenantId businessId total : Nat} {staffId : Option Nat}
    {queryDate : Date} (positive : 0 < total) :
    Finishes (fun rounds => getAvailableSlotsForTotalDuration rounds cfg tenantId businessId total
      staffId queryDate) solo := by
  have comes : ComesTo (fun rounds => getAvailableSlotsForTotalDuration rounds cfg tenantId
      businessId total staffId queryDate) (do
        let business ← requireBusiness businessId tenantId
        requireStaffIfGiven staffId businessId tenantId
        getAvailableSlotsForDuration cfg business businessId tenantId staffId ⟨total, positive⟩
          queryDate) solo :=
    ComesTo.bind fun _ _ => ComesTo.bind fun _ _ => availableSlotsWithin_comes ⟨total, positive⟩
  exact comes.finishes

/-- A booking with line items has its search come to an end. -/
theorem finishes_of_lines (some : request.lines lineItems ≠ []) :
    Finishes (request.within cfg lineItems) solo := by
  have positive : 0 < request.total lineItems :=
    Nat.pos_of_ne_zero fun none => some (BookingSearch.total_eq_zero.mp none)
  obtain ⟨rounds, ended⟩ : Finishes (fun rounds => getAvailableSlotsForTotalDuration rounds cfg
      request.tenantId request.businessId (request.total lineItems) request.staffId
      request.queryDate) solo :=
    totalDuration_finishes positive
  have ends : Ends (request.within cfg lineItems rounds) solo fun result _ => result ≠ .ok none :=
    Ends.bookingSearch (fun _ _ => by rintro ⟨⟩) fun _ _ => ended
  exact ⟨rounds, ends⟩

/-- A booking without line items has its search come to an end when no window is open, or
when a row that is needed is not there. -/
theorem finishes_of_not_endless (bare : request.lines lineItems = [])
    (fair : ¬request.Endless cfg lineItems solo.view) :
    Finishes (request.within cfg lineItems) solo := by
  suffices ends : Ends (request.within cfg lineItems 1) solo fun result _ => result ≠ .ok none from
    ⟨1, ends⟩
  refine Ends.bookingSearch (fun _ _ => by rintro ⟨⟩) fun booking bookingFound => ?_
  rw [BookingSearch.total_eq_zero.mpr bare, getAvailableSlotsForTotalDuration]
  refine Ends.requireBusiness (fun _ _ => by rintro ⟨⟩) fun business businessFound => ?_
  refine Ends.requireStaffIfGiven (fun _ _ => by rintro ⟨⟩) fun staffFound => ?_
  cases known : cfg.zoneInfo business.timezone with
  | none =>
      rw [availableSlotsWithin, known]
      exact Ends.raise (by rintro ⟨⟩)
  | some zone =>
      refine Ends.availableSlotsWithin request.search known (fun stuck => ?_) fun _ _ => id
      refine absurd stuck (candidatesWithin_closed fun window first told toldUtc => ?_)
      exact fair ⟨bare, ⟨booking, bookingFound⟩, staffFound,
        ⟨business, zone, window, businessFound, known, first, told, toldUtc⟩⟩

/-- An open window keeps the search of a booking without line items for ever. -/
theorem never_ends (endless : request.Endless cfg lineItems solo.view) (rounds : Nat) :
    ((request.within cfg lineItems rounds).run Solo.exec solo).1 = .ok none := by
  obtain ⟨bare, ⟨booking, bookingFound⟩, staffFound,
    ⟨business, zone, window, businessFound, known, first, told, toldUtc⟩⟩ := endless
  suffices ends : Ends (request.within cfg lineItems rounds) solo fun result _ =>
    result = .ok none from ends
  refine Ends.bookingSearch (fun missing => ?_) fun _ _ => ?_
  · rw [bookingFound] at missing
    cases missing
  rw [BookingSearch.total_eq_zero.mpr bare, getAvailableSlotsForTotalDuration]
  refine Ends.requireBusiness (fun missing => ?_) fun row there => ?_
  · rw [businessFound] at missing
    cases missing
  rw [businessFound] at there
  cases there
  refine Ends.requireStaffIfGiven (fun missing => absurd staffFound missing) fun _ => ?_
  have stuck : request.search.candidatesWithin solo.view zone rounds 0 = none :=
    candidatesWithin_open first told toldUtc rounds
  exact Ends.availableSlotsWithin request.search known (fun _ => rfl) fun ended =>
    absurd stuck ended

end Bookings

/-! ## Results -/

/-- **Termination of the slot search.**  The search for a service ends in every state and
for every date, with what `get_available_slots` comes to.  The search for the services of a
booking ends unless the booking has no line items, a window is open on the date, and the
start of the first such window can be told in UTC. -/
theorem slot_search_terminates (cfg : Settings) (lineItems : List BookingLineItem) (solo : Solo) :
    (∀ request : SlotRequest,
      ComesTo (fun rounds => getAvailableSlotsWithin rounds cfg request.tenantId
        request.businessId request.serviceId request.staffId request.queryDate)
        (request.run cfg) solo) ∧
    ∀ request : BookingSearch, Finishes (request.within cfg lineItems) solo ↔
      ¬request.Endless cfg lineItems solo.view := by
  refine ⟨getAvailableSlotsWithin_comes, fun request => ⟨?_, fun fair => ?_⟩⟩
  · rintro ⟨rounds, ended⟩ stuck
    exact ended (never_ends stuck rounds)
  · by_cases bare : request.lines lineItems = []
    · exact finishes_of_not_endless bare fair
    · exact finishes_of_lines bare

/-! ## A booking without line items -/

/-- A salon that is open on Mondays, and a booking of a single service. -/
def singleServiceDb : Db :=
  { sampleDb with
    workingHours := [⟨1, 1, none, 0, clockTime 9 0, clockTime 17 0⟩]
    bookings := [⟨10, 1, 1, 1, 1, some 1, minutes 60, minutes 90, .confirmed, .api, none, 0⟩] }

def singleServiceSolo : Solo :=
  ⟨singleServiceDb, [], 11, 0, [], 0, fun _ => true, .start⟩

/-- The search for the next Monday does not end for the booking, whose line items were
never added. -/
theorem single_service_booking_hangs :
    ¬Finishes ((⟨10, 1, 1, some 1, 4⟩ : BookingSearch).within sampleSettings [])
      singleServiceSolo := by
  rintro ⟨rounds, ended⟩
  refine ended (never_ends ⟨rfl, ⟨_, rfl⟩, ?_, ?_⟩ rounds)
  · rintro _ ⟨⟩
    exact ⟨_, rfl, rfl⟩
  · exact ⟨_, ⟨id, id⟩, (clockTime 9 0, clockTime 17 0), rfl, rfl, by decide +kernel, by decide,
      by decide⟩

end AppointmentVoice
