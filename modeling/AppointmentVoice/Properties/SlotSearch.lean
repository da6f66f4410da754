import AppointmentVoice.Properties.PaymentAgreement
import AppointmentVoice.Services.Availability

/-!
# Slot search is exactly its specification

What the slot search is for, said over the rows of the five tables: which windows
are open on a date, which pieces of them the recurring blocks leave, and which
points of the grid of a piece can be booked.

**The search.** For the windows that it has come to, the search answers with their free
slots, or raises because a time that it computes is outside the calendar
(`SlotSearch.answerIn`); in a zone with a constant offset it stays inside on every date
that does so itself, with the next midnight and one duration more
(`SlotSearch.InsideCalendar`).

**The specification.** In such a zone the search returns the slots that can be booked,
each once and in order (`slot_search_meets_its_specification`), as long as the blocks that
apply end after they begin.  A block that does not takes nothing out of the day, but the
cut leaves two windows that overlap (`inverted_block_closes_the_morning`).
-/

set_option autoImplicit false

namespace AppointmentVoice

open Concurrency Intervals

/-! ## The specification -/

/-- A zone whose wall clock is always the same distance ahead of UTC. -/
def Zone.fixed (offset : Int) : Zone := ⟨fun wall => wall - offset, fun utc => utc + offset⟩

/-- What is searched for. -/
structure SlotSearch where
  businessId : Nat
  tenantId : Nat
  staffId : Option Nat
  duration : ℕ+
  queryDate : Date

namespace SlotSearch

variable (search : SlotSearch) (db : Db)

/-- A row of working hours of the staff member, or of the salon for `none`. -/
def HoursOf (staffId : Option Nat) (row : WorkingHours) : Prop :=
  row ∈ db.workingHours ∧ row.businessId = search.businessId ∧ row.tenantId = search.tenantId ∧
    row.staffId = staffId

/-- There are working hours on some day of the week. -/
def Scheduled (staffId : Option Nat) : Prop := ∃ row, search.HoursOf db staffId row

/-- A window of working hours of the weekday. -/
def OpenFor (staffId : Option Nat) (window : Window TimeOfDay) : Prop :=
  ∃ row, search.HoursOf db staffId row ∧ row.dayOfWeek = weekday search.queryDate ∧
    row.window = window

/-- A working-hour window of the date: the salon's if no staff member is searched
for or the staff member has no hours on any day, the staff member's if the salon
has none on any day, and else what the two have in common. -/
inductive WorkingWindow : Window TimeOfDay → Prop where
  | salon {window : Window TimeOfDay}
      (alone : search.staffId = none ∨ ¬search.Scheduled db search.staffId)
      (isOpen : search.OpenFor db none window) : WorkingWindow window
  | staff {window : Window TimeOfDay} (given : search.staffId ≠ none)
      (scheduled : search.Scheduled db search.staffId) (alone : ¬search.Scheduled db none)
      (isOpen : search.OpenFor db search.staffId window) : WorkingWindow window
  | common {staff salon : Window TimeOfDay} (given : search.staffId ≠ none)
      (scheduled : search.Scheduled db search.staffId) (scheduledToo : search.Scheduled db none)
      (isOpen : search.OpenFor db search.staffId staff) (isOpenToo : search.OpenFor db none salon)
      (proper : max staff.1 salon.1 < min staff.2 salon.2) :
      WorkingWindow (max staff.1 salon.1, min staff.2 salon.2)

/-- A business-wide row, or one of the staff member. -/
def InScope (column : Option Nat) : Prop := column = none ∨ column = search.staffId

/-- An exception that applies to the date. -/
def ExceptionApplies (row : AvailabilityException) : Prop :=
  row ∈ db.availabilityExceptions ∧ row.businessId = search.businessId ∧
    row.tenantId = search.tenantId ∧ row.date = search.queryDate ∧ search.InScope row.staffId

/-- The date is closed. -/
def Closed : Prop := ∃ row, search.ExceptionApplies db row ∧ row.isClosed = true

/-- A window of special hours. -/
def SpecialWindow (window : Window TimeOfDay) : Prop :=
  ∃ row, search.ExceptionApplies db row ∧ row.startTime = some window.1 ∧
    row.endTime = some window.2

/-- The special hours if there are any, else the working hours. -/
def EffectiveWindow (window : Window TimeOfDay) : Prop :=
  search.SpecialWindow db window ∨
    (∀ special, ¬search.SpecialWindow db special) ∧ search.WorkingWindow db window

/-- A block that applies to the weekday. -/
def BlockApplies (row : RecurringStaffBlock) : Prop :=
  row ∈ db.recurringStaffBlocks ∧ row.businessId = search.businessId ∧
    row.tenantId = search.tenantId ∧ row.dayOfWeek = weekday search.queryDate ∧
    search.InScope row.staffId

/-- The union of the blocks that apply. -/
def blocked : Set TimeOfDay := {time | ∃ row, search.BlockApplies db row ∧ time ∈ row.window.points}

/-- The blocks that apply end after they begin. -/
def BlocksProper : Prop := ∀ row, search.BlockApplies db row → row.startTime < row.endTime

/-- The day and its length after the next midnight are in the calendar, on the wall clock
and in UTC. -/
structure InsideCalendar (offset : Int) : Prop where
  begins : InCalendar (search.queryDate * dayLength)
  beginsUtc : InCalendar (search.queryDate * dayLength - offset)
  ends : InCalendar ((search.queryDate + 1) * dayLength + minutes search.duration)
  endsUtc : InCalendar ((search.queryDate + 1) * dayLength - offset)

/-- An active booking of the business, or of the staff member if one is searched
for. -/
def Booked (booking : Booking) : Prop :=
  booking ∈ db.bookings ∧ booking.businessId = search.businessId ∧
    booking.tenantId = search.tenantId ∧ booking.status.active = true ∧
    (search.staffId = none ∨ booking.staffId = search.staffId)

/-- A slot that can be booked. -/
structure IsAvailable (offset : Int) (now : Instant) (slot : Instant × Instant) : Prop where
  length : slot.2 = slot.1 + minutes search.duration
  onGrid : ∃ window piece, search.EffectiveWindow db window ∧
    IsPiece (search.blocked db) window piece ∧
    (∃ count : Nat, slot.1 = combine search.queryDate piece.1 - offset +
      count * minutes search.duration) ∧
    slot.2 ≤ combine search.queryDate piece.2 - offset
  future : now < slot.1
  free : ∀ booking, search.Booked db booking →
    ¬(booking.startsAt < slot.2 ∧ slot.1 < booking.endsAt)

/-! ### What the search computes -/

variable (zone : Zone)

/-- The starts of the slots of some windows of the date. -/
def startsIn (windows : List (Window TimeOfDay)) : List Instant :=
  sortedSet (windows.flatMap fun window =>
    slotsInWindow search.queryDate window search.duration zone)

/-- The bookings that the search compares its slots with. -/
def dayBookings : List Booking :=
  Query.eval (.activeBookings search.businessId search.tenantId
    (zone.toUtc (search.queryDate * dayLength)) (zone.toUtc ((search.queryDate + 1) * dayLength))
    search.staffId) db

/-- The slots of some windows that are neither past nor booked. -/
def freeIn (now : Instant) (windows : List (Window TimeOfDay)) : List (Instant × Instant) :=
  (search.startsIn zone windows).filterMap
    (freeSlot (search.dayBookings db zone) now search.duration)

/-- The times that the search computes for some windows: those of the loops, and, when these
yield a start, the midnights of the day and the ends of the slots to come. -/
def computedIn (now : Instant) (windows : List (Window TimeOfDay)) : List Int :=
  (windows.flatMap fun window => timesTried search.queryDate window search.duration zone) ++
    if (search.startsIn zone windows).isEmpty then []
    else [(search.queryDate + 1) * dayLength, zone.toUtc (search.queryDate * dayLength),
      zone.toUtc ((search.queryDate + 1) * dayLength)] ++
        slotEnds now search.duration (search.startsIn zone windows)

/-- What the search answers for some windows: their free slots, or the error of a
computation that leaves the calendar. -/
def answerIn (now : Instant) (windows : List (Window TimeOfDay)) :
    Except AppError (List (Instant × Instant)) :=
  if ∀ time ∈ search.computedIn zone now windows, InCalendar time then
    .ok (search.freeIn db zone now windows)
  else .error .overflow

/-- `_get_available_slots_for_duration` for the search. -/
def slots (cfg : Settings) (business : Business) : DbM (List (Instant × Instant)) :=
  getAvailableSlotsForDuration cfg business search.businessId search.tenantId search.staffId
    search.duration search.queryDate

end SlotSearch

/-! ## Queries -/

section Rows

variable {search : SlotSearch} {db : Db}

/-- The rows that the search reads, as lists. -/
def SlotSearch.hours (search : SlotSearch) (db : Db) (scope : Option Nat) : List WorkingHours :=
  Query.eval (.workingHours search.businessId search.tenantId (weekday search.queryDate) scope) db

def SlotSearch.exceptions (search : SlotSearch) (db : Db) : List AvailabilityException :=
  Query.eval (.availabilityExceptions search.businessId search.tenantId search.queryDate
    search.staffId) db

def SlotSearch.blocks (search : SlotSearch) (db : Db) : List RecurringStaffBlock :=
  Query.eval (.recurringStaffBlocks search.businessId search.tenantId (weekday search.queryDate)
    search.staffId) db

def SlotSearch.bookings (search : SlotSearch) (db : Db) (offset : Int) : List Booking :=
  Query.eval (.activeBookings search.businessId search.tenantId
    (search.queryDate * dayLength - offset) ((search.queryDate + 1) * dayLength - offset)
    search.staffId) db

theorem staffOrBusinessWide_iff {column : Option Nat} :
    staffOrBusinessWide search.staffId column = true ↔ search.InScope column := by
  rw [SlotSearch.InScope]
  cases search.staffId with
  | none => simp [staffOrBusinessWide]
  | some id =>
      simp only [staffOrBusinessWide, Bool.or_eq_true, beq_iff_eq]
      exact or_comm

theorem mem_hours_iff {scope : Option Nat} {window : Window TimeOfDay} :
    window ∈ (search.hours db scope).map WorkingHours.window ↔ search.OpenFor db scope window := by
  simp only [SlotSearch.hours, Query.eval, List.mem_map, List.mem_filter, Bool.and_eq_true,
    beq_iff_eq, staffScope, SlotSearch.OpenFor, SlotSearch.HoursOf]
  constructor
  · rintro ⟨row, ⟨there, ⟨⟨business, tenant⟩, day⟩, staff⟩, same⟩
    exact ⟨row, ⟨there, business, tenant, staff⟩, day, same⟩
  · rintro ⟨row, ⟨there, business, tenant, staff⟩, day, same⟩
    exact ⟨row, ⟨there, ⟨⟨business, tenant⟩, day⟩, staff⟩, same⟩

theorem anyHours_iff {scope : Option Nat} :
    Option.isSome (Query.eval (.anyWorkingHours search.businessId search.tenantId scope) db) =
      true ↔ search.Scheduled db scope := by
  simp only [Query.eval, List.find?_isSome, Bool.and_eq_true, beq_iff_eq, staffScope,
    SlotSearch.Scheduled, SlotSearch.HoursOf, and_assoc]

theorem mem_exceptions_iff {row : AvailabilityException} :
    row ∈ search.exceptions db ↔ search.ExceptionApplies db row := by
  simp only [SlotSearch.exceptions, Query.eval, List.mem_filter, Bool.and_eq_true, beq_iff_eq,
    staffOrBusinessWide_iff, SlotSearch.ExceptionApplies, and_assoc]

theorem mem_blocks_iff {row : RecurringStaffBlock} :
    row ∈ search.blocks db ↔ search.BlockApplies db row := by
  simp only [SlotSearch.blocks, Query.eval, List.mem_filter, Bool.and_eq_true, beq_iff_eq,
    staffOrBusinessWide_iff, SlotSearch.BlockApplies, and_assoc]

theorem taken_blocks :
    taken ((search.blocks db).map RecurringStaffBlock.window) = search.blocked db := by
  ext time
  simp only [taken, SlotSearch.blocked, Set.mem_ofPred_eq, List.mem_map, mem_blocks_iff]
  constructor
  · rintro ⟨_, ⟨row, applies, rfl⟩, inside⟩
    exact ⟨row, applies, inside⟩
  · rintro ⟨row, applies, inside⟩
    exact ⟨_, ⟨row, applies, rfl⟩, inside⟩

end Rows

/-! ## Windows -/

section Windows

variable {search : SlotSearch} {solo : Solo} {β : Type} {post : Except AppError β → Solo → Prop}

theorem mem_intersectTimeWindows {staffWindows salonWindows : List (Window TimeOfDay)}
    {window : Window TimeOfDay} :
    window ∈ intersectTimeWindows staffWindows salonWindows ↔ ∃ staff ∈ staffWindows,
      ∃ salon ∈ salonWindows, max staff.1 salon.1 < min staff.2 salon.2 ∧
        (max staff.1 salon.1, min staff.2 salon.2) = window := by
  simp only [intersectTimeWindows, List.mem_flatMap, List.mem_filterMap,
    Option.ite_none_right_eq_some,
    Option.some.injEq]

theorem Ends.whWindows (search : SlotSearch) {scope : Option Nat}
    {next : List (Window TimeOfDay) → DbM β}
    (ends : Ends (next ((search.hours solo.view scope).map WorkingHours.window)) solo post) :
    Ends (AppointmentVoice.whWindows search.businessId search.tenantId (weekday search.queryDate)
      scope >>= next) solo post := ends

theorem Ends.hasAnySchedule (search : SlotSearch) {scope : Option Nat} {next : Bool → DbM β}
    (found : search.Scheduled solo.view scope → Ends (next true) solo post)
    (missing : ¬search.Scheduled solo.view scope → Ends (next false) solo post) :
    Ends (AppointmentVoice.hasAnySchedule search.businessId search.tenantId scope >>= next) solo
      post := by
  have answer : Ends (next (Option.isSome (Query.eval (.anyWorkingHours search.businessId
      search.tenantId scope) solo.view))) solo post := by
    by_cases scheduled : search.Scheduled solo.view scope
    · rw [anyHours_iff.mpr scheduled]
      exact found scheduled
    · rw [Bool.eq_false_iff.mpr (mt anyHours_iff.mp scheduled)]
      exact missing scheduled
  exact answer

/-- The windows that are chosen are those of the rule. -/
theorem Ends.chooseWorkingHours {next : List (Window TimeOfDay) → DbM β}
    (ends : ∀ windows : List (Window TimeOfDay),
      (∀ window, window ∈ windows ↔ search.WorkingWindow solo.view window) →
        Ends (next windows) solo post) :
    Ends (AppointmentVoice.chooseWorkingHours search.businessId search.tenantId
      (weekday search.queryDate) search.staffId >>= next) solo post := by
  have salonAlone : search.staffId = none ∨ ¬search.Scheduled solo.view search.staffId →
      ∀ window, window ∈ (search.hours solo.view none).map WorkingHours.window ↔
        search.WorkingWindow solo.view window := by
    intro alone window
    rw [mem_hours_iff]
    refine ⟨.salon alone, ?_⟩
    rintro (⟨_, isOpen⟩ | ⟨given, scheduled⟩ | ⟨given, scheduled⟩)
    · exact isOpen
    all_goals exact absurd alone (not_or.mpr ⟨given, not_not.mpr scheduled⟩)
  rw [AppointmentVoice.chooseWorkingHours, bind_assoc]
  refine Ends.whWindows search ?_
  cases given : search.staffId with
  | none => exact ends _ (salonAlone (.inl given))
  | some id =>
      have staffed : search.staffId ≠ none := by
        rw [given]
        nofun
      refine Ends.bind (Ends.whWindows search ?_)
      refine Ends.hasAnySchedule search (fun scheduled => ?_) fun missing => ?_
      swap
      · rw [← given] at missing
        exact ends _ (salonAlone (.inr missing))
      rw [← given] at scheduled ⊢
      refine Ends.hasAnySchedule search (fun scheduledToo => ?_) fun missing => ?_
      · refine ends _ fun window => ?_
        simp only [mem_intersectTimeWindows, mem_hours_iff]
        constructor
        · rintro ⟨staff, isOpen, salon, isOpenToo, proper, rfl⟩
          exact .common staffed scheduled scheduledToo isOpen isOpenToo proper
        · rintro (⟨alone, _⟩ | ⟨_, _, alone, _⟩ | ⟨_, _, _, isOpen, isOpenToo, proper⟩)
          · exact absurd alone (not_or.mpr ⟨staffed, not_not.mpr scheduled⟩)
          · exact absurd scheduledToo alone
          · exact ⟨_, isOpen, _, isOpenToo, proper, rfl⟩
      · refine ends _ fun window => ?_
        rw [mem_hours_iff]
        refine ⟨.staff staffed scheduled missing, ?_⟩
        rintro (⟨alone, _⟩ | ⟨_, _, _, isOpen⟩ | ⟨_, _, scheduledToo⟩)
        · exact absurd alone (not_or.mpr ⟨staffed, not_not.mpr scheduled⟩)
        · exact isOpen
        · exact absurd scheduledToo missing

/-- The special hours that apply to the date, in storage order. -/
def SlotSearch.specialHours (search : SlotSearch) (db : Db) : List (Window TimeOfDay) :=
  (search.exceptions db).filterMap AvailabilityException.specialHours

theorem mem_specialHours_iff {db : Db} (notClosed : ¬search.Closed db)
    {window : Window TimeOfDay} :
    window ∈ search.specialHours db ↔ search.SpecialWindow db window := by
  rw [SlotSearch.specialHours, List.mem_filterMap]
  constructor
  · rintro ⟨row, there, hours⟩
    rw [AvailabilityException.specialHours] at hours
    split at hours
    · next start stop isOpen starts ends =>
        cases hours
        exact ⟨row, mem_exceptions_iff.mp there, starts, ends⟩
    · cases hours
  · rintro ⟨row, applies, starts, ends⟩
    refine ⟨row, mem_exceptions_iff.mpr applies, ?_⟩
    have isOpen : row.isClosed = false :=
      Bool.eq_false_iff.mpr fun closed => notClosed ⟨row, applies, closed⟩
    rw [AvailabilityException.specialHours, isOpen, starts, ends]

/-- The windows of the day are what the cut leaves of each effective window. -/
theorem mem_effectiveWindows {db : Db} {workingHours : List (Window TimeOfDay)}
    {piece : Window TimeOfDay} (notClosed : ¬search.Closed db)
    (chosen : ∀ window, window ∈ workingHours ↔ search.WorkingWindow db window) :
    piece ∈ effectiveWindows workingHours (search.exceptions db) (search.blocks db) ↔
      ∃ window, search.EffectiveWindow db window ∧
        piece ∈ subtractTimeWindows [window]
          ((search.blocks db).map RecurringStaffBlock.window) := by
  have special : ∀ window, window ∈ (search.exceptions db).filterMap
      AvailabilityException.specialHours ↔ search.SpecialWindow db window :=
    fun window => mem_specialHours_iff notClosed
  have cutting : effectiveWindows workingHours (search.exceptions db) (search.blocks db) =
      cutAll (if ((search.exceptions db).filterMap AvailabilityException.specialHours).isEmpty then
        workingHours else (search.exceptions db).filterMap AvailabilityException.specialHours)
          ((search.blocks db).map RecurringStaffBlock.window) := by
    simp only [effectiveWindows, subtractTimeWindows]
    split
    · next none =>
        rw [List.isEmpty_iff.mp none]
        rfl
    · rfl
  have effective : ∀ window, window ∈ (if ((search.exceptions db).filterMap
      AvailabilityException.specialHours).isEmpty then workingHours else
        (search.exceptions db).filterMap AvailabilityException.specialHours) ↔
      search.EffectiveWindow db window := by
    intro window
    split
    · next none =>
        have noSpecial : ∀ other, ¬search.SpecialWindow db other := by
          intro other
          rw [← special, List.isEmpty_iff.mp none]
          exact List.not_mem_nil
        rw [chosen]
        exact ⟨fun working => .inr ⟨noSpecial, working⟩, fun either =>
          either.elim (fun isSpecial => absurd isSpecial (noSpecial window)) And.right⟩
    · next some =>
        rw [special]
        refine ⟨.inl, fun either => either.elim id fun neither => absurd ?_ some⟩
        rw [List.isEmpty_iff, List.eq_nil_iff_forall_not_mem]
        intro other
        rw [special]
        exact neither.1 other
  rw [cutting, cutAll_eq_flatMap, List.mem_flatMap]
  simp only [effective, subtractTimeWindows]

/-- What the cut leaves of a window are its pieces, when the blocks end after they begin. -/
theorem mem_subtractTimeWindows {db : Db} {window piece : Window TimeOfDay}
    (proper : search.BlocksProper db) :
    piece ∈ subtractTimeWindows [window] ((search.blocks db).map RecurringStaffBlock.window) ∧
        piece.Proper ↔ IsPiece (search.blocked db) window piece := by
  have properBlocks : ∀ block ∈ (search.blocks db).map RecurringStaffBlock.window,
    block.Proper := by
    rw [List.forall_mem_map]
    exact fun row there => proper row (mem_blocks_iff.mp there)
  rw [subtractTimeWindows, mem_cutAll_iff properBlocks, taken_blocks]
  simp only [List.mem_singleton, exists_eq_left]

/-- The proper windows of the day are the pieces of the effective windows. -/
theorem mem_pieces_iff {db : Db} {workingHours : List (Window TimeOfDay)}
    {piece : Window TimeOfDay} (notClosed : ¬search.Closed db) (proper : search.BlocksProper db)
    (chosen : ∀ window, window ∈ workingHours ↔ search.WorkingWindow db window) :
    piece ∈ effectiveWindows workingHours (search.exceptions db) (search.blocks db) ∧ piece.Proper ↔
      ∃ window, search.EffectiveWindow db window ∧ IsPiece (search.blocked db) window piece := by
  rw [mem_effectiveWindows notClosed chosen]
  simp only [← mem_subtractTimeWindows proper, ← and_assoc, exists_and_right]

end Windows

/-! ## Slots -/

section Slots

variable {search : SlotSearch} {db : Db} {offset : Int} {now : Instant}

theorem mem_sortedSet {instants : List Instant} {instant : Instant} :
    instant ∈ sortedSet instants ↔ instant ∈ instants := by
  rw [sortedSet, List.mem_insertionSort, List.mem_dedup]

theorem sortedSet_increasing (instants : List Instant) : (sortedSet instants).Pairwise (· < ·) := by
  have sorted : (sortedSet instants).Pairwise (· ≤ ·) := List.pairwise_insertionSort _ _
  have distinct : (sortedSet instants).Nodup :=
    ((List.perm_insertionSort _ _).nodup_iff).mpr (List.nodup_dedup _)
  exact (sorted.and distinct).imp fun both => lt_of_le_of_ne both.1 both.2

theorem combine_lt_combine {date : Date} {first second : TimeOfDay} :
    combine date first < combine date second ↔ first < second := by
  rw [combine, combine, Fin.lt_def]
  omega

theorem mem_slotsInWindow {date : Date} {window : Window TimeOfDay} {duration : ℕ+}
    {start : Instant} :
    start ∈ slotsInWindow date window duration (Zone.fixed offset) ↔
      (∃ count : Nat, start = combine date window.1 - offset + count * minutes duration) ∧
        start + minutes duration ≤ combine date window.2 - offset := by
  rw [slotsInWindow, List.mem_map]
  simp only [mem_grid (minutes_pos duration.pos), Zone.fixed]
  constructor
  · rintro ⟨_, ⟨count, rfl, room⟩, rfl⟩
    exact ⟨⟨count, by ring⟩, by linarith⟩
  · rintro ⟨⟨count, rfl⟩, room⟩
    exact ⟨combine date window.1 + count * minutes duration, ⟨count, rfl, by linarith⟩, by ring⟩

/-- A window with a slot in it is proper. -/
theorem proper_of_mem_slotsInWindow {date : Date} {window : Window TimeOfDay} {duration : ℕ+}
    {start : Instant} (member : start ∈ slotsInWindow date window duration (Zone.fixed offset)) :
    window.Proper := by
  obtain ⟨⟨count, rfl⟩, room⟩ := mem_slotsInWindow.mp member
  have positive := minutes_pos duration.pos
  have steps : 0 ≤ (count : Int) * minutes duration := by positivity
  have before : combine date window.1 < combine date window.2 := by linarith
  exact combine_lt_combine.mp before

/-- The bookings of the day are those that can meet a slot of the day. -/
theorem free_of_day_iff {slot : Instant × Instant}
    (starts : search.queryDate * dayLength - offset ≤ slot.1)
    (ends : slot.2 ≤ (search.queryDate + 1) * dayLength - offset) :
    (search.bookings db offset).any (fun b => b.startsAt < slot.2 && b.endsAt > slot.1) = false ↔
      ∀ booking, search.Booked db booking →
        ¬(booking.startsAt < slot.2 ∧ slot.1 < booking.endsAt) := by
  rw [List.any_eq_false]
  simp only [SlotSearch.bookings, Query.eval, List.mem_filter, Bool.and_eq_true, Bool.or_eq_true,
    beq_iff_eq, decide_eq_true_eq, Option.isNone_iff_eq_none, SlotSearch.Booked, gt_iff_lt]
  constructor
  · rintro clear booking ⟨there, business, tenant, active, staff⟩ ⟨before, after⟩
    exact clear booking ⟨there, ⟨⟨⟨⟨business, tenant⟩, active⟩, before.trans_le ends⟩,
      starts.trans_lt after⟩, staff⟩ ⟨before, after⟩
  · rintro clear booking ⟨there, ⟨⟨⟨⟨business, tenant⟩, active⟩, _⟩, _⟩, staff⟩ meets
    exact clear booking ⟨there, business, tenant, active, staff⟩ meets

theorem freeSlot_eq_some {bookings : List Booking} {duration : ℕ+} {start : Instant}
    {slot : Instant × Instant} :
    freeSlot bookings now duration start = some slot ↔
      start = slot.1 ∧ slot.2 = slot.1 + minutes duration ∧ now < slot.1 ∧
        bookings.any (fun b => b.startsAt < slot.2 && b.endsAt > slot.1) = false := by
  constructor
  · intro given
    dsimp only [freeSlot] at given
    split at given
    · cases given
    · next later =>
        split at given
        · cases given
        · next clear =>
            cases given
            exact ⟨rfl, rfl, not_le.mp later, Bool.eq_false_iff.mpr clear⟩
  · rintro ⟨rfl, length, later, clear⟩
    rw [length] at clear
    dsimp only [freeSlot]
    rw [if_neg (not_le.mpr later), if_neg (Bool.eq_false_iff.mp clear), ← length]

/-- The points of the grids of the day. -/
theorem mem_candidates_iff {windows : List (Window TimeOfDay)} {duration : ℕ+} {date : Date}
    {start : Instant} :
    start ∈ sortedSet (windows.flatMap fun window =>
        slotsInWindow date window duration (Zone.fixed offset)) ↔
      ∃ piece, (piece ∈ windows ∧ piece.Proper) ∧
        (∃ count : Nat, start = combine date piece.1 - offset + count * minutes duration) ∧
        start + minutes duration ≤ combine date piece.2 - offset := by
  rw [mem_sortedSet, List.mem_flatMap]
  constructor
  · rintro ⟨piece, there, member⟩
    exact ⟨piece, ⟨there, proper_of_mem_slotsInWindow member⟩, mem_slotsInWindow.mp member⟩
  · rintro ⟨piece, ⟨there, _⟩, onGrid⟩
    exact ⟨piece, there, mem_slotsInWindow.mpr onGrid⟩

/-- A slot of the grid of a piece lies in the day. -/
theorem within_day {date : Date} {piece : Window TimeOfDay} {duration : ℕ+} {start : Instant}
    (onGrid : ∃ count : Nat, start = combine date piece.1 - offset + count * minutes duration)
    (room : start + minutes duration ≤ combine date piece.2 - offset) :
    date * dayLength - offset ≤ start ∧
      start + minutes duration ≤ (date + 1) * dayLength - offset := by
  obtain ⟨count, rfl⟩ := onGrid
  have steps : 0 ≤ (count : Int) * minutes duration := by
    have positive := minutes_pos duration.pos
    positivity
  have early : (0 : Int) ≤ piece.1.val := Int.natCast_nonneg _
  have late : (piece.2.val : Int) < dayLength := Int.ofNat_lt.mpr piece.2.isLt
  have next : (date + 1) * dayLength = date * dayLength + dayLength := by ring
  rw [combine] at room ⊢
  constructor
  · linarith
  · rw [combine] at room
    linarith

/-- The starts of the slots of the day. -/
def SlotSearch.candidates (search : SlotSearch) (db : Db) (offset : Int)
    (workingHours : List (Window TimeOfDay)) : List Instant :=
  sortedSet ((effectiveWindows workingHours (search.exceptions db) (search.blocks db)).flatMap
    fun window => slotsInWindow search.queryDate window search.duration (Zone.fixed offset))

/-- What is left of the candidates are the slots that can be booked. -/
theorem mem_free_iff {workingHours : List (Window TimeOfDay)} {slot : Instant × Instant}
    (notClosed : ¬search.Closed db) (proper : search.BlocksProper db)
    (chosen : ∀ window, window ∈ workingHours ↔ search.WorkingWindow db window) :
    slot ∈ (search.candidates db offset workingHours).filterMap
        (freeSlot (search.bookings db offset) now search.duration) ↔
      search.IsAvailable db offset now slot := by
  simp only [List.mem_filterMap, freeSlot_eq_some, SlotSearch.candidates, mem_candidates_iff,
    mem_pieces_iff notClosed proper chosen]
  constructor
  · rintro ⟨start, ⟨piece, ⟨window, effective, isPiece⟩, onGrid, room⟩, rfl, length, later, clear⟩
    obtain ⟨starts, ends⟩ := within_day onGrid room
    rw [← length] at ends room
    exact ⟨length, ⟨window, piece, effective, isPiece, onGrid, room⟩, later,
      (free_of_day_iff starts ends).mp clear⟩
  · rintro ⟨length, ⟨window, piece, effective, isPiece, onGrid, room⟩, later, free⟩
    rw [length] at room
    obtain ⟨starts, ends⟩ := within_day onGrid room
    rw [← length] at ends
    exact ⟨slot.1, ⟨piece, ⟨window, effective, isPiece⟩, onGrid, room⟩, rfl, length, later,
      (free_of_day_iff starts ends).mpr free⟩

/-- The slots come in the order of the candidates. -/
theorem free_increasing {bookings : List Booking} {duration : ℕ+} {starts : List Instant}
    (increasing : starts.Pairwise (· < ·)) :
    (starts.filterMap (freeSlot bookings now duration)).Pairwise fun first second =>
      first.1 < second.1 := by
  refine increasing.filterMap _ ?_
  intro first second before slot given other givenToo
  rw [← (freeSlot_eq_some.mp given).1, ← (freeSlot_eq_some.mp givenToo).1]
  exact before

/-- The search among some windows comes to its answer. -/
theorem SlotSearch.answerIn_ends (search : SlotSearch) {solo : Solo} {zone : Zone}
    (windows : List (Window TimeOfDay))
    {post : Except AppError (List (Instant × Instant)) → Solo → Prop}
    (met : post (search.answerIn solo.view zone solo.clock windows) solo) :
    Ends (do
      eachOrOverflow (windows.flatMap fun window =>
        timesTried search.queryDate window search.duration zone)
      if (search.startsIn zone windows).isEmpty then return []
      eachOrOverflow [(search.queryDate + 1) * dayLength, zone.toUtc (search.queryDate * dayLength),
        zone.toUtc ((search.queryDate + 1) * dayLength)]
      let bookings : List Booking ← select (.activeBookings search.businessId search.tenantId
        (zone.toUtc (search.queryDate * dayLength))
        (zone.toUtc ((search.queryDate + 1) * dayLength)) search.staffId)
      let nowUtc ← AppointmentVoice.now
      eachOrOverflow (slotEnds nowUtc search.duration (search.startsIn zone windows))
      return (search.startsIn zone windows).filterMap
        (freeSlot bookings nowUtc search.duration)) solo post := by
  rw [SlotSearch.answerIn, SlotSearch.computedIn] at met
  simp only [List.forall_mem_append] at met
  refine Ends.eachOrOverflow (fun leaves => ?_) fun loops => ?_
  · rwa [if_neg fun fits => leaves fits.1] at met
  split
  · next noStart =>
      rw [if_pos ⟨loops, by simp [noStart]⟩, SlotSearch.freeIn, List.isEmpty_iff.mp noStart] at met
      exact Ends.ret met
  · next some =>
      rw [if_neg some] at met
      simp only [List.forall_mem_append] at met
      refine Ends.eachOrOverflow (fun leaves => ?_) fun day => ?_
      · rwa [if_neg fun fits => leaves fits.2.1] at met
      refine Ends.select _ (Ends.now (Ends.eachOrOverflow (fun leaves => ?_) fun ends => ?_))
      · rwa [if_neg fun fits => leaves fits.2.2] at met
      · rw [if_pos ⟨loops, day, ends⟩] at met
        exact Ends.ret met

theorem SlotSearch.answerIn_eq_ok_iff {zone : Zone} {windows : List (Window TimeOfDay)}
    {slots : List (Instant × Instant)} :
    search.answerIn db zone now windows = .ok slots ↔
      (∀ time ∈ search.computedIn zone now windows, InCalendar time) ∧
        search.freeIn db zone now windows = slots := by
  rw [answerIn]
  split
  · next fits => rw [Except.ok.injEq, and_iff_right fits]
  · next leaves => exact iff_of_false nofun fun both => leaves both.1

/-- On a date inside the calendar the search computes no time outside of it. -/
theorem SlotSearch.InsideCalendar.computed (inside : search.InsideCalendar offset)
    (windows : List (Window TimeOfDay)) :
    ∀ time ∈ search.computedIn (Zone.fixed offset) now windows, InCalendar time := by
  have length := minutes_pos search.duration.pos
  have next : (search.queryDate + 1) * dayLength = search.queryDate * dayLength + dayLength := by
    ring
  have wall : ∀ time : TimeOfDay, search.queryDate * dayLength ≤ combine search.queryDate time ∧
      combine search.queryDate time < (search.queryDate + 1) * dayLength := by
    intro time
    have early : (0 : Int) ≤ time.val := Int.natCast_nonneg _
    have late : (time.val : Int) < dayLength := Int.ofNat_lt.mpr time.isLt
    rw [combine]
    exact ⟨by linarith, by linarith⟩
  have local' : ∀ time, search.queryDate * dayLength ≤ time →
      time ≤ (search.queryDate + 1) * dayLength + minutes search.duration → InCalendar time :=
    fun time => inside.begins.between inside.ends
  have utc : ∀ time, search.queryDate * dayLength - offset ≤ time →
      time ≤ (search.queryDate + 1) * dayLength - offset → InCalendar time :=
    fun time => inside.beginsUtc.between inside.endsUtc
  simp only [SlotSearch.computedIn, List.forall_mem_append]
  constructor
  · intro time member
    obtain ⟨window, -, tried⟩ := List.mem_flatMap.mp member
    have starts : ∀ start ∈ grid (minutes search.duration) (combine search.queryDate window.1)
        (combine search.queryDate window.2), search.queryDate * dayLength ≤ start ∧
          start + minutes search.duration < (search.queryDate + 1) * dayLength := by
      intro start there
      obtain ⟨count, rfl, room⟩ := (mem_grid length).mp there
      have steps : 0 ≤ (count : Int) * minutes search.duration := by positivity
      exact ⟨by linarith [(wall window.1).1], by linarith [(wall window.2).2]⟩
    simp only [timesTried, loopTimes, List.mem_append, List.mem_map, List.mem_singleton] at tried
    rcases tried with (⟨start, there, rfl⟩ | rfl) | ⟨start, there, rfl⟩
    · obtain ⟨early, late⟩ := starts start there
      exact local' _ (by linarith) (by linarith)
    · -- The step that no longer fits begins before the window ends.
      have last := le_max_of_gridFrom (minutes search.duration) (combine search.queryDate window.2)
        ((combine search.queryDate window.2 - combine search.queryDate window.1) /
          minutes search.duration).toNat (combine search.queryDate window.1)
      have bound := max_lt (wall window.1).2 (wall window.2).2
      have count : 0 ≤ ((grid (minutes search.duration) (combine search.queryDate window.1)
        (combine search.queryDate window.2)).length : Int) * minutes
          search.duration := by positivity
      rw [grid] at count ⊢
      rw [add_mul, one_mul]
      exact local' _ (by linarith [(wall window.1).1]) (by linarith)
    · obtain ⟨early, late⟩ := starts start there
      exact utc _ (Int.sub_le_sub_right early _) (Int.sub_le_sub_right (by linarith) _)
  · split
    · exact fun _ member => absurd member List.not_mem_nil
    · rw [List.forall_mem_append]
      constructor
      · simp only [List.forall_mem_cons, List.not_mem_nil, IsEmpty.forall_iff, implies_true,
          and_true, Zone.fixed]
        have day : 0 < dayLength := by decide
        exact ⟨local' _ (by linarith) (by linarith), inside.beginsUtc, inside.endsUtc⟩
      · intro time member
        obtain ⟨start, there, rfl⟩ := List.mem_map.mp member
        obtain ⟨piece, -, onGrid, room⟩ := mem_candidates_iff.mp (List.mem_of_mem_filter there)
        obtain ⟨early, late⟩ := within_day onGrid room
        exact utc _ (by linarith) late

theorem SlotSearch.InsideCalendar.answerIn (inside : search.InsideCalendar offset)
    (windows : List (Window TimeOfDay)) :
    search.answerIn db (Zone.fixed offset) now windows =
      .ok (search.freeIn db (Zone.fixed offset) now windows) :=
  if_pos (inside.computed windows)

end Slots

/-! ## Results -/

/-- **Slot search is exact.** In a zone with a constant offset, on a date inside the
calendar whose weekday has working hours and whose blocks end after they begin, the search
leaves everything as it is and returns nothing on a closed date; on any other it returns the
slots that can be booked, in strictly increasing order. -/
theorem slot_search_meets_its_specification (cfg : Settings) (business : Business)
    (search : SlotSearch) (solo : Solo) (offset : Int)
    (zone : cfg.zoneInfo business.timezone = some (Zone.fixed offset))
    (works : ∃ window, search.WorkingWindow solo.view window)
    (proper : search.BlocksProper solo.view) (inside : search.InsideCalendar offset) :
    ∃ slots, (search.slots cfg business).run Solo.exec solo = (.ok slots, solo) ∧
      (search.Closed solo.view → slots = []) ∧
      (¬search.Closed solo.view →
        slots.Pairwise (fun first second => first.1 < second.1) ∧
        ∀ slot, slot ∈ slots ↔ search.IsAvailable solo.view offset solo.clock slot) := by
  let met (slots : List (Instant × Instant)) : Prop := (search.Closed solo.view → slots = []) ∧
    (¬search.Closed solo.view → slots.Pairwise (fun first second => first.1 < second.1) ∧
      ∀ slot, slot ∈ slots ↔ search.IsAvailable solo.view offset solo.clock slot)
  have ends : Ends (search.slots cfg business) solo fun result after =>
      ∃ slots, result = .ok slots ∧ after = solo ∧ met slots := by
    rw [SlotSearch.slots, getAvailableSlotsForDuration, zone]
    refine Ends.chooseWorkingHours fun windows chosen => ?_
    have someWindow : windows.isEmpty = false := by
      obtain ⟨window, working⟩ := works
      exact List.isEmpty_eq_false_iff_exists_mem.mpr ⟨window, (chosen window).mpr working⟩
    rw [someWindow, if_neg Bool.false_ne_true]
    refine Ends.select _ ?_
    change Ends (if ((search.exceptions solo.view).any (·.isClosed)) = true then _ else _) solo _
    by_cases closed : search.Closed solo.view
    · have anyClosed : (search.exceptions solo.view).any (·.isClosed) = true := by
        obtain ⟨row, applies, isClosed⟩ := closed
        exact List.any_eq_true.mpr ⟨row, mem_exceptions_iff.mpr applies, isClosed⟩
      rw [if_pos anyClosed]
      exact Ends.ret ⟨[], rfl, rfl, fun _ => rfl, fun isOpen => absurd closed isOpen⟩
    · have noneClosed : ¬(search.exceptions solo.view).any (·.isClosed) = true := by
        intro anyClosed
        obtain ⟨row, there, isClosed⟩ := List.any_eq_true.mp anyClosed
        exact closed ⟨row, mem_exceptions_iff.mp there, isClosed⟩
      rw [if_neg noneClosed]
      have meets : met ((search.candidates solo.view offset windows).filterMap
          (freeSlot (search.bookings solo.view offset) solo.clock search.duration)) :=
        ⟨fun isClosed => absurd isClosed closed, fun isOpen =>
          ⟨free_increasing (sortedSet_increasing _), fun slot => mem_free_iff isOpen proper chosen⟩⟩
      exact Ends.select _ (search.answerIn_ends _ ⟨_, inside.answerIn _, rfl, meets⟩)
  obtain ⟨slots, result, after, spec⟩ := ends
  exact ⟨slots, Prod.ext result after, spec⟩

instance hoursOfDay : NeZero 24 := ⟨by decide⟩

instance minutesOfHour : NeZero 60 := ⟨by decide⟩

def clockTime (hour : Fin 24) (minute : Fin 60) : TimeOfDay :=
  ⟨(hour.val * 60 + minute.val) * 60000000, by omega⟩

/-- The salon is open on Mondays from nine to twelve and its member of staff from
ten to one, with a break from half past ten to eleven and an appointment from half
past eleven to twelve. -/
def sampleMonday : Db :=
  { sampleDb with
    workingHours :=
      [⟨1, 1, none, 0, clockTime 9 0, clockTime 12 0⟩,
        ⟨1, 1, some 1, 0, clockTime 10 0, clockTime 13 0⟩]
    recurringStaffBlocks := [⟨1, 1, none, 0, clockTime 10 30, clockTime 11 0⟩]
    bookings :=
      [⟨2, 1, 1, 1, 1, some 1, combine 4 (clockTime 11 30), combine 4 (clockTime 12 0),
        .confirmed, .api, none, 0⟩] }

/-- The first Monday after the epoch. -/
def sampleSearch : SlotSearch := ⟨1, 1, some 1, 30, 4⟩

def sampleSalon : Business :=
  ⟨1, 1, "Salon", "UTC", "en", none, none, false, .businessPhone, .internalBooking, none, none⟩

theorem slot_search_finds_ten_and_eleven :
    ∃ slots, (sampleSearch.slots sampleSettings sampleSalon).run Solo.exec
        ⟨sampleMonday, [], 10, 0, [], 0, fun _ => true, .start⟩ =
          (.ok slots, ⟨sampleMonday, [], 10, 0, [], 0, fun _ => true, .start⟩) ∧
      slots.map Prod.fst = [combine 4 (clockTime 10 0), combine 4 (clockTime 11 0)] ∧
      ∀ slot, slot ∈ slots ↔ sampleSearch.IsAvailable sampleMonday 0 0 slot := by
  have zone : sampleSettings.zoneInfo sampleSalon.timezone = some (Zone.fixed 0) := by
    simp [sampleSettings, sampleSalon, Zone.fixed, Function.id_def]
  have works : sampleSearch.WorkingWindow sampleMonday (clockTime 10 0, clockTime 12 0) := by
    have salon : sampleSearch.HoursOf sampleMonday none
        ⟨1, 1, none, 0, clockTime 9 0, clockTime 12 0⟩ := ⟨List.mem_cons_self, rfl, rfl, rfl⟩
    have staff : sampleSearch.HoursOf sampleMonday (some 1)
        ⟨1, 1, some 1, 0, clockTime 10 0, clockTime 13 0⟩ :=
      ⟨List.mem_cons_of_mem _ List.mem_cons_self, rfl, rfl, rfl⟩
    exact .common (Option.some_ne_none 1) ⟨_, staff⟩ ⟨_, salon⟩ ⟨_, staff, rfl, rfl⟩
      ⟨_, salon, rfl, rfl⟩ (by decide)
  have isOpen : ¬sampleSearch.Closed sampleMonday := by
    rintro ⟨row, ⟨there, _⟩, _⟩
    exact absurd there List.not_mem_nil
  have proper : sampleSearch.BlocksProper sampleMonday := by
    rintro row ⟨there, -⟩
    have all : ∀ row ∈ sampleMonday.recurringStaffBlocks, row.startTime < row.endTime := by decide
    exact all row there
  obtain ⟨slots, runs, -, found⟩ := slot_search_meets_its_specification sampleSettings sampleSalon
    sampleSearch ⟨sampleMonday, [], 10, 0, [], 0, fun _ => true, .start⟩ 0 zone ⟨_, works⟩ proper
    ⟨by decide, by decide, by decide, by decide⟩
  refine ⟨slots, runs, ?_, (found isOpen).2⟩
  have answer : ((sampleSearch.slots sampleSettings sampleSalon).run Solo.exec
      ⟨sampleMonday, [], 10, 0, [], 0, fun _ => true, .start⟩).1.map (List.map Prod.fst) =
        .ok [combine 4 (clockTime 10 0), combine 4 (clockTime 11 0)] := by
    decide +kernel
  rw [runs] at answer
  exact Except.ok.inj answer

/-- The salon is open on Mondays and Fridays from nine to twelve, with a block on Mondays
that ends half an hour before it begins. -/
def invertedBlockDb : Db :=
  { sampleDb with
    workingHours :=
      [⟨1, 1, none, 0, clockTime 9 0, clockTime 12 0⟩,
        ⟨1, 1, none, 4, clockTime 9 0, clockTime 12 0⟩]
    recurringStaffBlocks := [⟨1, 1, none, 0, clockTime 10 0, clockTime 9 30⟩] }

/-- Three hours on the first Monday. -/
def longSearch : SlotSearch := ⟨1, 1, none, 180, 4⟩

/-- Three hours on the last Friday of the calendar. -/
def lastSearch : SlotSearch := ⟨1, 1, none, 180, 2932896⟩

theorem longSearch_blocked : longSearch.blocked invertedBlockDb = ∅ := by
  refine Set.eq_empty_iff_forall_notMem.mpr ?_
  rintro time ⟨row, ⟨there, -⟩, inside⟩
  have inverted : ∀ row ∈ invertedBlockDb.recurringStaffBlocks, row.endTime < row.startTime := by
    decide
  exact absurd (inside.1.trans_lt inside.2) (not_lt_of_gt (inverted row there))

/-- The block takes nothing out of the morning of the Monday, and the search finds no three
hours in it.  On the last Friday of the calendar, which has no next midnight, the search
raises. -/
theorem inverted_block_closes_the_morning :
    ((lastSearch.slots sampleSettings sampleSalon).run Solo.exec
      ⟨invertedBlockDb, [], 10, 0, [], 0, fun _ => true, .start⟩).1.map List.length =
        .error .overflow ∧
    ¬∀ (cfg : Settings) (business : Business) (search : SlotSearch) (solo : Solo) (offset : Int),
      cfg.zoneInfo business.timezone = some (Zone.fixed offset) →
      (∃ window, search.WorkingWindow solo.view window) →
      ∃ slots, (search.slots cfg business).run Solo.exec solo = (.ok slots, solo) ∧
        (search.Closed solo.view → slots = []) ∧
        (¬search.Closed solo.view →
          slots.Pairwise (fun first second => first.1 < second.1) ∧
          ∀ slot, slot ∈ slots ↔ search.IsAvailable solo.view offset solo.clock slot) := by
  refine ⟨by decide +kernel, fun exact' => ?_⟩
  have zone : sampleSettings.zoneInfo sampleSalon.timezone = some (Zone.fixed 0) := by
    simp [sampleSettings, sampleSalon, Zone.fixed, Function.id_def]
  have hours : longSearch.OpenFor invertedBlockDb none (clockTime 9 0, clockTime 12 0) :=
    ⟨_, ⟨List.mem_cons_self, rfl, rfl, rfl⟩, rfl, rfl⟩
  have works : longSearch.WorkingWindow invertedBlockDb (clockTime 9 0, clockTime 12 0) :=
    .salon (.inl rfl) hours
  have noException : ∀ row, ¬longSearch.ExceptionApplies invertedBlockDb row :=
    fun row applies => absurd applies.1 List.not_mem_nil
  obtain ⟨slots, runs, -, found⟩ := exact' sampleSettings sampleSalon longSearch
    ⟨invertedBlockDb, [], 10, 0, [], 0, fun _ => true, .start⟩ 0 zone ⟨_, works⟩
  have none : ((longSearch.slots sampleSettings sampleSalon).run Solo.exec
      ⟨invertedBlockDb, [], 10, 0, [], 0, fun _ => true, .start⟩).1.map List.length = .ok 0 := by
    decide +kernel
  rw [runs] at none
  have empty : slots = [] := List.length_eq_zero_iff.mp (Except.ok.inj none)
  have available : longSearch.IsAvailable invertedBlockDb 0 0
      (combine 4 (clockTime 9 0), combine 4 (clockTime 12 0)) := by
    refine ⟨by decide, ⟨(clockTime 9 0, clockTime 12 0), (clockTime 9 0, clockTime 12 0),
      .inr ⟨?_, works⟩, ?_, ⟨0, ?_⟩, ?_⟩, by decide, ?_⟩
    · rintro special ⟨row, applies, -⟩
      exact noException row applies
    · rw [longSearch_blocked]
      exact ((Pieces.whole (clockTime 9 0, clockTime 12 0)).mem_iff).mp
        ⟨List.mem_singleton_self _, show clockTime 9 0 < clockTime 12 0 by decide⟩
    · rw [Int.sub_zero, Nat.cast_zero, Int.zero_mul, Int.add_zero]
      rfl
    · exact le_of_eq (Int.sub_zero _).symm
    · exact fun booking booked => absurd booked.1 List.not_mem_nil
  have member := ((found fun closed => closed.elim fun row both => noException row both.1).2
    (combine 4 (clockTime 9 0), combine 4 (clockTime 12 0))).mpr available
  rw [empty] at member
  cases member

end AppointmentVoice
