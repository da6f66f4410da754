import AppointmentVoice.Ivr.Menus
import AppointmentVoice.Services.FoundSlots

/-!
# Staff who are left out of the phone menu

The phone menu offers the first hundred active members of staff of a salon, and leaves out
those of whom neither they nor the salon have working hours.

**What a schedule leaves open.**  A start that the rows of a date leave open is on the grid of
what the cut leaves of an effective window (`SlotSearch.Opens`, `mem_openStarts_iff`); where
the blocks end after they begin, that is a piece of the window (`mem_subtractTimeWindows`).
A member is a dead end exactly when no date leaves a start that is still to come
(`deadEnd_iff`).

**The menu.**  A member who is left out for want of hours has no slot on any date.  The
converse fails: the hours of the member and those of the salon need not meet on any weekday,
blocks can cut all of them, and a service can be longer than each window
(`left_out_are_dead_ends_iff`, `tuesday_member_is_offered_in_vain`).
-/

set_option autoImplicit false

namespace AppointmentVoice

open Concurrency Intervals

/-! ## The starts that a schedule leaves open -/

/-- A start that the rows of the date leave open, booked or not: what the cut leaves of an
effective window has room for it. -/
structure SlotSearch.Opens (search : SlotSearch) (db : Db) (zone : Zone) (start : Instant) :
    Prop where
  working : ∃ window, search.WorkingWindow db window
  notClosed : ¬search.Closed db
  onGrid : ∃ window piece wall, search.EffectiveWindow db window ∧
    piece ∈ subtractTimeWindows [window] ((search.blocks db).map RecurringStaffBlock.window) ∧
    (∃ count : Nat, wall = combine search.queryDate piece.1 + count * minutes search.duration) ∧
    wall + minutes search.duration ≤ combine search.queryDate piece.2 ∧ start = zone.toUtc wall

section Opens

variable {search : SlotSearch} {db : Db} {zone : Zone} {start : Instant}

/-- A database on its own. -/
def Solo.ofDb (db : Db) : Solo := ⟨db, [], 0, 0, [], 0, fun _ => true, .start⟩

theorem mem_chosenHours_iff {window : Window TimeOfDay} :
    window ∈ search.chosenHours db ↔ search.WorkingWindow db window := by
  have listed : Ends (chooseWorkingHours search.businessId search.tenantId
      (weekday search.queryDate) search.staffId >>= pure) (Solo.ofDb db) fun result _ =>
        result = .ok (search.chosenHours db) :=
    Ends.chosenHours (Ends.ret rfl)
  have specified : Ends (chooseWorkingHours search.businessId search.tenantId
      (weekday search.queryDate) search.staffId >>= pure) (Solo.ofDb db) fun result _ =>
        ∃ windows, result = .ok windows ∧
          ∀ window, window ∈ windows ↔ search.WorkingWindow db window :=
    Ends.chooseWorkingHours fun windows chosen => Ends.ret ⟨windows, rfl, chosen⟩
  obtain ⟨windows, returned, chosen⟩ := specified
  cases listed.symm.trans returned
  exact chosen window

theorem mem_slots_iff {window : Window TimeOfDay} :
    start ∈ slotsInWindow search.queryDate window search.duration zone ↔ ∃ wall,
      (∃ count : Nat, wall = combine search.queryDate window.1 + count * minutes search.duration) ∧
        wall + minutes search.duration ≤ combine search.queryDate window.2 ∧
          start = zone.toUtc wall := by
  rw [slotsInWindow, List.mem_map]
  constructor
  · rintro ⟨wall, onGrid, rfl⟩
    obtain ⟨count, counted, room⟩ := (mem_grid (minutes_pos search.duration.pos)).mp onGrid
    exact ⟨wall, ⟨count, counted⟩, room, rfl⟩
  · rintro ⟨wall, ⟨count, counted⟩, room, rfl⟩
    exact ⟨wall, (mem_grid (minutes_pos search.duration.pos)).mpr ⟨count, counted, room⟩, rfl⟩

theorem any_isClosed_iff :
    (search.exceptions db).any (·.isClosed) = true ↔ search.Closed db := by
  rw [List.any_eq_true, SlotSearch.Closed]
  simp only [mem_exceptions_iff]

theorem mem_openStarts_iff : start ∈ search.openStarts db zone ↔ search.Opens db zone start := by
  rw [SlotSearch.openStarts, SlotSearch.startsIn, mem_sortedSet, List.mem_flatMap,
    SlotSearch.openWindows]
  have anyHours : (search.chosenHours db).isEmpty = true ↔
      ¬∃ window, search.WorkingWindow db window := by
    rw [List.isEmpty_iff, List.eq_nil_iff_forall_not_mem, not_exists]
    simp only [mem_chosenHours_iff]
  have nothing : ¬∃ window ∈ ([] : List (Window TimeOfDay)),
      start ∈ slotsInWindow search.queryDate window search.duration zone := by
    rintro ⟨window, member, -⟩
    cases member
  split
  · next none =>
      refine iff_of_false nothing fun opens => ?_
      exact anyHours.mp none opens.working
  next some =>
  split
  · next closed =>
      refine iff_of_false nothing fun opens => ?_
      exact opens.notClosed (any_isClosed_iff.mp closed)
  next isOpen =>
  have notClosed : ¬search.Closed db := fun closed => isOpen (any_isClosed_iff.mpr closed)
  simp only [mem_effectiveWindows notClosed fun _ => mem_chosenHours_iff]
  constructor
  · rintro ⟨piece, ⟨window, effective, left⟩, member⟩
    obtain ⟨wall, counted, room, utc⟩ := mem_slots_iff.mp member
    exact ⟨not_not.mp (mt anyHours.mpr some), notClosed, window, piece, wall, effective, left,
      counted, room, utc⟩
  · rintro ⟨-, -, window, piece, wall, effective, left, counted, room, utc⟩
    exact ⟨piece, ⟨window, effective, left⟩, mem_slots_iff.mpr ⟨wall, counted, room, utc⟩⟩

end Opens

/-! ## The menu -/

/-- Neither the member nor the salon has working hours on any day. -/
def WithoutHours (db : Db) (member : Staff) : Prop :=
  ∀ row ∈ db.workingHours, row.businessId = member.businessId → row.tenantId = member.tenantId →
    row.staffId ≠ none ∧ row.staffId ≠ some member.id

/-- Fewer than a hundred active members of the salon come before. -/
def AmongTheFirst (db : Db) (member : Staff) : Prop :=
  (db.staff.filter fun row => row.id < member.id && (row.businessId == member.businessId &&
    row.tenantId == member.tenantId && row.isActive)).length < listLimit

instance (db : Db) (member : Staff) : Decidable (AmongTheFirst db member) :=
  inferInstanceAs (Decidable (_ < _))

/-- The search for slots of a member of staff. -/
def memberRequest (member : Staff) (serviceId : Nat) (date : Date) : SlotRequest :=
  ⟨member.tenantId, member.businessId, serviceId, some member.id, date⟩

/-- Other bookings than those that there are. -/
def Solo.withBookings (solo : Solo) (bookings : List Booking) : Solo :=
  { solo with db := { solo.view with bookings }, writes := [] }

/-- The member is not in the menu. -/
def LeftOut (solo : Solo) (member : Staff) : Prop :=
  ∃ members, (schedulableStaff member.businessId member.tenantId).run Solo.exec solo =
    (.ok members, solo) ∧ member ∉ members

/-- A search for a service of the salon returns no slot, on any date and whatever is
booked. -/
def DeadEnd (cfg : Settings) (solo : Solo) (member : Staff) : Prop :=
  ∀ (date : Date) (serviceId : Nat) (service : Service) (bookings : List Booking),
    Query.eval (.service serviceId member.tenantId) solo.view = some service →
      service.businessId = member.businessId →
        ∀ slots, (((memberRequest member serviceId date).run cfg).run Solo.exec
          (solo.withBookings bookings)).1 = .ok slots → slots = []

/-- In the time zone of the salon the schedule leaves a start open that is still to come, on
a date that does not leave the calendar. -/
structure OpensOn (cfg : Settings) (solo : Solo) (member : Staff) (search : SlotSearch)
    (business : Business) (zone : Zone) (start : Instant) : Prop where
  businessFound : Query.eval (.business member.businessId member.tenantId) solo.view =
    some business
  zoneKnown : cfg.zoneInfo business.timezone = some zone
  opens : search.Opens solo.view zone start
  later : solo.clock < start
  fits : search.FitsCalendar solo.view zone solo.clock

/-- Some service of the salon has such a start on some date. -/
def HasOpening (cfg : Settings) (solo : Solo) (member : Staff) : Prop :=
  ∃ (date : Date) (serviceId : Nat) (service : Service) (business : Business) (zone : Zone)
    (start : Instant),
    Query.eval (.service serviceId member.tenantId) solo.view = some service ∧
      service.businessId = member.businessId ∧
        OpensOn cfg solo member ((memberRequest member serviceId date).search service) business
          zone start

section Menu

variable {cfg : Settings} {solo : Solo} {member : Staff}

/-- What is among the first of a list in strictly increasing order has few before it. -/
theorem mem_take_iff {α : Type} {key : α → Nat} {items : List α} {item : α} {count : Nat}
    (increasing : items.Pairwise fun first second => key first < key second)
    (there : item ∈ items) :
    item ∈ items.take count ↔ (items.filter fun other => key other < key item).length < count := by
  induction items generalizing count with
  | nil => cases there
  | cons first rest ih =>
      obtain ⟨after, increasing⟩ := List.pairwise_cons.mp increasing
      cases count with
      | zero => simp
      | succ count =>
          rw [List.take_succ_cons, List.mem_cons]
          rcases List.mem_cons.mp there with rfl | later
          · have none : (item :: rest).filter (fun other => key other < key item) = [] := by
              rw [List.filter_eq_nil_iff]
              intro other member
              rw [decide_eq_true_eq, not_lt]
              rcases List.mem_cons.mp member with rfl | further
              · exact le_refl _
              · exact (after other further).le
            rw [none]
            exact iff_of_true (.inl rfl) (Nat.succ_pos count)
          · have before := after item later
            have different : item ≠ first := by
              rintro rfl
              exact absurd before (lt_irrefl _)
            have kept : (first :: rest).filter (fun other => key other < key item) =
                first :: rest.filter fun other => key other < key item :=
              List.filter_cons_of_pos (decide_eq_true before)
            rw [kept, List.length_cons, Nat.succ_lt_succ_iff, ← ih increasing later]
            exact or_iff_right different

/-- What `list_staff` returns for the salon of a member. -/
def listedWith (db : Db) (member : Staff) : List Staff :=
  Query.eval (.staff member.businessId member.tenantId) db

theorem mem_listedWith_iff (keys : (solo.view.staff.map (·.id)).Nodup)
    (there : member ∈ solo.view.staff) (active : member.isActive = true) :
    member ∈ listedWith solo.view member ↔ AmongTheFirst solo.view member := by
  let colleagues := solo.view.staff.filter fun row =>
    row.businessId == member.businessId && row.tenantId == member.tenantId && row.isActive
  let sorted := colleagues.insertionSort fun first second => first.id ≤ second.id
  have same : sorted.Perm colleagues := List.perm_insertionSort _ _
  have apart : sorted.Pairwise fun first second => first.id ≠ second.id := by
    have nodup : (sorted.map (·.id)).Nodup :=
      (same.map _).nodup_iff.mpr (keys.sublist (List.filter_sublist.map _))
    exact List.pairwise_map.mp nodup
  have increasing : sorted.Pairwise fun first second => first.id < second.id := by
    have ordered : sorted.Pairwise fun first second => first.id ≤ second.id :=
      List.pairwise_insertionSort _ _
    exact (ordered.and apart).imp fun both => lt_of_le_of_ne both.1 both.2
  have mine : member ∈ sorted := by
    rw [same.mem_iff, List.mem_filter]
    simp [there, active]
  have counted : (sorted.filter fun other => other.id < member.id).length =
      (colleagues.filter fun other => other.id < member.id).length :=
    (same.filter _).length_eq
  have listed : listedWith solo.view member = sorted.take listLimit := rfl
  rw [listed, mem_take_iff increasing mine, counted, List.filter_filter]
  exact Iff.rfl

/-- The staff who have hours of their own. -/
def scheduledWith (db : Db) (member : Staff) : List Nat :=
  Query.eval (.scheduledStaffIds member.businessId member.tenantId) db

/-- The members of the menu. -/
def schedulable (db : Db) (member : Staff) : List Staff :=
  if (Query.eval (.anyWorkingHours member.businessId member.tenantId none) db).isSome then
    listedWith db member
  else (listedWith db member).filter fun other => (scheduledWith db member).contains other.id

theorem schedulableStaff_run :
    (schedulableStaff member.businessId member.tenantId).run Solo.exec solo =
      (.ok (schedulable solo.view member), solo) := by
  have ends : Ends (schedulableStaff member.businessId member.tenantId) solo fun result after =>
      (result, after) = (.ok (schedulable solo.view member), solo) := by
    rw [schedulableStaff, listStaff, schedulable]
    refine Ends.select _ (Ends.select _ ?_)
    split
    · exact Ends.ret rfl
    · exact Ends.select _ (Ends.ret rfl)
  exact ends

theorem withoutHours_iff {db : Db} : WithoutHours db member ↔
    (Query.eval (.anyWorkingHours member.businessId member.tenantId none) db).isSome = false ∧
      member.id ∉ scheduledWith db member := by
  have salon : (Query.eval (.anyWorkingHours member.businessId member.tenantId none) db).isSome =
      true ↔ ∃ row ∈ db.workingHours, row.businessId = member.businessId ∧
        row.tenantId = member.tenantId ∧ row.staffId = none := by
    simp only [Query.eval, List.find?_isSome, Bool.and_eq_true, beq_iff_eq, staffScope, and_assoc]
  have own : member.id ∈ scheduledWith db member ↔ ∃ row ∈ db.workingHours,
      row.businessId = member.businessId ∧ row.tenantId = member.tenantId ∧
        row.staffId = some member.id := by
    simp only [scheduledWith, Query.eval, List.mem_dedup, List.mem_filterMap, List.mem_filter,
      Bool.and_eq_true, beq_iff_eq, and_assoc]
  rw [← Bool.not_eq_true, salon, own]
  constructor
  · intro without
    refine ⟨?_, ?_⟩
    · rintro ⟨row, there, ofBusiness, ofTenant, wide⟩
      exact (without row there ofBusiness ofTenant).1 wide
    · rintro ⟨row, there, ofBusiness, ofTenant, mine⟩
      exact (without row there ofBusiness ofTenant).2 mine
  · rintro ⟨noSalon, noOwn⟩ row there ofBusiness ofTenant
    exact ⟨fun wide => noSalon ⟨row, there, ofBusiness, ofTenant, wide⟩,
      fun mine => noOwn ⟨row, there, ofBusiness, ofTenant, mine⟩⟩

/-- The menu leaves out whoever is not among the first, and whoever is without hours. -/
theorem leftOut_iff (keys : (solo.view.staff.map (·.id)).Nodup)
    (there : member ∈ solo.view.staff) (active : member.isActive = true) :
    LeftOut solo member ↔ ¬AmongTheFirst solo.view member ∨ WithoutHours solo.view member := by
  have menu : LeftOut solo member ↔ member ∉ schedulable solo.view member := by
    constructor
    · rintro ⟨members, returned, absent⟩
      rw [schedulableStaff_run] at returned
      cases returned
      exact absent
    · exact fun absent => ⟨_, schedulableStaff_run, absent⟩
  rw [menu, schedulable, withoutHours_iff, ← mem_listedWith_iff keys there active]
  cases (Query.eval (.anyWorkingHours member.businessId member.tenantId none) solo.view).isSome with
  | true => simp
  | false =>
      simp only [Bool.false_eq_true, if_false, List.mem_filter, List.contains_iff_mem, true_and,
        not_and_or]

/-! ## Members without hours -/

/-- Hours of the member or of the salon are behind every start. -/
theorem not_opens_of_withoutHours {search : SlotSearch} {db : Db} {zone : Zone}
    {start : Instant} (without : WithoutHours db member)
    (salon : search.businessId = member.businessId)
    (tenant : search.tenantId = member.tenantId) (staff : search.staffId = some member.id) :
    ¬search.Opens db zone start := by
  have none : ∀ scope, scope = Option.none ∨ scope = some member.id → ∀ window,
      ¬search.OpenFor db scope window := by
    rintro scope either window ⟨row, ⟨there, ofBusiness, ofTenant, ofScope⟩, -⟩
    have absent := without row there (ofBusiness.trans salon) (ofTenant.trans tenant)
    rcases either with rfl | rfl
    · exact absent.1 ofScope
    · exact absent.2 ofScope
  rintro ⟨⟨window, working⟩, -⟩
  cases working with
  | salon alone isOpen => exact none _ (.inl rfl) _ isOpen
  | staff given scheduled alone isOpen => exact none _ (.inr staff) _ isOpen
  | common given scheduled scheduledToo isOpen isOpenToo proper =>
      exact none _ (.inr staff) _ isOpen

/-! ## Dead ends -/

/-- A member is a dead end when the schedule leaves no start that is still to come. -/
theorem deadEnd_iff (keys : (solo.view.staff.map (·.id)).Nodup)
    (there : member ∈ solo.view.staff) : DeadEnd cfg solo member ↔ ¬HasOpening cfg solo member := by
  have staffFound : StaffFound solo.view (some member.id) member.businessId member.tenantId := by
    rintro _ ⟨⟩
    cases found : Query.eval (.staffMember member.id member.tenantId) solo.view with
    | none =>
        have missing := List.find?_eq_none.mp found member there
        simp at missing
    | some other =>
        have matched := List.find?_some found
        simp only [Bool.and_eq_true, beq_iff_eq] at matched
        have same := List.inj_on_of_nodup_map keys (List.mem_of_find?_eq_some found) there matched.1
        exact ⟨other, rfl, by rw [same]⟩
  constructor
  · rintro dead ⟨date, serviceId, service, business, zone, start, serviceFound, here, opening⟩
    have found : (memberRequest member serviceId date).Found cfg (solo.withBookings []).view
        business service zone :=
      ⟨opening.businessFound, serviceFound, here, staffFound, opening.zoneKnown⟩
    have fits : ((memberRequest member serviceId date).search service).FitsCalendar
        (solo.withBookings []).view zone (solo.withBookings []).clock := opening.fits
    have returned := SlotRequest.run_found found
    rw [SlotSearch.answer_ok fits] at returned
    have isOpen : start ∈ ((memberRequest member serviceId date).search service).openStarts
        solo.view zone := mem_openStarts_iff.mpr opening.opens
    -- Without bookings, the start itself is a slot.
    have slot : (start, start + minutes service.durationMinutes) ∈
        ((memberRequest member serviceId date).search service).found
          (solo.withBookings []).view zone
          (solo.withBookings []).clock :=
      mem_found_iff.mpr ⟨isOpen, rfl, opening.later, fun booking booked =>
        absurd (List.mem_of_mem_filter booked) List.not_mem_nil⟩
    rw [dead date serviceId service [] serviceFound here _ (congrArg Prod.fst returned)] at slot
    cases slot
  · intro noOpening date serviceId service bookings serviceFound here slots returned
    obtain ⟨business, other, zone, found⟩ := SlotRequest.found_of_returned
      (Prod.ext returned rfl : ((memberRequest member serviceId date).run cfg).run Solo.exec
        (solo.withBookings bookings) = (.ok slots, _))
    have same : other = service := Option.some.inj (found.serviceFound.symm.trans serviceFound)
    subst same
    rw [SlotRequest.run_found found, SlotSearch.answer_eq_ok_iff] at returned
    obtain ⟨fits, rfl⟩ := returned
    refine List.eq_nil_iff_forall_not_mem.mpr fun slot offered => noOpening ?_
    obtain ⟨opens, -, later, -⟩ := mem_found_iff.mp offered
    have isOpen : slot.1 ∈ ((memberRequest member serviceId date).search other).openStarts
        solo.view zone := opens
    exact ⟨date, serviceId, other, business, zone, slot.1, serviceFound, here,
      found.businessFound, found.zoneKnown, mem_openStarts_iff.mp isOpen, later, fits⟩

theorem not_hasOpening_of_withoutHours (without : WithoutHours solo.view member) :
    ¬HasOpening cfg solo member := by
  rintro ⟨date, serviceId, service, business, zone, start, -, -, opening⟩
  exact not_opens_of_withoutHours without rfl rfl rfl opening.opens

/-! ## Results -/

/-- **Who is left out of the phone menu.**  An active member of staff is left out exactly if
they are a dead end, in these cases: neither they nor the salon have working hours; they are
among the first hundred and the schedule leaves some start open; they are not among the first
hundred and it leaves none. -/
theorem left_out_are_dead_ends_iff (cfg : Settings) (solo : Solo) (member : Staff)
    (keys : (solo.view.staff.map (·.id)).Nodup) (there : member ∈ solo.view.staff)
    (active : member.isActive = true) :
    (LeftOut solo member ↔ DeadEnd cfg solo member) ↔
      WithoutHours solo.view member ∨
        (AmongTheFirst solo.view member ↔ HasOpening cfg solo member) := by
  rw [leftOut_iff keys there active, deadEnd_iff keys there]
  have noOpening : WithoutHours solo.view member → ¬HasOpening cfg solo member :=
    not_hasOpening_of_withoutHours
  by_cases without : WithoutHours solo.view member
  · exact iff_of_true (iff_of_true (.inr without) (noOpening without)) (.inl without)
  · rw [or_iff_left without, or_iff_right without, not_iff_not]

end Menu

/-! ## Hours that meet, and hours that do not -/

def anna : Staff := ⟨1, 1, 1, "Anna", none, true⟩

/-- The salon and its member of staff both work on Mondays. -/
theorem monday_member_is_offered :
    LeftOut (Solo.ofDb sampleMonday) anna ↔
      DeadEnd sampleSettings (Solo.ofDb sampleMonday) anna := by
  refine (left_out_are_dead_ends_iff sampleSettings (Solo.ofDb sampleMonday) anna (by decide)
    (by decide) rfl).mpr (.inr (iff_of_true (by decide) ?_))
  refine ⟨4, 1, sampleService, sampleSalon, ⟨id, id⟩, combine 4 (clockTime 10 0), rfl, rfl, rfl,
    rfl, ?_, by decide, by decide +kernel⟩
  exact mem_openStarts_iff.mp (by decide +kernel)

/-- The salon is open on Mondays, and its member of staff works on Tuesdays. -/
def tuesdayDb : Db :=
  { sampleDb with
    workingHours :=
      [⟨1, 1, none, 0, clockTime 9 0, clockTime 17 0⟩,
        ⟨1, 1, some 1, 1, clockTime 9 0, clockTime 17 0⟩] }

/-- The hours of the salon and of its member never meet. -/
theorem tuesday_has_no_opening (cfg : Settings) : ¬HasOpening cfg (Solo.ofDb tuesdayDb) anna := by
  rintro ⟨date, serviceId, service, business, zone, start, -, -, opening⟩
  obtain ⟨window, working⟩ := opening.opens.working
  have salon : ∀ row ∈ tuesdayDb.workingHours, row.staffId = none → row.dayOfWeek = 0 := by decide
  have own : ∀ row ∈ tuesdayDb.workingHours, row.staffId = some 1 → row.dayOfWeek = 1 := by decide
  cases working with
  | salon alone isOpen =>
      rcases alone with anybody | unscheduled
      · cases anybody
      · exact unscheduled ⟨⟨1, 1, some 1, 1, clockTime 9 0, clockTime 17 0⟩, by decide,
          rfl, rfl, rfl⟩
  | staff given scheduled alone isOpen =>
      exact alone ⟨⟨1, 1, none, 0, clockTime 9 0, clockTime 17 0⟩, by decide, rfl, rfl, rfl⟩
  | common given scheduled scheduledToo isOpen isOpenToo proper =>
      obtain ⟨row, ⟨there, -, -, mine⟩, day, -⟩ := isOpen
      obtain ⟨rowToo, ⟨thereToo, -, -, wide⟩, dayToo, -⟩ := isOpenToo
      rw [own row there mine] at day
      rw [salon rowToo thereToo wide, ← day] at dayToo
      cases dayToo

/-- The member is in the menu, and has no slot on any date. -/
theorem tuesday_member_is_offered_in_vain :
    ¬(LeftOut (Solo.ofDb tuesdayDb) anna ↔ DeadEnd sampleSettings (Solo.ofDb tuesdayDb) anna) := by
  rw [leftOut_iff (by decide) (by decide) rfl, deadEnd_iff (by decide) (by decide)]
  intro same
  rcases same.mpr (tuesday_has_no_opening sampleSettings) with late | without
  · exact late (by decide)
  · exact (without ⟨1, 1, none, 0, clockTime 9 0, clockTime 17 0⟩ (by decide) rfl rfl).1 rfl

end AppointmentVoice
