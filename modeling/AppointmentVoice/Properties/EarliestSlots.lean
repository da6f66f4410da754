import AppointmentVoice.Intervals.Walks
import AppointmentVoice.Ivr.Keypress
import AppointmentVoice.Services.FoundSlots

/-!
# The slots that the phone menu offers

The phone menu searches one date after the other, from `date.today()` on, until it has
enough slots.  `date.today()` is a date of the server; the search takes it for a date of
the salon.

**What the menu offers.**  If no search on the way raises (`findSlots_returns_iff`), it offers
the first slots of the dates from the server's on (`findSlots_run`).

**The earliest slots.**  So it offers the earliest slots of the week of the salon exactly if
the walk from the server's date takes them (`phone_menu_offers_the_earliest_iff`).  In a zone
whose dates come in order, that is where the dates that only one of the two weeks has add
nothing; where the server's week has a Sunday that is over in the salon, the menu misses the
next one (`island_menu_misses_the_next_sunday`).
-/

set_option autoImplicit false

namespace AppointmentVoice

open Concurrency Intervals

/-! ## What is searched -/

/-- The search of the phone menu for one date. -/
def menuRequest (session : VoiceSession) (serviceId : Nat) (staffId : Option Nat) (day : Date) :
    SlotRequest :=
  ⟨session.tenantId, session.businessId, serviceId, staffId, day⟩

/-- The slots that `get_available_slots` yields for a date. -/
def daySlots (cfg : Settings) (session : VoiceSession) (serviceId : Nat) (staffId : Option Nat)
    (solo : Solo) (day : Date) : List (Instant × Instant) :=
  (((menuRequest session serviceId staffId day).run cfg).run Solo.exec solo).1.toOption.getD []

/-- The date of an instant on the clocks of a zone. -/
def Zone.dateAt (zone : Zone) (instant : Instant) : Date := (zone.fromUtc instant).fdiv dayLength

/-- The slots of the dates, each once and by their start, as far as the menu goes. -/
def earliestSlots (cfg : IvrSettings) (slots : Date → List (Instant × Instant)) (first : Date) :
    List (Instant × Instant) :=
  firsts Prod.fst cfg.ivrMaxSlots (walk slots cfg.ivrSlotSearchDays first)

/-- The date is searched on the way from the first one: all dates before it have fewer slots
than the menu goes to. -/
structure Searched (maxSlots days : Nat) (slots : Date → List (Instant × Instant))
    (first day : Date) : Prop where
  after : first ≤ day
  before : day < first + days
  wanted : day = first ∨ (walk slots (day - first).toNat first).length < maxSlots

/-- The date and the times of its search are in the calendar. -/
structure MenuFits (session : VoiceSession) (service : Service) (staffId : Option Nat)
    (solo : Solo) (zone : Zone) (day : Date) : Prop where
  midnight : InCalendar (day * dayLength)
  search : ((menuRequest session service.id staffId day).search service).FitsCalendar solo.view
    zone solo.clock

/-- The slots of a date come before those of a later one. -/
abbrev DatesInOrder (slots : Date → List (Instant × Instant)) (first stop : Date) : Prop :=
  CellsInOrder Prod.fst slots first stop

/-! ## What the search comes to -/

section Searching

variable {cfg : IvrSettings} {session : VoiceSession} {serviceId : Nat} {staffId : Option Nat}
variable {solo : Solo} {business : Business} {service : Service} {zone : Zone}

/-- The loop walks along the dates until it has enough. -/
theorem collectSlots_run {search : Int → DbM (List (Instant × Instant))}
    {answer : Int → Except AppError (List (Instant × Instant))}
    {slots : Int → List (Instant × Instant)}
    (answers : ∀ day, (search day).run Solo.exec solo = (answer day, solo))
    (yields : ∀ day found, answer day = .ok found → slots day = found) {maxSlots days : Nat}
    {day : Int} {collected found : List (Instant × Instant)} {after : Solo}
    (ran : (collectSlots search maxSlots days day collected).run Solo.exec solo =
      (.ok found, after)) :
    after = solo ∧ found.take maxSlots = (collected ++ walk slots days day).take maxSlots := by
  induction days generalizing day collected with
  | zero =>
      cases ran
      exact ⟨rfl, by rw [walk, List.append_nil]⟩
  | succ days ih =>
      rw [collectSlots, Program.run_bind, answers] at ran
      cases answered : answer day with
      | error error =>
          rw [answered] at ran
          cases ran
      | ok here =>
          rw [answered] at ran
          rw [walk, yields day here answered, ← List.append_assoc]
          dsimp only at ran
          split at ran
          · next enough =>
              cases ran
              exact ⟨rfl, (take_append_eq_iff.mpr (.inr enough)).symm⟩
          · exact ih ran

/-- The loop returns exactly if every search on its way does. -/
theorem collectSlots_returns_iff {search : Int → DbM (List (Instant × Instant))}
    {answer : Int → Except AppError (List (Instant × Instant))}
    {slots : Int → List (Instant × Instant)}
    (answers : ∀ day, (search day).run Solo.exec solo = (answer day, solo))
    (yields : ∀ day found, answer day = .ok found → slots day = found) (maxSlots days : Nat)
    (day : Int) (collected : List (Instant × Instant)) :
    (∃ found, ((collectSlots search maxSlots days day collected).run Solo.exec solo).1 =
        .ok found) ↔
      ∀ place, day ≤ place → place < day + days →
        (place = day ∨ (collected ++ walk slots (place - day).toNat day).length < maxSlots) →
          ∃ found, answer place = .ok found := by
  induction days generalizing day collected with
  | zero =>
      refine iff_of_true ⟨collected, rfl⟩ fun place after before => ?_
      push_cast at before
      omega
  | succ days ih =>
      have further : ∀ place : Int, day + 1 ≤ place → walk slots (place - day).toNat day =
          slots day ++ walk slots (place - (day + 1)).toNat (day + 1) := by
        intro place after
        have steps : (place - day).toNat = (place - (day + 1)).toNat + 1 := by omega
        rw [steps, walk]
      rw [collectSlots, Program.run_bind, answers]
      cases answered : answer day with
      | error error =>
          refine iff_of_false (by rintro ⟨found, ⟨⟩⟩) fun all => ?_
          obtain ⟨found, returned⟩ := all day le_rfl (by push_cast; omega) (.inl rfl)
          rw [answered] at returned
          cases returned
      | ok here =>
          have known := yields day here answered
          dsimp only
          split
          · next enough =>
              refine iff_of_true ⟨_, rfl⟩ fun place after before wanted => ?_
              rcases eq_or_lt_of_le after with rfl | later
              · exact ⟨here, answered⟩
              · rw [further place (by omega), known, ← List.append_assoc] at wanted
                rw [List.length_append] at wanted
                omega
          · next few =>
              rw [ih]
              constructor
              · intro all place after before wanted
                rcases eq_or_lt_of_le after with rfl | later
                · exact ⟨here, answered⟩
                · refine all place (by omega) (by push_cast at before; omega) (.inr ?_)
                  rw [further place (by omega), known, ← List.append_assoc] at wanted
                  exact wanted.resolve_left (by omega)
              · intro all place after before wanted
                refine all place (by omega) (by push_cast; omega) (.inr ?_)
                rw [further place (by omega), known, ← List.append_assoc]
                rcases wanted with rfl | wanted
                · rw [sub_self, Int.toNat_zero, walk, List.append_nil]
                  exact not_le.mp few
                · exact wanted

/-- What the menu hears of one date. -/
def menuAnswer (session : VoiceSession) (service : Service) (staffId : Option Nat) (solo : Solo)
    (zone : Zone) (day : Date) : Except AppError (List (Instant × Instant)) :=
  if InCalendar (day * dayLength) then
    ((menuRequest session service.id staffId day).search service).answer solo.view zone solo.clock
  else .error .overflow

theorem menuAnswer_ok_iff {day : Date} :
    (∃ found, menuAnswer session service staffId solo zone day = .ok found) ↔
      MenuFits session service staffId solo zone day := by
  rw [menuAnswer]
  split
  · next midnight =>
      simp only [SlotSearch.answer_eq_ok_iff, exists_and_left, exists_eq', and_true]
      exact ⟨fun search => ⟨midnight, search⟩, fun fits => fits.search⟩
  · next outside =>
      exact iff_of_false (by rintro ⟨found, ⟨⟩⟩) fun fits => outside fits.midnight

/-- The search for a date of the menu. -/
theorem menuAnswer_run (found : ∀ day, (menuRequest session serviceId staffId day).Found
      cfg.toSettings solo.view business service zone) (day : Date) :
    Program.run Solo.exec (do
        let _ ← orOverflow (day * dayLength)
        getAvailableSlots cfg.toSettings session.tenantId session.businessId serviceId staffId day)
      solo = (menuAnswer session service staffId solo zone day, solo) := by
  rw [menuAnswer, orOverflow]
  by_cases fits : InCalendar (day * dayLength)
  · rw [if_pos fits, if_pos fits]
    exact SlotRequest.run_found (found day)
  · rw [if_neg fits, if_neg fits]
    rfl

theorem daySlots_of_menuAnswer (found : ∀ day, (menuRequest session serviceId staffId day).Found
      cfg.toSettings solo.view business service zone) (day : Date)
        (slots : List (Instant × Instant))
    (answered : menuAnswer session service staffId solo zone day = .ok slots) :
    daySlots cfg.toSettings session serviceId staffId solo day = slots := by
  rw [menuAnswer] at answered
  split at answered
  · rw [daySlots, SlotRequest.run_found (found day)]
    change (SlotSearch.answer _ _ _ _).toOption.getD [] = slots
    rw [show ((menuRequest session serviceId staffId day).search service).answer solo.view zone
      solo.clock = .ok slots from answered]
    rfl
  · cases answered

/-- The menu cuts what the loop has collected. -/
theorem findSlots_eq : (findSlots cfg session serviceId staffId).run Solo.exec solo =
    (match (collectSlots (fun day => do
        let _ ← orOverflow (day * dayLength)
        getAvailableSlots cfg.toSettings session.tenantId session.businessId serviceId staffId day)
      cfg.ivrMaxSlots cfg.ivrSlotSearchDays (cfg.serverZone.dateAt solo.clock) []).run Solo.exec
        solo with
    | (.ok collected, after) => (.ok (collected.take cfg.ivrMaxSlots), after)
    | (.error error, after) => (.error error, after)) := by
  rw [findSlots, today, Program.run_bind, Program.run_bind]
  change Program.run Solo.exec (collectSlots _ _ _ (cfg.serverZone.dateAt solo.clock) [] >>=
    fun collected => pure (collected.take cfg.ivrMaxSlots)) solo = _
  rw [Program.run_bind]
  generalize Program.run Solo.exec (collectSlots _ _ _ _ []) solo = outcome
  obtain ⟨error | collected, after⟩ := outcome
  · rfl
  · rfl

/-- **The menu returns** exactly if the searches on its way stay in the calendar. -/
theorem findSlots_returns_iff (found : ∀ day, (menuRequest session serviceId staffId day).Found
      cfg.toSettings solo.view business service zone) :
    (∃ offered, ((findSlots cfg session serviceId staffId).run Solo.exec solo).1 = .ok offered) ↔
      ∀ day, Searched cfg.ivrMaxSlots cfg.ivrSlotSearchDays
          (daySlots cfg.toSettings session serviceId staffId solo)
          (cfg.serverZone.dateAt solo.clock) day →
            MenuFits session service staffId solo zone day := by
  have returns := collectSlots_returns_iff (menuAnswer_run found) (daySlots_of_menuAnswer found)
    cfg.ivrMaxSlots cfg.ivrSlotSearchDays (cfg.serverZone.dateAt solo.clock) []
  simp only [menuAnswer_ok_iff, List.nil_append] at returns
  have same : (∃ offered, ((findSlots cfg session serviceId staffId).run Solo.exec solo).1 =
      .ok offered) ↔ ∃ collected, ((collectSlots (fun day => do
        let _ ← orOverflow (day * dayLength)
        getAvailableSlots cfg.toSettings session.tenantId session.businessId serviceId staffId day)
      cfg.ivrMaxSlots cfg.ivrSlotSearchDays (cfg.serverZone.dateAt solo.clock) []).run Solo.exec
        solo).1 = .ok collected := by
    rw [findSlots_eq]
    split
    · next collected after ran => simp [ran]
    · next error after ran => simp [ran]
  rw [same, returns]
  exact ⟨fun all day searched => all day searched.after searched.before searched.wanted,
    fun all day after before wanted => all day ⟨after, before, wanted⟩⟩

/-- **What the menu offers** are the first slots of the dates from the server's on. -/
theorem findSlots_run (found : ∀ day, (menuRequest session serviceId staffId day).Found
      cfg.toSettings solo.view business service zone) {offered : List (Instant × Instant)}
    (returned : ((findSlots cfg session serviceId staffId).run Solo.exec solo).1 = .ok offered) :
    (findSlots cfg session serviceId staffId).run Solo.exec solo =
      (.ok ((walk (daySlots cfg.toSettings session serviceId staffId solo) cfg.ivrSlotSearchDays
        (cfg.serverZone.dateAt solo.clock)).take cfg.ivrMaxSlots), solo) := by
  rw [findSlots_eq] at returned ⊢
  split
  · next collected after ran =>
      obtain ⟨rfl, same⟩ :=
        collectSlots_run (menuAnswer_run found) (daySlots_of_menuAnswer found) ran
      rw [same, List.nil_append]
  · next error after ran =>
      rw [ran] at returned
      cases returned

/-! ## The earliest slots -/

/-- The slots of a date are those that the search finds, or none. -/
theorem daySlots_sublist (found : ∀ day, (menuRequest session serviceId staffId day).Found
      cfg.toSettings solo.view business service zone) (day : Date) :
    (daySlots cfg.toSettings session serviceId staffId solo day).Sublist
      (((menuRequest session serviceId staffId day).search service).found solo.view zone
        solo.clock) := by
  rw [daySlots, SlotRequest.run_found (found day)]
  by_cases fits : ((menuRequest session serviceId staffId day).search service).FitsCalendar
      solo.view zone solo.clock
  · rw [SlotSearch.answer_ok fits]
    exact List.Sublist.refl _
  · rw [SlotSearch.answer_error fits]
    exact List.nil_sublist _

theorem daySlots_increasing (found : ∀ day, (menuRequest session serviceId staffId day).Found
      cfg.toSettings solo.view business service zone) (day : Date) :
    (daySlots cfg.toSettings session serviceId staffId solo day).Pairwise fun one other =>
      one.1 < other.1 :=
  found_increasing.sublist (daySlots_sublist found day)

/-- All slots of one service are of one length. -/
theorem daySlots_apart (found : ∀ day, (menuRequest session serviceId staffId day).Found
      cfg.toSettings solo.view business service zone) (days : Nat) (first : Date) :
    ∀ one ∈ walk (daySlots cfg.toSettings session serviceId staffId solo) days first,
      ∀ other ∈ walk (daySlots cfg.toSettings session serviceId staffId solo) days first,
        one.1 = other.1 → one = other := by
  have length : ∀ slot ∈ walk (daySlots cfg.toSettings session serviceId staffId solo) days first,
      slot.2 = slot.1 + minutes service.durationMinutes := by
    intro slot member
    obtain ⟨day, -, -, there⟩ := mem_walk.mp member
    exact (mem_found_iff.mp ((daySlots_sublist found day).subset there)).2.1
  intro one here other there same
  refine Prod.ext same ?_
  rw [length one here, length other there, same]

/-- The date of a wall-clock time. -/
theorem fdiv_dayLength {date wall : Int} (early : date * dayLength ≤ wall)
    (late : wall < (date + 1) * dayLength) : wall.fdiv dayLength = date := by
  rw [add_mul, one_mul] at late
  rw [Int.fdiv_eq_ediv_of_nonneg _ (by decide)]
  exact (Int.ediv_eq_iff_of_pos (by decide)).mpr ⟨early, late⟩

/-- Where the clock of the salon never goes back behind a midnight, the dates come in
order. -/
theorem datesInOrder (found : ∀ day, (menuRequest session serviceId staffId day).Found
      cfg.toSettings solo.view business service zone)
    (forward : ∀ wall later, wall.fdiv dayLength < later.fdiv dayLength →
      zone.toUtc wall < zone.toUtc later) (first stop : Date) :
    DatesInOrder (daySlots cfg.toSettings session serviceId staffId solo) first stop where
  within := daySlots_increasing found
  across := by
    intro place later _ before _ one here other there
    obtain ⟨wall, early, late, starts⟩ :=
      wall_of_mem_found ((daySlots_sublist found place).subset here)
    obtain ⟨wallToo, earlyToo, lateToo, startsToo⟩ :=
      wall_of_mem_found ((daySlots_sublist found later).subset there)
    rw [starts, startsToo]
    refine forward wall wallToo ?_
    have length := minutes_pos service.durationPositive
    have ends : wall + minutes service.durationMinutes < (place + 1) * dayLength := late
    have endsToo : wallToo + minutes service.durationMinutes < (later + 1) * dayLength := lateToo
    have today : wall.fdiv dayLength = place := fdiv_dayLength early (by linarith)
    have afterwards : wallToo.fdiv dayLength = later := fdiv_dayLength earlyToo (by linarith)
    rw [today, afterwards]
    exact before

/-- A clock with a constant offset. -/
theorem datesInOrder_fixed {offset : Int}
    (found : ∀ day, (menuRequest session serviceId staffId day).Found cfg.toSettings solo.view
      business service (Zone.fixed offset)) (first stop : Date) :
    DatesInOrder (daySlots cfg.toSettings session serviceId staffId solo) first stop := by
  refine datesInOrder found (fun wall later before => ?_) first stop
  have earlier : wall < later := by
    by_contra behind
    rw [Int.fdiv_eq_ediv_of_nonneg _ (by decide), Int.fdiv_eq_ediv_of_nonneg _
      (by decide)] at before
    exact absurd before (not_lt_of_ge (Int.ediv_le_ediv (by decide) (not_lt.mp behind)))
  exact Int.sub_lt_sub_right earlier offset

end Searching

/-! ## Results -/

/-- **When the phone menu offers the earliest slots.**  It does exactly if the searches on its
way stay in the calendar, and the walk from the date of the server takes the first slots of
the week of the salon; for dates in order, that is if the menu holds no slot, or no slot lies
before the later of the two todays and the dates that both weeks share have enough slots or
are the only ones with any. -/
theorem phone_menu_offers_the_earliest_iff (cfg : IvrSettings) (session : VoiceSession)
    (serviceId : Nat) (staffId : Option Nat) (solo : Solo) {business : Business}
    {service : Service} {zone : Zone}
    (found : ∀ day, (menuRequest session serviceId staffId day).Found cfg.toSettings solo.view
      business service zone) :
    ((findSlots cfg session serviceId staffId).run Solo.exec solo =
        (.ok (earliestSlots cfg (daySlots cfg.toSettings session serviceId staffId solo)
          (zone.dateAt solo.clock)), solo) ↔
      (∀ day, Searched cfg.ivrMaxSlots cfg.ivrSlotSearchDays
          (daySlots cfg.toSettings session serviceId staffId solo)
          (cfg.serverZone.dateAt solo.clock) day →
        MenuFits session service staffId solo zone day) ∧
      TakesFirsts Prod.fst (daySlots cfg.toSettings session serviceId staffId solo)
        cfg.ivrMaxSlots cfg.ivrSlotSearchDays (cfg.serverZone.dateAt solo.clock)
        (zone.dateAt solo.clock)) ∧
    (DatesInOrder (daySlots cfg.toSettings session serviceId staffId solo)
        (min (cfg.serverZone.dateAt solo.clock) (zone.dateAt solo.clock))
        (max (cfg.serverZone.dateAt solo.clock) (zone.dateAt solo.clock) +
          cfg.ivrSlotSearchDays) →
      (TakesFirsts Prod.fst (daySlots cfg.toSettings session serviceId staffId solo)
          cfg.ivrMaxSlots cfg.ivrSlotSearchDays (cfg.serverZone.dateAt solo.clock)
          (zone.dateAt solo.clock) ↔
        cfg.ivrMaxSlots = 0 ∨ SameBeginning (daySlots cfg.toSettings session serviceId staffId solo)
          cfg.ivrMaxSlots cfg.ivrSlotSearchDays (cfg.serverZone.dateAt solo.clock)
          (zone.dateAt solo.clock))) := by
  refine ⟨?_, fun inOrder => inOrder.takesFirsts_iff⟩
  have takes := firsts_walk_iff cfg.ivrMaxSlots (cfg.serverZone.dateAt solo.clock)
    (daySlots_increasing found)
    (daySlots_apart found cfg.ivrSlotSearchDays (zone.dateAt solo.clock))
  rw [← takes, ← findSlots_returns_iff found, earliestSlots]
  constructor
  · intro offers
    have returned := congrArg Prod.fst offers
    refine ⟨⟨_, returned⟩, ?_⟩
    rw [findSlots_run found returned] at offers
    exact Except.ok.inj (congrArg Prod.fst offers)
  · rintro ⟨⟨offered, returned⟩, same⟩
    rw [findSlots_run found returned, same]

/-! ## Two calendars -/

/-- A server on the clock of UTC. -/
def phoneSettings : IvrSettings :=
  { sampleSettings with serverZone := Zone.fixed 0 }

/-- A call to the salon. -/
def sampleCall : VoiceSession :=
  ⟨1, 1, 1, "+48100200300", .slotSelection, "en", some 1, none, none, none, none, none, none, 0, 0,
    some "CA1", none, combine 4 (clockTime 9 30)⟩

/-- The salon of the first Monday, a quarter past nine in the morning. -/
def mondayMorning : Solo :=
  ⟨sampleMonday, [], 10, combine 4 (clockTime 9 15), [], 0, fun _ => true, .start⟩

theorem mondayMorning_found (day : Date) :
    (menuRequest sampleCall 1 none day).Found phoneSettings.toSettings mondayMorning.view
      sampleSalon sampleService (Zone.fixed 0) where
  businessFound := rfl
  serviceFound := rfl
  serviceHere := rfl
  staffFound := by rintro _ ⟨⟩
  zoneKnown := by
    change (if "UTC" = "UTC" then some (⟨id, id⟩ : Zone) else none) = some (Zone.fixed 0)
    simp [Zone.fixed, Function.id_def]

/-- Where the server's date is the salon's, the menu offers the earliest slots. -/
theorem monday_menu_offers_the_earliest :
    (findSlots phoneSettings sampleCall 1 none).run Solo.exec mondayMorning =
      (.ok (earliestSlots phoneSettings
        (daySlots phoneSettings.toSettings sampleCall 1 none mondayMorning) 4), mondayMorning) := by
  have iff := phone_menu_offers_the_earliest_iff phoneSettings sampleCall 1 none mondayMorning
    mondayMorning_found
  refine iff.1.mpr ⟨fun day searched => ?_, (iff.2 (datesInOrder_fixed mondayMorning_found _ _)).mpr
    (.inr ⟨rfl, .inl rfl⟩)⟩
  -- The week is inside the calendar, whose bounds are far away.
  have near : ∀ place : Int, 4 ≤ place → place < 11 → 0 ≤ place * dayLength ∧
      place * dayLength ≤ (place + 1) * dayLength ∧
        (place + 1) * dayLength + minutes 30 ≤ 12 * dayLength := by
    intro place after before
    rw [dayLength, minutes]
    omega
  obtain ⟨begins, later, ends⟩ := near day searched.after searched.before
  have inside : ∀ time, 0 ≤ time → time ≤ 12 * dayLength → InCalendar time := fun time =>
    InCalendar.between (by decide) (by decide)
  have length : 0 < minutes 30 := by decide
  have midnight := inside _ begins (by linarith)
  have nextMidnight := inside ((day + 1) * dayLength) (by linarith) (by linarith)
  have stretched := inside ((day + 1) * dayLength + minutes 30) (by linarith) ends
  refine ⟨midnight, SlotSearch.InsideCalendar.computed ⟨midnight, ?_, stretched, ?_⟩ _⟩
  · exact (Int.sub_zero _).symm ▸ midnight
  · exact (Int.sub_zero _).symm ▸ nextMidnight

/-- The same server, and a salon fourteen hours ahead of it. -/
def islandSettings : IvrSettings :=
  { phoneSettings with
    zoneInfo := fun key =>
      if key = "Pacific/Kiritimati" then some (Zone.fixed 50400000000) else none }

def islandSalon : Business := { sampleSalon with timezone := "Pacific/Kiritimati" }

/-- The salon works on Sundays.  On the server it is noon of Sunday, 7 January 2024; in the
salon it is Monday. -/
def islandMonday : Solo :=
  ⟨{ sampleDb with
      businesses := [islandSalon]
      workingHours := [⟨1, 1, none, 6, clockTime 9 0, clockTime 12 0⟩] },
    [], 10, combine 19729 (clockTime 12 0), [], 0, fun _ => true, .start⟩

/-- The menu ends a day before the next Sunday. -/
theorem island_menu_misses_the_next_sunday :
    ¬∀ (cfg : IvrSettings) (session : VoiceSession) (serviceId : Nat) (staffId : Option Nat)
      (solo : Solo) (business : Business) (service : Service) (zone : Zone),
      (∀ day, (menuRequest session serviceId staffId day).Found cfg.toSettings solo.view business
        service zone) →
      (findSlots cfg session serviceId staffId).run Solo.exec solo =
        (.ok (earliestSlots cfg (daySlots cfg.toSettings session serviceId staffId solo)
          (zone.dateAt solo.clock)), solo) := by
  intro earliest
  have offered := earliest islandSettings sampleCall 1 none islandMonday islandSalon sampleService
    (Zone.fixed 50400000000) fun _ => ⟨rfl, rfl, rfl, by rintro _ ⟨⟩, rfl⟩
  have nothing : ((findSlots islandSettings sampleCall 1 none).run Solo.exec islandMonday).1.map
      List.length = .ok 0 := by
    decide +kernel
  have slots : (earliestSlots islandSettings (daySlots islandSettings.toSettings sampleCall 1 none
      islandMonday) ((Zone.fixed 50400000000).dateAt islandMonday.clock)).length = 5 := by
    decide +kernel
  rw [offered, Except.map, slots] at nothing
  cases nothing

end AppointmentVoice
