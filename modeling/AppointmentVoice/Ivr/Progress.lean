import AppointmentVoice.Ivr.Lines

/-!
# What the requests of a call do to its session

Each handler of a key changes the row of its call and commits it at the next step, or calls
the booking service, which commits and rolls back for itself.  Where it does that, the row in
hand differs from the committed one in the count of silences only, so that either end leaves
a row that the handler can go on from.
-/

set_option autoImplicit false

namespace AppointmentVoice

open Concurrency World

/-! ## Functions that read -/

namespace Issues

open Program

variable {α : Type} {kind : Stmt → Prop}

section Noting

variable (noting : Stmt.Noting kind)
include noting

theorem chooseWorkingHours (businessId tenantId : Nat) (dayOfWeek : Int) (staffId : Option Nat) :
    (AppointmentVoice.chooseWorkingHours businessId tenantId dayOfWeek staffId).Only kind := by
  have windows : ∀ filter, (whWindows businessId tenantId dayOfWeek filter).Only kind :=
    fun _ => Only.bind (select noting _) fun _ => ret _
  have scheduled : ∀ filter, (hasAnySchedule businessId tenantId filter).Only kind :=
    fun _ => Only.bind (select noting _) fun _ => ret _
  rw [AppointmentVoice.chooseWorkingHours]
  refine Only.bind (windows _) fun _ => ?_
  cases staffId with
  | none => exact ret _
  | some id =>
      refine Only.bind (windows _) fun _ => Only.bind (scheduled _) fun _ => ?_
      split
      · exact ret _
      · refine Only.bind (scheduled _) fun _ => ?_
        split <;> exact ret _

theorem getAvailableSlots (cfg : Settings) (tenantId businessId serviceId : Nat)
    (staffId : Option Nat) (queryDate : Date) :
    (AppointmentVoice.getAvailableSlots cfg tenantId businessId serviceId staffId
      queryDate).Only kind := by
  refine Only.bind (requireBusiness noting _ _) fun _ =>
    Only.bind (Only.bind (select noting _) fun _ => orRaise _ _) fun _ => guard ?_
  refine Only.bind (requireStaffIfGiven noting _ _ _) fun _ => ?_
  refine Only.bind (orRaise _ _) fun _ => Only.bind (chooseWorkingHours noting _ _ _ _) fun _ => ?_
  split
  · exact ret _
  · refine Only.bind (select noting _) fun _ => ?_
    split
    · exact ret _
    · refine Only.bind (select noting _) fun _ => Only.bind (eachOrOverflow _) fun _ => ?_
      dsimp only
      split
      · exact ret _
      · exact Only.bind (eachOrOverflow _) fun _ => Only.bind (select noting _) fun _ =>
          Only.bind (now noting) fun _ => Only.bind (eachOrOverflow _) fun _ => ret _

omit noting in
theorem collectSlots {daySlots : Date → DbM (List (Instant × Instant))}
    (reads : ∀ day, (daySlots day).Only kind) (maxSlots days : Nat) (day : Date)
    (collected : List (Instant × Instant)) :
    (AppointmentVoice.collectSlots daySlots maxSlots days day collected).Only kind := by
  induction days generalizing day collected with
  | zero => exact ret _
  | succ days ih =>
      refine Only.bind (reads day) fun _ => ?_
      split
      · exact ret _
      · exact ih _ _

theorem findSlots (cfg : IvrSettings) (session : VoiceSession) (serviceId : Nat)
    (staffId : Option Nat) :
    (AppointmentVoice.findSlots cfg session serviceId staffId).Only kind :=
  Only.bind (Only.bind (now noting) fun _ => ret _) fun _ =>
    Only.bind (collectSlots (fun _ => Only.bind (orOverflow _) fun _ =>
      getAvailableSlots noting _ _ _ _ _ _) _ _ _ _) fun _ => ret _

theorem getCustomerByPhone (businessId tenantId : Nat) (phone : String) :
    (AppointmentVoice.getCustomerByPhone businessId tenantId phone).Only kind :=
  select noting _

theorem schedulableStaff (businessId tenantId : Nat) :
    (AppointmentVoice.schedulableStaff businessId tenantId).Only kind := by
  refine Only.bind (select noting _) fun _ => Only.bind (select noting _) fun _ => ?_
  split
  · exact ret _
  · exact Only.bind (select noting _) fun _ => ret _

theorem reorderPreferredStaff (session : VoiceSession) (staffMembers : List Staff) :
    (AppointmentVoice.reorderPreferredStaff session staffMembers).Only kind := by
  refine Only.bind (Only.bind (getCustomerByPhone noting _ _ _) fun customer => ?_) fun _ => ret _
  cases customer with
  | none => exact ret _
  | some customer => exact Only.bind (select noting _) fun _ => ret _

theorem lookupReturningCallerName (businessId tenantId : Nat) (callerPhone : String) :
    (AppointmentVoice.lookupReturningCallerName businessId tenantId callerPhone).Only kind := by
  refine Only.bind (getCustomerByPhone noting _ _ _) fun customer => ?_
  cases customer with
  | none => exact ret _
  | some customer =>
      refine Only.bind (select noting _) fun client => ?_
      cases client with
      | none => exact ret _
      | some client => exact ret _

theorem nextBookingOfCaller (session : VoiceSession) :
    (AppointmentVoice.nextBookingOfCaller session).Only kind := by
  refine Only.bind (getCustomerByPhone noting _ _ _) fun customer => ?_
  cases customer with
  | none => exact ret _
  | some customer => exact Only.bind (now noting) fun _ => select noting _

theorem resolveTransferDestination (business : Business) (tenantId : Nat) :
    (AppointmentVoice.resolveTransferDestination business tenantId).Only kind := by
  unfold AppointmentVoice.resolveTransferDestination
  split
  · exact ret _
  · exact Only.bind (select noting _) fun _ => ret _
  · exact ret _

omit noting in
theorem requireSelected {error : AppError} {key : Option Nat} {require : Nat → DbM α}
    (requires : ∀ id, (require id).Only kind) :
    (AppointmentVoice.requireSelected error key require).Only kind := by
  cases key with
  | none => exact raise _
  | some id => exact requires id

theorem requireSelectedService (session : VoiceSession) :
    (AppointmentVoice.requireSelectedService session).Only kind :=
  requireSelected fun _ => requireServiceInBusiness noting _ _ _

theorem requireManagedBooking (session : VoiceSession) :
    (AppointmentVoice.requireManagedBooking session).Only kind :=
  requireSelected fun _ => requireBookingInBusiness noting _ _ _

theorem mainMenu (session : VoiceSession) : (AppointmentVoice.mainMenu session).Only kind :=
  Only.bind (requireBusiness noting _ _) fun _ => ret _

theorem staffMenu (session : VoiceSession) (serviceName : String) :
    (AppointmentVoice.staffMenu session serviceName).Only kind :=
  Only.bind (schedulableStaff noting _ _) fun _ =>
    Only.bind (reorderPreferredStaff noting _ _) fun _ => ret _

theorem manageBookingResponse (session : VoiceSession) (booking : Booking) :
    (AppointmentVoice.manageBookingResponse session booking).Only kind :=
  Only.bind (requireServiceInBusiness noting _ _ _) fun _ => ret _

theorem repromptForNoInput (session : VoiceSession) :
    (AppointmentVoice.repromptForNoInput session).Only kind := by
  unfold AppointmentVoice.repromptForNoInput
  split
  · exact mainMenu noting session
  · exact Only.bind (select noting _) fun _ => ret _
  · exact Only.bind (requireSelectedService noting _) fun _ => staffMenu noting _ _
  · exact ret _
  · exact ret _
  · exact Only.bind (requireManagedBooking noting _) fun _ => manageBookingResponse noting _ _
  · exact ret _
  · exact ret _

end Noting

section Ending

variable (noting : Stmt.Noting kind)
    (adds : ∀ row : Nat → Customer, kind (.insert fun id => .insertCustomer (row id)))
  (commits : kind .commit) (rollsBack : kind .rollback)
include noting adds commits rollsBack

theorem getOrCreateCustomer (tenantId businessId : Nat) (phone : String) (name : Option String) :
    (AppointmentVoice.getOrCreateCustomer tenantId businessId phone name).Only kind := by
  refine Only.bind (requireBusiness noting _ _) fun _ =>
    Only.bind (getCustomerByPhone noting _ _ _) fun existing => ?_
  cases existing with
  | some customer => exact ret _
  | none =>
      refine Only.bind (Only.tryCatch ?_ fun error => ?_) fun created => ?_
      · exact Only.bind (insert (adds _)) fun _ => Only.bind (Only.issue commits) fun _ => ret _
      · cases error with
        | integrity constraint => exact Only.bind (Only.issue rollsBack) fun _ => ret _
        | _ => exact raise _
      · cases created with
        | some id => exact Only.bind (select noting _) fun _ => orRaise _ _
        | none => exact Only.bind (getCustomerByPhone noting _ _ _) fun _ => orRaise _ _

end Ending

end Issues

/-! ## With one session in hand -/

theorem Stmt.elsewhere_plain : Stmt.Plain Stmt.Elsewhere where
  select _ := trivial
  now := trivial
  audit _ _ := ⟨rfl, rfl⟩
  outbox _ _ _ := ⟨rfl, rfl⟩
  push _ _ := trivial

/-- What a request has in hand of its call. -/
abbrev inHand (stored row : VoiceSession) : Desk := [⟨some stored, row⟩]

/-- From the rows in hand, the program changes and commits no more than it may. -/
abbrev KeepsTo {α : Type} (maxSlots : Nat) (desk : Desk) (program : DbM α) : Prop :=
  (lineMonitor maxSlots).Along (fun _ _ => True) program desk

/-- The row that a handler works on is the one in hand, but for the count of silences, and is
still at the step of the committed one. -/
structure Working (maxSlots : Nat) (session stored row : VoiceSession) : Prop where
  seen : ∃ count, row = { session with noInputCount := count }
  sameCall : stored.SameCall row
  step : row.step = stored.step
  live : stored.step.Live
  sound : row.Sound maxSlots

/-- The committed row, too, differs from the handler's in the count of silences only. -/
structure AtRest (maxSlots : Nat) (session stored row : VoiceSession) : Prop
    extends Working maxSlots session stored row where
  storedSeen : ∃ count, stored = { session with noInputCount := count }
  storedSound : stored.Sound maxSlots

section Rules

variable {α β : Type} {maxSlots : Nat} {desk : Desk} {session stored row : VoiceSession}

namespace Working

theorem id_eq (working : Working maxSlots session stored row) : session.id = row.id := by
  obtain ⟨count, rfl⟩ := working.seen
  rfl

theorem step_eq (working : Working maxSlots session stored row) : session.step = stored.step := by
  rw [← working.step]
  obtain ⟨count, rfl⟩ := working.seen
  rfl

theorem live_row (working : Working maxSlots session stored row) : row.step.Live :=
  working.step.symm ▸ working.live

theorem unfinished (working : Working maxSlots session stored row) : row.Unfinished :=
  working.sound.unfinished working.live_row

theorem fine (working : Working maxSlots session stored row) :
    Committable maxSlots ⟨some stored, row⟩ where
  sound := working.sound
  follows old same := by
    cases same
    exact .of_live working.sameCall working.live (.inl working.step)

/-- A choice at the same step. -/
theorem chooses (working : Working maxSlots session stored row) {change : SessionChange}
    (chooses : change.Chooses) (stays : change.step = none)
    (equipped : (change.apply row).Equipped maxSlots row.step) :
    Working maxSlots (change.apply session) stored (change.apply row) where
  seen := by
    obtain ⟨count, rfl⟩ := working.seen
    refine ⟨count, ?_⟩
    simp only [SessionChange.apply, chooses.noInputCount, Option.getD_none]
  sameCall := working.sameCall.trans (VoiceSession.sameCall_apply change row)
  step := by
    rw [SessionChange.apply, stays]
    exact working.step
  live := working.live
  sound := by
    refine working.sound.apply working.live_row chooses ?_
    have same : (change.apply row).step = row.step := by
      rw [SessionChange.apply, stays]
      rfl
    rw [same]
    exact equipped

/-- A choice and a step on may be committed. -/
theorem moves (working : Working maxSlots session stored row) {change : SessionChange}
    (chooses : change.Chooses) (leads : (change.apply row).step ∈ session.step.next)
    (equipped : (change.apply row).Equipped maxSlots (change.apply row).step) :
    Committable maxSlots ⟨some stored, change.apply row⟩ where
  sound := working.sound.apply working.live_row chooses equipped
  follows old same := by
    cases same
    refine .of_live (working.sameCall.trans (VoiceSession.sameCall_apply change row))
      working.live ?_
    exact .inr (working.step_eq ▸ leads)

end Working

namespace AtRest

theorem read (sound : row.Sound maxSlots) (live : row.step.Live) : AtRest maxSlots row row row :=
  ⟨⟨⟨_, rfl⟩, .refl row, rfl, live, sound⟩, ⟨_, rfl⟩, sound⟩

theorem committed (rests : AtRest maxSlots session stored row) : AtRest maxSlots session row row :=
  ⟨⟨rests.seen, .refl row, rfl, rests.live_row, rests.sound⟩, rests.seen, rests.sound⟩

theorem rolledBack (rests : AtRest maxSlots session stored row) :
    AtRest maxSlots session stored stored :=
  ⟨⟨rests.storedSeen, .refl stored, rfl, rests.live, rests.storedSound⟩, rests.storedSeen,
    rests.storedSound⟩

end AtRest

theorem must_of_spares {stmt : Stmt} (spares : stmt.SparesSessions)
    (fine : stmt = .commit → ∀ copy ∈ desk, Committable maxSlots copy) :
    (lineMonitor maxSlots).must desk stmt := by
  cases stmt with
  | insert draft =>
      refine fun id => ⟨(spares id).changed, fun row added => ?_⟩
      rw [(spares id).new] at added
      cases added
  | update write =>
      have untouched : write.Spares := spares
      refine ⟨untouched.new, fun id change changed => ?_⟩
      rw [untouched.changed] at changed
      cases changed
  | commit => exact fine rfl
  | _ => exact trivial

/-- A statement that touches no session leaves the rows in hand, unless it ends the
transaction. -/
theorem deskAfter_spares {stmt : Stmt} (spares : stmt.SparesSessions) (held : desk.isEmpty = false)
    (answer : stmt.Answer) :
    deskAfter desk ⟨stmt, answer⟩ = desk ∨
      stmt = .commit ∧ deskAfter desk ⟨stmt, answer⟩ = desk.saved ∨
        stmt = .rollback ∧ deskAfter desk ⟨stmt, answer⟩ = desk.dropped := by
  cases stmt with
  | select query =>
      left
      rw [deskAfter, held]
      rfl
  | insert draft =>
      left
      cases (answer : Except Constraint Nat) with
      | ok id =>
          rw [deskAfter, (spares id).new]
      | error constraint => rfl
  | update write =>
      left
      have untouched : write.Spares := spares
      rw [deskAfter, untouched.changed]
  | commit => exact .inr (.inl ⟨rfl, rfl⟩)
  | rollback => exact .inr (.inr ⟨rfl, rfl⟩)
  | _ => exact .inl rfl

theorem Stmt.Elsewhere.spares {stmt : Stmt} (aside : stmt.Elsewhere) : stmt.SparesSessions := by
  cases stmt with
  | commit => exact aside.elim
  | rollback => exact aside.elim
  | _ => exact aside

/-- A part that touches no session leaves the rows in hand. -/
theorem keeps_aside {program : DbM α} {next : α → DbM β} (aside : program.Only Stmt.Elsewhere)
    (held : desk.isEmpty = false) (rest : ∀ value, KeepsTo maxSlots desk (next value)) :
    KeepsTo maxSlots desk (program >>= next) := by
  induction aside with
  | ret value => exact rest value
  | raise error => exact .raise trivial
  | @call stmt answers fits _ ih =>
      refine .call (must_of_spares fits.spares fun same => ?_) fun answer _ => ?_
      · rw [same] at fits
        exact fits.elim
      · have same : deskAfter desk ⟨stmt, answer⟩ = desk := by
          rcases deskAfter_spares fits.spares held answer with same | ⟨ends, -⟩ | ⟨ends, -⟩
          · exact same
          · rw [ends] at fits
            exact fits.elim
          · rw [ends] at fits
            exact fits.elim
        change (lineMonitor maxSlots).Along _ _ (deskAfter desk ⟨stmt, answer⟩)
        rw [same]
        exact ih answer

theorem keeps_only {program : DbM α} (aside : program.Only Stmt.Elsewhere)
    (held : desk.isEmpty = false) : KeepsTo maxSlots desk program := by
  rw [← bind_pure program]
  exact keeps_aside aside held fun _ => .ret trivial

/-- **A part of the booking service**, which may end the transaction in either way. -/
theorem keeps_service {program : DbM α} {next : α → DbM β}
    (spares : program.Only Stmt.SparesSessions)
    (rests : AtRest maxSlots session stored row)
    (rest : ∀ value stored row, AtRest maxSlots session stored row →
      KeepsTo maxSlots (inHand stored row) (next value)) :
    KeepsTo maxSlots (inHand stored row) (program >>= next) := by
  induction spares generalizing stored row with
  | ret value => exact rest value stored row rests
  | raise error => exact .raise trivial
  | @call stmt answers fits _ ih =>
      refine .call (must_of_spares fits fun _ copy member => ?_) fun answer _ => ?_
      · rw [List.mem_singleton.mp member]
        exact rests.fine
      · change (lineMonitor maxSlots).Along _ _ (deskAfter (inHand stored row) ⟨stmt, answer⟩)
        have held : (inHand stored row).isEmpty = false := rfl
        rcases deskAfter_spares fits held answer with same | ⟨-, same⟩ | ⟨-, same⟩
        · rw [same]
          exact ih answer rests
        · rw [same]
          exact ih answer rests.committed
        · rw [same]
          exact ih answer rests.rolledBack

/-- The row in hand is changed. -/
theorem keeps_update {change : SessionChange} {next : Unit → DbM β} (same : session.id = row.id)
    (rest : KeepsTo maxSlots (inHand stored (change.apply row)) (next ())) :
    KeepsTo maxSlots (inHand stored row)
      (update (.updateVoiceSession session.id change) >>= next) := by
  refine .issue ?_ fun _ _ => ?_
  · refine ⟨rfl, fun id other changed => ?_⟩
    cases changed
    exact List.mem_singleton.mpr same
  · change (lineMonitor maxSlots).Along _ _
      (Overlay.change VoiceSession.id (inHand stored row) session.id change.apply)
    rw [Overlay.change, List.map_singleton, if_pos same.symm]
    exact rest

theorem keeps_set {change : SessionChange} {next : VoiceSession → DbM β}
    (same : session.id = row.id)
    (rest : KeepsTo maxSlots (inHand stored (change.apply row)) (next (change.apply session))) :
    KeepsTo maxSlots (inHand stored row) (setSession session change >>= next) := by
  rw [setSession, bind_assoc]
  exact keeps_update same rest

/-- The row in hand is committed. -/
theorem keeps_commit {next : Unit → DbM β} (fine : Committable maxSlots ⟨some stored, row⟩)
    (rest : KeepsTo maxSlots (inHand row row) (next ())) :
    KeepsTo maxSlots (inHand stored row) (commit >>= next) := by
  refine .issue ?_ fun _ _ => rest
  intro copy member
  rw [List.mem_singleton.mp member]
  exact fine

/-- The call is ended. -/
theorem keeps_end {step : IvrStep} {prompt : PromptKey} {named : Bool} {args : PromptArgs}
    (same : session.id = row.id)
    (fine : Committable maxSlots ⟨some stored, SessionChange.apply { step := some step } row⟩) :
    KeepsTo maxSlots (inHand stored row) (endSession session step prompt named args) :=
  keeps_set same (keeps_commit fine (.ret trivial))

end Rules

end AppointmentVoice
