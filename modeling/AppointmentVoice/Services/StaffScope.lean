import AppointmentVoice.Database.Effects
import AppointmentVoice.Services.History
import AppointmentVoice.Services.Statements

/-!
# Bookings stay with the business of their staff member

A booking with a staff member is only inserted after the staff member has been
found in the business, and a staff member never moves to another one.  So in every
run a booking belongs to the business and the tenant of its staff member.

**The result.** `staffScoped_in_every_run`.
-/

set_option autoImplicit false

namespace AppointmentVoice

open Concurrency World

/-! ## Places -/

/-- A staff member with a business and a tenant. -/
structure Place where
  staffId : Nat
  businessId : Nat
  tenantId : Nat
  deriving DecidableEq, Repr

/-- The place of a booking with a staff member. -/
def Booking.place? (booking : Booking) : Option Place :=
  booking.staffId.map fun staffId => ⟨staffId, booking.businessId, booking.tenantId⟩

/-- The staff member works there. -/
def Db.HasPlace (db : Db) (place : Place) : Prop :=
  ∃ member ∈ db.staff, member.id = place.staffId ∧ member.businessId = place.businessId ∧
    member.tenantId = place.tenantId

/-- The staff keep their keys, their businesses and their tenants. -/
structure StaffKept (before after : Db) : Prop where
  keys : (after.staff.map (·.id)).Nodup
  places : ∀ place, before.HasPlace place → after.HasPlace place

/-- Every booking belongs to the business and the tenant of its staff member. -/
structure Db.StaffScoped (db : Db) : Prop where
  keys : (db.staff.map (·.id)).Nodup
  bookings : ∀ booking ∈ db.bookings, ∀ place, booking.place? = some place → db.HasPlace place

/-- The machine of the booking service, with surroundings in which staff members
do not move. -/
def salonMachine (cfg : Settings) : Machine Sql (World Call) Call AppError Reply where
  perform := perform cfg
  exec := execStmt
  enter pid world := world.release pid
  leave pid world := world.release pid
  ambient before after :=
    (bookingMachine cfg).ambient before after ∧ StaffKept before.db after.db

/-- A run in which staff members do not move is a run. -/
theorem Runs.of_salon {cfg : Settings} {admitted : BookingConfig → Action Call → Prop}
    {start config : BookingConfig} (runs : Runs (salonMachine cfg) admitted start config) :
    Runs (bookingMachine cfg) admitted start config := by
  induction runs with
  | refl => exact .refl
  | tail _ last ih =>
      obtain ⟨action, allowed, taken⟩ := last
      refine ih.tail ⟨action, allowed, ?_⟩
      cases taken with
      | start call idle => exact .start call idle
      | issue running executed => exact .issue running executed
      | finish running ended => exact .finish running ended
      | stop running => exact .stop running
      | ambient changed => exact .ambient changed.1

/-! ## The monitor -/

/-- The place that an answer has shown. -/
def seenPlace : Event Sql → Option Place
  | ⟨.select (.staffMember id tenantId), answer⟩ =>
      (answer : Option Staff).map fun member => ⟨id, member.businessId, tenantId⟩
  | _ => none

/-- An insert of a booking needs a place that has been seen. -/
def scopeMonitor : Monitor Sql (List Place) where
  may _ _ := True
  must known stmt := match stmt with
    | .insert draft => ∀ id row place, draft id = .insertBooking row → row.place? = some place →
        place ∈ known
    | .update write => write.addsBooking = false
    | _ => True
  learn known event := (seenPlace event).toList ++ known

/-- A call begins with no place seen. -/
def scopeWatch : Watch Sql Call AppError Reply (List Place) where
  monitor _ := scopeMonitor
  initial _ := []
  post _ _ _ := True

/-- No worker inserts a booking. -/
theorem Stmt.Clerical.noBooking {stmt : Stmt} (clerical : stmt.Clerical) : stmt.NoBooking := by
  cases stmt with
  | insert draft =>
      intro id
      obtain ⟨message, written, -, -⟩ := clerical.2 id
      rw [written]
      rfl
  | update write =>
      obtain ⟨clerical, -⟩ := clerical
      cases clerical <;> rfl
  | _ => exact trivial

section Paths

variable {α β : Type} {known : List Place}

/-- A function that inserts no booking needs nothing. -/
theorem scope_nothing {program : DbM α} (nothing : BooksNothing program) (known : List Place) :
    scopeMonitor.Along (fun _ later => known ⊆ later) program known := by
  refine Monitor.Along.of_only (List.Subset.refl known)
    (fun later stmt sub none => ⟨?_, ?_⟩) nothing
  · cases stmt with
    | insert draft =>
        intro id row place added
        have adds := none id
        rw [added] at adds
        cases adds
    | update write => exact none
    | _ => exact trivial
  · intro answer
    exact List.Subset.trans sub (List.subset_append_right _ _)

theorem scope_skip {program : DbM α} {next : α → DbM β} (nothing : BooksNothing program)
    (rest : ∀ value later, known ⊆ later →
      scopeMonitor.Along (fun _ _ => True) (next value) later) :
    scopeMonitor.Along (fun _ _ => True) (program >>= next) known := by
  refine .bind ((scope_nothing nothing known).mono fun result later sub => ?_)
  cases result with
  | ok value => exact rest value later sub
  | error error => exact trivial

theorem scope_guard {condition : Prop} [Decidable condition] {error : AppError}
    {rest : Unit → DbM α} (goesOn : scopeMonitor.Along (fun _ _ => True) (rest ()) known) :
    scopeMonitor.Along (fun _ _ => True)
      (if condition then (throw error : DbM Unit) >>= rest else rest ()) known := by
  split
  · exact .raise trivial
  · exact goesOn

/-- The staff member, if one is given, has been seen in the business. -/
theorem scope_staff {staffId : Option Nat} {businessId tenantId : Nat} {next : Unit → DbM α}
    (rest : ∀ later, (∀ id, staffId = some id → ⟨id, businessId, tenantId⟩ ∈ later) →
      scopeMonitor.Along (fun _ _ => True) (next ()) later) :
    scopeMonitor.Along (fun _ _ => True)
      (requireStaffIfGiven staffId businessId tenantId >>= next) known := by
  cases staffId with
  | none => exact rest known nofun
  | some id =>
      refine .call trivial fun answer _ => ?_
      cases answer with
      | none => exact .raise trivial
      | some member =>
          by_cases here : member.businessId = businessId
          · have seen : scopeMonitor.learn known ⟨.select (.staffMember id tenantId), some member⟩ =
                ⟨id, member.businessId, tenantId⟩ :: known := rfl
            rw [seen, here]
            change scopeMonitor.Along _ (((if member.businessId ≠ businessId then _ else _) >>=
              fun _ => pure ()) >>= next) _
            rw [if_neg (not_not.mpr here)]
            refine rest _ ?_
            rintro _ ⟨⟩
            exact List.mem_cons_self
          · change scopeMonitor.Along _ (((if member.businessId ≠ businessId then _ else _) >>=
              fun _ => pure ()) >>= next) _
            rw [if_pos here]
            exact .raise trivial

theorem scope_try {program : DbM α} {handler : AppError → DbM α} {next : α → DbM β}
    (body : scopeMonitor.Along (fun _ _ => True) program known)
    (handles : ∀ error, BooksNothing (handler error))
    (rest : ∀ value later, scopeMonitor.Along (fun _ _ => True) (next value) later) :
    scopeMonitor.Along (fun _ _ => True) (MonadExcept.tryCatch program handler >>= next) known := by
  have goesOn : ∀ result later, scopeMonitor.afterBind next (fun _ _ => True) result later := by
    intro result later
    cases result with
    | ok value => exact rest value later
    | error error => exact trivial
  refine .bind (.tryCatch (body.mono fun result later _ => ?_))
  cases result with
  | ok value => exact goesOn (.ok value) later
  | error error =>
      exact (scope_nothing (handles error) later).mono fun result last _ => goesOn result last

/-- An insert of a booking whose staff member has been seen. -/
theorem scope_insert {row : Nat → Booking} {next : Nat → DbM α}
    (seen : ∀ id place, (row id).place? = some place → place ∈ known)
    (rest : ∀ id, scopeMonitor.Along (fun _ _ => True) (next id) known) :
    scopeMonitor.Along (fun _ _ => True)
      (insert (fun id => .insertBooking (row id)) >>= next) known := by
  refine .call ?_ fun answer _ => ?_
  · rintro id _ place ⟨⟩ located
    exact seen id place located
  · cases answer with
    | ok id => exact rest id
    | error constraint => exact .raise trivial

theorem scope_createBooking (cfg : Settings) (args : CreateBooking) (known : List Place) :
    scopeMonitor.Along (fun _ _ => True) (createBooking cfg args) known := by
  have plain := Stmt.noBooking_locking.toPlain
  rw [createBooking]
  refine scope_guard ?_
  refine scope_skip (Issues.now plain) fun _ _ _ => ?_
  refine scope_skip (Issues.requireBusiness plain _ _) fun _ _ _ => ?_
  refine scope_skip (Issues.requireCustomerInBusiness plain _ _ _) fun _ _ _ => ?_
  refine scope_skip (Issues.requireServiceInBusiness plain _ _ _) fun _ _ _ => ?_
  refine scope_staff fun seen there => ?_
  refine scope_skip (Issues.orOverflow _) fun _ middle first => ?_
  refine scope_skip (Issues.checkDoubleBooking plain _ _ _ _ _) fun _ later second => ?_
  refine scope_insert (fun id place located => ?_) fun id => ?_
  · obtain ⟨staffId, given, rfl⟩ := Option.map_eq_some_iff.mp located
    exact second (first (there staffId given))
  refine scope_skip (Issues.createAuditLog plain _ _ _ _ _) fun _ _ _ => ?_
  refine scope_skip (Issues.enqueueBookingConfirmation plain _ _ _ _ _ _) fun _ _ _ => ?_
  refine scope_skip (Program.Only.tryCatch ?_ fun error => ?_) fun _ _ _ => ?_
  · exact Program.Only.bind
      (Issues.enqueueCalendarEvent Stmt.noBooking_locking.toEnding _ _ _) fun _ =>
      Program.Only.bind (Program.Only.issue trivial) fun _ => Issues.ret _
  · exact (Issues.onIntegrityError Stmt.noBooking_locking.toEnding) error
  refine scope_skip (Issues.refreshBooking plain _) fun _ _ _ => ?_
  refine scope_skip (Issues.notify plain _) fun _ _ _ => ?_
  exact scope_skip (Issues.enqueueJob (plain.push _ rfl)) fun _ _ _ => .ret trivial

theorem scope_createPendingPaymentHold (args : CreatePendingPaymentHold) (known : List Place) :
    scopeMonitor.Along (fun _ _ => True) (createPendingPaymentHold args) known := by
  have plain := Stmt.noBooking_locking.toPlain
  rw [createPendingPaymentHold]
  refine scope_skip (Issues.now plain) fun _ _ _ => ?_
  refine scope_skip (Issues.requireBusiness plain _ _) fun _ _ _ => ?_
  refine scope_skip (Issues.requireCustomerInBusiness plain _ _ _) fun _ _ _ => ?_
  refine scope_skip (Issues.requireServiceInBusiness plain _ _ _) fun svc _ _ => ?_
  split
  · refine scope_staff fun seen there => ?_
    refine scope_skip (Issues.orOverflow _) fun _ middle first => ?_
    refine scope_skip (Issues.checkDoubleBooking plain _ _ _ _ _) fun _ later second => ?_
    refine scope_try (scope_insert (fun id place located => ?_) fun id => ?_)
      (Issues.onIntegrityError Stmt.noBooking_locking.toEnding) fun _ _ => ?_
    · obtain ⟨staffId, given, rfl⟩ := Option.map_eq_some_iff.mp located
      exact second (first (there staffId given))
    · refine scope_skip (Issues.insert fun _ => rfl) fun _ _ _ => ?_
      refine scope_skip (Issues.createAuditLog plain _ _ _ _ _) fun _ _ _ => ?_
      exact scope_skip (Program.Only.issue trivial) fun _ _ _ => .ret trivial
    · exact (scope_nothing (Issues.refreshBooking plain _) _).mono fun _ _ _ => trivial
  · exact .raise trivial

theorem scope_map {program : DbM α} {wrap : α → β}
    (along : scopeMonitor.Along (fun _ _ => True) program known) :
    scopeMonitor.Along (fun _ _ => True) (wrap <$> program) known := by
  rw [map_eq_pure_bind]
  refine .bind (along.mono fun result later _ => ?_)
  cases result with
  | ok value => exact .ret trivial
  | error error => exact trivial

/-- Every call inserts only bookings whose staff member it has seen. -/
theorem scope_perform (cfg : Settings) (call : Call) :
    scopeMonitor.Along (fun _ _ => True) (perform cfg call) [] := by
  have nothing : ∀ {γ : Type} {program : DbM γ}, BooksNothing program →
      scopeMonitor.Along (fun _ _ => True) program [] := fun books =>
    (scope_nothing books []).mono fun _ _ _ => trivial
  have locking := Stmt.noBooking_locking
  have plain := locking.toPlain
  cases call with
  | createBooking args => exact scope_map (scope_createBooking cfg args [])
  | createPendingPaymentHold args => exact scope_map (scope_createPendingPaymentHold args [])
  | confirmBookingPayment args =>
      exact scope_map (nothing (Issues.confirmBookingPayment locking.toCharging (fun _ => rfl) _ _))
  | expirePendingPaymentHold args =>
      exact scope_map (nothing (Issues.expirePendingPaymentHold locking (fun _ _ => rfl) _))
  | expireStalePaymentHolds =>
      exact scope_map (nothing (Issues.expireStalePaymentHolds locking (fun _ _ => rfl) _))
  | refundBookingPayment args =>
      exact scope_map (nothing (Issues.refundBookingPayment locking.toCharging _))
  | createWaitlistEntry args =>
      exact scope_map (nothing (Issues.createWaitlistEntry locking.toCharging _))
  | cancelBooking args =>
      exact scope_map
        (nothing (Issues.cancelBooking locking (fun _ _ => rfl) (fun _ => trivial) _ _))
  | rescheduleBooking args =>
      refine scope_map ?_
      refine scope_skip (Issues.requireBookingInBusiness plain _ _ _) fun found _ _ =>
        scope_guard ?_
      refine scope_skip
        (Issues.cancelBooking locking (fun _ _ => rfl) (fun _ => trivial) _ _) fun old later _ => ?_
      refine .bind ((scope_createBooking _ _ later).mono fun result last _ => ?_)
      cases result with
      | error error => exact trivial
      | ok new =>
          refine scope_skip (Issues.createAuditLog plain _ _ _ _ _) fun _ _ _ => ?_
          exact scope_skip (Program.Only.issue trivial) fun _ _ _ => .ret trivial
  | expireStaleWaitlistOffers =>
      exact scope_map (nothing (Issues.expireStaleWaitlistOffers locking _))
  | work task =>
      exact scope_map (nothing ((Clerical.work cfg task).imp fun _ => Stmt.Clerical.noBooking))

end Paths

/-! ## Runs -/

theorem Db.applyAll_staff (db : Db) (writes : List Write) :
    (db.applyAll writes).staff = db.staff := by
  induction writes generalizing db with
  | nil => rfl
  | cons write writes ih =>
      rw [applyAll_cons, ih]
      cases write <;> rfl

theorem Booking.SameSlot.place? {row origin : Booking} (same : row.SameSlot origin) :
    row.place? = origin.place? := by
  rw [← same]
  rfl

/-- Every booking, committed or not, has a place that is there, and so has every
place that a session has seen. -/
structure ScopeInvariant (config : BookingConfig) : Prop where
  committed : config.world.db.StaffScoped
  pending : ∀ pid row place, (pid, Write.insertBooking row) ∈ config.world.pending →
    row.place? = some place → config.world.db.HasPlace place
  seen : ∀ pid process, config.running pid = some process →
    ∀ place ∈ scopeWatch.state process.call process.log, config.world.db.HasPlace place
  watched : config.Watched scopeWatch

/-- What a session commits is scoped. -/
theorem staffScoped_view {world : World Call} (inScope : world.db.StaffScoped)
    (pending : ∀ pid row place, (pid, Write.insertBooking row) ∈ world.pending →
      row.place? = some place → world.db.HasPlace place) (pid : Pid) :
    (world.view pid).StaffScoped := by
  have sameStaff : (world.view pid).staff = world.db.staff := Db.applyAll_staff ..
  have samePlaces : ∀ place, world.db.HasPlace place → (world.view pid).HasPlace place := by
    intro place located
    rw [Db.HasPlace, sameStaff]
    exact located
  refine ⟨?_, fun booking member place located => ?_⟩
  · rw [sameStaff]
    exact inScope.keys
  · obtain ⟨origin, source, same, -, -⟩ := Db.mem_applyAll_bookings member
    rw [same.place?] at located
    rcases source with old | new
    · exact samePlaces place (inScope.bookings origin old place located)
    · exact samePlaces place (pending pid origin place (mem_pending_iff.mpr new) located)

/-- The place of an answer is there. -/
theorem hasPlace_of_seen {pid : Pid} {call : Call} {stmt : Stmt} {before after : World Call}
    {answer : stmt.Answer} (executed : execStmt pid call stmt before = some (answer, after))
    {place : Place} (seen : seenPlace ⟨stmt, answer⟩ = some place) : before.db.HasPlace place := by
  unfold seenPlace at seen
  split at seen
  · next id tenantId row same =>
      cases same
      cases executed
      obtain ⟨member, found, rfl⟩ := Option.map_eq_some_iff.mp seen
      have there : member ∈ (before.view pid).staff := List.mem_of_find?_eq_some found
      have fits := List.find?_some found
      rw [World.view, Db.applyAll_staff] at there
      simp only [Bool.and_eq_true, beq_iff_eq] at fits
      exact ⟨member, there, fits.1, rfl, fits.2⟩
  · cases seen

section Runs

variable {cfg : Settings} {before after : BookingConfig} {action : Action Call}

theorem ScopeInvariant.step (invariant : ScopeInvariant before)
    (taken : Step (salonMachine cfg) before action after) : ScopeInvariant after := by
  have watched : after.Watched scopeWatch :=
    invariant.watched.step taken (scope_perform cfg) fun _ _ _ _ _ _ _ _ _ _ => trivial
  -- The other sessions have seen what they had seen before.
  have others : ∀ {pid : Pid} {replaced : Option (Process Sql Call AppError Reply)} {db : Db},
      db.staff = before.world.db.staff →
      (∀ process, replaced = some process →
        ∀ place ∈ scopeWatch.state process.call process.log, before.world.db.HasPlace place) →
      ∀ other process, Function.update before.running pid replaced other = some process →
        ∀ place ∈ scopeWatch.state process.call process.log, db.HasPlace place := by
    intro pid replaced db same fine other process running place member
    rw [Db.HasPlace, same]
    by_cases moved : other = pid
    · subst moved
      rw [Function.update_self] at running
      exact fine process running place member
    · rw [Function.update_of_ne moved] at running
      exact invariant.seen other process running place member
  have released : ∀ pid other row place, (other, Write.insertBooking row) ∈
      (before.world.release pid).pending → row.place? = some place →
        before.world.db.HasPlace place := by
    intro pid other row place member
    exact invariant.pending other row place (List.mem_filter.mp member).1
  cases taken with
  | start call idle =>
      refine ⟨invariant.committed, released _, others rfl fun process same => ?_, watched⟩
      cases same
      exact nofun
  | @issue pid call stmt next log answer world running executed =>
      have saw : ∀ place ∈ scopeWatch.state call (log ++ [⟨stmt, answer⟩]),
          before.world.db.HasPlace place := by
        intro place member
        rw [Watch.state_snoc] at member
        rcases List.mem_append.mp member with new | old
        · exact hasPlace_of_seen executed (Option.mem_toList.mp new)
        · exact invariant.seen pid _ running place old
      have mine : ∀ process, some (⟨call, next answer, log ++ [⟨stmt, answer⟩]⟩ :
          Process Sql Call AppError Reply) = some process → ∀ place ∈
            scopeWatch.state process.call process.log, before.world.db.HasPlace place := by
        intro process same
        cases same
        exact saw
      have allowed : scopeMonitor.must (scopeWatch.state call log) stmt := by
        have along := invariant.watched.running pid _ running
        cases along with
        | call allowed _ => exact allowed
      obtain ⟨event, shown, effect⟩ : ∃ event : Event Sql, ⟨stmt, answer⟩ = event ∧
          Effect pid call before.world world event := ⟨_, rfl, execStmt_effect executed⟩
      cases effect with
      | quiet nothing db pending journal =>
          refine ⟨db ▸ invariant.committed, ?_, others (congrArg Db.staff db) mine, watched⟩
          rw [db, pending]
          exact invariant.pending
      | inserted db pending journal =>
          cases shown
          refine ⟨db ▸ invariant.committed, ?_, others (congrArg Db.staff db) mine, watched⟩
          intro other row place member located
          rw [db]
          rw [pending, List.mem_append, List.mem_singleton, Prod.mk.injEq] at member
          rcases member with old | ⟨-, added⟩
          · exact invariant.pending other row place old located
          · exact invariant.seen pid _ running place (allowed _ row place added.symm located)
      | updated db pending journal =>
          cases shown
          refine ⟨db ▸ invariant.committed, ?_, others (congrArg Db.staff db) mine, watched⟩
          intro other row place member located
          rw [db]
          rw [pending, List.mem_append, List.mem_singleton, Prod.mk.injEq] at member
          rcases member with old | ⟨-, rfl⟩
          · exact invariant.pending other row place old located
          · cases allowed
      | committed committed =>
          cases shown
          subst committed
          have sameStaff : (before.world.view pid).staff = before.world.db.staff :=
            Db.applyAll_staff ..
          refine ⟨staffScoped_view invariant.committed invariant.pending pid, ?_,
            others sameStaff mine, watched⟩
          intro other row place member located
          change (before.world.view pid).HasPlace place
          rw [Db.HasPlace, sameStaff]
          exact released pid other row place member located
      | rolledBack rolledBack =>
          cases shown
          subst rolledBack
          exact ⟨invariant.committed, released pid, others rfl mine, watched⟩
  | finish running ended =>
      exact ⟨invariant.committed, released _, others rfl (fun _ same => nomatch same), watched⟩
  | stop running =>
      exact ⟨invariant.committed, released _, others rfl (fun _ same => nomatch same), watched⟩
  | @ambient world changed =>
      obtain ⟨⟨db, clock, outside, -, same, -, rfl⟩, kept⟩ := changed
      refine ⟨⟨kept.keys, fun booking member place located => ?_⟩,
        fun pid row place member located =>
          kept.places place (invariant.pending pid row place member located),
        fun pid process running place member =>
          kept.places place (invariant.seen pid process running place member), watched⟩
      change booking ∈ db.bookings at member
      rw [same.bookings] at member
      exact kept.places place (invariant.committed.bookings booking member place located)

/-- **Bookings stay in scope.** -/
theorem staffScoped_in_every_run {db : Db} {nextId : Nat} {clock : Instant}
    {redisTakes : Nat → Bool} (inScope : db.StaffScoped) {config : BookingConfig}
    (runs : Runs (salonMachine cfg) (fun _ _ => True) (bookingStart db nextId clock redisTakes)
      config) : config.world.db.StaffScoped := by
  have start : ScopeInvariant (bookingStart db nextId clock redisTakes) :=
    ⟨inScope, (fun _ _ _ member => nomatch member), (fun _ _ running => nomatch running),
      .initial ..⟩
  exact (runs.invariant start fun _ _ _ invariant _ taken => invariant.step taken).committed

end Runs

end AppointmentVoice
