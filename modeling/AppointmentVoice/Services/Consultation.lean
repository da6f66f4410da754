import AppointmentVoice.Database.Effects
import AppointmentVoice.Services.History

/-!
# Who is considered for a freed slot

A call that frees a booking locks it, and asks then for the entries that wait for its slot.
The sweep of the offers locks those that are stale, and asks for each of them.  The stages of
both are read off the log of the call.

`consult_perform` says that every call asks for a slot that it has just freed and for no
other, and that one which has cancelled a booking or let a hold expire has asked;
`consultation_reached` carries this to every configuration of every run.
-/

set_option autoImplicit false

namespace AppointmentVoice

open Concurrency Program

/-! ## The query of a call that frees a slot -/

/-- Where a call is: it has locked no booking, it has locked one, or it has considered who
waits for the slot of the one that it locked last.  The sweep of the offers locks those that
it lets expire. -/
inductive Consulting where
  | looking
  | freeing (booking : Booking)
  | asked (booking : Booking)
  | sweeping (stale : List WaitlistEntry)

/-- The slot that an offer was for. -/
def WaitlistEntry.offeredSlot (entry : WaitlistEntry) : WaitlistFilter :=
  ⟨entry.businessId, entry.tenantId, entry.serviceId, entry.desiredDate, entry.offeredForStaffId⟩

namespace Consulting

/-- The slot is that of the locked booking, or that of an offer which the sweep lets expire. -/
def LooksFor (stage : Consulting) (filter : WaitlistFilter) : Prop :=
  (∃ booking, stage = .freeing booking ∧ filter = slotOf booking booking.tenantId) ∨
    ∃ stale expired, stage = .sweeping stale ∧ expired ∈ stale ∧ filter = expired.offeredSlot

/-- The query for entries is for a slot that the call has freed. -/
def must (stage : Consulting) : Stmt → Prop
  | .selectWaitlistForUpdateSkipLocked filter => stage.LooksFor filter
  | _ => True

/-- The lock gives the booking that was asked for. -/
def may : Event Sql → Prop
  | ⟨.selectBookingForUpdate id tenantId, answer⟩ =>
      ∀ booking, answer = some booking → booking.id = id ∧ booking.tenantId = tenantId
  | _ => True

/-- Where a call is after an event. -/
def learn (stage : Consulting) : Event Sql → Consulting
  | ⟨.selectBookingForUpdate _ _, some booking⟩ => .freeing booking
  | ⟨.selectStaleOffersForUpdateSkipLocked _, stale⟩ => .sweeping stale
  | ⟨.selectWaitlistForUpdateSkipLocked _, _⟩ =>
      match stage with
      | .freeing booking => .asked booking
      | other => other
  | _ => stage

end Consulting

/-- The booking that a call cancels, or the hold that it expires. -/
def Call.freedRef : Call → Option BookingRef
  | .cancelBooking args => some args.toBookingRef
  | .expirePendingPaymentHold args => some args
  | _ => none

/-- A call that has freed a booking has considered who waits for its slot. -/
def consultation : Watch Sql Call AppError Reply Consulting where
  monitor _ :=
    { may := fun _ => Consulting.may
      must := Consulting.must
      learn := Consulting.learn }
  initial _ := .looking
  post call result stage := ∀ ref reply, call.freedRef = some ref → result = .ok reply →
    ∃ booking, stage = .asked booking ∧ booking.id = ref.bookingId ∧ booking.tenantId = ref.tenantId

/-! ## The programs of the calls -/

/-- The statement neither locks a booking or an offer nor asks for entries. -/
def Stmt.Aside : Stmt → Prop
  | .selectBookingForUpdate _ _ => False
  | .selectStaleOffersForUpdateSkipLocked _ => False
  | .selectWaitlistForUpdateSkipLocked _ => False
  | _ => True

/-- The statement does not ask for entries. -/
def Stmt.AsksNobody : Stmt → Prop
  | .selectWaitlistForUpdateSkipLocked _ => False
  | _ => True

theorem Stmt.aside_ending : Stmt.Ending Stmt.Aside where
  select _ := trivial
  now := trivial
  push _ _ := trivial
  audit _ := trivial
  outbox _ _ := trivial
  event _ _ := trivial
  commit := trivial
  rollback := trivial

theorem Stmt.asksNobody_charging : Stmt.Charging Stmt.AsksNobody where
  select _ := trivial
  now := trivial
  push _ _ := trivial
  audit _ := trivial
  outbox _ _ := trivial
  event _ _ := trivial
  commit := trivial
  rollback := trivial
  lock _ _ := trivial
  payment _ _ := trivial
  enroll _ := trivial

theorem Stmt.Clerical.asksNobody (stmt : Stmt) (clerical : stmt.Clerical) : stmt.AsksNobody := by
  cases stmt with
  | selectWaitlistForUpdateSkipLocked filter => exact clerical
  | _ => exact trivial

section Programs

variable {cfg : Settings} {call : Call} {stage : Consulting} {α β : Type}

theorem consult_silent {program : DbM α} (only : program.Only Stmt.AsksNobody) :
    (consultation.monitor call).Along (fun _ _ => True) program stage := by
  induction only generalizing stage with
  | ret value => exact .ret trivial
  | raise error => exact .raise trivial
  | @call stmt next fits _ ih =>
      refine .call ?_ fun answer _ => ih answer
      cases stmt with
      | selectWaitlistForUpdateSkipLocked filter => exact fits.elim
      | _ => exact trivial

theorem consult_aside {program : DbM α} (only : program.Only Stmt.Aside) :
    (consultation.monitor call).Along (fun _ later => stage = later) program stage := by
  refine Monitor.Along.of_only rfl (fun later stmt same fits => ?_) only
  subst same
  cases stmt with
  | selectBookingForUpdate id tenantId => exact fits.elim
  | selectStaleOffersForUpdateSkipLocked threshold => exact fits.elim
  | selectWaitlistForUpdateSkipLocked filter => exact fits.elim
  | _ => exact ⟨trivial, fun _ => rfl⟩

/-- A piece of a call that neither locks nor asks, and what comes after it. -/
theorem consult_then {program : DbM β} {next : β → DbM α}
    {post : Except AppError α → Consulting → Prop}
    (raised : ∀ error later, post (.error error) later) (only : program.Only Stmt.Aside)
    (rest : ∀ value, (consultation.monitor call).Along post (next value) stage) :
    (consultation.monitor call).Along post (program >>= next) stage := by
  refine .bind ((consult_aside only).mono fun result later same => ?_)
  subst same
  cases result with
  | ok value => exact rest value
  | error error => exact raised error _

/-- The lock of the booking. -/
theorem consult_lock {bookingId businessId tenantId : Nat} {next : Booking → DbM α}
    {post : Except AppError α → Consulting → Prop}
    (raised : ∀ error later, post (.error error) later)
    (rest : ∀ row : Booking, row.id = bookingId → row.tenantId = tenantId →
      (consultation.monitor call).Along post (next row) (.freeing row)) :
    (consultation.monitor call).Along post
      (requireBookingInBusinessForUpdate bookingId businessId tenantId >>= next) stage := by
  refine .call trivial fun answer possible => ?_
  cases answer with
  | none => exact .raise (raised _ _)
  | some row =>
      change (consultation.monitor call).Along _
        ((if row.businessId ≠ businessId then _ else _) >>= next) _
      by_cases same : row.businessId = businessId
      · rw [if_neg (not_not.mpr same)]
        exact rest row (possible row rfl).1 (possible row rfl).2
      · rw [if_pos same]
        exact .raise (raised _ _)

/-- The query for the entries that wait for the slot. -/
theorem consult_ask {row : Booking} {tenantId : Nat} {next : List WaitlistEntry → DbM α}
    {post : Except AppError α → Consulting → Prop} (same : row.tenantId = tenantId)
    (rest : ∀ entries, (consultation.monitor call).Along post (next entries) (.asked row)) :
    (consultation.monitor call).Along post
      (selectWaitlistForUpdateSkipLocked (slotOf row tenantId) >>= next) (.freeing row) :=
  .call (.inl ⟨row, rfl, by rw [same]⟩) fun entries _ => rest entries

theorem aside_failLinkedPendingPayment (booking : Booking) (reason : Option String) :
    (failLinkedPendingPayment booking reason).Only Stmt.Aside := by
  refine Only.bind (Issues.select Stmt.aside_ending.toPlain _) fun payment => ?_
  cases payment with
  | none => exact Issues.ret _
  | some payment => exact Only.issue trivial

/-- What the end of a call that frees a booking comes to. -/
structure FreesFor (bookingId tenantId : Nat)
    (post : Except AppError Booking → Consulting → Prop) : Prop where
  raised : ∀ error later, post (.error error) later
  returned : ∀ value row, row.id = bookingId → row.tenantId = tenantId →
    post (.ok value) (.asked row)

/-- **A cancellation considers who waits for the slot of its booking.** -/
theorem consult_cancelBooking (args : CancelBooking)
    {post : Except AppError Booking → Consulting → Prop}
    (frees : FreesFor args.bookingId args.tenantId post) :
    (consultation.monitor call).Along post (cancelBooking cfg args) stage := by
  have ending := Stmt.aside_ending
  have plain := ending.toPlain
  have raised := frees.raised
  rw [cancelBooking]
  cases (args.override && blank args.reason) with
  | true => exact .raise (raised _ _)
  | false =>
  refine .call trivial fun startedAt _ => consult_lock raised fun row sameId tenant => ?_
  by_cases gone : row.status = .cancelled
  · rw [if_pos gone]
    exact .raise (raised _ _)
  rw [if_neg gone]
  refine consult_then raised (Only.issue trivial) fun _ => ?_
  refine consult_then raised (aside_failLinkedPendingPayment row args.reason) fun _ => ?_
  refine consult_then raised (Issues.createAuditLog plain _ _ _ _ _) fun _ => ?_
  refine consult_then raised (Issues.requireBusiness plain _ _) fun business => ?_
  refine consult_then raised (Issues.requireCustomerInBusiness plain _ _ _) fun customer => ?_
  refine consult_then raised (Issues.requireServiceInBusiness plain _ _ _) fun service => ?_
  refine consult_then raised
    (Issues.enqueueBookingCancellation plain _ _ _ _ _ _) fun intentIds => ?_
  refine consult_ask tenant fun matching => ?_
  refine consult_then raised ?_ fun offerIds => ?_
  · cases matching with
    | nil => exact Issues.ret _
    | cons entry rest =>
        exact Only.bind (Only.issue trivial) fun _ =>
          Only.bind (Issues.requireCustomerInBusiness plain _ _ _) fun _ =>
          Only.bind (Issues.enqueueWaitlistOffer plain _ _ _ _ _) fun _ => Issues.ret _
  refine consult_then raised (Issues.select plain _) fun event => ?_
  refine consult_then raised (Only.issue trivial) fun _ => ?_
  refine consult_then raised (Issues.refreshBooking plain _) fun booking => ?_
  refine consult_then raised (Issues.notify plain _) fun _ => ?_
  refine consult_then raised (Issues.notify plain _) fun _ => ?_
  refine consult_then raised (Issues.enqueueJobs fun _ _ => trivial) fun _ => ?_
  exact .ret (frees.returned booking row sameId tenant)

/-- **An expiry considers who waits for the slot of its hold.** -/
theorem consult_expirePendingPaymentHold (args : BookingRef)
    {post : Except AppError Booking → Consulting → Prop}
    (frees : FreesFor args.bookingId args.tenantId post) :
    (consultation.monitor call).Along post (expirePendingPaymentHold args) stage := by
  have ending := Stmt.aside_ending
  have plain := ending.toPlain
  have raised := frees.raised
  rw [expirePendingPaymentHold]
  refine .call trivial fun startedAt _ => consult_lock raised fun row sameId tenant => ?_
  by_cases pending : row.status = .pendingPayment
  swap
  · rw [if_pos pending]
    exact .raise (raised _ _)
  rw [if_neg (not_not.mpr pending)]
  refine consult_then raised (Only.issue trivial) fun _ => ?_
  refine consult_then raised (aside_failLinkedPendingPayment row (some holdExpired)) fun _ => ?_
  refine consult_then raised (Issues.createAuditLog plain _ _ _ _ _) fun _ => ?_
  refine consult_ask tenant fun matching => ?_
  refine consult_then raised ?_ fun offerIds => ?_
  · cases matching with
    | nil => exact Issues.ret _
    | cons entry rest =>
        exact Only.bind (Only.issue trivial) fun _ =>
          Only.bind (Issues.requireBusiness plain _ _) fun _ =>
          Only.bind (Issues.requireServiceInBusiness plain _ _ _) fun _ =>
          Only.bind (Issues.requireCustomerInBusiness plain _ _ _) fun _ =>
          Only.bind (Issues.enqueueWaitlistOffer plain _ _ _ _ _) fun _ => Issues.ret _
  refine consult_then raised (Only.issue trivial) fun _ => ?_
  refine consult_then raised (Issues.refreshBooking plain _) fun booking => ?_
  refine consult_then raised (Issues.notify plain _) fun _ => ?_
  exact .ret (frees.returned booking row sameId tenant)

theorem consult_expireEach (bookings : List Booking) :
    (consultation.monitor call).Along (fun _ _ => True) (expireEach bookings) stage := by
  induction bookings generalizing stage with
  | nil => exact .ret trivial
  | cons booking rest ih =>
      have expires : (consultation.monitor call).Along (fun _ _ => True) (expirePendingPaymentHold
          ⟨booking.id, booking.businessId, booking.tenantId⟩) stage :=
        consult_expirePendingPaymentHold _ ⟨fun _ _ => trivial, fun _ _ _ _ => trivial⟩
      have goesOn : ∀ number later, (consultation.monitor call).Along (fun _ _ => True)
          (expireEach rest >>= fun others => pure (number + others)) later :=
        fun number later => .bind ((ih).mono fun result last _ => by
          cases result with
          | ok others => exact .ret trivial
          | error error => exact trivial)
      refine .bind (.tryCatch (.bind (expires.mono fun result later _ => ?_)))
      cases result with
      | ok value => exact .ret (goesOn 1 later)
      | error error =>
          cases error with
          | conflict message => exact .call trivial fun _ _ => .ret (goesOn 0 _)
          | _ => exact .raise trivial

theorem consult_rescheduleBooking (args : RescheduleBooking) :
    (consultation.monitor call).Along (fun _ _ => True) (rescheduleBooking cfg args) stage := by
  have ending := Stmt.asksNobody_charging.toEnding
  have plain := ending.toPlain
  have goesOn : ∀ {γ : Type} {program : DbM γ} {next : γ → DbM Booking} {from_ : Consulting},
      program.Only Stmt.Aside →
        (∀ value, (consultation.monitor call).Along (fun _ _ => True) (next value)
        from_) → (consultation.monitor call).Along (fun _ _ => True) (program >>= next) from_ :=
    fun only rest => consult_then (fun _ _ => trivial) only rest
  rw [rescheduleBooking]
  refine goesOn (Issues.requireBookingInBusiness Stmt.aside_ending.toPlain _ _ _) fun found => ?_
  by_cases confirmed : found.status = .confirmed
  swap
  · rw [if_pos confirmed]
    exact .raise trivial
  rw [if_neg (not_not.mpr confirmed)]
  have cancels : (consultation.monitor call).Along (fun _ _ => True) (cancelBooking cfg
      { bookingId := found.id, businessId := args.businessId, tenantId := args.tenantId,
        reason := args.reason, actorId := args.actorId }) stage :=
    consult_cancelBooking _ ⟨fun _ _ => trivial, fun _ _ _ _ => trivial⟩
  refine .bind (cancels.mono fun result later _ => ?_)
  cases result with
  | error error => exact trivial
  | ok old =>
      refine consult_silent ?_
      exact Only.bind (Issues.createBooking ending (fun _ => trivial) cfg _) fun new =>
        Only.bind (Issues.createAuditLog plain _ _ _ _ _) fun _ =>
          Only.bind (Only.issue trivial) fun _ => Issues.ret _

/-- Somebody else is looked for when an offer expires. -/
theorem consult_escalate {startedAt : Instant} {stale : List WaitlistEntry}
    {expired : WaitlistEntry} (among : expired ∈ stale) {next : List Nat → DbM α}
    (rest : ∀ offerIds, (consultation.monitor call).Along (fun _ _ => True) (next offerIds)
      (.sweeping stale)) :
    (consultation.monitor call).Along (fun _ _ => True)
      (escalateToNextWaitingEntry startedAt expired >>= next) (.sweeping stale) := by
  have plain := Stmt.aside_ending.toPlain
  have asks : Consulting.LooksFor (.sweeping stale) expired.offeredSlot :=
    .inr ⟨stale, expired, rfl, among, rfl⟩
  rw [escalateToNextWaitingEntry, bind_assoc]
  refine .call asks fun candidates _ => ?_
  cases candidates with
  | nil => exact rest []
  | cons chosen more =>
      have offers : (do
          update (.updateWaitlistEntry chosen.id (.offer expired.offeredForStaffId startedAt))
          let business ← requireBusiness chosen.businessId chosen.tenantId
          let customer ←
            requireCustomerInBusiness chosen.customerId chosen.businessId chosen.tenantId
          let service ← requireServiceInBusiness chosen.serviceId chosen.businessId chosen.tenantId
          let offerId ← enqueueWaitlistOffer chosen business customer service startedAt
          return [offerId] : DbM (List Nat)).Only Stmt.Aside := by
        exact Only.bind (Only.issue trivial) fun _ => Only.bind (Issues.requireBusiness plain _ _)
          fun _ => Only.bind (Issues.requireCustomerInBusiness plain _ _ _) fun _ =>
          Only.bind (Issues.requireServiceInBusiness plain _ _ _) fun _ =>
          Only.bind (Issues.enqueueWaitlistOffer plain _ _ _ _ _) fun _ => Issues.ret _
      have along := consult_then (fun _ _ => trivial) offers rest
      exact along

/-- The sweep looks for somebody else for each offer that it lets expire. -/
theorem consult_expireOffers {startedAt : Instant} {stale entries : List WaitlistEntry}
    (among : entries ⊆ stale) {next : List Nat → DbM α}
    (rest : ∀ offerIds, (consultation.monitor call).Along (fun _ _ => True) (next offerIds)
      (.sweeping stale)) :
    (consultation.monitor call).Along (fun _ _ => True) (expireOffers startedAt entries >>= next)
      (.sweeping stale) := by
  induction entries generalizing next with
  | nil => exact rest []
  | cons expired entries ih =>
      rw [expireOffers, bind_assoc]
      refine consult_then (fun _ _ => trivial) (Only.issue trivial) fun _ => ?_
      rw [bind_assoc]
      refine consult_escalate (among List.mem_cons_self) fun first => ?_
      rw [bind_assoc]
      exact ih (fun _ member => among (List.mem_cons_of_mem _ member)) fun offerIds => rest _

theorem consult_expireStaleWaitlistOffers :
    (consultation.monitor call).Along (fun _ _ => True) (expireStaleWaitlistOffers cfg) stage := by
  refine .call trivial fun time _ => .call trivial fun stale _ => ?_
  change (consultation.monitor call).Along _ (if (stale : List WaitlistEntry).isEmpty then pure 0
    else _) (.sweeping stale)
  split
  · exact .ret trivial
  · refine consult_expireOffers (List.Subset.refl stale) fun offerIds => consult_silent ?_
    exact Only.bind (Only.issue trivial) fun _ => Only.bind (Issues.enqueueJobs fun _ _ => trivial)
      fun _ => Issues.ret _

theorem consult_map {program : DbM β} (wrap : β → α) {post : Except AppError α → Consulting → Prop}
    (along : (consultation.monitor call).Along (fun result later =>
      post (result.map wrap) later) program stage) :
    (consultation.monitor call).Along post (wrap <$> program) stage := by
  rw [map_eq_pure_bind]
  refine .bind (along.mono fun result later met => ?_)
  cases result with
  | ok value => exact .ret met
  | error error => exact met

/-- **Every call keeps to its monitor.** -/
theorem consult_perform (cfg : Settings) (call : Call) :
    (consultation.monitor call).Along (consultation.post call) (perform cfg call)
    (consultation.initial call) := by
  have ending := Stmt.asksNobody_charging.toEnding
  have other : call.freedRef = none → (consultation.monitor call).Along (fun _ _ => True)
      (perform cfg call) .looking → (consultation.monitor call).Along (consultation.post call)
        (perform cfg call) .looking :=
    fun none along => along.mono fun result later _ ref reply freed => by
      rw [none] at freed
      cases freed
  cases call with
  | createBooking args =>
      exact other
        rfl (consult_silent
        (Issues.map _ (Issues.createBooking ending (fun _ => trivial) cfg args)))
  | createPendingPaymentHold args =>
      exact other rfl (consult_silent (Issues.map _ (Issues.createPendingPaymentHold ending
        (fun _ => trivial) (fun _ => trivial) args)))
  | confirmBookingPayment args =>
      exact other rfl (consult_silent (Issues.map _ (Issues.confirmBookingPayment
        Stmt.asksNobody_charging (fun _ => trivial) cfg args)))
  | expirePendingPaymentHold args =>
      refine consult_map _ (consult_expirePendingPaymentHold args ⟨?_, ?_⟩)
      · rintro error later ref reply - same
        cases same
      · rintro value row sameId tenant ref reply freed -
        cases freed
        exact ⟨row, rfl, sameId, tenant⟩
  | expireStalePaymentHolds =>
      refine other rfl (consult_map _ ?_)
      refine .call trivial fun time _ => .call trivial fun stale _ => consult_expireEach stale
  | refundBookingPayment args =>
      exact other rfl (consult_silent (Issues.map _ (Issues.refundBookingPayment
        Stmt.asksNobody_charging args)))
  | cancelBooking args =>
      refine consult_map _ (consult_cancelBooking args ⟨?_, ?_⟩)
      · rintro error later ref reply - same
        cases same
      · rintro value row sameId tenant ref reply freed -
        cases freed
        exact ⟨row, rfl, sameId, tenant⟩
  | rescheduleBooking args => exact other rfl (consult_map _ (consult_rescheduleBooking args))
  | createWaitlistEntry args =>
      exact other rfl (consult_silent (Issues.map _ (Issues.createWaitlistEntry
        Stmt.asksNobody_charging args)))
  | expireStaleWaitlistOffers => exact other rfl (consult_map _ consult_expireStaleWaitlistOffers)
  | work task =>
      refine other rfl (consult_silent (Issues.map _ ?_))
      exact (Clerical.work cfg task).imp Stmt.Clerical.asksNobody

end Programs

/-! ## Runs -/

/-- Every process of a run keeps to the monitor, and has kept to it when it was finished. -/
theorem consultation_reached {cfg : Settings} {db : Db} {nextId : Nat} {clock : Instant}
    {redisTakes : Nat → Bool} {config : BookingConfig}
    (runs : BookingRun cfg (bookingStart db nextId clock redisTakes) config) :
    config.Watched consultation := by
  refine runs.invariant (.initial consultation _) fun before action after watched _ taken => ?_
  refine watched.step taken (consult_perform cfg)
    fun pid call stmt next log answer world _ _ executed => ?_
  cases stmt with
  | selectBookingForUpdate id tenantId =>
      rintro booking rfl
      have locked : execStmt pid call (.selectBookingForUpdate id tenantId) before.world =
          some (some booking, world) := executed
      have found := (execStmt_lock locked).1
      have matched := List.find?_some (p := fun row : Booking => row.id == id &&
        row.tenantId == tenantId) found.symm
      rw [Bool.and_eq_true, beq_iff_eq, beq_iff_eq] at matched
      exact matched
  | _ => exact trivial

/-- A process that is about to ask looks for somebody for a slot that it has freed. -/
theorem Concurrency.Config.Watched.looksFor {config : BookingConfig}
    (watched : config.Watched consultation) {pid : Pid} {process : Process Sql Call AppError Reply}
    (running : config.running pid = some process) {filter : WaitlistFilter}
    {next : List WaitlistEntry → DbM Reply}
    (asks : process.rest = .call (.selectWaitlistForUpdateSkipLocked filter) next) :
    (consultation.state process.call process.log).LooksFor filter := by
  have along := watched.running pid process running
  rw [asks] at along
  cases along with
  | call allowed rest => exact allowed

end AppointmentVoice
