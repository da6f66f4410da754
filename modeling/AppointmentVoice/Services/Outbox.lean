import AppointmentVoice.Services.Clerks
import AppointmentVoice.Services.ExternalLink

/-!
# Which messages a call has committed

A call files a message, commits, and pushes its job.  How far it is with each message
can be read off its own statements: the keys that it has written and not committed yet,
and the keys of rows that it has committed, has found committed, or has taken a job for.
Every function pushes a job, or gives one back, only for a key of the second kind, on
every path and whatever the answers; the reminders are the exception.

**Every call.** `filed_perform`, put together from one lemma for each function.
-/

set_option autoImplicit false

namespace AppointmentVoice

open Concurrency Program

/-! ## Keys -/

/-- The message that a job is about, if it is about one. -/
def QueuedJob.messages : QueuedJob → List Nat
  | .sendNotification id => [id]
  | _ => []

/-- The messages for which a statement puts a job into the queue. -/
def Stmt.circulates : Stmt → List Nat
  | .push job => job.messages
  | .ask (.scheduleRetry entry) => entry.job.messages
  | .ask (.moveToFailedQueue entry) => entry.job.messages
  | _ => []

/-- The key of a message that a write adds. -/
def Write.filed (write : Write) : List Nat := (Table.notificationOutbox.inserted write).toList

/-- The call is the sweep for reminders. -/
def OutboxCall.Reminds (call : OutboxCall) : Prop := call = .salon (.work .enqueueDueReminders)

/-- The call handles a job of the message. -/
def OutboxCall.Handles (call : OutboxCall) (id : Nat) : Prop :=
  ∃ attempts, call = .salon (.work (.processJob ⟨.sendNotification id, attempts⟩))

/-! ## The monitor -/

/-- The keys that a call has written since its last commit, and those that it knows to be
committed. -/
structure Filed where
  unpublished : List Nat
  published : List Nat

namespace Filed

/-- What a statement with its answer teaches. -/
def learn (filed : Filed) : Event Sql → Filed
  | ⟨.insert draft, answer⟩ =>
      match (answer : Except Constraint Nat) with
      | .ok id => { filed with unpublished := filed.unpublished ++ (draft id).filed }
      | .error _ => filed
  | ⟨.update write, _⟩ => { filed with unpublished := filed.unpublished ++ write.filed }
  | ⟨.commit, _⟩ => ⟨[], filed.published ++ filed.unpublished⟩
  | ⟨.rollback, _⟩ => ⟨[], filed.published⟩
  | ⟨.select (.staleNotifications _), rows⟩ =>
      if filed.unpublished = [] then
        { filed with published := filed.published ++ (rows : List NotificationOutbox).map (·.id) }
      else filed
  | ⟨.ask (.dequeue entry), taken⟩ =>
      match (taken : Bool) with
      | true => { filed with published := filed.published ++ entry.job.messages }
      | false => filed
  | _ => filed

/-- Jobs are put into the queue only for committed messages, except by the reminders, and
a handler reads only a committed message. -/
def allows (call : OutboxCall) (filed : Filed) (stmt : Stmt) : Prop :=
  ((call.Reminds ∧ ∃ job, stmt = .push job) ∨ ∀ id ∈ stmt.circulates, id ∈ filed.published) ∧
    ∀ id, call.Handles id → stmt = .select (.notificationByPrimaryKey id) → id ∈ filed.published

end Filed

/-- The statements of a call, judged by the rows that it has filed. -/
def filedMonitor (call : OutboxCall) : Monitor Sql Filed where
  may _ _ := True
  must := Filed.allows call
  learn := Filed.learn

/-- The calls are watched from their start to wherever they end. -/
def filedWatch : Watch Sql OutboxCall AppError OutboxReply Filed where
  monitor := filedMonitor
  initial _ := ⟨[], []⟩
  post _ _ _ := True

/-! ## Growing -/

/-- Nothing that was known is forgotten. -/
structure Filed.Grows (filed later : Filed) : Prop where
  unpublished : filed.unpublished ⊆ later.unpublished
  published : filed.published ⊆ later.published

namespace Filed

variable {filed later last : Filed}

theorem Grows.refl (filed : Filed) : filed.Grows filed := ⟨List.Subset.refl _, List.Subset.refl _⟩

theorem Grows.trans (first : filed.Grows later) (second : later.Grows last) : filed.Grows last :=
  ⟨List.Subset.trans first.unpublished second.unpublished,
    List.Subset.trans first.published second.published⟩

/-- The committed keys that were known are known. -/
def Keeps (filed later : Filed) : Prop := filed.published ⊆ later.published

/-- The committed keys stay known, whatever happens. -/
theorem published_learn (filed : Filed) (event : Event Sql) : filed.Keeps (filed.learn event) := by
  obtain ⟨stmt, answer⟩ := event
  cases stmt with
  | insert draft =>
      cases (answer : Except Constraint Nat) with
      | ok id => exact List.Subset.refl _
      | error constraint => exact List.Subset.refl _
  | commit => exact List.subset_append_left _ _
  | select query =>
      cases query with
      | staleNotifications threshold =>
          simp only [learn]
          split
          · exact List.subset_append_left _ _
          · exact List.Subset.refl _
      | _ => exact List.Subset.refl _
  | ask request =>
      cases request with
      | dequeue entry =>
          cases (answer : Bool) with
          | true => exact List.subset_append_left _ _
          | false => exact List.Subset.refl _
      | _ => exact List.Subset.refl _
  | _ => exact List.Subset.refl _

/-- Until the transaction ends, the new keys stay too. -/
theorem grows_learn (filed : Filed) {stmt : Stmt} (answer : stmt.Answer) (commits : stmt ≠ .commit)
    (rolls : stmt ≠ .rollback) : filed.Grows (filed.learn ⟨stmt, answer⟩) := by
  refine ⟨?_, published_learn filed _⟩
  cases stmt with
  | insert draft =>
      cases (answer : Except Constraint Nat) with
      | ok id => exact List.subset_append_left _ _
      | error constraint => exact List.Subset.refl _
  | update write => exact List.subset_append_left _ _
  | commit => exact absurd rfl commits
  | rollback => exact absurd rfl rolls
  | select query =>
      cases query with
      | staleNotifications threshold =>
          simp only [learn]
          split
          · exact List.Subset.refl _
          · exact List.Subset.refl _
      | _ => exact List.Subset.refl _
  | ask request =>
      cases request with
      | dequeue entry =>
          cases (answer : Bool) with
          | true => exact List.Subset.refl _
          | false => exact List.Subset.refl _
      | _ => exact List.Subset.refl _
  | _ => exact List.Subset.refl _

end Filed

/-! ## Kinds of statements -/

/-- The statement puts no message into the queue. -/
def Stmt.Mute (stmt : Stmt) : Prop := stmt.circulates = []

/-- The statement puts no message into the queue and does not end the transaction. -/
def Stmt.Drafts (stmt : Stmt) : Prop := stmt.Mute ∧ stmt ≠ .commit ∧ stmt ≠ .rollback

/-- The statement puts no message but that of the entry into the queue. -/
def Stmt.Minds (entry : QueueEntry) (stmt : Stmt) : Prop := stmt.circulates ⊆ entry.job.messages

namespace Stmt

theorem drafts_noting : Noting Drafts where
  select _ := ⟨rfl, nofun, nofun⟩
  now := ⟨rfl, nofun, nofun⟩
  audit _ := ⟨rfl, nofun, nofun⟩
  outbox _ _ := ⟨rfl, nofun, nofun⟩

/-- The row of a calendar event is drafted like a message. -/
theorem drafts_enqueueCalendarEvent (booking : Booking) (business : Business)
    (createdAt : Instant) :
    (enqueueCalendarEvent booking business createdAt).Only Drafts := by
  refine .bind ?_ fun _ => Issues.insert ⟨rfl, nofun, nofun⟩
  cases booking.staffId with
  | none => exact Issues.select drafts_noting _
  | some id =>
      refine .bind (Issues.select drafts_noting _) fun own => ?_
      cases own with
      | none => exact Issues.select drafts_noting _
      | some integration => exact .ret _

/-- So is the lock of a booking. -/
theorem drafts_requireBookingInBusinessForUpdate (bookingId businessId tenantId : Nat) :
    (requireBookingInBusinessForUpdate bookingId businessId tenantId).Only Drafts :=
  .bind (.issue ⟨rfl, nofun, nofun⟩) fun _ => .bind (Issues.orRaise _ _) fun row =>
    Issues.guard (.ret row)

theorem drafts_failLinkedPendingPayment (booking : Booking) (reason : Option String) :
    (failLinkedPendingPayment booking reason).Only Drafts := by
  refine .bind (Issues.select drafts_noting _) fun payment => ?_
  cases payment with
  | none => exact .ret ()
  | some payment => exact .issue ⟨rfl, nofun, nofun⟩

theorem minds_attending (entry : QueueEntry) : Attending (Minds entry) where
  select _ := List.nil_subset _
  now := List.nil_subset _
  commit := List.nil_subset _
  rollback := List.nil_subset _
  dequeue _ := List.nil_subset _

theorem minds_settling (entry : QueueEntry) : Settling (Minds entry) entry where
  ack := List.nil_subset _
  retry := List.Subset.refl _
  fail := List.Subset.refl _

end Stmt

/-! ## Rules -/

/-- A postcondition for the calls that return. -/
def Upon {α : Type} (goal : α → Filed → Prop) : Except AppError α → Filed → Prop
  | .ok value, filed => goal value filed
  | .error _, _ => True

section Rules

variable {call : OutboxCall} {α β : Type} {filed : Filed} {goal : β → Filed → Prop}

theorem upon_bind {program : DbM α} {next : α → DbM β} {middle : α → Filed → Prop}
    (first : (filedMonitor call).Along (Upon middle) program filed)
    (second : ∀ value later, middle value later →
      (filedMonitor call).Along (Upon goal) (next value) later) :
    (filedMonitor call).Along (Upon goal) (program >>= next) filed := by
  refine (first.mono fun result later met => ?_).bind
  cases result with
  | ok value => exact second value later met
  | error error => exact trivial

theorem upon_try {program : DbM β} {handler : AppError → DbM β}
    (body : (filedMonitor call).Along (Upon goal) program filed)
    (handles : ∀ error later, (filedMonitor call).Along (Upon goal) (handler error) later) :
    (filedMonitor call).Along (Upon goal) (MonadExcept.tryCatch program handler) filed := by
  refine (body.mono fun result later met => ?_).tryCatch
  cases result with
  | ok value => exact met
  | error error => exact handles error later

theorem upon_forget {program : DbM α} {known : α → Filed → Prop}
    (along : (filedMonitor call).Along (Upon known) program filed) :
    (filedMonitor call).Along (Upon fun _ _ => True) program filed := by
  refine along.mono ?_
  rintro (error | value) later -
  · exact trivial
  · exact trivial

/-- A part that needs nothing and teaches nothing. -/
theorem upon_seq {program : DbM α} {next : α → DbM β}
    (first : (filedMonitor call).Along (Upon fun _ _ => True) program filed)
    (second : ∀ value later, (filedMonitor call).Along (Upon goal) (next value) later) :
    (filedMonitor call).Along (Upon goal) (program >>= next) filed :=
  upon_bind first fun value later _ => second value later

theorem upon_map {program : DbM α} {wrap : α → β}
    (along : (filedMonitor call).Along (Upon fun _ _ => True) program filed) :
    (filedMonitor call).Along (Upon fun _ _ => True) (wrap <$> program) filed := by
  rw [map_eq_pure_bind]
  exact upon_seq along fun _ _ => .ret trivial

/-- `raise` under a condition. -/
theorem upon_guard {condition : Prop} [Decidable condition] {error : AppError} {rest : Unit → DbM β}
    (goesOn : ¬condition → (filedMonitor call).Along (Upon goal) (rest ()) filed) :
    (filedMonitor call).Along (Upon goal)
      (if condition then (throw error : DbM Unit) >>= rest else rest () : DbM β) filed := by
  split
  · exact .raise trivial
  · next passes => exact goesOn passes

/-! ## Statements that put no message into the queue -/

variable (apart : ∀ id, ¬call.Handles id)
include apart

theorem allows_mute {stmt : Stmt} (mute : stmt.Mute) : filed.allows call stmt := by
  refine ⟨.inr fun id member => ?_, fun id handles => absurd handles (apart id)⟩
  rw [mute] at member
  cases member

/-- While a function drafts, everything stays known. -/
theorem upon_drafts {program : DbM α} (only : program.Only Stmt.Drafts) :
    (filedMonitor call).Along (Upon fun _ later => filed.Grows later) program filed := by
  have along : (filedMonitor call).Along (fun _ later => filed.Grows later) program filed :=
    .of_only (.refl filed) (fun later stmt known drafts =>
      ⟨allows_mute apart drafts.1, fun answer =>
      known.trans (later.grows_learn answer drafts.2.1 drafts.2.2)⟩) only
  refine along.mono ?_
  rintro (error | value) later known
  · exact trivial
  · exact known

/-- A commit makes the new keys known. -/
theorem upon_commit {next : Unit → DbM β}
    (rest : (filedMonitor call).Along (Upon goal) (next ())
      ⟨[], filed.published ++ filed.unpublished⟩) :
    (filedMonitor call).Along (Upon goal) (commit >>= next) filed :=
  .call (allows_mute apart rfl) fun _ _ => rest

/-- What is drafted before the rest. -/
theorem upon_then {program : DbM α} {next : α → DbM β} (only : program.Only Stmt.Drafts)
    (rest : ∀ value later, filed.Grows later →
      (filedMonitor call).Along (Upon goal) (next value) later) :
    (filedMonitor call).Along (Upon goal) (program >>= next) filed :=
  upon_bind (upon_drafts apart only) rest

/-- One statement that is drafted before the rest. -/
theorem upon_issue {stmt : Stmt} {next : stmt.Answer → DbM β} (drafts : stmt.Drafts)
    (rest : ∀ answer later, filed.Grows later →
      (filedMonitor call).Along (Upon goal) (next answer) later) :
    (filedMonitor call).Along (Upon goal)
    ((Program.issue (S := Sql) stmt : DbM _) >>= next) filed :=
  upon_then apart (.issue drafts) rest

/-! ## Filing messages -/

theorem upon_addIntent (tenantId businessId : Nat) (bookingId : Option Nat)
    (purpose : NotificationPurpose) (recipientPhone body : String) (createdAt : Instant) :
    (filedMonitor call).Along (Upon fun id later => filed.Grows later ∧ id ∈ later.unpublished)
      (addIntent tenantId businessId bookingId purpose recipientPhone body createdAt) filed := by
  refine .call (allows_mute apart rfl) fun answer _ => ?_
  cases (answer : Except Constraint Nat) with
  | ok id =>
      refine .ret ⟨⟨List.subset_append_left _ _, List.Subset.refl _⟩, ?_⟩
      exact List.mem_append_right _ List.mem_cons_self
  | error constraint => exact .raise trivial

theorem upon_addOwnerIntent (booking : Booking) (business : Business)
    (purpose : NotificationPurpose)
    (body : String) (createdAt : Instant) :
    (filedMonitor call).Along (Upon fun ids later => filed.Grows later ∧ ids ⊆ later.unpublished)
      (addOwnerIntent booking business purpose body createdAt) filed := by
  unfold addOwnerIntent
  split
  · split
    · exact .ret ⟨.refl filed, List.nil_subset _⟩
    · refine upon_bind (upon_addIntent apart _ _ _ _ _ _ _) fun id later known => .ret ?_
      exact ⟨known.1, fun other member => List.mem_singleton.mp member ▸ known.2⟩
  · exact .ret ⟨.refl filed, List.nil_subset _⟩

omit apart in
/-- The message to the customer, and the one to the owner. -/
theorem upon_intents {first : DbM Nat} {owner : DbM (List Nat)} {before : Filed}
    (grown : filed.Grows before)
    (customer : ∀ now : Filed, (filedMonitor call).Along
      (Upon fun id later => now.Grows later ∧ id ∈ later.unpublished) first now)
    (owners : ∀ now : Filed, (filedMonitor call).Along
      (Upon fun ids later => now.Grows later ∧ ids ⊆ later.unpublished) owner now) :
    (filedMonitor call).Along (Upon fun ids later => filed.Grows later ∧ ids ⊆ later.unpublished)
      (do
        let id ← first
        let ids ← owner
        return id :: ids) before := by
  refine upon_bind (customer _) fun id middle ⟨grows, mine⟩ => ?_
  refine upon_bind (owners _) fun ids later ⟨further, theirs⟩ =>
    .ret ⟨(grown.trans grows).trans further, ?_⟩
  exact List.cons_subset.mpr ⟨further.unpublished mine, theirs⟩

theorem upon_enqueueBookingConfirmation (cfg : Settings) (booking : Booking) (business : Business)
    (customer : Customer) (service : Service) (createdAt : Instant) :
    (filedMonitor call).Along (Upon fun ids later => filed.Grows later ∧ ids ⊆ later.unpublished)
      (enqueueBookingConfirmation cfg booking business customer service createdAt) filed := by
  refine upon_then apart (Issues.formatLocalTime _ _ _) fun when s₁ g₁ => ?_
  refine upon_then apart
    (Issues.buildPublicManagementUrl Stmt.drafts_noting _ _) fun url s₂ g₂ => ?_
  exact upon_intents (g₁.trans g₂) (fun _ => upon_addIntent apart _ _ _ _ _ _ _)
    fun _ => upon_addOwnerIntent apart _ _ _ _ _

theorem upon_enqueueBookingCancellation (cfg : Settings) (booking : Booking) (business : Business)
    (customer : Customer) (service : Service) (createdAt : Instant) :
    (filedMonitor call).Along (Upon fun ids later => filed.Grows later ∧ ids ⊆ later.unpublished)
      (enqueueBookingCancellation cfg booking business customer service createdAt) filed := by
  refine upon_then apart (Issues.formatLocalTime _ _ _) fun when s₁ g₁ => ?_
  exact upon_intents g₁ (fun _ => upon_addIntent apart _ _ _ _ _ _ _)
    fun _ => upon_addOwnerIntent apart _ _ _ _ _

theorem upon_enqueueWaitlistOffer (entry : WaitlistEntry) (business : Business)
    (customer : Customer) (service : Service) (createdAt : Instant) :
    (filedMonitor call).Along (Upon fun id later => filed.Grows later ∧ id ∈ later.unpublished)
      (enqueueWaitlistOffer entry business customer service createdAt) filed :=
  upon_addIntent apart _ _ _ _ _ _ _

/-- Jobs of committed messages are pushed. -/
theorem upon_pushes {jobs : List QueuedJob}
    (known : ∀ job ∈ jobs, job.messages ⊆ filed.published) :
    (filedMonitor call).Along (Upon fun _ later => later = filed) (enqueueJobs jobs) filed := by
  induction jobs with
  | nil => exact .ret rfl
  | cons job jobs ih =>
      refine .call ⟨.inr fun id member => known job List.mem_cons_self member,
        fun _ handles => absurd handles (apart _)⟩ fun answer _ => ?_
      cases (answer : Bool) with
      | true => exact ih fun other member => known other (List.mem_cons_of_mem _ member)
      | false => exact .raise trivial

theorem upon_notify {ids : List Nat} (known : ids ⊆ filed.published) :
    (filedMonitor call).Along (Upon fun _ later => later = filed)
      (enqueueJobs (ids.map .sendNotification)) filed := by
  refine upon_pushes apart fun job member => ?_
  obtain ⟨id, mine, rfl⟩ := List.mem_map.mp member
  exact fun other same => List.mem_singleton.mp same ▸ known mine

/-! ## The booking service -/

/-- A violated constraint is raised again, whatever has been hoped for. -/
theorem upon_onIntegrityError (error : AppError) :
    (filedMonitor call).Along (Upon goal) (onIntegrityError error : DbM β) filed := by
  cases error with
  | integrity constraint =>
      refine .call (allows_mute apart rfl) fun _ _ => ?_
      change (filedMonitor call).Along _
        (if constraint = .noOverlappingStaffBookings then _ else _) _
      split
      · exact .raise trivial
      · exact .raise trivial
  | _ => exact .raise trivial

/-- The end of `create_booking`'s transaction makes its messages known. -/
theorem upon_tryCommit {ids : List Nat} (mine : ids ⊆ filed.unpublished) (booking : Booking)
    (business : Business) (createdAt : Instant) :
    (filedMonitor call).Along (Upon fun _ later => ids ⊆ later.published)
      (MonadExcept.tryCatch
        (do
          let eventId ← enqueueCalendarEvent booking business createdAt
          commit
          return eventId)
        onIntegrityError) filed := by
  refine upon_try ?_ fun error later => upon_onIntegrityError apart error
  refine upon_then apart (Stmt.drafts_enqueueCalendarEvent _ _ _) fun eventId later grows => ?_
  refine upon_commit apart (.ret ?_)
  exact List.Subset.trans mine (List.Subset.trans grows.unpublished (List.subset_append_right _ _))

theorem upon_createBooking (cfg : Settings) (args : CreateBooking) :
    (filedMonitor call).Along (Upon fun _ _ => True) (createBooking cfg args) filed := by
  have noting := Stmt.drafts_noting
  unfold createBooking
  refine upon_guard fun _ => ?_
  refine upon_then apart (Issues.now noting) fun startedAt s₁ _ => ?_
  refine upon_then apart (Issues.requireBusiness noting _ _) fun business s₂ _ => ?_
  refine upon_then apart (Issues.requireCustomerInBusiness noting _ _ _) fun customer s₃ _ => ?_
  refine upon_then apart (Issues.requireServiceInBusiness noting _ _ _) fun svc s₄ _ => ?_
  refine upon_then apart (Issues.requireStaffIfGiven noting _ _ _) fun _ s₅ _ => ?_
  refine upon_then apart (Issues.orOverflow _) fun _ _ _ => ?_
  refine upon_then apart (Issues.checkDoubleBooking noting _ _ _ _ _) fun _ s₆ _ => ?_
  refine upon_then apart (Issues.insert ⟨rfl, nofun, nofun⟩) fun bookingId s₇ _ => ?_
  refine upon_then apart (Issues.createAuditLog noting _ _ _ _ _) fun _ s₈ _ => ?_
  refine upon_bind (upon_enqueueBookingConfirmation apart _ _ _ _ _ _) fun ids s₉ ⟨_, mine⟩ => ?_
  refine upon_bind (upon_tryCommit apart mine _ _ _) fun eventId s₁₀ known => ?_
  refine upon_then apart (Issues.refreshBooking noting _) fun booking s₁₁ grows => ?_
  refine upon_bind
    (upon_notify apart (List.Subset.trans known grows.published)) fun _ s₁₂ same => ?_
  exact upon_then apart (Issues.enqueueJob ⟨rfl, nofun, nofun⟩) fun _ _ _ => .ret trivial

theorem upon_createPendingPaymentHold (args : CreatePendingPaymentHold) :
    (filedMonitor call).Along (Upon fun _ _ => True) (createPendingPaymentHold args) filed := by
  have noting := Stmt.drafts_noting
  unfold createPendingPaymentHold
  refine upon_then apart (Issues.now noting) fun startedAt s₁ _ => ?_
  refine upon_then apart (Issues.requireBusiness noting _ _) fun _ s₂ _ => ?_
  refine upon_then apart (Issues.requireCustomerInBusiness noting _ _ _) fun _ s₃ _ => ?_
  refine upon_then apart (Issues.requireServiceInBusiness noting _ _ _) fun svc s₄ _ => ?_
  split
  · refine upon_then apart (Issues.requireStaffIfGiven noting _ _ _) fun _ s₅ _ => ?_
    refine upon_then apart (Issues.orOverflow _) fun endsAt s _ => ?_
    refine upon_then apart (Issues.checkDoubleBooking noting _ _ _ _ _) fun _ s₆ _ => ?_
    refine upon_seq (upon_try ?_ fun error later => upon_onIntegrityError apart error)
      fun bookingId s₇ => ?_
    · refine upon_then apart (Issues.insert ⟨rfl, nofun, nofun⟩) fun bookingId s₇ _ => ?_
      refine upon_then apart (Issues.insert ⟨rfl, nofun, nofun⟩) fun _ s₈ _ => ?_
      refine upon_then apart (Issues.createAuditLog noting _ _ _ _ _) fun _ s₉ _ => ?_
      exact upon_commit apart (.ret trivial)
    · exact upon_forget (upon_drafts apart (Issues.refreshBooking noting _))
  · exact .raise trivial

theorem upon_confirmBookingPayment (cfg : Settings) (args : ConfirmBookingPayment) :
    (filedMonitor call).Along (Upon fun _ _ => True) (confirmBookingPayment cfg args) filed := by
  have noting := Stmt.drafts_noting
  unfold confirmBookingPayment
  refine upon_then apart
    (Stmt.drafts_requireBookingInBusinessForUpdate _ _ _) fun booking s₁ _ => ?_
  cases booking.status with
  | confirmed =>
      refine upon_then apart (Issues.select noting _) fun payment s₂ _ => ?_
      cases payment with
      | none => exact .raise trivial
      | some payment =>
          dsimp only
          split
          · exact .ret trivial
          · exact .raise trivial
  | cancelled => exact .raise trivial
  | pendingPayment =>
      refine upon_then apart (Issues.select noting _) fun found s₂ _ => ?_
      refine upon_then apart (Issues.orRaise _ _) fun payment s₃ _ => ?_
      refine upon_guard fun _ => ?_
      refine upon_then apart (Issues.now noting) fun paidAt s₄ _ => ?_
      refine upon_issue apart ⟨rfl, nofun, nofun⟩ fun _ s₅ _ => ?_
      refine upon_issue apart ⟨rfl, nofun, nofun⟩ fun _ s₆ _ => ?_
      refine upon_then apart (Issues.createAuditLog noting _ _ _ _ _) fun _ s₇ _ => ?_
      refine upon_then apart (Issues.requireBusiness noting _ _) fun business s₈ _ => ?_
      refine upon_then apart (Issues.requireCustomerInBusiness noting _ _ _) fun customer s₉ _ => ?_
      refine upon_then apart (Issues.requireServiceInBusiness noting _ _ _) fun svc s₁₀ _ => ?_
      refine upon_bind
        (upon_enqueueBookingConfirmation apart _ _ _ _ _ _) fun ids s₁₁ ⟨_, mine⟩ => ?_
      refine upon_then apart (Stmt.drafts_enqueueCalendarEvent _ _ _) fun eventId s₁₂ grows => ?_
      refine upon_commit apart ?_
      have known : ids ⊆ s₁₂.published ++ s₁₂.unpublished :=
        List.Subset.trans mine (List.Subset.trans grows.unpublished (List.subset_append_right _ _))
      refine upon_then apart (Issues.refreshBooking noting _) fun booking s₁₃ grows => ?_
      refine upon_bind
        (upon_notify apart (List.Subset.trans known grows.published)) fun _ s₁₄ _ => ?_
      exact upon_then apart (Issues.enqueueJob ⟨rfl, nofun, nofun⟩) fun _ _ _ => .ret trivial

/-- The offer itself, after what has been drafted for it. -/
theorem upon_offered {before : Filed} (grown : filed.Grows before) (entry : WaitlistEntry)
    (business : Business) (customer : Customer) (service : Service) (createdAt : Instant) :
    (filedMonitor call).Along (Upon fun ids later => filed.Grows later ∧ ids ⊆ later.unpublished)
      (do
        let offerId ← enqueueWaitlistOffer entry business customer service createdAt
        return [offerId]) before := by
  refine upon_bind (upon_enqueueWaitlistOffer apart _ _ _ _ _) fun id later ⟨grows, mine⟩ => .ret ?_
  exact ⟨grown.trans grows, fun other member => List.mem_singleton.mp member ▸ mine⟩

theorem upon_expirePendingPaymentHold (args : BookingRef) :
    (filedMonitor call).Along (Upon fun _ _ => True) (expirePendingPaymentHold args) filed := by
  have noting := Stmt.drafts_noting
  unfold expirePendingPaymentHold
  refine upon_then apart (Issues.now noting) fun startedAt s₁ _ => ?_
  refine upon_then apart
    (Stmt.drafts_requireBookingInBusinessForUpdate _ _ _) fun booking s₂ _ => ?_
  refine upon_guard fun _ => ?_
  refine upon_issue apart ⟨rfl, nofun, nofun⟩ fun _ s₃ _ => ?_
  refine upon_then apart (Stmt.drafts_failLinkedPendingPayment _ _) fun _ s₄ _ => ?_
  refine upon_then apart (Issues.createAuditLog noting _ _ _ _ _) fun _ s₅ _ => ?_
  refine upon_issue apart ⟨rfl, nofun, nofun⟩ fun matching s₆ _ => ?_
  refine upon_bind ?_ fun offerIds s₇ (offered : s₆.Grows s₇ ∧ offerIds ⊆ s₇.unpublished) => ?_
  · cases matching with
    | nil => exact .ret ⟨.refl s₆, List.nil_subset _⟩
    | cons entry rest =>
        refine upon_issue apart ⟨rfl, nofun, nofun⟩ fun _ t₁ g₁ => ?_
        refine upon_then apart (Issues.requireBusiness noting _ _) fun business t₂ g₂ => ?_
        refine upon_then apart
          (Issues.requireServiceInBusiness noting _ _ _) fun service t₃ g₃ => ?_
        refine upon_then apart
          (Issues.requireCustomerInBusiness noting _ _ _) fun customer t₄ g₄ => ?_
        exact upon_offered apart (((g₁.trans g₂).trans g₃).trans g₄) _ _ _ _ _
  refine upon_commit apart ?_
  have known : offerIds ⊆ s₇.published ++ s₇.unpublished :=
    List.Subset.trans offered.2 (List.subset_append_right _ _)
  refine upon_then apart (Issues.refreshBooking noting _) fun booking s₈ grows => ?_
  exact upon_bind (upon_notify apart (List.Subset.trans known grows.published))
    fun _ _ _ => .ret trivial

theorem upon_expireEach (bookings : List Booking) :
    (filedMonitor call).Along (Upon fun _ _ => True) (expireEach bookings) filed := by
  induction bookings generalizing filed with
  | nil => exact .ret trivial
  | cons booking rest ih =>
      refine upon_seq (upon_try (upon_seq (upon_expirePendingPaymentHold apart _)
        fun _ _ => .ret trivial) fun error later => ?_) fun expired later =>
          upon_seq ih fun _ _ => .ret trivial
      cases error with
      | conflict message => exact .call (allows_mute apart rfl) fun _ _ => .ret trivial
      | _ => exact .raise trivial

theorem upon_refundBookingPayment (args : RefundBookingPayment) :
    (filedMonitor call).Along (Upon fun _ _ => True) (refundBookingPayment args) filed := by
  have noting := Stmt.drafts_noting
  unfold refundBookingPayment
  refine upon_then apart (Issues.requireBookingInBusiness noting _ _ _) fun booking s₁ _ => ?_
  refine upon_then apart (Issues.select noting _) fun found s₂ _ => ?_
  refine upon_then apart (Issues.orRaise _ _) fun payment s₃ _ => ?_
  refine upon_guard fun _ => ?_
  refine upon_then apart (Issues.now noting) fun refundedAt s₄ _ => ?_
  refine upon_issue apart ⟨rfl, nofun, nofun⟩ fun _ s₅ _ => ?_
  refine upon_then apart (Issues.createAuditLog noting _ _ _ _ _) fun _ s₆ _ => ?_
  refine upon_commit apart ?_
  exact upon_forget (upon_drafts apart (Issues.refreshPayment noting _))

theorem upon_cancelBooking (cfg : Settings) (args : CancelBooking) :
    (filedMonitor call).Along (Upon fun _ _ => True) (cancelBooking cfg args) filed := by
  have noting := Stmt.drafts_noting
  unfold cancelBooking
  refine upon_guard fun _ => ?_
  refine upon_then apart (Issues.now noting) fun startedAt s₁ _ => ?_
  refine upon_then apart
    (Stmt.drafts_requireBookingInBusinessForUpdate _ _ _) fun booking s₂ _ => ?_
  refine upon_guard fun _ => ?_
  refine upon_issue apart ⟨rfl, nofun, nofun⟩ fun _ s₃ _ => ?_
  refine upon_then apart (Stmt.drafts_failLinkedPendingPayment _ _) fun _ s₄ _ => ?_
  refine upon_then apart (Issues.createAuditLog noting _ _ _ _ _) fun _ s₅ _ => ?_
  refine upon_then apart (Issues.requireBusiness noting _ _) fun business s₆ _ => ?_
  refine upon_then apart (Issues.requireCustomerInBusiness noting _ _ _) fun customer s₇ _ => ?_
  refine upon_then apart (Issues.requireServiceInBusiness noting _ _ _) fun service s₈ _ => ?_
  refine upon_bind (upon_enqueueBookingCancellation apart _ _ _ _ _ _)
    fun intentIds s₉ ⟨_, intents⟩ => ?_
  refine upon_issue apart ⟨rfl, nofun, nofun⟩ fun matching s₁₀ g₁₀ => ?_
  refine upon_bind ?_ fun offerIds s₁₁ (offered : s₁₀.Grows s₁₁ ∧ offerIds ⊆ s₁₁.unpublished) => ?_
  · cases matching with
    | nil => exact .ret ⟨.refl s₁₀, List.nil_subset _⟩
    | cons entry rest =>
        refine upon_issue apart ⟨rfl, nofun, nofun⟩ fun _ t₁ g₁ => ?_
        refine upon_then apart
          (Issues.requireCustomerInBusiness noting _ _ _) fun customer t₂ g₂ => ?_
        exact upon_offered apart (g₁.trans g₂) _ _ _ _ _
  obtain ⟨g₁₁, offers⟩ := offered
  refine upon_then apart (Issues.select noting _) fun event s₁₂ g₁₂ => ?_
  refine upon_commit apart ?_
  have knownIntents : intentIds ⊆ s₁₂.published ++ s₁₂.unpublished :=
    List.Subset.trans intents (List.Subset.trans ((g₁₀.trans g₁₁).trans g₁₂).unpublished
      (List.subset_append_right _ _))
  have knownOffers : offerIds ⊆ s₁₂.published ++ s₁₂.unpublished :=
    List.Subset.trans offers (List.Subset.trans g₁₂.unpublished (List.subset_append_right _ _))
  refine upon_then apart (Issues.refreshBooking noting _) fun booking s₁₃ g₁₃ => ?_
  refine upon_bind (upon_notify apart (List.Subset.trans knownIntents g₁₃.published))
    fun _ s₁₄ same => ?_
  subst same
  refine upon_bind (upon_notify apart (List.Subset.trans knownOffers g₁₃.published))
    fun _ s₁₅ _ => ?_
  refine upon_then apart (Issues.enqueueJobs fun job member => ?_) fun _ _ _ => .ret trivial
  obtain ⟨event, -, rfl⟩ := List.mem_map.mp member
  exact ⟨rfl, nofun, nofun⟩

theorem upon_rescheduleBooking (cfg : Settings) (args : RescheduleBooking) :
    (filedMonitor call).Along (Upon fun _ _ => True) (rescheduleBooking cfg args) filed := by
  have noting := Stmt.drafts_noting
  unfold rescheduleBooking
  refine upon_then apart (Issues.requireBookingInBusiness noting _ _ _) fun found s₁ _ => ?_
  refine upon_guard fun _ => ?_
  refine upon_seq (upon_cancelBooking apart _ _) fun old s₂ => ?_
  refine upon_seq (upon_createBooking apart _ _) fun new s₃ => ?_
  refine upon_then apart (Issues.createAuditLog noting _ _ _ _ _) fun _ s₄ _ => ?_
  exact upon_commit apart (.ret trivial)

theorem upon_createWaitlistEntry (args : CreateWaitlistEntry) :
    (filedMonitor call).Along (Upon fun _ _ => True) (createWaitlistEntry args) filed := by
  have noting := Stmt.drafts_noting
  unfold createWaitlistEntry
  refine upon_then apart (Issues.now noting) fun startedAt s₁ _ => ?_
  refine upon_then apart (Issues.requireBusiness noting _ _) fun _ s₂ _ => ?_
  refine upon_then apart (Issues.requireCustomerInBusiness noting _ _ _) fun _ s₃ _ => ?_
  refine upon_then apart (Issues.requireServiceInBusiness noting _ _ _) fun _ s₄ _ => ?_
  refine upon_then apart (Issues.requireStaffIfGiven noting _ _ _) fun _ s₅ _ => ?_
  refine upon_then apart (Issues.insert ⟨rfl, nofun, nofun⟩) fun entryId s₆ _ => ?_
  refine upon_commit apart ?_
  refine upon_then apart (Issues.select noting _) fun row s₇ _ => ?_
  exact upon_forget (upon_drafts apart (Issues.orRaise _ _))

theorem upon_escalateToNextWaitingEntry (startedAt : Instant) (expired : WaitlistEntry) :
    (filedMonitor call).Along (Upon fun ids later => filed.Grows later ∧ ids ⊆ later.unpublished)
      (escalateToNextWaitingEntry startedAt expired) filed := by
  have noting := Stmt.drafts_noting
  unfold escalateToNextWaitingEntry
  refine upon_issue apart ⟨rfl, nofun, nofun⟩ fun candidates s₁ g₁ => ?_
  cases candidates with
  | nil => exact .ret ⟨g₁, List.nil_subset _⟩
  | cons next rest =>
      refine upon_issue apart ⟨rfl, nofun, nofun⟩ fun _ s₂ g₂ => ?_
      refine upon_then apart (Issues.requireBusiness noting _ _) fun business s₃ g₃ => ?_
      refine upon_then apart
        (Issues.requireCustomerInBusiness noting _ _ _) fun customer s₄ g₄ => ?_
      refine upon_then apart (Issues.requireServiceInBusiness noting _ _ _) fun service s₅ g₅ => ?_
      exact upon_offered apart ((((g₁.trans g₂).trans g₃).trans g₄).trans g₅) _ _ _ _ _

/-- Every round adds to the messages that the sweep is going to push. -/
theorem upon_expireOffers (startedAt : Instant) (entries : List WaitlistEntry) :
    (filedMonitor call).Along (Upon fun ids later => filed.Grows later ∧ ids ⊆ later.unpublished)
      (expireOffers startedAt entries) filed := by
  induction entries generalizing filed with
  | nil => exact .ret ⟨.refl filed, List.nil_subset _⟩
  | cons entry rest ih =>
      refine upon_issue apart ⟨rfl, nofun, nofun⟩ fun _ s₁ g₁ => ?_
      refine upon_bind (upon_escalateToNextWaitingEntry apart _ _) fun first s₂ ⟨g₂, mine⟩ => ?_
      refine upon_bind ih fun others s₃ ⟨g₃, theirs⟩ => .ret ⟨(g₁.trans g₂).trans g₃, ?_⟩
      exact List.append_subset.mpr ⟨List.Subset.trans mine g₃.unpublished, theirs⟩

theorem upon_expireStaleWaitlistOffers (cfg : Settings) :
    (filedMonitor call).Along (Upon fun _ _ => True) (expireStaleWaitlistOffers cfg) filed := by
  refine upon_then apart (Issues.now Stmt.drafts_noting) fun startedAt s₁ _ => ?_
  refine upon_issue apart ⟨rfl, nofun, nofun⟩ fun stale s₂ _ => ?_
  split
  · exact .ret trivial
  · refine upon_bind (upon_expireOffers apart _ _) fun offerIds s₃ ⟨_, mine⟩ => ?_
    refine upon_commit apart ?_
    exact upon_bind (upon_notify apart (List.Subset.trans mine (List.subset_append_right _ _)))
      fun _ _ _ => .ret trivial

theorem upon_handlePress1External (session : VoiceSession) (business : Business)
    (startedAt : Instant) :
    (filedMonitor call).Along (Upon fun _ _ => True)
      (handlePress1External session business startedAt) filed := by
  refine upon_bind (upon_addIntent apart _ _ _ _ _ _ _) fun intentId s₁ ⟨_, mine⟩ => ?_
  refine upon_issue apart ⟨rfl, nofun, nofun⟩ fun _ s₂ grows => ?_
  refine upon_commit apart ?_
  refine .call ⟨.inr fun id member => ?_, fun _ handles => absurd handles (apart _)⟩
    fun answer _ => ?_
  · rw [List.mem_singleton.mp member]
    exact List.mem_append_right _ (grows.unpublished mine)
  · cases (answer : Bool) with
    | true => exact .ret trivial
    | false => exact .raise trivial

/-! ## Sweeps -/

/-- The rows of a sweep are marked after its jobs have been pushed. -/
theorem upon_requeue {jobs : List QueuedJob} {marks : List Write}
    (pushes : (filedMonitor call).Along (Upon fun _ _ => True) (enqueueJobs jobs) filed) :
    (filedMonitor call).Along (Upon fun _ _ => True) (requeue jobs marks) filed := by
  have updates : ∀ writes : List Write, (updateAll writes).Only Stmt.Drafts := by
    intro writes
    induction writes with
    | nil => exact .ret ()
    | cons write writes ih => exact .bind (.issue ⟨rfl, nofun, nofun⟩) fun _ => ih
  refine upon_seq pushes fun _ s₁ => ?_
  split
  · exact .ret trivial
  · exact upon_then apart (updates marks) fun _ s₂ _ => upon_commit apart (.ret trivial)

theorem upon_reconcileStaleNotifications (cfg : Settings) (nothing : filed.unpublished = []) :
    (filedMonitor call).Along (Upon fun _ _ => True) (reconcileStaleNotifications cfg) filed := by
  refine .call (allows_mute apart rfl) fun time _ => .call (allows_mute apart rfl) fun stale _ => ?_
  refine upon_requeue apart ?_
  refine upon_forget (upon_pushes apart fun job member => ?_)
  obtain ⟨intent, read, rfl⟩ := List.mem_map.mp member
  change [intent.id] ⊆ (if filed.unpublished = [] then _ else _ : Filed).published
  rw [if_pos nothing]
  exact List.cons_subset.mpr ⟨List.mem_append_right _ (List.mem_map_of_mem read), List.nil_subset _⟩

theorem upon_reconcileStaleCalendarEvents (cfg : Settings) :
    (filedMonitor call).Along (Upon fun _ _ => True) (reconcileStaleCalendarEvents cfg) filed := by
  refine upon_then apart (Issues.now Stmt.drafts_noting) fun time s₁ _ => ?_
  refine upon_then apart (Issues.select Stmt.drafts_noting _) fun stale s₂ _ => ?_
  refine upon_requeue apart
    (upon_forget (upon_drafts apart (Issues.enqueueJobs fun job member => ?_)))
  obtain ⟨event, -, rfl⟩ := List.mem_map.mp member
  exact ⟨rfl, nofun, nofun⟩

end Rules

/-! ## Workers -/

section Workers

variable {call : OutboxCall} {filed : Filed}

/-- Statements that are allowed whatever has been learnt. -/
theorem upon_keeps {α : Type} {program : DbM α} {kind : Stmt → Prop}
    (allowed : ∀ later stmt, filed.Keeps later → kind stmt → later.allows call stmt)
    (only : program.Only kind) :
    (filedMonitor call).Along (Upon fun _ _ => True) program filed := by
  have along : (filedMonitor call).Along (fun _ later => filed.Keeps later) program filed :=
    .of_only (List.Subset.refl _) (fun later stmt keeps fits => ⟨allowed later stmt keeps fits,
      fun answer => List.Subset.trans keeps (later.published_learn _)⟩) only
  refine along.mono ?_
  rintro (error | value) later -
  · exact trivial
  · exact trivial

/-- Nothing is asked of the pushes of the reminders. -/
theorem upon_enqueueDueReminders (cfg : Settings) (reminds : call.Reminds) :
    (filedMonitor call).Along (Upon fun _ _ => True) (enqueueDueReminders cfg) filed := by
  have apart : ∀ id, ¬call.Handles id := by
    rintro id ⟨attempts, same⟩
    rw [reminds] at same
    cases same
  have serving : Stmt.Serving fun stmt => (∃ job, stmt = .push job) ∨ stmt.Mute :=
    { select := fun _ => .inr rfl, now := .inr rfl, commit := .inr rfl, rollback := .inr rfl
      dequeue := fun _ => .inr rfl, push := fun job _ => .inl ⟨job, rfl⟩ }
  have only := Serves.enqueueDueReminders serving (fun row _ => .inr rfl) cfg
  refine upon_keeps (fun later stmt _ either => ?_) only
  rcases either with pushes | mute
  · exact ⟨.inl ⟨reminds, pushes⟩, fun id handles => absurd handles (apart id)⟩
  · exact allows_mute apart mute

/-- A worker that has taken the job of a committed message puts no other message into the
queue. -/
theorem upon_minds {α : Type} {program : DbM α} {entry : QueueEntry}
    (own : ∀ id, call.Handles id → id ∈ entry.job.messages)
    (known : entry.job.messages ⊆ filed.published) (only : program.Only (Stmt.Minds entry)) :
    (filedMonitor call).Along (Upon fun _ _ => True) program filed := by
  refine upon_keeps (fun later stmt keeps minds => ⟨?_, ?_⟩) only
  · exact .inr fun id member => keeps (known (minds member))
  · exact fun id handles _ => keeps (known (own id handles))

/-- What a worker does with an entry that it takes. -/
theorem upon_taking {entry : QueueEntry} {handling : DbM Nat}
    (own : ∀ id, call.Handles id → id ∈ entry.job.messages)
    (only : handling.Only (Stmt.Minds entry)) :
    (filedMonitor call).Along (Upon fun _ _ => True)
      (do
        let taken : Bool ← ask (.dequeue entry)
        if taken then handling else return 0) filed := by
  refine .call ⟨.inr fun id => nofun, fun id handles => nofun⟩ fun taken _ => ?_
  cases (taken : Bool) with
  | false => exact .ret trivial
  | true => exact upon_minds own (List.subset_append_right _ _) only

theorem upon_processJob (cfg : Settings) (entry : QueueEntry)
    (own : ∀ id, call.Handles id → id ∈ entry.job.messages) :
    (filedMonitor call).Along (Upon fun _ _ => True) (processJob cfg entry) filed := by
  have attending := Stmt.minds_attending entry
  refine upon_taking own (Serves.handled attending (Stmt.minds_settling entry) ?_)
  have marked : ∀ write, Stmt.Minds entry (.update write) := fun _ => List.nil_subset _
  cases entry.job with
  | sendNotification id =>
      exact Serves.sendNotificationInWorker attending (fun _ _ => marked _)
        (fun _ _ => List.nil_subset _) id
  | syncCalendarEvent id =>
      exact Serves.syncCalendarEventInWorker attending (fun _ _ => marked _)
        (fun _ _ => List.nil_subset _) cfg id
  | cancelCalendarEvent id =>
      exact Serves.cancelCalendarEventInWorker attending (fun _ _ => marked _)
        (fun _ => List.nil_subset _) cfg id

theorem upon_failJob (cfg : Settings) (entry : QueueEntry) (error : AppError)
    (own : ∀ id, call.Handles id → id ∈ entry.job.messages) :
    (filedMonitor call).Along (Upon fun _ _ => True) (failJob cfg entry error) filed :=
  upon_taking own (.bind (.issue (Stmt.minds_attending entry).rollback) fun _ =>
    .bind (Serves.settleJob cfg (Stmt.minds_settling entry) _) fun _ => .ret _)

end Workers

/-! ## Calls -/

/-- **Every call pushes only the jobs of committed messages**, the reminders apart. -/
theorem filed_perform (cfg : Settings) (call : OutboxCall) :
    (filedWatch.monitor call).Along (filedWatch.post call) (call.perform cfg)
      (filedWatch.initial call) := by
  suffices upon : (filedMonitor call).Along (Upon fun _ _ => True) (call.perform cfg) ⟨[], []⟩ from
    upon.mono fun _ _ _ => trivial
  cases call with
  | handlePress1External session business startedAt =>
      exact upon_map (upon_handlePress1External (fun id ⟨_, same⟩ => nomatch same) _ _ _)
  | failJob entry error => exact upon_map (upon_failJob _ _ _ fun id ⟨_, same⟩ => nomatch same)
  | salon call =>
      refine upon_map ?_
      cases call with
      | work task =>
          refine upon_map ?_
          cases task with
          | processJob entry =>
              refine upon_processJob cfg entry fun id ⟨attempts, same⟩ => ?_
              cases same
              exact List.mem_cons_self
          | reconcileStaleNotifications =>
              exact upon_reconcileStaleNotifications (fun id ⟨_, same⟩ => nomatch same) cfg rfl
          | reconcileStaleCalendarEvents =>
              exact upon_reconcileStaleCalendarEvents (fun id ⟨_, same⟩ => nomatch same) cfg
          | enqueueDueReminders => exact upon_enqueueDueReminders cfg rfl
      | createBooking args =>
          exact upon_map (upon_createBooking (fun id ⟨_, same⟩ => nomatch same) cfg args)
      | createPendingPaymentHold args =>
          exact upon_map (upon_createPendingPaymentHold (fun id ⟨_, same⟩ => nomatch same) args)
      | confirmBookingPayment args =>
          exact upon_map (upon_confirmBookingPayment (fun id ⟨_, same⟩ => nomatch same) cfg args)
      | expirePendingPaymentHold args =>
          exact upon_map (upon_expirePendingPaymentHold (fun id ⟨_, same⟩ => nomatch same) args)
      | expireStalePaymentHolds =>
          have apart : ∀ id, ¬OutboxCall.Handles (.salon .expireStalePaymentHolds) id :=
            fun id ⟨_, same⟩ => nomatch same
          refine upon_map (upon_then apart (Issues.now Stmt.drafts_noting) fun time s₁ _ => ?_)
          exact upon_then apart (Issues.select Stmt.drafts_noting _) fun stale s₂ _ =>
            upon_expireEach apart stale
      | refundBookingPayment args =>
          exact upon_map (upon_refundBookingPayment (fun id ⟨_, same⟩ => nomatch same) args)
      | cancelBooking args =>
          exact upon_map (upon_cancelBooking (fun id ⟨_, same⟩ => nomatch same) cfg args)
      | rescheduleBooking args =>
          exact upon_map (upon_rescheduleBooking (fun id ⟨_, same⟩ => nomatch same) cfg args)
      | createWaitlistEntry args =>
          exact upon_map (upon_createWaitlistEntry (fun id ⟨_, same⟩ => nomatch same) args)
      | expireStaleWaitlistOffers =>
          exact upon_map (upon_expireStaleWaitlistOffers (fun id ⟨_, same⟩ => nomatch same) cfg)

end AppointmentVoice
