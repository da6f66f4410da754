import AppointmentVoice.Database.Consistency

/-!
# What a statement can do

One statement of a session either leaves the rows as they are, adds one
uncommitted write, commits all of them or drops them.  This is said once, for
every statement, so that an invariant of the rows is shown by going through these
four cases and not through the statements.

**One statement.** `execStmt_effect` gives the four cases, and `execStmt_ownOnly` what a
statement other than a commit leaves alone.
-/

set_option autoImplicit false

namespace AppointmentVoice

open Concurrency World

variable {Call : Type}

/-- The statement, with its answer, writes nothing and ends nothing. -/
def writesNothing : Event Sql → Bool
  | ⟨.insert _, answer⟩ =>
      match (answer : Except Constraint Nat) with
      | .ok _ => false
      | .error _ => true
  | ⟨.update _, _⟩ => false
  | ⟨.commit, _⟩ => false
  | ⟨.rollback, _⟩ => false
  | _ => true

/-- The effect of a statement with its answer on the committed and the uncommitted
rows. -/
inductive Effect (pid : Pid) (call : Call) (before after : World Call) : Event Sql → Prop where
  | quiet {event : Event Sql} (nothing : writesNothing event = true) (db : after.db = before.db)
      (pending : after.pending = before.pending) (journal : after.journal = before.journal) :
      Effect pid call before after event
  | inserted {draft : Nat → Write} (db : after.db = before.db)
      (pending : after.pending = before.pending ++ [(pid, draft before.nextId)])
      (journal : after.journal = before.journal) :
      Effect pid call before after ⟨.insert draft, (.ok before.nextId : Except Constraint Nat)⟩
  | updated {write : Write} (db : after.db = before.db)
      (pending : after.pending = before.pending ++ [(pid, write)])
      (journal : after.journal = before.journal) :
      Effect pid call before after ⟨.update write, ()⟩
  | committed (world : after = before.committed pid call) :
      Effect pid call before after ⟨.commit, ()⟩
  | rolledBack (world : after = before.release pid) : Effect pid call before after ⟨.rollback, ()⟩

theorem execStmt_effect {pid : Pid} {call : Call} {stmt : Stmt} {before after : World Call}
    {answer : stmt.Answer} (executed : execStmt pid call stmt before = some (answer, after)) :
    Effect pid call before after ⟨stmt, answer⟩ := by
  cases stmt with
  | select query =>
      cases executed
      exact .quiet rfl rfl rfl rfl
  | selectBookingForUpdate id tenantId =>
      simp only [execStmt] at executed
      split at executed
      · cases executed
        exact .quiet rfl rfl rfl rfl
      · split at executed
        · cases executed
        · cases executed
          exact .quiet rfl (acquire_db ..) (acquire_pending ..) (acquire_journal ..)
  | selectWaitlistForUpdateSkipLocked filter =>
      simp only [execStmt] at executed
      split at executed
      · cases executed
        exact .quiet rfl rfl rfl rfl
      · cases executed
        exact .quiet rfl (acquire_db ..) (acquire_pending ..) (acquire_journal ..)
  | selectStaleOffersForUpdateSkipLocked threshold =>
      cases executed
      obtain ⟨db, pending, journal, -⟩ := acquireAll_fields before pid
        (((before.view pid).waitlistEntries.filter fun entry => staleOffer threshold entry &&
          !before.lockedByOther pid (.waitlistEntry entry.id)).map fun entry =>
            .waitlistEntry entry.id)
      exact .quiet rfl db pending journal
  | insert draft =>
      simp only [execStmt] at executed
      split at executed
      · cases executed
      · split at executed
        · cases executed
          exact .quiet rfl rfl rfl rfl
        · cases executed
          exact .inserted rfl rfl rfl
  | update write =>
      simp only [execStmt] at executed
      split at executed
      · cases executed
        exact .updated rfl rfl rfl
      · split at executed
        · cases executed
        · cases executed
          refine .updated (acquire_db ..) ?_ (acquire_journal ..)
          change (before.acquire pid _).pending ++ _ = _
          rw [acquire_pending]
  | commit =>
      cases executed
      exact .committed rfl
  | rollback =>
      cases executed
      exact .rolledBack rfl
  | now =>
      cases executed
      exact .quiet rfl rfl rfl rfl
  | push job =>
      simp only [execStmt] at executed
      split at executed
      · cases executed
        exact .quiet rfl rfl rfl rfl
      · cases executed
        exact .quiet rfl rfl rfl rfl
  | ask request =>
      cases executed
      exact .quiet rfl rfl rfl rfl

/-! ## Outside -/

/-- What a statement does outside the database. -/
inductive Reaches (before after : World Call) : Event Sql → Prop where
  | nothing {event : Event Sql} (same : after.outside = before.outside) :
      Reaches before after event
  | pushed {job : QueuedJob} (grows : after.outside = before.outside.enqueue job) :
      Reaches before after ⟨.push job, (true : Bool)⟩
  | asked {request : Request} (asks : after.outside = (before.outside.ask request).2) :
      Reaches before after ⟨.ask request, (before.outside.ask request).1⟩

theorem execStmt_reaches {pid : Pid} {call : Call} {stmt : Stmt} {before after : World Call}
    {answer : stmt.Answer} (executed : execStmt pid call stmt before = some (answer, after)) :
    Reaches before after ⟨stmt, answer⟩ := by
  cases stmt with
  | select query =>
      cases executed
      exact .nothing rfl
  | selectBookingForUpdate id tenantId =>
      simp only [execStmt] at executed
      split at executed
      · cases executed
        exact .nothing rfl
      · split at executed
        · cases executed
        · cases executed
          exact .nothing (acquire_outside ..)
  | selectWaitlistForUpdateSkipLocked filter =>
      simp only [execStmt] at executed
      split at executed
      · cases executed
        exact .nothing rfl
      · cases executed
        exact .nothing (acquire_outside ..)
  | selectStaleOffersForUpdateSkipLocked threshold =>
      cases executed
      exact .nothing (acquireAll_outside ..)
  | insert draft =>
      simp only [execStmt] at executed
      split at executed
      · cases executed
      · split at executed
        · cases executed
          exact .nothing rfl
        · cases executed
          exact .nothing rfl
  | update write =>
      simp only [execStmt] at executed
      split at executed
      · cases executed
        exact .nothing rfl
      · split at executed
        · cases executed
        · cases executed
          exact .nothing (acquire_outside ..)
  | commit =>
      cases executed
      exact .nothing rfl
  | rollback =>
      cases executed
      exact .nothing rfl
  | now =>
      cases executed
      exact .nothing rfl
  | push job =>
      simp only [execStmt] at executed
      split at executed
      · cases executed
        exact .pushed rfl
      · cases executed
        exact .nothing rfl
  | ask request =>
      cases executed
      exact .asked rfl

/-- The message is accepted, if the provider says so. -/
def Outside.acceptedBy (outside : Outside) (id : Nat) : Option SmsSendResult → List Nat
  | some result => if result.success then outside.accepted ++ [id] else outside.accepted
  | none => outside.accepted

theorem Outside.ask_accepted (outside : Outside) (request : Request)
    (silent : ∀ id message, request ≠ .sendSms id message) :
    (outside.ask request).2.accepted = outside.accepted := by
  cases request with
  | sendSms id message => exact absurd rfl (silent id message)
  | createEvent id payload =>
      simp only [Outside.ask]
      split <;> rfl
  | cancelEvent id =>
      simp only [Outside.ask]
      split <;> rfl
  | _ => rfl

theorem Outside.ask_sendSms (outside : Outside) (id : Nat) (message : SmsMessage) :
    (outside.ask (.sendSms id message)).2.accepted =
      outside.acceptedBy id (outside.ask (.sendSms id message)).1 := by
  simp only [Outside.ask]
  generalize outside.smsProvider outside.smsCalls = answer
  cases answer with
  | none => rfl
  | some result =>
      obtain ⟨success, providerMessageId, error⟩ := result
      cases success <;> rfl

/-- Only a message can be accepted. -/
theorem execStmt_accepted {pid : Pid} {call : Call} {stmt : Stmt} {before after : World Call}
    {answer : stmt.Answer} (executed : execStmt pid call stmt before = some (answer, after))
    (silent : ∀ id message, stmt ≠ .ask (.sendSms id message)) :
    after.outside.accepted = before.outside.accepted := by
  cases execStmt_reaches executed with
  | nothing same => rw [same]
  | pushed grows =>
      rw [grows]
      rfl
  | asked asks =>
      rw [asks]
      exact Outside.ask_accepted _ _ fun id message same => silent id message (congrArg _ same)

/-! ## Locks -/

/-- A statement touches the writes and the locks of its own session only. -/
theorem execStmt_ownOnly {pid : Pid} {call : Call} {stmt : Stmt} {before after : World Call}
    {answer : stmt.Answer} (executed : execStmt pid call stmt before = some (answer, after)) :
    OwnOnly pid before after := by
  cases stmt with
  | select query =>
      cases executed
      exact .of_same rfl rfl
  | selectBookingForUpdate id tenantId =>
      simp only [execStmt] at executed
      split at executed
      · cases executed
        exact .of_same rfl rfl
      · split at executed
        · cases executed
        · cases executed
          exact .acquire ..
  | selectWaitlistForUpdateSkipLocked filter =>
      simp only [execStmt] at executed
      split at executed
      · cases executed
        exact .of_same rfl rfl
      · cases executed
        exact .acquire ..
  | selectStaleOffersForUpdateSkipLocked threshold =>
      cases executed
      exact .acquireAll ..
  | insert draft =>
      simp only [execStmt] at executed
      split at executed
      · cases executed
      · split at executed
        · cases executed
          exact .of_same rfl rfl
        · cases executed
          have own := OwnOnly.append before pid (draft before.nextId)
          exact ⟨own.writes, own.locks⟩
  | update write =>
      simp only [execStmt] at executed
      split at executed
      · cases executed
        exact .append ..
      · split at executed
        · cases executed
        · cases executed
          exact (OwnOnly.acquire ..).trans (.append ..)
  | commit =>
      cases executed
      exact ⟨(OwnOnly.release before pid).writes, (OwnOnly.release before pid).locks⟩
  | rollback =>
      cases executed
      exact .release ..
  | now =>
      cases executed
      exact .of_same rfl rfl
  | push job =>
      simp only [execStmt] at executed
      split at executed
      · cases executed
        exact .of_same rfl rfl
      · cases executed
        exact .of_same rfl rfl
  | ask request =>
      cases executed
      exact .of_same rfl rfl

/-- The statement ends the transaction. -/
def Stmt.ends : Stmt → Bool
  | .commit => true
  | .rollback => true
  | _ => false

/-- A session keeps its locks to the end of its transaction. -/
theorem execStmt_keeps_locks {pid : Pid} {call : Call} {stmt : Stmt} {before after : World Call}
    {answer : stmt.Answer} (executed : execStmt pid call stmt before = some (answer, after))
    (goesOn : stmt.ends = false) {row : RowId} {owner : Pid} (held : (row, owner) ∈ before.locks) :
    (row, owner) ∈ after.locks := by
  cases stmt with
  | select query =>
      cases executed
      exact held
  | selectBookingForUpdate id tenantId =>
      simp only [execStmt] at executed
      split at executed
      · cases executed
        exact held
      · split at executed
        · cases executed
        · cases executed
          exact mem_locks_acquire.mpr (.inl held)
  | selectWaitlistForUpdateSkipLocked filter =>
      simp only [execStmt] at executed
      split at executed
      · cases executed
        exact held
      · cases executed
        exact mem_locks_acquire.mpr (.inl held)
  | selectStaleOffersForUpdateSkipLocked threshold =>
      cases executed
      exact mem_locks_acquireAll.mpr (.inl held)
  | insert draft =>
      simp only [execStmt] at executed
      split at executed
      · cases executed
      · split at executed
        · cases executed
          exact held
        · cases executed
          exact held
  | update write =>
      simp only [execStmt] at executed
      split at executed
      · cases executed
        exact held
      · split at executed
        · cases executed
        · cases executed
          exact mem_locks_acquire.mpr (.inl held)
  | commit => cases goesOn
  | rollback => cases goesOn
  | now =>
      cases executed
      exact held
  | push job =>
      simp only [execStmt] at executed
      split at executed
      · cases executed
        exact held
      · cases executed
        exact held
  | ask request =>
      cases executed
      exact held

/-- A booking selected for update is one that the session sees, and locked. -/
theorem execStmt_lock {pid : Pid} {call : Call} {id tenantId : Nat} {before after : World Call}
    {answer : Option Booking}
    (executed : execStmt pid call (.selectBookingForUpdate id tenantId) before =
      some (answer, after)) :
    answer = ((before.view pid).bookings.find? fun row => row.id == id &&
      row.tenantId == tenantId) ∧
      ∀ row, answer = some row → (.booking row.id, pid) ∈ after.locks := by
  simp only [execStmt] at executed
  split at executed
  · next missing =>
      cases executed
      exact ⟨missing.symm, nofun⟩
  · next row found =>
      split at executed
      · cases executed
      · cases executed
        refine ⟨found.symm, ?_⟩
        rintro _ ⟨⟩
        exact mem_locks_acquire.mpr (.inr ⟨rfl, rfl⟩)

/-- The constraints are about four tables. -/
def Write.constrained : Write → Bool
  | .insertBooking _ => true
  | .insertPayment _ => true
  | .insertCalendarEvent _ => true
  | .insertCustomer _ => true
  | _ => false

/-- Only a row of such a table is refused. -/
theorem execStmt_refused {pid : Pid} {call : Call} {draft : Nat → Write} {before after : World Call}
    {constraint : Constraint}
    (executed : execStmt pid call (.insert draft) before =
      some ((.error constraint : Except Constraint Nat), after)) :
    (draft before.nextId).constrained = true := by
  simp only [execStmt] at executed
  split at executed
  · cases executed
  · split at executed
    · next refused =>
        generalize draft before.nextId = write at refused
        cases write with
        | insertBooking row => rfl
        | insertPayment row => rfl
        | insertCalendarEvent row => rfl
        | insertCustomer row => rfl
        | _ => cases refused
    · cases executed

/-- The entries that a session is given to offer a slot to fit the slot. -/
theorem execStmt_waitlist {pid : Pid} {call : Call} {filter : WaitlistFilter}
    {before after : World Call} {answer : List WaitlistEntry}
    (executed : execStmt pid call (.selectWaitlistForUpdateSkipLocked filter) before =
      some (answer, after)) : ∀ entry ∈ answer, filter.accepts entry = true := by
  simp only [execStmt] at executed
  split at executed
  · cases executed
    exact nofun
  · next entry first =>
      cases executed
      intro other member
      rw [List.mem_singleton] at member
      subst member
      have there := oldest_mem first
      rw [List.mem_filter, Bool.and_eq_true] at there
      exact there.2.1

end AppointmentVoice
