import AppointmentVoice.Services.HelperRules
import AppointmentVoice.Services.Statements

/-!
# Workers keep the discipline

A worker reads what it likes, asks the providers and the queue, and writes nothing but
marks on messages and calendar events, and reminders.  That much can be read off the
text of its functions, and it is all that the discipline of the booking service wants
to know: whatever a worker commits is the work of a clerk.
-/

set_option autoImplicit false

namespace AppointmentVoice

open Concurrency World Program

/-! ## Statements -/

/-- The statements of a worker. -/
def Stmt.Clerical : Stmt → Prop
  | .select _ => True
  | .now => True
  | .push _ => True
  | .ask _ => True
  | .commit => True
  | .rollback => True
  | .update write => write.Clerical ∧ write.target.isSome = true
  | .insert draft => Keyed draft ∧ ∀ id, ∃ message : NotificationOutbox,
      draft id = .insertOutbox message ∧ message.purpose = .bookingReminder ∧ message.Fresh
  | _ => False

namespace Stmt

/-- The kind takes in what a worker does around its jobs. -/
structure Attending (kind : Stmt → Prop) : Prop where
  select : ∀ query, kind (.select query)
  now : kind .now
  commit : kind .commit
  rollback : kind .rollback
  dequeue : ∀ entry, kind (.ask (.dequeue entry))

/-- The kind takes in what a sweep does too. -/
structure Serving (kind : Stmt → Prop) : Prop extends Attending kind where
  push : ∀ job, job.withdraws = false → kind (.push job)

instance {kind : Stmt → Prop} : Coe (Serving kind) (Attending kind) := ⟨Serving.toAttending⟩

/-- The kind takes in what may become of a job. -/
structure Settling (kind : Stmt → Prop) (entry : QueueEntry) : Prop where
  ack : kind (.ask (.ack entry))
  retry : kind (.ask (.scheduleRetry entry))
  fail : kind (.ask (.moveToFailedQueue entry))

theorem clerical_serving : Serving Clerical where
  select _ := trivial
  now := trivial
  push _ _ := trivial
  commit := trivial
  rollback := trivial
  dequeue _ := trivial

end Stmt

/-! ## Functions -/

namespace Serves

variable {α β : Type} {kind : Stmt → Prop}

theorem one (row : Option α) : (AppointmentVoice.one row).Only kind := Issues.orRaise _ _

section Jobs

variable (attending : Stmt.Attending kind)
include attending

theorem select (query : Query) : (AppointmentVoice.select query).Only kind :=
  Only.issue (attending.select query)

theorem now : AppointmentVoice.now.Only kind := Only.issue attending.now

theorem commit : AppointmentVoice.commit.Only kind := Only.issue attending.commit

/-- A row is marked, and the transaction ends. -/
theorem mark {write : Write} (marks : kind (.update write)) :
    (AppointmentVoice.update write >>= fun _ => AppointmentVoice.commit).Only kind :=
  Only.bind (Only.issue marks) fun _ => commit attending

/-- A row is marked when its columns take the mark, and the transaction ends. -/
theorem markStorable {write : Write} (marks : kind (.update write)) (fits : Bool) :
    (AppointmentVoice.orDataError fits >>= fun _ => AppointmentVoice.update write >>= fun _ =>
      AppointmentVoice.commit).Only kind :=
  Only.bind (Issues.orDataError fits) fun _ => mark attending marks

/-- A row is marked, the transaction ends, and the job is to be tried again. -/
theorem markAndRaise {write : Write} (marks : kind (.update write)) (fits : Bool)
    (error : AppError) :
    (AppointmentVoice.orDataError fits >>= fun _ => AppointmentVoice.update write >>= fun _ =>
      AppointmentVoice.commit >>= fun _ => throw error : DbM Unit).Only kind :=
  Only.bind (Issues.orDataError fits) fun _ => Only.bind (Only.issue marks) fun _ =>
    Only.bind (commit attending) fun _ => .raise _

section Messages

variable (marks : ∀ id change, kind (.update (.updateNotification id change)))
include marks

theorem recordDelivery (intent : NotificationOutbox) (result : SmsSendResult) :
    (AppointmentVoice.recordDelivery intent result).Only kind := by
  unfold AppointmentVoice.recordDelivery
  split
  · exact Only.bind (now attending) fun _ => markStorable attending (marks _ _) _
  · split
    · exact markStorable attending (marks _ _) _
    · exact markAndRaise attending (marks _ _) _ _

theorem sendNotificationInWorker (sends : ∀ id message, kind (.ask (.sendSms id message)))
    (notificationId : Nat) :
    (AppointmentVoice.sendNotificationInWorker notificationId).Only kind := by
  refine Only.bind (select attending _) fun found => ?_
  cases found with
  | none => exact .ret ()
  | some intent =>
      dsimp only
      split
      · refine Only.bind (Only.issue (sends _ _)) fun result => ?_
        cases result with
        | none => exact .raise _
        | some result => exact recordDelivery attending marks intent result
      · exact .ret ()

end Messages

theorem staffOf (booking : Booking) : (AppointmentVoice.staffOf booking).Only kind := by
  unfold AppointmentVoice.staffOf
  split
  · exact Only.bind (select attending _) fun _ => Only.bind (one _) fun _ => .ret _
  · exact .ret _

theorem getCalendarIntegration (businessId tenantId : Nat) (staffId : Option Nat) :
    (AppointmentVoice.getCalendarIntegration businessId tenantId staffId).Only kind := by
  cases staffId with
  | none => exact select attending _
  | some id =>
      refine Only.bind (select attending _) fun own => ?_
      cases own with
      | none => exact select attending _
      | some integration => exact .ret _

section Events

variable (marks : ∀ id change, kind (.update (.updateCalendarEvent id change)))
include marks

theorem recordSync (cfg : Settings) (event : CalendarEvent) (result : CalendarResult) :
    (AppointmentVoice.recordSync cfg event result).Only kind := by
  unfold AppointmentVoice.recordSync
  split
  · exact Only.bind (now attending) fun _ => markStorable attending (marks _ _) _
  · split
    · exact markStorable attending (marks _ _) _
    · exact markAndRaise attending (marks _ _) _ _

theorem syncCalendarEventInWorker (creates : ∀ id payload, kind (.ask (.createEvent id payload)))
    (cfg : Settings) (eventId : Nat) :
    (AppointmentVoice.syncCalendarEventInWorker cfg eventId).Only kind := by
  refine Only.bind (select attending _) fun found => ?_
  cases found with
  | none => exact .ret ()
  | some event =>
      dsimp only
      split
      · refine Only.bind (select attending _) fun _ => Only.bind (one _) fun booking => ?_
        dsimp only
        split
        · exact .ret ()
        · refine Only.bind (select attending _) fun _ => Only.bind (one _) fun _ =>
            Only.bind (staffOf attending _) fun _ =>
            Only.bind (getCalendarIntegration attending _ _ _) fun _ =>
            Only.bind (Only.issue (creates _ _)) fun result => ?_
          cases result with
          | none => exact .raise _
          | some result => exact recordSync attending marks _ _ _
      · exact .ret ()

theorem recordCancel (cfg : Settings) (event : CalendarEvent) (result : CalendarResult) :
    (AppointmentVoice.recordCancel cfg event result).Only kind := by
  unfold AppointmentVoice.recordCancel
  split
  · exact mark attending (marks _ _)
  · split
    · exact markStorable attending (marks _ _) _
    · exact markAndRaise attending (marks _ _) _ _

theorem cancelCalendarEventInWorker (withdraws : ∀ id, kind (.ask (.cancelEvent id)))
    (cfg : Settings) (eventId : Nat) :
    (AppointmentVoice.cancelCalendarEventInWorker cfg eventId).Only kind := by
  refine Only.bind (select attending _) fun found => ?_
  cases found with
  | none => exact .ret ()
  | some event =>
      dsimp only
      split
      · exact .ret ()
      · refine Only.bind (select attending _) fun _ => Only.bind (one _) fun booking => ?_
        split
        · exact .ret ()
        · split
          · exact mark attending (marks _ _)
          · refine Only.bind (Only.issue (withdraws _)) fun result => ?_
            cases result with
            | none => exact .raise _
            | some result => exact recordCancel attending marks _ _ _

end Events

omit attending in
theorem settleJob (cfg : Settings) {entry : QueueEntry} (settling : Stmt.Settling kind entry)
    (outcome : Option AppError) : (AppointmentVoice.settleJob cfg entry outcome).Only kind := by
  cases outcome with
  | none => exact Only.issue settling.ack
  | some error =>
      simp only [AppointmentVoice.settleJob]
      split
      · exact Only.issue settling.retry
      · exact Only.issue settling.fail

/-- The job of an entry is handled, and the entry settled. -/
theorem handled {cfg : Settings} {entry : QueueEntry} (settling : Stmt.Settling kind entry)
    (handles : (AppointmentVoice.handleJob cfg entry.job).Only kind) :
    (do
      let outcome ← runHandler cfg entry.job
      AppointmentVoice.settleJob cfg entry outcome
      return 1 : DbM Nat).Only kind := by
  have caught := Only.tryCatch (Only.bind handles fun _ => .ret none)
    fun error => (.ret (some error) : Only kind (pure (some error) : DbM (Option AppError)))
  exact Only.bind (Only.bind caught fun _ =>
    Only.bind (Only.issue attending.rollback) fun _ => .ret _) fun _ =>
    Only.bind (settleJob cfg settling _) fun _ => .ret _

/-- A job is handled, whatever it is. -/
theorem processJob {cfg : Settings} {entry : QueueEntry} (settling : Stmt.Settling kind entry)
    (handles : (AppointmentVoice.handleJob cfg entry.job).Only kind) :
    (AppointmentVoice.processJob cfg entry).Only kind := by
  refine Only.bind (Only.issue (attending.dequeue entry)) fun taken => ?_
  cases taken with
  | false => exact .ret _
  | true => exact handled attending settling handles

end Jobs

section Sweeps

variable (serving : Stmt.Serving kind)
include serving

theorem requeue {jobs : List QueuedJob} (others : ∀ job ∈ jobs, job.withdraws = false)
    {writes : List Write} (marks : ∀ write ∈ writes, kind (.update write)) :
    (AppointmentVoice.requeue jobs writes).Only kind := by
  refine Only.bind (Issues.enqueueJobs fun job member => serving.push job (others job member))
    fun _ => ?_
  split
  · exact .ret _
  · refine Only.bind ?_ fun _ => Only.bind (commit serving) fun _ => .ret _
    clear * - marks
    induction writes with
    | nil => exact .ret _
    | cons write writes ih =>
        exact Only.bind (Only.issue (marks write List.mem_cons_self)) fun _ =>
          ih fun other member => marks other (List.mem_cons_of_mem _ member)

theorem reconcileStaleNotifications (cfg : Settings)
    (marks : ∀ id time, kind (.update (.updateNotification id (.requeue time)))) :
    (AppointmentVoice.reconcileStaleNotifications cfg).Only kind := by
  refine Only.bind (now serving) fun time => Only.bind (select serving _) fun stale =>
    requeue serving (fun job member => ?_) fun write member => ?_
  · obtain ⟨intent, -, rfl⟩ := List.mem_map.mp member
    rfl
  · obtain ⟨intent, -, rfl⟩ := List.mem_map.mp member
    exact marks _ _

theorem reconcileStaleCalendarEvents (cfg : Settings)
    (marks : ∀ id time, kind (.update (.updateCalendarEvent id (.requeue time)))) :
    (AppointmentVoice.reconcileStaleCalendarEvents cfg).Only kind := by
  refine Only.bind (now serving) fun time => Only.bind (select serving _) fun stale =>
    requeue serving (fun job member => ?_) fun write member => ?_
  · obtain ⟨event, -, rfl⟩ := List.mem_map.mp member
    rfl
  · obtain ⟨event, -, rfl⟩ := List.mem_map.mp member
    exact marks _ _

section Reminders

variable (reminds : ∀ row : Nat → NotificationOutbox, (∀ id, (row id).id = id ∧
  (row id).purpose = .bookingReminder ∧ (row id).Fresh) →
    kind (.insert fun id => .insertOutbox (row id)))
include reminds

theorem remind (cfg : Settings) (createdAt : Instant) (booking : Booking) :
    (AppointmentVoice.remind cfg createdAt booking).Only kind := by
  unfold AppointmentVoice.remind
  split
  · exact .ret _
  · refine Only.bind (select serving _) fun alreadyQueued => ?_
    cases alreadyQueued with
    | some row => exact .ret _
    | none =>
        refine Only.bind (Only.bind (select serving _) fun _ =>
          Issues.orRaise _ _) fun business => ?_
        refine Only.bind (Issues.inBusiness
          (Only.bind (select serving _) fun _ => Issues.orRaise _ _) _) fun customer => ?_
        refine Only.bind (Issues.inBusiness
          (Only.bind (select serving _) fun _ => Issues.orRaise _ _) _) fun service => ?_
        refine Only.bind (Issues.formatLocalTime _ _ _) fun when => ?_
        exact Only.bind (Issues.insert (reminds _ fun id => ⟨rfl, rfl, rfl, rfl⟩)) fun _ =>
          Only.bind (Issues.enqueueJob (serving.push _ rfl)) fun _ => .ret _

theorem enqueueDueReminders (cfg : Settings) :
    (AppointmentVoice.enqueueDueReminders cfg).Only kind := by
  refine Only.bind (now serving) fun startedAt => Only.bind (select serving _) fun due => ?_
  have each : ∀ bookings : List Booking, (remindEach cfg startedAt bookings).Only kind := by
    intro bookings
    induction bookings with
    | nil => exact .ret _
    | cons booking rest ih =>
        exact Only.bind (remind serving reminds _ _ _) fun _ => Only.bind ih fun _ => .ret _
  refine Only.bind (each _) fun count => ?_
  split
  · exact .ret _
  · exact Only.bind (commit serving) fun _ => .ret _

end Reminders

end Sweeps

end Serves

theorem Clerical.work (cfg : Settings) (task : WorkerCall) :
    (AppointmentVoice.work cfg task).Only Stmt.Clerical := by
  have serving := Stmt.clerical_serving
  have messages : ∀ id change, Stmt.Clerical (.update (.updateNotification id change)) :=
    fun id change => ⟨.notification id change, rfl⟩
  have events : ∀ id change, Stmt.Clerical (.update (.updateCalendarEvent id change)) :=
    fun id change => ⟨.calendarEvent id change, rfl⟩
  cases task with
  | processJob entry =>
      refine Serves.processJob serving ⟨trivial, trivial, trivial⟩ ?_
      obtain ⟨job, attempts⟩ := entry
      cases job with
      | sendNotification id =>
          exact Serves.sendNotificationInWorker serving messages (fun _ _ => trivial) id
      | syncCalendarEvent id =>
          exact Serves.syncCalendarEventInWorker serving events (fun _ _ => trivial) cfg id
      | cancelCalendarEvent id =>
          exact Serves.cancelCalendarEventInWorker serving events (fun _ => trivial) cfg id
  | reconcileStaleNotifications =>
      exact Serves.reconcileStaleNotifications serving cfg fun _ _ => messages _ _
  | reconcileStaleCalendarEvents =>
      exact Serves.reconcileStaleCalendarEvents serving cfg fun _ _ => events _ _
  | enqueueDueReminders =>
      refine Serves.enqueueDueReminders serving (fun row fits => ?_) cfg
      exact ⟨keyed_insertOutbox row fun id => (fits id).1,
        fun id => ⟨row id, rfl, (fits id).2.1, (fits id).2.2⟩⟩

/-! ## Discipline -/

section Discipline

variable {cfg : Settings} {law : Db → Prop} {pid : Pid} {task : WorkerCall}

/-- The session has written nothing but what a worker writes. -/
def Filing (pid : Pid) (world : World Call) : Prop :=
  ∀ write ∈ world.writesOf pid, write.Clerical

theorem Filing.stable : (bookingDiscipline law).Stable (bookingMachine cfg) pid (Filing pid) := by
  intro before after step filing
  obtain ⟨-, -, ⟨other, different, moves⟩ | ⟨db, clock, outside, -, -, -, rfl⟩⟩ := step
  · intro write member
    rw [moves.own.writes pid (Ne.symm different)] at member
    exact filing write member
  · exact filing

theorem Filing.append {world : World Call} (filing : Filing pid world) {write : Write}
    (clerical : write.Clerical) : Filing pid (world.append pid write) := by
  intro other member
  rw [writesOf_append_self] at member
  rcases List.mem_append.mp member with old | new
  · exact filing other old
  · rw [List.mem_singleton] at new
    subst new
    exact clerical

theorem Filing.of_nil {world : World Call} (nothing : world.writesOf pid = []) :
    Filing pid world := by
  intro write member
  rw [nothing] at member
  cases member

/-- **A statement of a worker keeps the discipline.** -/
theorem clerical_step (lawful : Lawful law) {stmt : Stmt} (clerical : stmt.Clerical)
    {world after : World Call} {answer : stmt.Answer} (consistent : world.Consistent)
    (lawHolds : law world.db) (filing : Filing pid world)
    (executed : execStmt pid (.work task) stmt world = some (answer, after)) :
    (after.Consistent ∧ law after.db) ∧ Moves pid world after ∧ Filing pid after := by
  cases stmt with
  | select query =>
      cases executed
      exact ⟨⟨consistent, lawHolds⟩, .quiet (.of_same rfl rfl) rfl rfl, filing⟩
  | now =>
      cases executed
      exact ⟨⟨consistent, lawHolds⟩, .quiet (.of_same rfl rfl) rfl rfl, filing⟩
  | push job =>
      simp only [execStmt] at executed
      split at executed
      · cases executed
        exact ⟨⟨consistent.congr rfl rfl rfl rfl, lawHolds⟩, .quiet (.of_same rfl rfl) rfl rfl,
          filing⟩
      · cases executed
        exact ⟨⟨consistent.congr rfl rfl rfl rfl, lawHolds⟩, .quiet (.of_same rfl rfl) rfl rfl,
          filing⟩
  | ask request =>
      cases executed
      exact ⟨⟨consistent.congr rfl rfl rfl rfl, lawHolds⟩, .quiet (.of_same rfl rfl)
        rfl rfl, filing⟩
  | commit =>
      cases executed
      have enabled : Transaction.Enabled world.db (.work task)
          (.clerk (world.writesOf pid) filing) := .clerk
      refine ⟨⟨consistent.committed pid _, lawful.commit consistent.ids_nodup lawHolds enabled⟩,
        ⟨⟨(OwnOnly.release world pid).writes, (OwnOnly.release world pid).locks⟩,
          .inr ⟨_, _, rfl, enabled, rfl, rfl⟩⟩, .of_nil (writesOf_release_self ..)⟩
  | rollback =>
      cases executed
      exact ⟨⟨consistent.release pid, lawHolds⟩, .quiet (.release ..) rfl rfl,
        .of_nil (writesOf_release_self ..)⟩
  | update write =>
      obtain ⟨clerical, targeted⟩ := clerical
      obtain ⟨row, target⟩ := Option.isSome_iff_exists.mp targeted
      simp only [execStmt, target] at executed
      split at executed
      · cases executed
      · next free =>
          cases executed
          have acquired := consistent.acquire (Bool.not_eq_true _ ▸ free)
          have held : (row, pid) ∈ (world.acquire pid row).locks :=
            mem_locks_acquire.mpr (.inr ⟨rfl, rfl⟩)
          have backed : (world.acquire pid row).Backed pid write := by
            cases clerical <;> exact trivial
          refine ⟨⟨acquired.append_update target held backed, ?_⟩,
            .quiet ((OwnOnly.acquire ..).trans (.append ..)) (acquire_db ..) (acquire_journal ..),
            Filing.append (fun other member => filing other ?_) clerical⟩
          · change law (world.acquire pid row).db
            rw [acquire_db]
            exact lawHolds
          · rw [writesOf_acquire] at member
            exact member
  | insert draft =>
      obtain ⟨keyed, drafts⟩ := clerical
      obtain ⟨message, written, purpose, fresh⟩ := drafts world.nextId
      simp only [execStmt] at executed
      split at executed
      · cases executed
      · next granted =>
          split at executed
          · cases executed
            exact ⟨⟨consistent.advance, lawHolds⟩, .quiet (.of_same rfl rfl) rfl rfl, filing⟩
          · next allowed =>
              cases executed
              have admissible : world.Admissible pid (draft world.nextId) := by
                rw [written]
                exact ⟨trivial, by rintro _ ⟨⟩⟩
              have own := OwnOnly.append world pid (draft world.nextId)
              refine ⟨⟨consistent.append_insert keyed admissible (Bool.not_eq_true _ ▸ granted)
                allowed, lawHolds⟩, .quiet ⟨own.writes, own.locks⟩ rfl rfl, ?_⟩
              have kept := filing.append (.reminder purpose fresh)
              rw [← written] at kept
              exact kept
  | _ => exact clerical.elim

/-- Whatever a worker does keeps the discipline. -/
theorem clerk_spec (lawful : Lawful law) {α : Type} {program : DbM α}
    (only : program.Only Stmt.Clerical) :
    Spec cfg law pid (.work task) (fun world _ => Filing pid world) program
      (fun _ _ _ => True) (fun _ _ => True) := by
  induction only with
  | ret value => exact ⟨.ret (fun _ => Filing.stable) fun _ _ _ _ => trivial⟩
  | raise error => exact ⟨.raise (fun _ => Filing.stable) fun _ _ _ _ => trivial⟩
  | @call stmt next fits _ ih =>
      refine step_rule stmt (fun _ => Filing.stable) (fun _ world _ => Filing pid world) ?_ ih
      intro world log answer after consistent lawHolds filing executed
      exact clerical_step lawful fits consistent lawHolds filing executed

end Discipline

end AppointmentVoice
