import AppointmentVoice.Services.SessionLogs
import AppointmentVoice.Services.SmsReplies

/-!
# What the delivery of a reply does

A delivery keeps the discipline of the booking service: what it commits is an enabled
transaction.  On every path it begins with two lookups, and it updates only the appointment
that it has found there.

**The paths.** `handleSmsReply_along` for the statements, `delivery_safe` and
`smsMachine_sound` for the discipline.
-/

set_option autoImplicit false

namespace AppointmentVoice

open Concurrency World

/-! ## The discipline of the deliveries -/

namespace Concurrency.Discipline

variable {S : Signature} {World Call Label ε ρ τ α : Type} {discipline : Discipline World}
variable {machine : Machine S World Call ε ρ} {other : Machine S World Label ε τ} {pid : Pid}

/-- What is safe on a machine is safe on one with the same statements and fewer changes of the
surroundings. -/
theorem Safe.transfer {call : Call} {label : Label}
    (exec : other.exec pid label = machine.exec pid call)
    (ambient : ∀ before after, other.ambient before after → machine.ambient before after)
    {post : Except ε α → World → List (Event S) → Prop} {program : Program S ε α} {world : World}
    {log : List (Event S)} (safe : discipline.Safe machine pid call post program world log) :
    discipline.Safe other pid label post program world log := by
  have relies : ∀ {before after : World}, discipline.Rely other pid before after →
      discipline.Rely machine pid before after := fun rely =>
    Relation.ReflTransGen.mono
      (fun _ _ step => ⟨step.1, step.2.1, step.2.2.imp_right (ambient _ _)⟩) _ _ rely
  induction program generalizing world log with
  | ret value => exact fun after rely => safe after (relies rely)
  | raise error => exact fun after rely => safe after (relies rely)
  | call stmt next ih =>
      intro before rely answer after executed
      rw [exec] at executed
      obtain ⟨kept, guaranteed, rest⟩ := safe before (relies rely) answer after executed
      exact ⟨kept, guaranteed, ih answer rest⟩

end Concurrency.Discipline

section Discipline

variable {cfg : Settings} {law : Db → Prop} {pid : Pid} {owner : Call} {entry : CancelBooking}
variable {sms : SmsReply}

theorem smsMachine_sessions (cfg : Settings) (entry : CancelBooking) :
    SessionMachine (smsMachine cfg entry) fun _ => .cancelBooking entry where
  exec _ _ := rfl
  enter _ _ := rfl
  leave _ _ := rfl
  ambient := by
    rintro before after ⟨clock, -, rfl⟩
    rfl

theorem smsMachine_ambient {before after : World Call}
    (changed : (smsMachine cfg entry).ambient before after) :
    (bookingMachine cfg).ambient before after := by
  obtain ⟨clock, later, rfl⟩ := changed
  exact ⟨before.db, clock, before.outside, later, ⟨rfl, rfl, rfl, rfl, rfl, rfl⟩,
    ⟨⟨[], (List.append_nil _).symm, by rintro _ ⟨⟩⟩, rfl, rfl, rfl⟩, rfl⟩

theorem cancelByReply_spec (lawful : Lawful law) (cancels : owner.cancels = true)
    (booking : Booking) :
    Spec cfg law pid owner (At pid [] (.nothing pid) .nothing) (cancelByReply cfg sms booking)
      (fun _ _ _ => True) (fun _ _ => True) := by
  refine tryCatch_rule (fun _ _ => True) ?_ fun error => ?_
  · exact bind_rule (fun _ => At pid [] (.nothing pid) .nothing)
      (cancelBooking_spec lawful cancels _) fun _ => ret_rule fun _ _ _ _ => trivial
  · cases error with
    | conflict message => exact ⟨.ret (fun _ => .const _) fun _ _ _ _ => trivial⟩
    | _ => exact ⟨.raise (fun _ => .const _) fun _ _ _ _ => trivial⟩

/-- A delivery of a word for no keeps the discipline of the booking service. -/
theorem handleSmsReply_spec (lawful : Lawful law) (owns : owner.cancels = true)
    (cancels : parseReplyIntent sms.body = .cancel) :
    Spec cfg law pid owner (At pid [] (.nothing pid) .nothing) (handleSmsReply cfg sms)
      (fun _ _ _ => True) (fun _ _ => True) := by
  unfold handleSmsReply
  simp only [cancels, reduceCtorEq, if_false, if_true]
  refine glance_rule (fun _ => trivial) fun customer => ?_
  cases (customer : Option Customer) with
  | none => exact ret_rule fun _ _ _ _ => trivial
  | some customer =>
      simp only [getNextConfirmedBooking]
      refine now_rule fun time => ?_
      refine glance_rule (fun _ => trivial) fun booking => ?_
      cases (booking : Option Booking) with
      | none => exact ret_rule fun _ _ _ _ => trivial
      | some booking =>
          exact bind_rule (fun _ _ _ => True) (cancelByReply_spec lawful owns booking) fun _ =>
            ⟨.ret (fun _ => .const _) fun _ _ _ _ => trivial⟩

/-- A delivery is safe beside the others. -/
theorem delivery_safe (cfg : Settings) (entry : CancelBooking)
    (cancels : parseReplyIntent sms.body = .cancel) {world : World Call}
    (consistent : world.Consistent) :
    (bookingDiscipline fun _ => True).Safe (smsMachine cfg entry) pid sms (fun _ _ _ => True)
      (handleSmsReply cfg sms) (world.release pid) [] := by
  have released : (bookingDiscipline fun _ => True).invariant (world.release pid) :=
    ⟨consistent.release pid, trivial⟩
  have quiet : At pid [] (.nothing pid) .nothing (world.release pid) [] :=
    ⟨writesOf_release_self world pid, trivial, trivial⟩
  have spec : Spec cfg (fun _ => True) pid (.cancelBooking entry)
      (At pid [] (.nothing pid) .nothing) (handleSmsReply cfg sms) (fun _ _ _ => True)
      fun _ _ => True := handleSmsReply_spec lawful_true rfl cancels
  have safe : (bookingDiscipline fun _ => True).Safe (bookingMachine cfg) pid
      (.cancelBooking entry) (fun _ _ _ => True) (handleSmsReply cfg sms) (world.release pid) [] :=
    Discipline.Safe.mono (fun _ _ _ _ _ => trivial) released (spec.triple _ [] released quiet)
  have same : (smsMachine cfg entry).exec pid sms =
      (bookingMachine cfg).exec pid (.cancelBooking entry) := rfl
  exact safe.transfer same fun _ _ => smsMachine_ambient

theorem smsMachine_sound (cfg : Settings) (entry : CancelBooking) :
    (bookingDiscipline fun _ => True).Sound (smsMachine cfg entry)
      (fun sms => parseReplyIntent sms.body = .cancel) fun _ _ _ => True where
  enter := fun pid world inv => ⟨⟨inv.1.release pid, trivial⟩, .quiet (.release ..) rfl rfl⟩
  leave := fun pid world inv => ⟨⟨inv.1.release pid, trivial⟩, .quiet (.release ..) rfl rfl⟩
  ambient := by
    rintro before after ⟨consistent, -⟩ ⟨clock, -, rfl⟩
    exact ⟨consistent.congr rfl rfl rfl rfl, trivial⟩
  perform := fun _ _ cancels _ inv => delivery_safe cfg entry cancels inv.1

end Discipline

/-! ## What a delivery does on every path -/

/-- The lookup of the customer. -/
def SmsReply.asksCustomer (sms : SmsReply) (customer : Option Customer) : Event Sql :=
  ⟨.select (.customerByPhone sms.businessId sms.tenantId (Customers.normalizePhone sms.fromPhone)),
    customer⟩

/-- The lookups with which a delivery begins. -/
def SmsReply.lookups (sms : SmsReply) (customer : Customer) (time : Instant)
    (booking : Option Booking) : Log :=
  [sms.asksCustomer (some customer), ⟨.now, time⟩,
    ⟨.select (.nextConfirmedBooking sms.businessId sms.tenantId customer.id time), booking⟩]

/-- The delivery has found an appointment. -/
def SmsReply.Found (sms : SmsReply) (log : Log) : Prop :=
  ∃ customer time row, sms.lookups customer time (some row) <+: log

/-- How a delivery has ended that returns. -/
inductive SmsReply.Returned (sms : SmsReply) (log : Log) : Prop where
  | stranger (asked : [sms.asksCustomer none] <+: log)
  | nothing (customer : Customer) (time : Instant) (asked : sms.lookups customer time none <+: log)
  | already (customer : Customer) (time : Instant) (row locked : Booking)
      (asked : sms.lookups customer time (some row) <+: log)
      (again : ∃ earlier tenantId, uncommitted earlier = [] ∧ earlier ++
        [(⟨.selectBookingForUpdate row.id tenantId, some locked⟩ : Event Sql)] <+: log)
      (key : locked.id = row.id) (gone : locked.status = .cancelled)
  | committed (earlier : Log) (there : earlier ++ [(⟨.commit, ()⟩ : Event Sql)] <+: log)

/-- A delivery of a word for no updates the appointment `target` alone, where the lookup finds
no other. -/
def replyMonitor (target : Nat) (sms : SmsReply) : Monitor Sql Log where
  may _
    | ⟨.select (.nextConfirmedBooking _ _ _ _), answer⟩ =>
        ∀ row, (answer : Option Booking) = some row → row.id = target
    | ⟨.selectBookingForUpdate id _, answer⟩ =>
        ∀ row, (answer : Option Booking) = some row → row.id = id
    | _ => True
  must log
    | .insert draft => parseReplyIntent sms.body = .cancel →
        ∀ id key change, draft id ≠ .updateBooking key change
    | .update (.updateBooking id _) => parseReplyIntent sms.body = .cancel → id = target
    | .commit => parseReplyIntent sms.body = .cancel → sms.Found log
    | _ => True
  learn log event := log ++ [event]

/-- A delivery that returns for a cancel keyword has found no booking, or has cancelled one. -/
def replyWatch (target : Nat) : Watch Sql SmsReply AppError SmsReplyIntent Log where
  monitor := replyMonitor target
  initial _ := []
  post sms result log := ∀ intent, result = .ok intent → parseReplyIntent sms.body = .cancel →
    sms.Returned log

theorem replyWatch_state (target : Nat) (sms : SmsReply) (log : Log) :
    (replyWatch target).state sms log = log :=
  state_log (fun _ _ _ => rfl) (fun _ => rfl) sms log

section Paths

variable {target : Nat} {sms : SmsReply} {α β : Type}

/-- The program raises no conflict, and its statements are allowed everywhere. -/
def Mild (target : Nat) (sms : SmsReply) (program : DbM α) : Prop :=
  ∀ log, (replyMonitor target sms).Along
    (fun result later => log <+: later ∧ ∀ message, result ≠ .error (.conflict message)) program log

namespace Mild

theorem ret (value : α) : Mild target sms (.ret value : DbM α) := by
  intro log
  exact .ret ⟨List.prefix_rfl, by rintro _ ⟨⟩⟩

theorem raise {error : AppError} (other : ∀ message, error ≠ .conflict message) :
    Mild target sms (.raise error : DbM α) := by
  intro log
  exact .raise ⟨List.prefix_rfl, fun message same => other message (Except.error.inj same)⟩

theorem call {stmt : Stmt} {next : stmt.Answer → DbM α}
    (allowed : ∀ log, (replyMonitor target sms).must log stmt)
    (rest : ∀ answer, Mild target sms (next answer)) :
    Mild target sms (Program.call (S := Sql) stmt next) := by
  refine fun log => .call (allowed log) fun answer _ => ?_
  refine Monitor.Along.mono (rest answer (log ++ [⟨stmt, answer⟩])) ?_
  intro result later met
  exact ⟨(List.prefix_append _ _).trans met.1, met.2⟩

theorem bind {program : DbM α} {next : α → DbM β} (first : Mild target sms program)
    (rest : ∀ value, Mild target sms (next value)) : Mild target sms (program >>= next) := by
  refine fun log => .bind (Monitor.Along.mono (first log) ?_)
  intro result later met
  cases result with
  | ok value =>
      refine Monitor.Along.mono (rest value later) ?_
      intro result last more
      exact ⟨met.1.trans more.1, more.2⟩
  | error error =>
      exact ⟨met.1, fun message same => met.2 message (congrArg _ (Except.error.inj same))⟩

/-- A mild part of a longer program. -/
theorem walk {program : DbM α} {next : α → DbM β}
    {post : Except AppError β → Log → Prop} {log : Log}
    (mild : Mild target sms program)
    (fails : ∀ error later, (∀ message, error ≠ .conflict message) → post (.error error) later)
    (rest : ∀ value later, log <+: later →
      (replyMonitor target sms).Along post (next value) later) :
    (replyMonitor target sms).Along post (program >>= next) log := by
  refine .bind (Monitor.Along.mono (mild log) ?_)
  intro result later met
  cases result with
  | ok value => exact rest value later met.1
  | error error =>
      exact fails error later fun message same => met.2 message (congrArg _ same)

theorem issue {stmt : Stmt} (allowed : ∀ log, (replyMonitor target sms).must log stmt) :
    Mild target sms (Program.issue (S := Sql) stmt) :=
  call allowed .ret

theorem select (query : Query) : Mild target sms (AppointmentVoice.select query) :=
  issue fun _ => trivial

theorem insert {draft : Nat → Write}
    (inserts : ∀ id key change, draft id ≠ .updateBooking key change) :
    Mild target sms (AppointmentVoice.insert draft) := by
  refine call (fun _ _ => inserts) fun answer => ?_
  cases (answer : Except Constraint Nat) with
  | ok id => exact .ret id
  | error constraint => exact .raise (by rintro _ ⟨⟩)

theorem orRaise {error : AppError} (other : ∀ message, error ≠ .conflict message)
    (row : Option α) : Mild target sms (AppointmentVoice.orRaise error row) := by
  cases row with
  | none => exact .raise other
  | some row => exact .ret row

theorem guard {condition : Prop} [Decidable condition] {error : AppError} {value : α}
    (other : ∀ message, error ≠ .conflict message) :
    Mild target sms (if condition then (throw error : DbM Unit) >>= fun _ => pure value
      else pure value) := by
  split
  · exact .raise other
  · exact .ret value

theorem requireBusiness (businessId tenantId : Nat) :
    Mild target sms (AppointmentVoice.requireBusiness businessId tenantId) :=
  .bind (.select _) fun _ => .orRaise (by rintro _ ⟨⟩) _

theorem requireCustomerInBusiness (customerId businessId tenantId : Nat) :
    Mild target sms (AppointmentVoice.requireCustomerInBusiness customerId businessId tenantId) :=
  .bind (.bind (.select _) fun _ => .orRaise (by rintro _ ⟨⟩) _) fun _ => .guard (by rintro _ ⟨⟩)

theorem requireServiceInBusiness (serviceId businessId tenantId : Nat) :
    Mild target sms (AppointmentVoice.requireServiceInBusiness serviceId businessId tenantId) :=
  .bind (.bind (.select _) fun _ => .orRaise (by rintro _ ⟨⟩) _) fun _ => .guard (by rintro _ ⟨⟩)

theorem failLinkedPendingPayment (booking : Booking) (reason : Option String) :
    Mild target sms (AppointmentVoice.failLinkedPendingPayment booking reason) := by
  refine .bind (.select _) fun payment => ?_
  cases (payment : Option BookingPayment) with
  | none => exact .ret ()
  | some payment => exact .issue fun _ => trivial

theorem createAuditLog (tenantId : Nat) (adminId : Option Nat) (action : AuditAction)
    (bookingId : Nat) (source : Option String) :
    Mild target sms (AppointmentVoice.createAuditLog tenantId adminId action bookingId source) :=
  .bind (.insert (by rintro _ _ _ ⟨⟩)) fun _ => .ret ()

theorem enqueueBookingCancellation (cfg : Settings) (booking : Booking) (business : Business)
    (customer : Customer) (service : Service) (createdAt : Instant) :
    Mild target sms
      (AppointmentVoice.enqueueBookingCancellation cfg booking business customer service
        createdAt) := by
  refine .bind ?_ fun when => .bind (.insert (by rintro _ _ _ ⟨⟩)) fun first =>
    .bind ?_ fun owner => .ret _
  · rw [formatLocalTime]
    split
    · exact .ret _
    · next error untold =>
        obtain rfl | rfl := Settings.error_localTime untold
        · exact .raise (by rintro _ ⟨⟩)
        · exact .raise (by rintro _ ⟨⟩)
  · rw [addOwnerIntent]
    split
    · split
      · exact .ret _
      · exact .bind (.insert (by rintro _ _ _ ⟨⟩)) fun id => .ret _
    · exact .ret _

theorem refreshBooking (bookingId : Nat) :
    Mild target sms (AppointmentVoice.refreshBooking bookingId) :=
  .bind (.select _) fun _ => .orRaise (by rintro _ ⟨⟩) _

theorem enqueueJobs (jobs : List QueuedJob) :
    Mild target sms (AppointmentVoice.enqueueJobs jobs) := by
  induction jobs with
  | nil => exact .ret ()
  | cons job jobs ih =>
      refine .bind (.call (fun _ => trivial) fun answer => ?_) fun _ => ih
      cases (answer : Bool) with
      | true => exact .ret ()
      | false => exact .raise (by rintro _ ⟨⟩)

end Mild

/-- Cancelling the appointment that a delivery has found. -/
theorem cancelBooking_along (cfg : Settings) {customer : Customer} {time : Instant} {row : Booking}
    {reason : Option String} {log : Log} (own : row.id = target) (clean : uncommitted log = [])
    (asked : sms.lookups customer time (some row) <+: log) :
    (replyMonitor target sms).Along
      (fun result later => ((∃ booking, result = .ok booking) ∨
        ∃ message, result = .error (.conflict message)) → sms.Returned later)
      (cancelBooking cfg
        { bookingId := row.id, businessId := sms.businessId, tenantId := sms.tenantId,
          reason := reason }) log := by
  have fails : ∀ (error : AppError) (later : Log), (∀ message, error ≠ .conflict message) →
      ((∃ booking : Booking, (.error error : Except AppError Booking) = .ok booking) ∨
        ∃ message, (.error error : Except AppError Booking) = .error (.conflict message)) →
      sms.Returned later := by
    rintro error later other (⟨_, ⟨⟩⟩ | ⟨message, same⟩)
    exact absurd (Except.error.inj same) (other message)
  rw [cancelBooking, Bool.false_and, if_neg Bool.false_ne_true]
  refine .issue trivial fun startedAt _ => ?_
  refine .call trivial fun answer keyed => ?_
  cases (answer : Option Booking) with
  | none => exact .raise (fails _ _ (by rintro _ ⟨⟩))
  | some locked =>
  have key : locked.id = row.id := keyed locked rfl
  change Monitor.Along _ _ ((if locked.businessId ≠ sms.businessId then _ else _) >>= _) _
  by_cases elsewhere : locked.businessId ≠ sms.businessId
  · rw [if_pos elsewhere]
    exact .raise (fails _ _ (by rintro _ ⟨⟩))
  rw [if_neg elsewhere]
  change Monitor.Along _ _ (if locked.status = .cancelled then _ else _) _
  by_cases gone : locked.status = .cancelled
  · rw [if_pos gone]
    refine .raise fun _ => .already customer time row locked ?_ ⟨_, _, ?_, List.prefix_rfl⟩ key
      gone
    · exact asked.trans ((List.prefix_append _ _).trans (List.prefix_append _ _))
    · exact (uncommitted_snoc log _).trans (congrArg (recordEvent · _) clean)
  rw [if_neg gone]
  refine .issue (fun _ => key.trans own) fun _ _ => ?_
  refine (Mild.failLinkedPendingPayment _ _).walk fails fun _ _ p₁ => ?_
  refine (Mild.createAuditLog _ _ _ _ _).walk fails fun _ _ p₂ => ?_
  refine (Mild.requireBusiness _ _).walk fails fun business _ p₃ => ?_
  refine (Mild.requireCustomerInBusiness _ _ _).walk fails fun customer' _ p₄ => ?_
  refine (Mild.requireServiceInBusiness _ _ _).walk fails fun service _ p₅ => ?_
  refine (Mild.enqueueBookingCancellation _ _ _ _ _ _).walk fails fun intentIds _ p₆ => ?_
  refine Mild.walk (.issue fun _ => trivial) fails fun matching _ p₇ => ?_
  refine Mild.walk ?_ fails fun offerIds _ p₈ => ?_
  · cases (matching : List WaitlistEntry) with
    | nil => exact .ret _
    | cons entry rest =>
        exact .bind (.issue fun _ => trivial) fun _ => .bind (.requireCustomerInBusiness _ _ _)
          fun _ => .bind (.insert (by rintro _ _ _ ⟨⟩)) fun _ => .ret _
  refine (Mild.select _).walk fails fun calendarEvent _ p₉ => ?_
  refine .issue (fun _ => ⟨customer, time, row, ?_⟩) fun _ _ => ?_
  · refine asked.trans (.trans ?_ (p₁.trans (p₂.trans (p₃.trans (p₄.trans (p₅.trans (p₆.trans
      (p₇.trans (p₈.trans p₉)))))))))
    exact (List.prefix_append _ _).trans ((List.prefix_append _ _).trans (List.prefix_append _ _))
  refine (Mild.refreshBooking _).walk fails fun fresh _ q₁ => ?_
  refine (Mild.enqueueJobs _).walk fails fun _ _ q₂ => ?_
  refine (Mild.enqueueJobs _).walk fails fun _ _ q₃ => ?_
  refine (Mild.enqueueJobs _).walk fails fun _ _ q₄ => ?_
  exact .ret fun _ => .committed _ (q₁.trans (q₂.trans (q₃.trans q₄)))

/-- **A delivery on every path.** -/
theorem handleSmsReply_along (cfg : Settings) :
    (replyMonitor target sms).Along ((replyWatch target).post sms) (handleSmsReply cfg sms) [] := by
  by_cases cancels : parseReplyIntent sms.body = .cancel
  · rw [handleSmsReply]
    simp only [cancels, reduceCtorEq, if_false, if_true]
    refine .issue trivial fun answer _ => ?_
    cases (answer : Option Customer) with
    | none => exact .ret fun _ _ _ => .stranger List.prefix_rfl
    | some customer =>
    refine .issue trivial fun time _ => ?_
    refine .issue trivial fun booking own => ?_
    cases (booking : Option Booking) with
    | none => exact .ret fun _ _ _ => .nothing customer time List.prefix_rfl
    | some row =>
    refine .bind (.tryCatch (.bind ?_))
    refine (cancelBooking_along cfg (own row rfl) rfl List.prefix_rfl).mono fun result later met =>
      ?_
    cases result with
    | ok booking => exact .ret (.ret fun _ _ _ => met (.inl ⟨booking, rfl⟩))
    | error error =>
        cases error with
        | conflict message => exact .ret (.ret fun _ _ _ => met (.inr ⟨message, rfl⟩))
        | _ => exact .raise (by rintro _ ⟨⟩)
  · refine along_free (fun log stmt => ?_) (fun _ _ _ _ same => absurd same cancels) _ _
    cases stmt with
    | update write =>
        cases write with
        | updateBooking id change => exact fun same => absurd same cancels
        | _ => trivial
    | commit => exact fun same => absurd same cancels
    | insert draft => exact fun same => absurd same cancels
    | _ => trivial

end Paths

end AppointmentVoice
