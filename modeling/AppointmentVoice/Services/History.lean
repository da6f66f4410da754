import AppointmentVoice.Services.Clerks
import AppointmentVoice.Services.Freeing

/-!
# Runs of the booking service are histories of transactions

The soundness of the discipline for every call: in any interleaving of any
number of calls, the committed rows change only by enabled transactions, one
after the other, and every finished call has kept its postcondition.  What holds
of all such histories is then shown by `Runs.history`, one kind of transaction
at a time, with what each of them does to the tables.
-/

set_option autoImplicit false

namespace AppointmentVoice

open Concurrency World

/-! ## Where runs begin -/

/-- The constraints that the database itself keeps: primary keys, the sequence
ahead of them, the exclusion constraint and the foreign keys. -/
structure Db.WellFormed (db : Db) (nextId : Nat) : Prop where
  keys : ∀ table : Table, (table.ids db).Nodup
  below : ∀ table : Table, ∀ id ∈ table.ids db, id < nextId
  exclusion : ∀ first ∈ db.bookings, ∀ second ∈ db.bookings, first.id ≠ second.id →
    excludes first second = false
  payments : ∀ payment ∈ db.bookingPayments, payment.bookingId ∈ Table.bookings.ids db
  events : ∀ event ∈ db.calendarEvents, event.bookingId ∈ Table.bookings.ids db

theorem Db.WellFormed.consistent {db : Db} {nextId : Nat} (wellFormed : db.WellFormed nextId)
    (clock : Instant) (redisTakes : Nat → Bool) :
    (World.start db nextId clock redisTakes : World Call).Consistent where
  exclusive := fun member => by cases member
  locked := fun member => by cases member
  keys := fun table => by
    simpa [Table.all, World.start] using wellFormed.keys table
  below := fun table id member =>
    wellFormed.below table id (by simpa [Table.all, World.start] using member)
  exclusion := by
    rintro first second (one | ⟨_, pending⟩) (two | ⟨_, pending'⟩) different
    · exact wellFormed.exclusion first one second two different
    · cases pending'
    · cases pending
    · cases pending
  payments := wellFormed.payments
  events := wellFormed.events
  backed := fun member => by cases member

/-! ## Soundness -/

/-- What a finished call says about the statements it issued. -/
def Promise (cfg : Settings) (law : Db → Prop) : Call → Except AppError Reply → Log → Prop
  | .createBooking _, .ok _, log => ∀ event ∈ log, ¬Losing event
  | .createBooking _, .error error, log => CreateFailed error log
  | .createPendingPaymentHold _, .ok _, log => ∀ event ∈ log, ¬Losing event
  | .createPendingPaymentHold _, .error error, log => HoldFailed error log
  | .confirmBookingPayment args, .ok (.booking row), log =>
      ConfirmOutcome cfg law args (.ok row) log
  | .confirmBookingPayment _, .ok _, _ => False
  | .confirmBookingPayment args, .error error, log =>
      ConfirmOutcome cfg law args (.error error) log
  | _, _, _ => True

section Soundness

variable {cfg : Settings} {law : Db → Prop} {pid : Pid}

/-- A specification of the function behind a call gives the promise of the
call. -/
theorem safe_of_spec {call : Call} {α : Type} {program : DbM α} {wrap : α → Reply}
    {pre : World Call → Log → Prop} {ok : α → World Call → Log → Prop}
    {err : AppError → Log → Prop} (spec : Spec cfg law pid call pre program ok err)
    (performs : perform cfg call = wrap <$> program) {world : World Call}
    (inv : (bookingDiscipline law).invariant world) (met : pre world [])
    (returned : ∀ value world log, ok value world log → Promise cfg law call (.ok (wrap value)) log)
    (raised : ∀ error log, err error log → Promise cfg law call (.error error) log) :
    (bookingDiscipline law).Safe (bookingMachine cfg) pid call
      (fun result _ log => Promise cfg law call result log) (perform cfg call) world [] := by
  have wrapped : Spec cfg law pid call pre (program >>= fun value => .ret (wrap value))
      (fun reply _ log => Promise cfg law call (.ok reply) log)
      (fun error log => Promise cfg law call (.error error) log) := by
    refine bind_rule (fun value _ log => Promise cfg law call (.ok (wrap value)) log)
      (weaken_rule spec (fun _ _ _ met => met) returned raised) fun value => ?_
    exact ⟨.ret (fun _ => .const _) fun _ _ _ met => met⟩
  rw [performs]
  refine Discipline.Safe.mono ?_ inv (wrapped.triple world [] inv met)
  intro result world log _ met
  cases result with
  | ok reply => exact met
  | error error => exact met

theorem bookingDiscipline_sound (cfg : Settings) (lawful : Lawful law) :
    (bookingDiscipline law).Sound (bookingMachine cfg) (fun _ => True) (Promise cfg law) where
  enter := fun pid world inv =>
    ⟨⟨inv.1.release pid, inv.2⟩, .quiet (.release ..) rfl rfl⟩
  leave := fun pid world inv =>
    ⟨⟨inv.1.release pid, inv.2⟩, .quiet (.release ..) rfl rfl⟩
  ambient := by
    rintro before after ⟨consistent, lawHolds⟩ ⟨db, clock, outside, -, same, -, rfl⟩
    exact ⟨consistent.catalogue same, lawful.catalogue same lawHolds⟩
  perform := by
    intro pid call _ world inv
    have released : (bookingDiscipline law).invariant (world.release pid) :=
      ⟨inv.1.release pid, inv.2⟩
    have fresh := writesOf_release_self world pid
    have quiet : At pid [] (.nothing pid) .nothing (world.release pid) [] :=
      ⟨fresh, trivial, trivial⟩
    have ordinary : At pid [] (.nothing pid) (.ordinary []) (world.release pid) [] :=
      ⟨fresh, trivial, Memory.ordinary_self []⟩
    cases call with
    | createBooking args =>
        refine safe_of_spec (createBooking_spec lawful rfl args []) rfl released ordinary ?_ ?_
        · rintro value world log ⟨-, -, rest, rfl, each⟩
          exact each
        · rintro error log ⟨rest, rfl, failed⟩
          exact failed
    | createPendingPaymentHold args =>
        refine safe_of_spec (createPendingPaymentHold_spec lawful rfl []) rfl released ordinary
          ?_ ?_
        · rintro value world log ⟨-, -, rest, rfl, each⟩
          exact each
        · rintro error log ⟨rest, rfl, failed⟩
          exact failed
    | confirmBookingPayment args =>
        exact safe_of_spec (confirmBookingPayment_spec lawful rfl) rfl released
          ⟨fresh, trivial, rfl⟩ (fun _ _ _ met => met) fun _ _ met => met
    | expirePendingPaymentHold args =>
        exact safe_of_spec (expirePendingPaymentHold_spec lawful rfl args) rfl released quiet
          (fun _ _ _ _ => trivial) fun _ _ _ => trivial
    | expireStalePaymentHolds =>
        exact safe_of_spec (expireStalePaymentHolds_spec lawful rfl) rfl released quiet
          (fun _ _ _ _ => trivial) fun _ _ _ => trivial
    | refundBookingPayment args =>
        exact safe_of_spec (refundBookingPayment_spec lawful rfl) rfl released quiet
          (fun _ _ _ _ => trivial) fun _ _ _ => trivial
    | cancelBooking args =>
        exact safe_of_spec (cancelBooking_spec lawful rfl args) rfl released quiet
          (fun _ _ _ _ => trivial) fun _ _ _ => trivial
    | rescheduleBooking args =>
        exact safe_of_spec (rescheduleBooking_spec lawful rfl) rfl released quiet
          (fun _ _ _ _ => trivial) fun _ _ _ => trivial
    | createWaitlistEntry args =>
        exact safe_of_spec (createWaitlistEntry_spec lawful rfl) rfl released quiet
          (fun _ _ _ _ => trivial) fun _ _ _ => trivial
    | expireStaleWaitlistOffers =>
        exact safe_of_spec (expireStaleWaitlistOffers_spec lawful rfl) rfl released quiet
          (fun _ _ _ _ => trivial) fun _ _ _ => trivial
    | work task =>
        exact safe_of_spec (clerk_spec lawful (Clerical.work cfg task)) rfl released
          (.of_nil fresh) (fun _ _ _ _ => trivial) fun _ _ _ => trivial

end Soundness

/-! ## Histories -/

/-- Configurations of the booking service. -/
abbrev BookingConfig := Config Sql (World Call) Call AppError Reply

/-- Any interleaving of any number of calls. -/
abbrev BookingRun (cfg : Settings) : BookingConfig → BookingConfig → Prop :=
  Runs (bookingMachine cfg) fun _ _ => True

/-- The configuration in which the database has been set up and no call has
been started. -/
abbrev bookingStart (db : Db) (nextId : Nat) (clock : Instant) (redisTakes : Nat → Bool) :
    BookingConfig :=
  Config.initial (World.start db nextId clock redisTakes)

/-- A configuration that keeps the discipline. -/
abbrev Orderly (cfg : Settings) (law : Db → Prop) (config : BookingConfig) : Prop :=
  (bookingDiscipline law).Disciplined (bookingMachine cfg) (Promise cfg law) config

section Histories

variable {cfg : Settings} {law : Db → Prop}

theorem orderly_start (cfg : Settings) (law : Db → Prop) {db : Db} {nextId : Nat}
    (wellFormed : db.WellFormed nextId)
    (lawHolds : law db) (clock : Instant) (redisTakes : Nat → Bool) :
    Orderly cfg law (bookingStart db nextId clock redisTakes) :=
  .initial ⟨wellFormed.consistent clock redisTakes, lawHolds⟩

theorem BookingRun.disciplined (lawful : Lawful law) {start config : BookingConfig}
    (orderly : Orderly cfg law start) (runs : BookingRun cfg start config) :
    Orderly cfg law config ∧
      Relation.ReflTransGen ((bookingDiscipline law).Evolves (bookingMachine cfg)) start.world
        config.world := by
  refine Discipline.Disciplined.runs (bookingDiscipline_sound cfg lawful) orderly ?_
  refine Runs.mono (fun _ action _ => ?_) runs
  cases action <;> trivial

/-- Orderly configurations stay orderly. -/
theorem BookingRun.orderly (lawful : Lawful law) {start config : BookingConfig}
    (orderly : Orderly cfg law start) (runs : BookingRun cfg start config) :
    Orderly cfg law config :=
  (BookingRun.disciplined lawful orderly runs).1

/-- **The invariant rule for runs of the services.** What holds at the start and is kept
by every admitted step between consistent worlds holds in every configuration reached. -/
theorem Runs.orderly_invariant (lawful : Lawful law)
    {admitted : BookingConfig → Action Call → Prop} (invariant : BookingConfig → Prop)
    {start config : BookingConfig} (orderly : Orderly cfg law start)
    (runs : Runs (bookingMachine cfg) admitted start config) (initial : invariant start)
    (step : ∀ before action after, Orderly cfg law before → invariant before →
      admitted before action → Step (bookingMachine cfg) before action after → invariant after) :
    invariant config := by
  have both : BookingRun cfg start config ∧ invariant config := by
    induction runs with
    | refl => exact ⟨.refl, initial⟩
    | tail _ last ih =>
        obtain ⟨action, allowed, taken⟩ := last
        exact ⟨ih.1.tail ⟨action, trivial, taken⟩, step _ action _
          (BookingRun.orderly lawful orderly ih.1) ih.2 allowed taken⟩
  exact both.2

/-- What a session commits is an enabled transaction of its call. -/
theorem Orderly.commits {config : BookingConfig} (orderly : Orderly cfg law config) {pid : Pid}
    {call : Call} {next : Unit → DbM Reply} {log : List (Event Sql)}
    (running : config.running pid = some ⟨call, .call .commit next, log⟩) :
    ∃ transaction : Transaction, config.world.writesOf pid = transaction.writes ∧
      transaction.Enabled config.world.db call := by
  have moves : Moves pid config.world (config.world.committed pid call) :=
    (orderly.safe pid _ running config.world .refl () _ rfl).2.1
  rcases moves.ledger with ⟨-, same⟩ | ⟨caller, transaction, writes, enabled, -, journal⟩
  · have longer := congrArg List.length same
    simp [World.committed, World.release] at longer
  · refine ⟨transaction, writes, ?_⟩
    have last := List.singleton_inj.mp (List.append_inj' journal rfl).2
    have caller' : call = caller := congrArg Committed.call last
    exact caller' ▸ enabled

/-- **The invariant rule for histories.** What holds of the committed rows and
the journal at the start, and is kept by edits of the catalogue and by every
enabled transaction, holds in every configuration reached. -/
theorem BookingRun.history (lawful : Lawful law) {start config : BookingConfig}
    (invariant : Db → List (Committed Call) → Prop) (orderly : Orderly cfg law start)
    (runs : BookingRun cfg start config)
    (initial : invariant start.world.db start.world.journal)
    (catalogue : ∀ before after journal, SameLedger before after → invariant before journal →
      invariant after journal)
    (commit : ∀ (world : World Call) call transaction, world.Consistent → law world.db →
      Transaction.Enabled world.db call transaction → invariant world.db world.journal →
      invariant (world.db.applyAll transaction.writes)
        (world.journal ++ [⟨call, transaction.writes⟩])) :
    invariant config.world.db config.world.journal := by
  obtain ⟨-, evolution⟩ := BookingRun.disciplined lawful orderly runs
  generalize config.world = world at evolution
  induction evolution with
  | refl => exact initial
  | @tail before after _ step ih =>
      obtain ⟨⟨consistent, lawHolds⟩, -, ⟨pid, moves⟩ | ⟨db, clock, outside, -, same, -, rfl⟩⟩ :=
        step
      · rcases moves.ledger with ⟨db, journal⟩ | ⟨call, transaction, -, enabled, db, journal⟩
        · rw [db, journal]
          exact ih
        · rw [db, journal]
          exact commit before call transaction consistent lawHolds enabled ih
      · exact catalogue _ _ _ same ih

/-- A list of actions that can be carried out is a run. -/
theorem BookingRun.of_actions {start : BookingConfig} {actions : List (Action Call)}
    (possible : (start.runActions (bookingMachine cfg) actions).isSome = true) :
    BookingRun cfg start ((start.runActions (bookingMachine cfg) actions).get possible) :=
  Runs.of_runActions actions (Option.some_get possible).symm

end Histories

/-! ## What others can see -/

/-- A statement that neither commits nor pushes leaves the committed rows and
the jobs as they are. -/
theorem execStmt_silent {pid : Pid} {call : Call} {stmt : Stmt} {world after : World Call}
    {answer : stmt.Answer} (executed : execStmt pid call stmt world = some (answer, after))
    (silent : ¬Visible ⟨stmt, answer⟩) : after.db = world.db ∧ after.jobs = world.jobs := by
  cases stmt with
  | select query =>
      cases executed
      exact ⟨rfl, rfl⟩
  | selectBookingForUpdate id tenantId =>
      simp only [execStmt] at executed
      split at executed
      · cases executed
        exact ⟨rfl, rfl⟩
      · split at executed
        · cases executed
        · cases executed
          exact ⟨acquire_db .., acquire_jobs ..⟩
  | selectWaitlistForUpdateSkipLocked filter =>
      simp only [execStmt] at executed
      split at executed
      · cases executed
        exact ⟨rfl, rfl⟩
      · cases executed
        exact ⟨acquire_db .., acquire_jobs ..⟩
  | selectStaleOffersForUpdateSkipLocked threshold =>
      cases executed
      exact ⟨(acquireAll_fields ..).1, acquireAll_jobs ..⟩
  | insert draft =>
      simp only [execStmt] at executed
      split at executed
      · cases executed
      · split at executed
        · cases executed
          exact ⟨rfl, rfl⟩
        · cases executed
          exact ⟨rfl, rfl⟩
  | update write =>
      simp only [execStmt] at executed
      split at executed
      · cases executed
        exact ⟨rfl, rfl⟩
      · split at executed
        · cases executed
        · cases executed
          exact ⟨acquire_db .., acquire_jobs ..⟩
  | commit => exact absurd trivial silent
  | rollback =>
      cases executed
      exact ⟨rfl, rfl⟩
  | now =>
      cases executed
      exact ⟨rfl, rfl⟩
  | push job => exact absurd trivial silent
  | ask request =>
      cases executed
      exact ⟨rfl, rfl⟩

/-- A step appends an event to the log of a call. -/
def Appends (before after : BookingConfig) (pid : Pid) (event : Event Sql) : Prop :=
  ∃ process rest, before.running pid = some process ∧
    after.running pid = some ⟨process.call, rest, process.log ++ [event]⟩

/-- A step that changes the committed rows or the jobs, an edit of the catalogue
apart, appends a visible statement to the log of a call. -/
def Accountable (cfg : Settings) (config : BookingConfig) : Prop :=
  ∀ action after, Step (bookingMachine cfg) config action after → action ≠ .ambient →
    (∃ pid event, action = .issue pid ∧ Appends config after pid event ∧ Visible event) ∨
      (after.world.db = config.world.db ∧ after.world.jobs = config.world.jobs)

theorem accountable (cfg : Settings) (config : BookingConfig) : Accountable cfg config := by
  intro action after step made
  cases step with
  | start call idle => exact .inr ⟨rfl, rfl⟩
  | @issue pid call stmt next log answer world running executed =>
      by_cases visible : Visible ⟨stmt, answer⟩
      · refine .inl ⟨pid, ⟨stmt, answer⟩, rfl, ⟨_, next answer, running, ?_⟩, visible⟩
        exact Function.update_self ..
      · exact .inr (execStmt_silent executed visible)
  | finish running ended => exact .inr ⟨rfl, rfl⟩
  | stop running => exact .inr ⟨rfl, rfl⟩
  | ambient changed => exact absurd rfl made

/-! ## Runs of single calls -/

/-- The actions of a call that runs alone and issues a number of statements. -/
def wholeCall (pid : Pid) (call : Call) (statements : Nat) : List (Action Call) :=
  .start pid call :: (List.replicate statements (.issue pid) ++ [.finish pid])

/-- The law that asks for nothing. -/
theorem lawful_true : Lawful fun _ => True := ⟨fun _ _ _ => trivial, fun _ _ => trivial⟩

/-! ## What the transactions do to the tables -/

/-- The table that a write is for, among the bookings, the payments and the waitlist. -/
def Write.table : Write → Option Table
  | .insertBooking _ => some .bookings
  | .updateBooking _ _ => some .bookings
  | .insertPayment _ => some .bookingPayments
  | .updatePayment _ _ => some .bookingPayments
  | .insertWaitlistEntry _ => some .waitlistEntries
  | .updateWaitlistEntry _ _ => some .waitlistEntries
  | _ => none

namespace Db

theorem bookings_applyAll_of_table {writes : List Write}
    (others : ∀ write ∈ writes, write.table ≠ some .bookings) (db : Db) :
    (db.applyAll writes).bookings = db.bookings := by
  induction writes generalizing db with
  | nil => rfl
  | cons write writes ih =>
      rw [applyAll_cons, ih fun other member => others other (List.mem_cons_of_mem _ member)]
      have other := others write List.mem_cons_self
      cases write with
      | insertBooking row => exact absurd rfl other
      | updateBooking id change => exact absurd rfl other
      | _ => rfl

theorem payments_applyAll_of_table {writes : List Write}
    (others : ∀ write ∈ writes, write.table ≠ some .bookingPayments) (db : Db) :
    (db.applyAll writes).bookingPayments = db.bookingPayments := by
  induction writes generalizing db with
  | nil => rfl
  | cons write writes ih =>
      rw [applyAll_cons, ih fun other member => others other (List.mem_cons_of_mem _ member)]
      have other := others write List.mem_cons_self
      cases write with
      | insertPayment row => exact absurd rfl other
      | updatePayment id change => exact absurd rfl other
      | _ => rfl

end Db

theorem outbox_table {messages : List NotificationOutbox} {table : Table} :
    ∀ write ∈ messages.map Write.insertOutbox, write.table ≠ some table := by
  intro write member
  obtain ⟨message, -, rfl⟩ := List.mem_map.mp member
  exact nofun

theorem notice_table {messages : List NotificationOutbox} {event : CalendarEvent} {table : Table} :
    ∀ write ∈ messages.map Write.insertOutbox ++ [.insertCalendarEvent event],
      write.table ≠ some table := by
  intro write member
  rcases List.mem_append.mp member with message | last
  · exact outbox_table write message
  · rw [List.mem_singleton] at last
    subst last
    exact nofun

theorem offer_table (offer : Option Offer) {table : Table} (other : table ≠ .waitlistEntries) :
    ∀ write ∈ Offer.writes? offer, write.table ≠ some table := by
  intro write member
  cases offer with
  | none => cases member
  | some offer =>
      simp only [Offer.writes?, Offer.writes, List.mem_cons, List.not_mem_nil, or_false] at member
      rcases member with rfl | rfl
      · rintro ⟨⟩
        exact other rfl
      · rintro ⟨⟩

theorem clerk_table {changes : List Write} (clerical : ∀ write ∈ changes, write.Clerical)
    {table : Table} : ∀ write ∈ changes, write.table ≠ some table := by
  intro write member
  cases clerical write member <;> exact nofun

theorem sweep_table (rounds : List Round) {table : Table} (other : table ≠ .waitlistEntries) :
    ∀ write ∈ rounds.flatMap Round.writes, write.table ≠ some table := by
  intro write member
  obtain ⟨round, -, member⟩ := List.mem_flatMap.mp member
  rcases List.mem_cons.mp member with rfl | rest
  · rintro ⟨⟩
    exact other rfl
  · exact offer_table _ other write rest

namespace Transaction

/-- The bookings after a transaction. -/
def bookingsAfter (rows : List Booking) : Transaction → List Booking
  | .book booking _ _ _ => rows ++ [booking]
  | .hold booking _ _ => rows ++ [booking]
  | .confirm booking _ _ _ _ _ _ =>
      rows.map fun row => if row.id = booking.id then BookingChange.apply .confirm row else row
  | .free booking reason _ _ _ _ =>
      rows.map fun row =>
        if row.id = booking.id then BookingChange.apply (.cancel reason) row else row
  | _ => rows

/-- The payments after a transaction. -/
def paymentsAfter (rows : List BookingPayment) : Transaction → List BookingPayment
  | .hold _ payment _ => rows ++ [payment]
  | .confirm _ payment providerPaymentId paidAt _ _ _ =>
      rows.map fun row =>
        if row.id = payment.id then PaymentChange.apply (.succeed providerPaymentId paidAt) row
        else row
  | .free _ reason (some payment) _ _ _ =>
      rows.map fun row =>
        if row.id = payment.id then PaymentChange.apply (.fail reason) row else row
  | .refund payment refundedAt _ =>
      rows.map fun row =>
        if row.id = payment.id then PaymentChange.apply (.refund refundedAt) row else row
  | _ => rows

/-- The booking that a transaction updates, and how. -/
def bookingUpdate : Transaction → Option (Nat × BookingChange)
  | .confirm booking _ _ _ _ _ _ => some (booking.id, .confirm)
  | .free booking reason _ _ _ _ => some (booking.id, .cancel reason)
  | _ => none

theorem mem_updateBooking {transaction : Transaction} {id : Nat} {change : BookingChange} :
    Write.updateBooking id change ∈ transaction.writes ↔
      transaction.bookingUpdate = some (id, change) := by
  have elsewhere : ∀ {others : List Write}, (∀ write ∈ others, write.table ≠ some .bookings) →
      Write.updateBooking id change ∉ others := fun apart member => apart _ member rfl
  cases transaction with
  | book booking audit messages event => simp [writes, bookingUpdate]
  | hold booking payment audit => simp [writes, bookingUpdate]
  | confirm booking payment providerPaymentId paidAt audit messages event =>
      simp [writes, bookingUpdate, eq_comm]
  | free booking reason payment audit messages offer =>
      have notOffered := elsewhere (offer_table offer (by decide))
      cases payment <;> simp [writes, bookingUpdate, failWrites, notOffered, eq_comm]
  | refund payment refundedAt audit => simp [writes, bookingUpdate]
  | note audit => simp [writes, bookingUpdate]
  | enroll entry => simp [writes, bookingUpdate]
  | sweep rounds =>
      have notSwept := elsewhere (sweep_table rounds (by decide))
      simp only [writes, bookingUpdate, notSwept, reduceCtorEq]
  | clerk changes clerical =>
      have notFiled := elsewhere (clerk_table clerical)
      simp only [writes, bookingUpdate, notFiled, reduceCtorEq]

theorem bookings_applyAll (transaction : Transaction) (db : Db) :
    (db.applyAll transaction.writes).bookings = transaction.bookingsAfter db.bookings := by
  cases transaction with
  | book booking audit messages event =>
      rw [writes, List.append_assoc, Db.applyAll_append, Db.bookings_applyAll_of_table]
      · rfl
      · exact notice_table
  | hold booking payment audit => rfl
  | confirm booking payment providerPaymentId paidAt audit messages event =>
      rw [writes, List.append_assoc, Db.applyAll_append, Db.bookings_applyAll_of_table]
      · rfl
      · exact notice_table
  | free booking reason payment audit messages offer =>
      rw [writes, List.append_assoc, List.append_assoc, List.append_assoc, Db.applyAll_append,
        Db.bookings_applyAll_of_table]
      · rfl
      · intro write member
        simp only [List.mem_append, List.mem_singleton] at member
        rcases member with paid | rfl | message | offered
        · cases payment with
          | none => cases paid
          | some payment =>
              rw [failWrites, List.mem_singleton] at paid
              subst paid
              rintro ⟨⟩
        · rintro ⟨⟩
        · exact outbox_table write message
        · exact offer_table offer (by decide) write offered
  | refund payment refundedAt audit => rfl
  | note audit => rfl
  | enroll entry => rfl
  | sweep rounds => exact Db.bookings_applyAll_of_table (sweep_table rounds (by decide)) db
  | clerk changes clerical => exact Db.bookings_applyAll_of_table (clerk_table clerical) db

theorem payments_applyAll (transaction : Transaction) (db : Db) :
    (db.applyAll transaction.writes).bookingPayments =
      transaction.paymentsAfter db.bookingPayments := by
  cases transaction with
  | book booking audit messages event =>
      rw [writes, List.append_assoc, Db.applyAll_append, Db.payments_applyAll_of_table]
      · rfl
      · exact notice_table
  | hold booking payment audit => rfl
  | confirm booking payment providerPaymentId paidAt audit messages event =>
      rw [writes, List.append_assoc, Db.applyAll_append, Db.payments_applyAll_of_table]
      · rfl
      · exact notice_table
  | free booking reason payment audit messages offer =>
      rw [writes, List.append_assoc, List.append_assoc, Db.applyAll_append,
        Db.payments_applyAll_of_table]
      · cases payment <;> rfl
      · intro write member
        simp only [List.mem_append, List.mem_singleton] at member
        rcases member with rfl | message | offered
        · rintro ⟨⟩
        · exact outbox_table write message
        · exact offer_table offer (by decide) write offered
  | refund payment refundedAt audit => rfl
  | note audit => rfl
  | enroll entry => rfl
  | sweep rounds => exact Db.payments_applyAll_of_table (sweep_table rounds (by decide)) db
  | clerk changes clerical => exact Db.payments_applyAll_of_table (clerk_table clerical) db

end Transaction

end AppointmentVoice
