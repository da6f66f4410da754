import AppointmentVoice.Properties.SlotRemoval
import AppointmentVoice.Services.ReplyPaths

/-!
# A repeated cancellation by SMS

The provider delivers a message again when it has had no answer.  Every delivery looks for
the customer's next appointment anew, so that a second one may cancel another appointment.
Where each lookup finds the same appointment or none, all deliveries together change what one
of them does.

**Deliveries.** What a delivery may have done is followed through its statements (`step`), and
so through any number of deliveries (`Delivering.runs`).

**The result.** `repeated_cancellation_is_a_noop`; a customer with two appointments loses both
to one message that is delivered twice (`second_delivery_cancels_again`).
-/

set_option autoImplicit false

namespace AppointmentVoice

open Concurrency World

/-! ## Deliveries of one message -/

/-- The message is delivered, and lookups find the appointment `target` or none. -/
def delivers (sms : SmsReply) (target : Nat) (config : SmsConfig) : Action SmsReply → Bool
  | .start _ call => call = sms
  | .issue pid =>
      match config.running pid with
      | some ⟨_,
          .call (.select (.nextConfirmedBooking businessId tenantId customerId time)) _, _⟩ =>
          ((Query.nextConfirmedBooking businessId tenantId customerId time).eval
            (config.world.view pid) : Option Booking).all fun row => row.id == target
      | _ => true
  | _ => true

/-- The committed state is that after one cancellation of the appointment: its messages and at
most one offer of the slot were written once. -/
def CancelledOnce (start : Db) (target : Nat) (world : World Call) : Prop :=
  ∃ booking reason payment audit messages offer,
    booking ∈ start.bookings ∧ booking.id = target ∧ booking.status ≠ .cancelled ∧
    About booking .bookingCancellation messages ∧
    world.journal.map (·.writes) =
      [(Transaction.free booking reason payment audit messages offer).writes] ∧
    world.db =
      start.applyAll (Transaction.free booking reason payment audit messages offer).writes

/-- Nobody has been changed, or the appointment has been cancelled once. -/
def CancelledAtMostOnce (start : Db) (target : Nat) (world : World Call) : Prop :=
  (world.journal = [] ∧ world.db = start) ∨ CancelledOnce start target world

/-! ## What a log teaches -/

/-- What an event teaches about the database before any delivery, as long as nothing has been
committed. -/
def Learned (start : Db) (world : World Call) (writes : List Write) : Event Sql → Prop
  | ⟨.select query, answer⟩ => writes = [] → world.journal = [] → answer = query.eval start
  | ⟨.selectBookingForUpdate _ _, answer⟩ => writes = [] → world.journal = [] →
      ∀ row, (answer : Option Booking) = some row → row ∈ start.bookings
  | ⟨.now, (time : Instant)⟩ => time ≤ world.clock
  | ⟨.commit, _⟩ => world.journal ≠ []
  | _ => True

/-- What a log teaches. -/
def LearnedFrom (start : Db) (world : World Call) (log : Log) : Prop :=
  ∀ earlier event, earlier ++ [event] <+: log → Learned start world (uncommitted earlier) event

section Learning

variable {start : Db} {world after : World Call} {log : Log}

theorem Learned.mono {writes : List Write} {event : Event Sql}
    (journal : after.journal = [] → world.journal = []) (clock : world.clock ≤ after.clock)
    (learned : Learned start world writes event) : Learned start after writes event := by
  obtain ⟨stmt, answer⟩ := event
  cases stmt with
  | select query => exact fun clean none => learned clean (journal none)
  | selectBookingForUpdate id tenantId => exact fun clean none => learned clean (journal none)
  | now => exact Int.le_trans learned clock
  | commit => exact fun none => learned (journal none)
  | _ => trivial

theorem LearnedFrom.mono (journal : after.journal = [] → world.journal = [])
    (clock : world.clock ≤ after.clock) (learned : LearnedFrom start world log) :
    LearnedFrom start after log :=
  fun earlier event there => (learned earlier event there).mono journal clock

theorem LearnedFrom.snoc {event : Event Sql} (learned : LearnedFrom start world log)
    (new : Learned start world (uncommitted log) event) :
    LearnedFrom start world (log ++ [event]) := by
  intro earlier other there
  rcases List.prefix_concat_iff.mp there with same | old
  · obtain ⟨rfl, last⟩ := List.append_inj' same rfl
    rw [List.singleton_inj.mp last]
    exact new
  · exact learned earlier other old

/-- The events of a statement in a session that has written nothing. -/
theorem learned_of_exec {pid : Pid} {call : Call} {stmt : Stmt} {answer : stmt.Answer}
    (unchanged : world.journal = [] → world.db = start)
    (executed : execStmt pid call stmt world = some (answer, after)) :
    Learned start after (world.writesOf pid) ⟨stmt, answer⟩ := by
  cases stmt with
  | select query =>
      cases executed
      intro clean none
      rw [view_of_writesOf_nil clean, unchanged none]
  | selectBookingForUpdate id tenantId =>
      intro clean none row found
      have journal : after.journal = world.journal := by
        cases execStmt_effect executed with
        | quiet nothing db pending journal => exact journal
      rw [journal] at none
      simp only [execStmt, view_of_writesOf_nil clean, unchanged none] at executed
      split at executed
      · cases executed
        cases found
      · next answered =>
          split at executed
          · cases executed
          · cases executed
            cases found
            exact List.mem_of_find?_eq_some answered
  | now =>
      cases executed
      exact Int.le_refl _
  | commit =>
      cases executed
      exact List.append_ne_nil_of_right_ne_nil _ (List.cons_ne_nil _ _)
  | _ => trivial

end Learning

/-! ## Runs -/

/-- What holds while a message is delivered any number of times. -/
structure Delivering (cfg : Settings) (entry : CancelBooking) (start : Db) (target : Nat)
    (sms : SmsReply) (config : SmsConfig) : Prop where
  disciplined : (bookingDiscipline fun _ => True).Disciplined (smsMachine cfg entry)
    (fun _ _ _ => True) config
  atMostOnce : CancelledAtMostOnce start target config.world
  own : ∀ pid id change, Write.updateBooking id change ∈ config.world.writesOf pid → id = target
  recorded : Recorded config
  watched : config.Watched (replyWatch target)
  learned : config.Every fun world _ log => LearnedFrom start world log
  named : config.Every fun _ call _ => call = sms

section Steps

variable {cfg : Settings} {entry : CancelBooking} {start : Db} {target : Nat} {sms : SmsReply}
variable {before after : SmsConfig} {action : Action SmsReply}

/-- What a step does to the committed rows and the journal. -/
inductive DeliveryStep (entry : CancelBooking) (before after : SmsConfig) : Prop where
  | same (db : after.world.db = before.world.db)
      (journal : after.world.journal = before.world.journal)
  | commit {pid : Pid} {call : SmsReply} {next : Unit → DbM SmsReplyIntent} {log : Log}
      {transaction : Transaction}
      (running : before.running pid = some ⟨call, .call (S := Sql) .commit next, log⟩)
      (writes : before.world.writesOf pid = transaction.writes)
      (enabled : transaction.Enabled before.world.db (.cancelBooking entry))
      (world : after.world = before.world.committed pid (.cancelBooking entry))

namespace Delivering

variable (delivering : Delivering cfg entry start target sms before)
include delivering

/-- What a delivery commits is an enabled transaction of a cancellation. -/
theorem commits {pid : Pid} {call : SmsReply} {next : Unit → DbM SmsReplyIntent} {log : Log}
    (running : before.running pid = some ⟨call, .call (S := Sql) .commit next, log⟩) :
    ∃ transaction : Transaction, before.world.writesOf pid = transaction.writes ∧
      transaction.Enabled before.world.db (.cancelBooking entry) := by
  have moves : Moves pid before.world (before.world.committed pid (.cancelBooking entry)) :=
    (delivering.disciplined.safe pid _ running before.world .refl () _ rfl).2.1
  rcases moves.ledger with ⟨-, same⟩ | ⟨caller, transaction, writes, enabled, -, journal⟩
  · have longer := congrArg List.length same
    simp [World.committed, World.release] at longer
  · refine ⟨transaction, writes, ?_⟩
    have last := List.singleton_inj.mp (List.append_inj' journal rfl).2
    have sameCall : Call.cancelBooking entry = caller := congrArg Committed.call last
    exact sameCall ▸ enabled

theorem deliveryStep (taken : Step (smsMachine cfg entry) before action after) :
    DeliveryStep entry before after := by
  cases taken with
  | start call idle => exact .same rfl rfl
  | @issue pid call stmt next log answer world running executed =>
      have ran : execStmt pid (.cancelBooking entry) stmt before.world = some (answer, world) :=
        executed
      cases execStmt_effect ran with
      | quiet nothing db pending journal => exact .same db journal
      | inserted db pending journal => exact .same db journal
      | updated db pending journal => exact .same db journal
      | committed world =>
          obtain ⟨transaction, writes, enabled⟩ := delivering.commits running
          exact .commit running writes enabled world
      | rolledBack world =>
          subst world
          exact .same rfl rfl
  | finish running ended => exact .same rfl rfl
  | stop running => exact .same rfl rfl
  | ambient changed =>
      obtain ⟨clock, -, rfl⟩ := changed
      exact .same rfl rfl

omit delivering in
theorem clock_le (taken : Step (smsMachine cfg entry) before action after) :
    before.world.clock ≤ after.world.clock := by
  cases taken with
  | @issue pid call stmt next log answer world running executed =>
      have ran : execStmt pid (.cancelBooking entry) stmt before.world = some (answer, world) :=
        executed
      exact (execStmt_clock ran).ge
  | ambient changed =>
      obtain ⟨clock, later, rfl⟩ := changed
      exact later
  | _ => exact Int.le_refl _

/-- A step commits at most one transaction. -/
theorem journal_grows (taken : Step (smsMachine cfg entry) before action after) :
    before.world.journal <+: after.world.journal := by
  cases delivering.deliveryStep taken with
  | same db journal => exact journal ▸ List.prefix_rfl
  | commit running writes enabled world =>
      rw [world]
      exact List.prefix_append _ _

theorem unchanged (none : before.world.journal = []) : before.world.db = start := by
  rcases delivering.atMostOnce with ⟨-, same⟩ | ⟨_, _, _, _, _, _, -, -, -, -, journal, -⟩
  · exact same
  · rw [none] at journal
    cases journal

/-- After a cancellation nothing is committed. -/
theorem atMostOnce_step (taken : Step (smsMachine cfg entry) before action after) :
    CancelledAtMostOnce start target after.world := by
  cases delivering.deliveryStep taken with
  | same db journal =>
      rcases delivering.atMostOnce with ⟨none, same⟩ | ⟨b, r, p, a, m, o, there, key, active, about,
        once, changed⟩
      · exact .inl ⟨journal.trans none, db.trans same⟩
      · exact .inr ⟨b, r, p, a, m, o, there, key, active, about, by rw [journal, once],
          db.trans changed⟩
  | @commit pid call next log transaction running writes enabled world =>
      cases enabled with
      | book caller => cases caller
      | @free _ booking reason payment audit messages offer there frees due nothing offers =>
          cases frees with
          | expire caller => cases caller
          | cancel caller active action about =>
              have key : booking.id = target := by
                refine delivering.own pid booking.id (.cancel reason) ?_
                rw [writes, Transaction.mem_updateBooking]
                rfl
              rcases delivering.atMostOnce with ⟨none, same⟩ | ⟨gone, r, p, a, m, o, -,
                goneKey, -, -,
                -, changed⟩
              · refine .inr ⟨booking, reason, payment, audit, messages, offer,
                  same ▸ there, key, active,
                  about, ?_, ?_⟩
                · rw [world, World.committed, none, writes]
                  rfl
                · rw [world, ← same, ← writes]
                  rfl
              · rw [changed, Transaction.bookings_applyAll] at there
                obtain ⟨row, -, rfl⟩ := List.mem_map.mp there
                refine absurd ?_ active
                have sameKey : row.id = gone.id := by
                  rw [goneKey, ← key]
                  split <;> rfl
                rw [if_pos sameKey]
                rfl

/-- Sessions update the appointment alone. -/
theorem own_step (taken : Step (smsMachine cfg entry) before action after)
    (cancels : parseReplyIntent sms.body = .cancel) (pid : Pid) (id : Nat) (change : BookingChange)
    (member : Write.updateBooking id change ∈ after.world.writesOf pid) : id = target := by
  have released : ∀ closed : Pid,
      Write.updateBooking id change ∈ (before.world.release closed).writesOf pid → id = target :=
    fun closed there => delivering.own pid id change (mem_writesOf_release.mp there).1
  cases taken with
  | start call idle => exact released _ member
  | @issue issuer call stmt next log answer world running executed =>
      have ran : execStmt issuer (.cancelBooking entry) stmt before.world = some (answer, world) :=
        executed
      have along := delivering.watched.running issuer _ running
      obtain rfl : call = sms := delivering.named.running issuer _ running
      rw [← mem_pending_iff] at member
      cases execStmt_effect ran with
      | quiet nothing db pending journal =>
          rw [pending, mem_pending_iff] at member
          exact delivering.own pid id change member
      | @inserted draft db pending journal =>
          rw [pending, List.mem_append, mem_pending_iff, List.mem_singleton] at member
          rcases member with old | new
          · exact delivering.own pid id change old
          · cases along with
            | call allowed rest => exact absurd (Prod.mk.inj new).2.symm (allowed cancels _ _ _)
      | @updated own db pending journal =>
          rw [pending, List.mem_append, mem_pending_iff, List.mem_singleton] at member
          rcases member with old | new
          · exact delivering.own pid id change old
          · cases new
            cases along with
            | call allowed rest => exact allowed cancels
      | committed same =>
          subst same
          exact released _ (mem_pending_iff.mp member)
      | rolledBack same =>
          subst same
          exact released _ (mem_pending_iff.mp member)
  | finish running ended => exact released _ member
  | stop running => exact released _ member
  | ambient changed =>
      obtain ⟨clock, -, rfl⟩ := changed
      exact delivering.own pid id change member

/-- The lookups give what the condition says. -/
theorem watched_step (finds : delivers sms target before action = true)
    (taken : Step (smsMachine cfg entry) before action after) :
      after.Watched (replyWatch target) := by
  refine delivering.watched.step taken (fun call => handleSmsReply_along cfg) ?_
  rintro pid call stmt next log answer world rfl running executed
  cases stmt with
  | select query =>
      cases query with
      | nextConfirmedBooking businessId tenantId customerId time =>
          intro row found
          have answered : answer = (Query.nextConfirmedBooking businessId tenantId customerId
              time).eval (before.world.view pid) := by
            cases executed
            rfl
          simp only [delivers, running] at finds
          rw [← answered, found] at finds
          exact beq_iff_eq.mp finds
      | _ => trivial
  | selectBookingForUpdate id tenantId =>
      intro row found
      have ran : execStmt pid (.cancelBooking entry) (.selectBookingForUpdate id tenantId)
        before.world = some (answer, world) := executed
      simp only [execStmt] at ran
      split at ran
      · cases ran
        cases found
      · next locked there =>
          split at ran
          · cases ran
          · cases ran
            cases found
            have key := List.find?_some there
            rw [Bool.and_eq_true, beq_iff_eq] at key
            exact key.1
  | _ => trivial

/-- Logs teach what they taught, and what their last event teaches. -/
theorem learned_step (taken : Step (smsMachine cfg entry) before action after) :
    after.Every fun world _ log => LearnedFrom start world log := by
  have journal : after.world.journal = [] → before.world.journal = [] := fun none =>
    List.prefix_nil.mp (none ▸ delivering.journal_grows taken)
  have clock := clock_le taken
  refine delivering.learned.step taken (fun call log learned => learned.mono journal clock) ?_ ?_
  · rintro pid call _ earlier event there
    exact absurd (List.prefix_nil.mp there)
      (List.append_ne_nil_of_right_ne_nil _ (List.cons_ne_nil _ _))
  · intro pid call stmt next log answer _ running executed learned
    have ran : execStmt pid (.cancelBooking entry) stmt before.world = some (answer, after.world) :=
      executed
    refine (learned.mono journal clock).snoc ?_
    rw [← delivering.recorded pid _ running]
    exact learned_of_exec delivering.unchanged ran

theorem named_step (finds : delivers sms target before action = true)
    (taken : Step (smsMachine cfg entry) before action after) :
    after.Every fun _ call _ => call = sms := by
  refine delivering.named.step taken (fun _ _ same => same) ?_ fun _ _ _ _ _ _ _ _ _ same => same
  rintro pid call rfl
  exact of_decide_eq_true finds

/-- **Every step keeps it**, where lookups find the appointment or none. -/
theorem step (cancels : parseReplyIntent sms.body = .cancel)
    (finds : delivers sms target before action = true)
    (taken : Step (smsMachine cfg entry) before action after) :
    Delivering cfg entry start target sms after where
  disciplined := by
    refine (delivering.disciplined.step (smsMachine_sound cfg entry) ?_ taken).1
    cases action with
    | start pid call =>
        rw [delivers, decide_eq_true_eq] at finds
        subst finds
        exact cancels
    | _ => trivial
  atMostOnce := delivering.atMostOnce_step taken
  own := delivering.own_step taken cancels
  recorded := delivering.recorded.step (smsMachine_sessions cfg entry) taken
  watched := delivering.watched_step finds taken
  learned := delivering.learned_step taken
  named := delivering.named_step finds taken

end Delivering

theorem Delivering.initial (cfg : Settings) (entry : CancelBooking) {db : Db} {nextId : Nat}
    (wellFormed : db.WellFormed nextId) (clock : Instant) (redisTakes : Nat → Bool) (target : Nat)
    (sms : SmsReply) :
    Delivering cfg entry db target sms (smsStart db nextId clock redisTakes) where
  disciplined := .initial ⟨wellFormed.consistent clock redisTakes, trivial⟩
  atMostOnce := .inl ⟨rfl, rfl⟩
  own := fun _ _ _ member => by cases member
  recorded := .initial _
  watched := .initial _ _
  learned := .initial _
  named := .initial _

end Steps

/-! ## After a delivery -/

/-- The message finds nothing to cancel. -/
def SmsReply.FindsNothing (sms : SmsReply) (db : Db) (time : Instant) : Prop :=
  ∀ customer : Customer,
    Query.eval (.customerByPhone sms.businessId sms.tenantId
      (Customers.normalizePhone sms.fromPhone)) db = some customer →
    Query.eval (.nextConfirmedBooking sms.businessId sms.tenantId customer.id time) db = none

section Later

variable {cfg : Settings} {entry : CancelBooking} {start : Db} {target : Nat} {sms : SmsReply}
variable {before after config : SmsConfig} {action : Action SmsReply} {db : Db}

theorem nextConfirmedBooking_mem {businessId tenantId customerId : Nat} {time : Instant}
    {row : Booking}
    (found : Query.eval (.nextConfirmedBooking businessId tenantId customerId time) db = some row) :
    row ∈ db.bookings ∧ row.status = .confirmed := by
  have member := List.mem_of_head? found
  rw [List.mem_insertionSort, List.mem_filter] at member
  simp only [Bool.and_eq_true, beq_iff_eq] at member
  exact ⟨member.1, member.2.1.2⟩

theorem nextConfirmedBooking_eq_none {businessId tenantId customerId : Nat} {time : Instant} :
    Query.eval (.nextConfirmedBooking businessId tenantId customerId time) db = none ↔
      ∀ row ∈ db.bookings, row.businessId = businessId → row.tenantId = tenantId →
        row.customerId = customerId → row.status = .confirmed → row.startsAt ≤ time := by
  change List.head? (List.insertionSort _ _) = none ↔ _
  rw [List.head?_eq_none_iff, ← List.length_eq_zero_iff, List.length_insertionSort,
    List.length_eq_zero_iff, List.filter_eq_nil_iff]
  refine forall₂_congr fun row _ => ?_
  simp only [Bool.and_eq_true, beq_iff_eq, decide_eq_true_eq, not_and, gt_iff_lt, not_lt, and_imp]

/-- A delivery that has returned, and has left the database as it was, found nothing to
cancel. -/
theorem Delivering.findsNothing (delivering : Delivering cfg entry start target sms config)
    (cancels : parseReplyIntent sms.body = .cancel) {log : Log} {call : SmsReply}
    {intent : SmsReplyIntent}
    (returned : (⟨call, .ok intent, log⟩ : Outcome Sql SmsReply AppError SmsReplyIntent) ∈
      config.finished)
    (none : config.world.journal = []) : sms.FindsNothing start config.world.clock := by
  obtain rfl : call = sms := delivering.named.finished _ returned
  have learned := delivering.learned.finished _ returned
  have ended := delivering.watched.finished _ returned intent rfl cancels
  rw [replyWatch_state] at ended
  intro customer found
  have first : ∀ {answer : Option Customer} {rest : Log},
      call.asksCustomer answer :: rest <+: log → answer = some customer := by
    intro answer rest asked
    have there : [] ++ [call.asksCustomer answer] <+: log :=
      (List.prefix_append [_] rest).trans asked
    exact (learned [] _ there rfl none).trans found
  have third : ∀ {other : Customer} {time : Instant} {booking : Option Booking},
      call.lookups other time booking <+: log → time ≤ config.world.clock ∧
        booking = Query.eval (.nextConfirmedBooking call.businessId call.tenantId customer.id time)
          start := by
    intro other time booking asked
    have same := Option.some.inj (first asked)
    subst same
    refine ⟨learned [call.asksCustomer (some other)] ⟨.now, time⟩ ?_, ?_⟩
    · exact (List.prefix_append [_, _] [_]).trans asked
    · exact learned [call.asksCustomer (some other), ⟨.now, time⟩] _ asked rfl none
  cases ended with
  | stranger asked => cases first asked
  | nothing other time asked =>
      obtain ⟨past, answered⟩ := third asked
      rw [nextConfirmedBooking_eq_none]
      intro row there business tenant owner confirmed
      exact Int.le_trans
        (nextConfirmedBooking_eq_none.mp answered.symm row there business tenant owner
        confirmed) past
  | already other time row locked asked again key gone =>
      obtain ⟨earlier, tenantId, clean, there⟩ := again
      obtain ⟨rowThere, confirmed⟩ := nextConfirmedBooking_mem (third asked).2.symm
      have lockedThere : locked ∈ start.bookings := learned earlier _ there clean none locked rfl
      have keys := delivering.disciplined.invariant.1.ids_nodup .bookings
      rw [delivering.unchanged none] at keys
      rw [List.inj_on_of_nodup_map keys lockedThere rowThere key, confirmed] at gone
      cases gone
  | committed earlier there => exact absurd none (learned earlier _ there)

/-- Nothing has been committed, and the calls that run have been started after `clock`. -/
structure NothingLeft (clock : Instant) (config : SmsConfig) : Prop where
  journal : config.world.journal = []
  since : clock ≤ config.world.clock
  late : ∀ pid process, config.running pid = some process →
    ∀ time, (⟨.now, time⟩ : Event Sql) ∈ process.log → clock ≤ (time : Instant)

/-- A call that has read the clock has read it late. -/
theorem NothingLeft.late_step {clock : Instant} (left : NothingLeft clock before)
    (taken : Step (smsMachine cfg entry) before action after) (pid : Pid)
    (process : Process Sql SmsReply AppError SmsReplyIntent)
    (running : after.running pid = some process) (time : Instant)
    (read : (⟨.now, time⟩ : Event Sql) ∈ process.log) : clock ≤ time := by
  have others : ∀ {mover : Pid} {replaced : Option (Process Sql SmsReply AppError SmsReplyIntent)},
      Function.update before.running mover replaced pid = some process →
      (pid = mover → replaced = some process → clock ≤ time) → clock ≤ time := by
    intro mover replaced there mine
    by_cases same : pid = mover
    · subst same
      rw [Function.update_self] at there
      exact mine rfl there
    · rw [Function.update_of_ne same] at there
      exact left.late pid process there time read
  cases taken with
  | start call idle =>
      refine others running fun _ same => ?_
      cases same
      cases read
  | @issue mover call stmt next log answer world moving executed =>
      refine others running fun _ same => ?_
      cases same
      rcases List.mem_append.mp read with old | new
      · exact left.late mover _ moving time old
      · rw [List.mem_singleton] at new
        cases new
        cases executed
        exact left.since
  | finish moving ended => exact others running (by rintro _ ⟨⟩)
  | stop moving => exact others running (by rintro _ ⟨⟩)
  | ambient changed => exact left.late pid process running time read

/-- A delivery that begins when the message finds nothing commits nothing. -/
theorem NothingLeft.step {clock : Instant} (left : NothingLeft clock before)
    (finds : sms.FindsNothing start clock)
    (delivering : Delivering cfg entry start target sms before)
    (cancels : parseReplyIntent sms.body = .cancel)
    (taken : Step (smsMachine cfg entry) before action after) : NothingLeft clock after where
  journal := by
    cases delivering.deliveryStep taken with
    | same db journal => exact journal.trans left.journal
    | @commit pid call next log transaction running writes enabled world =>
        obtain rfl : call = sms := delivering.named.running pid _ running
        have along := delivering.watched.running pid _ running
        rw [replyWatch_state] at along
        cases along with
        | call allowed rest =>
            obtain ⟨customer, time, row, asked⟩ := allowed cancels
            have learned := delivering.learned.running pid _ running
            have known : some customer = Query.eval (.customerByPhone call.businessId call.tenantId
                (Customers.normalizePhone call.fromPhone)) start :=
              learned [] (call.asksCustomer (some customer))
                ((List.prefix_append [_] _).trans asked)
                rfl left.journal
            have found : some row = Query.eval (.nextConfirmedBooking call.businessId call.tenantId
                customer.id time) start :=
              learned [call.asksCustomer (some customer), ⟨.now, time⟩] _ asked rfl left.journal
            have late : clock ≤ time := left.late pid _ running time
              (asked.subset (List.mem_cons_of_mem _ List.mem_cons_self))
            have none : Query.eval (.nextConfirmedBooking call.businessId call.tenantId customer.id
                time) start = none := by
              rw [nextConfirmedBooking_eq_none]
              intro row there business tenant owner confirmed
              exact Int.le_trans
                (nextConfirmedBooking_eq_none.mp (finds customer known.symm) row there
                business tenant owner confirmed) late
            rw [none] at found
            cases found
  since := Int.le_trans left.since (Delivering.clock_le taken)
  late := left.late_step taken

end Later

/-! ## Results -/

section Results

variable {cfg : Settings} {entry : CancelBooking} {db : Db} {nextId : Nat} {clock : Instant}
variable {redisTakes : Nat → Bool} {sms : SmsReply} {target : Nat} {config : SmsConfig}

/-- **The rule for deliveries.** What their steps keep holds after any number of them. -/
theorem Delivering.runs {start : SmsConfig} (cancels : parseReplyIntent sms.body = .cancel)
    (delivering : Delivering cfg entry db target sms start) (fact : SmsConfig → Prop)
    (initial : fact start)
    (step : ∀ before action after, Delivering cfg entry db target sms before → fact before →
      Step (smsMachine cfg entry) before action after → fact after)
    (runs : Runs (smsMachine cfg entry)
      (fun before action => delivers sms target before action = true)
      start config) : Delivering cfg entry db target sms config ∧ fact config := by
  induction runs with
  | refl => exact ⟨delivering, initial⟩
  | tail _ last ih =>
      obtain ⟨action, finds, taken⟩ := last
      exact ⟨ih.1.step cancels finds taken, step _ action _ ih.1 ih.2 taken⟩

/-- What deliveries have committed stays the last that they commit. -/
theorem Delivering.settled {later : SmsConfig}
    (delivering : Delivering cfg entry db target sms config)
    (cancels : parseReplyIntent sms.body = .cancel) (idle : ∀ pid, config.running pid = none)
    (returned : ∃ outcome ∈ config.finished, ∃ intent, outcome.result = .ok intent)
    (runs : Runs (smsMachine cfg entry)
      (fun before action => delivers sms target before action = true)
      config later) : later.world.db = config.world.db := by
  rcases delivering.atMostOnce with ⟨none, same⟩ | ⟨b, r, p, a, m, o, -, -, -, -, once, changed⟩
  · obtain ⟨⟨call, _, log⟩, finished, intent, rfl⟩ := returned
    have finds := delivering.findsNothing cancels finished none
    have left : NothingLeft config.world.clock config :=
      ⟨none, Int.le_refl _, fun pid process running => by rw [idle pid] at running; cases running⟩
    obtain ⟨last, still⟩ := delivering.runs cancels (NothingLeft config.world.clock) left
      (fun _ _ _ delivering left taken => left.step finds delivering cancels taken) runs
    rw [last.unchanged still.journal, same]
  · obtain ⟨last, more, whole⟩ := delivering.runs cancels
      (fun later => config.world.journal <+: later.world.journal) List.prefix_rfl
      (fun _ _ _ delivering grows taken => grows.trans (delivering.journal_grows taken)) runs
    rcases last.atMostOnce with ⟨none, -⟩ | ⟨b', r', p', a', m', o', -, -, -, -, once', changed'⟩
    · rw [← whole] at none
      rw [(List.append_eq_nil_iff.mp none).1] at once
      cases once
    · rw [← whole, List.map_append, once] at once'
      rw [changed', changed, (List.cons.inj once').1]

/-- **A repeated cancellation is a no-op**, where each delivery finds one and the same
appointment or none. -/
theorem repeated_cancellation_is_a_noop (cfg : Settings) (entry : CancelBooking)
    (wellFormed : db.WellFormed nextId) (clock : Instant) (redisTakes : Nat → Bool)
    (cancels : parseReplyIntent sms.body = .cancel)
    (runs : Runs (smsMachine cfg entry)
      (fun before action => delivers sms target before action = true)
      (smsStart db nextId clock redisTakes) config) :
    CancelledAtMostOnce db target config.world ∧
      ∀ later : SmsConfig, (∀ pid, config.running pid = none) →
        (∃ outcome ∈ config.finished, ∃ intent, outcome.result = .ok intent) →
        Runs (smsMachine cfg entry) (fun before action => delivers sms target before action = true)
          config later → later.world.db = config.world.db := by
  obtain ⟨delivering, -⟩ := (Delivering.initial cfg entry wellFormed clock redisTakes target
    sms).runs cancels (fun _ => True) trivial (fun _ _ _ _ _ _ => trivial) runs
  exact ⟨delivering.atMostOnce, fun later idle returned goesOn =>
    delivering.settled cancels idle returned goesOn⟩

end Results

/-! ## A customer with one appointment, and one with two -/

def sampleReply : SmsReply := ⟨1, 1, "+48 100 200 300", " no "⟩

/-- The entry of the history for what a delivery commits. -/
def sampleEntry : CancelBooking := { bookingId := 2, businessId := 1, tenantId := 1 }

def firstVisit : Booking :=
  ⟨2, 1, 1, 1, 1, some 1, minutes 60, minutes 90, .confirmed, .api, none, 0⟩

def secondVisit : Booking :=
  ⟨3, 1, 1, 1, 1, some 1, minutes 120, minutes 150, .confirmed, .api, none, 0⟩

def oneVisit : Db := { sampleDb with bookings := [firstVisit] }

def twoVisits : Db := { sampleDb with bookings := [firstVisit, secondVisit] }

theorem oneVisit_wellFormed : oneVisit.WellFormed 10 where
  keys := fun table => by cases table <;> decide
  below := fun table => by cases table <;> decide
  exclusion := by decide
  payments := by decide
  events := by decide

/-- One delivery from its start to its end. -/
def wholeDelivery (pid : Pid) (statements : Nat) : List (Action SmsReply) :=
  .start pid sampleReply :: (List.replicate statements (.issue pid) ++ [.finish pid])

/-- The actions of one process leave the others where they are. -/
theorem running_of_actions {machine : Machine Sql (World Call) SmsReply AppError SmsReplyIntent}
    {mover pid : Pid} (apart : pid ≠ mover) {actions : List (Action SmsReply)}
    (own : ∀ action ∈ actions, action = .issue mover ∨ action = .finish mover ∨
      ∃ call, action = .start mover call) {start config : SmsConfig}
    (ran : start.runActions machine actions = some config) :
    config.running pid = start.running pid := by
  induction actions generalizing start with
  | nil =>
      cases ran
      rfl
  | cons action actions ih =>
      simp only [Config.runActions] at ran
      split at ran
      · next after acted =>
          rw [ih (fun other member => own other (List.mem_cons_of_mem _ member)) ran]
          have moved : ∀ replaced, Function.update start.running mover replaced pid =
              start.running pid := fun replaced => Function.update_of_ne apart ..
          rcases own action List.mem_cons_self with rfl | rfl | ⟨call, rfl⟩
          · simp only [Config.act] at acted
            split at acted
            · split at acted <;> cases acted
              exact moved _
            · cases acted
          · simp only [Config.act] at acted
            split at acted
            · split at acted <;> cases acted
              exact moved _
            · cases acted
          · simp only [Config.act] at acted
            split at acted <;> cases acted
            exact moved _
      · cases ran

theorem oneDelivery_possible :
    ((smsStart oneVisit 10 0 fun _ => true).runActions (smsMachine sampleSettings sampleEntry)
      (wholeDelivery 0 17)).isSome = true := by
  decide +kernel

/-- The configuration after one delivery. -/
def onceDelivered : SmsConfig :=
  ((smsStart oneVisit 10 0 fun _ => true).runActions (smsMachine sampleSettings sampleEntry)
    (wholeDelivery 0 17)).get oneDelivery_possible

theorem secondDelivery_possible :
    (onceDelivered.runActions (smsMachine sampleSettings sampleEntry)
      (wholeDelivery 1 3)).isSome = true := by
  decide +kernel

theorem second_delivery_changes_nothing : ∃ later,
    Runs (smsMachine sampleSettings sampleEntry)
        (fun before action => delivers sampleReply 2 before action = true) onceDelivered later ∧
      later.finished.map (·.result.toOption) = [some .cancel, some .cancel] ∧
      CancelledAtMostOnce oneVisit 2 onceDelivered.world ∧
      onceDelivered.world.db.bookings.map (·.status) = [.cancelled] ∧
      later.world.db = onceDelivered.world.db := by
  have first : Runs (smsMachine sampleSettings sampleEntry)
      (fun before action => delivers sampleReply 2 before action = true)
      (smsStart oneVisit 10 0 fun _ => true) onceDelivered :=
    Runs.of_guarded (fun _ _ finds => finds) (wholeDelivery 0 17) (by decide +kernel)
      (Option.some_get oneDelivery_possible).symm
  have second : Runs (smsMachine sampleSettings sampleEntry)
      (fun before action => delivers sampleReply 2 before action = true) onceDelivered _ :=
    Runs.of_guarded (fun _ _ finds => finds) (wholeDelivery 1 3) (by decide +kernel)
      (Option.some_get secondDelivery_possible).symm
  obtain ⟨once, settled⟩ := repeated_cancellation_is_a_noop sampleSettings sampleEntry
    oneVisit_wellFormed 0 (fun _ => true) (by decide +kernel) first
  have idle : ∀ pid, onceDelivered.running pid = none := by
    intro pid
    by_cases same : pid = 0
    · subst same
      exact Option.isNone_iff_eq_none.mp (by decide +kernel)
    · refine running_of_actions same (fun action member => ?_)
        (Option.some_get oneDelivery_possible).symm
      simp only [wholeDelivery, List.mem_cons, List.mem_append, List.mem_replicate,
        List.not_mem_nil, or_false] at member
      rcases member with rfl | ⟨-, rfl⟩ | rfl
      · exact .inr (.inr ⟨_, rfl⟩)
      · exact .inl rfl
      · exact .inr (.inl rfl)
  have returned : onceDelivered.finished.any (fun outcome => outcome.result.toOption.isSome) := by
    decide +kernel
  refine ⟨_, second, by decide +kernel, once, by decide +kernel, settled _ idle ?_ second⟩
  obtain ⟨outcome, member, ok⟩ := List.any_eq_true.mp returned
  refine ⟨outcome, member, ?_⟩
  cases result : outcome.result with
  | ok intent => exact ⟨intent, rfl⟩
  | error error =>
      rw [result] at ok
      cases ok

/-- No other message is delivered. -/
def repeats : Action SmsReply → Bool
  | .start _ call => call = sampleReply
  | _ => true

/-- The message is delivered to the customer with two appointments, and then again. -/
def twoDeliveries : List (Action SmsReply) := wholeDelivery 0 17 ++ wholeDelivery 1 17

theorem twoDeliveries_possible :
    ((smsStart twoVisits 10 0 fun _ => true).runActions (smsMachine sampleSettings sampleEntry)
      twoDeliveries).isSome = true := by
  decide +kernel

/-- Both appointments are cancelled. -/
theorem second_delivery_cancels_again : ∃ config,
    Runs (smsMachine sampleSettings sampleEntry)
        (fun _ action => repeats action = true) (smsStart twoVisits 10 0 fun _ => true) config ∧
      config.world.db.bookings.map (·.status) = [.cancelled, .cancelled] ∧
      ∀ target, ¬CancelledAtMostOnce twoVisits target config.world := by
  have runs : Runs (smsMachine sampleSettings sampleEntry) (fun _ action => repeats action = true)
      (smsStart twoVisits 10 0 fun _ => true) _ :=
    Runs.of_guarded (fun _ _ same => same) twoDeliveries (by decide +kernel)
      (Option.some_get twoDeliveries_possible).symm
  refine ⟨_, runs, by decide +kernel, ?_⟩
  rintro target (⟨none, -⟩ | ⟨_, _, _, _, _, _, -, -, -, -, once, -⟩)
  · exact absurd (congrArg List.length none) (by decide +kernel)
  · have length := congrArg List.length once
    rw [List.length_map, List.length_singleton] at length
    exact absurd length (by decide +kernel)

end AppointmentVoice
