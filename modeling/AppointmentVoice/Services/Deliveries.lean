import AppointmentVoice.Services.Clerks

/-!
# How far a worker is with a message

A worker that handles the job of a message goes through four stages: it has nothing in
hand, it has read a message that waits, the provider has answered, the row is marked and
not committed yet.  An answer that the columns of the row do not take is rolled back.
Every call keeps to what its stage allows: the provider is asked about the message that was
read and no other, the mark records the provider's answer, and nothing else touches the
messages that are there, save the sweep, which only notes that it has seen them.
-/

set_option autoImplicit false

namespace AppointmentVoice

open Concurrency Program

/-! ## Stages -/

/-- How far a call is with a message. -/
inductive Delivery where
  | bystander
  | sweeping
  | idle
  | read (intent : NotificationOutbox)
  | answered (intent : NotificationOutbox) (result : SmsSendResult)
  | marked (intent : NotificationOutbox) (result : SmsSendResult) (change : NotificationChange)
  deriving DecidableEq, Repr

/-- The mark records the answer of the provider. -/
inductive NotificationChange.Records (intent : NotificationOutbox) (result : SmsSendResult) :
    NotificationChange → Prop where
  | send (accepted : result.success = true) (sentAt : Instant) :
      Records intent result (.send (intent.attempts + 1) sentAt result.providerMessageId)
  | giveUp (refused : result.success = false)
      (last : maxNotificationAttempts ≤ intent.attempts + 1) :
      Records intent result (.giveUp (intent.attempts + 1) result.error)
  | retry (refused : result.success = false)
      (more : intent.attempts + 1 < maxNotificationAttempts) :
      Records intent result (.retry (intent.attempts + 1) result.error)

/-- The write leaves the messages that are there alone. -/
def Write.SparesMessages : Write → Prop
  | .insertOutbox row => row.Fresh
  | .updateNotification _ _ => False
  | _ => True

/-- The write at most notes on a message that the sweep has seen it. -/
def Write.OnlyRequeues : Write → Prop
  | .insertOutbox row => row.Fresh
  | .updateNotification _ change => ∃ time, change = .requeue time
  | _ => True

/-- The statement asks for no message to be sent, and its write is of a kind. -/
def Stmt.WritesOnly (kind : Write → Prop) : Stmt → Prop
  | .insert draft => ∀ id, kind (draft id)
  | .update write => kind write
  | .ask (.sendSms _ _) => False
  | _ => True

namespace Delivery

/-- The stage after a statement and its answer. -/
def next : Delivery → Event Sql → Delivery
  | .idle, ⟨.select (.notificationByPrimaryKey _), answer⟩ =>
      match (answer : Option NotificationOutbox) with
      | some intent => if intent.status = .pending then .read intent else .idle
      | none => .idle
  | .read intent, ⟨.ask (.sendSms _ _), answer⟩ =>
      match (answer : Option SmsSendResult) with
      | some result => .answered intent result
      | none => .idle
  | .answered intent result, ⟨.update (.updateNotification _ change), _⟩ =>
      .marked intent result change
  | .answered _ _, ⟨.rollback, _⟩ => .idle
  | .marked _ _ _, ⟨.commit, _⟩ => .idle
  | stage, _ => stage

/-- The statements that a call may issue at a stage. -/
def allows : Delivery → Stmt → Prop
  | .bystander, stmt => stmt.WritesOnly Write.SparesMessages
  | .sweeping, stmt => stmt.WritesOnly Write.OnlyRequeues
  | .idle, .select _ => True
  | .idle, .ask (.sendSms _ _) => False
  | .idle, .ask _ => True
  | .idle, .rollback => True
  | .read intent, .ask (.sendSms id _) => id = intent.id
  | .answered _ _, .now => True
  | .answered _ result, .rollback => result.isStorable = false
  | .answered intent result, .update (.updateNotification id change) =>
      id = intent.id ∧ change.Records intent result
  | .marked _ _ _, .commit => True
  | _, _ => False

/-- The message that the worker has in hand. -/
def carries : Delivery → Option NotificationOutbox
  | .read intent => some intent
  | .answered intent _ => some intent
  | .marked intent _ _ => some intent
  | _ => none

/-- The provider has accepted the message, and the row does not say so yet. -/
def hasSent : Delivery → Bool
  | .answered _ result => result.success
  | .marked _ result _ => result.success
  | _ => false

/-- The provider has accepted the message, and the row does not take its answer. -/
def losesAnswer : Delivery → Bool
  | .answered _ result => result.success && !result.isStorable
  | _ => false

/-- The worker has nothing in hand, or an answer that the row does not take. -/
def AtRest : Delivery → Prop
  | .idle => True
  | .answered _ result => result.isStorable = false
  | _ => False

/-- The stage of a call that has just been started. -/
def begins : Call → Delivery
  | .work (.processJob ⟨.sendNotification _, _⟩) => .idle
  | .work .reconcileStaleNotifications => .sweeping
  | _ => .bystander

end Delivery

/-- The statements of a worker, judged by where its delivery is. -/
def courier : Monitor Sql Delivery where
  may _ _ := True
  must := Delivery.allows
  learn := Delivery.next

/-- A worker ends with nothing in hand. -/
def courierWatch : Watch Sql Call AppError Reply Delivery where
  monitor _ := courier
  initial := Delivery.begins
  post _ _ stage := stage.carries = none

/-! ## Kinds of statements -/

theorem Stmt.writesOnly_serving (kind : Write → Prop) : Stmt.Serving (Stmt.WritesOnly kind) where
  select _ := trivial
  now := trivial
  push _ _ := trivial
  commit := trivial
  rollback := trivial
  dequeue _ := trivial

/-- The booking service writes no mark on a message. -/
theorem Stmt.sparesMessages_salon : Stmt.Salon (Stmt.WritesOnly Write.SparesMessages) where
  select _ := trivial
  now := trivial
  push _ _ := trivial
  audit _ _ := trivial
  outbox _ fresh := fresh
  event _ _ _ := trivial
  commit := trivial
  rollback := trivial
  lock _ _ := trivial
  waitlist _ := trivial
  staleOffers _ := trivial
  payment _ _ := trivial
  entry _ _ := trivial
  enroll _ _ := trivial
  book _ _ := trivial
  pay _ _ := trivial
  confirm _ := trivial
  cancel _ _ := trivial
  withdraw _ := trivial

/-! ## Walks -/

section Walks

variable {α β : Type} {stage : Delivery}

/-- The stages of a call that does not handle a message. -/
theorem courier_outsider {kind : Write → Prop} {program : DbM α}
    (only : program.Only (Stmt.WritesOnly kind)) (stays : ∀ event, stage.next event = stage)
    (allowed : ∀ stmt, stmt.WritesOnly kind → stage.allows stmt) :
    courier.Along (fun _ later => later = stage) program stage := by
  have along : courier.Along (fun _ later => stage = later) program stage := by
    refine Monitor.Along.of_only rfl (fun later stmt here fits => ?_) only
    subst here
    exact ⟨allowed stmt fits, fun answer => (stays _).symm⟩
  exact along.mono fun _ _ here => here.symm

theorem courier_bystander {program : DbM α}
    (only : program.Only (Stmt.WritesOnly Write.SparesMessages)) :
    courier.Along (fun _ later => later = .bystander) program .bystander :=
  courier_outsider only (fun _ => rfl) fun _ fits => fits

theorem courier_sweeping {program : DbM α}
    (only : program.Only (Stmt.WritesOnly Write.OnlyRequeues)) :
    courier.Along (fun _ later => later = .sweeping) program .sweeping :=
  courier_outsider only (fun _ => rfl) fun _ fits => fits

/-- The mark, the commit, and what comes after them, if the row takes the mark. -/
theorem courier_mark {intent : NotificationOutbox} {result : SmsSendResult}
    {change : NotificationChange} {next : Unit → DbM α} (records : change.Records intent result)
    (rest : courier.Along (fun _ later => later.AtRest) (next ()) .idle) :
    courier.Along (fun _ later => later.AtRest) (orDataError result.isStorable >>= fun _ =>
      update (.updateNotification intent.id change) >>= fun _ => commit >>= next)
      (.answered intent result) := by
  cases storable : result.isStorable with
  | false => exact .raise storable
  | true => exact .call ⟨rfl, records⟩ fun _ _ => .call trivial fun _ _ => rest

theorem courier_recordDelivery (intent : NotificationOutbox) (result : SmsSendResult) :
    courier.Along (fun _ later => later.AtRest) (recordDelivery intent result)
      (.answered intent result) := by
  unfold recordDelivery
  split
  · next accepted =>
      refine .call trivial fun sentAt _ => ?_
      exact courier_mark (.send accepted sentAt) (.ret trivial)
  · next refused =>
      rw [Bool.not_eq_true] at refused
      split
      · next last => exact courier_mark (.giveUp refused last) (.ret trivial)
      · next more => exact courier_mark (.retry refused (Nat.lt_of_not_le more)) (.raise trivial)

theorem courier_sendNotificationInWorker (notificationId : Nat) :
    courier.Along (fun _ later => later.AtRest) (sendNotificationInWorker notificationId)
      .idle := by
  refine .call trivial fun found _ => ?_
  cases found with
  | none => exact .ret trivial
  | some intent =>
      by_cases waits : intent.status = .pending
      · have taken : courier.learn .idle ⟨.select (.notificationByPrimaryKey notificationId),
            some intent⟩ = .read intent := if_pos waits
        rw [taken]
        change courier.Along _ (if intent.status = .pending then deliver intent else pure ()) _
        rw [if_pos waits]
        refine .call rfl fun result _ => ?_
        cases result with
        | none => exact .raise trivial
        | some result => exact courier_recordDelivery intent result
      · have left : courier.learn .idle ⟨.select (.notificationByPrimaryKey notificationId),
            some intent⟩ = .idle := if_neg waits
        rw [left]
        change courier.Along _ (if intent.status = .pending then deliver intent else pure ()) _
        rw [if_neg waits]
        exact .ret trivial

/-- The job of a message, from the queue to its end. -/
theorem courier_processJob (cfg : Settings) (notificationId attempts : Nat) :
    courier.Along (fun _ later => later = .idle)
      (processJob cfg ⟨.sendNotification notificationId, attempts⟩) .idle := by
  refine .call trivial fun taken _ => ?_
  cases taken with
  | false => exact .ret rfl
  | true =>
      have settled : ∀ outcome, courier.Along (fun _ later => later = .idle)
          (settleJob cfg ⟨.sendNotification notificationId, attempts⟩ outcome >>= fun _ =>
            pure 1) .idle := by
        intro outcome
        cases outcome with
        | none => exact .call trivial fun _ _ => .ret rfl
        | some error =>
            simp only [settleJob]
            split
            · exact .call trivial fun _ _ => .ret rfl
            · exact .call trivial fun _ _ => .ret rfl
      change courier.Along _ (runHandler cfg (.sendNotification notificationId) >>= fun outcome =>
        settleJob cfg ⟨.sendNotification notificationId, attempts⟩ outcome >>= fun _ => pure 1)
          .idle
      refine .bind (.bind (.tryCatch (.bind ?_)))
      refine (courier_sendNotificationInWorker notificationId).mono fun result later rests => ?_
      have ended : ∀ outcome, courier.Along (courier.afterBind
          (fun outcome => settleJob cfg ⟨.sendNotification notificationId, attempts⟩ outcome >>=
            fun _ => pure 1) fun _ later => later = .idle)
          (rollback >>= fun _ => pure outcome) later := by
        intro outcome
        cases later with
        | idle => exact .call trivial fun _ _ => .ret (settled outcome)
        | answered intent answer => exact .call rests fun _ _ => .ret (settled outcome)
        | _ => exact rests.elim
      cases result with
      | ok value => exact .ret (ended none)
      | error error => exact .ret (ended (some error))

/-- **Every call keeps to its stage.** -/
theorem courier_perform (cfg : Settings) (call : Call) :
    courier.Along (courierWatch.post call) (perform cfg call) (courierWatch.initial call) := by
  have serving := Stmt.writesOnly_serving Write.SparesMessages
  have bystander : ∀ {program : DbM Reply},
      program.Only (Stmt.WritesOnly Write.SparesMessages) →
      courier.Along (courierWatch.post call) program .bystander := by
    intro program only
    refine (courier_bystander only).mono fun _ later here => ?_
    subst here
    rfl
  by_cases served : ∃ task, call = .work task
  · obtain ⟨task, rfl⟩ := served
    cases task with
    | processJob entry =>
        obtain ⟨job, attempts⟩ := entry
        cases job with
        | sendNotification id =>
            change courier.Along _ (Reply.count <$> processJob cfg _) .idle
            rw [map_eq_pure_bind]
            refine .bind ((courier_processJob cfg id attempts).mono fun result later here => ?_)
            subst here
            cases result with
            | ok value => exact .ret rfl
            | error error => exact rfl
        | syncCalendarEvent id =>
            exact bystander (Issues.map _ (Serves.processJob serving ⟨trivial, trivial, trivial⟩
              (Serves.syncCalendarEventInWorker serving (fun _ _ => trivial) (fun _ _ => trivial)
                cfg id)))
        | cancelCalendarEvent id =>
            exact bystander (Issues.map _ (Serves.processJob serving ⟨trivial, trivial, trivial⟩
              (Serves.cancelCalendarEventInWorker serving (fun _ _ => trivial) (fun _ => trivial)
                cfg id)))
    | reconcileStaleNotifications =>
        have only := Serves.reconcileStaleNotifications
          (Stmt.writesOnly_serving Write.OnlyRequeues) cfg fun _ time => ⟨time, rfl⟩
        refine (courier_sweeping (Issues.map _ only)).mono fun _ later here => ?_
        subst here
        rfl
    | reconcileStaleCalendarEvents =>
        exact bystander (Issues.map _ (Serves.reconcileStaleCalendarEvents serving cfg
          fun _ _ => trivial))
    | enqueueDueReminders =>
        exact bystander (Issues.map _ (Serves.enqueueDueReminders serving
          (fun row fits id => (fits id).2.2) cfg))
  · have others : ∀ task, call ≠ .work task := fun task same => served ⟨task, same⟩
    have begins : courierWatch.initial call = .bystander := by
      cases call with
      | work task => exact absurd rfl (others task)
      | _ => rfl
    rw [begins]
    exact bystander (Issues.perform Stmt.sparesMessages_salon cfg others)

end Walks

end AppointmentVoice
