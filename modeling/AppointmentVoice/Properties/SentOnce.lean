import AppointmentVoice.Database.Effects
import AppointmentVoice.Properties.PaymentAgreement
import AppointmentVoice.Services.Deliveries

/-!
# Messages are sent at most once

A worker reads a message, asks the provider and marks the row in three steps, and no
lock spans them.  Two workers that both read the row before either has committed both
send it, and so does a worker that comes after one that was stopped between the
provider's answer and the commit, or whose commit was refused because the column does not
take the provider's number of the message.  These are the only ways: in every run in which
the workers of one message take turns, and none loses the answer of a provider that has
accepted, the provider accepts each message at most once, no message is tried more often
than `MAX_NOTIFICATION_ATTEMPTS` times, and a message that is marked as sent stays as it is.

`InTurns` is the invariant, `InTurns.issue` says that a statement keeps it, and
**`sent_once_by_turns`** carries it through every run.  `two_workers_send_twice` is a run in
which the workers do not take turns.
-/

set_option autoImplicit false

namespace AppointmentVoice

open Concurrency World

/-! ## Messages before and after a commit -/

/-- Two versions of a message that differ at most in the note of the sweep. -/
def NotificationOutbox.SameMessage (row origin : NotificationOutbox) : Prop :=
  row = { origin with reconciledAt := row.reconciledAt }

namespace NotificationOutbox.SameMessage

variable {row origin older : NotificationOutbox}

theorem refl (row : NotificationOutbox) : row.SameMessage row := rfl

theorem trans (first : row.SameMessage origin) (second : origin.SameMessage older) :
    row.SameMessage older := by
  rw [SameMessage] at first second ⊢
  rw [first, second]

theorem id (same : row.SameMessage origin) : row.id = origin.id := by rw [same]

theorem status (same : row.SameMessage origin) : row.status = origin.status := by rw [same]

theorem attempts (same : row.SameMessage origin) : row.attempts = origin.attempts := by rw [same]

theorem requeue (row : NotificationOutbox) (time : Instant) :
    (NotificationChange.apply (.requeue time) row).SameMessage row := rfl

end NotificationOutbox.SameMessage

theorem Write.SparesMessages.onlyRequeues {write : Write} (spares : write.SparesMessages) :
    write.OnlyRequeues := by
  cases write with
  | insertOutbox row => exact spares
  | updateNotification id change => exact spares.elim
  | _ => exact trivial

namespace Db

variable {db : Db} {write : Write} {writes : List Write} {row : NotificationOutbox}

theorem outbox_apply_spared (spares : write.SparesMessages)
    (there : row ∈ db.notificationOutbox) : row ∈ (db.apply write).notificationOutbox := by
  cases write with
  | insertOutbox added => exact List.mem_append_left _ there
  | updateNotification id change => exact spares.elim
  | _ => exact there

/-- A message that no write touches is there after them. -/
theorem outbox_spared (spares : ∀ write ∈ writes, write.SparesMessages)
    (there : row ∈ db.notificationOutbox) : row ∈ (db.applyAll writes).notificationOutbox := by
  induction writes generalizing db with
  | nil => exact there
  | cons write writes ih =>
      rw [applyAll_cons]
      exact ih (fun other member => spares other (List.mem_cons_of_mem _ member))
        (outbox_apply_spared (spares write List.mem_cons_self) there)

theorem outbox_apply_kept (light : write.OnlyRequeues) (there : row ∈ db.notificationOutbox) :
    ∃ later ∈ (db.apply write).notificationOutbox, later.SameMessage row := by
  cases write with
  | insertOutbox added => exact ⟨row, List.mem_append_left _ there, .refl row⟩
  | updateNotification id change =>
      obtain ⟨time, rfl⟩ := light
      refine ⟨_, List.mem_map_of_mem there, ?_⟩
      split
      · exact .requeue row time
      · exact .refl row
  | _ => exact ⟨row, there, .refl row⟩

/-- A message that the writes at most note stays as it is otherwise. -/
theorem outbox_kept (light : ∀ write ∈ writes, write.OnlyRequeues)
    (there : row ∈ db.notificationOutbox) :
    ∃ later ∈ (db.applyAll writes).notificationOutbox, later.SameMessage row := by
  induction writes generalizing db row with
  | nil => exact ⟨row, there, .refl row⟩
  | cons write writes ih =>
      obtain ⟨later, stays, same⟩ := outbox_apply_kept (light write List.mem_cons_self) there
      obtain ⟨last, found, again⟩ :=
        ih (fun other member => light other (List.mem_cons_of_mem _ member)) stays
      exact ⟨last, found, again.trans same⟩

theorem outbox_apply_origin (light : write.OnlyRequeues)
    (there : row ∈ (db.apply write).notificationOutbox) :
    (∃ origin ∈ db.notificationOutbox, row.SameMessage origin) ∨ write = .insertOutbox row := by
  cases write with
  | insertOutbox added =>
      rcases List.mem_append.mp there with old | new
      · exact .inl ⟨row, old, .refl row⟩
      · rw [List.mem_singleton] at new
        exact .inr (congrArg _ new.symm)
  | updateNotification id change =>
      obtain ⟨time, rfl⟩ := light
      obtain ⟨origin, old, rfl⟩ := List.mem_map.mp there
      refine .inl ⟨origin, old, ?_⟩
      split
      · exact .requeue origin time
      · exact .refl origin
  | _ => exact .inl ⟨row, there, .refl row⟩

/-- Where a message comes from when the writes at most note the ones that are there. -/
theorem outbox_origin (light : ∀ write ∈ writes, write.OnlyRequeues)
    (there : row ∈ (db.applyAll writes).notificationOutbox) :
    (∃ origin ∈ db.notificationOutbox, row.SameMessage origin) ∨
      ∃ added, Write.insertOutbox added ∈ writes ∧ row.SameMessage added := by
  induction writes generalizing db with
  | nil => exact .inl ⟨row, there, .refl row⟩
  | cons write writes ih =>
      rw [applyAll_cons] at there
      rcases ih (fun other member => light other (List.mem_cons_of_mem _ member)) there with
        ⟨middle, old, same⟩ | ⟨added, member, same⟩
      · rcases outbox_apply_origin (light write List.mem_cons_self) old with
          ⟨origin, older, before⟩ | rfl
        · exact .inl ⟨origin, older, same.trans before⟩
        · exact .inr ⟨middle, List.mem_cons_self, same⟩
      · exact .inr ⟨added, List.mem_cons_of_mem _ member, same⟩

end Db

/-! ## Worlds and stages -/

/-- The uncommitted writes of a call at a stage. -/
def Delivery.Backs : Delivery → List Write → Prop
  | .bystander, writes => ∀ write ∈ writes, write.SparesMessages
  | .sweeping, writes => ∀ write ∈ writes, write.OnlyRequeues
  | .marked intent _ change, writes => writes = [.updateNotification intent.id change]
  | _, writes => writes = []

/-- The message is not tried too often, and one that waits may be tried once more. -/
def NotificationOutbox.Spent (row : NotificationOutbox) : Prop :=
  row.attempts ≤ maxNotificationAttempts ∧
    (row.status = .pending → row.attempts < maxNotificationAttempts)

/-- The row still waits as it was read. -/
def Db.StillWaits (db : Db) (intent : NotificationOutbox) : Prop :=
  ∃ row ∈ db.notificationOutbox, row.id = intent.id ∧ row.status = .pending ∧
    row.attempts = intent.attempts

/-- The message is marked as sent. -/
def Db.Sent (db : Db) (id : Nat) : Prop :=
  ∃ row ∈ db.notificationOutbox, row.id = id ∧ row.status = .sent

/-- The workers of each message take turns. -/
structure InTurns (world : World Call) (stages : Pid → Delivery) : Prop where
  spent : ∀ row ∈ world.db.notificationOutbox, row.Spent
  backed : ∀ pid, (stages pid).Backs (world.writesOf pid)
  records : ∀ pid intent result change, stages pid = .marked intent result change →
    change.Records intent result
  waits : ∀ pid intent, (stages pid).carries = some intent → world.db.StillWaits intent
  alone : ∀ pid other first second, (stages pid).carries = some first →
    (stages other).carries = some second → first.id = second.id → pid = other
  unsent : ∀ pid intent, (stages pid).carries = some intent → (stages pid).hasSent = false →
    intent.id ∉ world.outside.accepted
  once : ∀ id, world.outside.accepted.count id ≤ 1
  sent : ∀ id ∈ world.outside.accepted, world.db.Sent id ∨
    ∃ pid intent, (stages pid).carries = some intent ∧ (stages pid).hasSent = true ∧
      intent.id = id

namespace InTurns

variable {world after : World Call} {stages : Pid → Delivery} {pid : Pid} {stage : Delivery}

/-- A step that leaves the messages and the accepted ones alone, and gives at most the
message in hand back. -/
theorem settle (turns : InTurns world stages)
    (outbox : after.db.notificationOutbox = world.db.notificationOutbox)
    (accepted : after.outside.accepted = world.outside.accepted)
    (others : ∀ other, other ≠ pid → after.writesOf other = world.writesOf other)
    (backs : stage.Backs (after.writesOf pid))
    (records : ∀ intent result change, stage = .marked intent result change →
      change.Records intent result)
    (carries : ∀ intent, stage.carries = some intent → (stages pid).carries = some intent)
    (unsent : stage.carries ≠ none → stage.hasSent = false → (stages pid).hasSent = false)
    (sent : (stages pid).hasSent = true → stage.carries = (stages pid).carries ∧
      stage.hasSent = true) :
    InTurns after (Function.update stages pid stage) := by
  -- What a process carries after the step it has carried before.
  have carried : ∀ other intent, (Function.update stages pid stage other).carries = some intent →
      (stages other).carries = some intent := by
    intro other intent has
    by_cases same : other = pid
    · subst same
      rw [Function.update_self] at has
      exact carries intent has
    · rwa [Function.update_of_ne same] at has
  refine ⟨?_, fun other => ?_, fun other intent result change => ?_, fun other intent has => ?_,
    fun other third first second has holds => ?_, fun other intent has not => ?_, ?_, ?_⟩
  · rw [outbox]
    exact turns.spent
  · by_cases same : other = pid
    · subst same
      rw [Function.update_self]
      exact backs
    · rw [Function.update_of_ne same, others other same]
      exact turns.backed other
  · by_cases same : other = pid
    · subst same
      rw [Function.update_self]
      exact records intent result change
    · rw [Function.update_of_ne same]
      exact turns.records other intent result change
  · rw [Db.StillWaits, outbox]
    exact turns.waits other intent (carried other intent has)
  · exact turns.alone other third first second (carried _ _ has) (carried _ _ holds)
  · rw [accepted]
    refine turns.unsent other intent (carried _ _ has) ?_
    by_cases same : other = pid
    · subst same
      rw [Function.update_self] at has not
      exact unsent (by rw [has]; exact Option.some_ne_none intent) not
    · rwa [Function.update_of_ne same] at not
  · rw [accepted]
    exact turns.once
  · intro id member
    rw [accepted] at member
    rw [Db.Sent, outbox]
    refine (turns.sent id member).imp_right ?_
    rintro ⟨other, intent, has, hasSent, key⟩
    refine ⟨other, intent, ?_⟩
    by_cases same : other = pid
    · subst same
      obtain ⟨kept, still⟩ := sent hasSent
      rw [Function.update_self, kept]
      exact ⟨has, still, key⟩
    · rw [Function.update_of_ne same]
      exact ⟨has, hasSent, key⟩

/-- A step that leaves the messages, the accepted ones and all writes alone. -/
theorem quiet (turns : InTurns world stages)
    (outbox : after.db.notificationOutbox = world.db.notificationOutbox)
    (accepted : after.outside.accepted = world.outside.accepted)
    (writes : ∀ other, after.writesOf other = world.writesOf other) : InTurns after stages := by
  have settled : InTurns after (Function.update stages 0 (stages 0)) :=
    turns.settle outbox accepted (fun other _ => writes other) (writes 0 ▸ turns.backed 0)
      (turns.records 0) (fun _ has => has) (fun _ not => not) fun sends => ⟨rfl, sends⟩
  rwa [Function.update_eq_self] at settled

/-- A process starts, ends or is stopped with no accepted message in hand. -/
theorem reset (turns : InTurns world stages) (unsent : (stages pid).hasSent = false)
    (empty : stage.carries = none) (backs : stage.Backs []) :
    InTurns (world.release pid) (Function.update stages pid stage) := by
  refine turns.settle rfl rfl (fun other different => writesOf_release_of_ne world different) ?_
    (fun intent result change same => ?_) (fun intent has => ?_) (fun has => absurd empty has)
    fun sends => ?_
  · rw [writesOf_release_self]
    exact backs
  · rw [same] at empty
    cases empty
  · rw [empty] at has
    cases has
  · rw [unsent] at sends
    cases sends

/-- A worker reads a message that waits and that no other worker has in hand. -/
theorem read (turns : InTurns world stages) (consistent : world.Consistent)
    {intent : NotificationOutbox} (there : intent ∈ world.db.notificationOutbox)
    (waiting : intent.status = .pending) (nothing : world.writesOf pid = [])
    (idle : (stages pid).carries = none)
    (free : ∀ other, other ≠ pid → ∀ held, (stages other).carries = some held →
      held.id ≠ intent.id) :
    InTurns world (Function.update stages pid (.read intent)) := by
  -- Who carries a message after the step: the worker this one, the others what they had.
  have carried : ∀ other held, (Function.update stages pid (.read intent) other).carries =
      some held → (other = pid ∧ held = intent) ∨
        (other ≠ pid ∧ (stages other).carries = some held) := by
    intro other held has
    by_cases same : other = pid
    · subst same
      rw [Function.update_self] at has
      exact .inl ⟨rfl, (Option.some.inj has).symm⟩
    · rw [Function.update_of_ne same] at has
      exact .inr ⟨same, has⟩
  have notSent : (stages pid).hasSent = false := by
    cases stage : stages pid with
    | answered held result =>
        rw [stage] at idle
        cases idle
    | marked held result change =>
        rw [stage] at idle
        cases idle
    | _ => rfl
  have fresh : intent.id ∉ world.outside.accepted := by
    intro member
    rcases turns.sent intent.id member with ⟨row, found, key, sent⟩ | ⟨other, held, has, sends, key⟩
    · have same := List.inj_on_of_nodup_map (consistent.ids_nodup .notificationOutbox) found there
        key
      rw [same, waiting] at sent
      cases sent
    · refine free other (fun same => ?_) held has key
      rw [same, notSent] at sends
      cases sends
  refine ⟨turns.spent, fun other => ?_, fun other held result change same => ?_,
    fun other held has => ?_, fun other third first second has holds key => ?_,
    fun other held has not => ?_, turns.once, fun id member => ?_⟩
  · by_cases same : other = pid
    · subst same
      rw [Function.update_self]
      exact nothing
    · rw [Function.update_of_ne same]
      exact turns.backed other
  · by_cases mine : other = pid
    · subst mine
      rw [Function.update_self] at same
      cases same
    · rw [Function.update_of_ne mine] at same
      exact turns.records other held result change same
  · rcases carried other held has with ⟨rfl, rfl⟩ | ⟨-, has⟩
    · exact ⟨held, there, rfl, waiting, rfl⟩
    · exact turns.waits other held has
  · rcases carried other first has with ⟨rfl, rfl⟩ | ⟨different, had⟩
    · rcases carried third second holds with ⟨rfl, -⟩ | ⟨different, held⟩
      · rfl
      · exact absurd key.symm (free third different second held)
    · rcases carried third second holds with ⟨rfl, rfl⟩ | ⟨-, held⟩
      · exact absurd key (free other different first had)
      · exact turns.alone other third first second had held key
  · rcases carried other held has with ⟨rfl, rfl⟩ | ⟨different, has⟩
    · exact fresh
    · rw [Function.update_of_ne different] at not
      exact turns.unsent other held has not
  · refine (turns.sent id member).imp_right ?_
    rintro ⟨other, held, has, sends, key⟩
    have different : other ≠ pid := by
      rintro rfl
      rw [notSent] at sends
      cases sends
    refine ⟨other, held, ?_⟩
    rw [Function.update_of_ne different]
    exact ⟨has, sends, key⟩

/-- The provider refuses the message, or raises. -/
theorem refused (turns : InTurns world stages) {intent : NotificationOutbox}
    (reads : stages pid = .read intent) (db : after.db = world.db)
    (accepted : after.outside.accepted = world.outside.accepted)
    (writes : ∀ other, after.writesOf other = world.writesOf other)
    (goesOn : stage = .idle ∨ ∃ result : SmsSendResult, result.success = false ∧
      stage = .answered intent result) :
    InTurns after (Function.update stages pid stage) := by
  have nothing : world.writesOf pid = [] := by
    have backed := turns.backed pid
    rwa [reads] at backed
  refine turns.settle (congrArg _ db) accepted (fun other _ => writes other) ?_
    (fun intent result change same => ?_) (fun held has => ?_) (fun _ _ => ?_) fun sends => ?_
  · rw [writes, nothing]
    rcases goesOn with rfl | ⟨result, -, rfl⟩ <;> rfl
  · rcases goesOn with rfl | ⟨result, -, rfl⟩ <;> cases same
  · rw [reads]
    rcases goesOn with rfl | ⟨result, -, rfl⟩
    · cases has
    · exact has
  · rw [reads]
    rfl
  · rw [reads] at sends
    cases sends

/-- The provider accepts the message. -/
theorem accepted (turns : InTurns world stages) {intent : NotificationOutbox}
    {result : SmsSendResult} (reads : stages pid = .read intent) (success : result.success = true)
    (db : after.db = world.db)
    (grows : after.outside.accepted = world.outside.accepted ++ [intent.id])
    (writes : ∀ other, after.writesOf other = world.writesOf other) :
    InTurns after (Function.update stages pid (.answered intent result)) := by
  have carried : ∀ other held, (Function.update stages pid (.answered intent result)
      other).carries = some held → (stages other).carries = some held := by
    intro other held has
    by_cases same : other = pid
    · subst same
      rw [Function.update_self] at has
      rw [reads]
      exact has
    · rwa [Function.update_of_ne same] at has
  have hand : (stages pid).carries = some intent := by rw [reads]; rfl
  have fresh : intent.id ∉ world.outside.accepted :=
    turns.unsent pid intent hand (by rw [reads]; rfl)
  refine ⟨?_, fun other => ?_, fun other held outcome change same => ?_, fun other held has => ?_,
    fun other third first second has holds => ?_, fun other held has not => ?_, fun id => ?_,
    fun id member => ?_⟩
  · rw [db]
    exact turns.spent
  · rw [writes]
    have backed := turns.backed other
    by_cases same : other = pid
    · subst same
      rw [reads] at backed
      rw [Function.update_self]
      exact backed
    · rw [Function.update_of_ne same]
      exact backed
  · by_cases mine : other = pid
    · subst mine
      rw [Function.update_self] at same
      cases same
    · rw [Function.update_of_ne mine] at same
      exact turns.records other held outcome change same
  · rw [db]
    exact turns.waits other held (carried other held has)
  · exact turns.alone other third first second (carried _ _ has) (carried _ _ holds)
  · have had := carried other held has
    have different : other ≠ pid := by
      rintro rfl
      rw [Function.update_self] at not
      exact absurd (success.symm.trans not) (by decide)
    rw [Function.update_of_ne different] at not
    rw [grows, List.mem_append, List.mem_singleton]
    rintro (old | same)
    · exact turns.unsent other held had not old
    · exact different (turns.alone other pid held intent had hand same)
  · rw [grows, List.count_append, List.count_singleton]
    by_cases same : intent.id = id
    · subst same
      rw [List.count_eq_zero_of_not_mem fresh]
      simp
    · simp only [beq_iff_eq, same, if_false]
      exact turns.once id
  · rw [grows, List.mem_append, List.mem_singleton] at member
    rw [db]
    rcases member with old | rfl
    · refine (turns.sent id old).imp_right ?_
      rintro ⟨other, held, has, sends, key⟩
      have different : other ≠ pid := by
        rintro rfl
        rw [reads] at sends
        cases sends
      refine ⟨other, held, ?_⟩
      rw [Function.update_of_ne different]
      exact ⟨has, sends, key⟩
    · refine .inr ⟨pid, intent, ?_⟩
      rw [Function.update_self]
      exact ⟨rfl, success, rfl⟩

/-- A commit, given what becomes of the messages that wait and of those that are sent. -/
theorem commit (turns : InTurns world stages) {call : Call} (ends : stage.Backs [])
    (empty : stage.carries = none)
    (spent : ∀ row ∈ (world.view pid).notificationOutbox, row.Spent)
    (waits : ∀ other intent, other ≠ pid → (stages other).carries = some intent →
      (world.view pid).StillWaits intent)
    (sent : ∀ id, world.db.Sent id → (world.view pid).Sent id)
    (mine : ∀ intent, (stages pid).carries = some intent → (stages pid).hasSent = true →
      (world.view pid).Sent intent.id) :
    InTurns (world.committed pid call) (Function.update stages pid stage) := by
  have carried : ∀ other held, (Function.update stages pid stage other).carries = some held →
      other ≠ pid ∧ (stages other).carries = some held := by
    intro other held has
    by_cases same : other = pid
    · subst same
      rw [Function.update_self, empty] at has
      cases has
    · rw [Function.update_of_ne same] at has
      exact ⟨same, has⟩
  refine ⟨spent, fun other => ?_, fun other intent result change same => ?_,
    fun other intent has => ?_, fun other third first second has holds => ?_,
    fun other intent has not => ?_, turns.once, fun id member => ?_⟩
  · by_cases same : other = pid
    · subst same
      rw [Function.update_self]
      change stage.Backs ((world.release other).writesOf other)
      rw [writesOf_release_self]
      exact ends
    · rw [Function.update_of_ne same]
      change (stages other).Backs ((world.release pid).writesOf other)
      rw [writesOf_release_of_ne world same]
      exact turns.backed other
  · by_cases own : other = pid
    · subst own
      rw [Function.update_self] at same
      subst same
      cases empty
    · rw [Function.update_of_ne own] at same
      exact turns.records other intent result change same
  · obtain ⟨different, had⟩ := carried other intent has
    exact waits other intent different had
  · exact turns.alone other third first second (carried _ _ has).2 (carried _ _ holds).2
  · obtain ⟨different, had⟩ := carried other intent has
    rw [Function.update_of_ne different] at not
    exact turns.unsent other intent had not
  · rcases turns.sent id member with done | ⟨other, intent, has, sends, key⟩
    · exact .inl (sent id done)
    · by_cases same : other = pid
      · subst same
        rw [← key]
        exact .inl (mine intent has sends)
      · refine .inr ⟨other, intent, ?_⟩
        rw [Function.update_of_ne same]
        exact ⟨has, sends, key⟩

/-- A call that does not handle messages commits. -/
theorem commit_outsider (turns : InTurns world stages) {call : Call}
    (light : ∀ write ∈ world.writesOf pid, write.OnlyRequeues) (ends : (stages pid).Backs [])
    (empty : (stages pid).carries = none) : InTurns (world.committed pid call) stages := by
  have committed : InTurns (world.committed pid call)
      (Function.update stages pid (stages pid)) := by
    refine turns.commit ends empty (fun row there => ?_) (fun other intent _ has => ?_)
      (fun id done => ?_) fun intent has => ?_
    · rcases Db.outbox_origin light there with ⟨origin, old, same⟩ | ⟨added, member, same⟩
      · rw [NotificationOutbox.Spent, same.attempts, same.status]
        exact turns.spent origin old
      · have fresh : added.Fresh := light _ member
        rw [NotificationOutbox.Spent, same.attempts, fresh.untried]
        exact ⟨Nat.zero_le _, fun _ => by decide⟩
    · obtain ⟨row, there, key, waiting, tries⟩ := turns.waits other intent has
      obtain ⟨later, stays, same⟩ := Db.outbox_kept light there
      exact ⟨later, stays, same.id.trans key, same.status.trans waiting, same.attempts.trans tries⟩
    · obtain ⟨row, there, key, sent⟩ := done
      obtain ⟨later, stays, same⟩ := Db.outbox_kept light there
      exact ⟨later, stays, same.id.trans key, same.status.trans sent⟩
    · rw [empty] at has
      cases has
  rwa [Function.update_eq_self] at committed

/-- A worker commits the mark on its message. -/
theorem commit_marked (turns : InTurns world stages) (consistent : world.Consistent) {call : Call}
    {intent : NotificationOutbox} {result : SmsSendResult} {change : NotificationChange}
    (marked : stages pid = .marked intent result change) :
    InTurns (world.committed pid call) (Function.update stages pid .idle) := by
  have hand : (stages pid).carries = some intent := by rw [marked]; rfl
  have records := turns.records pid intent result change marked
  have view : (world.view pid).notificationOutbox = world.db.notificationOutbox.map fun row =>
      if row.id = intent.id then change.apply row else row := by
    have backed := turns.backed pid
    rw [marked] at backed
    rw [World.view, show world.writesOf pid = _ from backed]
    rfl
  -- The row of the message is the one that was read.
  obtain ⟨current, there, key, waiting, tries⟩ := turns.waits pid intent hand
  have unique : ∀ row ∈ world.db.notificationOutbox, row.id = intent.id → row = current :=
    fun row found same => List.inj_on_of_nodup_map (consistent.ids_nodup .notificationOutbox)
      found there (same.trans key.symm)
  have stays : ∀ row ∈ world.db.notificationOutbox, row.id ≠ intent.id →
      row ∈ (world.view pid).notificationOutbox := by
    intro row found different
    rw [view]
    refine List.mem_map.mpr ⟨row, found, if_neg different⟩
  have moved : change.apply current ∈ (world.view pid).notificationOutbox := by
    rw [view]
    exact List.mem_map.mpr ⟨current, there, if_pos key⟩
  have limit := (turns.spent current there).2 waiting
  rw [tries] at limit
  refine turns.commit rfl rfl (fun row found => ?_) (fun other held different has => ?_)
    (fun id done => ?_) fun held has sends => ?_
  · rw [view] at found
    obtain ⟨origin, old, rfl⟩ := List.mem_map.mp found
    split
    · next same =>
        rw [unique origin old same]
        cases records with
        | send accepted sentAt => exact ⟨limit, by rintro ⟨⟩⟩
        | giveUp refused last => exact ⟨limit, by rintro ⟨⟩⟩
        | retry refused more => exact ⟨limit, fun _ => more⟩
    · exact turns.spent origin old
  · obtain ⟨row, found, same, rest⟩ := turns.waits other held has
    refine ⟨row, stays row found fun equal => ?_, same, rest⟩
    exact different (turns.alone other pid held intent has hand (same.symm.trans equal))
  · obtain ⟨row, found, same, sent⟩ := done
    refine ⟨row, stays row found fun equal => ?_, same, sent⟩
    rw [unique row found equal, waiting] at sent
    cases sent
  · rw [hand] at has
    cases has
    rw [marked] at sends
    refine ⟨_, moved, ?_⟩
    cases records with
    | send accepted sentAt => exact ⟨key, rfl⟩
    | giveUp refused last => exact absurd (sends.symm.trans refused) (by decide)
    | retry refused more => exact absurd (sends.symm.trans refused) (by decide)

/-- A statement of a call that does not handle messages. -/
theorem outsider (turns : InTurns world stages) {call : Call} {stmt : Stmt} {answer : stmt.Answer}
    {kind : Write → Prop} (executed : execStmt pid call stmt world = some (answer, after))
    (allowed : stmt.WritesOnly kind) (empty : (stages pid).carries = none)
    (backs : ∀ writes, (stages pid).Backs writes ↔ ∀ write ∈ writes, kind write)
    (light : ∀ write, kind write → write.OnlyRequeues) : InTurns after stages := by
  have accepted := execStmt_accepted executed fun id message same => by
    subst same
    exact allowed
  have nothing : (stages pid).Backs [] := 
    (backs []).mpr fun _ member => absurd member List.not_mem_nil
  have kinds := (backs _).mp (turns.backed pid)
  -- One more write of the kind.
  have adds : ∀ {write : Write}, kind write → after.db = world.db →
      after.pending = world.pending ++ [(pid, write)] → InTurns after stages := by
    intro write fits db pending
    have writes : ∀ other, after.writesOf other = (world.append pid write).writesOf other := by
      intro other
      rw [World.writesOf, pending]
      rfl
    have added : InTurns after (Function.update stages pid (stages pid)) := by
      refine turns.settle (congrArg _ db) accepted (fun other different => ?_) ?_
        (turns.records pid) (fun _ has => has) (fun _ not => not) fun sends => ⟨rfl, sends⟩
      · rw [writes, writesOf_append_of_ne world different]
      · rw [writes, writesOf_append_self, backs]
        intro other member
        rcases List.mem_append.mp member with old | new
        · exact kinds other old
        · rw [List.mem_singleton] at new
          exact new ▸ fits
    rwa [Function.update_eq_self] at added
  obtain ⟨event, shown, effect⟩ : ∃ event : Event Sql, ⟨stmt, answer⟩ = event ∧
      Effect pid call world after event := ⟨_, rfl, execStmt_effect executed⟩
  cases effect with
  | quiet silent db pending journal =>
      refine turns.quiet (congrArg _ db) accepted fun other => ?_
      rw [World.writesOf, pending]
      rfl
  | inserted db pending journal =>
      cases shown
      exact adds (allowed _) db pending
  | updated db pending journal =>
      cases shown
      exact adds allowed db pending
  | committed committed =>
      subst committed
      exact turns.commit_outsider (fun write member => light write (kinds write member)) nothing
        empty
  | rolledBack released =>
      subst released
      have unsent : (stages pid).hasSent = false := by
        cases stage : stages pid with
        | answered intent result =>
            rw [stage] at empty
            cases empty
        | marked intent result change =>
            rw [stage] at empty
            cases empty
        | _ => rfl
      have reset := turns.reset unsent empty nothing
      rwa [Function.update_eq_self] at reset

/-- **A statement keeps the turns**, if no other worker has the message in hand that it
reads. -/
theorem issue (turns : InTurns world stages) (consistent : world.Consistent) {call : Call}
    {stmt : Stmt} {answer : stmt.Answer}
    (executed : execStmt pid call stmt world = some (answer, after))
    (allowed : (stages pid).allows stmt)
    (free : ∀ id, stmt = .select (.notificationByPrimaryKey id) → ∀ other, other ≠ pid →
      ∀ intent, (stages other).carries = some intent → intent.id ≠ id)
    (kept : (stages pid).losesAnswer = false) :
    InTurns after (Function.update stages pid ((stages pid).next ⟨stmt, answer⟩)) := by
  have backed := turns.backed pid
  cases here : stages pid with
  | bystander =>
      rw [here] at allowed
      have kept := turns.outsider executed allowed (by rw [here]; rfl)
        (fun writes => by rw [here]; rfl) fun _ => Write.SparesMessages.onlyRequeues
      have same : (Delivery.bystander).next ⟨stmt, answer⟩ = stages pid := here.symm
      rwa [same, Function.update_eq_self]
  | sweeping =>
      rw [here] at allowed
      have kept := turns.outsider executed allowed (by rw [here]; rfl)
        (fun writes => by rw [here]; rfl) fun _ light => light
      have same : (Delivery.sweeping).next ⟨stmt, answer⟩ = stages pid := here.symm
      rwa [same, Function.update_eq_self]
  | idle =>
      rw [here] at allowed backed
      have stays : InTurns after stages → ∀ {stage : Delivery}, stage = .idle →
          InTurns after (Function.update stages pid stage) := by
        rintro kept stage rfl
        rwa [← here, Function.update_eq_self]
      cases stmt with
      | select query =>
          obtain ⟨evaluated, rfl⟩ : query.eval (world.view pid) = answer ∧ world = after := by
            cases executed
            exact ⟨rfl, rfl⟩
          cases query with
          | notificationByPrimaryKey id =>
              cases answer with
              | none => exact stays turns rfl
              | some intent =>
                  by_cases waiting : intent.status = .pending
                  · rw [view_of_writesOf_nil backed] at evaluated
                    have key := List.find?_some evaluated
                    rw [beq_iff_eq] at key
                    have reads : (Delivery.idle).next ⟨.select (.notificationByPrimaryKey id),
                        (some intent : Option NotificationOutbox)⟩ = .read intent := if_pos waiting
                    rw [reads]
                    refine turns.read consistent (List.mem_of_find?_eq_some evaluated) waiting
                      backed (by rw [here]; rfl) ?_
                    rw [key]
                    exact free id rfl
                  · exact stays turns (if_neg waiting)
          | _ => exact stays turns rfl
      | ask request =>
          have accepted := execStmt_accepted executed fun id message same => by
            cases same
            exact allowed
          have db : after.db = world.db := by cases executed; rfl
          have writes : ∀ other, after.writesOf other = world.writesOf other := by
            cases executed
            exact fun _ => rfl
          have kept := turns.quiet (congrArg _ db) accepted writes
          cases request with
          | sendSms id message => exact allowed.elim
          | _ => exact stays kept rfl
      | rollback =>
          cases executed
          exact turns.reset (by rw [here]; rfl) rfl rfl
      | _ => exact allowed.elim
  | read intent =>
      rw [here] at allowed
      cases stmt with
      | ask request =>
          cases request with
          | sendSms id message =>
              obtain rfl : id = intent.id := allowed
              have grows : after.outside.accepted =
                  world.outside.acceptedBy intent.id answer := by
                cases executed
                exact world.outside.ask_sendSms intent.id message
              have db : after.db = world.db := by cases executed; rfl
              have writes : ∀ other, after.writesOf other = world.writesOf other := by
                cases executed
                exact fun _ => rfl
              cases answer with
              | none => exact turns.refused here db grows writes (.inl rfl)
              | some result =>
                  cases success : result.success with
                  | true =>
                      refine turns.accepted here success db ?_ writes
                      rw [grows, Outside.acceptedBy, if_pos success]
                  | false =>
                      refine turns.refused here db ?_ writes (.inr ⟨result, success, rfl⟩)
                      rw [grows, Outside.acceptedBy, if_neg (by rw [success]; decide)]
          | _ => exact allowed.elim
      | _ => exact allowed.elim
  | answered intent result =>
      rw [here] at allowed backed
      cases stmt with
      | now =>
          cases executed
          change InTurns world (Function.update stages pid (.answered intent result))
          rwa [← here, Function.update_eq_self]
      | rollback =>
          -- What the row does not take is the answer of a provider that has refused.
          have refused : result.success = false := by
            rw [here, Delivery.losesAnswer, show result.isStorable = false from allowed] at kept
            simpa using kept
          cases executed
          exact turns.reset (by rw [here]; exact refused) rfl rfl
      | update write =>
          cases write with
          | updateNotification id change =>
              obtain ⟨rfl, records⟩ := allowed
              have accepted := execStmt_accepted executed nofun
              simp only [execStmt, Write.target] at executed
              split at executed
              · cases executed
              · cases executed
                refine turns.settle ?_ accepted (fun other different => ?_) ?_
                  (fun held outcome new same => ?_) (fun held has => ?_) (fun _ not => ?_)
                  fun sends => ?_
                · change (world.acquire pid _).db.notificationOutbox = _
                  rw [acquire_db]
                · rw [writesOf_append_of_ne _ different, writesOf_acquire]
                · rw [writesOf_append_self, writesOf_acquire, show world.writesOf pid =
                    [] from backed]
                  rfl
                · cases same
                  exact records
                · rw [here]
                  exact has
                · rw [here]
                  exact not
                · rw [here] at sends ⊢
                  exact ⟨rfl, sends⟩
          | _ => exact allowed.elim
      | _ => exact allowed.elim
  | marked intent result change =>
      rw [here] at allowed
      cases stmt with
      | commit =>
          cases executed
          exact turns.commit_marked consistent here
      | _ => exact allowed.elim

end InTurns

/-! ## Runs -/

/-- How far each process is with a message. -/
abbrev deliveries (config : BookingConfig) : Pid → Delivery :=
  config.stages courierWatch .bystander

/-- The next statement of the process reads the row of a message. -/
def AboutToRead (config : BookingConfig) (pid : Pid) (id : Nat) : Prop :=
  ∃ call next log, config.running pid =
    some ⟨call, .call (.select (.notificationByPrimaryKey id)) next, log⟩

/-- No worker reads a message while another is between its read and its commit, and no
worker loses the provider's yes: its row takes it, and the worker is not stopped before its
commit. -/
def TakesTurns (config : BookingConfig) : Action Call → Prop
  | .issue pid =>
      (∀ id, AboutToRead config pid id → ∀ other, other ≠ pid → ∀ intent,
        (deliveries config other).carries = some intent → intent.id ≠ id) ∧
      (deliveries config pid).losesAnswer = false
  | .stop pid => (deliveries config pid).hasSent = false
  | _ => True

/-- The messages at the start have been tried as often as the workers would. -/
def Db.OutboxSpent (db : Db) : Prop := ∀ row ∈ db.notificationOutbox, row.Spent

section Steps

variable {cfg : Settings} {before after : BookingConfig} {action : Action Call}

theorem begins_backs (call : Call) :
    (Delivery.begins call).carries = none ∧ (Delivery.begins call).Backs [] := by
  unfold Delivery.begins
  split
  · exact ⟨rfl, rfl⟩
  · exact ⟨rfl, fun _ member => absurd member List.not_mem_nil⟩
  · exact ⟨rfl, fun _ member => absurd member List.not_mem_nil⟩

theorem Delivery.hasSent_of_empty {stage : Delivery} (empty : stage.carries = none) :
    stage.hasSent = false := by
  cases stage with
  | answered intent result => cases empty
  | marked intent result change => cases empty
  | _ => rfl

/-- The workers still take turns after a step that lets them. -/
theorem turns_step (consistent : before.world.Consistent) (watched : before.Watched courierWatch)
    (turns : InTurns before.world (deliveries before)) (admitted : TakesTurns before action)
    (taken : Step (bookingMachine cfg) before action after) :
    InTurns after.world (deliveries after) := by
  cases watched.staged taken .bystander with
  | @start pid call idle world stages =>
      rw [world, deliveries, stages]
      refine turns.reset ?_ (begins_backs call).1 (begins_backs call).2
      rw [deliveries, idle]
      rfl
  | @issue pid call stmt next log answer running allowed executed stages =>
      rw [deliveries, stages]
      refine turns.issue consistent executed allowed (fun id reads => ?_) admitted.2
      subst reads
      exact admitted.1 id ⟨call, next, log, running⟩
  | @finish pid call result met world stages =>
      rw [world, deliveries, stages]
      exact turns.reset (Delivery.hasSent_of_empty met) rfl
        fun _ member => absurd member List.not_mem_nil
  | @stop pid world stages =>
      rw [world, deliveries, stages]
      exact turns.reset admitted rfl fun _ member => absurd member List.not_mem_nil
  | ambient changed stages =>
      rw [deliveries, stages]
      obtain ⟨db, clock, outside, -, same, drifts, after⟩ := changed
      refine turns.quiet ?_ ?_ fun _ => ?_
      · rw [after]
        exact same.notificationOutbox
      · rw [after]
        exact drifts.accepted
      · rw [after]
        rfl

/-- Only the sweep for messages is at the stage of the sweep. -/
theorem call_of_sweeping {call : Call} {log : List (Event Sql)}
    (sweeps : courierWatch.state call log = .sweeping) :
    call = .work .reconcileStaleNotifications := by
  induction log using List.reverseRecOn with
  | nil =>
      change Delivery.begins call = .sweeping at sweeps
      unfold Delivery.begins at sweeps
      split at sweeps
      · cases sweeps
      · rfl
      · cases sweeps
  | append_singleton log event ih =>
      rw [Watch.state_snoc] at sweeps
      refine ih ?_
      change (courierWatch.state call log).next event = .sweeping at sweeps
      generalize courierWatch.state call log = stage at sweeps
      unfold Delivery.next at sweeps
      split at sweeps
      · split at sweeps
        · split at sweeps <;> cases sweeps
        · cases sweeps
      · split at sweeps <;> cases sweeps
      · cases sweeps
      · cases sweeps
      · cases sweeps
      · exact sweeps

/-- The step is not one of the sweep for messages. -/
def NotSweeping (config : BookingConfig) (action : Action Call) : Prop :=
  ∀ pid process, action = .issue pid → config.running pid = some process →
    process.call ≠ .work .reconcileStaleNotifications

/-- A message that is marked as sent is left as it is; only the sweep may note that it
has seen it. -/
theorem sent_stays (consistent : before.world.Consistent) (watched : before.Watched courierWatch)
    (turns : InTurns before.world (deliveries before))
    (taken : Step (bookingMachine cfg) before action after) {row : NotificationOutbox}
    (there : row ∈ before.world.db.notificationOutbox) (sent : row.status = .sent) :
    ∃ later ∈ after.world.db.notificationOutbox, later.SameMessage row ∧
      (NotSweeping before action → later = row) := by
  have still : after.world.db.notificationOutbox = before.world.db.notificationOutbox →
      ∃ later ∈ after.world.db.notificationOutbox, later.SameMessage row ∧
        (NotSweeping before action → later = row) := fun same =>
    ⟨row, same ▸ there, .refl row, fun _ => rfl⟩
  cases watched.staged taken .bystander with
  | start idle world stages => exact still (by rw [world]; rfl)
  | finish met world stages => exact still (by rw [world]; rfl)
  | stop world stages => exact still (by rw [world]; rfl)
  | ambient changed stages =>
      obtain ⟨db, clock, outside, -, same, -, after⟩ := changed
      refine still ?_
      rw [after]
      exact same.notificationOutbox
  | @issue pid call stmt next log answer running allowed executed stages =>
      obtain ⟨event, shown, effect⟩ : ∃ event : Event Sql, ⟨stmt, answer⟩ = event ∧
          Effect pid call before.world after.world event := ⟨_, rfl, execStmt_effect executed⟩
      cases effect with
      | quiet silent db pending journal => exact still (congrArg _ db)
      | inserted db pending journal => exact still (congrArg _ db)
      | updated db pending journal => exact still (congrArg _ db)
      | rolledBack released => exact still (by rw [released]; rfl)
      | committed committed =>
          cases shown
          rw [committed]
          have backed := turns.backed pid
          change (deliveries before pid).allows .commit at allowed
          cases here : deliveries before pid with
          | bystander =>
              rw [here] at backed
              exact ⟨row, Db.outbox_spared backed there, .refl row, fun _ => rfl⟩
          | sweeping =>
              rw [here] at backed
              obtain ⟨later, stays, same⟩ := Db.outbox_kept backed there
              refine ⟨later, stays, same, fun other => ?_⟩
              rw [deliveries, Config.stages_running running] at here
              exact absurd (call_of_sweeping here) (other pid _ rfl running)
          | marked intent result change =>
              obtain ⟨current, found, key, waiting, -⟩ := turns.waits pid intent (by rw [here]; rfl)
              have different : row.id ≠ intent.id := by
                intro same
                have equal := List.inj_on_of_nodup_map (consistent.ids_nodup .notificationOutbox)
                  there found (same.trans key.symm)
                rw [equal, waiting] at sent
                cases sent
              rw [here] at backed
              refine ⟨row, ?_, .refl row, fun _ => rfl⟩
              change row ∈ (before.world.db.applyAll (before.world.writesOf pid)).notificationOutbox
              rw [show before.world.writesOf pid = _ from backed]
              exact List.mem_map.mpr ⟨row, there, if_neg different⟩
          | _ =>
              rw [here] at allowed
              exact allowed.elim

end Steps

/-- What holds of the messages in a configuration, and stays so in the next steps. -/
structure SentOnce (cfg : Settings) (config : BookingConfig) : Prop where
  accepted : ∀ id, config.world.outside.accepted.count id ≤ 1
  attempts : ∀ row ∈ config.world.db.notificationOutbox, row.attempts ≤ maxNotificationAttempts
  stays : ∀ action after, Step (bookingMachine cfg) config action after →
    ∀ row ∈ config.world.db.notificationOutbox, row.status = .sent →
      ∃ later ∈ after.world.db.notificationOutbox, later.SameMessage row ∧
        (NotSweeping config action → later = row)

/-- **Each message is sent at most once, when its workers take turns.** In every run in
which no worker reads a message while another is between its read and its commit, and no
worker loses the provider's yes before its commit, the provider accepts each message at most
once, no message is tried too often, and one that is marked as sent is never changed again. -/
theorem sent_once_by_turns (cfg : Settings) {db : Db} {nextId : Nat}
    (wellFormed : db.WellFormed nextId) (spent : db.OutboxSpent) (clock : Instant)
    (redisTakes : Nat → Bool) {config : BookingConfig}
    (runs : Runs (bookingMachine cfg) TakesTurns (bookingStart db nextId clock redisTakes)
      config) : SentOnce cfg config := by
  have start := orderly_start cfg (fun _ => True) wellFormed trivial clock redisTakes
  have every : BookingRun cfg (bookingStart db nextId clock redisTakes) config :=
    Runs.mono (fun _ _ _ => trivial) runs
  have consistent := (BookingRun.orderly lawful_true start every).invariant.1
  have kept : config.Watched courierWatch ∧ InTurns config.world (deliveries config) := by
    refine Runs.orderly_invariant lawful_true (fun reached => reached.Watched courierWatch ∧
      InTurns reached.world (deliveries reached)) start runs ?_ ?_
    · refine ⟨.initial courierWatch _, spent, fun pid write member => ?_, fun _ _ _ _ same =>
        ?_, fun _ _ has => ?_,
        fun _ _ _ _ has => ?_, fun _ _ has => ?_, fun id => Nat.zero_le _, fun _ member => ?_⟩
      · cases member
      · cases same
      · cases has
      · cases has
      · cases has
      · cases member
    · rintro before action after orderly ⟨watched, turns⟩ admitted taken
      exact ⟨watched.step taken (courier_perform cfg) fun _ _ _ _ _ _ _ _ _ _ => trivial,
        turns_step orderly.invariant.1 watched turns admitted taken⟩
  obtain ⟨watched, turns⟩ := kept
  exact ⟨turns.once, fun row there => (turns.spent row there).1,
    fun action after taken row there sent => sent_stays consistent watched turns taken there sent⟩

/-! ## One message, one worker and two -/

/-- The salon, with a provider that accepts every message. -/
def acceptingStart : BookingConfig :=
  { sampleStart with
    world := { sampleStart.world with
      outside := { Outside.start with smsProvider := fun _ => some ⟨true, some "SM1", none⟩ } } }

theorem acceptingStart_reached (cfg : Settings) :
    Step (bookingMachine cfg) sampleStart .ambient acceptingStart :=
  .ambient ⟨sampleStart.world.db, sampleStart.world.clock, acceptingStart.world.outside,
    le_refl _, ⟨rfl, rfl, rfl, rfl, rfl, rfl⟩,
      ⟨⟨[], (List.append_nil _).symm, nofun⟩, rfl, rfl, rfl⟩, rfl⟩

def sampleBooking : Call :=
  .createBooking
    { tenantId := 1, businessId := 1, customerId := 1, serviceId := 1, staffId := some 1,
      startsAt := 0, source := .api }

/-- The job of the customer's message. -/
def sampleDelivery : Call := .work (.processJob ⟨.sendNotification 12, 0⟩)

/-- A booking is made, and a worker sends its message. -/
def bookAndSend : List (Action Call) :=
  wholeCall 0 sampleBooking 16 ++ wholeCall 0 sampleDelivery 8

theorem bookAndSend_possible :
    (acceptingStart.runActions (bookingMachine sampleSettings) bookAndSend).isSome = true := by
  decide +kernel

/-- The worker that is at work has no answer that its row does not take. -/
def keepsAnswer (config : BookingConfig) : Action Call → Bool
  | .issue pid => !(deliveries config pid).losesAnswer
  | _ => true

/-- A process that runs alone takes turns, if it loses no answer. -/
theorem takesTurns_of_alone {pid : Pid} (config : BookingConfig) (action : Action Call)
    (alone : ∀ other, other ≠ pid → config.running other = none)
    (mine : action.by pid = true) (keeps : keepsAnswer config action = true) :
    TakesTurns config action := by
  cases action with
  | issue actor =>
      refine ⟨fun id _ other different intent has => ?_, by simpa [keepsAnswer] using keeps⟩
      rw [Action.by, beq_iff_eq] at mine
      rw [deliveries, Config.stages_idle (alone other (mine ▸ different))] at has
      cases has
  | stop actor => cases mine
  | _ => exact trivial

theorem one_worker_sends_once :
    ∃ config, Runs (bookingMachine sampleSettings) TakesTurns sampleStart config ∧
      config.world.outside.accepted = [12] ∧
      config.world.db.notificationOutbox.map (·.status) = [.sent] ∧
      SentOnce sampleSettings config := by
  have mine : bookAndSend.all (·.by 0) = true := by decide
  have ran := (Option.some_get bookAndSend_possible).symm
  have runs : Runs (bookingMachine sampleSettings) TakesTurns sampleStart _ :=
    .head ⟨.ambient, trivial, acceptingStart_reached sampleSettings⟩
      (Runs.of_single_guarded takesTurns_of_alone bookAndSend mine (by decide +kernel)
        (fun _ _ => rfl) ran)
  refine ⟨_, runs, by decide +kernel, by decide +kernel, ?_⟩
  exact sent_once_by_turns sampleSettings sampleDb_wellFormed
    (fun _ member => absurd member List.not_mem_nil) 0 (fun _ => true) runs

/-- A booking is made, and two workers handle the job of its message, each of which
reads the row before the other has committed. -/
def bookAndSendTwice : List (Action Call) :=
  wholeCall 0 sampleBooking 16 ++
    [.start 1 sampleDelivery, .start 2 sampleDelivery, .issue 1, .issue 1, .issue 2, .issue 2,
      .issue 1, .issue 2]

theorem bookAndSendTwice_possible :
    (acceptingStart.runActions (bookingMachine sampleSettings) bookAndSendTwice).isSome = true := by
  decide +kernel

theorem two_workers_send_twice :
    ∃ config, BookingRun sampleSettings sampleStart config ∧
      config.world.outside.accepted.count 12 = 2 ∧ ¬SentOnce sampleSettings config := by
  have runs : BookingRun sampleSettings sampleStart _ :=
    .head ⟨.ambient, trivial, acceptingStart_reached sampleSettings⟩
      (BookingRun.of_actions bookAndSendTwice_possible)
  have twice : ((acceptingStart.runActions (bookingMachine sampleSettings) bookAndSendTwice).get
      bookAndSendTwice_possible).world.outside.accepted.count 12 = 2 := by
    decide +kernel
  refine ⟨_, runs, twice, fun once => ?_⟩
  have atMost := once.accepted 12
  rw [twice] at atMost
  exact absurd atMost (by decide)

end AppointmentVoice
