import AppointmentVoice.Database.Effects
import AppointmentVoice.Properties.PaymentAgreement
import AppointmentVoice.Services.Outbox

/-!
# Messages are committed before their jobs are pushed

A worker that takes the job of a message reads the row.  If the row is not committed yet,
the worker finds nothing, takes the job for done and acknowledges it; the row that
appears afterwards waits for the sweep.  All functions that file messages commit first
and push then, save one: `enqueue_due_reminders` pushes each job right after the flush of
its row and commits once, after its loop.  So in every run in which the reminders push
nothing, whatever fails or is stopped and whenever the workers run, each message with a
job in a list of Redis, or in the hands of a worker, is committed, and no worker looks
for a message in vain.

**The result.** `jobs_follow_their_rows`; `reminder_is_handled_in_vain` is a reminder whose
worker is faster than its commit.
-/

set_option autoImplicit false

namespace AppointmentVoice

open Concurrency World

/-! ## The law -/

/-- A job of the message is in a list of Redis, or a worker has taken it and is at it. -/
def Circulating (config : OutboxConfig) (id : Nat) : Prop :=
  (∃ entry ∈ config.world.outside.queue ++ config.world.outside.failed, id ∈ entry.job.messages) ∨
    ∃ pid process entry, config.running pid = some process ∧ id ∈ entry.job.messages ∧
      (⟨.ask (.dequeue entry), true⟩ : Event Sql) ∈ process.log

/-- A worker has read the row of the message it has a job for, and found none. -/
def soughtInVain (id : Nat) : Event Sql :=
  ⟨.select (.notificationByPrimaryKey id), (none : Option NotificationOutbox)⟩

/-- What holds of the jobs of messages in a configuration. -/
structure CommitsFirst (config : OutboxConfig) : Prop where
  committed : ∀ id, Circulating config id →
    ∃ row ∈ config.world.db.notificationOutbox, row.id = id
  found : ∀ who call log id, config.record who = some (call, log) → call.Handles id →
    soughtInVain id ∉ log

/-- No job is pushed by the reminders. -/
def SparesReminders (config : OutboxConfig) : Action OutboxCall → Prop
  | .issue pid => ∀ call job next log, call.Reminds →
      config.running pid = some ⟨call, .call (.push job) next, log⟩ →
        config.world.redisTakes config.world.pushes = false
  | _ => True

/-! ## What a call knows and what is committed -/

/-- The keys of the committed messages. -/
abbrev World.messages (world : World OutboxCall) : List Nat :=
  Table.notificationOutbox.ids world.db

/-- What each call takes to be uncommitted is in its session, and what it takes to be
committed is, as are the messages of all jobs. -/
structure Published (world : World OutboxCall) (stages : Pid → Filed) : Prop where
  unpublished : ∀ pid, (stages pid).unpublished =
    (world.writesOf pid).filterMap Table.notificationOutbox.inserted
  published : ∀ pid, (stages pid).published ⊆ world.messages
  queued : ∀ entry ∈ world.outside.queue ++ world.outside.failed,
    entry.job.messages ⊆ world.messages

namespace Filed

variable {filed : Filed}

/-- A statement that writes nothing and ends nothing leaves the new keys alone. -/
theorem unpublished_quiet {event : Event Sql} (quiet : writesNothing event = true) :
    (filed.learn event).unpublished = filed.unpublished := by
  obtain ⟨stmt, answer⟩ := event
  cases stmt with
  | insert draft =>
      cases (answer : Except Constraint Nat) with
      | ok id => cases quiet
      | error constraint => rfl
  | update write => cases quiet
  | commit => cases quiet
  | rollback => cases quiet
  | select query =>
      cases query with
      | staleNotifications threshold =>
          simp only [learn]
          split
          · rfl
          · rfl
      | _ => rfl
  | ask request =>
      cases request with
      | dequeue entry =>
          cases (answer : Bool) with
          | true => rfl
          | false => rfl
      | _ => rfl
  | _ => rfl

/-- The ways in which a key becomes known to be committed. -/
inductive Learns (filed : Filed) (id : Nat) : Event Sql → Prop where
  | known {event : Event Sql} (before : id ∈ filed.published) : Learns filed id event
  | commits (new : id ∈ filed.unpublished) : Learns filed id ⟨.commit, ()⟩
  | reads {threshold : Instant} {rows : List NotificationOutbox} (clean : filed.unpublished = [])
      (read : id ∈ rows.map (·.id)) :
        Learns filed id ⟨.select (.staleNotifications threshold), rows⟩
  | takes {entry : QueueEntry} (about : id ∈ entry.job.messages) :
      Learns filed id ⟨.ask (.dequeue entry), true⟩

theorem learns_of_published {event : Event Sql} {id : Nat}
    (member : id ∈ (filed.learn event).published) : filed.Learns id event := by
  obtain ⟨stmt, answer⟩ := event
  cases stmt with
  | insert draft =>
      cases (answer : Except Constraint Nat) with
      | ok key => exact .known member
      | error constraint => exact .known member
  | commit =>
      rcases List.mem_append.mp member with before | new
      · exact .known before
      · exact .commits new
  | select query =>
      cases query with
      | staleNotifications threshold =>
          simp only [learn] at member
          split at member
          · next clean =>
              rcases List.mem_append.mp member with before | read
              · exact .known before
              · exact .reads clean read
          · exact .known member
      | _ => exact .known member
  | ask request =>
      cases request with
      | dequeue entry =>
          cases (answer : Bool) with
          | true =>
              rcases List.mem_append.mp member with before | about
              · exact .known before
              · exact .takes about
          | false => exact .known member
      | _ => exact .known member
  | _ => exact .known member

end Filed

/-! ## Steps -/

/-- Where the entries of the lists come from when a worker asks for something. -/
theorem Outside.ask_circulates (outside : Outside) (request : Request) {entry : QueueEntry}
    (there : entry ∈ (outside.ask request).2.queue ++ (outside.ask request).2.failed) :
    (∃ old ∈ outside.queue ++ outside.failed, old.job = entry.job) ∨
      entry.job.messages ⊆ Stmt.circulates (.ask request) := by
  cases request with
  | sendSms id message =>
      refine .inl ⟨entry, ?_, rfl⟩
      simp only [ask] at there
      split at there
      · exact there
      · exact there
  | createEvent id payload =>
      refine .inl ⟨entry, ?_, rfl⟩
      simp only [ask] at there
      split at there
      · exact there
      · exact there
  | cancelEvent id =>
      refine .inl ⟨entry, ?_, rfl⟩
      simp only [ask] at there
      split at there
      · exact there
      · exact there
  | dequeue other => exact .inl ⟨entry, there, rfl⟩
  | ack other =>
      rcases List.mem_append.mp there with queued | failed
      · exact .inl ⟨entry, List.mem_append_left _ (List.mem_of_mem_erase queued), rfl⟩
      · exact .inl ⟨entry, List.mem_append_right _ failed, rfl⟩
  | scheduleRetry other =>
      rcases List.mem_append.mp there with queued | failed
      · rcases List.mem_append.mp queued with old | new
        · exact .inl ⟨entry, List.mem_append_left _ (List.mem_of_mem_erase old), rfl⟩
        · rw [List.mem_singleton] at new
          subst new
          exact .inr (List.Subset.refl _)
      · exact .inl ⟨entry, List.mem_append_right _ failed, rfl⟩
  | moveToFailedQueue other =>
      rcases List.mem_append.mp there with queued | failed
      · exact .inl ⟨entry, List.mem_append_left _ (List.mem_of_mem_erase queued), rfl⟩
      · rcases List.mem_append.mp failed with old | new
        · exact .inl ⟨entry, List.mem_append_right _ old, rfl⟩
        · rw [List.mem_singleton] at new
          subst new
          exact .inr (List.Subset.refl _)

namespace Published

variable {world after : World OutboxCall} {stages : Pid → Filed} {pid : Pid} {stage : Filed}

/-- A step after which one call knows what its session has, and all that has been committed
still is. -/
theorem settle (published : Published world stages)
    (others : ∀ other, other ≠ pid → after.writesOf other = world.writesOf other)
    (grows : world.messages ⊆ after.messages)
    (own : stage.unpublished =
      (after.writesOf pid).filterMap Table.notificationOutbox.inserted)
    (known : stage.published ⊆ after.messages)
    (queued : ∀ entry ∈ after.outside.queue ++ after.outside.failed,
      entry.job.messages ⊆ after.messages) :
    Published after (Function.update stages pid stage) where
  unpublished other := by
    by_cases same : other = pid
    · subst same
      rw [Function.update_self]
      exact own
    · rw [Function.update_of_ne same, others other same]
      exact published.unpublished other
  published other := by
    by_cases same : other = pid
    · subst same
      rw [Function.update_self]
      exact known
    · rw [Function.update_of_ne same]
      exact List.Subset.trans (published.published other) grows
  queued := queued

/-- A call starts, ends or is stopped. -/
theorem reset (published : Published world stages) :
    Published (world.release pid) (Function.update stages pid ⟨[], []⟩) := by
  refine published.settle (fun other different => writesOf_release_of_ne world different)
    (List.Subset.refl _) ?_ (List.nil_subset _) published.queued
  rw [writesOf_release_self]
  rfl

/-- Rows are never deleted. -/
theorem messages_grow {call : OutboxCall} {event : Event Sql}
    (effect : Effect pid call world after event) : world.messages ⊆ after.messages := by
  cases effect with
  | quiet nothing db pending journal => rw [messages, messages, db]; exact List.Subset.refl _
  | inserted db pending journal => rw [messages, messages, db]; exact List.Subset.refl _
  | updated db pending journal => rw [messages, messages, db]; exact List.Subset.refl _
  | committed world =>
      rw [world]
      change _ ⊆ Table.notificationOutbox.ids (World.view _ pid)
      rw [view, Table.ids_applyAll]
      exact List.subset_append_left _ _
  | rolledBack released => rw [released]; exact List.Subset.refl _

/-- The new keys that a call knows of are those of its session. -/
theorem unpublished_issue (published : Published world stages) {call : OutboxCall}
    {event : Event Sql} (effect : Effect pid call world after event) :
    ((stages pid).learn event).unpublished =
      (after.writesOf pid).filterMap Table.notificationOutbox.inserted := by
  have here := published.unpublished pid
  have added : ∀ write, after.pending = world.pending ++ [(pid, write)] →
      (stages pid).unpublished ++ write.filed =
        (after.writesOf pid).filterMap Table.notificationOutbox.inserted := by
    intro write pending
    have writes : after.writesOf pid = world.writesOf pid ++ [write] :=
      (congrArg (fun pending => (pending.filter (·.1 == pid)).map Prod.snd) pending).trans
        (writesOf_append_self world pid write)
    rw [writes, List.filterMap_append, here]
    rfl
  cases effect with
  | quiet nothing db pending journal =>
      rw [Filed.unpublished_quiet nothing, here, writesOf, writesOf, pending]
  | inserted db pending journal => exact added _ pending
  | updated db pending journal => exact added _ pending
  | committed world =>
      rw [world]
      change [] = ((World.release _ pid).writesOf pid).filterMap _
      rw [writesOf_release_self]
      rfl
  | rolledBack released =>
      rw [released, writesOf_release_self]
      rfl

/-- What a call takes to be committed is. -/
theorem published_issue (published : Published world stages) {call : OutboxCall} {stmt : Stmt}
    {answer : stmt.Answer} (executed : execStmt pid call stmt world = some (answer, after)) :
    ((stages pid).learn ⟨stmt, answer⟩).published ⊆ after.messages := by
  have grows := messages_grow (execStmt_effect executed)
  intro id member
  obtain ⟨event, shown, learns⟩ : ∃ event : Event Sql, ⟨stmt, answer⟩ = event ∧
      (stages pid).Learns id event := ⟨_, rfl, Filed.learns_of_published member⟩
  cases learns with
  | known before => exact grows (published.published pid before)
  | commits new =>
      cases shown
      cases executed
      change id ∈ Table.notificationOutbox.ids (world.view pid)
      rw [view, Table.ids_applyAll, ← published.unpublished pid]
      exact List.mem_append_right _ new
  | @reads threshold rows clean read =>
      cases shown
      cases executed
      obtain ⟨row, found, rfl⟩ := List.mem_map.mp read
      have there : row.id ∈ Table.notificationOutbox.ids (world.view pid) :=
        List.mem_map_of_mem (List.mem_of_mem_filter found)
      rw [view, Table.ids_applyAll, ← published.unpublished pid, clean, List.append_nil] at there
      exact there
  | @takes entry about =>
      cases shown
      have taken : decide (entry ∈ world.outside.queue) = true :=
        congrArg Prod.fst (Option.some.inj executed)
      exact grows (published.queued entry (List.mem_append_left _ (of_decide_eq_true taken)) about)

/-- The jobs in the lists are those of committed messages. -/
theorem queued_issue (published : Published world stages) {call : OutboxCall} {stmt : Stmt}
    {answer : stmt.Answer} (executed : execStmt pid call stmt world = some (answer, after))
    (allowed : (stages pid).allows call stmt)
    (spares : ∀ job, stmt = .push job → call.Reminds → world.redisTakes world.pushes = false) :
    ∀ entry ∈ after.outside.queue ++ after.outside.failed, entry.job.messages ⊆ after.messages := by
  have grows := messages_grow (execStmt_effect executed)
  intro entry there
  obtain ⟨event, shown, reaches⟩ : ∃ event : Event Sql, ⟨stmt, answer⟩ = event ∧
      Reaches world after event := ⟨_, rfl, execStmt_reaches executed⟩
  cases reaches with
  | nothing same =>
      rw [same] at there
      exact List.Subset.trans (published.queued entry there) grows
  | @pushed job pushes =>
      cases shown
      rw [pushes] at there
      rcases List.mem_append.mp there with queued | failed
      · rcases List.mem_append.mp queued with old | new
        · exact List.Subset.trans (published.queued entry (List.mem_append_left _ old)) grows
        · rw [List.mem_singleton] at new
          subst new
          rcases allowed.1 with ⟨reminds, -⟩ | known
          · -- Redis has taken the job, which the reminders do not push.
            simp only [execStmt, spares job rfl reminds] at executed
            cases executed
          · exact fun id about => grows (published.published pid (known id about))
      · exact List.Subset.trans (published.queued entry (List.mem_append_right _ failed)) grows
  | @asked request asks =>
      cases shown
      rw [asks] at there
      rcases Outside.ask_circulates _ _ there with ⟨old, member, same⟩ | own
      · rw [← same]
        exact List.Subset.trans (published.queued old member) grows
      · rcases allowed.1 with ⟨-, job, pushes⟩ | known
        · cases pushes
        · exact fun id about => grows (published.published pid (known id (own about)))

end Published

/-! ## Runs -/

/-- What each process knows of the messages. -/
abbrev filedBy (config : OutboxConfig) : Pid → Filed := config.stages filedWatch ⟨[], []⟩

/-- What the runs keep. -/
structure KeepsCommitted (config : OutboxConfig) : Prop where
  watched : config.Watched filedWatch
  published : Published config.world (filedBy config)
  found : config.Every fun _ call log => ∀ id, call.Handles id → soughtInVain id ∉ log

/-- The message of a job that a worker has taken is known to be committed. -/
theorem published_of_taken {call : OutboxCall} {log : List (Event Sql)} {entry : QueueEntry}
    (taken : (⟨.ask (.dequeue entry), true⟩ : Event Sql) ∈ log) :
    entry.job.messages ⊆ (filedWatch.state call log).published := by
  induction log using List.reverseRecOn with
  | nil => cases taken
  | append_singleton log event ih =>
      rw [Watch.state_snoc]
      change _ ⊆ ((filedWatch.state call log).learn event).published
      rcases List.mem_append.mp taken with before | now
      · exact List.Subset.trans (ih before) (Filed.published_learn _ event)
      · rw [List.mem_singleton] at now
        subst now
        exact List.subset_append_right _ _

namespace KeepsCommitted

variable {cfg : Settings} {before after : OutboxConfig} {action : Action OutboxCall}

theorem start (db : Db) (nextId : Nat) (clock : Instant) (redisTakes : Nat → Bool) :
    KeepsCommitted (outboxStart db nextId clock redisTakes) where
  watched := .initial _ _
  published := ⟨fun _ => rfl, fun _ => List.nil_subset _, fun _ member => nomatch member⟩
  found := .initial _

/-- A handler that has taken its job finds the row. -/
theorem finds (kept : KeepsCommitted before) {pid : Pid} {call : OutboxCall} {id : Nat}
    {next : Option NotificationOutbox → DbM OutboxReply} {log : List (Event Sql)}
    {answer : Option NotificationOutbox} {world : World OutboxCall}
    (running : before.running pid =
      some ⟨call, .call (.select (.notificationByPrimaryKey id)) next, log⟩)
    (executed : execStmt pid call (.select (.notificationByPrimaryKey id)) before.world =
      some (answer, world)) (handles : call.Handles id) : answer ≠ none := by
  have along := kept.watched.running pid _ running
  have known := kept.published.published pid
  rw [filedBy, Config.stages_running running] at known
  cases along with
  | call allowed rest =>
      have committed : id ∈ Table.notificationOutbox.ids (before.world.view pid) := by
        rw [view, Table.ids_applyAll]
        exact List.mem_append_left _ (known (allowed.2 id handles rfl))
      obtain ⟨row, there, key⟩ := List.mem_map.mp committed
      cases executed
      intro nothing
      have different := List.find?_eq_none.mp nothing row there
      exact different (beq_iff_eq.mpr key)

/-- **The step lemma.** A step that is no push of the reminders keeps what is known. -/
theorem step (kept : KeepsCommitted before) (admitted : SparesReminders before action)
    (taken : Step (outboxMachine cfg) before action after) : KeepsCommitted after where
  watched := kept.watched.step taken (filed_perform cfg) fun _ _ _ _ _ _ _ _ _ _ => trivial
  published := by
    cases kept.watched.staged taken ⟨[], []⟩ with
    | start idle world stages =>
        rw [world, filedBy, stages]
        exact kept.published.reset
    | @issue pid call stmt next log answer running allowed executed stages =>
        rw [filedBy, stages]
        refine kept.published.settle (fun other => (execStmt_ownOnly executed).writes other)
          (Published.messages_grow (execStmt_effect executed))
          (kept.published.unpublished_issue (execStmt_effect executed))
          (kept.published.published_issue executed)
          (kept.published.queued_issue executed allowed fun job pushes reminds => ?_)
        subst pushes
        exact admitted call job next log reminds running
    | finish met world stages =>
        rw [world, filedBy, stages]
        exact kept.published.reset
    | stop world stages =>
        rw [world, filedBy, stages]
        exact kept.published.reset
    | ambient changed stages =>
        rw [filedBy, stages]
        obtain ⟨db, clock, outside, -, same, drifts, world⟩ := changed
        have messages : after.world.messages = before.world.messages := by
          rw [world]
          exact same.ids .notificationOutbox
        refine ⟨fun pid => ?_, fun pid =>
          messages ▸ kept.published.published pid, fun entry there => ?_⟩
        · rw [world]
          exact kept.published.unpublished pid
        · rw [messages]
          rw [world] at there
          obtain ⟨entries, queue, old⟩ := drifts.queue
          rcases List.mem_append.mp there with queued | failed
          · rw [queue] at queued
            rcases List.mem_append.mp queued with there | again
            · exact kept.published.queued entry (List.mem_append_left _ there)
            · exact kept.published.queued entry (List.mem_append_left _ (old entry again))
          · rw [drifts.failed] at failed
            exact kept.published.queued entry (List.mem_append_right _ failed)
  found := by
    refine kept.found.step taken (fun _ _ => id) (fun _ _ _ id _ => List.not_mem_nil)
      fun pid call stmt next log answer _ running executed known id handles member => ?_
    rcases List.mem_append.mp member with old | new
    · exact known id handles old
    · rw [List.mem_singleton] at new
      cases new
      exact kept.finds running executed handles rfl

/-- What is known of the messages is what the law asks for. -/
theorem commitsFirst {config : OutboxConfig} (kept : KeepsCommitted config) :
    CommitsFirst config where
  committed id circulating := by
    suffices there : id ∈ config.world.messages from List.mem_map.mp there
    rcases circulating with ⟨entry, there, about⟩ | ⟨pid, process, entry, running, about, taken⟩
    · exact kept.published.queued entry there about
    · have known := kept.published.published pid
      rw [filedBy, Config.stages_running running] at known
      exact known (published_of_taken taken about)
  found who call log id recorded handles := by
    cases who with
    | inl pid =>
        obtain ⟨process, running, same⟩ := Option.map_eq_some_iff.mp recorded
        cases same
        exact kept.found.running pid process running id handles
    | inr index =>
        obtain ⟨outcome, there, same⟩ := Option.map_eq_some_iff.mp recorded
        cases same
        exact kept.found.finished outcome (List.mem_of_getElem? there) id handles

end KeepsCommitted

/-- **Messages are committed before their jobs are pushed, when the reminders push none.**
In every run in which no push of `enqueue_due_reminders` succeeds, whatever is stopped or
fails and whenever the workers run, every message with a job in a list of Redis, or in
the hands of a worker, is committed, and no worker reads the row of its message in vain. -/
theorem jobs_follow_their_rows (cfg : Settings) (db : Db) (nextId : Nat) (clock : Instant)
    (redisTakes : Nat → Bool) {config : OutboxConfig}
    (runs : Runs (outboxMachine cfg) SparesReminders (outboxStart db nextId clock redisTakes)
      config) : CommitsFirst config :=
  (runs.invariant (KeepsCommitted.start db nextId clock redisTakes)
    fun _ _ _ kept admitted taken => kept.step admitted taken).commitsFirst

/-! ## A confirmation and a reminder -/

/-- The next step is none of the reminders. -/
def looksElsewhere (config : OutboxConfig) : Action OutboxCall → Bool
  | .issue pid =>
      match config.running pid with
      | some process => process.call != .salon (.work .enqueueDueReminders)
      | none => true
  | _ => true

theorem looksElsewhere_sound (config : OutboxConfig) (action : Action OutboxCall)
    (looks : looksElsewhere config action = true) : SparesReminders config action := by
  cases action with
  | issue pid =>
      intro call job next log reminds running
      rw [looksElsewhere, running, reminds] at looks
      exact absurd rfl (bne_iff_ne.mp looks)
  | _ => exact trivial

/-- A booking is made, and a worker takes the job of its message. -/
def bookAndTake : List (Action OutboxCall) :=
  .start 0 (.salon (.createBooking
    { tenantId := 1, businessId := 1, customerId := 1, serviceId := 1, staffId := some 1,
      startsAt := 0 })) :: List.replicate 15 (.issue 0) ++
    [.start 1 (.salon (.work (.processJob ⟨.sendNotification 12, 0⟩))), .issue 1, .issue 1]

def bookingOutbox : OutboxConfig := outboxStart sampleDb 10 0 fun _ => true

theorem bookAndTake_possible :
    (bookingOutbox.runActions (outboxMachine sampleSettings) bookAndTake).isSome = true := by
  decide +kernel

theorem confirmation_is_committed_first :
    ∃ config, Runs (outboxMachine sampleSettings) SparesReminders bookingOutbox config ∧
      config.world.outside.queue = [⟨.sendNotification 12, 0⟩] ∧
      config.world.messages = [12] ∧ CommitsFirst config := by
  have runs : Runs (outboxMachine sampleSettings) SparesReminders bookingOutbox _ :=
    .of_guarded looksElsewhere_sound bookAndTake (by decide +kernel)
      (Option.some_get bookAndTake_possible).symm
  refine ⟨_, runs, by decide +kernel, by decide +kernel, ?_⟩
  exact jobs_follow_their_rows sampleSettings sampleDb 10 0 (fun _ => true) runs

/-- The salon with an appointment in an hour that was made long before. -/
def dueDb : Db :=
  { sampleDb with
    bookings := [⟨2, 1, 1, 1, 1, some 1, minutes 60, minutes 90, .confirmed, .api, none,
      -minutes 1440⟩] }

/-- The reminders push the job of a row they have not committed; a worker handles it, and
only then do they commit. -/
def remindTooEarly : List (Action OutboxCall) :=
  .start 0 (.salon (.work .enqueueDueReminders)) :: List.replicate 8 (.issue 0) ++
    .start 1 (.salon (.work (.processJob ⟨.sendNotification 10, 0⟩))) ::
      List.replicate 4 (.issue 1) ++ [.finish 1, .issue 0, .finish 0]

def dueOutbox : OutboxConfig := outboxStart dueDb 10 0 fun _ => true

theorem remindTooEarly_possible :
    (dueOutbox.runActions (outboxMachine sampleSettings) remindTooEarly).isSome = true := by
  decide +kernel

/-- The event is a read of the message that finds no row. -/
def seeksInVain (id : Nat) : Event Sql → Bool
  | ⟨.select (.notificationByPrimaryKey key), row⟩ =>
      key == id && (row : Option NotificationOutbox).isNone
  | _ => false

theorem eq_soughtInVain {id : Nat} {event : Event Sql} (seeks : seeksInVain id event = true) :
    event = soughtInVain id := by
  unfold seeksInVain at seeks
  split at seeks
  · next key row =>
      rw [Bool.and_eq_true, beq_iff_eq] at seeks
      obtain ⟨rfl, nothing⟩ := seeks
      exact congrArg _ (Option.isNone_iff_eq_none.mp nothing)
  · cases seeks

/-- The job of the reminder is consumed before its row is there, and the row stays behind
without a job. -/
theorem reminder_is_handled_in_vain :
    ∃ config, Runs (outboxMachine sampleSettings) (fun _ _ => True) dueOutbox config ∧
      config.world.outside.queue = [] ∧
      config.world.db.notificationOutbox.map (fun row => (row.id, row.status)) = [(10, .pending)] ∧
      ¬CommitsFirst config := by
  have ran := (Option.some_get remindTooEarly_possible).symm
  have vain : ((dueOutbox.runActions (outboxMachine sampleSettings) remindTooEarly).get
      remindTooEarly_possible).finished.any (fun outcome =>
        outcome.call == .salon (.work (.processJob ⟨.sendNotification 10, 0⟩)) &&
          outcome.log.any (seeksInVain 10)) = true := by
    decide +kernel
  refine ⟨_, .of_runActions remindTooEarly ran, by decide +kernel, by decide +kernel,
    fun commits => ?_⟩
  obtain ⟨outcome, member, sought⟩ := List.any_eq_true.mp vain
  rw [Bool.and_eq_true, beq_iff_eq, List.any_eq_true] at sought
  obtain ⟨worker, event, logged, seeks⟩ := sought
  obtain ⟨index, there⟩ := List.mem_iff_getElem?.mp member
  refine commits.found (.inr index) outcome.call outcome.log 10 ?_ ⟨0, worker⟩
    (eq_soughtInVain seeks ▸ logged)
  exact Option.map_eq_some_iff.mpr ⟨outcome, there, rfl⟩

end AppointmentVoice
