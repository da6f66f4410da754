import AppointmentVoice.Queue.Places

/-!
# Accounts of jobs

A fact about every job at its place, whether in a list, in the delayed set or in the hands
of a process, is carried along by all that the functions of the queue do, when it obeys the
rules of how a job comes from one place to the next.  Only the handler and the making of a
new job are left to those who keep the account.
-/

set_option autoImplicit false

namespace AppointmentVoice.Queue

open Concurrency Formats

variable {settings : WorkerSettings} {call : QueueCall} {world after : QueueWorld}

/-! ## Places -/

/-- Where a job is on its way. -/
inductive Place where
  | named
  | waiting
  | taken
  | processing
  | handled (error : Option String)
  | retrying
  | burying
  | failed

/-- What it means for a job that its entry is in a list. -/
def placeOf (settings : WorkerSettings) (key : String) : Place :=
  if key = settings.workerProcessingQueueName then .processing
  else if key = settings.workerFailedQueueName then .failed
  else .waiting

@[simp] theorem placeOf_ready (jobType : String) :
    placeOf settings (queueNameForJobType settings jobType) = .waiting := by
  have notProcessing : queueNameForJobType settings jobType ≠ settings.workerProcessingQueueName :=
    settings.ready_ne_processing jobType
  have notFailed : queueNameForJobType settings jobType ≠ settings.workerFailedQueueName :=
    settings.ready_ne_failed jobType
  rw [placeOf, if_neg notProcessing, if_neg notFailed]

@[simp] theorem placeOf_delayed : placeOf settings settings.workerDelayedQueueName = .waiting := by
  rw [placeOf, if_neg settings.delayed_ne_processing, if_neg settings.delayed_ne_failed]

@[simp] theorem placeOf_processing :
    placeOf settings settings.workerProcessingQueueName = .processing := if_pos rfl

@[simp] theorem placeOf_failed : placeOf settings settings.workerFailedQueueName = .failed := by
  rw [placeOf, if_neg settings.failed_ne_processing, if_pos rfl]

/-- The process has the job, at that place. -/
inductive Stage.Carries : Stage → Place → Job → Prop where
  | named {job : Job} (first : job.attempts = 0) : Carries (.named job.id) .named job
  | moved {raw : String} {job : Job} (read : Job.fromJson raw = .ok job) :
      Carries (.moved raw) .taken job
  | timed {raw : String} {job : Job} (same : rawId raw = job.id) : Carries
      (.timed raw job) .taken job
  | lifted {job : Job} : Carries (.lifted job) .taken job
  | given {job : Job} : Carries (.given job) .taken job
  | handled {job : Job} {error : Option String} : Carries (.handled job error) (.handled error) job
  | retrying {job : Job} {error : Option String} : Carries (.retrying job error) .retrying job
  | burying {job : Job} : Carries (.burying job) .burying job
  | reclaiming {now : Timestamp} {raws : List String} {raw : String} {job : Job}
      (read : Job.fromJson raw = .ok job) : Carries (.reclaiming now raws raw) .taken job
  | promoting {raw : String} {job : Job} (read : Job.fromJson raw = .ok job) :
      Carries (.promoting raw) .taken job
  | requeueing {raw : String} {job : Job} (read : Job.fromJson raw = .ok job) :
      Carries (.requeueing raw) .taken job

/-! ## Rules -/

/-- How a fact about a job at a place goes on when the job does. -/
structure Rules (settings : WorkerSettings) (fact : List (Event QueueOps) → Place → Job → Prop) :
    Prop where
  later {history : List (Event QueueOps)} {event : Event QueueOps} {place : Place} {job : Job} :
    handedBy event = none → fact history place job → fact (history ++ [event]) place job
  copied {history : List (Event QueueOps)} {place : Place} {job copy : Job} :
    fact history place job → copy.id = job.id → copy.type = job.type →
      copy.attempts = job.attempts → fact history place copy
  enqueued {history : List (Event QueueOps)} {job : Job} :
    fact history .named job → fact history .waiting job
  taken {history : List (Event QueueOps)} {job : Job} :
    fact history .waiting job → fact history .taken job
  started {history : List (Event QueueOps)} {job : Job} :
    fact history .taken job → fact history .processing job
  put {history : List (Event QueueOps)} {job : Job} :
    fact history .taken job → fact history .waiting job
  retried {history : List (Event QueueOps)} {message : String} {job : Job} :
    job.attempts < settings.workerMaxRetries → fact history (.handled (some message)) job →
      fact history .retrying job
  delayed {history : List (Event QueueOps)} {job retried : Job} :
    fact history .retrying job → retried.id = job.id → retried.type = job.type →
      retried.attempts = job.attempts + 1 → fact history .waiting retried
  buried {history : List (Event QueueOps)} {message : String} {job : Job} :
    ¬job.attempts < settings.workerMaxRetries → fact history (.handled (some message)) job →
      fact history .burying job
  buriedUnknown {history : List (Event QueueOps)} {job : Job} :
    job.type ∉ knownJobTypes → fact history .taken job → fact history .burying job
  failed {history : List (Event QueueOps)} {job : Job} :
    fact history .burying job → fact history .failed job
  reclaimed {history : List (Event QueueOps)} {event : Event QueueOps} {job : Job} :
    reclaimedBy event = some job.id → fact history .processing job →
      fact (history ++ [event]) .taken job
  requeued {history : List (Event QueueOps)} {event : Event QueueOps} {job : Job} :
    requeuedBy event = some job.id → fact history .failed job → fact (history ++ [event]) .taken job

/-! ## What goes on by the rules -/

/-- The fact holds of every job in the store. -/
def Stored (settings : WorkerSettings) (fact : Place → Job → Prop) (store : Redis.Store) : Prop :=
  ∀ key raw job, (key, raw) ∈ store.bag → Job.fromJson raw = .ok job →
    fact (placeOf settings key) job

/-- The fact holds of every job that the process has. -/
def Carried (fact : Place → Job → Prop) (stage : Stage) : Prop :=
  ∀ place job, stage.Carries place job → fact place job

theorem rawId_of_read {raw : String} {job : Job} (read : Job.fromJson raw = .ok job) :
    rawId raw = job.id := by
  rw [rawId, read]

section Step

variable {fact : List (Event QueueOps) → Place → Job → Prop}

theorem Rules.stored_later (rules : Rules settings fact) {history : List (Event QueueOps)}
    {event : Event QueueOps} {store : Redis.Store} (quiet : handedBy event = none)
    (stored : Stored settings (fact history) store) :
    Stored settings (fact (history ++ [event])) store :=
  fun key raw job member read => rules.later quiet (stored key raw job member read)

theorem Rules.carried_later (rules : Rules settings fact) {history : List (Event QueueOps)}
    {event : Event QueueOps} {stage : Stage} (quiet : handedBy event = none)
    (carried : Carried (fact history) stage) : Carried (fact (history ++ [event])) stage :=
  fun place job carries => rules.later quiet (carried place job carries)

theorem Stored.part {fact : Place → Job → Prop} {store less : Redis.Store}
    (stored : Stored settings fact store) (part : less.bag ≤ store.bag) :
    Stored settings fact less :=
  fun key raw job member read => stored key raw job (Multiset.mem_of_le part member) read

/-- An entry of one more job. -/
theorem Stored.cons {fact : Place → Job → Prop} {store more : Redis.Store} {key raw : String}
    (stored : Stored settings fact store) {rest : Multiset Redis.Entry}
    (whole : more.bag = (key, raw) ::ₘ rest) (part : rest ≤ store.bag)
    (new : ∀ job, Job.fromJson raw = .ok job → fact (placeOf settings key) job) :
    Stored settings fact more := by
  intro found text job member read
  rw [whole, Multiset.mem_cons] at member
  rcases member with same | old
  · obtain ⟨rfl, rfl⟩ := Prod.mk.inj same
    exact new job read
  · exact stored found text job (Multiset.mem_of_le part old) read

theorem carried_free (fact : Place → Job → Prop) : Carried fact .free := by
  rintro place job ⟨⟩

variable {stage : Stage} {stmt : QueueStmt} {answer : stmt.Answer}

/-- What is put into a list is what the process has. -/
theorem Rules.pushed (rules : Rules settings fact) {history : List (Event QueueOps)}
    {caller : QueueFunction} {key raw : String} {job : Job}
    (allowed : Allowed settings call stage (.redis caller (.lpush key raw)))
    (carried : Carried (fact history) stage) (read : Job.fromJson raw = .ok job) :
    fact history (placeOf settings key) job := by
  have same : ∀ {other : Job}, raw = other.toJson → other = job := by
    rintro other rfl
    rw [fromJson_toJson] at read
    exact Except.ok.inj read
  cases allowed with
  | @enqueue found first fresh =>
      obtain rfl := same rfl
      rw [placeOf_ready]
      exact rules.enqueued (carried _ _ (.named first))
  | stamp dated =>
      obtain rfl := same rfl
      rw [placeOf_processing]
      exact rules.started (carried _ _ .lifted)
  | fail sameId kind attempts dated =>
      obtain rfl := same rfl
      rw [placeOf_failed]
      exact rules.copied (rules.failed (carried _ _ .burying)) sameId kind attempts
  | promotePush dated =>
      rw [placeOf_ready]
      exact rules.put (carried _ _ (.promoting read))
  | @reclaimPush now raws found =>
      obtain rfl := same rfl
      rw [placeOf_ready]
      have waits := rules.put (carried _ _ (.reclaiming (fromJson_toJson found)))
      exact rules.copied waits rfl rfl rfl
  | requeuePush dated =>
      rw [placeOf_ready]
      exact rules.put (carried _ _ (.requeueing read))

/-- **The account of what is stored is kept.** -/
theorem Rules.stored_of_allowed (rules : Rules settings fact)
    (quiet : handedBy ⟨stmt, answer⟩ = none)
    (allowed : Allowed settings call stage stmt)
    (executed : Executed settings call world stmt answer after)
    (stored : Stored settings (fact world.history) world.store)
    (carried : Carried (fact world.history) stage) :
    Stored settings (fact after.history) after.store := by
  rw [executed.history]
  refine rules.stored_later quiet ?_
  cases executed with
  | redis effect =>
      cases effect with
      | lpush key value =>
          exact stored.cons (Redis.Store.bag_cons ..) le_rfl fun job read =>
            rules.pushed allowed carried read
      | popped split last =>
          refine stored.part ?_
          rw [Redis.Store.bag_split split]
          exact Multiset.le_cons_self _ _
      | @moved source destination value left right split last =>
          have whole := Redis.Store.bag_split split
          refine stored.cons (Redis.Store.bag_cons ..) ?_ fun job read => ?_
          · rw [whole]
            exact Multiset.le_cons_self _ _
          · cases allowed with
            | @dequeue jobType known =>
                have waits := stored (queueNameForJobType settings jobType) value job
                  (whole ▸ Multiset.mem_cons_self _ _) read
                rw [placeOf_ready] at waits
                rw [placeOf_processing]
                exact rules.started (rules.taken waits)
      | removed there =>
          refine stored.part ?_
          rw [Redis.Store.bag_erase there]
          exact Multiset.le_cons_self _ _
      | @added key member score =>
          refine stored.cons (Redis.Store.bag_add _) ?_ fun job read => ?_
          · by_cases there : world.store.sets.has key member = true
            · rw [Redis.Store.bag_remove there]
              exact Multiset.le_cons_self _ _
            · exact (Redis.Store.bag_remove_absent there).le
          · cases allowed with
            | @delay retried =>
                rw [fromJson_toJson] at read
                obtain rfl := Except.ok.inj read
                have retries := carried _ retried .retrying
                rw [placeOf_delayed]
                exact rules.delayed retries rfl rfl rfl
      | @taken key member there =>
          refine stored.part ?_
          rw [Redis.Store.bag_remove there]
          exact Multiset.le_cons_self _ _
      | _ => exact stored
  | _ => exact stored

/-- **The account of what a process has is kept.** -/
theorem Rules.carried_of_allowed (rules : Rules settings fact)
    (quiet : handedBy ⟨stmt, answer⟩ = none)
    (old : stmt ≠ .uuid7) (allowed : Allowed settings call stage stmt)
    (executed : Executed settings call world stmt answer after)
    (stored : Stored settings (fact world.history) world.store)
    (carried : Carried (fact world.history) stage) :
    Carried (fact after.history) (stage.learn ⟨stmt, answer⟩) := by
  rw [executed.history]
  -- What the process has had, and a job that it has come to have.
  have same := rules.carried_later quiet carried
  have one : ∀ {next : Stage} {place : Place} {job : Job},
      (∀ other found, next.Carries other found → other = place ∧ found = job) →
      fact (world.history ++ [⟨stmt, answer⟩]) place job →
      Carried (fact (world.history ++ [⟨stmt, answer⟩])) next := by
    intro next place job only holds other found carries
    obtain ⟨rfl, rfl⟩ := only other found carries
    exact holds
  cases executed with
  | uuid7 => exact absurd rfl old
  | handle job => cases quiet
  | now caller =>
      cases allowed with
      | @dequeueTime raw =>
          change Carried _ ((Stage.moved raw).afterNow .dequeueJob world.clock)
          cases read : Job.fromJson raw with
          | error error =>
              simp only [Stage.afterNow, read]
              exact same
          | ok job =>
              have taken := rules.later quiet (carried _ _ (.moved read))
              have stamped : fact _ .taken (job.withProcessingStartedAt (isoformat world.clock)) :=
                rules.copied taken rfl rfl rfl
              simp only [Stage.afterNow, read]
              split
              · refine one ?_ stamped
                rintro _ _ ⟨⟩
                exact ⟨rfl, rfl⟩
              · refine one ?_ stamped
                rintro _ _ ⟨⟩
                exact ⟨rfl, rfl⟩
      | retryTime => exact same
      | failTime => exact same
      | failTimeUnknown => exact same
      | promoteTime idle => exact carried_free _
      | sweepTime =>
          rintro _ _ ⟨⟩
  | @redis caller command answer store effect =>
      cases allowed with
      | enqueue first fresh => exact carried_free _
      | @dequeue jobType known =>
          cases effect with
          | unmoved nothing => exact same
          | @moved source destination value left right split last =>
              have there := Redis.Store.bag_split split ▸ Multiset.mem_cons_self _ _
              rintro _ job ⟨⟩
              next read =>
                have waits := stored (queueNameForJobType settings jobType) value job there read
                rw [placeOf_ready] at waits
                exact rules.later quiet (rules.taken waits)
      | @lift job time =>
          refine one ?_ (rules.later quiet (carried _ _ (.timed (rawId_toJson job))))
          rintro _ _ ⟨⟩
          exact ⟨rfl, rfl⟩
      | stamp dated =>
          refine one ?_ (rules.later quiet (carried _ _ .lifted))
          rintro _ _ ⟨⟩
          exact ⟨rfl, rfl⟩
      | ack => exact carried_free _
      | retry again =>
          refine one ?_ (rules.later quiet (rules.retried again (carried _ _ .handled)))
          rintro _ _ ⟨⟩
          exact ⟨rfl, rfl⟩
      | delay => exact carried_free _
      | bury last =>
          refine one ?_ (rules.later quiet (rules.buried last (carried _ _ .handled)))
          rintro _ _ ⟨⟩
          exact ⟨rfl, rfl⟩
      | buryUnknown unknown =>
          refine one ?_ (rules.later quiet (rules.buriedUnknown unknown (carried _ _ .given)))
          rintro _ _ ⟨⟩
          exact ⟨rfl, rfl⟩
      | fail sameId kind attempts dated => exact carried_free _
      | dueJobs => exact same
      | @promote raw =>
          cases effect with
          | missing gone => exact same
          | taken there =>
              have member := Redis.Store.bag_remove there ▸ Multiset.mem_cons_self _ _
              rintro _ job ⟨⟩
              next read =>
                have waits := stored settings.workerDelayedQueueName raw job member read
                rw [placeOf_delayed] at waits
                exact rules.later quiet (rules.taken waits)
      | promotePush dated => exact carried_free _
      | sweep =>
          rintro _ _ ⟨⟩
      | @reclaim now raws job read stale =>
          cases effect with
          | absent gone => exact same
          | removed there =>
              have member := Redis.Store.bag_erase there ▸ Multiset.mem_cons_self _ _
              rintro _ found ⟨⟩
              next again =>
                have processed :=
                  stored settings.workerProcessingQueueName job.toJson found member again
                rw [placeOf_processing] at processed
                exact rules.reclaimed (congrArg some (rawId_of_read again)) processed
      | reclaimPush =>
          rintro _ _ ⟨⟩
      | requeue requeues =>
          cases effect with
          | empty nothing => exact same
          | @popped key value left right split last =>
              have there := Redis.Store.bag_split split ▸ Multiset.mem_cons_self _ _
              rintro _ job ⟨⟩
              next read =>
                have failed := stored settings.workerFailedQueueName value job there read
                rw [placeOf_failed] at failed
                exact rules.requeued (congrArg some (rawId_of_read read)) failed
      | requeuePush dated => exact carried_free _

end Step

/-! ## In every run -/

/-- A process has what it carries. -/
theorem has_of_carries {stage : Stage} {place : Place} {job : Job}
    (carries : stage.Carries place job) :
    (stage.hold settings).Has idOf job.id := by
  cases carries with
  | named first => exact Hold.has_carrying.mpr rfl
  | moved read => exact Hold.has_minding.mpr (rawId_of_read read)
  | timed same => exact Hold.has_minding.mpr same
  | lifted => exact Hold.has_carrying.mpr rfl
  | given => exact Hold.has_minding.mpr (idOf_toJson ..)
  | handled => exact Hold.has_minding.mpr (idOf_toJson ..)
  | retrying => exact Hold.has_carrying.mpr rfl
  | burying => exact Hold.has_carrying.mpr rfl
  | reclaiming read => exact Hold.has_carrying.mpr (rawId_of_read read)
  | promoting read => exact Hold.has_carrying.mpr (rawId_of_read read)
  | requeueing read => exact Hold.has_carrying.mpr (rawId_of_read read)

/-- The fact holds of every job wherever it is. -/
structure Accounts (settings : WorkerSettings) (fact : List (Event QueueOps) → Place → Job → Prop)
    (config : QueueConfig) : Prop where
  stored : Stored settings (fact config.world.history) config.world.store
  carried : ∀ pid, Carried (fact config.world.history) (QueueConfig.stages settings config pid)

variable {fact : List (Event QueueOps) → Place → Job → Prop} {before next : QueueConfig}
  {action : Action QueueCall}

theorem Accounts.initial (clock : Timestamp) :
    Accounts settings fact (.initial (.start .empty clock)) where
  stored key raw job member := by
    rcases Redis.Store.mem_bag.mp member with there | ⟨row, there, -⟩ <;> cases there
  carried _ := carried_free _

/-- What a step leaves to who keeps the account: a job is handed to its handler, or gets a new
identifier. -/
structure Left (settings : WorkerSettings) (fact : List (Event QueueOps) → Place → Job → Prop)
    (before next : QueueConfig) : Prop where
  handled {pid : Pid} {job : Job} {error : Option String} :
    QueueConfig.stages settings before pid = .given job →
      next.world.store = before.world.store →
      next.world.history = before.world.history ++ [⟨.handle job, error⟩] →
      QueueConfig.stages settings next =
        Function.update (QueueConfig.stages settings before) pid (.handled job error) →
      Accounts settings fact next
  named {job : Job} : Fresh settings before.world next.world job.id → job.attempts = 0 →
    fact before.world.history .named job

/-- **The account is kept**, but for what is left. -/
theorem Accounts.turn (rules : Rules settings fact) (accounts : Accounts settings fact before)
    (turn : Turn settings before next action) (left : Left settings fact before next) :
    Accounts settings fact next := by
  cases turn with
  | quiet store issued history stages =>
      refine ⟨history ▸ store ▸ accounts.stored, fun pid => ?_⟩
      rw [history]
      rcases stages pid with same | free
      · exact same ▸ accounts.carried pid
      · exact free ▸ carried_free _
  | @issue pid call stmt rest log answer running allowed executed stages =>
      -- What the mover has after the statement is left to show.
      have finish : handedBy ⟨stmt, answer⟩ = none →
          Carried (fact next.world.history)
            ((QueueConfig.stages settings before pid).learn ⟨stmt, answer⟩) →
          Accounts settings fact next := by
        intro quiet mine
        refine ⟨rules.stored_of_allowed quiet allowed executed accounts.stored
          (accounts.carried pid),
          fun other => ?_⟩
        rw [stages]
        by_cases same : other = pid
        · rw [same, Function.update_self]
          exact mine
        · rw [Function.update_of_ne same, executed.history]
          exact rules.carried_later quiet (accounts.carried other)
      cases stmt with
      | handle job =>
          generalize stage : QueueConfig.stages settings before pid = here at allowed
          cases allowed with
          | handle =>
              have store := store_of_executed executed fun _ _ same => nomatch same
              exact left.handled stage store executed.history (by rw [stages, stage]; rfl)
      | uuid7 =>
          have fresh := fresh_of_executed executed
          refine finish rfl ?_
          rintro _ job ⟨⟩
          next first =>
            rw [executed.history]
            exact rules.later rfl (left.named fresh first)
      | now caller =>
          exact finish rfl (rules.carried_of_allowed rfl (fun same => nomatch same) allowed executed
            accounts.stored (accounts.carried pid))
      | redis caller command =>
          exact finish rfl (rules.carried_of_allowed rfl (fun same => nomatch same) allowed executed
            accounts.stored (accounts.carried pid))

end AppointmentVoice.Queue
