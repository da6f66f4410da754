import AppointmentVoice.Concurrency.Interleaving
import AppointmentVoice.Queue.Jobs
import AppointmentVoice.Queue.Redis

/-!
# The job queue and its workers

The functions of the queue as programs over single Redis commands, what the workers make of
them, and the machine on which any number of them run at once.  A statement carries the
name of the function that sends it; the world keeps the history of all statements with
their answers, which no program can read.

What a handler does to the rest of the system is no concern of the queue: it returns or it
raises, as the call says.  `requeue_failed_jobs` goes on for as long as there are failed
jobs, so it is given fuel.
-/

set_option autoImplicit false

namespace AppointmentVoice.Queue

open Concurrency Formats

/-! ## Settings -/

/-- The queues have names of their own, and no identifier comes twice. -/
structure WorkerSettings where
  workerQueueName : String
  workerFailedQueueName : String
  workerProcessingQueueName : String
  workerDelayedQueueName : String
  workerMaxRetries : Nat
  workerRetryBackoffBaseSeconds : Nat
  workerRetryBackoffMaxSeconds : Nat
  workerProcessingVisibilityTimeoutSeconds : Nat
  workerQueuePromoteBatchSize : Nat
  uuid7 : Nat → String
  ready_ne_processing : ∀ jobType, workerQueueName ++ ":" ++ jobType ≠ workerProcessingQueueName
  ready_ne_failed : ∀ jobType, workerQueueName ++ ":" ++ jobType ≠ workerFailedQueueName
  delayed_ne_processing : workerDelayedQueueName ≠ workerProcessingQueueName
  delayed_ne_failed : workerDelayedQueueName ≠ workerFailedQueueName
  failed_ne_processing : workerFailedQueueName ≠ workerProcessingQueueName
  uuid7_injective : Function.Injective uuid7

/-- The settings as they are by default, with identifiers of any kind. -/
def WorkerSettings.byDefault (uuid7 : Nat → String) (injective : Function.Injective uuid7) :
    WorkerSettings where
  workerQueueName := "app_jobs"
  workerFailedQueueName := "app_jobs_failed"
  workerProcessingQueueName := "app_jobs_processing"
  workerDelayedQueueName := "app_jobs_delayed"
  workerMaxRetries := 3
  workerRetryBackoffBaseSeconds := 5
  workerRetryBackoffMaxSeconds := 300
  workerProcessingVisibilityTimeoutSeconds := 300
  workerQueuePromoteBatchSize := 100
  uuid7 := uuid7
  ready_ne_processing jobType same := by
    have chars := congrArg String.toList same
    rw [String.toList_append] at chars
    have ninth := congrArg (·[8]?) chars
    simp at ninth
  ready_ne_failed jobType same := by
    have chars := congrArg String.toList same
    rw [String.toList_append] at chars
    have ninth := congrArg (·[8]?) chars
    simp at ninth
  delayed_ne_processing := by decide
  delayed_ne_failed := by decide
  failed_ne_processing := by decide
  uuid7_injective := injective

/-- `_KNOWN_JOB_TYPES`. -/
def knownJobTypes : List String :=
  ["send_password_reset_email", "send_notification", "verify_presigned_upload",
    "sync_calendar_event", "cancel_calendar_event"]

section Functions

variable (settings : WorkerSettings)

/-- `queue_name_for_job_type`. -/
def queueNameForJobType (jobType : String) : String := settings.workerQueueName ++ ":" ++ jobType

/-- `calculate_retry_delay_seconds`: doubled with each attempt, up to a bound. -/
def calculateRetryDelaySeconds (attempts : Int) : Nat :=
  if attempts ≤ 0 then settings.workerRetryBackoffBaseSeconds
  else min (settings.workerRetryBackoffBaseSeconds * 2 ^ (attempts - 1).toNat)
    settings.workerRetryBackoffMaxSeconds

end Functions

/-! ## Statements -/

/-- The functions that send commands to Redis. -/
inductive QueueFunction where
  | enqueueJob
  | dequeueJob
  | ackJob
  | scheduleRetry
  | promoteDelayedJobs
  | reclaimStaleProcessingJobs
  | moveJobToFailedQueue
  | requeueFailedJobs
  deriving DecidableEq, Repr

/-- A Redis command, the time, a new identifier, or the handler of a job. -/
inductive QueueStmt where
  | redis (caller : QueueFunction) (command : Redis.Command)
  | now (caller : QueueFunction)
  | uuid7
  | handle (job : Job)

/-- A handler that raises answers the text of its error. -/
abbrev QueueStmt.Answer : QueueStmt → Type
  | .redis _ command => command.Answer
  | .now _ => Timestamp
  | .uuid7 => String
  | .handle _ => Option String

/-- The commands, clock readings, fresh ids and handlers, with their answers. -/
abbrev QueueOps : Signature := ⟨QueueStmt, QueueStmt.Answer⟩

/-- The programs of the queue. -/
abbrev QueueM := Program QueueOps QueueError

/-- Send a command. -/
def redis (caller : QueueFunction) (command : Redis.Command) : QueueM command.Answer :=
  Program.issue (S := QueueOps) (.redis caller command)

/-- Read the clock. -/
def now (caller : QueueFunction) : QueueM Timestamp := Program.issue (S := QueueOps) (.now caller)

/-- A fresh id. -/
def newId : QueueM String := Program.issue (S := QueueOps) .uuid7

/-- Run the handler of a job; the answer is its error, if it fails. -/
def handler (job : Job) : QueueM (Option String) := Program.issue (S := QueueOps) (.handle job)

/-- Go on with a result, or raise its error. -/
def orRaise {α : Type} : Except QueueError α → QueueM α
  | .ok value => .ret value
  | .error error => .raise error

theorem orRaise_ok {α β : Type} (value : α) (next : α → QueueM β) :
    (orRaise (.ok value) >>= next) = next value := rfl

/-! ## The functions of the queue -/

section Functions

variable (settings : WorkerSettings)

/-- `enqueue_job`. -/
def enqueueJob (jobType : String) (payload : Payload) (requestId : Option String) :
    QueueM Job := do
  let job : Job := { id := ← newId, type := jobType, payload, requestId }
  let _ ← redis .enqueueJob (.lpush (queueNameForJobType settings jobType) job.toJson)
  return job

/-- The part of `dequeue_job` after an entry has been moved. -/
def startProcessing (rawJob : String) : QueueM Job := do
  let job ← orRaise (Job.fromJson rawJob)
  let processingJob := job.withProcessingStartedAt (isoformat (← now .dequeueJob))
  if processingJob.toJson ≠ rawJob then
    let _ ← redis .dequeueJob (.lrem settings.workerProcessingQueueName rawJob)
    let _ ← redis .dequeueJob (.lpush settings.workerProcessingQueueName processingJob.toJson)
  return processingJob

/-- `dequeue_job`: the entry is moved, and then replaced by one with its start. -/
def dequeueJob (queueName : String) : QueueM (Option Job) := do
  match ← redis .dequeueJob (.brpoplpush queueName settings.workerProcessingQueueName) with
  | none => return none
  | some rawJob => return some (← startProcessing settings rawJob)

/-- `ack_job`. -/
def ackJob (job : Job) : QueueM Unit := do
  let _ ← redis .ackJob (.lrem settings.workerProcessingQueueName job.toJson)
  return ()

/-- `schedule_retry`: out of the processing list, and then into the delayed set. -/
def scheduleRetry (job : Job) (error : String) : QueueM Job := do
  let retriedJob := job.withNextAttempt.withError error
  let currentTime ← now .scheduleRetry
  let availableAt :=
    currentTime.micros + calculateRetryDelaySeconds settings retriedJob.attempts * 1000000
  let _ ← redis .scheduleRetry (.lrem settings.workerProcessingQueueName job.toJson)
  let _ ← redis .scheduleRetry
    (.zadd settings.workerDelayedQueueName retriedJob.toJson availableAt)
  return retriedJob

/-- The copy of a job that is buried, with the error that is given or else its last one. -/
def failedCopy (job : Job) (failedAt : String) : Option String → Job
  | some error => (job.withFailedAt failedAt).withError error
  | none =>
      match job.lastError with
      | some error => (job.withFailedAt failedAt).withError error
      | none => job.withFailedAt failedAt

/-- `move_job_to_failed_queue`: out of the processing list, and then onto the failed list. -/
def moveJobToFailedQueue (job : Job) (error : Option String) : QueueM Job := do
  let failedJob := failedCopy job (isoformat (← now .moveJobToFailedQueue)) error
  let _ ← redis .moveJobToFailedQueue (.lrem settings.workerProcessingQueueName job.toJson)
  let _ ← redis .moveJobToFailedQueue (.lpush settings.workerFailedQueueName failedJob.toJson)
  return failedJob

/-- The batch is full. -/
def full (limit : Option Nat) (count : Nat) : Bool :=
  match limit with
  | some limit => limit ≤ count
  | none => false

/-- The loop over the due members; one that another worker has taken is passed over. -/
def promoteEach (limit : Option Nat) : List String → Nat → QueueM Nat
  | [], promotedCount => return promotedCount
  | rawJob :: rawJobs, promotedCount => do
      if full limit promotedCount then return promotedCount
      let removed ← redis .promoteDelayedJobs (.zrem settings.workerDelayedQueueName rawJob)
      if removed = 0 then promoteEach limit rawJobs promotedCount
      else do
        let job ← orRaise (Job.fromJson rawJob)
        let _ ← redis .promoteDelayedJobs (.lpush (queueNameForJobType settings job.type) rawJob)
        promoteEach limit rawJobs (promotedCount + 1)

/-- `promote_delayed_jobs`. -/
def promoteDelayedJobs (limit : Option Nat) : QueueM Nat := do
  let currentTime ← now .promoteDelayedJobs
  let rawJobs ← redis .promoteDelayedJobs
    (.zrangebyscore settings.workerDelayedQueueName 0 currentTime.micros)
  promoteEach settings limit rawJobs 0

/-- `is_stale`. -/
def isStale (currentTime : Timestamp) (job : Job) : Except QueueError Bool :=
  match job.processingStartedAt with
  | none => .ok true
  | some text =>
      match fromisoformat text with
      | some startedAt => .ok (decide
          (settings.workerProcessingVisibilityTimeoutSeconds * 1000000 ≤
            currentTime.micros - startedAt.micros))
      | none => .error .value

/-- The loop over the entries of the processing list; one that another worker has taken is
passed over. -/
def reclaimEach (currentTime : Timestamp) : List String → Nat → QueueM Nat
  | [], reclaimedCount => return reclaimedCount
  | rawJob :: rawJobs, reclaimedCount => do
      let job ← orRaise (Job.fromJson rawJob)
      if ← orRaise (isStale settings currentTime job) then
        let removed ← redis .reclaimStaleProcessingJobs
          (.lrem settings.workerProcessingQueueName rawJob)
        if removed = 0 then reclaimEach currentTime rawJobs reclaimedCount
        else do
          let _ ← redis .reclaimStaleProcessingJobs
            (.lpush (queueNameForJobType settings job.type)
              job.withoutProcessingStartedAt.toJson)
          reclaimEach currentTime rawJobs (reclaimedCount + 1)
      else reclaimEach currentTime rawJobs reclaimedCount

/-- `reclaim_stale_processing_jobs`. -/
def reclaimStaleProcessingJobs : QueueM Nat := do
  let currentTime ← now .reclaimStaleProcessingJobs
  let rawJobs ← redis .reclaimStaleProcessingJobs (.lrange settings.workerProcessingQueueName)
  reclaimEach settings currentTime rawJobs 0

/-- The loop of `requeue_failed_jobs`. -/
def requeueEach (limit : Option Nat) : Nat → Nat → QueueM Nat
  | 0, requeuedCount => return requeuedCount
  | fuel + 1, requeuedCount => do
      if full limit requeuedCount then return requeuedCount
      match ← redis .requeueFailedJobs (.rpop settings.workerFailedQueueName) with
      | none => return requeuedCount
      | some rawJob => do
          let job ← orRaise (Job.fromJson rawJob)
          let _ ← redis .requeueFailedJobs
            (.lpush (queueNameForJobType settings job.type) job.toJson)
          requeueEach limit fuel (requeuedCount + 1)

/-- `requeue_failed_jobs`, for as many rounds of its loop. -/
def requeueFailedJobs (limit : Option Nat) (fuel : Nat) : QueueM Nat :=
  requeueEach settings limit fuel 0

/-! ## The workers -/

/-- How `handle_job` ends. -/
inductive Handled where
  | completed
  | unknownJobType (message : String)
  | failed (message : String)

/-- The handler of the type of a job; other types are refused. -/
def handleJob (job : Job) : QueueM Handled := do
  if job.type ∈ knownJobTypes then
    match ← handler job with
    | none => return .completed
    | some message => return .failed message
  else return .unknownJobType ("unknown job type: " ++ job.type)

/-- The first job of the queues that are polled in turn. -/
def dequeueFirst : List String → QueueM (Option Job)
  | [] => return none
  | jobType :: jobTypes => do
      match ← dequeueJob settings (queueNameForJobType settings jobType) with
      | some job => return some job
      | none => dequeueFirst jobTypes

/-- The part of `process_next_job` after the handler. -/
def settle (job : Job) : Handled → QueueM Unit
  | .completed => ackJob settings job
  | .unknownJobType message => do
      let _ ← moveJobToFailedQueue settings job (some message)
      return ()
  | .failed message => do
      if job.attempts < settings.workerMaxRetries then
        let _ ← scheduleRetry settings job message
        return ()
      else
        let _ ← moveJobToFailedQueue settings job (some message)
        return ()

/-- `process_next_job`: a job is taken from the first queue that has one, handled, and settled.
-/
def processNextJob : QueueM Bool := do
  match ← dequeueFirst settings knownJobTypes with
  | none => return false
  | some job => do
      settle settings job (← handleJob job)
      return true

/-- `maybe_run_queue_maintenance`, when it is time. -/
def runQueueMaintenance : QueueM Unit := do
  let _ ← reclaimStaleProcessingJobs settings
  let _ ← promoteDelayedJobs settings (some settings.workerQueuePromoteBatchSize)
  return ()

end Functions

/-! ## The machine -/

/-- What is run, with what a handler makes of each job. -/
inductive QueueCall where
  | enqueueJob (jobType : String) (payload : Payload) (requestId : Option String)
  | processNextJob (outcome : Job → Option String)
  | runQueueMaintenance
  | promoteDelayedJobs (limit : Option Nat)
  | reclaimStaleProcessingJobs
  | requeueFailedJobs (limit : Option Nat) (fuel : Nat)

/-- What the calls return. -/
inductive QueueResult where
  | job (job : Job)
  | processed (any : Bool)
  | count (moved : Nat)
  | done

/-- What the workers share: Redis, the clock, the ids that have been given, and the record of
what has happened. -/
structure QueueWorld where
  store : Redis.Store
  clock : Timestamp
  issued : Nat
  history : List (Event QueueOps)

/-- The world of a run before its first step. -/
def QueueWorld.start (store : Redis.Store) (clock : Timestamp) : QueueWorld := ⟨store, clock, 0, []⟩

section Machine

variable (settings : WorkerSettings)

/-- The program of a call. -/
def perform : QueueCall → QueueM QueueResult
  | .enqueueJob jobType payload requestId =>
      .job <$> enqueueJob settings jobType payload requestId
  | .processNextJob _ => .processed <$> processNextJob settings
  | .runQueueMaintenance => (fun _ => .done) <$> runQueueMaintenance settings
  | .promoteDelayedJobs limit => .count <$> promoteDelayedJobs settings limit
  | .reclaimStaleProcessingJobs => .count <$> reclaimStaleProcessingJobs settings
  | .requeueFailedJobs limit fuel => .count <$> requeueFailedJobs settings limit fuel

/-- What the handlers of a call make of a job. -/
def QueueCall.outcome : QueueCall → Job → Option String
  | .processNextJob outcome => outcome
  | _ => fun _ => none

/-- The answer to a statement, and the store and the number of identifiers after it. -/
def answerOf (call : QueueCall) :
    (stmt : QueueStmt) → QueueWorld → stmt.Answer × Redis.Store × Nat
  | .redis _ command, world =>
      ((Redis.exec command world.store).1, (Redis.exec command world.store).2, world.issued)
  | .now _, world => (world.clock, world.store, world.issued)
  | .uuid7, world => (settings.uuid7 world.issued, world.store, world.issued + 1)
  | .handle job, world => (call.outcome job, world.store, world.issued)

/-- A statement is executed, and recorded. -/
def execQueue (call : QueueCall) (stmt : QueueStmt) (world : QueueWorld) :
    stmt.Answer × QueueWorld :=
  let (answer, store, issued) := answerOf settings call stmt world
  (answer, ⟨store, world.clock, issued, world.history ++ [⟨stmt, answer⟩]⟩)

/-- Time goes on. -/
def later (world after : QueueWorld) : Prop :=
  ∃ clock : Timestamp, world.clock.micros ≤ clock.micros ∧ after = { world with clock }

/-- The workers, their commands in any order, and the clock. -/
def queueMachine : Machine QueueOps QueueWorld QueueCall QueueError QueueResult where
  perform := perform settings
  exec _ call stmt world := some (execQueue settings call stmt world)
  enter _ world := world
  leave _ world := world
  ambient := later

end Machine

/-- The queue with the calls that are under way. -/
abbrev QueueConfig : Type := Config QueueOps QueueWorld QueueCall QueueError QueueResult

end AppointmentVoice.Queue
