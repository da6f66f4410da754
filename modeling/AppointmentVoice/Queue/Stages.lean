import AppointmentVoice.Concurrency.Custody
import AppointmentVoice.Concurrency.Paths
import AppointmentVoice.Queue.Operations

/-!
# How far a worker is with a job

The stage of a process of the queue, read off its statements and their answers: which job
it has in hand between the command that takes the entry out of one list and the command
that puts it into the next, and which entry of the processing list is in its charge.  All
that the functions of the queue do from a stage is in `Allowed`, and every program keeps to
it: `perform_along`.
-/

set_option autoImplicit false

namespace AppointmentVoice.Queue

open Concurrency Formats

/-! ## Texts of jobs -/

/-- The time at which the processing of a job has started, if there is one, can be read. -/
def Job.Dated (job : Job) : Prop :=
  ∀ text, job.processingStartedAt = some text → ∃ time, fromisoformat text = some time

/-- The text of a job whose times can be read. -/
def Text (raw : String) : Prop := ∃ job : Job, raw = job.toJson ∧ job.Dated

theorem Job.dated_of_none {job : Job} (none : job.processingStartedAt = none) : job.Dated := by
  intro text some
  rw [none] at some
  cases some

theorem Job.dated_started (job : Job) (time : Timestamp) :
    (job.withProcessingStartedAt (isoformat time)).Dated := by
  rintro _ ⟨⟩
  exact ⟨time, fromisoformat_isoformat time⟩

theorem Job.Dated.text {job : Job} (dated : job.Dated) : Text job.toJson := ⟨job, rfl, dated⟩

/-- The number of the job that an entry is about. -/
def rawId (raw : String) : String :=
  match Job.fromJson raw with
  | .ok job => job.id
  | .error _ => ""

/-- The id in an entry of a list. -/
def idOf (entry : Redis.Entry) : String := rawId entry.2

@[simp] theorem rawId_toJson (job : Job) : rawId job.toJson = job.id := by
  rw [rawId, fromJson_toJson]

@[simp] theorem idOf_toJson (key : String) (job : Job) : idOf (key, job.toJson) = job.id :=
  rawId_toJson job

/-! ## Stages -/

/-- Where a call is: what it holds in hand between two commands, and what it has read. -/
inductive Stage where
  | free
  | named (id : String)
  | moved (raw : String)
  | timed (raw : String) (job : Job)
  | lifted (job : Job)
  | given (job : Job)
  | handled (job : Job) (error : Option String)
  | retrying (job : Job) (error : Option String)
  | burying (job : Job)
  | sweeping (now : Timestamp)
  | scanning (now : Timestamp) (raws : List String)
  | reclaiming (now : Timestamp) (raws : List String) (raw : String)
  | promoting (raw : String)
  | requeueing (raw : String)

namespace Stage

/-- What is in hand, and which entry of the processing list is in charge. -/
def hold (settings : WorkerSettings) : Stage → Hold String Redis.Entry
  | .free => .nothing
  | .named id => .carrying id
  | .moved raw => .minding (settings.workerProcessingQueueName, raw)
  | .timed raw _ => .minding (settings.workerProcessingQueueName, raw)
  | .lifted job => .carrying job.id
  | .given job => .minding (settings.workerProcessingQueueName, job.toJson)
  | .handled job _ => .minding (settings.workerProcessingQueueName, job.toJson)
  | .retrying job _ => .carrying job.id
  | .burying job => .carrying job.id
  | .sweeping _ => .nothing
  | .scanning _ _ => .nothing
  | .reclaiming _ _ raw => .carrying (rawId raw)
  | .promoting raw => .carrying (rawId raw)
  | .requeueing raw => .carrying (rawId raw)

/-- Nothing has been begun that has to be brought to an end. -/
def idle : Stage → Prop
  | .free => True
  | .sweeping _ => True
  | .scanning _ _ => True
  | _ => False

/-- The clock has been read. -/
def afterNow (stage : Stage) (caller : QueueFunction) (time : Timestamp) : Stage :=
  match caller with
  | .dequeueJob =>
      match stage with
      | .moved raw =>
          match Job.fromJson raw with
          | .ok job =>
              if (job.withProcessingStartedAt (isoformat time)).toJson = raw then
                .given (job.withProcessingStartedAt (isoformat time))
              else .timed raw (job.withProcessingStartedAt (isoformat time))
          | .error _ => stage
      | _ => stage
  | .reclaimStaleProcessingJobs => .sweeping time
  | .promoteDelayedJobs => .free
  | _ => stage

/-- An entry has been put into a list. -/
def afterPush (stage : Stage) : Stage :=
  match stage with
  | .lifted job => .given job
  | .reclaiming now raws _ => .scanning now raws
  | _ => .free

/-- An entry of the processing list has been removed, or was not there. -/
def afterRemove (stage : Stage) (caller : QueueFunction) (raw : String) (count : Nat) : Stage :=
  match stage with
  | .timed _ job => .lifted job
  | .handled job error =>
      match caller with
      | .ackJob => .free
      | .scheduleRetry => .retrying job error
      | _ => .burying job
  | .given job => .burying job
  | .scanning now raws => if count = 0 then stage else .reclaiming now raws raw
  | _ => stage

/-- Where a call is after a command. -/
def afterRedis (stage : Stage) (caller : QueueFunction) :
    (command : Redis.Command) → command.Answer → Stage
  | .lpush _ _, _ => stage.afterPush
  | .rpop _, answer => answer.elim stage .requeueing
  | .brpoplpush _ _, answer => answer.elim stage .moved
  | .lrem _ raw, count => stage.afterRemove caller raw count
  | .lrange _, raws =>
      match stage with
      | .sweeping now => .scanning now raws
      | _ => stage
  | .zadd _ _ _, _ => .free
  | .zrem _ raw, count => if count = 0 then stage else .promoting raw
  | .zrangebyscore _ _ _, _ => stage

/-- Where a call is after an event. -/
def learn (stage : Stage) : Event QueueOps → Stage
  | ⟨.redis caller command, answer⟩ => stage.afterRedis caller command answer
  | ⟨.now caller, time⟩ => stage.afterNow caller time
  | ⟨.uuid7, id⟩ => .named id
  | ⟨.handle job, error⟩ => .handled job error

theorem hold_of_idle {stage : Stage} (settings : WorkerSettings) (idle : stage.idle) :
    stage.hold settings = .nothing := by
  cases stage <;> first | rfl | cases idle

end Stage

/-! ## What may be done -/

/-- The entries that are answered are texts of jobs. -/
def Possible : Event QueueOps → Prop
  | ⟨.redis _ (.rpop _), answer⟩ => ∀ raw, answer = some raw → Text raw
  | ⟨.redis _ (.brpoplpush _ _), answer⟩ => ∀ raw, answer = some raw → Text raw
  | ⟨.redis _ (.lrange _), raws⟩ => ∀ raw ∈ raws, Text raw
  | ⟨.redis _ (.zrangebyscore _ _ _), raws⟩ => ∀ raw ∈ raws, Text raw
  | _ => True

/-- Everything that a call does, by its stage. -/
inductive Allowed (settings : WorkerSettings) (call : QueueCall) : Stage → QueueStmt → Prop where
  | uuid7 : Allowed settings call .free .uuid7
  | enqueue {job : Job} (first : job.attempts = 0) (fresh : job.processingStartedAt = none) :
      Allowed settings call (.named job.id)
        (.redis .enqueueJob (.lpush (queueNameForJobType settings job.type) job.toJson))
  | dequeue {jobType : String} (known : jobType ∈ knownJobTypes) :
      Allowed settings call .free (.redis .dequeueJob
        (.brpoplpush (queueNameForJobType settings jobType) settings.workerProcessingQueueName))
  | dequeueTime {raw : String} : Allowed settings call (.moved raw) (.now .dequeueJob)
  | lift {job : Job} {time : Timestamp} :
      Allowed settings call (.timed job.toJson (job.withProcessingStartedAt (isoformat time)))
        (.redis .dequeueJob (.lrem settings.workerProcessingQueueName job.toJson))
  | stamp {job : Job} (dated : job.Dated) : Allowed settings call (.lifted job)
      (.redis .dequeueJob (.lpush settings.workerProcessingQueueName job.toJson))
  | handle {job : Job} : Allowed settings call (.given job) (.handle job)
  | ack {job : Job} : Allowed settings call (.handled job none)
      (.redis .ackJob (.lrem settings.workerProcessingQueueName job.toJson))
  | retryTime {job : Job} {error : Option String} :
      Allowed settings call (.handled job error) (.now .scheduleRetry)
  | retry {job : Job} {message : String} (again : job.attempts < settings.workerMaxRetries) :
      Allowed settings call (.handled job (some message))
        (.redis .scheduleRetry (.lrem settings.workerProcessingQueueName job.toJson))
  | delay {job : Job} {error : Option String} {message : String} {score : Int} :
      Allowed settings call (.retrying job error) (.redis .scheduleRetry
        (.zadd settings.workerDelayedQueueName
          (job.withNextAttempt.withError message).toJson score))
  | failTime {job : Job} {error : Option String} :
      Allowed settings call (.handled job error) (.now .moveJobToFailedQueue)
  | failTimeUnknown {job : Job} :
      Allowed settings call (.given job) (.now .moveJobToFailedQueue)
  | bury {job : Job} {message : String} (last : ¬job.attempts < settings.workerMaxRetries) :
      Allowed settings call (.handled job (some message))
        (.redis .moveJobToFailedQueue (.lrem settings.workerProcessingQueueName job.toJson))
  | buryUnknown {job : Job} (unknown : job.type ∉ knownJobTypes) :
      Allowed settings call (.given job)
        (.redis .moveJobToFailedQueue (.lrem settings.workerProcessingQueueName job.toJson))
  | fail {job failedJob : Job} (same : failedJob.id = job.id) (kind : failedJob.type = job.type)
      (attempts : failedJob.attempts = job.attempts) (dated : failedJob.Dated) :
      Allowed settings call (.burying job) (.redis .moveJobToFailedQueue
        (.lpush settings.workerFailedQueueName failedJob.toJson))
  | promoteTime {stage : Stage} (idle : stage.idle) :
      Allowed settings call stage (.now .promoteDelayedJobs)
  | dueJobs {min max : Int} : Allowed settings call .free (.redis .promoteDelayedJobs
      (.zrangebyscore settings.workerDelayedQueueName min max))
  | promote {raw : String} : Allowed settings call .free (.redis .promoteDelayedJobs
      (.zrem settings.workerDelayedQueueName raw))
  | promotePush {job : Job} (dated : job.Dated) : Allowed settings call (.promoting job.toJson)
      (.redis .promoteDelayedJobs (.lpush (queueNameForJobType settings job.type) job.toJson))
  | sweepTime : Allowed settings call .free (.now .reclaimStaleProcessingJobs)
  | sweep {now : Timestamp} : Allowed settings call (.sweeping now)
      (.redis .reclaimStaleProcessingJobs (.lrange settings.workerProcessingQueueName))
  | reclaim {now : Timestamp} {raws : List String} {job : Job} (read : job.toJson ∈ raws)
      (stale : isStale settings now job = .ok true) :
      Allowed settings call (.scanning now raws) (.redis .reclaimStaleProcessingJobs
        (.lrem settings.workerProcessingQueueName job.toJson))
  | reclaimPush {now : Timestamp} {raws : List String} {job : Job} :
      Allowed settings call (.reclaiming now raws job.toJson) (.redis .reclaimStaleProcessingJobs
        (.lpush (queueNameForJobType settings job.type) job.withoutProcessingStartedAt.toJson))
  | requeue {limit : Option Nat} {fuel : Nat} (requeues : call = .requeueFailedJobs limit fuel) :
      Allowed settings call .free
        (.redis .requeueFailedJobs (.rpop settings.workerFailedQueueName))
  | requeuePush {job : Job} (dated : job.Dated) : Allowed settings call (.requeueing job.toJson)
      (.redis .requeueFailedJobs (.lpush (queueNameForJobType settings job.type) job.toJson))

/-! ## Every program keeps to it -/

section Along

variable (settings : WorkerSettings) (call : QueueCall)

/-- The statements of a call, judged by where it is. -/
def stageMonitor : Monitor QueueOps Stage where
  may _ := Possible
  must := Allowed settings call
  learn := Stage.learn

/-- From anywhere to a stage in which nothing has been begun. -/
def stageWatch : Watch QueueOps QueueCall QueueError QueueResult Stage where
  monitor := stageMonitor settings
  initial _ := .free
  post _ _ stage := stage.idle

variable {settings call} {α : Type} {post : Except QueueError α → Stage → Prop}

/-- A command and what comes after it. -/
theorem redis_along {caller : QueueFunction} {command : Redis.Command} {stage : Stage}
    {next : command.Answer → QueueM α}
    (allowed : Allowed settings call stage (.redis caller command))
    (rest : ∀ answer, Possible ⟨.redis caller command, answer⟩ →
      (stageMonitor settings call).Along post (next answer)
        (stage.afterRedis caller command answer)) :
    (stageMonitor settings call).Along post (redis caller command >>= next) stage :=
  .issue allowed rest

theorem now_along {caller : QueueFunction} {stage : Stage} {next : Timestamp → QueueM α}
    (allowed : Allowed settings call stage (.now caller))
    (rest : ∀ time, (stageMonitor settings call).Along post (next time)
      (stage.afterNow caller time)) :
    (stageMonitor settings call).Along post (now caller >>= next) stage :=
  .issue allowed fun time _ => rest time

theorem enqueueJob_along (jobType : String) (payload : Payload) (requestId : Option String) :
    (stageMonitor settings call).Along (fun _ stage => stage.idle)
      (enqueueJob settings jobType payload requestId) .free := by
  refine .issue .uuid7 fun id _ => ?_
  let job : Job := { id, type := jobType, payload, requestId }
  have push : Allowed settings call (.named id)
      (.redis .enqueueJob (.lpush (queueNameForJobType settings jobType) job.toJson)) :=
    @Allowed.enqueue settings call job rfl rfl
  exact redis_along push fun _ _ => .ret trivial

theorem startProcessing_along {raw : String} (text : Text raw) :
    (stageMonitor settings call).Along
      (fun result stage => ∃ job, result = .ok job ∧ stage = .given job ∧ job.Dated)
      (startProcessing settings raw) (.moved raw) := by
  obtain ⟨job, rfl, -⟩ := text
  rw [startProcessing, fromJson_toJson]
  refine now_along .dequeueTime fun time => ?_
  have dated := job.dated_started time
  by_cases same : (job.withProcessingStartedAt (isoformat time)).toJson = job.toJson
  · rw [if_neg (not_not_intro same)]
    refine .ret ⟨_, rfl, ?_, dated⟩
    simp only [Stage.afterNow, fromJson_toJson, if_pos same]
  · have stage : (Stage.moved job.toJson).afterNow .dequeueJob time =
        .timed job.toJson (job.withProcessingStartedAt (isoformat time)) := by
      simp only [Stage.afterNow, fromJson_toJson, if_neg same]
    rw [if_pos same, stage]
    refine redis_along .lift fun _ _ => ?_
    refine redis_along (.stamp dated) fun _ _ => ?_
    exact .ret ⟨_, rfl, rfl, dated⟩

theorem dequeueJob_along {jobType : String} (known : jobType ∈ knownJobTypes) :
    (stageMonitor settings call).Along
      (fun result stage => result = .ok none ∧ stage = .free ∨
        ∃ job, result = .ok (some job) ∧ stage = .given job ∧ job.Dated)
      (dequeueJob settings (queueNameForJobType settings jobType)) .free := by
  refine redis_along (.dequeue known) fun answer possible => ?_
  cases answer with
  | none => exact .ret (.inl ⟨rfl, rfl⟩)
  | some raw =>
      refine ((startProcessing_along (possible raw rfl)).mono ?_).bind
      rintro _ _ ⟨job, rfl, rfl, dated⟩
      exact .ret (.inr ⟨job, rfl, rfl, dated⟩)

theorem dequeueFirst_along {jobTypes : List String} (known : jobTypes ⊆ knownJobTypes) :
    (stageMonitor settings call).Along
      (fun result stage => result = .ok none ∧ stage = .free ∨
        ∃ job, result = .ok (some job) ∧ stage = .given job ∧ job.Dated)
      (dequeueFirst settings jobTypes) .free := by
  induction jobTypes with
  | nil => exact .ret (.inl ⟨rfl, rfl⟩)
  | cons jobType jobTypes ih =>
      refine ((dequeueJob_along (known List.mem_cons_self)).mono ?_).bind
      rintro _ _ (⟨rfl, rfl⟩ | ⟨job, rfl, rfl, dated⟩)
      · exact ih fun _ member => known (List.mem_cons_of_mem _ member)
      · exact .ret (.inr ⟨job, rfl, rfl, dated⟩)

theorem ackJob_along {job : Job} :
    (stageMonitor settings call).Along (fun _ stage => stage.idle) (ackJob settings job)
      (.handled job none) :=
  redis_along .ack fun _ _ => .ret trivial

theorem scheduleRetry_along {job : Job} {message : String}
    (again : job.attempts < settings.workerMaxRetries) :
    (stageMonitor settings call).Along
      (fun result stage => (∃ retried, result = .ok retried) ∧ stage.idle)
      (scheduleRetry settings job message) (.handled job (some message)) := by
  refine now_along .retryTime fun time => ?_
  refine redis_along (.retry again) fun _ _ => ?_
  refine redis_along .delay fun _ _ => ?_
  exact .ret ⟨⟨_, rfl⟩, trivial⟩

theorem failedCopy_keeps (job : Job) (failedAt : String) (error : Option String) :
    (failedCopy job failedAt error).id = job.id ∧ (failedCopy job failedAt error).type = job.type ∧
      (failedCopy job failedAt error).attempts = job.attempts ∧
      (failedCopy job failedAt error).processingStartedAt = job.processingStartedAt := by
  unfold failedCopy
  split
  · exact ⟨rfl, rfl, rfl, rfl⟩
  · split <;> exact ⟨rfl, rfl, rfl, rfl⟩

theorem moveJobToFailedQueue_along {job : Job} {error : Option String} {stage : Stage}
    (dated : job.Dated)
    (removes : Allowed settings call stage
      (.redis .moveJobToFailedQueue (.lrem settings.workerProcessingQueueName job.toJson)))
    (isHere : (∃ outcome, stage = .handled job outcome) ∨ stage = .given job) :
    (stageMonitor settings call).Along
      (fun result stage => (∃ failed, result = .ok failed) ∧ stage.idle)
      (moveJobToFailedQueue settings job error) stage := by
  have clock : Allowed settings call stage (.now .moveJobToFailedQueue) := by
    rcases isHere with ⟨outcome, rfl⟩ | rfl
    · exact .failTime
    · exact .failTimeUnknown
  have buried : ∀ count : Nat, stage.afterRemove .moveJobToFailedQueue job.toJson count =
      .burying job := by
    intro count
    rcases isHere with ⟨outcome, rfl⟩ | rfl <;> rfl
  refine now_along clock fun time => ?_
  have still : stage.afterNow .moveJobToFailedQueue time = stage := rfl
  rw [still]
  refine redis_along removes fun count _ => ?_
  rw [Stage.afterRedis, buried]
  obtain ⟨id, kind, attempts, started⟩ := failedCopy_keeps job (isoformat time) error
  refine redis_along (.fail id kind attempts ?_) fun _ _ => ?_
  · intro text some
    exact dated text (started ▸ some)
  · exact .ret ⟨⟨_, rfl⟩, trivial⟩

theorem processNextJob_along :
    (stageMonitor settings call).Along (fun _ stage => stage.idle)
    (processNextJob settings) .free := by
  refine ((dequeueFirst_along (fun _ member => member)).mono ?_).bind
  rintro _ _ (⟨rfl, rfl⟩ | ⟨job, rfl, rfl, dated⟩)
  · exact .ret trivial
  · change (stageMonitor settings call).Along _
      (handleJob job >>= fun outcome => settle settings job outcome >>= fun _ => _) _
    rw [handleJob]
    split
    · refine .bind (.issue .handle fun error _ => ?_)
      cases error with
      | none =>
          refine .ret ((ackJob_along.mono ?_).bind)
          rintro (error | _) stage idle
          · exact idle
          · exact .ret idle
      | some message =>
          refine .ret (.bind ?_)
          change (stageMonitor settings call).Along _ (settle settings job (.failed message))
            (.handled job (some message))
          rw [settle]
          split
          · next again =>
              refine ((scheduleRetry_along again).mono ?_).bind
              rintro _ stage ⟨⟨retried, rfl⟩, idle⟩
              exact .ret (.ret idle)
          · next last =>
              refine ((moveJobToFailedQueue_along dated (.bury last) (.inl ⟨_, rfl⟩)).mono ?_).bind
              rintro _ stage ⟨⟨failed, rfl⟩, idle⟩
              exact .ret (.ret idle)
    · next unknown =>
        refine .bind (.ret (.bind ?_))
        refine ((moveJobToFailedQueue_along dated (.buryUnknown unknown) (.inr rfl)).mono ?_).bind
        rintro _ stage ⟨⟨failed, rfl⟩, idle⟩
        exact .ret (.ret idle)

theorem promoteEach_along (limit : Option Nat) {raws : List String} (texts : ∀ raw ∈ raws, Text raw)
    (count : Nat) :
    (stageMonitor settings call).Along
      (fun result stage => (∃ moved, result = .ok moved) ∧ stage.idle)
      (promoteEach settings limit raws count) .free := by
  induction raws generalizing count with
  | nil => exact .ret ⟨⟨_, rfl⟩, trivial⟩
  | cons raw raws ih =>
      have others := ih fun other member => texts other (List.mem_cons_of_mem _ member)
      rw [promoteEach]
      split
      · exact .ret ⟨⟨_, rfl⟩, trivial⟩
      refine redis_along .promote fun removed _ => ?_
      by_cases none : removed = 0
      · subst none
        exact others count
      · obtain ⟨job, rfl, dated⟩ := texts raw List.mem_cons_self
        rw [if_neg none, Stage.afterRedis, if_neg none, fromJson_toJson]
        refine redis_along (.promotePush dated) fun _ _ => ?_
        exact others (count + 1)

theorem promoteDelayedJobs_along (limit : Option Nat) {stage : Stage} (idle : stage.idle) :
    (stageMonitor settings call).Along
      (fun result stage => (∃ moved, result = .ok moved) ∧ stage.idle)
      (promoteDelayedJobs settings limit) stage := by
  refine now_along (.promoteTime idle) fun time => ?_
  refine redis_along .dueJobs fun raws texts => ?_
  exact promoteEach_along limit texts 0

/-- Whether a dated job is stale can be told. -/
theorem isStale_ok {job : Job} (dated : job.Dated) (time : Timestamp) :
    ∃ stale, isStale settings time job = .ok stale := by
  cases started : job.processingStartedAt with
  | none => exact ⟨true, by rw [isStale, started]⟩
  | some text =>
      obtain ⟨startedAt, read⟩ := dated text started
      exact ⟨_, by rw [isStale, started]; dsimp only; rw [read]⟩

theorem reclaimEach_along {time : Timestamp} {all : List String} (texts : ∀ raw ∈ all, Text raw)
    {raws : List String} (part : raws ⊆ all) (count : Nat) :
    (stageMonitor settings call).Along
      (fun result stage => (∃ moved, result = .ok moved) ∧ stage.idle)
      (reclaimEach settings time raws count) (.scanning time all) := by
  induction raws generalizing count with
  | nil => exact .ret ⟨⟨_, rfl⟩, trivial⟩
  | cons raw raws ih =>
      have others := ih fun _ member => part (List.mem_cons_of_mem _ member)
      obtain ⟨job, rfl, dated⟩ := texts raw (part List.mem_cons_self)
      obtain ⟨stale, told⟩ : ∃ stale, isStale settings time job = .ok stale := isStale_ok dated time
      rw [reclaimEach, fromJson_toJson, orRaise_ok, told, orRaise_ok]
      cases stale with
      | false => exact others count
      | true =>
          refine redis_along (.reclaim (part List.mem_cons_self) told) fun removed _ => ?_
          by_cases none : removed = 0
          · subst none
            exact others count
          · have stage : (Stage.scanning time all).afterRedis .reclaimStaleProcessingJobs
                (.lrem settings.workerProcessingQueueName job.toJson) removed =
                  .reclaiming time all job.toJson := if_neg none
            rw [if_neg none, stage]
            refine redis_along .reclaimPush fun _ _ => ?_
            exact others (count + 1)

theorem reclaimStaleProcessingJobs_along :
    (stageMonitor settings call).Along
      (fun result stage => (∃ moved, result = .ok moved) ∧ stage.idle)
      (reclaimStaleProcessingJobs settings) .free := by
  refine now_along .sweepTime fun time => ?_
  refine redis_along .sweep fun raws texts => ?_
  exact reclaimEach_along texts (fun _ member => member) 0

theorem requeueEach_along {limit bound : Option Nat} {fuel start : Nat}
    (requeues : call = .requeueFailedJobs bound start) (count : Nat) :
    (stageMonitor settings call).Along
      (fun result stage => (∃ moved, result = .ok moved) ∧ stage.idle)
      (requeueEach settings limit fuel count) .free := by
  induction fuel generalizing count with
  | zero => exact .ret ⟨⟨_, rfl⟩, trivial⟩
  | succ fuel ih =>
      rw [requeueEach]
      split
      · exact .ret ⟨⟨_, rfl⟩, trivial⟩
      refine redis_along (.requeue requeues) fun answer possible => ?_
      cases answer with
      | none => exact .ret ⟨⟨_, rfl⟩, trivial⟩
      | some raw =>
          obtain ⟨job, rfl, dated⟩ := possible raw rfl
          dsimp only
          rw [fromJson_toJson]
          refine redis_along (.requeuePush dated) fun _ _ => ?_
          exact ih (count + 1)

/-- What a call makes of the result of its function. -/
theorem map_along {β : Type} {program : QueueM α} {f : α → β} {stage : Stage}
    (along : (stageMonitor settings call).Along (fun _ stage => stage.idle) program stage) :
    (stageMonitor settings call).Along (fun _ stage => stage.idle) (f <$> program) stage := by
  rw [map_eq_pure_bind]
  refine (along.mono ?_).bind
  rintro (error | value) last idle
  · exact idle
  · exact .ret idle

/-- **Every call keeps to its stages.** -/
theorem perform_along (call : QueueCall) :
    (stageMonitor settings call).Along (fun _ stage => stage.idle)
    (perform settings call) .free := by
  cases call with
  | enqueueJob jobType payload requestId =>
      exact map_along (enqueueJob_along jobType payload requestId)
  | processNextJob outcome => exact map_along processNextJob_along
  | runQueueMaintenance =>
      refine map_along ?_
      refine (reclaimStaleProcessingJobs_along.mono ?_).bind
      rintro _ stage ⟨⟨moved, rfl⟩, idle⟩
      refine ((promoteDelayedJobs_along _ idle).mono ?_).bind
      rintro _ last ⟨⟨more, rfl⟩, idleToo⟩
      exact .ret idleToo
  | promoteDelayedJobs limit =>
      have free : Stage.free.idle := trivial
      exact map_along ((promoteDelayedJobs_along limit free).mono fun _ _ ended => ended.2)
  | reclaimStaleProcessingJobs =>
      exact map_along (reclaimStaleProcessingJobs_along.mono fun _ _ ended => ended.2)
  | requeueFailedJobs limit fuel =>
      exact map_along ((requeueEach_along rfl 0).mono fun _ _ ended => ended.2)

end Along

end AppointmentVoice.Queue
