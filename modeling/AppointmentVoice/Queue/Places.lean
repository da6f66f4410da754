import AppointmentVoice.Queue.Stages

/-!
# Where the jobs are

What a statement of the queue does to the entries of all lists and of the delayed set.
Every entry is the text of a job; and as long as no reclaim pass takes an entry away from a
worker that goes on with it, each statement hands one job on in one of the ways in which
custody is kept.
-/

set_option autoImplicit false

namespace AppointmentVoice.Queue

open Concurrency Formats

variable {settings : WorkerSettings} {call : QueueCall} {world after : QueueWorld}

/-! ## What a statement does -/

/-- Every answer to a statement, and the world after it. -/
inductive Executed (settings : WorkerSettings) (call : QueueCall) (world : QueueWorld) :
    (stmt : QueueStmt) → stmt.Answer → QueueWorld → Prop where
  | redis {caller : QueueFunction} {command : Redis.Command} {answer : command.Answer}
      {store : Redis.Store} (effect : Redis.Effect world.store command answer store) :
      Executed settings call world (.redis caller command) answer
        ⟨store, world.clock, world.issued, world.history ++ [⟨.redis caller command, answer⟩]⟩
  | now (caller : QueueFunction) :
      Executed settings call world (.now caller) world.clock
        ⟨world.store, world.clock, world.issued, world.history ++ [⟨.now caller, world.clock⟩]⟩
  | uuid7 :
      Executed settings call world .uuid7 (settings.uuid7 world.issued)
        ⟨world.store, world.clock, world.issued + 1,
          world.history ++ [⟨.uuid7, settings.uuid7 world.issued⟩]⟩
  | handle (job : Job) :
      Executed settings call world (.handle job) (call.outcome job)
        ⟨world.store, world.clock, world.issued,
          world.history ++ [⟨.handle job, call.outcome job⟩]⟩

theorem executed_of_exec {stmt : QueueStmt} {answer : stmt.Answer}
    (executed : some (execQueue settings call stmt world) = some (answer, after)) :
    Executed settings call world stmt answer after := by
  have same := Option.some.inj executed
  cases stmt with
  | redis caller command =>
      obtain ⟨rfl, rfl⟩ := Prod.mk.inj same
      exact .redis (Redis.exec_effect command world.store)
  | now caller =>
      obtain ⟨rfl, rfl⟩ := Prod.mk.inj same
      exact .now caller
  | uuid7 =>
      obtain ⟨rfl, rfl⟩ := Prod.mk.inj same
      exact .uuid7
  | handle job =>
      obtain ⟨rfl, rfl⟩ := Prod.mk.inj same
      exact .handle job

/-- Every statement goes into the history. -/
theorem Executed.history {stmt : QueueStmt} {answer : stmt.Answer}
    (executed : Executed settings call world stmt answer after) :
    after.history = world.history ++ [⟨stmt, answer⟩] := by
  cases executed <;> rfl

theorem effect_of_executed {call : QueueCall} {caller : QueueFunction} {command : Redis.Command}
    {answer : command.Answer} {world next : QueueWorld}
    (executed : Executed settings call world (.redis caller command) answer next) :
    Redis.Effect world.store command answer next.store := by
  cases executed with
  | redis effect => exact effect

/-- Only Redis commands change the store. -/
theorem store_of_executed {call : QueueCall} {stmt : QueueStmt} {answer : stmt.Answer}
    {world next : QueueWorld} (executed : Executed settings call world stmt answer next)
    (other : ∀ caller command, stmt ≠ .redis caller command) : next.store = world.store := by
  cases executed with
  | redis effect => exact absurd rfl (other _ _)
  | _ => rfl

/-! ## All entries are texts of jobs -/

/-- The name of a list of the queue. -/
def IsQueue (settings : WorkerSettings) (key : String) : Prop :=
  (∃ jobType, key = queueNameForJobType settings jobType) ∨
    key = settings.workerProcessingQueueName ∨ key = settings.workerFailedQueueName

/-- All entries are texts of jobs in the lists of the queue, and the delayed set is the only
sorted set. -/
structure QueueWorld.Sound (settings : WorkerSettings) (world : QueueWorld) : Prop where
  texts : ∀ entry ∈ world.store.bag, Text entry.2
  queues : ∀ entry ∈ world.store.entries, IsQueue settings entry.1
  delayed : ∀ row ∈ world.store.sets.rows, row.key = settings.workerDelayedQueueName

theorem QueueWorld.Sound.empty (clock : Timestamp) :
    (QueueWorld.start .empty clock).Sound settings where
  texts entry member := by
    rcases Redis.Store.mem_bag.mp member with there | ⟨row, there, -⟩ <;> cases there
  queues _ there := nomatch there
  delayed _ there := nomatch there

/-- What is read are texts of jobs. -/
theorem QueueWorld.Sound.possible {stmt : QueueStmt} {answer : stmt.Answer}
    (sound : world.Sound settings)
    (executed : Executed settings call world stmt answer after) : Possible ⟨stmt, answer⟩ := by
  have listed : ∀ {key raw : String}, (key, raw) ∈ world.store.entries → Text raw :=
    fun there => sound.texts _ (Redis.Store.mem_bag.mpr (.inl there))
  cases executed with
  | redis effect =>
      cases effect with
      | popped split last =>
          rintro _ ⟨⟩
          exact listed (split ▸ List.mem_append_right _ List.mem_cons_self)
      | empty nothing => exact nofun
      | moved split last =>
          rintro _ ⟨⟩
          exact listed (split ▸ List.mem_append_right _ List.mem_cons_self)
      | unmoved nothing => exact nofun
      | listed key => exact fun raw member => listed (Redis.mem_list.mp member)
      | ranged key min max =>
          intro raw member
          obtain ⟨score, there, -⟩ := Redis.SortedSets.mem_range.mp member
          exact sound.texts (key, raw) (Redis.Store.mem_bag.mpr (.inr ⟨_, there, rfl⟩))
      | _ => trivial
  | _ => trivial

/-- The text that is put into a list is the text of a job. -/
theorem Allowed.pushes {stage : Stage} {caller : QueueFunction} {key value : String}
    (allowed : Allowed settings call stage (.redis caller (.lpush key value))) :
    Text value ∧ IsQueue settings key := by
  cases allowed with
  | enqueue first fresh => exact ⟨(Job.dated_of_none fresh).text, .inl ⟨_, rfl⟩⟩
  | stamp dated => exact ⟨dated.text, .inr (.inl rfl)⟩
  | fail same kind attempts dated => exact ⟨dated.text, .inr (.inr rfl)⟩
  | promotePush dated => exact ⟨dated.text, .inl ⟨_, rfl⟩⟩
  | reclaimPush => exact ⟨(Job.dated_of_none rfl).text, .inl ⟨_, rfl⟩⟩
  | requeuePush dated => exact ⟨dated.text, .inl ⟨_, rfl⟩⟩

theorem Allowed.moves {stage : Stage} {caller : QueueFunction} {source destination : String}
    (allowed : Allowed settings call stage (.redis caller (.brpoplpush source destination))) :
    IsQueue settings destination := by
  cases allowed
  exact .inr (.inl rfl)

theorem Allowed.delays {stage : Stage} {caller : QueueFunction} {key member : String} {score : Int}
    (allowed : Allowed settings call stage (.redis caller (.zadd key member score))) :
    Text member ∧ key = settings.workerDelayedQueueName := by
  cases allowed with
  | delay => exact ⟨(Job.dated_of_none rfl).text, rfl⟩

/-- **All entries stay texts of jobs.** -/
theorem QueueWorld.Sound.executed {stage : Stage} {stmt : QueueStmt} {answer : stmt.Answer}
    (sound : world.Sound settings) (allowed : Allowed settings call stage stmt)
    (executed : Executed settings call world stmt answer after) : after.Sound settings := by
  have part : ∀ {store : Redis.Store}, store.bag ≤ world.store.bag →
      ∀ entry ∈ store.bag, Text entry.2 :=
    fun less entry member => sound.texts entry (Multiset.mem_of_le less member)
  have more : ∀ {store : Redis.Store} {added : Redis.Entry} {rest : Multiset Redis.Entry},
      store.bag = added ::ₘ rest → rest ≤ world.store.bag → Text added.2 →
      ∀ entry ∈ store.bag, Text entry.2 := by
    intro store added rest whole less text entry member
    rw [whole, Multiset.mem_cons] at member
    rcases member with rfl | old
    · exact text
    · exact sound.texts entry (Multiset.mem_of_le less old)
  have removed : ∀ (key member : String),
      (⟨world.store.entries, world.store.sets.remove key member⟩ : Redis.Store).bag ≤
        world.store.bag := by
    intro key member
    by_cases there : world.store.sets.has key member = true
    · rw [Redis.Store.bag_remove there]
      exact Multiset.le_cons_self _ _
    · exact (Redis.Store.bag_remove_absent there).le
  have queues : ∀ {entries : List Redis.Entry}, entries ⊆ world.store.entries →
      ∀ entry ∈ entries, IsQueue settings entry.1 :=
    fun part entry member => sound.queues entry (part member)
  have outer : ∀ {left right : List Redis.Entry} {middle : Redis.Entry},
      world.store.entries = left ++ middle :: right → left ++ right ⊆ world.store.entries := by
    intro left right middle split entry member
    rw [split]
    simp only [List.mem_append, List.mem_cons] at member ⊢
    tauto
  cases executed with
  | redis effect =>
      cases effect with
      | lpush key value =>
          obtain ⟨text, isQueue⟩ := allowed.pushes
          refine ⟨more (Redis.Store.bag_cons ..) le_rfl text, fun entry member => ?_, sound.delayed⟩
          rcases List.mem_cons.mp member with rfl | old
          · exact isQueue
          · exact sound.queues entry old
      | popped split last =>
          refine ⟨part ?_, queues (outer split), sound.delayed⟩
          rw [Redis.Store.bag_split split]
          exact Multiset.le_cons_self _ _
      | @moved source destination value left right split last =>
          have whole := Redis.Store.bag_split split
          refine ⟨more (Redis.Store.bag_cons ..) ?_ ?_, fun entry member => ?_, sound.delayed⟩
          · rw [whole]
            exact Multiset.le_cons_self _ _
          · exact sound.texts (source, value) (whole ▸ Multiset.mem_cons_self _ _)
          · rcases List.mem_cons.mp member with rfl | old
            · exact allowed.moves
            · exact queues (outer split) entry old
      | removed there =>
          refine ⟨part ?_, queues List.erase_subset, sound.delayed⟩
          rw [Redis.Store.bag_erase there]
          exact Multiset.le_cons_self _ _
      | added =>
          obtain ⟨text, isDelayed⟩ := allowed.delays
          refine ⟨more (Redis.Store.bag_add _) (removed _ _) text,
            sound.queues, fun row there => ?_⟩
          rcases Redis.SortedSets.mem_add.mp there with rfl | ⟨old, -⟩
          · exact isDelayed
          · exact sound.delayed row old
      | taken there =>
          exact ⟨part (removed _ _), sound.queues, fun row kept =>
            sound.delayed row (Redis.SortedSets.mem_remove.mp kept).1⟩
      | _ => exact ⟨sound.texts, sound.queues, sound.delayed⟩
  | _ => exact ⟨sound.texts, sound.queues, sound.delayed⟩

/-! ## What events do -/

/-- The job that an event has enqueued. -/
def enqueuedBy : Event QueueOps → Option String
  | ⟨.redis .enqueueJob (.lpush _ raw), _⟩ => some (rawId raw)
  | _ => none

/-- The job that an event has acknowledged. -/
def ackedBy : Event QueueOps → Option String
  | ⟨.redis .ackJob (.lrem _ raw), count⟩ => if count = (0 : Nat) then none else some (rawId raw)
  | _ => none

/-- The ids of the jobs that have been enqueued. -/
def enqueuedIds (history : List (Event QueueOps)) : List String := history.filterMap enqueuedBy

/-- The ids of the jobs that have been acknowledged. -/
def ackedIds (history : List (Event QueueOps)) : List String := history.filterMap ackedBy

/-- The job that an event hands to its handler. -/
def handedBy : Event QueueOps → Option String
  | ⟨.handle job, _⟩ => some job.id
  | _ => none

/-- The job whose delivery an event ends: it is acknowledged, put off, given up or
reclaimed. -/
def releasedBy : Event QueueOps → Option String
  | ⟨.redis .dequeueJob _, _⟩ => none
  | ⟨.redis _ (.lrem _ raw), count⟩ => if count = (0 : Nat) then none else some (rawId raw)
  | _ => none

/-- The job that an event has reclaimed. -/
def reclaimedBy : Event QueueOps → Option String
  | ⟨.redis .reclaimStaleProcessingJobs (.lrem _ raw), count⟩ =>
      if count = (0 : Nat) then none else some (rawId raw)
  | _ => none

/-- The job that an event has taken out of the failed list. -/
def requeuedBy : Event QueueOps → Option String
  | ⟨.redis .requeueFailedJobs (.rpop _), some raw⟩ => some (rawId raw)
  | _ => none

/-! ## Where a job is -/

/-- The job is in a ready list, in the processing list, in the failed list, or in the delayed
set. -/
def Present (settings : WorkerSettings) (store : Redis.Store) (id : String) : Prop :=
  (∃ jobType, ∃ raw ∈ store.list (queueNameForJobType settings jobType), rawId raw = id) ∨
    (∃ raw ∈ store.list settings.workerProcessingQueueName, rawId raw = id) ∨
    (∃ raw ∈ store.list settings.workerFailedQueueName, rawId raw = id) ∨
    ∃ row ∈ store.sets.rows, row.key = settings.workerDelayedQueueName ∧ rawId row.member = id

theorem present_of_mem (sound : world.Sound settings) {id : String}
    (member : id ∈ world.store.bag.map idOf) : Present settings world.store id := by
  obtain ⟨⟨key, raw⟩, there, rfl⟩ := Multiset.mem_map.mp member
  rcases Redis.Store.mem_bag.mp there with listed | ⟨row, found, place⟩
  · rcases sound.queues _ listed with ⟨jobType, isReady⟩ | isProcessing | isFailed
    · subst isReady
      exact .inl ⟨jobType, raw, Redis.mem_list.mpr listed, rfl⟩
    · subst isProcessing
      exact .inr (.inl ⟨raw, Redis.mem_list.mpr listed, rfl⟩)
    · subst isFailed
      exact .inr (.inr (.inl ⟨raw, Redis.mem_list.mpr listed, rfl⟩))
  · obtain ⟨rfl, rfl⟩ := Prod.mk.inj place
    exact .inr (.inr (.inr ⟨row, found, sound.delayed row found, rfl⟩))

theorem mem_of_present {store : Redis.Store} {id : String} (present : Present settings store id) :
    id ∈ store.bag.map idOf := by
  have found : ∀ {entry : Redis.Entry}, entry ∈ store.bag → rawId entry.2 = id →
      id ∈ store.bag.map idOf :=
    fun member same => Multiset.mem_map.mpr ⟨_, member, same⟩
  have listed : ∀ {key raw : String}, raw ∈ store.list key → rawId raw = id →
      id ∈ store.bag.map idOf :=
    fun there same => found (Redis.Store.mem_bag.mpr (.inl (Redis.mem_list.mp there))) same
  rcases present with ⟨jobType, raw, there, same⟩ | ⟨raw, there, same⟩ | ⟨raw, there, same⟩ |
    ⟨row, there, -, same⟩
  · exact listed there same
  · exact listed there same
  · exact listed there same
  · exact found (Redis.Store.mem_bag.mpr (.inr ⟨row, there, rfl⟩)) same

/-! ## Custody -/

/-- The entry is in the processing list. -/
def Processing (settings : WorkerSettings) (entry : Redis.Entry) : Prop :=
  entry.1 = settings.workerProcessingQueueName

theorem not_processing_ready (jobType raw : String) :
    ¬Processing settings (queueNameForJobType settings jobType, raw) :=
  settings.ready_ne_processing jobType

theorem not_processing_failed (raw : String) :
    ¬Processing settings (settings.workerFailedQueueName, raw) := settings.failed_ne_processing

theorem not_processing_delayed (raw : String) :
    ¬Processing settings (settings.workerDelayedQueueName, raw) := settings.delayed_ne_processing

section Transfer

variable {holds : Pid → Hold String Redis.Entry} {pid : Pid} {stage : Stage}

/-- The entry that a worker has in its charge is there to be removed. -/
theorem charged_entry (sound : world.Sound settings)
    (custody : Custody idOf (Processing settings) world.store.bag holds) {raw : String}
    (minds : holds pid = .minding (settings.workerProcessingQueueName, raw)) :
    (settings.workerProcessingQueueName, raw) ∈ world.store.entries := by
  obtain ⟨member, -⟩ := custody.charged_of_minding minds
  rcases Redis.Store.mem_bag.mp member with there | ⟨row, there, place⟩
  · exact there
  · have key : row.key = settings.workerProcessingQueueName := congrArg Prod.fst place
    exact absurd ((sound.delayed row there).symm.trans key) settings.delayed_ne_processing

/-- What a worker removes as its own is there, and is all that it removes. -/
theorem remove_charged (sound : world.Sound settings)
    (custody : Custody idOf (Processing settings) world.store.bag holds) {raw : String}
    (minds : holds pid = .minding (settings.workerProcessingQueueName, raw))
    {count : Nat} {store : Redis.Store}
    (effect : Redis.Effect world.store (.lrem settings.workerProcessingQueueName raw) count store) :
    count = 1 ∧ world.store.bag = (settings.workerProcessingQueueName, raw) ::ₘ store.bag := by
  cases effect with
  | removed there => exact ⟨rfl, Redis.Store.bag_erase there⟩
  | absent gone => exact absurd (charged_entry sound custody minds) gone

/-- The job is in a list or in the delayed set, or somebody has it. -/
def Known (world : QueueWorld) (holds : Pid → Hold String Redis.Entry) (id : String) : Prop :=
  id ∈ world.store.bag.map idOf ∨ ∃ other, (holds other).Has idOf id

/-- The identifier has been issued. -/
def Issued (settings : WorkerSettings) (world : QueueWorld) (id : String) : Prop :=
  ∃ number < world.issued, settings.uuid7 number = id

/-- The identifier has been issued by a step from the one world to the other. -/
def Fresh (settings : WorkerSettings) (world after : QueueWorld) (id : String) : Prop :=
  ¬Issued settings world id ∧ Issued settings after id

theorem not_issued_next (world : QueueWorld) :
    ¬Issued settings world (settings.uuid7 world.issued) := by
  rintro ⟨number, less, same⟩
  exact less.ne (settings.uuid7_injective same)

theorem fresh_of_executed {answer : String}
    (executed : Executed settings call world .uuid7 answer after) :
      Fresh settings world after answer := by
  cases executed
  exact ⟨not_issued_next world, world.issued, Nat.lt_succ_self _, rfl⟩

/-- **Each statement hands one job on.** -/
theorem transfer_of_allowed {stmt : QueueStmt} {answer : stmt.Answer}
    (sound : world.Sound settings)
    (custody : Custody idOf (Processing settings) world.store.bag holds)
    (issued : ∀ id, Known world holds id → Issued settings world id)
    (here : holds pid = stage.hold settings)
    (allowed : Allowed settings call stage stmt)
    (spared : ∀ now raws raw, stage = .scanning now raws →
      stmt = .redis .reclaimStaleProcessingJobs (.lrem settings.workerProcessingQueueName raw) →
        ∀ other, other ≠ pid →
          (holds other).charge ≠ some (settings.workerProcessingQueueName, raw))
    (executed : Executed settings call world stmt answer after) :
    Transfer idOf (Processing settings) (Fresh settings world after) world.store.bag holds pid
      after.store.bag
      ((stage.learn ⟨stmt, answer⟩).hold settings) := by
  -- A statement after which everything is where it was.
  have same : ∀ {bag : Multiset Redis.Entry} {hold : Hold String Redis.Entry},
      bag = world.store.bag → hold = stage.hold settings →
      Transfer idOf (Processing settings) (Fresh settings world after) world.store.bag holds pid
        bag hold := by
    rintro bag hold rfl rfl
    rw [← here]
    exact .same
  cases executed with
  | now caller =>
      cases allowed with
      | @dequeueTime raw =>
          refine same rfl ?_
          change ((Stage.moved raw).afterNow .dequeueJob world.clock).hold settings = _
          cases read : Job.fromJson raw with
          | error error => simp only [Stage.afterNow, read]
          | ok job =>
              simp only [Stage.afterNow, read]
              split
              · next equal => simp only [Stage.hold, equal]
              · rfl
      | retryTime => exact same rfl rfl
      | failTime => exact same rfl rfl
      | failTimeUnknown => exact same rfl rfl
      | promoteTime idle => exact same rfl (Stage.hold_of_idle settings idle).symm
      | sweepTime => exact same rfl rfl
  | uuid7 =>
      cases allowed
      have unknown : ¬Known world holds (settings.uuid7 world.issued) :=
        fun known => not_issued_next world (issued _ known)
      have executed : Executed settings call world .uuid7 _ _ := .uuid7
      exact .create here (fresh_of_executed executed)
        (fun there => unknown (.inl there)) fun other has =>
        unknown (.inr ⟨other, has⟩)
  | handle job =>
      cases allowed
      exact same rfl rfl
  | @redis caller command answer store effect =>
      cases allowed with
      | enqueue first fresh =>
          cases effect
          rw [Redis.Store.bag_cons]
          exact .put here (idOf_toJson ..) (not_processing_ready _ _)
      | dequeue known =>
          cases effect with
          | unmoved nothing => exact same rfl rfl
          | moved split last =>
              rw [Redis.Store.bag_cons]
              exact .claim here (custody.unminded (not_processing_ready _ _))
                (Redis.Store.bag_split split) rfl rfl
      | lift =>
          obtain ⟨rfl, split⟩ := remove_charged sound custody here effect
          exact .lift here split (idOf_toJson ..)
      | stamp dated =>
          cases effect
          rw [Redis.Store.bag_cons]
          exact .store here (idOf_toJson ..) rfl
      | ack =>
          obtain ⟨rfl, split⟩ := remove_charged sound custody here effect
          exact .remove here split
      | retry again =>
          obtain ⟨rfl, split⟩ := remove_charged sound custody here effect
          exact .lift here split (idOf_toJson ..)
      | @delay job error message score =>
          cases effect
          -- The set cannot have the member: its job is in hand.
          have absent : ¬world.store.sets.has settings.workerDelayedQueueName
              (job.withNextAttempt.withError message).toJson = true := by
            intro there
            refine custody.apart pid job.id (by rw [here]; rfl) ?_
            rw [Redis.Store.bag_remove there, Multiset.map_cons, idOf_toJson]
            exact Multiset.mem_cons_self _ _
          rw [Redis.Store.bag_add, Redis.Store.bag_remove_absent absent]
          exact .put here (idOf_toJson ..) (not_processing_delayed _)
      | bury last =>
          obtain ⟨rfl, split⟩ := remove_charged sound custody here effect
          exact .lift here split (idOf_toJson ..)
      | buryUnknown unknown =>
          obtain ⟨rfl, split⟩ := remove_charged sound custody here effect
          exact .lift here split (idOf_toJson ..)
      | fail sameId kind attempts dated =>
          cases effect
          rw [Redis.Store.bag_cons]
          exact .put here ((idOf_toJson ..).trans sameId) (not_processing_failed _)
      | dueJobs =>
          cases effect
          exact same rfl rfl
      | promote =>
          cases effect with
          | missing gone => exact same rfl rfl
          | taken there =>
              exact .take here (custody.unminded (not_processing_delayed _))
                (Redis.Store.bag_remove there) rfl
      | promotePush dated =>
          cases effect
          rw [Redis.Store.bag_cons]
          exact .put here rfl (not_processing_ready _ _)
      | sweep =>
          cases effect
          exact same rfl rfl
      | @reclaim now raws job read stale =>
          cases effect with
          | absent gone => exact same rfl rfl
          | removed there =>
              refine .take here (fun other minds => ?_) (Redis.Store.bag_erase there) rfl
              by_cases same : other = pid
              · rw [same, here] at minds
                cases minds
              · exact spared now raws _ rfl rfl other same minds
      | @reclaimPush now raws job =>
          cases effect
          rw [Redis.Store.bag_cons]
          have id : idOf (queueNameForJobType settings job.type,
              job.withoutProcessingStartedAt.toJson) = rawId job.toJson := by
            rw [idOf_toJson, rawId_toJson]
            rfl
          exact .put here id (not_processing_ready _ _)
      | requeue requeues =>
          cases effect with
          | empty nothing => exact same rfl rfl
          | popped split last =>
              exact .take here (custody.unminded (not_processing_failed _))
                (Redis.Store.bag_split split) rfl
      | requeuePush dated =>
          cases effect
          rw [Redis.Store.bag_cons]
          exact .put here rfl (not_processing_ready _ _)

end Transfer

/-! ## In every run -/

/-- Where each process is; a name that no process has is free. -/
def QueueConfig.stages (settings : WorkerSettings) (config : QueueConfig) : Pid → Stage :=
  Config.stages (stageWatch settings) .free config

/-- The programs keep to their stages, and all entries are texts of jobs. -/
structure QueueConfig.Ordered (settings : WorkerSettings) (config : QueueConfig) : Prop where
  watched : Config.Watched (stageWatch settings) config
  sound : config.world.Sound settings

theorem QueueConfig.Ordered.initial (clock : Timestamp) :
    QueueConfig.Ordered settings (.initial (.start .empty clock)) where
  watched := .initial _ _
  sound := .empty clock

/-- **Order is kept** by every step, whoever stops. -/
theorem QueueConfig.Ordered.step {before after : QueueConfig} {action : Action QueueCall}
    (ordered : QueueConfig.Ordered settings before)
    (taken : Step (queueMachine settings) before action after) :
    QueueConfig.Ordered settings after where
  watched := by
    refine ordered.watched.step taken perform_along ?_
    rintro pid call stmt next log answer world rfl running executed
    exact ordered.sound.possible (executed_of_exec executed)
  sound := by
    cases ordered.watched.staged taken .free with
    | start idle world stages => exact world ▸ ordered.sound
    | issue running allowed executed stages =>
        exact ordered.sound.executed allowed (executed_of_exec executed)
    | finish met world stages => exact world ▸ ordered.sound
    | stop world stages => exact world ▸ ordered.sound
    | ambient changed stages =>
        obtain ⟨clock, -, same⟩ := changed
        rw [same]
        exact ⟨ordered.sound.texts, ordered.sound.queues, ordered.sound.delayed⟩

/-- What a step does: a statement that is allowed, or nothing but that somebody sets out or
leaves. -/
inductive Turn (settings : WorkerSettings) (before after : QueueConfig) : Action
    QueueCall → Prop where
  | quiet {action : Action QueueCall} (store : after.world.store = before.world.store)
      (issued : after.world.issued = before.world.issued)
      (history : after.world.history = before.world.history)
      (stages : ∀ pid, QueueConfig.stages settings after pid =
        QueueConfig.stages settings before pid ∨ QueueConfig.stages settings after pid = .free) :
      Turn settings before after action
  | issue {pid : Pid} {call : QueueCall} {stmt : QueueStmt} {next : stmt.Answer →
      QueueM QueueResult}
      {log : List (Event QueueOps)} {answer : stmt.Answer}
      (running : before.running pid = some ⟨call, .call stmt next, log⟩)
      (allowed : Allowed settings call (QueueConfig.stages settings before pid) stmt)
      (executed : Executed settings call before.world stmt answer after.world)
      (stages : QueueConfig.stages settings after =
        Function.update (QueueConfig.stages settings before) pid
          ((QueueConfig.stages settings before pid).learn ⟨stmt, answer⟩)) :
      Turn settings before after (.issue pid)

theorem QueueConfig.Ordered.turn {before after : QueueConfig} {action : Action QueueCall}
    (ordered : QueueConfig.Ordered settings before)
    (taken : Step (queueMachine settings) before action after) :
      Turn settings before after action := by
  have moved : ∀ {pid : Pid}, after.world = before.world →
      QueueConfig.stages settings after =
        Function.update (QueueConfig.stages settings before) pid .free →
      Turn settings before after action := by
    intro pid world stages
    refine .quiet (world ▸ rfl) (world ▸ rfl) (world ▸ rfl) fun other => ?_
    rw [stages]
    by_cases same : other = pid
    · rw [same, Function.update_self]
      exact .inr rfl
    · rw [Function.update_of_ne same]
      exact .inl rfl
  cases ordered.watched.staged taken .free with
  | start idle world stages => exact moved world stages
  | finish met world stages => exact moved world stages
  | stop world stages => exact moved world stages
  | issue running allowed executed stages =>
      exact .issue running allowed (executed_of_exec executed) stages
  | ambient changed stages =>
      obtain ⟨clock, -, same⟩ := changed
      have still : QueueConfig.stages settings after = QueueConfig.stages settings before := stages
      exact .quiet (same ▸ rfl) (same ▸ rfl) (same ▸ rfl) fun pid => .inl (congrFun still pid)

/-! ## A queue to try things on -/

theorem replicate_injective :
    Function.Injective fun number => String.ofList (List.replicate (number + 1) 'a') := by
  intro first second same
  have chars := String.ofList_injective same
  simpa using congrArg List.length chars

/-- The settings as they are by default; the identifiers differ in their length. -/
def plainSettings : WorkerSettings := .byDefault _ replicate_injective

theorem newYear_from1 : (-62135596800000000 : Int) ≤ 1767225600000000 := by decide

theorem newYear_to9999 : (1767225600000000 : Int) < 253402300800000000 := by decide

/-- The beginning of 2026. -/
def newYear : Timestamp := ⟨1767225600000000, newYear_from1, newYear_to9999⟩

/-- An email for a user who has forgotten their password. -/
def resetEmail : QueueCall :=
  .enqueueJob "send_password_reset_email" ⟨[("user_id", .int 7)], rfl⟩ none

/-- An empty Redis at the turn of a year. -/
def beforeAll : QueueConfig := .initial (.start .empty newYear)

end AppointmentVoice.Queue
