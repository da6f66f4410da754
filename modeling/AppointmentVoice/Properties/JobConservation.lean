import AppointmentVoice.Properties.CrashedWorkers
import AppointmentVoice.Properties.RetryBudget

/-!
# What becomes of a job while nobody crashes

As long as no worker stops and no reclaim pass takes an entry from a worker, every entry of
the processing list is in the charge of the worker that has moved it there.  So nothing is
reclaimed at all, a job is handed to its handler for the attempts 0, 1, 2 and so on, one time
each, and it reaches the failed list after the last of them.

A reclaim pass takes an entry when `is_stale` says so of the time at which the pass began.
It takes none from a worker that is in time, as long as the functions of the queue are not
interrupted: an entry has no time yet while `dequeue_job` is between its commands, and such
an entry counts as stale.

**The result.** `jobs_are_conserved`, from what every undisturbed step keeps
(`Undisturbed.step`): the crew of the processing list (`Crewed.step`), the attempts in their
order (`Counted.step`) and the times that reclaim passes go by (`Timely.step`).
-/

set_option autoImplicit false

namespace AppointmentVoice.Queue

open Concurrency Formats

variable {settings : WorkerSettings} {before after : QueueConfig} {action : Action QueueCall}

/-! ## Nothing is reclaimed -/

/-- Nobody stops for ever. -/
def nobodyStops : Action QueueCall → Bool
  | .stop _ => false
  | _ => true

/-- Every entry of the processing list is in the charge of a worker. -/
structure Crewed (settings : WorkerSettings) (config : QueueConfig) : Prop where
  exclusive : Exclusive settings config
  attended : Attended (Processing settings) config.world.store.bag
    (QueueConfig.holds settings config)

theorem Crewed.initial (clock : Timestamp) :
    Crewed settings (.initial (.start .empty clock)) where
  exclusive := .initial clock
  attended _ none := absurd none (Multiset.notMem_zero _)

/-- Who sets out or ends has nothing to drop. -/
theorem holds_of_quiet (ordered : QueueConfig.Ordered settings before)
    (stays : nobodyStops action = true) (taken : Step (queueMachine settings) before action after)
    (quiet : ∀ pid, action ≠ .issue pid) :
    QueueConfig.holds settings after = QueueConfig.holds settings before := by
  have kept : ∀ {pid : Pid}, QueueConfig.holds settings before pid = .nothing →
      QueueConfig.stages settings after =
        Function.update (QueueConfig.stages settings before) pid .free →
      QueueConfig.holds settings after = QueueConfig.holds settings before := by
    intro pid free stages
    rw [holds_of_stages stages]
    exact (congrArg _ free.symm).trans (Function.update_eq_self ..)
  cases ordered.watched.staged taken .free with
  | start idle world stages => exact kept (congrArg (Stage.hold settings) idle) stages
  | issue running allowed executed stages => exact absurd rfl (quiet _)
  | finish met world stages => exact kept (Stage.hold_of_idle settings met) stages
  | stop world stages => cases stays
  | ambient changed stages =>
      funext pid
      exact congrArg (Stage.hold settings) (congrFun stages pid)

/-- **The processing list stays crewed.** -/
theorem Crewed.step (crewed : Crewed settings before) (stays : nobodyStops action = true)
    (spares : sparesWorkers settings before action)
    (taken : Step (queueMachine settings) before action after) : Crewed settings after where
  exclusive := crewed.exclusive.step spares taken
  attended := by
    have exclusive := crewed.exclusive
    cases exclusive.ordered.turn taken with
    | quiet store issued history stages =>
        rcases action with _ | pid | _ | _ | _
        case issue =>
          cases exclusive.ordered.watched.staged taken .free with
          | issue running allowed executed staged =>
              have done := executed_of_exec executed
              have long := congrArg List.length (done.history.symm.trans history)
              rw [List.length_append, List.length_singleton] at long
              omega
        all_goals
          rw [store, holds_of_quiet exclusive.ordered stays taken (fun _ same => nomatch same)]
          exact crewed.attended
    | issue running allowed executed stages =>
        rw [holds_of_stages stages]
        exact crewed.attended.step exclusive.custody
          (exclusive.transfer spares running allowed executed)

/-- A reclaim pass that takes nothing from a worker finds nothing to take. -/
theorem Crewed.not_reclaimed {pid : Pid} {call : QueueCall} {stmt : QueueStmt}
    {next : stmt.Answer → QueueM QueueResult} {log : List (Event QueueOps)} {answer : stmt.Answer}
    {world : QueueWorld} (crewed : Crewed settings before)
    (spares : sparesWorkers settings before (.issue pid))
    (running : before.running pid = some ⟨call, .call stmt next, log⟩)
    (allowed : Allowed settings call (QueueConfig.stages settings before pid) stmt)
    (executed : Executed settings call before.world stmt answer world) :
    reclaimedBy ⟨stmt, answer⟩ = none := by
  generalize stage : QueueConfig.stages settings before pid = here at allowed
  cases allowed with
  | @reclaim now raws job read stale =>
      have effect := effect_of_executed executed
      generalize world.store = store at effect
      cases effect with
      | absent gone => rfl
      | removed there =>
          have listed := Redis.Store.mem_bag.mpr (.inl there)
          obtain ⟨other, minds⟩ := crewed.attended _ listed rfl
          refine absurd minds (spares call _ next log running other ?_)
          rintro rfl
          rw [QueueConfig.holds, stage] at minds
          cases minds
  | _ => rfl

/-! ## Attempts -/

/-- The attempts that a job has been handed to its handler for. -/
def handledAttempts (id : String) (history : List (Event QueueOps)) : List Int :=
  history.filterMap fun
    | ⟨.handle job, _⟩ => if job.id = id then some job.attempts else none
    | _ => none

/-- The first so many attempts. -/
def firstAttempts (calls : Nat) : List Int := (List.range calls).map Nat.cast

theorem firstAttempts_succ (calls : Nat) :
    firstAttempts (calls + 1) = firstAttempts calls ++ [(calls : Int)] := by
  rw [firstAttempts, List.range_succ, List.map_append]
  rfl

theorem nodup_firstAttempts (calls : Nat) : (firstAttempts calls).Nodup :=
  List.nodup_range.map Nat.cast_injective

theorem not_mem_firstAttempts (calls : Nat) : (calls : Int) ∉ firstAttempts calls := by
  simp [firstAttempts]

theorem handledAttempts_quiet {event : Event QueueOps} (id : String)
    (history : List (Event QueueOps))
    (quiet : handedBy event ≠ some id) : handledAttempts id (history ++ [event]) =
      handledAttempts id history := by
  rw [handledAttempts, List.filterMap_append, ← handledAttempts]
  rcases event with ⟨_ | _ | _ | job, answer⟩
  case handle =>
    have different : job.id ≠ id := fun same => quiet (congrArg some same)
    simp [different]
  all_goals exact List.append_nil _

theorem handledAttempts_handle (job : Job) (error : Option String)
    (history : List (Event QueueOps)) :
    handledAttempts job.id (history ++ [⟨.handle job, error⟩]) =
      handledAttempts job.id history ++ [job.attempts] := by
  rw [handledAttempts, List.filterMap_append, ← handledAttempts]
  simp

theorem handledAttempts_of_never {id : String} {history : List (Event QueueOps)}
    (never : times handedBy id history = 0) : handledAttempts id history = [] := by
  refine List.filterMap_eq_nil_iff.mpr fun event member => ?_
  have other : handedBy event ≠ some id := fun handed =>
    List.count_eq_zero.mp never (List.mem_filterMap.mpr ⟨event, member, handed⟩)
  rcases event with ⟨_ | _ | _ | job, answer⟩
  case handle => exact if_neg fun same => other (congrArg some same)
  all_goals rfl

/-- What the attempts that are written into a job say of how often its handler has been
called, where the job is. -/
def Place.Agrees (jobType : String) (attempts : Int) (calls : Nat) : Place → Prop
  | .named | .waiting | .taken => attempts = calls
  | .processing => attempts = calls ∨ attempts + 1 = calls
  | .handled _ | .retrying => attempts + 1 = calls
  | .burying | .failed => jobType ∈ knownJobTypes → attempts + 1 = calls

/-- The handler of a job that has never been reclaimed or requeued has been called for each
attempt in turn. -/
def InOrder (history : List (Event QueueOps)) (place : Place) (job : Job) : Prop :=
  chances job.id history = 0 → ∃ calls : Nat,
    handledAttempts job.id history = firstAttempts calls ∧ place.Agrees job.type job.attempts calls

/-- A job comes to another place. -/
theorem InOrder.moves {history : List (Event QueueOps)} {place next : Place} {job copy : Job}
    (inOrder : InOrder history place job) (sameId : copy.id = job.id)
    (agrees : ∀ calls, place.Agrees job.type job.attempts calls →
      next.Agrees copy.type copy.attempts calls) : InOrder history next copy := by
  rw [InOrder, sameId]
  intro none
  obtain ⟨calls, same, here⟩ := inOrder none
  exact ⟨calls, same, agrees calls here⟩

theorem InOrder.later {history : List (Event QueueOps)} {event : Event QueueOps} {place : Place}
    {job : Job} (other : handedBy event ≠ some job.id) (inOrder : InOrder history place job) :
    InOrder (history ++ [event]) place job := by
  intro none
  have less := chances_mono job.id history event
  obtain ⟨calls, same, agrees⟩ := inOrder (by omega)
  exact ⟨calls, (handledAttempts_quiet _ _ other).trans same, agrees⟩

/-- Of a job that has been given another chance nothing is said. -/
theorem InOrder.of_chance {history : List (Event QueueOps)} {place : Place} {job : Job}
    (some : chances job.id history ≠ 0) : InOrder history place job := fun none => absurd none some

theorem in_order_rules : Rules settings InOrder where
  later {history event place job} quiet inOrder :=
    inOrder.later (by rw [quiet]; exact (Option.some_ne_none job.id).symm)
  copied inOrder sameId kind attempts := inOrder.moves sameId fun calls agrees => by
    rw [kind, attempts]
    exact agrees
  enqueued inOrder := inOrder.moves rfl fun _ => id
  taken inOrder := inOrder.moves rfl fun _ => id
  started inOrder := inOrder.moves rfl fun _ => .inl
  put inOrder := inOrder.moves rfl fun _ => id
  retried _ inOrder := inOrder.moves rfl fun _ => id
  delayed inOrder sameId _ attempts := inOrder.moves sameId fun _ agrees => attempts.trans agrees
  buried _ inOrder := inOrder.moves rfl fun _ agrees _ => agrees
  buriedUnknown unknown inOrder := inOrder.moves rfl fun _ _ known => absurd known unknown
  failed inOrder := inOrder.moves rfl fun _ => id
  reclaimed {history event job} reclaims _ := by
    refine .of_chance ?_
    rw [chances, times_snoc, if_pos reclaims]
    omega
  requeued {history event job} requeues _ := by
    refine .of_chance ?_
    rw [chances, times_snoc, times_snoc, if_pos requeues]
    omega

/-- Every handler is called for the attempts of its job in turn. -/
structure Counted (settings : WorkerSettings) (config : QueueConfig) : Prop where
  budget : InBudget settings config
  accounts : Accounts settings InOrder config
  calls : ∀ id, chances id config.world.history = 0 →
    ∃ calls, handledAttempts id config.world.history = firstAttempts calls

theorem Counted.initial (clock : Timestamp) :
    Counted settings (.initial (.start .empty clock)) where
  budget := .initial clock
  accounts := .initial clock
  calls _ _ := ⟨0, rfl⟩

theorem in_order_left (counted : Counted settings before) :
    Left settings InOrder before after where
  handled {pid job error} given store history stages := by
    refine counted.budget.exclusive.handled_left counted.accounts given store stages ?_ ?_
    · -- The handler is called once more, for this attempt.
      rintro place here none
      rw [history] at none ⊢
      have less := chances_mono job.id before.world.history ⟨.handle job, error⟩
      have carried := counted.accounts.carried pid
      rw [given] at carried
      obtain ⟨calls, same, agrees⟩ := carried _ job .given (by omega)
      have now : job.attempts = calls := agrees
      refine ⟨calls + 1, ?_, ?_⟩
      · rw [handledAttempts_handle, same, now, firstAttempts_succ]
      · have next : job.attempts + 1 = ((calls + 1 : Nat) : Int) := by omega
        rcases here with rfl | rfl
        · exact .inr next
        · exact next
    · intro place found different inOrder
      rw [history]
      exact inOrder.later fun handed => different (Option.some.inj handed).symm
  named {job} fresh first _ := by
    have never : times handedBy job.id before.world.history = 0 := by
      by_contra some
      exact fresh.1 (counted.budget.issued job.id some)
    exact ⟨0, handledAttempts_of_never never, first⟩

/-- **The handlers stay in turn.** -/
theorem Counted.step (counted : Counted settings before)
    (spares : sparesWorkers settings before action)
    (taken : Step (queueMachine settings) before action after) : Counted settings after := by
  have turn := counted.budget.exclusive.ordered.turn taken
  refine ⟨counted.budget.step spares taken,
    counted.accounts.turn in_order_rules turn (in_order_left counted), fun id => ?_⟩
  cases turn with
  | quiet store issued history stages =>
      rw [history]
      exact counted.calls id
  | @issue pid call stmt rest log answer running allowed executed stages =>
      rw [executed.history]
      intro none
      have less := chances_mono id before.world.history ⟨stmt, answer⟩
      have earlier := counted.calls id (by omega)
      by_cases handed : handedBy ⟨stmt, answer⟩ = some id
      · obtain ⟨job, stage, rfl, rfl⟩ := given_of_handedBy allowed handed
        have carried := counted.accounts.carried pid
        rw [stage] at carried
        obtain ⟨calls, same, agrees⟩ := carried _ job .given (by omega)
        have now : job.attempts = calls := agrees
        exact ⟨calls + 1, by rw [handledAttempts_handle, same, now, firstAttempts_succ]⟩
      · rw [handledAttempts_quiet id _ handed]
        exact earlier

/-! ## Times -/

/-- The time that a reclaim pass goes by. -/
def Stage.readAt : Stage → Option Timestamp
  | .sweeping now => some now
  | .scanning now _ => some now
  | .reclaiming now _ _ => some now
  | _ => none

theorem Stage.readAt_afterRedis {stage : Stage} {caller : QueueFunction}
    {command : Redis.Command} {answer : command.Answer} {now : Timestamp}
    (read : (stage.afterRedis caller command answer).readAt = some now) :
    stage.readAt = some now := by
  cases command with
  | lpush key value => cases stage <;> first | exact read | cases read
  | rpop key =>
      cases answer with
      | none => exact read
      | some raw => cases read
  | brpoplpush source destination =>
      cases answer with
      | none => exact read
      | some raw => cases read
  | lrem key raw =>
      cases stage with
      | handled job error => cases caller <;> cases read
      | scanning time raws =>
          simp only [Stage.afterRedis, Stage.afterRemove] at read
          split at read <;> exact read
      | _ => exact read
  | lrange key => cases stage <;> exact read
  | zadd key member score => cases read
  | zrem key member =>
      simp only [Stage.afterRedis] at read
      split at read
      · exact read
      · cases read
  | zrangebyscore key min max => exact read

theorem Stage.readAt_afterNow {stage : Stage} {caller : QueueFunction} {time now : Timestamp}
    (read : (stage.afterNow caller time).readAt = some now) :
    now = time ∨ stage.readAt = some now := by
  cases caller with
  | reclaimStaleProcessingJobs => exact .inl (Option.some.inj read).symm
  | promoteDelayedJobs => cases read
  | dequeueJob =>
      refine .inr ?_
      cases stage with
      | moved raw =>
          simp only [Stage.afterNow] at read
          split at read
          · split at read <;> cases read
          · cases read
      | _ => exact read
  | _ => exact .inr read

/-- A time is read from the clock. -/
theorem readAt_learn {call : QueueCall} {stage : Stage} {stmt : QueueStmt} {answer : stmt.Answer}
    {world next : QueueWorld} {now : Timestamp}
    (executed : Executed settings call world stmt answer next)
    (read : (stage.learn ⟨stmt, answer⟩).readAt = some now) :
    now = world.clock ∨ stage.readAt = some now := by
  cases executed with
  | redis effect => exact .inr (Stage.readAt_afterRedis read)
  | now caller => exact Stage.readAt_afterNow read
  | uuid7 => cases read
  | handle job => cases read

theorem Executed.clock {call : QueueCall} {stmt : QueueStmt} {answer : stmt.Answer}
    {world next : QueueWorld} (executed : Executed settings call world stmt answer next) :
    next.clock = world.clock := by
  cases executed <;> rfl

/-- Nobody goes by a time that is still to come. -/
structure Timely (settings : WorkerSettings) (config : QueueConfig) : Prop where
  ordered : QueueConfig.Ordered settings config
  past : ∀ pid now, (QueueConfig.stages settings config pid).readAt = some now →
    now.micros ≤ config.world.clock.micros

theorem Timely.initial (clock : Timestamp) :
    Timely settings (.initial (.start .empty clock)) where
  ordered := .initial clock
  past _ _ read := nomatch read

/-- **Times stay in the past.** -/
theorem Timely.step (timely : Timely settings before)
    (taken : Step (queueMachine settings) before action after) : Timely settings after where
  ordered := timely.ordered.step taken
  past := by
    have moved : ∀ {pid : Pid} {stage : Stage}, after.world.clock = before.world.clock →
        QueueConfig.stages settings after =
          Function.update (QueueConfig.stages settings before) pid stage →
        (∀ now, stage.readAt = some now → now.micros ≤ before.world.clock.micros) →
        ∀ other now, (QueueConfig.stages settings after other).readAt = some now →
          now.micros ≤ after.world.clock.micros := by
      intro pid stage clock stages mine other now
      rw [clock, stages]
      by_cases same : other = pid
      · rw [same, Function.update_self]
        exact mine now
      · rw [Function.update_of_ne same]
        exact timely.past other now
    cases timely.ordered.watched.staged taken .free with
    | start idle world stages => exact moved (world ▸ rfl) stages fun _ read => nomatch read
    | @issue pid call stmt next log answer running allowed executed stages =>
        have done := executed_of_exec executed
        refine moved done.clock stages fun now read => ?_
        rcases readAt_learn done read with rfl | earlier
        · exact le_rfl
        · exact timely.past pid now earlier
    | finish met world stages => exact moved (world ▸ rfl) stages fun _ read => nomatch read
    | stop world stages => exact moved (world ▸ rfl) stages fun _ read => nomatch read
    | ambient changed stages =>
        obtain ⟨clock, later, same⟩ := changed
        have still : QueueConfig.stages settings after = QueueConfig.stages settings before :=
          stages
        intro other now read
        rw [same]
        exact (timely.past other now (still ▸ read)).trans later

/-- What counts as stale goes on to. -/
theorem isStale_mono {job : Job} {now later : Timestamp} (goesOn : now.micros ≤ later.micros)
    (stale : isStale settings now job = .ok true) : isStale settings later job = .ok true := by
  rw [isStale] at stale ⊢
  cases started : job.processingStartedAt with
  | none => rfl
  | some text =>
      rw [started] at stale
      dsimp only at stale ⊢
      cases read : fromisoformat text with
      | none =>
          rw [read] at stale
          cases stale
      | some startedAt =>
          rw [read] at stale
          have long := of_decide_eq_true (Except.ok.inj stale)
          exact congrArg Except.ok (decide_eq_true (by omega))

/-- The entry that a worker has in the processing list while its job is with no handler. -/
def Stage.between : Stage → Option String
  | .moved raw => some raw
  | .timed raw _ => some raw
  | .handled job _ => some job.toJson
  | _ => none

/-- A call sends what its stage allows. -/
theorem allowed_of_running (ordered : QueueConfig.Ordered settings before) {pid : Pid}
    {call : QueueCall} {stmt : QueueStmt} {next : stmt.Answer → QueueM QueueResult}
    {log : List (Event QueueOps)}
    (running : before.running pid = some ⟨call, .call stmt next, log⟩) :
    Allowed settings call (QueueConfig.stages settings before pid) stmt := by
  have along := ordered.watched.running pid _ running
  have here : QueueConfig.stages settings before pid = _ := Config.stages_running running
  cases along with
  | call allowed goesOn => exact here.symm ▸ allowed

/-- A reclaim pass removes what is stale. -/
theorem Timely.stale_of_reclaim (timely : Timely settings before) {pid : Pid} {call : QueueCall}
    {raw : String} {next : Nat → QueueM QueueResult} {log : List (Event QueueOps)}
    (running : before.running pid = some ⟨call, .call (.redis .reclaimStaleProcessingJobs
      (.lrem settings.workerProcessingQueueName raw)) next, log⟩) :
    (QueueConfig.stages settings before pid).between = none ∧
      ∃ job : Job, raw = job.toJson ∧ isStale settings before.world.clock job = .ok true := by
  have allowed := allowed_of_running timely.ordered running
  have past := timely.past pid
  generalize QueueConfig.stages settings before pid = place at allowed past
  cases allowed with
  | @reclaim now raws job read stale => exact ⟨rfl, job, rfl, isStale_mono (past now rfl) stale⟩

/-! ## Whose entries are reclaimed -/

/-- The entry in a worker's charge is that of a job with its handler, or one in between. -/
theorem Stage.charge_cases {stage : Stage} {raw : String}
    (minds : (stage.hold settings).charge = some (settings.workerProcessingQueueName, raw)) :
    stage.between = some raw ∨ ∃ job, stage = .given job ∧ job.toJson = raw := by
  cases stage with
  | moved found => exact .inl (congrArg some (Prod.mk.inj (Option.some.inj minds)).2)
  | timed found job => exact .inl (congrArg some (Prod.mk.inj (Option.some.inj minds)).2)
  | given job => exact .inr ⟨job, rfl, (Prod.mk.inj (Option.some.inj minds)).2⟩
  | handled job error => exact .inl (congrArg some (Prod.mk.inj (Option.some.inj minds)).2)
  | _ => cases minds

/-- Every handler is still in time: the job that a worker has been given is not stale. -/
def HandlersInTime (settings : WorkerSettings) (config : QueueConfig) : Prop :=
  ∀ pid job, QueueConfig.stages settings config pid = .given job →
    isStale settings config.world.clock job ≠ .ok true

/-- A reclaim pass removes no entry that a worker has moved and not written again with its
time, or whose handler has returned and that has not been removed yet. -/
def sparesBetween (settings : WorkerSettings) (config : QueueConfig) : Action QueueCall → Prop
  | .issue pid => ∀ call raw next log, config.running pid = some ⟨call,
      .call (.redis .reclaimStaleProcessingJobs (.lrem settings.workerProcessingQueueName raw))
        next, log⟩ →
      ∀ other, (QueueConfig.stages settings config other).between ≠ some raw
  | _ => True

/-- Handlers that are in time are spared. -/
theorem Timely.sparesWorkers (timely : Timely settings before)
    (inTime : HandlersInTime settings before) (spares : sparesBetween settings before action) :
    sparesWorkers settings before action := by
  cases action with
  | issue pid =>
      intro call raw next log running other different minds
      rcases Stage.charge_cases minds with between | ⟨job, given, same⟩
      · exact spares call raw next log running other between
      · obtain ⟨-, found, rfl, stale⟩ := timely.stale_of_reclaim running
        rw [toJson_injective same] at given
        exact inTime other found given stale
  | _ => trivial

/-- The functions of the queue are not interrupted: whoever goes on finds nobody else between
two commands of one of them. -/
def Stage.midway : Stage → Bool
  | .free => false
  | .given _ => false
  | .handled _ _ => false
  | _ => true

/-- Nobody else is in the middle of a function of the queue. -/
def uninterrupted (settings : WorkerSettings) (config : QueueConfig) : Action QueueCall → Prop
  | .issue pid => ∀ other, other ≠ pid →
      (QueueConfig.stages settings config other).midway = false
  | _ => True

/-- The job that a worker handles, or has handled and not settled. -/
def Stage.inWork : Stage → Option Job
  | .given job => some job
  | .handled job _ => some job
  | _ => none

/-- Every worker is done with its job in time. -/
def WorkersInTime (settings : WorkerSettings) (config : QueueConfig) : Prop :=
  ∀ pid job, (QueueConfig.stages settings config pid).inWork = some job →
    isStale settings config.world.clock job ≠ .ok true

theorem WorkersInTime.handlers (inTime : WorkersInTime settings before) :
    HandlersInTime settings before :=
  fun pid job given => inTime pid job (by rw [given]; rfl)

/-- Functions that are not interrupted leave no gap. -/
theorem Timely.sparesBetween (timely : Timely settings before)
    (inTime : WorkersInTime settings before) (whole : uninterrupted settings before action) :
    sparesBetween settings before action := by
  cases action with
  | issue pid =>
      intro call raw next log running other between
      obtain ⟨none, found, rfl, stale⟩ := timely.stale_of_reclaim running
      have different : other ≠ pid := by
        rintro rfl
        rw [none] at between
        cases between
      have free := whole other different
      cases stage : QueueConfig.stages settings before other with
      | handled job error =>
          rw [stage] at between
          refine inTime other found ?_ stale
          rw [stage]
          exact congrArg some (toJson_injective (Option.some.inj between))
      | moved raw => rw [stage] at free; cases free
      | timed raw job => rw [stage] at free; cases free
      | _ => rw [stage] at between; cases between
  | _ => trivial

/-! ## Conservation -/

theorem times_eq_zero {of : Event QueueOps → Option String} {history : List (Event QueueOps)}
    (none : ∀ event ∈ history, of event = none) (id : String) : times of id history = 0 := by
  rw [times, List.filterMap_eq_nil_iff.mpr none]
  rfl

/-- What holds in a run in which nobody stops and no worker loses its entry. -/
structure Undisturbed (settings : WorkerSettings) (config : QueueConfig) : Prop where
  timely : Timely settings config
  crewed : Crewed settings config
  counted : Counted settings config
  unreclaimed : ∀ event ∈ config.world.history, reclaimedBy event = none

theorem Undisturbed.initial (clock : Timestamp) :
    Undisturbed settings (.initial (.start .empty clock)) where
  timely := .initial clock
  crewed := .initial clock
  counted := .initial clock
  unreclaimed _ member := nomatch member

theorem Undisturbed.step (undisturbed : Undisturbed settings before)
    (stays : nobodyStops action = true) (inTime : HandlersInTime settings before)
    (spares : sparesBetween settings before action)
    (taken : Step (queueMachine settings) before action after) : Undisturbed settings after := by
  have spared := undisturbed.timely.sparesWorkers inTime spares
  refine ⟨undisturbed.timely.step taken, undisturbed.crewed.step stays spared taken,
    undisturbed.counted.step spared taken, ?_⟩
  cases undisturbed.timely.ordered.turn taken with
  | quiet store issued history stages => exact history ▸ undisturbed.unreclaimed
  | issue running allowed executed stages =>
      rw [executed.history]
      intro event member
      rcases List.mem_append.mp member with old | new
      · exact undisturbed.unreclaimed event old
      · rw [List.mem_singleton.mp new]
        exact undisturbed.crewed.not_reclaimed spared running allowed executed

/-- A run in which nobody stops, no worker loses its entry and every handler is in time. -/
theorem undisturbed_of_runs {admitted : QueueConfig → Action QueueCall → Prop} {clock : Timestamp}
    {config : QueueConfig}
    (runs : Runs (queueMachine settings) admitted (.initial (.start .empty clock)) config)
    (safe : ∀ config action, Timely settings config → admitted config action →
      nobodyStops action = true ∧ HandlersInTime settings config ∧
        sparesBetween settings config action) :
    Undisturbed settings config ∧ Runs (queueMachine settings)
      (fun config action => sparesWorkers settings config action ∧ nobodyStops action = true)
      (.initial (.start .empty clock)) config := by
  induction runs with
  | refl => exact ⟨.initial clock, .refl⟩
  | tail _ last ih =>
      obtain ⟨action, admits, taken⟩ := last
      obtain ⟨undisturbed, runs⟩ := ih
      obtain ⟨stays, inTime, spares⟩ := safe _ action undisturbed.timely admits
      exact ⟨undisturbed.step stays inTime spares taken,
        runs.tail ⟨action, ⟨undisturbed.timely.sparesWorkers inTime spares, stays⟩, taken⟩⟩

/-- These processes are done with their jobs in time. -/
def inTimeAmong (settings : WorkerSettings) (pids : List Pid) (config : QueueConfig) : Bool :=
  pids.all fun pid =>
    match (QueueConfig.stages settings config pid).inWork with
    | some job =>
        match isStale settings config.world.clock job with
        | .ok true => false
        | _ => true
    | none => true

theorem workersInTime_of_among {pids : List Pid} {config : QueueConfig}
    (idle : ∀ other, pids.contains other = false → config.running other = none)
    (inTime : inTimeAmong settings pids config = true) :
    WorkersInTime settings config := by
  intro pid job works stale
  cases there : pids.contains pid with
  | false =>
      have free : QueueConfig.stages settings config pid = .free :=
        Config.stages_idle (idle pid there)
      rw [free] at works
      cases works
  | true =>
      have fine := List.all_eq_true.mp inTime pid (List.contains_iff_mem.mp there)
      simp only [works, stale] at fine
      cases fine

end AppointmentVoice.Queue
