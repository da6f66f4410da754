import AppointmentVoice.Concurrency.Histories
import AppointmentVoice.Queue.Places

/-!
# One worker for each job

The reclaim pass hands a job on that a worker has begun long ago.  As long as it takes
nothing from a worker that goes on, every job is at one place, whichever workers crash and
whatever is promoted, reclaimed and requeued meanwhile: no two workers have the same job, a
worker finds what it removes as its own, a job is handed to a handler again only after it
has been put off, given up or reclaimed, and never again once it is acknowledged.

**The results.** Every step keeps every job at one place (`Exclusive.step`) and the deliveries
in turn (`Delivery.step`), so that every run does: `every_job_is_at_one_place`,
`delivered_again_only_when_released`, `acknowledgement_is_final`.
-/

set_option autoImplicit false

namespace AppointmentVoice.Queue

open Concurrency Formats

variable {settings : WorkerSettings} {before after : QueueConfig} {action : Action QueueCall}

/-! ## Runs in which workers are spared -/

/-- What each process has of the jobs. -/
def QueueConfig.holds (settings : WorkerSettings) (config : QueueConfig) (pid : Pid) :
    Hold String Redis.Entry :=
  (QueueConfig.stages settings config pid).hold settings

/-- A reclaim pass removes no entry that another process has in its charge. -/
def sparesWorkers (settings : WorkerSettings) (config : QueueConfig) : Action QueueCall → Prop
  | .issue pid => ∀ call raw next log, config.running pid = some ⟨call,
      .call (.redis .reclaimStaleProcessingJobs (.lrem settings.workerProcessingQueueName raw))
        next,
      log⟩ →
      ∀ other, other ≠ pid → (QueueConfig.holds settings config other).charge ≠
        some (settings.workerProcessingQueueName, raw)
  | _ => True

/-- Every job is at one place, by an identifier that has been issued. -/
structure Exclusive (settings : WorkerSettings) (config : QueueConfig) : Prop where
  ordered : QueueConfig.Ordered settings config
  custody : Custody idOf (Processing settings) config.world.store.bag
    (QueueConfig.holds settings config)
  issued : ∀ id, Known config.world (QueueConfig.holds settings config) id →
    Issued settings config.world id

theorem Exclusive.initial (clock : Timestamp) :
    Exclusive settings (.initial (.start .empty clock)) where
  ordered := .initial clock
  custody := .initial
  issued id known := by
    rcases known with there | ⟨other, has⟩
    · exact absurd there (Multiset.notMem_zero _)
    · exact absurd has (Hold.not_has_nothing id)

theorem issued_of_executed {call : QueueCall} {stmt : QueueStmt} {answer : stmt.Answer}
    {world next : QueueWorld} (executed : Executed settings call world stmt answer next)
    {id : String}
    (issued : Issued settings world id) : Issued settings next id := by
  obtain ⟨number, less, same⟩ := issued
  have more : world.issued ≤ next.issued := by
    cases executed with
    | uuid7 => exact Nat.le_succ _
    | _ => exact le_rfl
  exact ⟨number, less.trans_le more, same⟩

/-- The holds after a statement. -/
theorem holds_of_stages {pid : Pid} {stage : Stage}
    (stages : QueueConfig.stages settings after =
      Function.update (QueueConfig.stages settings before) pid stage) :
    QueueConfig.holds settings after =
      Function.update (QueueConfig.holds settings before) pid (stage.hold settings) := by
  funext other
  rw [QueueConfig.holds, stages]
  by_cases same : other = pid
  · rw [same, Function.update_self, Function.update_self]
  · rw [Function.update_of_ne same, Function.update_of_ne same]
    rfl

/-- What a process had before others started, ended or stopped. -/
theorem has_of_quiet
    (stages : ∀ pid, QueueConfig.stages settings after pid = QueueConfig.stages
      settings before pid ∨
      QueueConfig.stages settings after pid = .free) (pid : Pid) :
    QueueConfig.holds settings after pid = QueueConfig.holds settings before pid ∨
      QueueConfig.holds settings after pid = .nothing :=
  (stages pid).imp (congrArg (Stage.hold settings)) (congrArg (Stage.hold settings))

theorem Exclusive.transfer {pid : Pid} {call : QueueCall} {stmt : QueueStmt}
    {next : stmt.Answer → QueueM QueueResult} {log : List (Event QueueOps)} {answer : stmt.Answer}
    (exclusive : Exclusive settings before) (spares : sparesWorkers settings before (.issue pid))
    (running : before.running pid = some ⟨call, .call stmt next, log⟩)
    (allowed : Allowed settings call (QueueConfig.stages settings before pid) stmt)
    (executed : Executed settings call before.world stmt answer after.world) :
    Transfer idOf (Processing settings) (Fresh settings before.world after.world)
      before.world.store.bag (QueueConfig.holds settings before) pid after.world.store.bag
      (((QueueConfig.stages settings before pid).learn ⟨stmt, answer⟩).hold settings) := by
  refine transfer_of_allowed exclusive.ordered.sound exclusive.custody exclusive.issued rfl allowed
    ?_ executed
  rintro now raws raw - rfl
  exact spares call raw next log running

/-- **Every job stays at one place.** -/
theorem Exclusive.step (exclusive : Exclusive settings before)
    (spares : sparesWorkers settings before action)
    (taken : Step (queueMachine settings) before action after) : Exclusive settings after where
  ordered := exclusive.ordered.step taken
  custody := by
    cases exclusive.ordered.turn taken with
    | quiet store issued history stages =>
        rw [store]
        exact exclusive.custody.forget (has_of_quiet stages)
    | issue running allowed executed stages =>
        rw [holds_of_stages stages]
        exact exclusive.custody.step (exclusive.transfer spares running allowed executed)
  issued id known := by
    cases exclusive.ordered.turn taken with
    | quiet store issued history stages =>
        rw [Issued, issued]
        refine exclusive.issued id (known.imp (store ▸ ·) ?_)
        rintro ⟨other, has⟩
        refine ⟨other, ?_⟩
        rcases has_of_quiet stages other with same | nothing
        · exact same ▸ has
        · rw [nothing] at has
          exact absurd has (Hold.not_has_nothing id)
    | issue running allowed executed stages =>
        rw [Known, holds_of_stages stages] at known
        rcases Custody.origin (exclusive.transfer spares running allowed executed) known with
          old | new
        · exact issued_of_executed executed (exclusive.issued id old)
        · exact new.2

theorem exclusive_of_runs {clock : Timestamp} {config : QueueConfig}
    (runs : Runs (queueMachine settings) (sparesWorkers settings) (.initial (.start .empty clock))
      config) : Exclusive settings config :=
  runs.invariant (.initial clock) fun _ _ _ exclusive spares taken => exclusive.step spares taken

/-! ## What a worker removes as its own -/

/-- Only a reclaim pass may come too late for an entry that it removes. -/
def FindsOwn : Event QueueOps → Prop
  | ⟨.redis .reclaimStaleProcessingJobs _, _⟩ => True
  | ⟨.redis _ (.lrem _ _), count⟩ => count = (1 : Nat)
  | _ => True

theorem Exclusive.findsOwn {pid : Pid} {call : QueueCall} {stmt : QueueStmt} {answer : stmt.Answer}
    {world : QueueWorld} (exclusive : Exclusive settings before)
    (allowed : Allowed settings call (QueueConfig.stages settings before pid) stmt)
    (executed : Executed settings call before.world stmt answer world) :
    FindsOwn ⟨stmt, answer⟩ := by
  -- What is in charge is there.
  have found : ∀ {raw : String} {count : Nat} {store : Redis.Store},
      QueueConfig.holds settings before pid = .minding (settings.workerProcessingQueueName, raw) →
      Redis.Effect before.world.store (.lrem settings.workerProcessingQueueName raw) count store →
      count = 1 :=
    fun minds effect => (remove_charged exclusive.ordered.sound exclusive.custody minds effect).1
  generalize stage : QueueConfig.stages settings before pid = here at allowed
  have holds : QueueConfig.holds settings before pid = here.hold settings := congrArg _ stage
  cases executed with
  | @redis caller command answer store effect =>
      cases allowed with
      | lift => exact found holds effect
      | ack => exact found holds effect
      | retry again => exact found holds effect
      | bury last => exact found holds effect
      | buryUnknown unknown => exact found holds effect
      | _ => trivial
  | _ => trivial

/-- Every job is in one list, in the delayed set or on its way, at one place altogether; no
two processes have the same one; and all removals by workers have found their entry. -/
structure OnePlace (settings : WorkerSettings) (config : QueueConfig) : Prop where
  sole : (config.world.store.bag.map idOf).Nodup
  apart : ∀ pid id, (QueueConfig.holds settings config pid).hand = some id →
    id ∉ config.world.store.bag.map idOf
  alone : ∀ pid other id, (QueueConfig.holds settings config pid).Has idOf id →
    (QueueConfig.holds settings config other).Has idOf id → pid = other
  found : ∀ event ∈ config.world.history, FindsOwn event

/-- **Every job is at one place**, and its worker finds it there. -/
theorem every_job_is_at_one_place {clock : Timestamp} {config : QueueConfig}
    (runs : Runs (queueMachine settings) (sparesWorkers settings) (.initial (.start .empty clock))
      config) : OnePlace settings config := by
  have exclusive := exclusive_of_runs runs
  refine ⟨exclusive.custody.sole, exclusive.custody.apart, exclusive.custody.alone, ?_⟩
  clear exclusive
  induction runs with
  | refl => exact fun _ none => nomatch none
  | tail earlier last ih =>
      obtain ⟨action, spares, taken⟩ := last
      have exclusive := exclusive_of_runs earlier
      cases exclusive.ordered.turn taken with
      | quiet store issued history stages => exact history ▸ ih
      | issue running allowed executed stages =>
          rw [executed.history]
          intro event member
          rcases List.mem_append.mp member with old | new
          · exact ih event old
          · exact List.mem_singleton.mp new ▸ exclusive.findsOwn allowed executed

/-! ## Deliveries -/

/-- The job has been handed to a handler and not been released since. -/
abbrev Outstanding (id : String) : List (Event QueueOps) → Prop :=
  Since (fun event => handedBy event = some id) fun event => releasedBy event = some id

/-- The job that an event hands out is neither acknowledged nor outstanding. -/
def HandedInTurn (history : List (Event QueueOps)) (event : Event QueueOps) : Prop :=
  ∀ id, handedBy event = some id → id ∉ ackedIds history ∧ ¬Outstanding id history

/-- Whoever comes to have a job takes it from another list than the processing list, has just
made it, or reclaims it. -/
theorem taken_of_allowed {call : QueueCall} {stage : Stage} {stmt : QueueStmt}
    {answer : stmt.Answer}
    {world next : QueueWorld} {id : String} (free : stage.hold settings = .nothing)
    (allowed : Allowed settings call stage stmt)
    (executed : Executed settings call world stmt answer next)
    (has : ((stage.learn ⟨stmt, answer⟩).hold settings).Has idOf id) :
    Fresh settings world next id ∨
      (∃ entry ∈ world.store.bag, idOf entry = id ∧ ¬Processing settings entry) ∨
      releasedBy ⟨stmt, answer⟩ = some id := by
  have nothing : ∀ {none : Hold String Redis.Entry}, none = .nothing → ¬none.Has idOf id := by
    rintro none rfl
    exact Hold.not_has_nothing id
  cases executed with
  | now caller =>
      cases allowed with
      | promoteTime idle => exact absurd has (nothing rfl)
      | sweepTime => exact absurd has (nothing rfl)
      | _ => cases free
  | uuid7 =>
      cases allowed
      obtain rfl := Hold.has_carrying.mp has
      exact .inl ⟨not_issued_next world, world.issued, Nat.lt_succ_self _, rfl⟩
  | handle job =>
      cases allowed
      cases free
  | @redis caller command answer store effect =>
      cases allowed with
      | @dequeue jobType known =>
          cases effect with
          | unmoved none => exact absurd has (nothing rfl)
          | @moved source destination value left right split last =>
              have minds : (Hold.minding (settings.workerProcessingQueueName, value)).Has idOf id :=
                has
              have same : idOf (settings.workerProcessingQueueName, value) = id :=
                Hold.has_minding.mp minds
              have there := Redis.Store.bag_split split ▸ Multiset.mem_cons_self _ _
              exact .inr (.inl ⟨_, there, same, not_processing_ready jobType value⟩)
      | dueJobs => exact absurd has (nothing rfl)
      | @promote raw =>
          cases effect with
          | missing gone => exact absurd has (nothing rfl)
          | taken there =>
              have carries : (Hold.carrying (rawId raw)).Has idOf id := has
              have member := Redis.Store.bag_remove there ▸ Multiset.mem_cons_self _ _
              exact .inr
                (.inl ⟨_, member, Hold.has_carrying.mp carries, not_processing_delayed raw⟩)
      | sweep => exact absurd has (nothing rfl)
      | @reclaim now raws job read stale =>
          cases effect with
          | absent gone => exact absurd has (nothing rfl)
          | removed there =>
              have carries : (Hold.carrying (rawId job.toJson)).Has idOf id := has
              exact .inr (.inr (congrArg some (Hold.has_carrying.mp carries)))
      | requeue requeues =>
          cases effect with
          | empty none => exact absurd has (nothing rfl)
          | @popped key value left right split last =>
              have carries : (Hold.carrying (rawId value)).Has idOf id := has
              have there := Redis.Store.bag_split split ▸ Multiset.mem_cons_self _ _
              exact .inr
                (.inl ⟨_, there, Hold.has_carrying.mp carries, not_processing_failed value⟩)
      | _ => cases free

/-- What has been handed out is in the processing list, and whoever has it has handled it;
what has been acknowledged is nowhere. -/
structure Delivery (settings : WorkerSettings) (config : QueueConfig) : Prop where
  exclusive : Exclusive settings config
  outstanding : ∀ id, Outstanding id config.world.history →
    (∃ entry ∈ config.world.store.bag, idOf entry = id ∧ Processing settings entry) ∧
      ∀ pid, (QueueConfig.holds settings config pid).Has idOf id →
        ∃ job error, QueueConfig.stages settings config pid = .handled job error
  acked : ∀ id ∈ ackedIds config.world.history, Issued settings config.world id ∧
    ¬Known config.world (QueueConfig.holds settings config) id
  inTurn : Throughout HandedInTurn config.world.history

theorem Delivery.initial (clock : Timestamp) :
    Delivery settings (.initial (.start .empty clock)) where
  exclusive := .initial clock
  outstanding _ since := absurd since not_since_nil
  acked _ none := nomatch none
  inTurn := .nil _

section Step

variable {pid : Pid} {call : QueueCall} {stmt : QueueStmt} {answer : stmt.Answer}
  {next : stmt.Answer → QueueM QueueResult} {log : List (Event QueueOps)}

/-- What is handed out is in charge of who hands it out. -/
theorem given_of_handedBy {stage : Stage} {id : String} (allowed : Allowed settings call stage stmt)
    (handed : handedBy ⟨stmt, answer⟩ = some id) :
    ∃ job, stage = .given job ∧ job.id = id ∧ stmt = .handle job := by
  cases stmt with
  | handle job =>
      cases allowed
      exact ⟨job, rfl, Option.some.inj handed, rfl⟩
  | _ => cases handed

/-- Nothing of a job that has been handled is touched but by its release. -/
theorem released_of_handled {stage : Stage} {job : Job} {error : Option String}
    (handled : stage = .handled job error) (allowed : Allowed settings call stage stmt)
    (found : FindsOwn ⟨stmt, answer⟩) : releasedBy ⟨stmt, answer⟩ = some job.id ∨
      (∃ caller, stmt = .now caller) ∧ stage.learn ⟨stmt, answer⟩ = stage := by
  have release : ∀ count : Nat, count = 1 →
      (if count = (0 : Nat) then none else some (rawId job.toJson)) = some job.id := by
    rintro count rfl
    exact congrArg some (rawId_toJson job)
  subst handled
  cases allowed with
  | ack => exact .inl (release answer found)
  | retry again => exact .inl (release answer found)
  | bury last => exact .inl (release answer found)
  | retryTime => exact .inr ⟨⟨_, rfl⟩, rfl⟩
  | failTime => exact .inr ⟨⟨_, rfl⟩, rfl⟩
  | promoteTime idle => cases idle

/-- What is acknowledged has been handled by who acknowledges it. -/
theorem handled_of_ackedBy {stage : Stage} {id : String}
    (allowed : Allowed settings call stage stmt)
    (acks : ackedBy ⟨stmt, answer⟩ = some id) : ∃ job, stage = .handled job none ∧ job.id = id ∧
      stmt = .redis .ackJob (.lrem settings.workerProcessingQueueName job.toJson) := by
  cases allowed with
  | @ack job =>
      have same : rawId job.toJson = id := by
        change (if answer = (0 : Nat) then none else some (rawId job.toJson)) = some id at acks
        split at acks
        · cases acks
        · exact Option.some.inj acks
      exact ⟨job, rfl, (rawId_toJson job).symm.trans same, rfl⟩
  | _ => cases acks

theorem Delivery.outstanding_issue (delivery : Delivery settings before)
    (spares : sparesWorkers settings before (.issue pid))
    (running : before.running pid = some ⟨call, .call stmt next, log⟩)
    (allowed : Allowed settings call (QueueConfig.stages settings before pid) stmt)
    (executed : Executed settings call before.world stmt answer after.world)
    (stages : QueueConfig.stages settings after =
      Function.update (QueueConfig.stages settings before) pid
        ((QueueConfig.stages settings before pid).learn ⟨stmt, answer⟩))
    {id : String} (since : Outstanding id (before.world.history ++ [⟨stmt, answer⟩])) :
    (∃ entry ∈ after.world.store.bag, idOf entry = id ∧ Processing settings entry) ∧
      ∀ other, (QueueConfig.holds settings after other).Has idOf id →
        ∃ job error, QueueConfig.stages settings after other = .handled job error := by
  have exclusive := delivery.exclusive
  have holds := holds_of_stages stages
  -- Whoever else has the job had it before.
  have others : ∀ {other}, other ≠ pid → (QueueConfig.holds settings after other).Has idOf id →
      (QueueConfig.holds settings before other).Has idOf id ∧
        QueueConfig.stages settings after other = QueueConfig.stages settings before other := by
    intro other different has
    rw [holds, Function.update_of_ne different] at has
    exact ⟨has, stages ▸ Function.update_of_ne different ..⟩
  rcases since_snoc.mp since with handed | ⟨old, unreleased⟩
  · obtain ⟨job, given, rfl, rfl⟩ := given_of_handedBy allowed handed
    have minds : QueueConfig.holds settings before pid =
        .minding (settings.workerProcessingQueueName, job.toJson) := congrArg _ given
    have mine : (QueueConfig.holds settings before pid).Has idOf job.id := by
      rw [minds]
      exact Hold.has_minding.mpr (idOf_toJson ..)
    obtain ⟨member, keeps⟩ := exclusive.custody.charged_of_minding minds
    have store := store_of_executed executed fun _ _ same => nomatch same
    refine ⟨⟨_, store ▸ member, idOf_toJson .., keeps⟩, fun other has => ?_⟩
    by_cases same : other = pid
    · rw [same, stages, Function.update_self]
      exact ⟨job, _, rfl⟩
    · exact absurd (exclusive.custody.alone _ _ _ (others same has).1 mine) same
  · obtain ⟨⟨entry, member, rfl, keeps⟩, handled⟩ := delivery.outstanding id old
    have transfer := exclusive.transfer spares running allowed executed
    have theirs : ∀ other, other ≠ pid → (QueueConfig.holds settings after other).Has idOf
      (idOf entry) →
        ∃ job error, QueueConfig.stages settings after other = .handled job error := by
      intro other different has
      obtain ⟨hadIt, still⟩ := others different has
      exact still ▸ handled other hadIt
    by_cases mine : (QueueConfig.holds settings before pid).Has idOf (idOf entry)
    · obtain ⟨job, error, stage⟩ := handled pid mine
      have own : job.id = idOf entry := by
        rw [QueueConfig.holds, stage] at mine
        exact (idOf_toJson ..).symm.trans (Hold.has_minding.mp mine)
      rcases released_of_handled stage allowed (exclusive.findsOwn allowed executed) with
        released | ⟨⟨caller, rfl⟩, still⟩
      · exact absurd (own ▸ released) unreleased
      · have store := store_of_executed executed fun _ _ same => nomatch same
        refine ⟨⟨entry, store ▸ member, rfl, keeps⟩, fun other has => ?_⟩
        by_cases same : other = pid
        · exact ⟨job, error, by rw [same, stages, Function.update_self, still, stage]⟩
        · exact theirs other same has
    · have notAfter : ¬(((QueueConfig.stages settings before pid).learn ⟨stmt, answer⟩).hold
          settings).Has idOf (idOf entry) := by
        intro has
        have free := Custody.acquires transfer mine has
        rcases taken_of_allowed free allowed executed has with new | ⟨other, there, same, notKept⟩ |
          released
        · exact new.1 (exclusive.issued _ (.inl (Multiset.mem_map_of_mem idOf member)))
        · exact notKept (exclusive.custody.unique there member same ▸ keeps)
        · exact unreleased released
      refine ⟨⟨entry, Custody.stays transfer member mine notAfter, rfl, keeps⟩, fun other has => ?_⟩
      by_cases same : other = pid
      · rw [same, holds, Function.update_self] at has
        exact absurd has notAfter
      · exact theirs other same has

theorem Delivery.acked_issue (delivery : Delivery settings before)
    (spares : sparesWorkers settings before (.issue pid))
    (running : before.running pid = some ⟨call, .call stmt next, log⟩)
    (allowed : Allowed settings call (QueueConfig.stages settings before pid) stmt)
    (executed : Executed settings call before.world stmt answer after.world)
    (stages : QueueConfig.stages settings after =
      Function.update (QueueConfig.stages settings before) pid
        ((QueueConfig.stages settings before pid).learn ⟨stmt, answer⟩))
    {id : String} (acked : id ∈ ackedIds (before.world.history ++ [⟨stmt, answer⟩])) :
    Issued settings after.world id ∧ ¬Known after.world (QueueConfig.holds settings after) id := by
  have exclusive := delivery.exclusive
  have transfer := exclusive.transfer spares running allowed executed
  rw [ackedIds, List.filterMap_append, List.mem_append] at acked
  rw [Known, holds_of_stages stages]
  rcases acked with old | new
  · obtain ⟨issued, unknown⟩ := delivery.acked id old
    refine ⟨issued_of_executed executed issued, fun known => ?_⟩
    rcases Custody.origin transfer known with there | fresh
    · exact unknown there
    · exact fresh.1 issued
  · obtain ⟨event, member, acks⟩ := List.mem_filterMap.mp new
    rw [List.mem_singleton.mp member] at acks
    obtain ⟨job, handled, rfl, rfl⟩ := handled_of_ackedBy allowed acks
    have minds : QueueConfig.holds settings before pid =
        .minding (settings.workerProcessingQueueName, job.toJson) := congrArg _ handled
    obtain ⟨-, split⟩ := remove_charged exclusive.ordered.sound exclusive.custody minds
      (effect_of_executed executed)
    have known : Known before.world (QueueConfig.holds settings before) job.id := by
      refine .inr ⟨pid, ?_⟩
      rw [minds]
      exact Hold.has_minding.mpr (idOf_toJson ..)
    have custody := exclusive.custody
    rw [split] at custody
    have gone := custody.gone minds
    rw [idOf_toJson] at gone
    rw [handled]
    refine ⟨issued_of_executed executed (exclusive.issued _ known), fun still => ?_⟩
    rcases still with there | ⟨other, has⟩
    · exact gone.1 there
    · exact gone.2 other has

theorem Delivery.inTurn_issue (delivery : Delivery settings before)
    (allowed : Allowed settings call (QueueConfig.stages settings before pid) stmt) :
    HandedInTurn before.world.history ⟨stmt, answer⟩ := by
  intro id handed
  obtain ⟨job, given, rfl, rfl⟩ := given_of_handedBy allowed handed
  have has : (QueueConfig.holds settings before pid).Has idOf job.id := by
    rw [QueueConfig.holds, given]
    exact Hold.has_minding.mpr (idOf_toJson ..)
  constructor
  · intro acked
    exact (delivery.acked _ acked).2 (.inr ⟨pid, has⟩)
  · intro since
    obtain ⟨other, error, handled⟩ := (delivery.outstanding _ since).2 pid has
    rw [given] at handled
    cases handled

end Step

/-- **Deliveries stay in turn.** -/
theorem Delivery.step (delivery : Delivery settings before)
    (spares : sparesWorkers settings before action)
    (taken : Step (queueMachine settings) before action after) : Delivery settings after := by
  have exclusive := delivery.exclusive.step spares taken
  cases delivery.exclusive.ordered.turn taken with
  | quiet store issued history stages =>
      have fewer : ∀ {pid id}, (QueueConfig.holds settings after pid).Has idOf id →
          QueueConfig.stages settings after pid = QueueConfig.stages settings before pid := by
        intro pid id has
        rcases stages pid with same | free
        · exact same
        · rw [QueueConfig.holds, free] at has
          exact absurd has (Hold.not_has_nothing id)
      have had : ∀ {pid id}, (QueueConfig.holds settings after pid).Has idOf id →
          (QueueConfig.holds settings before pid).Has idOf id := by
        intro pid id has
        rw [QueueConfig.holds, fewer has] at has
        exact has
      refine ⟨exclusive, fun id since => ?_, fun id acked => ?_, history ▸ delivery.inTurn⟩
      · obtain ⟨entry, handled⟩ := delivery.outstanding id (history ▸ since)
        refine ⟨store ▸ entry, fun pid has => ?_⟩
        exact fewer has ▸ handled pid (had has)
      · obtain ⟨isIssued, unknown⟩ := delivery.acked id (history ▸ acked)
        refine ⟨by rwa [Issued, issued], fun known => unknown ?_⟩
        exact known.imp (store ▸ ·) fun ⟨pid, has⟩ => ⟨pid, had has⟩
  | issue running allowed executed stages =>
      refine ⟨exclusive, fun id since => ?_, fun id acked => ?_, ?_⟩
      · rw [executed.history] at since
        exact delivery.outstanding_issue spares running allowed executed stages since
      · rw [executed.history] at acked
        exact delivery.acked_issue spares running allowed executed stages acked
      · rw [executed.history]
        exact delivery.inTurn.snoc (delivery.inTurn_issue allowed)

theorem delivery_of_runs {clock : Timestamp} {config : QueueConfig}
    (runs : Runs (queueMachine settings) (sparesWorkers settings) (.initial (.start .empty clock))
      config) : Delivery settings config :=
  runs.invariant (.initial clock) fun _ _ _ delivery spares taken => delivery.step spares taken

/-- Between two deliveries of a job it is released. -/
def ReleasedBetween (config : QueueConfig) : Prop :=
  ∀ (id : String) (before between after : List (Event QueueOps)) (first second : Event QueueOps),
    config.world.history = before ++ first :: (between ++ second :: after) →
      handedBy first = some id → handedBy second = some id →
        ∃ event ∈ between, releasedBy event = some id

/-- **A job that is handed to a handler again has been released in between.** -/
theorem delivered_again_only_when_released {clock : Timestamp} {config : QueueConfig}
    (runs : Runs (queueMachine settings) (sparesWorkers settings) (.initial (.start .empty clock))
      config) : ReleasedBetween config := by
  intro id before between after first second split handedFirst handedSecond
  have once : Throughout (fun earlier event => handedBy event = some id → ¬Outstanding id earlier)
      config.world.history := by
    intro earlier event later same handed
    exact ((delivery_of_runs runs).inTurn earlier event later same id handed).2
  exact once.ends_between split handedFirst handedSecond

/-- What is acknowledged is nowhere, and is not handed out any more. -/
def AckIsFinal (settings : WorkerSettings) (config : QueueConfig) : Prop :=
  (∀ id ∈ ackedIds config.world.history, ¬Present settings config.world.store id) ∧
    ∀ (id : String) (before after : List (Event QueueOps)) (event later : Event QueueOps),
      config.world.history = before ++ event :: after → ackedBy event = some id →
        later ∈ after → handedBy later ≠ some id

/-- **An acknowledgement is final.** -/
theorem acknowledgement_is_final {clock : Timestamp} {config : QueueConfig}
    (runs : Runs (queueMachine settings) (sparesWorkers settings) (.initial (.start .empty clock))
      config) : AckIsFinal settings config := by
  have delivery := delivery_of_runs runs
  refine ⟨fun id acked present => ?_, ?_⟩
  · exact (delivery.acked id acked).2 (.inl (mem_of_present present))
  · intro id before after event later split acks member handed
    obtain ⟨between, rest, rfl⟩ := List.append_of_mem member
    have again : config.world.history = (before ++ event :: between) ++ later :: rest := by
      rw [split, List.append_assoc, List.cons_append]
    refine (delivery.inTurn _ _ _ again id handed).1 (List.mem_filterMap.mpr ⟨event, ?_, acks⟩)
    exact List.mem_append_right _ List.mem_cons_self

/-! ## A worker that crashes -/

/-- A process that runs alone spares the others, and they stay idle. -/
theorem spares_alone {pid : Pid} {actions : List (Action QueueCall)}
    (mine : actions.all (·.by pid) = true)
    (alone : ∀ other, other ≠ pid → before.running other = none)
    (ran : before.runActions (queueMachine settings) actions = some after) :
    Runs (queueMachine settings) (sparesWorkers settings) before after ∧
      ∀ other, other ≠ pid → after.running other = none := by
  refine ⟨.of_single ?_ actions mine alone ran, Runs.idle_of_single actions mine alone ran⟩
  intro config action idle byPid
  cases action with
  | issue mover =>
      obtain rfl : mover = pid := beq_iff_eq.mp byPid
      intro call raw next log running other different minds
      rw [QueueConfig.holds, QueueConfig.stages, Config.stages_idle (idle other different)] at minds
      cases minds
  | _ => trivial

theorem fiveMinutesLater_from1 : (-62135596800000000 : Int) ≤ 1767225900000000 := by decide

theorem fiveMinutesLater_to9999 : (1767225900000000 : Int) < 253402300800000000 := by decide

def fiveMinutesLater : Timestamp :=
  ⟨1767225900000000, fiveMinutesLater_from1, fiveMinutesLater_to9999⟩

/-- The worker has stopped, and five minutes have gone by. -/
def workerStopped (config : QueueConfig) : QueueConfig :=
  ⟨{ config.world with clock := fiveMinutesLater }, Function.update config.running 0 none,
    config.finished⟩

/-- A job is enqueued; a worker takes it and hands it to its handler. -/
def handedOut : List (Action QueueCall) :=
  [.start 0 resetEmail, .issue 0, .issue 0, .finish 0, .start 0 (.processNextJob fun _ => none)] ++
    List.replicate 5 (.issue 0)

/-- A reclaim pass hands the job on, and another worker carries it out. -/
def handedOutAgain : List (Action QueueCall) :=
  [.start 0 .reclaimStaleProcessingJobs] ++ List.replicate 4 (.issue 0) ++
    [.finish 0, .start 0 (.processNextJob fun _ => none)] ++
      List.replicate 6 (.issue 0) ++ [.finish 0]

/-- What the two workers do, and what comes of it. -/
def crashAndReclaim : Option (Bool × Bool × List String × List String) :=
  (beforeAll.runActions (queueMachine plainSettings) handedOut).bind fun first =>
    ((workerStopped first).runActions (queueMachine plainSettings) handedOutAgain).map fun last =>
      ((first.running 0).isSome, decide (first.world.clock.micros ≤ fiveMinutesLater.micros),
        last.world.history.filterMap handedBy, ackedIds last.world.history)

theorem crashAndReclaim_outcome : crashAndReclaim = some (true, true, ["a", "a"], ["a"]) := by
  decide +kernel

/-- The job of the worker that has crashed is handed out again, and acknowledged. -/
theorem handed_out_again : ∃ config,
    Runs (queueMachine plainSettings) (sparesWorkers plainSettings) beforeAll config ∧
      config.world.history.filterMap handedBy = ["a", "a"] ∧
      ackedIds config.world.history = ["a"] := by
  obtain ⟨first, ran, rest⟩ := Option.bind_eq_some_iff.mp crashAndReclaim_outcome
  obtain ⟨last, ranToo, outcome⟩ := Option.map_eq_some_iff.mp rest
  simp only [Prod.mk.injEq, decide_eq_true_eq, Option.isSome_iff_exists] at outcome
  obtain ⟨⟨process, running⟩, earlier, handed, acked⟩ := outcome
  obtain ⟨runs, alone⟩ := spares_alone (rfl : handedOut.all (·.by 0) = true) (fun _ _ => rfl) ran
  have stopped := runs.tail ⟨.stop 0, trivial, .stop running⟩
  have resumed : Runs (queueMachine plainSettings) (sparesWorkers plainSettings) beforeAll
      (workerStopped first) :=
    stopped.tail ⟨.ambient, trivial, .ambient ⟨fiveMinutesLater, earlier, rfl⟩⟩
  have second := spares_alone (rfl : handedOutAgain.all (·.by 0) = true)
    (fun other different => (Function.update_of_ne different ..).trans (alone other different))
      ranToo
  exact ⟨last, resumed.trans second.1, handed, acked⟩

theorem handed_out_again_at_one_place : ∃ config,
    Runs (queueMachine plainSettings) (sparesWorkers plainSettings) beforeAll config ∧
      config.world.history.filterMap handedBy = ["a", "a"] ∧ OnePlace plainSettings config := by
  obtain ⟨config, runs, handed, -⟩ := handed_out_again
  exact ⟨config, runs, handed, every_job_is_at_one_place runs⟩

theorem handed_out_again_after_release : ∃ config,
    Runs (queueMachine plainSettings) (sparesWorkers plainSettings) beforeAll config ∧
      config.world.history.filterMap handedBy = ["a", "a"] ∧ ReleasedBetween config := by
  obtain ⟨config, runs, handed, -⟩ := handed_out_again
  exact ⟨config, runs, handed, delivered_again_only_when_released runs⟩

theorem handed_out_again_and_acknowledged : ∃ config,
    Runs (queueMachine plainSettings) (sparesWorkers plainSettings) beforeAll config ∧
      ackedIds config.world.history = ["a"] ∧ AckIsFinal plainSettings config := by
  obtain ⟨config, runs, -, acked⟩ := handed_out_again
  exact ⟨config, runs, acked, acknowledgement_is_final runs⟩

end AppointmentVoice.Queue
