import AppointmentVoice.Queue.Places

/-!
# Workers that crash

A worker may stop for ever between any two of its commands.  The entry that a worker has
taken into the processing list outlives the worker; but each of the functions that move a
job takes it out of one place before it puts it into the next, and a job that is in between
when its worker stops is nowhere.  As long as no worker stops there, every job that has
been enqueued and not acknowledged is in one of the lists, in the delayed set, or on its way
between two of them.

**The result.** No statement loses anything (`kept_of_allowed`), and so no run does whose
workers stop with nothing underway (`no_job_is_lost`).
-/

set_option autoImplicit false

namespace AppointmentVoice.Queue

open Concurrency Formats

variable {settings : WorkerSettings} {call : QueueCall} {world after : QueueWorld}

/-! ## Between two places -/

/-- The job that has been taken out of one place and is to be put into another. -/
def Stage.underway : Stage → Option String
  | .lifted job => some job.id
  | .retrying job _ => some job.id
  | .burying job => some job.id
  | .reclaiming _ _ raw => some (rawId raw)
  | .promoting raw => some (rawId raw)
  | .requeueing raw => some (rawId raw)
  | _ => none

theorem Stage.underway_of_idle {stage : Stage} (idle : stage.idle) : stage.underway = none := by
  cases stage <;> first | rfl | cases idle

section Kept

variable {stage : Stage} {id : String}

/-- An entry is added: the one of the job that was underway, if there was one. -/
theorem kept_of_cons {bag : Multiset Redis.Entry} {entry : Redis.Entry}
    (kept : id ∈ world.store.bag.map idOf ∨ stage.underway = some id)
    (whole : bag = entry ::ₘ world.store.bag)
    (same : ∀ found, stage.underway = some found → idOf entry = found) : id ∈ bag.map idOf := by
  rw [whole, Multiset.map_cons, Multiset.mem_cons]
  rcases kept with there | carried
  · exact .inr there
  · exact .inl (same id carried).symm

/-- What is not underway is where it was. -/
theorem kept_of_still (kept : id ∈ world.store.bag.map idOf ∨ stage.underway = some id)
    (free : stage.underway = none) : id ∈ world.store.bag.map idOf := by
  rcases kept with there | carried
  · exact there
  · rw [free] at carried
    cases carried

/-- An entry is taken out. -/
theorem kept_of_split {bag : Multiset Redis.Entry} {key raw : String}
    (kept : id ∈ world.store.bag.map idOf ∨ stage.underway = some id)
    (free : stage.underway = none) (split : world.store.bag = (key, raw) ::ₘ bag) :
    rawId raw = id ∨ id ∈ bag.map idOf := by
  have there := kept_of_still kept free
  rw [split, Multiset.map_cons, Multiset.mem_cons] at there
  exact there.imp_left Eq.symm

/-- An entry is taken out of the processing list, or was not there. -/
theorem kept_of_lrem {key raw : String} {count : Nat} {store : Redis.Store}
    (kept : id ∈ world.store.bag.map idOf ∨ stage.underway = some id)
    (free : stage.underway = none) (effect : Redis.Effect world.store (.lrem key raw) count store) :
    (count ≠ 0 ∧ rawId raw = id) ∨ id ∈ store.bag.map idOf := by
  cases effect with
  | absent gone => exact .inr (kept_of_still kept free)
  | removed there =>
      exact (kept_of_split kept free (Redis.Store.bag_erase there)).imp_left
        fun same => ⟨Nat.one_ne_zero, same⟩

/-- **A statement loses nothing.** What is in a list or underway is so after a statement, or
has been acknowledged by it. -/
theorem kept_of_allowed {stmt : QueueStmt} {answer : stmt.Answer}
    (allowed : Allowed settings call stage stmt)
    (executed : Executed settings call world stmt answer after)
    (kept : id ∈ world.store.bag.map idOf ∨ stage.underway = some id) :
    ackedBy ⟨stmt, answer⟩ = some id ∨ id ∈ after.store.bag.map idOf ∨
      (stage.learn ⟨stmt, answer⟩).underway = some id := by
  cases executed with
  | now caller =>
      refine .inr (.inl ?_)
      cases allowed with
      | promoteTime idle => exact kept_of_still kept (Stage.underway_of_idle idle)
      | _ => exact kept_of_still kept rfl
  | uuid7 =>
      cases allowed
      exact .inr (.inl (kept_of_still kept rfl))
  | handle job =>
      cases allowed
      exact .inr (.inl (kept_of_still kept rfl))
  | @redis caller command answer store effect =>
      cases allowed with
      | enqueue first fresh =>
          cases effect
          exact .inr (.inl (kept_of_cons kept (Redis.Store.bag_cons ..) nofun))
      | dequeue known =>
          cases effect with
          | unmoved nothing => exact .inr (.inl (kept_of_still kept rfl))
          | moved split last =>
              refine .inr (.inl ?_)
              rw [Redis.Store.bag_cons, Multiset.map_cons, Multiset.mem_cons]
              exact (kept_of_split kept rfl (Redis.Store.bag_split split)).imp_left Eq.symm
      | @lift job time =>
          rcases kept_of_lrem kept rfl effect with ⟨-, same⟩ | other
          · rw [rawId_toJson] at same
            exact .inr (.inr (congrArg some same))
          · exact .inr (.inl other)
      | stamp dated =>
          cases effect
          exact .inr (.inl (kept_of_cons kept (Redis.Store.bag_cons ..)
            fun found carried => (idOf_toJson _ _).trans (Option.some.inj carried)))
      | @ack job =>
          rcases kept_of_lrem kept rfl effect with ⟨some, same⟩ | other
          · refine .inl ?_
            rw [← same]
            exact if_neg some
          · exact .inr (.inl other)
      | @retry job message again =>
          rcases kept_of_lrem kept rfl effect with ⟨-, same⟩ | other
          · rw [rawId_toJson] at same
            exact .inr (.inr (congrArg some same))
          · exact .inr (.inl other)
      | @delay job error message score =>
          cases effect
          refine .inr (.inl ?_)
          rw [Redis.Store.bag_add, Multiset.map_cons, Multiset.mem_cons]
          rcases kept with there | carried
          · -- The set may have the member already.
            by_cases has : world.store.sets.has settings.workerDelayedQueueName
                (job.withNextAttempt.withError message).toJson = true
            · rw [Redis.Store.bag_remove has, Multiset.map_cons, Multiset.mem_cons] at there
              exact there
            · rw [Redis.Store.bag_remove_absent has]
              exact .inr there
          · cases carried
            have read := rawId_toJson (job.withNextAttempt.withError message)
            exact .inl read.symm
      | @bury job message last =>
          rcases kept_of_lrem kept rfl effect with ⟨-, same⟩ | other
          · rw [rawId_toJson] at same
            exact .inr (.inr (congrArg some same))
          · exact .inr (.inl other)
      | @buryUnknown job unknown =>
          rcases kept_of_lrem kept rfl effect with ⟨-, same⟩ | other
          · rw [rawId_toJson] at same
            exact .inr (.inr (congrArg some same))
          · exact .inr (.inl other)
      | fail same kind attempts dated =>
          cases effect
          exact .inr (.inl (kept_of_cons kept (Redis.Store.bag_cons ..)
            fun found carried => ((idOf_toJson _ _).trans same).trans (Option.some.inj carried)))
      | dueJobs =>
          cases effect
          exact .inr (.inl (kept_of_still kept rfl))
      | promote =>
          cases effect with
          | missing gone => exact .inr (.inl (kept_of_still kept rfl))
          | taken there =>
              rcases kept_of_split kept rfl (Redis.Store.bag_remove there) with same | other
              · exact .inr (.inr (congrArg some same))
              · exact .inr (.inl other)
      | promotePush dated =>
          cases effect
          exact .inr (.inl (kept_of_cons kept (Redis.Store.bag_cons ..)
            fun found carried => Option.some.inj carried))
      | sweep =>
          cases effect
          exact .inr (.inl (kept_of_still kept rfl))
      | @reclaim now raws job read stale =>
          cases effect with
          | absent gone => exact .inr (.inl (kept_of_still kept rfl))
          | removed there =>
              rcases kept_of_split kept rfl (Redis.Store.bag_erase there) with same | other
              · exact .inr (.inr (congrArg some same))
              · exact .inr (.inl other)
      | @reclaimPush now raws job =>
          cases effect
          refine .inr (.inl (kept_of_cons kept (Redis.Store.bag_cons ..) fun found carried => ?_))
          have same : some (rawId job.toJson) = some found := carried
          rw [rawId_toJson] at same
          exact (idOf_toJson _ _).trans (Option.some.inj same)
      | requeue requeues =>
          cases effect with
          | empty nothing => exact .inr (.inl (kept_of_still kept rfl))
          | popped split last =>
              rcases kept_of_split kept rfl (Redis.Store.bag_split split) with same | other
              · exact .inr (.inr (congrArg some same))
              · exact .inr (.inl other)
      | requeuePush dated =>
          cases effect
          exact .inr (.inl (kept_of_cons kept (Redis.Store.bag_cons ..)
            fun found carried => Option.some.inj carried))

end Kept

/-! ## In every run -/

/-- Every job that has been enqueued and not acknowledged is somewhere, or underway. -/
def Kept (settings : WorkerSettings) (config : QueueConfig) : Prop :=
  ∀ id ∈ enqueuedIds config.world.history, id ∈ ackedIds config.world.history ∨
    id ∈ config.world.store.bag.map idOf ∨
      ∃ pid, (QueueConfig.stages settings config pid).underway = some id

/-- Nobody stops who has a job underway. -/
def stopsBetween (settings : WorkerSettings) (config : QueueConfig) : Action QueueCall → Bool
  | .stop pid => (QueueConfig.stages settings config pid).underway.isNone
  | _ => true

/-- A job that is enqueued is in its list. -/
theorem mem_of_enqueuedBy {stmt : QueueStmt} {answer : stmt.Answer} {id : String}
    (executed : Executed settings call world stmt answer after)
    (enqueued : enqueuedBy ⟨stmt, answer⟩ = some id) : id ∈ after.store.bag.map idOf := by
  cases executed with
  | @redis caller command answer store effect =>
      cases effect with
      | lpush key value =>
          have same : rawId value = id := by
            cases caller <;> first | exact Option.some.inj enqueued | cases enqueued
          rw [Redis.Store.bag_cons, Multiset.map_cons, ← same]
          exact Multiset.mem_cons_self _ _
      | _ => cases caller <;> cases enqueued
  | _ => cases enqueued

theorem Kept.step {before after : QueueConfig} {action : Action QueueCall}
    (kept : Kept settings before)
    (ordered : QueueConfig.Ordered settings before)
    (safe : stopsBetween settings before action = true)
    (taken : Step (queueMachine settings) before action after) : Kept settings after := by
  -- The process that moves has nothing underway, before or after.
  have quiet : ∀ {pid : Pid} {stage : Stage}, after.world = before.world →
      QueueConfig.stages settings after =
        Function.update (QueueConfig.stages settings before) pid stage →
      (QueueConfig.stages settings before pid).underway = none → Kept settings after := by
    intro pid stage world stages free id enqueued
    rw [world] at enqueued ⊢
    refine (kept id enqueued).imp_right fun somewhere => somewhere.imp_right ?_
    rintro ⟨other, carried⟩
    refine ⟨other, ?_⟩
    rw [stages, Function.update_of_ne ?_]
    · exact carried
    · rintro rfl
      rw [free] at carried
      cases carried
  have staged := ordered.watched.staged taken .free
  cases staged with
  | @start pid call idle world stages =>
      refine quiet world stages ?_
      change (Config.stages (stageWatch settings) .free before pid).underway = none
      rw [idle]
      rfl
  | finish met world stages => exact quiet world stages (Stage.underway_of_idle met)
  | stop world stages => exact quiet world stages (Option.isNone_iff_eq_none.mp safe)
  | ambient changed stages =>
      obtain ⟨clock, -, same⟩ := changed
      intro id enqueued
      rw [same] at enqueued ⊢
      have still : QueueConfig.stages settings after = QueueConfig.stages settings before := stages
      rw [still]
      exact kept id enqueued
  | @issue pid call stmt next log answer running allowed executed stages =>
      have done := executed_of_exec executed
      have now : QueueConfig.stages settings after pid =
          (QueueConfig.stages settings before pid).learn ⟨stmt, answer⟩ :=
        (congrFun stages pid).trans (Function.update_self ..)
      intro id enqueued
      rw [done.history, enqueuedIds, List.filterMap_append, List.mem_append] at enqueued
      rw [done.history, ackedIds, List.filterMap_append, List.mem_append]
      -- Where the job was before, and where it is now.
      have moves : id ∈ before.world.store.bag.map idOf ∨
          (QueueConfig.stages settings before pid).underway = some id →
          (id ∈ before.world.history.filterMap ackedBy ∨ id ∈ [⟨stmt, answer⟩].filterMap ackedBy) ∨
            id ∈ after.world.store.bag.map idOf ∨
              ∃ other, (QueueConfig.stages settings after other).underway = some id := by
        intro here
        rcases kept_of_allowed allowed done here with acked | there | carried
        · exact .inl (.inr (List.mem_filterMap.mpr ⟨_, List.mem_singleton_self _, acked⟩))
        · exact .inr (.inl there)
        · exact .inr (.inr ⟨pid, now ▸ carried⟩)
      rcases enqueued with old | new
      · rcases kept id old with acked | there | ⟨other, carried⟩
        · exact .inl (.inl acked)
        · exact moves (.inl there)
        · by_cases same : other = pid
          · exact moves (.inr (same ▸ carried))
          · have elsewhere : QueueConfig.stages settings after other =
                QueueConfig.stages settings before other :=
              (congrFun stages other).trans (Function.update_of_ne same ..)
            exact .inr (.inr ⟨other, elsewhere ▸ carried⟩)
      · obtain ⟨event, member, enqueues⟩ := List.mem_filterMap.mp new
        rw [List.mem_singleton.mp member] at enqueues
        exact .inr (.inl (mem_of_enqueuedBy done enqueues))

/-- In a state in which no worker that goes on is in the middle of moving a job, every job
that has been enqueued and not acknowledged is in one of the lists or in the delayed set. -/
def NoneLost (settings : WorkerSettings) (config : QueueConfig) : Prop :=
  (∀ pid, (QueueConfig.stages settings config pid).underway = none) →
    ∀ id ∈ enqueuedIds config.world.history, id ∉ ackedIds config.world.history →
      Present settings config.world.store id

theorem kept_of_runs {clock : Timestamp} {config : QueueConfig}
    (runs : Runs (queueMachine settings)
      (fun config action => stopsBetween settings config action = true)
      (.initial (.start .empty clock)) config) :
    QueueConfig.Ordered settings config ∧ Kept settings config := by
  induction runs with
  | refl => exact ⟨.initial clock, nofun⟩
  | tail _ last ih =>
      obtain ⟨action, safe, taken⟩ := last
      exact ⟨ih.1.step taken, ih.2.step ih.1 safe taken⟩

/-- **No job is lost** in a run in which every worker that stops does so with no job
underway. -/
theorem no_job_is_lost {clock : Timestamp} {config : QueueConfig}
    (runs : Runs (queueMachine settings)
      (fun config action => stopsBetween settings config action = true)
      (.initial (.start .empty clock)) config) : NoneLost settings config := by
  obtain ⟨ordered, kept⟩ := kept_of_runs runs
  intro between id enqueued unacked
  rcases kept id enqueued with acked | there | ⟨pid, carried⟩
  · exact absurd acked unacked
  · exact present_of_mem ordered.sound there
  · rw [between pid] at carried
    cases carried

/-! ## Two runs -/

/-- A job is enqueued; a worker takes it and stops after so many commands. -/
def takenAndLeft (commands : Nat) : List (Action QueueCall) :=
  [.start 0 resetEmail, .issue 0, .issue 0, .finish 0, .start 1 (.processNextJob fun _ => none)] ++
    List.replicate commands (.issue 1) ++ [.stop 1]

/-- What such a run leaves: whether it was safe, and the jobs, entries and delayed jobs. -/
def leftBy (commands : Nat) : Option (Bool × List String × List String × List String × Nat) :=
  (beforeAll.runActions (queueMachine plainSettings) (takenAndLeft commands)).map fun config =>
    (beforeAll.passes (queueMachine plainSettings) (stopsBetween plainSettings)
      (takenAndLeft commands),
      enqueuedIds config.world.history, ackedIds config.world.history,
      config.world.store.entries.map idOf, config.world.store.sets.rows.length)

theorem leftBy_one : leftBy 1 = some (true, ["a"], [], ["a"], 0) := by decide +kernel

theorem leftBy_three : leftBy 3 = some (false, ["a"], [], [], 0) := by decide +kernel

theorem stopped_after_three : (beforeAll.runActions (queueMachine plainSettings)
    (takenAndLeft 3)).all (fun config =>
      (config.running 0).isNone && (config.running 1).isNone) = true := by
  decide +kernel

/-- In the end nobody is running. -/
theorem idle_after_three {config : QueueConfig}
    (ran : beforeAll.runActions (queueMachine plainSettings) (takenAndLeft 3) = some config)
    (pid : Pid) : config.running pid = none := by
  have stopped := stopped_after_three
  rw [ran, Option.all_some, Bool.and_eq_true, Option.isNone_iff_eq_none,
    Option.isNone_iff_eq_none] at stopped
  by_cases first : pid = 0
  · exact first ▸ stopped.1
  by_cases second : pid = 1
  · exact second ▸ stopped.2
  refine Config.idle_of_actions (takenAndLeft 3) (fun action member => ?_) rfl ran
  simp only [takenAndLeft, List.mem_append, List.mem_cons, List.mem_replicate, List.not_mem_nil,
    or_false] at member
  rcases member with (member | ⟨-, rfl⟩) | rfl
  · rcases member with rfl | rfl | rfl | rfl | rfl <;> exact beq_false_of_ne (Ne.symm ‹_›)
  · exact beq_false_of_ne (Ne.symm second)
  · exact beq_false_of_ne (Ne.symm second)

/-- The worker has just taken the job into the processing list. -/
theorem left_in_processing : ∃ config,
    Runs (queueMachine plainSettings)
        (fun config action => stopsBetween plainSettings config action = true) beforeAll config ∧
      enqueuedIds config.world.history = ["a"] ∧ NoneLost plainSettings config := by
  obtain ⟨config, ran, left⟩ := Option.map_eq_some_iff.mp leftBy_one
  simp only [Prod.mk.injEq] at left
  obtain ⟨safe, enqueued, -⟩ := left
  have runs := Runs.of_guarded (fun _ _ safe => safe) (takenAndLeft 1) safe ran
  exact ⟨config, runs, enqueued, no_job_is_lost runs⟩

/-- The worker has removed the entry to write it again with the time: the job is lost, and
nobody is running any more. -/
theorem crash_loses_a_job : ∃ config,
    Runs (queueMachine plainSettings) (fun _ _ => True) beforeAll config ∧
      (∀ pid, config.running pid = none) ∧ ¬NoneLost plainSettings config := by
  obtain ⟨config, ran, left⟩ := Option.map_eq_some_iff.mp leftBy_three
  simp only [Prod.mk.injEq] at left
  obtain ⟨-, enqueued, acked, entries, delayed⟩ := left
  have idle := idle_after_three ran
  refine ⟨config, .of_runActions (takenAndLeft 3) ran, idle, fun kept => ?_⟩
  have between : ∀ pid, (QueueConfig.stages plainSettings config pid).underway = none := by
    intro pid
    have free : QueueConfig.stages plainSettings config pid = .free := Config.stages_idle (idle pid)
    rw [free]
    rfl
  have present := kept between "a" (by rw [enqueued]; exact List.mem_singleton_self _)
    (by rw [acked]; exact List.not_mem_nil)
  obtain ⟨entry, there, -⟩ := Multiset.mem_map.mp (mem_of_present present)
  rw [List.map_eq_nil_iff] at entries
  rcases Redis.Store.mem_bag.mp there with listed | ⟨row, found, -⟩
  · exact absurd (entries ▸ listed) List.not_mem_nil
  · exact absurd (List.eq_nil_of_length_eq_zero delayed ▸ found) List.not_mem_nil

end AppointmentVoice.Queue
