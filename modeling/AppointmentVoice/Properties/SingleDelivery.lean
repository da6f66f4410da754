import AppointmentVoice.Properties.JobConservation

/-!
# One handler call for each attempt

At the grain of single commands the functions of the queue are interrupted.  A reclaim pass
may then read the processing list while `dequeue_job` has moved an entry and not written it
again with its time: the entry counts as stale, the pass puts the job back into its ready
list, and `dequeue_job` writes its own entry all the same.  It may also come between the end
of a handler and the removal of the entry, when the timeout runs out there.

**The result.** `jobs_are_delivered_once`, in every run in which no reclaim pass does either;
`dequeued_twice` is a run in which one comes between the commands of `dequeue_job`.
-/

set_option autoImplicit false

namespace AppointmentVoice.Queue

open Concurrency Formats

variable {settings : WorkerSettings} {before after : QueueConfig} {action : Action QueueCall}

/-! ## Runs of workers -/

/-- The call takes jobs out of the failed list. -/
def QueueCall.requeues : QueueCall → Bool
  | .requeueFailedJobs _ _ => true
  | _ => false

/-- Jobs are enqueued and handled and the queue is looked after; nobody stops, and no job that
has been given up is requeued. -/
def workersOnly : Action QueueCall → Bool
  | .stop _ => false
  | .start _ call => !call.requeues
  | _ => true

/-- No two workers have been handed a job for the same attempt, and no job is in the lists and
the delayed set twice. -/
structure DeliveredOnce (settings : WorkerSettings) (config : QueueConfig) : Prop where
  once : ∀ id, (handledAttempts id config.world.history).Nodup
  next : ∀ pid job, QueueConfig.stages settings config pid = .given job →
    job.attempts ∉ handledAttempts job.id config.world.history
  alone : ∀ pid other id, (QueueConfig.holds settings config pid).Has idOf id →
    (QueueConfig.holds settings config other).Has idOf id → pid = other
  sole : (config.world.store.bag.map idOf).Nodup

/-- Nobody requeues, and nothing has been requeued. -/
structure NeverRequeued (config : QueueConfig) : Prop where
  calls : config.Every fun _ call _ => call.requeues = false
  events : ∀ event ∈ config.world.history, requeuedBy event = none

theorem NeverRequeued.step (never : NeverRequeued before)
    (ordered : QueueConfig.Ordered settings before) (workers : workersOnly action = true)
    (taken : Step (queueMachine settings) before action after) : NeverRequeued after where
  calls := by
    refine never.calls.step taken (fun _ _ known => known) ?_ ?_
    · rintro pid call rfl
      exact Bool.not_eq_true' _ |>.mp workers
    · intro pid call stmt next log answer _ running executed known
      exact known
  events := by
    cases ordered.turn taken with
    | quiet store issued history stages => exact history ▸ never.events
    | @issue pid call stmt next log answer running allowed executed stages =>
        rw [executed.history]
        intro event member
        rcases List.mem_append.mp member with old | new
        · exact never.events event old
        · rw [List.mem_singleton.mp new]
          generalize QueueConfig.stages settings before pid = stage at allowed
          cases allowed with
          | requeue requeues =>
              have mine := never.calls.running pid _ running
              rw [requeues] at mine
              cases mine
          | _ => rfl

/-- **Jobs are delivered once.** At the grain of single commands, while nobody stops, every
handler is in time and no reclaim pass takes an entry that is with no handler, no job is handed
to two workers for one attempt. -/
theorem jobs_are_delivered_once {clock : Timestamp} {config : QueueConfig}
    (runs : Runs (queueMachine settings)
      (fun config action => HandlersInTime settings config ∧ workersOnly action = true ∧
        sparesBetween settings config action)
      (.initial (.start .empty clock)) config) : DeliveredOnce settings config := by
  have stays : ∀ {action}, workersOnly action = true → nobodyStops action = true := by
    intro action workers
    cases action <;> first | rfl | cases workers
  obtain ⟨undisturbed, calm⟩ := undisturbed_of_runs runs fun config action _ admits =>
    ⟨stays admits.2.1, admits.1, admits.2.2⟩
  have whole := every_job_is_at_one_place (calm.mono fun _ _ admits => admits.1)
  have never : QueueConfig.Ordered settings config ∧ NeverRequeued config := by
    clear calm whole undisturbed
    induction runs with
    | refl => exact ⟨.initial clock, .initial _, fun _ none => nomatch none⟩
    | tail _ last ih =>
        obtain ⟨action, admits, taken⟩ := last
        exact ⟨ih.1.step taken, ih.2.step ih.1 admits.2.1 taken⟩
  have none : ∀ id, chances id config.world.history = 0 := by
    intro id
    rw [chances, times_eq_zero undisturbed.unreclaimed, times_eq_zero never.2.events]
  refine ⟨fun id => ?_, fun pid job given => ?_, whole.alone, whole.sole⟩
  · obtain ⟨calls, same⟩ := undisturbed.counted.calls id (none id)
    rw [same]
    exact nodup_firstAttempts calls
  · have carried := undisturbed.counted.accounts.carried pid
    rw [given] at carried
    obtain ⟨calls, same, agrees⟩ := carried _ job .given (none job.id)
    have now : job.attempts = calls := agrees
    rw [same, now]
    exact not_mem_firstAttempts calls

/-! ## Two runs -/

/-- A reclaim pass takes from none of these processes what is with no handler. -/
def sparesAmong (settings : WorkerSettings) (pids : List Pid) (config : QueueConfig) :
    Action QueueCall → Bool
  | .issue pid =>
      match config.running pid with
      | some ⟨_, .call (.redis .reclaimStaleProcessingJobs (.lrem _ raw)) _, _⟩ =>
          pids.all fun other => (QueueConfig.stages settings config other).between != some raw
      | _ => true
  | _ => true

/-- A job is enqueued and taken, and the queue is looked after while it is with its handler. -/
def lookedAfter : List (Action QueueCall) :=
  [.start 0 resetEmail, .issue 0, .issue 0, .finish 0, .start 0 (.processNextJob fun _ => none)] ++
    List.replicate 4 (.issue 0) ++ [.start 1 .runQueueMaintenance] ++
      List.replicate 4 (.issue 1) ++ [.finish 1, .issue 0, .issue 0, .finish 0]

/-- A reclaim pass comes between the commands of `dequeue_job`, and the job is handed to two
workers. -/
def takenTwice : List (Action QueueCall) :=
  [.start 0 resetEmail, .issue 0, .issue 0, .finish 0, .start 0 (.processNextJob fun _ => none),
    .issue 0, .start 1 .reclaimStaleProcessingJobs] ++ List.replicate 4 (.issue 1) ++
      List.replicate 4 (.issue 0) ++ [.start 2 (.processNextJob fun _ => none)] ++
        List.replicate 5 (.issue 2)

/-- Whether every process is in time and the calls are those of workers. -/
def ofWorkers (settings : WorkerSettings) (pids : List Pid) (config : QueueConfig)
    (action : Action QueueCall) : Bool :=
  inTimeAmong settings pids config && workersOnly action

section Few

variable {pids : List Pid} {config : QueueConfig}
  (idle : ∀ other, pids.contains other = false → config.running other = none)
include idle

theorem sparesBetween_of_among (spares : sparesAmong settings pids config action = true) :
    sparesBetween settings config action := by
  cases action with
  | issue pid =>
      intro call raw next log running other between
      cases there : pids.contains other with
      | false =>
          have free : QueueConfig.stages settings config other = .free :=
            Config.stages_idle (idle other there)
          rw [free] at between
          cases between
      | true =>
          simp only [sparesAmong, running] at spares
          have fine := List.all_eq_true.mp spares other (List.contains_iff_mem.mp there)
          exact bne_iff_ne.mp fine between
  | _ => trivial

theorem inTime_of_workers (guarded : ofWorkers settings pids config action = true) :
    HandlersInTime settings config ∧ workersOnly action = true := by
  rw [ofWorkers, Bool.and_eq_true] at guarded
  exact ⟨(workersInTime_of_among idle guarded.1).handlers, guarded.2⟩

theorem spared_of_workers
    (guarded : (ofWorkers settings pids config action && sparesAmong settings pids config action) =
      true) :
    HandlersInTime settings config ∧ workersOnly action = true ∧
      sparesBetween settings config action := by
  rw [Bool.and_eq_true] at guarded
  obtain ⟨inTime, workers⟩ := inTime_of_workers idle guarded.1
  exact ⟨inTime, workers, sparesBetween_of_among idle guarded.2⟩

end Few

theorem lookedAfter_outcome :
    (beforeAll.runActions (queueMachine plainSettings) lookedAfter).map (fun config =>
      (handledAttempts "a" config.world.history, ackedIds config.world.history)) =
      some ([0], ["a"]) := by
  decide +kernel

theorem lookedAfter_passes : beforeAll.passes (queueMachine plainSettings)
    (fun config action => ofWorkers plainSettings [0, 1] config action &&
      sparesAmong plainSettings [0, 1] config action) lookedAfter = true := by
  decide +kernel

theorem handed_once_and_acknowledged : ∃ config,
    Runs (queueMachine plainSettings)
        (fun config action => HandlersInTime plainSettings config ∧ workersOnly action = true ∧
          sparesBetween plainSettings config action) beforeAll config ∧
      handledAttempts "a" config.world.history = [0] ∧ DeliveredOnce plainSettings config := by
  obtain ⟨config, ran, outcome⟩ := Option.map_eq_some_iff.mp lookedAfter_outcome
  have runs := Runs.of_few_guarded (fun _ _ idle _ => spared_of_workers idle) lookedAfter
    (rfl : lookedAfter.all (·.among [0, 1].contains) = true) lookedAfter_passes (fun _ _ => rfl) ran
  exact ⟨config, runs, (Prod.mk.inj outcome).1, jobs_are_delivered_once runs⟩

theorem takenTwice_outcome :
    (beforeAll.runActions (queueMachine plainSettings) takenTwice).map (fun config =>
      (handledAttempts "a" config.world.history, config.world.store.entries.map idOf)) =
      some ([0, 0], ["a", "a"]) := by
  decide +kernel

theorem takenTwice_passes : beforeAll.passes (queueMachine plainSettings)
    (ofWorkers plainSettings [0, 1, 2]) takenTwice = true := by
  decide +kernel

/-- Two workers handle the job for the same attempt. -/
theorem dequeued_twice : ∃ config,
    Runs (queueMachine plainSettings)
        (fun config action => HandlersInTime plainSettings config ∧ workersOnly action = true)
        beforeAll config ∧
      handledAttempts "a" config.world.history = [0, 0] ∧
      config.world.store.entries.map idOf = ["a", "a"] ∧ ¬DeliveredOnce plainSettings config := by
  obtain ⟨config, ran, outcome⟩ := Option.map_eq_some_iff.mp takenTwice_outcome
  obtain ⟨handled, entries⟩ := Prod.mk.inj outcome
  have runs := Runs.of_few_guarded (fun _ _ idle _ => inTime_of_workers idle) takenTwice
    (rfl : takenTwice.all (·.among [0, 1, 2].contains) = true) takenTwice_passes
      (fun _ _ => rfl) ran
  refine ⟨config, runs, handled, entries, fun delivered => ?_⟩
  have nodup := delivered.once "a"
  rw [handled] at nodup
  exact absurd nodup (by decide)

end AppointmentVoice.Queue
