import AppointmentVoice.Properties.ExclusiveDelivery
import AppointmentVoice.Queue.Accounts

/-!
# How often a job is tried

The attempts that are written into a job never exceed the number of times that its handler
has raised, so that no job of a known type is given up before it has failed once more than
it is to be retried.  As long as workers are spared by the reclaim pass, a job is not tried
more often than that either, but for the times it has been reclaimed or requeued.

**The results.** `no_job_is_given_up_early` and `no_job_is_tried_too_often`.
-/

set_option autoImplicit false

namespace AppointmentVoice.Queue

open Concurrency Formats

variable {settings : WorkerSettings} {before after : QueueConfig} {action : Action QueueCall}

/-! ## Counts -/

/-- How often events have been about a job. -/
def times (of : Event QueueOps → Option String) (id : String)
    (history : List (Event QueueOps)) : Nat :=
  (history.filterMap of).count id

@[simp] theorem times_snoc (of : Event QueueOps → Option String) (id : String)
    (history : List (Event QueueOps)) (event : Event QueueOps) :
    times of id (history ++ [event]) = times of id history + if of event = some id then 1
      else 0 := by
  rw [times, List.filterMap_append, List.count_append, ← times]
  congr 1
  cases about : of event with
  | none => simp [about]
  | some other =>
      rw [List.filterMap_cons_some about, List.filterMap_nil, List.count_singleton]
      simp only [beq_iff_eq, Option.some.injEq]

/-- The job whose handler has raised. -/
def failedBy : Event QueueOps → Option String
  | ⟨.handle job, some _⟩ => some job.id
  | _ => none

/-! ## Not too early -/

/-- What the attempts of a job say of the failures of its handler, where the job is. -/
def Tally (settings : WorkerSettings) (failures : Int) (place : Place) (jobType : String)
    (attempts : Int) : Prop :=
  (0 ≤ attempts ∧ attempts ≤ settings.workerMaxRetries ∧ attempts ≤ failures) ∧
    match place with
    | .handled (some _) => attempts + 1 ≤ failures
    | .retrying => attempts + 1 ≤ settings.workerMaxRetries ∧ attempts + 1 ≤ failures
    | .burying | .failed => jobType ∈ knownJobTypes →
        attempts = settings.workerMaxRetries ∧ attempts + 1 ≤ failures
    | _ => True

def Tried (settings : WorkerSettings) (history : List (Event QueueOps))
    (place : Place) (job : Job) :
    Prop :=
  Tally settings (times failedBy job.id history) place job.type job.attempts

theorem Tally.mono {failures more attempts : Int} {place : Place} {jobType : String}
    (tally : Tally settings failures place jobType attempts) (less : failures ≤ more) :
    Tally settings more place jobType attempts := by
  obtain ⟨⟨first, second, third⟩, last⟩ := tally
  refine ⟨⟨first, second, third.trans less⟩, ?_⟩
  cases place with
  | handled error =>
      cases error with
      | none => trivial
      | some message => exact le_trans last less
  | retrying => exact ⟨last.1, last.2.trans less⟩
  | burying => exact fun known => ⟨(last known).1, (last known).2.trans less⟩
  | failed => exact fun known => ⟨(last known).1, (last known).2.trans less⟩
  | _ => trivial

theorem Tried.later {history : List (Event QueueOps)} {event : Event QueueOps}
    {place : Place} {job : Job}
    (tried : Tried settings history place job) : Tried settings (history ++ [event]) place job := by
  refine Tally.mono tried ?_
  rw [times_snoc]
  omega

theorem tried_rules : Rules settings (Tried settings) where
  later _ tried := tried.later
  copied tried sameId kind attempts := by
    rw [Tried, sameId, kind, attempts]
    exact tried
  enqueued tried := ⟨tried.1, trivial⟩
  taken tried := ⟨tried.1, trivial⟩
  started tried := ⟨tried.1, trivial⟩
  put tried := ⟨tried.1, trivial⟩
  retried again tried := ⟨tried.1, Int.add_one_le_of_lt again, tried.2⟩
  delayed tried sameId kind attempts := by
    obtain ⟨⟨first, -, -⟩, fewer, failures⟩ := tried
    rw [Tried, sameId, kind, attempts]
    have positive : 0 ≤ _ + (1 : Int) := Int.le_add_one first
    exact ⟨⟨positive, fewer, failures⟩, trivial⟩
  buried last tried := ⟨tried.1, fun _ => ⟨le_antisymm tried.1.2.1 (not_lt.mp last), tried.2⟩⟩
  buriedUnknown unknown tried := ⟨tried.1, fun known => absurd known unknown⟩
  failed tried := tried
  reclaimed _ tried := by
    have taken : Tried settings _ .taken _ := ⟨tried.1, trivial⟩
    exact taken.later
  requeued _ tried := by
    have taken : Tried settings _ .taken _ := ⟨tried.1, trivial⟩
    exact taken.later

/-- A job that has been handled with an error has failed once more. -/
theorem tried_handled {history : List (Event QueueOps)} {job : Job} (error : Option String)
    (tried : Tried settings history .taken job) :
    Tried settings (history ++ [⟨.handle job, error⟩]) (.handled error) job := by
  refine ⟨tried.later.1, ?_⟩
  cases error with
  | none => trivial
  | some message =>
      have raised : failedBy ⟨.handle job, some message⟩ = some job.id := rfl
      have counted := tried.1.2.2
      rw [times_snoc, if_pos raised]
      change job.attempts + 1 ≤ ((times failedBy job.id history + 1 : Nat) : Int)
      omega

theorem tried_left (accounts : Accounts settings (Tried settings) before) :
    Left settings (Tried settings) before after where
  handled {pid job error} given store history stages := by
    refine ⟨fun key raw found member read => ?_, fun other => ?_⟩
    · rw [history]
      exact (accounts.stored key raw found (store ▸ member) read).later
    · rw [history, stages]
      by_cases same : other = pid
      · have carried := accounts.carried pid
        rw [given] at carried
        rw [same, Function.update_self]
        rintro _ _ ⟨⟩
        exact tried_handled error (carried _ job .given)
      · rw [Function.update_of_ne same]
        exact fun place found carries => (accounts.carried other place found carries).later
  named {job} _ first := by
    have nonneg : ∀ number : Nat, job.attempts ≤ number := fun number => by rw [first]; omega
    exact ⟨⟨first.ge, nonneg _, nonneg _⟩, trivial⟩

/-- A job with so many attempts has failed at least so often, and a job of a known type that
has been given up has failed once more than it is to be retried. -/
structure RetriesCounted (settings : WorkerSettings) (config : QueueConfig) : Prop where
  attempts : ∀ entry ∈ config.world.store.bag, ∀ job, Job.fromJson entry.2 = .ok job →
    0 ≤ job.attempts ∧ job.attempts ≤ settings.workerMaxRetries ∧
      job.attempts ≤ times failedBy job.id config.world.history
  givenUp : ∀ raw ∈ config.world.store.list settings.workerFailedQueueName, ∀ job,
    Job.fromJson raw = .ok job → job.type ∈ knownJobTypes →
      job.attempts = settings.workerMaxRetries ∧
        settings.workerMaxRetries + 1 ≤ times failedBy job.id config.world.history

theorem tried_of_runs {clock : Timestamp} {config : QueueConfig}
    (runs : Runs (queueMachine settings) (fun _ _ => True)
      (.initial (.start .empty clock)) config) :
    QueueConfig.Ordered settings config ∧ Accounts settings (Tried settings) config := by
  induction runs with
  | refl => exact ⟨.initial clock, .initial clock⟩
  | tail _ last ih =>
      obtain ⟨action, -, taken⟩ := last
      exact ⟨ih.1.step taken, ih.2.turn tried_rules (ih.1.turn taken) (tried_left ih.2)⟩

/-- **No job is given up too early**, whichever workers crash and whatever is reclaimed. -/
theorem no_job_is_given_up_early {clock : Timestamp} {config : QueueConfig}
    (runs : Runs (queueMachine settings) (fun _ _ => True)
      (.initial (.start .empty clock)) config) :
    RetriesCounted settings config := by
  obtain ⟨-, accounts⟩ := tried_of_runs runs
  constructor
  · rintro ⟨key, raw⟩ member job read
    exact (accounts.stored key raw job member read).1
  · intro raw member job read known
    have listed := Redis.Store.mem_bag.mpr (.inl (Redis.mem_list.mp member))
    have tried := accounts.stored _ raw job listed read
    rw [placeOf_failed] at tried
    obtain ⟨all, failures⟩ := tried.2 known
    exact ⟨all, by omega⟩

/-- The settings as they are by default, but for the retries. -/
def strictSettings : WorkerSettings := { plainSettings with workerMaxRetries := 0 }

/-- A job is enqueued, and its handler raises. -/
def failedAtOnce : List (Action QueueCall) :=
  [.start 0 resetEmail, .issue 0, .issue 0, .finish 0,
    .start 0 (.processNextJob fun _ => some "no such user")] ++
      List.replicate 8 (.issue 0) ++ [.finish 0]

theorem failedAtOnce_outcome :
    (beforeAll.runActions (queueMachine strictSettings) failedAtOnce).map (fun config =>
      (config.world.store.list strictSettings.workerFailedQueueName).map rawId) = some ["a"] := by
  decide +kernel

theorem given_up_after_one_failure : ∃ config,
    Runs (queueMachine strictSettings) (fun _ _ => True) beforeAll config ∧
      (config.world.store.list strictSettings.workerFailedQueueName).map rawId = ["a"] ∧
      RetriesCounted strictSettings config := by
  obtain ⟨config, ran, outcome⟩ := Option.map_eq_some_iff.mp failedAtOnce_outcome
  have runs := Runs.of_runActions failedAtOnce ran
  exact ⟨config, runs, outcome, no_job_is_given_up_early runs⟩

/-! ## Not too often -/

/-- How often a job has been given another chance from outside its retries. -/
def chances (id : String) (history : List (Event QueueOps)) : Nat :=
  times reclaimedBy id history + times requeuedBy id history

/-- The handler has been called for the attempt that the job is at. -/
def Place.spent : Place → Nat
  | .named | .waiting | .taken => 0
  | _ => 1

/-- What is left to a job, where it is. -/
def Budgeted (history : List (Event QueueOps)) (place : Place) (job : Job) : Prop :=
  (times handedBy job.id history : Int) ≤ job.attempts + chances job.id history + place.spent

theorem chances_mono (id : String) (history : List (Event QueueOps)) (event : Event QueueOps) :
    chances id history ≤ chances id (history ++ [event]) := by
  simp only [chances, times_snoc]
  omega

theorem times_quiet {event : Event QueueOps} {id : String} (history : List (Event QueueOps))
    (other : handedBy event ≠ some id) :
    times handedBy id (history ++ [event]) = times handedBy id history := by
  rw [times_snoc, if_neg other, Nat.add_zero]

theorem Budgeted.later {history : List (Event QueueOps)} {event : Event QueueOps} {place : Place}
    {job : Job} (other : handedBy event ≠ some job.id) (budgeted : Budgeted history place job) :
    Budgeted (history ++ [event]) place job := by
  have more := chances_mono job.id history event
  rw [Budgeted] at budgeted ⊢
  rw [times_quiet history other]
  omega

/-- Another chance is worth one more call of the handler. -/
theorem Budgeted.again {history : List (Event QueueOps)} {event : Event QueueOps} {place : Place}
    {job : Job} (budgeted : Budgeted history place job) (quiet : handedBy event = none)
    (chance : chances job.id history + 1 ≤ chances job.id (history ++ [event])) :
    Budgeted (history ++ [event]) .taken job := by
  have spent : place.spent ≤ 1 := by cases place <;> simp [Place.spent]
  have other : handedBy event ≠ some job.id := by
    rw [quiet]
    exact Option.some_ne_none job.id |>.symm
  rw [Budgeted] at budgeted ⊢
  rw [times_quiet history other]
  change (_ : Int) ≤ _ + (0 : Nat)
  omega

theorem budgeted_rules : Rules settings Budgeted where
  later {history event place job} quiet budgeted := by
    refine budgeted.later ?_
    rw [quiet]
    exact (Option.some_ne_none job.id).symm
  copied budgeted sameId kind attempts := by
    rw [Budgeted, sameId, attempts]
    exact budgeted
  enqueued budgeted := budgeted
  taken budgeted := budgeted
  started {history job} budgeted := by
    rw [Budgeted] at budgeted ⊢
    exact budgeted.trans (by simp [Place.spent])
  put budgeted := budgeted
  retried again budgeted := budgeted
  delayed {history job retried} budgeted sameId kind attempts := by
    rw [Budgeted, sameId, attempts]
    rw [Budgeted] at budgeted
    simp only [Place.spent] at budgeted ⊢
    omega
  buried last budgeted := budgeted
  buriedUnknown {history job} unknown budgeted := by
    rw [Budgeted] at budgeted ⊢
    exact budgeted.trans (by simp [Place.spent])
  failed budgeted := budgeted
  reclaimed {history event job} reclaims budgeted := by
    refine budgeted.again ?_ ?_
    · rcases event with ⟨_ | _ | _ | _, answer⟩ <;> first | rfl | cases reclaims
    · simp only [chances, times_snoc, if_pos reclaims]
      omega
  requeued {history event job} requeues budgeted := by
    refine budgeted.again ?_ ?_
    · rcases event with ⟨_ | _ | _ | _, answer⟩ <;> first | rfl | cases requeues
    · simp only [chances, times_snoc, if_pos requeues]
      omega

/-- What is handed to its handler has been issued. -/
structure InBudget (settings : WorkerSettings) (config : QueueConfig) : Prop where
  exclusive : Exclusive settings config
  tried : Accounts settings (Tried settings) config
  accounts : Accounts settings Budgeted config
  issued : ∀ id, times handedBy id config.world.history ≠ 0 → Issued settings config.world id
  total : ∀ id, times handedBy id config.world.history ≤
    settings.workerMaxRetries + 1 + chances id config.world.history

theorem InBudget.initial (clock : Timestamp) :
    InBudget settings (.initial (.start .empty clock)) where
  exclusive := .initial clock
  tried := .initial clock
  accounts := .initial clock
  issued _ some := absurd rfl some
  total _ := Nat.zero_le _

/-- A job is handed to its handler: what has to be shown of it and its entry, and of all
others. -/
theorem Exclusive.handled_left {fact : List (Event QueueOps) → Place → Job → Prop}
    {pid : Pid} {job : Job} {error : Option String} (exclusive : Exclusive settings before)
    (accounts : Accounts settings fact before)
    (given : QueueConfig.stages settings before pid = .given job)
    (store : after.world.store = before.world.store)
    (stages : QueueConfig.stages settings after =
      Function.update (QueueConfig.stages settings before) pid (.handled job error))
    (own : ∀ place, place = .processing ∨ place = .handled error →
      fact after.world.history place job)
    (rest : ∀ place found, found.id ≠ job.id → fact before.world.history place found →
      fact after.world.history place found) :
    Accounts settings fact after := by
  have minds : QueueConfig.holds settings before pid =
      .minding (settings.workerProcessingQueueName, job.toJson) := congrArg _ given
  have mine : (QueueConfig.holds settings before pid).Has idOf job.id := by
    rw [minds]
    exact Hold.has_minding.mpr (idOf_toJson ..)
  refine ⟨fun key raw found member read => ?_, fun other => ?_⟩
  · by_cases same : found.id = job.id
    · obtain ⟨there, -⟩ := exclusive.custody.charged_of_minding minds
      have ids : idOf (key, raw) = idOf (settings.workerProcessingQueueName, job.toJson) := by
        rw [idOf_toJson, ← same]
        exact rawId_of_read read
      obtain ⟨rfl, rfl⟩ := Prod.mk.inj (exclusive.custody.unique (store ▸ member) there ids)
      rw [fromJson_toJson] at read
      obtain rfl := Except.ok.inj read
      rw [placeOf_processing]
      exact own _ (.inl rfl)
    · exact rest _ found same (accounts.stored key raw found (store ▸ member) read)
  · rw [stages]
    by_cases same : other = pid
    · rw [same, Function.update_self]
      rintro _ _ ⟨⟩
      exact own _ (.inr rfl)
    · rw [Function.update_of_ne same]
      intro place found carries
      refine rest place found (fun sameId => ?_) (accounts.carried other place found carries)
      have theirs : (QueueConfig.holds settings before other).Has idOf found.id :=
        has_of_carries carries
      rw [sameId] at theirs
      exact same (exclusive.custody.alone _ _ _ theirs mine)

theorem budgeted_left (budget : InBudget settings before) :
    Left settings Budgeted before after where
  handled {pid job error} given store history stages := by
    refine budget.exclusive.handled_left budget.accounts given store stages ?_ ?_
    · -- The handler is called once more, for this attempt.
      intro place here
      have budgeted : Budgeted before.world.history .taken job := by
        have carried := budget.accounts.carried pid
        rw [given] at carried
        exact carried _ job .given
      have one : place.spent = 1 := by rcases here with rfl | rfl <;> rfl
      have handed : handedBy ⟨.handle job, error⟩ = some job.id := rfl
      have more := chances_mono job.id before.world.history ⟨.handle job, error⟩
      rw [Budgeted, Place.spent] at budgeted
      rw [Budgeted, history, times_snoc, if_pos handed, one]
      push_cast
      omega
    · intro place found different budgeted
      rw [history]
      exact budgeted.later fun handed => different (Option.some.inj handed).symm
  named {job} fresh first := by
    have never : times handedBy job.id before.world.history = 0 := by
      by_contra some
      exact fresh.1 (budget.issued job.id some)
    rw [Budgeted, never, first]
    omega

theorem InBudget.step (budget : InBudget settings before)
    (spares : sparesWorkers settings before action)
    (taken : Step (queueMachine settings) before action after) : InBudget settings after := by
  have turn := budget.exclusive.ordered.turn taken
  have exclusive := budget.exclusive.step spares taken
  have tried := budget.tried.turn tried_rules turn (tried_left budget.tried)
  have accounts := budget.accounts.turn budgeted_rules turn (budgeted_left budget)
  cases turn with
  | quiet store issued history stages =>
      refine ⟨exclusive, tried, accounts, ?_, history ▸ budget.total⟩
      intro id some
      rw [Issued, issued]
      exact budget.issued id (history ▸ some)
  | @issue pid call stmt rest log answer running allowed executed stages =>
      -- Only what is handed out counts, and it is somebody's.
      have given : ∀ id, handedBy ⟨stmt, answer⟩ = some id →
          Issued settings before.world id ∧ times handedBy id before.world.history ≤
            settings.workerMaxRetries + chances id before.world.history := by
        intro id handed
        obtain ⟨job, stage, rfl, -⟩ := given_of_handedBy allowed handed
        have carries : (QueueConfig.stages settings before pid).Carries .taken job := stage ▸ .given
        refine ⟨budget.exclusive.issued _ (.inr ⟨pid, has_of_carries carries⟩), ?_⟩
        have left := budget.accounts.carried pid _ job carries
        have most := (budget.tried.carried pid _ job carries).1.2.1
        rw [Budgeted, Place.spent] at left
        omega
      refine ⟨exclusive, tried, accounts, fun id some => ?_, fun id => ?_⟩
      · rw [executed.history, times_snoc] at some
        refine issued_of_executed executed ?_
        by_cases handed : handedBy ⟨stmt, answer⟩ = Option.some id
        · exact (given id handed).1
        · rw [if_neg handed] at some
          exact budget.issued id some
      · have more := chances_mono id before.world.history ⟨stmt, answer⟩
        rw [executed.history, times_snoc]
        split
        · next handed =>
            have most := (given id handed).2
            omega
        · have most := budget.total id
          omega

/-- **A job is not tried too often**: once more than it is to be retried, and once for every
time it has been reclaimed or requeued. -/
theorem no_job_is_tried_too_often {clock : Timestamp} {config : QueueConfig}
    (runs : Runs (queueMachine settings) (sparesWorkers settings) (.initial (.start .empty clock))
      config) (id : String) :
    times handedBy id config.world.history ≤
      settings.workerMaxRetries + 1 + times reclaimedBy id config.world.history +
        times requeuedBy id config.world.history := by
  have budget : InBudget settings config :=
    runs.invariant (.initial clock) fun _ _ _ budget spares taken => budget.step spares taken
  have total := budget.total id
  rw [chances] at total
  omega

theorem tried_twice_within_budget : ∃ config,
    Runs (queueMachine plainSettings) (sparesWorkers plainSettings) beforeAll config ∧
      times handedBy "a" config.world.history = 2 ∧
      times handedBy "a" config.world.history ≤ plainSettings.workerMaxRetries + 1 +
        times reclaimedBy "a" config.world.history + times requeuedBy "a" config.world.history := by
  obtain ⟨config, runs, handed, -⟩ := handed_out_again
  refine ⟨config, runs, ?_, no_job_is_tried_too_often runs "a"⟩
  rw [times, handed]
  rfl

end AppointmentVoice.Queue
