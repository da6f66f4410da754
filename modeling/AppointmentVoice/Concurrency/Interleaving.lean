import AppointmentVoice.Concurrency.Program

/-!
# Interleaved execution of programs

A machine runs any number of programs over one shared world.  Each process
executes one call; a step of the machine starts a process, lets one running
process issue its next statement, ends a process, kills one, or lets the
surroundings change the world.  A statement that the world does not allow yet
simply has no step: the process waits.

Every process keeps the log of its statements and answers, and a finished call
is recorded with its result and its log, so that a statement about the outcome
of a call is a statement about a configuration.

Since only the choice of the next action is open, a list of actions determines
the run (`Config.runActions`), which is how concrete schedules are exhibited.

**The rules.** `Runs.invariant` for what every admitted step keeps, `Runs.spared` for what no
admitted step adds to a log, and `Runs.of_runActions` for a schedule.
-/

set_option autoImplicit false

namespace AppointmentVoice.Concurrency

/-- Names of processes. -/
abbrev Pid := Nat

/-- What interleaved programs run on: the program of each call, the effect of a
statement on the world (`none` when it has to wait), what starting and ending a
process does to the world, and what the surroundings may do at any time. -/
structure Machine (S : Signature) (World Call ε ρ : Type) where
  perform : Call → Program S ε ρ
  exec : Pid → Call → (stmt : S.Stmt) → World → Option (S.Answer stmt × World)
  enter : Pid → World → World
  leave : Pid → World → World
  ambient : World → World → Prop

/-- A running process: its call, the rest of its program and its log. -/
structure Process (S : Signature) (Call ε ρ : Type) where
  call : Call
  rest : Program S ε ρ
  log : List (Event S)

/-- A finished call with its result and its log. -/
structure Outcome (S : Signature) (Call ε ρ : Type) where
  call : Call
  result : Except ε ρ
  log : List (Event S)

/-- A configuration: the shared world, the running processes and the finished
calls, the latest last. -/
structure Config (S : Signature) (World Call ε ρ : Type) where
  world : World
  running : Pid → Option (Process S Call ε ρ)
  finished : List (Outcome S Call ε ρ)

/-- What may happen next. -/
inductive Action (Call : Type) where
  | start (pid : Pid) (call : Call)
  | issue (pid : Pid)
  | finish (pid : Pid)
  | stop (pid : Pid)
  | ambient

/-- The action starts only calls that are admitted. -/
def Action.Starts {Call : Type} (admitted : Call → Prop) : Action Call → Prop
  | .start _ call => admitted call
  | _ => True

/-- The result of a program that has come to its end. -/
def Program.result? {S : Signature} {ε α : Type} : Program S ε α → Option (Except ε α)
  | .ret value => some (.ok value)
  | .raise error => some (.error error)
  | .call _ _ => none

variable {S : Signature} {World Call ε ρ : Type}

/-- The configuration before anything has been started. -/
def Config.initial (world : World) : Config S World Call ε ρ :=
  ⟨world, fun _ => none, []⟩

/-- One step of the machine, labelled with the action taken. -/
inductive Step (machine : Machine S World Call ε ρ) :
    Config S World Call ε ρ → Action Call → Config S World Call ε ρ → Prop where
  | start {config : Config S World Call ε ρ} {pid : Pid} (call : Call)
      (idle : config.running pid = none) :
      Step machine config (.start pid call)
        ⟨machine.enter pid config.world,
          Function.update config.running pid (some ⟨call, machine.perform call, []⟩),
          config.finished⟩
  | issue {config : Config S World Call ε ρ} {pid : Pid} {call : Call} {stmt : S.Stmt}
      {next : S.Answer stmt → Program S ε ρ} {log : List (Event S)}
      {answer : S.Answer stmt} {world : World}
      (running : config.running pid = some ⟨call, .call stmt next, log⟩)
      (executed : machine.exec pid call stmt config.world = some (answer, world)) :
      Step machine config (.issue pid)
        ⟨world,
          Function.update config.running pid
            (some ⟨call, next answer, log ++ [⟨stmt, answer⟩]⟩),
          config.finished⟩
  | finish {config : Config S World Call ε ρ} {pid : Pid} {process : Process S Call ε ρ}
      {result : Except ε ρ}
      (running : config.running pid = some process)
      (ended : process.rest.result? = some result) :
      Step machine config (.finish pid)
        ⟨machine.leave pid config.world, Function.update config.running pid none,
          config.finished ++ [⟨process.call, result, process.log⟩]⟩
  | stop {config : Config S World Call ε ρ} {pid : Pid} {process : Process S Call ε ρ}
      (running : config.running pid = some process) :
      Step machine config (.stop pid)
        ⟨machine.leave pid config.world, Function.update config.running pid none,
          config.finished⟩
  | ambient {config : Config S World Call ε ρ} {world : World}
      (changed : machine.ambient config.world world) :
      Step machine config .ambient ⟨world, config.running, config.finished⟩

/-- Runs whose every step is admitted. -/
def Runs (machine : Machine S World Call ε ρ)
    (admitted : Config S World Call ε ρ → Action Call → Prop) :
    Config S World Call ε ρ → Config S World Call ε ρ → Prop :=
  Relation.ReflTransGen fun before after =>
    ∃ action, admitted before action ∧ Step machine before action after

/-- **The invariant rule for runs.** What holds at the start and is kept by
every admitted step holds in every configuration reached. -/
theorem Runs.invariant {machine : Machine S World Call ε ρ}
    {admitted : Config S World Call ε ρ → Action Call → Prop}
    {invariant : Config S World Call ε ρ → Prop}
    {start config : Config S World Call ε ρ} (runs : Runs machine admitted start config)
    (initial : invariant start)
    (step : ∀ before action after, invariant before → admitted before action →
      Step machine before action after → invariant after) :
    invariant config := by
  induction runs with
  | refl => exact initial
  | tail _ last ih =>
      obtain ⟨action, allowed, taken⟩ := last
      exact step _ action _ ih allowed taken

/-- Runs admitted by a stricter condition are admitted by a weaker one. -/
theorem Runs.mono {machine : Machine S World Call ε ρ}
    {strict weak : Config S World Call ε ρ → Action Call → Prop}
    (implies : ∀ config action, strict config action → weak config action)
    {start config : Config S World Call ε ρ} (runs : Runs machine strict start config) :
    Runs machine weak start config := by
  induction runs with
  | refl => exact .refl
  | tail _ last ih =>
      obtain ⟨action, allowed, taken⟩ := last
      exact ih.tail ⟨action, implies _ _ allowed, taken⟩

/-! ## Logs -/

/-- No call has an event of a given kind in its log; what kind an event is of may
depend on the events before it. -/
structure Config.Spared (bad : Call → List (Event S) → Event S → Prop)
    (config : Config S World Call ε ρ) : Prop where
  running : ∀ pid process, config.running pid = some process →
    ∀ earlier event, earlier ++ [event] <+: process.log → ¬bad process.call earlier event
  finished : ∀ outcome ∈ config.finished,
    ∀ earlier event, earlier ++ [event] <+: outcome.log → ¬bad outcome.call earlier event

theorem Config.spared_initial (bad : Call → List (Event S) → Event S → Prop) (world : World) :
    (Config.initial world : Config S World Call ε ρ).Spared bad where
  running := fun _ _ running => by cases running
  finished := fun _ member => by cases member

/-- **The rule for logs.** If no admitted step adds an event of a given kind,
then no call of the run has one. -/
theorem Runs.spared {machine : Machine S World Call ε ρ}
    {admitted : Config S World Call ε ρ → Action Call → Prop}
    {bad : Call → List (Event S) → Event S → Prop}
    {start config : Config S World Call ε ρ} (runs : Runs machine admitted start config)
    (initial : start.Spared bad)
    (adds : ∀ (config : Config S World Call ε ρ) pid call stmt
      (next : S.Answer stmt → Program S ε ρ) log answer world,
      admitted config (.issue pid) → config.running pid = some ⟨call, .call stmt next, log⟩ →
      machine.exec pid call stmt config.world = some (answer, world) →
        ¬bad call log ⟨stmt, answer⟩) :
    config.Spared bad := by
  refine runs.invariant initial fun before action after spared allowed step => ?_
  -- A process other than the one that moves keeps its log.
  have others : ∀ {pid : Pid} {replaced : Option (Process S Call ε ρ)} {other process},
      (∀ new, replaced = some new →
        ∀ earlier event, earlier ++ [event] <+: new.log → ¬bad new.call earlier event) →
      Function.update before.running pid replaced other = some process →
      ∀ earlier event, earlier ++ [event] <+: process.log → ¬bad process.call earlier event := by
    intro pid replaced other process fine running
    by_cases same : other = pid
    · subst same
      rw [Function.update_self] at running
      exact fine process running
    · rw [Function.update_of_ne same] at running
      exact spared.running other process running
  cases step with
  | start call idle =>
      refine ⟨fun other process => others fun new same => ?_, spared.finished⟩
      cases same
      intro earlier event begins
      exact absurd (List.prefix_nil.mp begins) (by simp)
  | @issue pid call stmt next log answer world running executed =>
      refine ⟨fun other process => others fun new same => ?_, spared.finished⟩
      cases same
      intro earlier event begins
      rcases List.prefix_concat_iff.mp begins with whole | old
      · obtain ⟨rfl, last⟩ := List.append_inj' whole rfl
        cases last
        exact adds before pid call stmt next earlier answer world allowed running executed
      · exact spared.running pid _ running earlier event old
  | @finish pid process result running ended =>
      refine ⟨fun other process => others (fun _ same => nomatch same), fun outcome member => ?_⟩
      rcases List.mem_append.mp member with old | added
      · exact spared.finished outcome old
      · rw [List.mem_singleton] at added
        subst added
        exact spared.running pid process running
  | stop running =>
      exact ⟨fun other process => others (fun _ same => nomatch same), spared.finished⟩
  | ambient changed => exact ⟨spared.running, spared.finished⟩

/-! ## Runs given by their actions -/

/-- The configuration an action leads to, when the action is possible.  The
surroundings are not driven by this function. -/
def Config.act (machine : Machine S World Call ε ρ) (config : Config S World Call ε ρ) :
    Action Call → Option (Config S World Call ε ρ)
  | .start pid call =>
      match config.running pid with
      | some _ => none
      | none => some
          ⟨machine.enter pid config.world,
            Function.update config.running pid (some ⟨call, machine.perform call, []⟩),
            config.finished⟩
  | .issue pid =>
      match config.running pid with
      | some ⟨call, .call stmt next, log⟩ =>
          match machine.exec pid call stmt config.world with
          | some (answer, world) => some
              ⟨world,
                Function.update config.running pid
                  (some ⟨call, next answer, log ++ [⟨stmt, answer⟩]⟩),
                config.finished⟩
          | none => none
      | _ => none
  | .finish pid =>
      match config.running pid with
      | some process =>
          match process.rest.result? with
          | some result => some
              ⟨machine.leave pid config.world, Function.update config.running pid none,
                config.finished ++ [⟨process.call, result, process.log⟩]⟩
          | none => none
      | none => none
  | .stop pid =>
      match config.running pid with
      | some _ => some
          ⟨machine.leave pid config.world, Function.update config.running pid none,
            config.finished⟩
      | none => none
  | .ambient => none

/-- An action that can be carried out is a step. -/
theorem Step.of_act {machine : Machine S World Call ε ρ}
    {config after : Config S World Call ε ρ} {action : Action Call}
    (acted : config.act machine action = some after) : Step machine config action after := by
  cases action with
  | start pid call =>
      simp only [Config.act] at acted
      split at acted
      · cases acted
      · next idle =>
          cases acted
          exact .start call idle
  | issue pid =>
      simp only [Config.act] at acted
      split at acted
      · next running =>
          split at acted
          · next executed =>
              cases acted
              exact .issue running executed
          · cases acted
      · cases acted
  | finish pid =>
      simp only [Config.act] at acted
      split at acted
      · next running =>
          split at acted
          · next ended =>
              cases acted
              exact .finish running ended
          · cases acted
      · cases acted
  | stop pid =>
      simp only [Config.act] at acted
      split at acted
      · next running =>
          cases acted
          exact .stop running
      · cases acted
  | ambient => cases acted

/-- Carry out a list of actions. -/
def Config.runActions (machine : Machine S World Call ε ρ) :
    List (Action Call) → Config S World Call ε ρ → Option (Config S World Call ε ρ)
  | [], config => some config
  | action :: actions, config =>
      match config.act machine action with
      | some after => after.runActions machine actions
      | none => none

/-- Every action of a list passes a guard when its turn comes. -/
def Config.passes (machine : Machine S World Call ε ρ)
    (guard : Config S World Call ε ρ → Action Call → Bool) :
    List (Action Call) → Config S World Call ε ρ → Bool
  | [], _ => true
  | action :: actions, config =>
      guard config action &&
        match config.act machine action with
        | some after => after.passes machine guard actions
        | none => true

/-- A list of actions that can be carried out and pass a guard is a run of
admitted steps. -/
theorem Runs.of_guarded {machine : Machine S World Call ε ρ}
    {admitted : Config S World Call ε ρ → Action Call → Prop}
    {guard : Config S World Call ε ρ → Action Call → Bool}
    (sound : ∀ config action, guard config action = true → admitted config action)
    (actions : List (Action Call)) {start config : Config S World Call ε ρ}
    (passes : start.passes machine guard actions = true)
    (ran : start.runActions machine actions = some config) :
    Runs machine admitted start config := by
  induction actions generalizing start with
  | nil =>
      cases ran
      exact .refl
  | cons action actions ih =>
      simp only [Config.runActions] at ran
      split at ran
      · next acted =>
          simp only [Config.passes, acted, Bool.and_eq_true] at passes
          exact .head ⟨action, sound _ _ passes.1, .of_act acted⟩ (ih passes.2 ran)
      · cases ran

/-- The action is a step of one of some processes, and does not stop it. -/
def Action.among (mine : Pid → Bool) : Action Call → Bool
  | .start pid _ => mine pid
  | .issue pid => mine pid
  | .finish pid => mine pid
  | _ => false

/-- The action is a step of one process, and does not stop it. -/
def Action.by (pid : Pid) : Action Call → Bool
  | .start other _ => other == pid
  | .issue other => other == pid
  | .finish other => other == pid
  | _ => false

theorem Action.by_eq_among (pid : Pid) (action : Action Call) :
    action.by pid = action.among (· == pid) := by
  cases action <;> rfl

/-- The action is one of that process. -/
def Action.of (pid : Pid) : Action Call → Bool
  | .start other _ => other == pid
  | .issue other => other == pid
  | .finish other => other == pid
  | .stop other => other == pid
  | .ambient => false

theorem Action.not_of_among {mine : Pid → Bool} {action : Action Call} {other : Pid}
    (theirs : action.among mine = true) (different : mine other = false) :
    action.of other = false := by
  have apart : ∀ {mover : Pid}, mine mover = true → (mover == other) = false := by
    intro mover moves
    refine beq_false_of_ne ?_
    rintro rfl
    rw [moves] at different
    cases different
  cases action with
  | start mover call => exact apart theirs
  | issue mover => exact apart theirs
  | finish mover => exact apart theirs
  | stop mover => cases theirs
  | ambient => rfl

/-- A step of another process leaves a process idle. -/
theorem Step.idle {machine : Machine S World Call ε ρ} {before after : Config S World Call ε ρ}
    {action : Action Call} {pid : Pid} (taken : Step machine before action after)
    (other : action.of pid = false) (idle : before.running pid = none) :
    after.running pid = none := by
  have kept : ∀ {mover : Pid} {process}, (mover == pid) = false →
      Function.update before.running mover process pid = none :=
    fun apart => (Function.update_of_ne (ne_of_beq_false apart).symm ..).trans idle
  cases taken with
  | start call free => exact kept other
  | issue running executed => exact kept other
  | finish running ended => exact kept other
  | stop running => exact kept other
  | ambient changed => exact idle

/-- The actions of others leave a process idle. -/
theorem Config.idle_of_actions {machine : Machine S World Call ε ρ} {pid : Pid}
    (actions : List (Action Call)) {start config : Config S World Call ε ρ}
    (others : ∀ action ∈ actions, action.of pid = false) (idle : start.running pid = none)
    (ran : start.runActions machine actions = some config) : config.running pid = none := by
  induction actions generalizing start with
  | nil =>
      cases ran
      exact idle
  | cons action actions ih =>
      simp only [Config.runActions] at ran
      split at ran
      · next acted =>
          exact ih (fun later member => others later (List.mem_cons_of_mem action member))
            ((Step.of_act acted).idle (others action List.mem_cons_self) idle) ran
      · cases ran

/-- A list of actions of some processes that run alone, and that pass a guard, is a run of
steps that are admitted while no other process runs. -/
theorem Runs.of_few_guarded {machine : Machine S World Call ε ρ}
    {admitted : Config S World Call ε ρ → Action Call → Prop}
    {guard : Config S World Call ε ρ → Action Call → Bool} {mine : Pid → Bool}
    (sound : ∀ (config : Config S World Call ε ρ) action,
      (∀ other, mine other = false → config.running other = none) → action.among mine = true →
        guard config action = true → admitted config action)
    (actions : List (Action Call)) {start config : Config S World Call ε ρ}
    (theirs : actions.all (·.among mine) = true)
    (passes : start.passes machine guard actions = true)
    (alone : ∀ other, mine other = false → start.running other = none)
    (ran : start.runActions machine actions = some config) :
    Runs machine admitted start config := by
  induction actions generalizing start with
  | nil =>
      cases ran
      exact .refl
  | cons action actions ih =>
      rw [List.all_cons, Bool.and_eq_true] at theirs
      simp only [Config.runActions] at ran
      split at ran
      · next after acted =>
          simp only [Config.passes, acted, Bool.and_eq_true] at passes
          have taken := Step.of_act acted
          exact .head ⟨action, sound _ _ alone theirs.1 passes.1, taken⟩
            (ih theirs.2 passes.2 (fun other different =>
              taken.idle (Action.not_of_among theirs.1 different) (alone other different)) ran)
      · cases ran

/-- A list of actions of one process that runs alone, and that pass a guard, is a run of
steps that are admitted while no other process runs. -/
theorem Runs.of_single_guarded {machine : Machine S World Call ε ρ}
    {admitted : Config S World Call ε ρ → Action Call → Prop}
    {guard : Config S World Call ε ρ → Action Call → Bool} {pid : Pid}
    (sound : ∀ (config : Config S World Call ε ρ) action,
      (∀ other, other ≠ pid → config.running other = none) → action.by pid = true →
        guard config action = true → admitted config action)
    (actions : List (Action Call)) {start config : Config S World Call ε ρ}
    (mine : actions.all (·.by pid) = true) (passes : start.passes machine guard actions = true)
    (alone : ∀ other, other ≠ pid → start.running other = none)
    (ran : start.runActions machine actions = some config) :
    Runs machine admitted start config := by
  simp only [Action.by_eq_among] at mine sound
  refine .of_few_guarded (fun config action idle => sound config action fun other different => ?_)
    actions mine passes (fun other different => alone other (bne_iff_ne.mp ?_)) ran
  · exact idle other (beq_false_of_ne different)
  · rw [bne, different]
    rfl

theorem Config.passes_all (machine : Machine S World Call ε ρ) (actions : List (Action Call))
    (config : Config S World Call ε ρ) :
    config.passes machine (fun _ _ => true) actions = true := by
  induction actions generalizing config with
  | nil => rfl
  | cons action actions ih =>
      simp only [Config.passes, Bool.true_and]
      split
      · exact ih _
      · rfl

/-- A list of actions of one process that runs alone is a run of steps that are
admitted while no other process runs. -/
theorem Runs.of_single {machine : Machine S World Call ε ρ}
    {admitted : Config S World Call ε ρ → Action Call → Prop} {pid : Pid}
    (sound : ∀ (config : Config S World Call ε ρ) action,
      (∀ other, other ≠ pid → config.running other = none) → action.by pid = true →
        admitted config action)
    (actions : List (Action Call)) {start config : Config S World Call ε ρ}
    (mine : actions.all (·.by pid) = true)
    (alone : ∀ other, other ≠ pid → start.running other = none)
    (ran : start.runActions machine actions = some config) :
    Runs machine admitted start config :=
  .of_single_guarded (fun config action alone mine _ => sound config action alone mine) actions mine
    (Config.passes_all machine actions start) alone ran

/-- A list of actions that can be carried out is a run. -/
theorem Runs.of_runActions {machine : Machine S World Call ε ρ} (actions : List (Action Call))
    {start config : Config S World Call ε ρ}
    (ran : start.runActions machine actions = some config) :
    Runs machine (fun _ _ => True) start config :=
  .of_guarded (fun _ _ _ => trivial) actions (Config.passes_all machine actions start) ran

/-- The actions of one process leave the others idle. -/
theorem Runs.idle_of_single {machine : Machine S World Call ε ρ} {pid : Pid}
    (actions : List (Action Call)) {start config : Config S World Call ε ρ}
    (mine : actions.all (·.by pid) = true)
    (alone : ∀ other, other ≠ pid → start.running other = none)
    (ran : start.runActions machine actions = some config) :
    ∀ other, other ≠ pid → config.running other = none := by
  intro other different
  have runs : Runs machine (fun _ action => action.by pid = true) start config :=
    .of_single (fun _ _ _ mine => mine) actions mine alone ran
  exact runs.invariant (alone other different) fun _ action _ idle byPid taken => by
    rw [Action.by_eq_among] at byPid
    exact taken.idle (Action.not_of_among byPid (beq_false_of_ne different)) idle

end AppointmentVoice.Concurrency
