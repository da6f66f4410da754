import AppointmentVoice.Concurrency.Interleaving

/-!
# What programs do on every path

Much of what a program does can be read off its text alone: whatever the answers
to its statements, it sends one statement only after another, or returns only
after a third.  A monitor reads the statements and answers of one process and
keeps a state of its own; it says which answers are taken to be possible and which
statements are allowed, and a postcondition says in which of its states the
program may return or raise.

`Monitor.Along` is defined by recursion on the program, so it is proved by
following the text, and `Config.Watched.step` carries it through the runs of a
machine: there the answers that the monitor takes to be possible have to be the
ones that the world gives.
-/

set_option autoImplicit false

namespace AppointmentVoice.Concurrency

variable {S : Signature} {World Call ε ρ α β σ : Type}

/-! ## Statements of a program -/

namespace Program

/-- Every statement on every path of the program is of a given kind. -/
inductive Only (kind : S.Stmt → Prop) : Program S ε α → Prop where
  | ret (value : α) : Only kind (.ret value)
  | raise (error : ε) : Only kind (.raise error)
  | call {stmt : S.Stmt} {next : S.Answer stmt → Program S ε α} (fits : kind stmt)
      (rest : ∀ answer, Only kind (next answer)) : Only kind (.call stmt next)

variable {kind : S.Stmt → Prop}

theorem Only.issue {stmt : S.Stmt} (fits : kind stmt) :
    (Program.issue stmt : Program S ε _).Only kind :=
  .call fits fun answer => .ret answer

theorem Only.imp {wide : S.Stmt → Prop} {program : Program S ε α} (only : program.Only kind)
    (fits : ∀ stmt, kind stmt → wide stmt) : program.Only wide := by
  induction only with
  | ret value => exact .ret value
  | raise error => exact .raise error
  | call kept _ ih => exact .call (fits _ kept) ih

theorem Only.bind {program : Program S ε α} {next : α → Program S ε β} (first : program.Only kind)
    (second : ∀ value, (next value).Only kind) : (program >>= next).Only kind := by
  induction first with
  | ret value => exact second value
  | raise error => exact .raise error
  | call fits _ ih => exact .call fits ih

theorem Only.tryCatch {program : Program S ε α} {handler : ε → Program S ε α}
    (first : program.Only kind) (second : ∀ error, (handler error).Only kind) :
    (MonadExcept.tryCatch program handler).Only kind := by
  induction first with
  | ret value => exact .ret value
  | raise error => exact second error
  | call fits _ ih => exact .call fits ih

end Program

/-! ## Monitors -/

/-- An observer of the statements of one process. -/
structure Monitor (S : Signature) (σ : Type) where
  may : σ → Event S → Prop
  must : σ → S.Stmt → Prop
  learn : σ → Event S → σ

namespace Monitor

variable (monitor : Monitor S σ)

/-- The state of the monitor after some events. -/
def after (state : σ) (log : List (Event S)) : σ := log.foldl monitor.learn state

/-- On every path on which the answers are possible, the statements are allowed and
the end meets the postcondition. -/
inductive Along (post : Except ε α → σ → Prop) : Program S ε α → σ → Prop where
  | ret {value : α} {state : σ} (met : post (.ok value) state) : Along post (.ret value) state
  | raise {error : ε} {state : σ} (met : post (.error error) state) :
      Along post (.raise error) state
  | call {stmt : S.Stmt} {next : S.Answer stmt → Program S ε α} {state : σ}
      (allowed : monitor.must state stmt)
      (rest : ∀ answer, monitor.may state ⟨stmt, answer⟩ →
        Along post (next answer) (monitor.learn state ⟨stmt, answer⟩)) :
      Along post (.call stmt next) state

variable {monitor}

theorem after_snoc (state : σ) (log : List (Event S)) (event : Event S) :
    monitor.after state (log ++ [event]) = monitor.learn (monitor.after state log) event := by
  rw [after, List.foldl_append]
  rfl

theorem Along.mono {program : Program S ε α} {state : σ} {strong weak : Except ε α → σ → Prop}
    (along : monitor.Along strong program state)
    (implies : ∀ result state, strong result state → weak result state) :
    monitor.Along weak program state := by
  induction along with
  | ret met => exact .ret (implies _ _ met)
  | raise met => exact .raise (implies _ _ met)
  | call allowed _ ih => exact .call allowed ih

/-- What is left to show after the first part of a sequence. -/
def afterBind (monitor : Monitor S σ) (next : α → Program S ε β) (post : Except ε β → σ → Prop) :
    Except ε α → σ → Prop
  | .ok value, state => monitor.Along post (next value) state
  | .error error, state => post (.error error) state

theorem Along.bind {program : Program S ε α} {next : α → Program S ε β} {state : σ}
    {post : Except ε β → σ → Prop}
    (along : monitor.Along (monitor.afterBind next post) program state) :
    monitor.Along post (program >>= next) state := by
  induction along with
  | ret met => exact met
  | raise met => exact .raise met
  | call allowed _ ih => exact .call allowed ih

/-- A statement, and what comes after it. -/
theorem Along.issue {stmt : S.Stmt} {next : S.Answer stmt → Program S ε β} {state : σ}
    {post : Except ε β → σ → Prop} (allowed : monitor.must state stmt)
    (rest : ∀ answer, monitor.may state ⟨stmt, answer⟩ →
      monitor.Along post (next answer) (monitor.learn state ⟨stmt, answer⟩)) :
    monitor.Along post ((Program.issue stmt : Program S ε _) >>= next) state :=
  .call allowed rest

/-- `raise` under a condition, and what comes after it. -/
theorem Along.guard {condition : Prop} [Decidable condition] {error : ε} {program : Program S ε α}
    {next : α → Program S ε β} {state : σ} {post : Except ε β → σ → Prop}
    (raises : post (.error error) state)
    (rest : ¬condition → monitor.Along post (program >>= next) state) :
    monitor.Along post
      ((if condition then (do let _ ← (throw error : Program S ε PUnit); program) else program :
        Program S ε α) >>= next) state := by
  split
  · exact .raise raises
  · next goesOn => exact rest goesOn

/-- What is left to show after the body of `try … except`. -/
def afterTry (monitor : Monitor S σ) (handler : ε → Program S ε α) (post : Except ε α → σ → Prop) :
    Except ε α → σ → Prop
  | .ok value, state => post (.ok value) state
  | .error error, state => monitor.Along post (handler error) state

theorem Along.tryCatch {program : Program S ε α} {handler : ε → Program S ε α} {state : σ}
    {post : Except ε α → σ → Prop}
    (along : monitor.Along (monitor.afterTry handler post) program state) :
    monitor.Along post (MonadExcept.tryCatch program handler) state := by
  induction along with
  | ret met => exact .ret met
  | raise met => exact met
  | call allowed _ ih => exact .call allowed ih

/-- Every program is along a monitor that allows all statements and asks nothing of the end. -/
theorem Along.of_lax {post : Except ε α → σ → Prop} (allows : ∀ state stmt, monitor.must state stmt)
    (ends : ∀ result state, post result state) (program : Program S ε α) (state : σ) :
    monitor.Along post program state := by
  induction program generalizing state with
  | ret value => exact .ret (ends _ state)
  | raise error => exact .raise (ends _ state)
  | call stmt next ih => exact .call (allows state stmt) fun answer _ => ih answer _

/-- A program of statements that are always allowed leaves the monitor in a state
that can be reached by such statements. -/
theorem Along.of_only {kind : S.Stmt → Prop} {program : Program S ε α} {state : σ}
    {reach : σ → σ → Prop} (here : reach state state)
    (allowed : ∀ later stmt, reach state later → kind stmt → monitor.must later stmt ∧
      ∀ answer, reach state (monitor.learn later ⟨stmt, answer⟩))
    (only : program.Only kind) :
      monitor.Along (fun _ later => reach state later) program state := by
  suffices fromHere : ∀ later, reach state later →
      monitor.Along (fun _ last => reach state last) program later from fromHere state here
  induction only with
  | ret value => exact fun later reached => .ret reached
  | raise error => exact fun later reached => .raise reached
  | call fits _ ih =>
      intro later reached
      obtain ⟨must, learns⟩ := allowed later _ reached fits
      exact .call must fun answer _ => ih answer _ (learns answer)

end Monitor

/-! ## In a machine -/

/-- How the processes of a machine are observed: by a monitor for each call, from a
state on, to a postcondition. -/
structure Watch (S : Signature) (Call ε ρ σ : Type) where
  monitor : Call → Monitor S σ
  initial : Call → σ
  post : Call → Except ε ρ → σ → Prop

namespace Watch

variable (watch : Watch S Call ε ρ σ)

/-- What the monitor of a call has come to. -/
def state (call : Call) (log : List (Event S)) : σ :=
  (watch.monitor call).after (watch.initial call) log

variable {watch}

theorem state_snoc (call : Call) (log : List (Event S)) (event : Event S) :
    watch.state call (log ++ [event]) =
      (watch.monitor call).learn (watch.state call log) event :=
  Monitor.after_snoc ..

end Watch

/-- Every running process does what its monitor allows from where it is, and every
finished call has ended in a state that meets the postcondition. -/
structure Config.Watched (watch : Watch S Call ε ρ σ) (config : Config S World Call ε ρ) :
    Prop where
  running : ∀ pid process, config.running pid = some process →
    (watch.monitor process.call).Along (watch.post process.call) process.rest
      (watch.state process.call process.log)
  finished : ∀ outcome ∈ config.finished,
    watch.post outcome.call outcome.result (watch.state outcome.call outcome.log)

namespace Config.Watched

variable {watch : Watch S Call ε ρ σ}

theorem initial (watch : Watch S Call ε ρ σ) (world : World) :
    (Config.initial world : Config S World Call ε ρ).Watched watch where
  running := fun _ _ running => by cases running
  finished := fun _ member => by cases member

/-- A process other than the one that moves is where it was. -/
theorem update {config : Config S World Call ε ρ} (watched : config.Watched watch) {pid : Pid}
    {replaced : Option (Process S Call ε ρ)}
    (fine : ∀ process, replaced = some process →
      (watch.monitor process.call).Along (watch.post process.call) process.rest
        (watch.state process.call process.log)) :
    ∀ other process, Function.update config.running pid replaced other = some process →
      (watch.monitor process.call).Along (watch.post process.call) process.rest
        (watch.state process.call process.log) := by
  intro other process running
  by_cases same : other = pid
  · subst same
    rw [Function.update_self] at running
    exact fine process running
  · rw [Function.update_of_ne same] at running
    exact watched.running other process running

/-- **The step rule.** A step whose event is possible for the monitor keeps every
process within what its monitor allows. -/
theorem step {machine : Machine S World Call ε ρ} {before after : Config S World Call ε ρ}
    {action : Action Call} (watched : before.Watched watch)
    (taken : Step machine before action after)
    (starts : ∀ call, (watch.monitor call).Along (watch.post call) (machine.perform call)
      (watch.initial call))
    (possible : ∀ pid call stmt (next : S.Answer stmt → Program S ε ρ) log answer world,
      action = .issue pid → before.running pid = some ⟨call, .call stmt next, log⟩ →
      machine.exec pid call stmt before.world = some (answer, world) →
        (watch.monitor call).may (watch.state call log) ⟨stmt, answer⟩) : after.Watched watch := by
  cases taken with
  | start call idle =>
      refine ⟨watched.update fun process same => ?_, watched.finished⟩
      cases same
      exact starts call
  | @issue pid call stmt next log answer world running executed =>
      refine ⟨watched.update fun process same => ?_, watched.finished⟩
      cases same
      rw [Watch.state_snoc]
      have along := watched.running pid _ running
      cases along with
      | call allowed rest =>
          exact rest answer (possible pid call stmt next log answer world rfl running executed)
  | @finish pid process result running ended =>
      refine ⟨watched.update (fun _ same => nomatch same), fun outcome member => ?_⟩
      rcases List.mem_append.mp member with old | added
      · exact watched.finished outcome old
      · rw [List.mem_singleton] at added
        subst added
        have along := watched.running pid process running
        obtain ⟨call, rest, log⟩ := process
        cases along with
        | ret met =>
            cases ended
            exact met
        | raise met =>
            cases ended
            exact met
        | call allowed rest => cases ended
  | stop running => exact ⟨watched.update (fun _ same => nomatch same), watched.finished⟩
  | ambient changed => exact ⟨watched.running, watched.finished⟩

end Config.Watched

/-! ## Kinds of statements -/

/-- Every running process issues only statements of the kind of its call. -/
def Config.Confined (kind : Call → S.Stmt → Prop) (config : Config S World Call ε ρ) : Prop :=
  ∀ pid process, config.running pid = some process → process.rest.Only (kind process.call)

namespace Config.Confined

variable {kind : Call → S.Stmt → Prop}

theorem initial (world : World) : (Config.initial world : Config S World Call ε ρ).Confined kind :=
  fun _ _ running => by cases running

theorem step {machine : Machine S World Call ε ρ} {before after : Config S World Call ε ρ}
    {action : Action Call} (confined : before.Confined kind)
    (taken : Step machine before action after)
    (starts : ∀ call, (machine.perform call).Only (kind call)) : after.Confined kind := by
  have others : ∀ {pid : Pid} {replaced : Option (Process S Call ε ρ)},
      (∀ process, replaced = some process → process.rest.Only (kind process.call)) →
      ∀ other process, Function.update before.running pid replaced other = some process →
        process.rest.Only (kind process.call) := by
    intro pid replaced fine other process running
    by_cases same : other = pid
    · subst same
      rw [Function.update_self] at running
      exact fine process running
    · rw [Function.update_of_ne same] at running
      exact confined other process running
  cases taken with
  | start call idle =>
      refine others fun process same => ?_
      cases same
      exact starts call
  | @issue pid call stmt next log answer world running executed =>
      refine others fun process same => ?_
      cases same
      have only := confined pid _ running
      cases only with
      | call fits rest => exact rest answer
  | finish running ended => exact others (fun _ same => nomatch same)
  | stop running => exact others (fun _ same => nomatch same)
  | ambient changed => exact confined

/-- The statement that a process issues is of the kind of its call. -/
theorem issued {config : Config S World Call ε ρ} (confined : config.Confined kind) {pid : Pid}
    {call : Call} {stmt : S.Stmt} {next : S.Answer stmt → Program S ε ρ} {log : List (Event S)}
    (running : config.running pid = some ⟨call, .call stmt next, log⟩) : kind call stmt := by
  have only := confined pid _ running
  cases only with
  | call fits rest => exact fits

end Config.Confined

/-! ## What calls know -/

/-- Something is known of the world for every call and its log. -/
structure Config.Every (known : World → Call → List (Event S) → Prop)
    (config : Config S World Call ε ρ) : Prop where
  running : ∀ pid process, config.running pid = some process →
    known config.world process.call process.log
  finished : ∀ outcome ∈ config.finished, known config.world outcome.call outcome.log

namespace Config.Every

variable {known : World → Call → List (Event S) → Prop}

theorem initial (world : World) : (Config.initial world : Config S World Call ε ρ).Every known where
  running := fun _ _ running => by cases running
  finished := fun _ member => by cases member

/-- **The rule for what calls know.** What the steps leave true of the logs that there are,
what is known at the start of a call, and what its statements teach, is known of every
call. -/
theorem step {machine : Machine S World Call ε ρ} {before after : Config S World Call ε ρ}
    {action : Action Call} (every : before.Every known) (taken : Step machine before action after)
    (kept : ∀ call log, known before.world call log → known after.world call log)
    (starts : ∀ pid call, action = .start pid call → known after.world call [])
    (learns : ∀ pid call stmt (next : S.Answer stmt → Program S ε ρ) log answer,
      action = .issue pid → before.running pid = some ⟨call, .call stmt next, log⟩ →
      machine.exec pid call stmt before.world = some (answer, after.world) →
      known before.world call log → known after.world call (log ++ [⟨stmt, answer⟩])) :
    after.Every known := by
  have others : ∀ {pid : Pid} {replaced : Option (Process S Call ε ρ)},
      (∀ process, replaced = some process → known after.world process.call process.log) →
      ∀ other process, Function.update before.running pid replaced other = some process →
        known after.world process.call process.log := by
    intro pid replaced fine other process running
    by_cases same : other = pid
    · subst same
      rw [Function.update_self] at running
      exact fine process running
    · rw [Function.update_of_ne same] at running
      exact kept _ _ (every.running other process running)
  have earlier : ∀ outcome ∈ before.finished, known after.world outcome.call outcome.log :=
    fun outcome member => kept _ _ (every.finished outcome member)
  cases taken with
  | start call idle =>
      refine ⟨others fun process same => ?_, earlier⟩
      cases same
      exact starts _ call rfl
  | @issue pid call stmt next log answer world running executed =>
      refine ⟨others fun process same => ?_, earlier⟩
      cases same
      exact learns pid call stmt next log answer rfl running executed (every.running pid _ running)
  | @finish pid process result running ended =>
      refine ⟨others (fun _ same => nomatch same), fun outcome member => ?_⟩
      rcases List.mem_append.mp member with old | new
      · exact earlier outcome old
      · rw [List.mem_singleton] at new
        subst new
        exact kept _ _ (every.running pid process running)
  | stop running => exact ⟨others (fun _ same => nomatch same), earlier⟩
  | ambient changed =>
      exact ⟨fun pid process running => kept _ _ (every.running pid process running), earlier⟩

end Config.Every

/-! ## Where the processes are -/

/-- What the monitor of each process has come to; a name that no process has is at
rest. -/
def Config.stages (watch : Watch S Call ε ρ σ) (rest : σ) (config : Config S World Call ε ρ)
    (pid : Pid) : σ :=
  match config.running pid with
  | some process => watch.state process.call process.log
  | none => rest

/-- A step, as it looks from outside the processes. -/
inductive Staged (machine : Machine S World Call ε ρ) (watch : Watch S Call ε ρ σ) (rest : σ)
    (before after : Config S World Call ε ρ) : Action Call → Prop where
  | start {pid : Pid} {call : Call} (idle : before.stages watch rest pid = rest)
      (world : after.world = machine.enter pid before.world)
      (stages : after.stages watch rest =
        Function.update (before.stages watch rest) pid (watch.initial call)) :
      Staged machine watch rest before after (.start pid call)
  | issue {pid : Pid} {call : Call} {stmt : S.Stmt} {next : S.Answer stmt → Program S ε ρ}
      {log : List (Event S)} {answer : S.Answer stmt}
      (running : before.running pid = some ⟨call, .call stmt next, log⟩)
      (allowed : (watch.monitor call).must (before.stages watch rest pid) stmt)
      (executed : machine.exec pid call stmt before.world = some (answer, after.world))
      (stages : after.stages watch rest = Function.update (before.stages watch rest) pid
        ((watch.monitor call).learn (before.stages watch rest pid) ⟨stmt, answer⟩)) :
      Staged machine watch rest before after (.issue pid)
  | finish {pid : Pid} {call : Call} {result : Except ε ρ}
      (met : watch.post call result (before.stages watch rest pid))
      (world : after.world = machine.leave pid before.world)
      (stages : after.stages watch rest = Function.update (before.stages watch rest) pid rest) :
      Staged machine watch rest before after (.finish pid)
  | stop {pid : Pid} (world : after.world = machine.leave pid before.world)
      (stages : after.stages watch rest = Function.update (before.stages watch rest) pid rest) :
      Staged machine watch rest before after (.stop pid)
  | ambient (changed : machine.ambient before.world after.world)
      (stages : after.stages watch rest = before.stages watch rest) :
      Staged machine watch rest before after .ambient

namespace Config

variable {watch : Watch S Call ε ρ σ} {rest : σ}

theorem stages_running {config : Config S World Call ε ρ} {pid : Pid}
    {process : Process S Call ε ρ} (running : config.running pid = some process) :
    config.stages watch rest pid = watch.state process.call process.log := by
  rw [stages, running]

theorem stages_idle {config : Config S World Call ε ρ} {pid : Pid}
    (idle : config.running pid = none) : config.stages watch rest pid = rest := by
  rw [stages, idle]

theorem stages_update {config : Config S World Call ε ρ} {world : World} {pid : Pid}
    {replaced : Option (Process S Call ε ρ)} {finished : List (Outcome S Call ε ρ)} :
    (⟨world, Function.update config.running pid replaced, finished⟩ :
      Config S World Call ε ρ).stages watch rest =
        Function.update (config.stages watch rest) pid
          (match replaced with
            | some process => watch.state process.call process.log
            | none => rest) := by
  funext other
  by_cases same : other = pid
  · subst same
    rw [Function.update_self]
    simp only [stages, Function.update_self]
  · rw [Function.update_of_ne same]
    simp only [stages, Function.update_of_ne same]

/-- **Every step can be looked at from outside.** -/
theorem Watched.staged {machine : Machine S World Call ε ρ}
    {before after : Config S World Call ε ρ} {action : Action Call}
    (watched : before.Watched watch) (taken : Step machine before action after) (rest : σ) :
    Staged machine watch rest before after action := by
  cases taken with
  | start call idle => exact .start (stages_idle idle) rfl stages_update
  | @issue pid call stmt next log answer world running executed =>
      have along := watched.running pid _ running
      have here : before.stages watch rest pid = _ := stages_running running
      cases along with
      | call allowed goesOn =>
          refine .issue running (here.symm ▸ allowed) executed ?_
          rw [stages_update, here]
          exact congrArg _ (Watch.state_snoc ..)
  | @finish pid process result running ended =>
      have along := watched.running pid _ running
      have here : before.stages watch rest pid = _ := stages_running running
      obtain ⟨call, program, log⟩ := process
      cases along with
      | ret met => exact .finish (here.symm ▸ met) rfl stages_update
      | raise met => exact .finish (here.symm ▸ met) rfl stages_update
      | call allowed goesOn => cases ended
  | stop running => exact .stop rfl stages_update
  | ambient changed => exact .ambient changed rfl

end Config

/-! ## Who has done what -/

/-- The call and the log of a process that runs, or of a call that has finished. -/
def Config.record (config : Config S World Call ε ρ) : Pid ⊕ Nat → Option (Call × List (Event S))
  | .inl pid => (config.running pid).map fun process => (process.call, process.log)
  | .inr index => (config.finished[index]?).map fun outcome => (outcome.call, outcome.log)

/-- The call found there has a log of a given kind. -/
def Config.Marked (config : Config S World Call ε ρ) (mark : Call → List (Event S) → Prop)
    (who : Pid ⊕ Nat) : Prop :=
  ∃ call log, config.record who = some (call, log) ∧ mark call log

namespace Config

variable {mark : Call → List (Event S) → Prop} {before after : Config S World Call ε ρ}

theorem marked_running {config : Config S World Call ε ρ} {pid : Pid} :
    config.Marked mark (.inl pid) ↔
      ∃ process, config.running pid = some process ∧ mark process.call process.log := by
  constructor
  · rintro ⟨call, log, recorded, marked⟩
    obtain ⟨process, running, same⟩ := Option.map_eq_some_iff.mp recorded
    cases same
    exact ⟨process, running, marked⟩
  · rintro ⟨process, running, marked⟩
    exact ⟨process.call, process.log, Option.map_eq_some_iff.mpr ⟨process, running, rfl⟩, marked⟩

theorem marked_finished {config : Config S World Call ε ρ} {index : Nat} :
    config.Marked mark (.inr index) ↔
      ∃ outcome, config.finished[index]? = some outcome ∧ mark outcome.call outcome.log := by
  constructor
  · rintro ⟨call, log, recorded, marked⟩
    obtain ⟨outcome, there, same⟩ := Option.map_eq_some_iff.mp recorded
    cases same
    exact ⟨outcome, there, marked⟩
  · rintro ⟨outcome, there, marked⟩
    exact ⟨outcome.call, outcome.log, Option.map_eq_some_iff.mpr ⟨outcome, there, rfl⟩, marked⟩

/-- A statement leaves the records of all other calls alone. -/
theorem marked_of_ne {config : Config S World Call ε ρ} {world : World} {pid : Pid}
    {replaced : Option (Process S Call ε ρ)} {who : Pid ⊕ Nat} (other : who ≠ .inl pid) :
    (⟨world, Function.update config.running pid replaced, config.finished⟩ :
      Config S World Call ε ρ).Marked mark who ↔ config.Marked mark who := by
  cases who with
  | inr index => rfl
  | inl owner =>
      have different : owner ≠ pid := fun same => other (congrArg Sum.inl same)
      rw [marked_running, marked_running]
      dsimp only
      rw [Function.update_of_ne different]

/-- **Records are only renamed.** A step that marks nobody, and does not stop a
call that is marked, leaves the marked calls as they are, up to where they are
found. -/
theorem Marked.renamed {machine : Machine S World Call ε ρ} {action : Action Call}
    (taken : Step machine before action after) (fresh : ∀ call, ¬mark call [])
    (quiet : ∀ pid call stmt (next : S.Answer stmt → Program S ε ρ) log answer world,
      action = .issue pid → before.running pid = some ⟨call, .call stmt next, log⟩ →
      machine.exec pid call stmt before.world = some (answer, world) →
        (mark call (log ++ [⟨stmt, answer⟩]) ↔ mark call log))
    (kept : ∀ pid process, action = .stop pid → before.running pid = some process →
      ¬mark process.call process.log) :
    ∃ rename : Equiv.Perm (Pid ⊕ Nat), ∀ who,
      after.Marked mark (rename who) ↔ before.Marked mark who := by
  -- A process that is not marked before and after does not count.
  have same : ∀ {world : World} {pid : Pid} {replaced : Option (Process S Call ε ρ)},
      ((∃ process, replaced = some process ∧ mark process.call process.log) ↔
        before.Marked mark (.inl pid)) →
      ∃ rename : Equiv.Perm (Pid ⊕ Nat), ∀ who,
        (⟨world, Function.update before.running pid replaced, before.finished⟩ :
          Config S World Call ε ρ).Marked mark (rename who) ↔ before.Marked mark who := by
    intro world pid replaced agrees
    refine ⟨Equiv.refl _, fun who => ?_⟩
    by_cases mine : who = .inl pid
    · subst mine
      rw [Equiv.refl_apply, marked_running, ← agrees]
      dsimp only
      rw [Function.update_self]
    · exact marked_of_ne mine
  cases taken with
  | start call idle =>
      refine same ⟨?_, ?_⟩
      · rintro ⟨process, equal, marked⟩
        cases equal
        exact absurd marked (fresh call)
      · intro marked
        obtain ⟨process, running, -⟩ := marked_running.mp marked
        rw [idle] at running
        cases running
  | @issue pid call stmt next log answer world running executed =>
      have agrees := quiet pid call stmt next log answer world rfl running executed
      refine same ⟨?_, ?_⟩
      · rintro ⟨process, equal, marked⟩
        cases equal
        exact marked_running.mpr ⟨_, running, agrees.mp marked⟩
      · intro marked
        obtain ⟨process, found, holds⟩ := marked_running.mp marked
        rw [running] at found
        cases found
        exact ⟨_, rfl, agrees.mpr holds⟩
  | @finish pid process result running ended =>
      refine ⟨Equiv.swap (.inl pid) (.inr before.finished.length), fun who => ?_⟩
      have last : (before.finished ++ [(⟨process.call, result, process.log⟩ :
          Outcome S Call ε ρ)])[before.finished.length]? =
            some ⟨process.call, result, process.log⟩ := List.getElem?_concat_length
      by_cases mine : who = .inl pid
      · subst mine
        rw [Equiv.swap_apply_left, marked_finished, marked_running]
        dsimp only
        rw [last, running]
        constructor
        · rintro ⟨outcome, equal, marked⟩
          cases equal
          exact ⟨process, rfl, marked⟩
        · rintro ⟨found, equal, marked⟩
          cases equal
          exact ⟨_, rfl, marked⟩
      by_cases new : who = .inr before.finished.length
      · subst new
        rw [Equiv.swap_apply_right, marked_finished, marked_running]
        dsimp only
        rw [Function.update_self, List.getElem?_eq_none (Nat.le_refl _)]
        exact ⟨nofun, nofun⟩
      · rw [Equiv.swap_apply_of_ne_of_ne mine new]
        cases who with
        | inl owner =>
            have different : owner ≠ pid := fun same => mine (congrArg Sum.inl same)
            rw [marked_running, marked_running]
            dsimp only
            rw [Function.update_of_ne different]
        | inr index =>
            have different : index ≠ before.finished.length :=
              fun same => new (congrArg Sum.inr same)
            rw [marked_finished, marked_finished]
            dsimp only
            rcases Nat.lt_or_gt_of_ne different with early | late
            · rw [List.getElem?_append_left early]
            · rw [List.getElem?_eq_none (by simp; omega), List.getElem?_eq_none (by omega)]
  | @stop pid process running =>
      refine same ⟨?_, ?_⟩
      · rintro ⟨_, equal, -⟩
        cases equal
      · intro marked
        obtain ⟨found, there, holds⟩ := marked_running.mp marked
        rw [running] at there
        cases there
        exact absurd holds (kept pid process rfl running)
  | ambient changed => exact ⟨Equiv.refl _, fun who => by cases who <;> rfl⟩

/-- **Marks that last.** A mark that no later event takes away stays, wherever its call is
found, as long as nothing is stopped. -/
theorem Marked.lasts {machine : Machine S World Call ε ρ} {action : Action Call}
    (taken : Step machine before action after) (goesOn : ∀ pid, action ≠ .stop pid)
    (grows : ∀ call log event, mark call log → mark call (log ++ [event])) {who : Pid ⊕ Nat}
    (marked : before.Marked mark who) : ∃ found, after.Marked mark found := by
  -- Only the process that moves has another record.
  have other : ∀ {world : World} {pid : Pid} {replaced : Option (Process S Call ε ρ)},
      (who = .inl pid → ∃ process, replaced = some process ∧ mark process.call process.log) →
      (⟨world, Function.update before.running pid replaced, before.finished⟩ :
        Config S World Call ε ρ).Marked mark who := by
    intro world pid replaced mine
    by_cases same : who = .inl pid
    · rw [same, marked_running]
      dsimp only
      rw [Function.update_self]
      exact mine same
    · exact (marked_of_ne same).mpr marked
  cases taken with
  | start call idle =>
      refine ⟨who, other fun same => ?_⟩
      rw [same, marked_running, idle] at marked
      obtain ⟨process, running, -⟩ := marked
      cases running
  | @issue pid call stmt next log answer world running executed =>
      refine ⟨who, other fun same => ⟨_, rfl, ?_⟩⟩
      rw [same, marked_running, running] at marked
      obtain ⟨process, found, holds⟩ := marked
      cases found
      exact grows call log _ holds
  | @finish pid process result running ended =>
      by_cases same : who = .inl pid
      · rw [same, marked_running, running] at marked
        obtain ⟨found, equal, holds⟩ := marked
        cases equal
        refine ⟨.inr before.finished.length, marked_finished.mpr
          ⟨⟨process.call, result, process.log⟩, List.getElem?_concat_length, holds⟩⟩
      · cases who with
        | inl owner =>
            have different : owner ≠ pid := fun equal => same (congrArg Sum.inl equal)
            obtain ⟨found, there, holds⟩ := marked_running.mp marked
            exact ⟨.inl owner, marked_running.mpr
              ⟨found, (Function.update_of_ne different none before.running).trans there, holds⟩⟩
        | inr index =>
            obtain ⟨outcome, there, holds⟩ := marked_finished.mp marked
            refine ⟨.inr index, marked_finished.mpr ⟨outcome, ?_, holds⟩⟩
            exact (List.getElem?_append_left (List.getElem?_eq_some_iff.mp there).1).trans there
  | stop running => exact absurd rfl (goesOn _)
  | ambient changed => exact ⟨who, marked⟩

/-- The statement that a process issues gives its call the mark. -/
inductive Earns (machine : Machine S World Call ε ρ) (mark : Call → List (Event S) → Prop)
    (before after : Config S World Call ε ρ) : Pid ⊕ Nat → Action Call → Prop where
  | issue {pid : Pid} {call : Call} {stmt : S.Stmt} {next : S.Answer stmt → Program S ε ρ}
      {log : List (Event S)} {answer : S.Answer stmt}
      (running : before.running pid = some ⟨call, .call stmt next, log⟩)
      (executed : machine.exec pid call stmt before.world = some (answer, after.world))
      (marks : mark call (log ++ [⟨stmt, answer⟩])) (new : ¬mark call log) :
      Earns machine mark before after (.inl pid) (.issue pid)

/-- **Where marks come from.** A call that is marked after a step was marked before, or has
earned the mark by the statement of the step. -/
theorem Marked.traced {machine : Machine S World Call ε ρ} {action : Action Call}
    (taken : Step machine before action after) (fresh : ∀ call, ¬mark call []) :
    ∃ origin : Equiv.Perm (Pid ⊕ Nat), ∀ who, after.Marked mark who →
      before.Marked mark (origin who) ∨ Earns machine mark before after who action := by
  cases taken with
  | @start pid call idle =>
      refine ⟨Equiv.refl _, fun who marked => .inl ?_⟩
      by_cases mine : who = .inl pid
      · subst mine
        obtain ⟨process, running, holds⟩ := marked_running.mp marked
        dsimp only at running
        rw [Function.update_self] at running
        cases running
        exact absurd holds (fresh call)
      · exact (marked_of_ne mine).mp marked
  | @issue pid call stmt next log answer world running executed =>
      refine ⟨Equiv.refl _, fun who marked => ?_⟩
      by_cases mine : who = .inl pid
      · subst mine
        obtain ⟨process, there, holds⟩ := marked_running.mp marked
        dsimp only at there
        rw [Function.update_self] at there
        cases there
        by_cases old : mark call log
        · exact .inl (marked_running.mpr ⟨_, running, old⟩)
        · exact .inr (.issue running executed holds old)
      · exact .inl ((marked_of_ne mine).mp marked)
  | @finish pid process result running ended =>
      have renames : ∃ rename : Equiv.Perm (Pid ⊕ Nat), ∀ who,
          Config.Marked ⟨machine.leave pid before.world, Function.update before.running pid none,
            before.finished ++ [⟨process.call, result, process.log⟩]⟩ mark (rename who) ↔
              before.Marked mark who :=
        Marked.renamed (.finish running ended) fresh
          (fun _ _ _ _ _ _ _ issued => nomatch issued) (fun _ _ stopped => nomatch stopped)
      obtain ⟨rename, agrees⟩ := renames
      refine ⟨rename.symm, fun who marked => .inl ?_⟩
      rw [← agrees, Equiv.apply_symm_apply]
      exact marked
  | @stop pid process running =>
      refine ⟨Equiv.refl _, fun who marked => .inl ?_⟩
      by_cases mine : who = .inl pid
      · subst mine
        obtain ⟨found, there, -⟩ := marked_running.mp marked
        dsimp only at there
        rw [Function.update_self] at there
        cases there
      · exact (marked_of_ne mine).mp marked
  | ambient changed => exact ⟨Equiv.refl _, fun who marked => .inl marked⟩

/-- At most one call has the mark. -/
def Sole (mark : Call → List (Event S) → Prop) (config : Config S World Call ε ρ) : Prop :=
  ∀ first second, config.Marked mark first → config.Marked mark second → first = second

theorem sole_initial (mark : Call → List (Event S) → Prop) (world : World) :
    (Config.initial world : Config S World Call ε ρ).Sole mark := by
  rintro (pid | index) _ ⟨_, _, recorded, -⟩ _ <;> cases recorded

/-- **The rule for a mark that is earned once.** If the mark is earned only while nobody has
it, at most one call has it. -/
theorem Sole.step {machine : Machine S World Call ε ρ} {action : Action Call}
    (sole : before.Sole mark) (taken : Step machine before action after)
    (fresh : ∀ call, ¬mark call [])
    (alone : ∀ who, Earns machine mark before after who action →
      ∀ other, ¬before.Marked mark other) :
    after.Sole mark := by
  obtain ⟨origin, traced⟩ := Marked.traced taken fresh
  intro first second markedFirst markedSecond
  rcases traced first markedFirst with old | earned
  · rcases traced second markedSecond with older | earned
    · exact origin.injective (sole _ _ old older)
    · exact absurd old (alone second earned _)
  · rcases traced second markedSecond with old | earnedToo
    · exact absurd old (alone first earned _)
    · cases earned
      cases earnedToo
      rfl

end Config

/-! ## While a process goes on -/

/-- The action ends the process. -/
def Action.ends (pid : Pid) : Action Call → Prop
  | .finish other => other = pid
  | .stop other => other = pid
  | _ => False

/-- **The rule for what one process knows.** What holds of a running process, and is kept by
its own statements and by the steps of the others, holds for as long as it goes on. -/
theorem Runs.while_running {machine : Machine S World Call ε ρ}
    {admitted : Config S World Call ε ρ → Action Call → Prop} {pid : Pid}
    {start config : Config S World Call ε ρ}
    {knows : Config S World Call ε ρ → Process S Call ε ρ → Prop}
    (runs : Runs machine (fun config action => admitted config action ∧
      ¬action.ends pid) start config)
    {first : Process S Call ε ρ} (running : start.running pid = some first)
    (here : knows start first)
    (others : ∀ before action after process, admitted before action →
      Step machine before action after → before.running pid = some process →
      after.running pid = some process → knows before process → knows after process)
    (own : ∀ before after call stmt (next : S.Answer stmt → Program S ε ρ) log answer,
      admitted before (.issue pid) → Step machine before (.issue pid) after →
      before.running pid = some ⟨call, .call stmt next, log⟩ →
      machine.exec pid call stmt before.world = some (answer, after.world) →
      knows before ⟨call, .call stmt next, log⟩ →
        knows after ⟨call, next answer, log ++ [⟨stmt, answer⟩]⟩) :
    ∃ process, config.running pid = some process ∧ knows config process := by
  have step : ∀ before action after, (∃ process, before.running pid = some process ∧
    knows before process) →
      admitted before action → ¬action.ends pid → Step machine before action after →
      ∃ process, after.running pid = some process ∧ knows after process := by
    rintro before action after ⟨process, there, known⟩ allowed goesOn taken
    cases taken with
    | @start other call idle =>
        have different : pid ≠ other := by
          intro same
          rw [same, idle] at there
          cases there
        have kept := (Function.update_of_ne different
          (some (⟨call, machine.perform call, []⟩ : Process S Call ε ρ)) before.running).trans there
        exact ⟨process, kept, others _ _ _ _ allowed (.start call idle) there kept known⟩
    | @issue other call stmt next log answer world issuing executed =>
        by_cases same : pid = other
        · subst same
          rw [issuing] at there
          cases there
          exact ⟨_, Function.update_self .., own _ _ _ _ _ _ _ allowed
            (.issue issuing executed) issuing
            executed known⟩
        · have kept := (Function.update_of_ne same
            (some (⟨call, next answer, log ++ [⟨stmt, answer⟩]⟩ : Process S Call ε ρ))
              before.running).trans
              there
          exact ⟨process, kept, others _ _ _ _ allowed (.issue issuing executed) there kept known⟩
    | @finish other ended result finishing final =>
        have different : pid ≠ other := fun same => goesOn same.symm
        have kept := (Function.update_of_ne different none before.running).trans there
        exact ⟨process, kept, others _ _ _ _ allowed (.finish finishing final) there kept known⟩
    | @stop other stopped stopping =>
        have different : pid ≠ other := fun same => goesOn same.symm
        have kept := (Function.update_of_ne different none before.running).trans there
        exact ⟨process, kept, others _ _ _ _ allowed (.stop stopping) there kept known⟩
    | ambient changed =>
        exact ⟨process, there, others _ _ _ _ allowed (.ambient changed) there there known⟩
  induction runs with
  | refl => exact ⟨first, running, here⟩
  | tail _ last ih =>
      obtain ⟨action, ⟨allowed, goesOn⟩, taken⟩ := last
      exact step _ action _ ih allowed goesOn taken

end AppointmentVoice.Concurrency
