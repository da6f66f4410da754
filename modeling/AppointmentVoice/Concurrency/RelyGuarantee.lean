import AppointmentVoice.Concurrency.Interleaving

/-!
# Rely and guarantee

To reason about one program among many, fix an invariant of the world and a
guarantee: what a step of one process may do to the world.  What a process may
rely on is then that the others keep the invariant and their guarantees, any
number of times, between any two of its own statements.

`Safe` says of a program at a world that every statement it ever issues keeps
the invariant and the guarantee, and that its result meets a postcondition,
whatever the others do in between.  It is defined by recursion on the program,
so that it is proved by following the text of the program, with one rule for
each construct (`Triple.ret`, `Triple.call`, `Triple.bind`, …).  The soundness
theorem (`Discipline.reachable`) turns the proofs for the single programs into
a statement about every run of the machine.
-/

set_option autoImplicit false

namespace AppointmentVoice.Concurrency

variable {S : Signature} {World Call ε ρ α β : Type}

/-- An invariant of the world together with the guarantee of each process. -/
structure Discipline (World : Type) where
  invariant : World → Prop
  guarantee : Pid → World → World → Prop

namespace Discipline

variable (machine : Machine S World Call ε ρ) (discipline : Discipline World)

/-- One step of the others, as seen by a process. -/
def Interference (pid : Pid) (before after : World) : Prop :=
  discipline.invariant before ∧ discipline.invariant after ∧
    ((∃ other, other ≠ pid ∧ discipline.guarantee other before after) ∨
      machine.ambient before after)

/-- Any number of steps of the others. -/
def Rely (pid : Pid) : World → World → Prop :=
  Relation.ReflTransGen (discipline.Interference machine pid)

theorem Rely.invariant {machine : Machine S World Call ε ρ} {discipline : Discipline World}
    {pid : Pid} {before after : World} (rely : discipline.Rely machine pid before after)
    (holds : discipline.invariant before) : discipline.invariant after := by
  induction rely with
  | refl => exact holds
  | tail _ step _ => exact step.2.1

/-- A world predicate that the others cannot falsify. -/
def Stable (pid : Pid) (predicate : World → Prop) : Prop :=
  ∀ before after, discipline.Interference machine pid before after →
    predicate before → predicate after

variable {machine discipline}

theorem Stable.rely {pid : Pid} {predicate : World → Prop}
    (stable : discipline.Stable machine pid predicate) {before after : World}
    (rely : discipline.Rely machine pid before after) (holds : predicate before) :
    predicate after := by
  induction rely with
  | refl => exact holds
  | tail _ step ih => exact stable _ _ step ih

theorem Stable.and {pid : Pid} {first second : World → Prop}
    (stableFirst : discipline.Stable machine pid first)
    (stableSecond : discipline.Stable machine pid second) :
    discipline.Stable machine pid fun world => first world ∧ second world :=
  fun _ _ step holds => ⟨stableFirst _ _ step holds.1, stableSecond _ _ step holds.2⟩

theorem Stable.const {pid : Pid} (fact : Prop) :
    discipline.Stable machine pid fun _ => fact :=
  fun _ _ _ holds => holds

variable (machine discipline)

/-- A program that keeps the invariant and the guarantee with every statement
it issues, and whose result meets the postcondition, whatever the others do. -/
def Safe (pid : Pid) (call : Call) (post : Except ε α → World → List (Event S) → Prop) :
    Program S ε α → World → List (Event S) → Prop
  | .ret value, world, log =>
      ∀ after, discipline.Rely machine pid world after → post (.ok value) after log
  | .raise error, world, log =>
      ∀ after, discipline.Rely machine pid world after → post (.error error) after log
  | .call stmt next, world, log =>
      ∀ before, discipline.Rely machine pid world before →
        ∀ answer after, machine.exec pid call stmt before = some (answer, after) →
          discipline.invariant after ∧ discipline.guarantee pid before after ∧
            Safe pid call post (next answer) after (log ++ [⟨stmt, answer⟩])

variable {machine discipline}

/-- What is safe stays safe while the others run. -/
theorem Safe.rely {pid : Pid} {call : Call} {post : Except ε α → World → List (Event S) → Prop}
    {program : Program S ε α} {before after : World} {log : List (Event S)}
    (safe : discipline.Safe machine pid call post program before log)
    (rely : discipline.Rely machine pid before after) :
    discipline.Safe machine pid call post program after log := by
  cases program with
  | ret value => exact fun later more => safe later (rely.trans more)
  | raise error => exact fun later more => safe later (rely.trans more)
  | call stmt next => exact fun later more => safe later (rely.trans more)

theorem Safe.mono {pid : Pid} {call : Call}
    {strong weak : Except ε α → World → List (Event S) → Prop}
    {program : Program S ε α} {world : World} {log : List (Event S)}
    (implies : ∀ result world log, discipline.invariant world →
      strong result world log → weak result world log)
    (holds : discipline.invariant world)
    (safe : discipline.Safe machine pid call strong program world log) :
    discipline.Safe machine pid call weak program world log := by
  induction program generalizing world log with
  | ret value =>
      exact fun after rely => implies _ _ _ (rely.invariant holds) (safe after rely)
  | raise error =>
      exact fun after rely => implies _ _ _ (rely.invariant holds) (safe after rely)
  | call stmt next ih =>
      intro before rely answer after executed
      obtain ⟨kept, guaranteed, rest⟩ := safe before rely answer after executed
      exact ⟨kept, guaranteed, ih answer kept rest⟩

/-- What is left to show after the first part of a sequence. -/
def afterBind (machine : Machine S World Call ε ρ) (discipline : Discipline World)
    (pid : Pid) (call : Call)
    (next : α → Program S ε β) (post : Except ε β → World → List (Event S) → Prop) :
    Except ε α → World → List (Event S) → Prop
  | .ok value, world, log => discipline.Safe machine pid call post (next value) world log
  | .error error, world, log => post (.error error) world log

theorem Safe.bind {pid : Pid} {call : Call} {post : Except ε β → World → List (Event S) → Prop}
    {program : Program S ε α} {next : α → Program S ε β} {world : World} {log : List (Event S)}
    (safe : discipline.Safe machine pid call (afterBind machine discipline pid call next post)
      program world log) :
    discipline.Safe machine pid call post (program >>= next) world log := by
  induction program generalizing world log with
  | ret value => exact safe world .refl
  | raise error => exact fun after rely => safe after rely
  | call stmt rest ih =>
      intro before rely answer after executed
      obtain ⟨kept, guaranteed, continued⟩ := safe before rely answer after executed
      exact ⟨kept, guaranteed, ih answer continued⟩

/-- What is left to show after the guarded part of a `try`. -/
def afterTry (machine : Machine S World Call ε ρ) (discipline : Discipline World)
    (pid : Pid) (call : Call)
    (handler : ε → Program S ε α) (post : Except ε α → World → List (Event S) → Prop) :
    Except ε α → World → List (Event S) → Prop
  | .ok value, world, log => post (.ok value) world log
  | .error error, world, log => discipline.Safe machine pid call post (handler error) world log

theorem Safe.tryCatch {pid : Pid} {call : Call} {post : Except ε α → World → List (Event S) → Prop}
    {program : Program S ε α} {handler : ε → Program S ε α} {world : World}
    {log : List (Event S)}
    (safe : discipline.Safe machine pid call (afterTry machine discipline pid call handler post)
      program world log) :
    discipline.Safe machine pid call post (MonadExcept.tryCatch program handler) world log := by
  induction program generalizing world log with
  | ret value => exact fun after rely => safe after rely
  | raise error => exact safe world .refl
  | call stmt rest ih =>
      intro before rely answer after executed
      obtain ⟨kept, guaranteed, continued⟩ := safe before rely answer after executed
      exact ⟨kept, guaranteed, ih answer continued⟩

/-! ## Rules for programs -/

variable (machine discipline)

/-- From every world that meets the invariant and the precondition, the program
is safe for the postcondition. -/
def Triple (pid : Pid) (owner : Call) (pre : World → List (Event S) → Prop)
    (program : Program S ε α)
    (post : Except ε α → World → List (Event S) → Prop) : Prop :=
  ∀ world log, discipline.invariant world → pre world log →
    discipline.Safe machine pid owner post program world log

variable {machine discipline}
variable {pid : Pid} {owner : Call} {pre : World → List (Event S) → Prop}

theorem Triple.ret {value : α} {post : Except ε α → World → List (Event S) → Prop}
    (stable : ∀ log, discipline.Stable machine pid (pre · log))
    (holds : ∀ world log, discipline.invariant world → pre world log →
      post (.ok value) world log) :
    discipline.Triple machine pid owner pre (.ret value) post := by
  intro world log inv met after rely
  exact holds after log (rely.invariant inv) ((stable log).rely rely met)

theorem Triple.raise {error : ε} {post : Except ε α → World → List (Event S) → Prop}
    (stable : ∀ log, discipline.Stable machine pid (pre · log))
    (holds : ∀ world log, discipline.invariant world → pre world log →
      post (.error error) world log) :
    discipline.Triple machine pid owner pre (.raise error) post := by
  intro world log inv met after rely
  exact holds after log (rely.invariant inv) ((stable log).rely rely met)

/-- The rule for a statement: its precondition is stable, executing it keeps
the invariant and the guarantee and establishes what the rest needs. -/
theorem Triple.call {stmt : S.Stmt} {next : S.Answer stmt → Program S ε α}
    {post : Except ε α → World → List (Event S) → Prop}
    (middle : S.Answer stmt → World → List (Event S) → Prop)
    (stable : ∀ log, discipline.Stable machine pid (pre · log))
    (executes : ∀ world log answer after, discipline.invariant world → pre world log →
      machine.exec pid owner stmt world = some (answer, after) →
        discipline.invariant after ∧ discipline.guarantee pid world after ∧
          middle answer after (log ++ [⟨stmt, answer⟩]))
    (continues : ∀ answer, discipline.Triple machine pid owner (middle answer) (next answer) post) :
    discipline.Triple machine pid owner pre (.call stmt next) post := by
  intro world log inv met before rely answer after executed
  obtain ⟨kept, guaranteed, reached⟩ := executes before log answer after
    (rely.invariant inv) ((stable log).rely rely met) executed
  exact ⟨kept, guaranteed, continues answer after _ kept reached⟩

theorem Triple.bind {program : Program S ε α} {next : α → Program S ε β}
    {post : Except ε β → World → List (Event S) → Prop}
    (middle : α → World → List (Event S) → Prop)
    (first : discipline.Triple machine pid owner pre program fun
      | .ok value, world, log => middle value world log
      | .error error, world, log => post (.error error) world log)
    (rest : ∀ value, discipline.Triple machine pid owner (middle value) (next value) post) :
    discipline.Triple machine pid owner pre (program >>= next) post := by
  intro world log inv met
  refine Safe.bind (Safe.mono ?_ inv (first world log inv met))
  intro result after later kept reached
  cases result with
  | ok value => exact rest value after later kept reached
  | error error => exact reached

theorem Triple.tryCatch {program : Program S ε α} {handler : ε → Program S ε α}
    {post : Except ε α → World → List (Event S) → Prop}
    (middle : ε → World → List (Event S) → Prop)
    (guarded : discipline.Triple machine pid owner pre program fun
      | .ok value, world, log => post (.ok value) world log
      | .error error, world, log => middle error world log)
    (handles : ∀ error, discipline.Triple machine pid owner (middle error) (handler error) post) :
    discipline.Triple machine pid owner pre (MonadExcept.tryCatch program handler) post := by
  intro world log inv met
  refine Safe.tryCatch (Safe.mono ?_ inv (guarded world log inv met))
  intro result after later kept reached
  cases result with
  | ok value => exact reached
  | error error => exact handles error after later kept reached

/-- Strengthen the precondition and weaken the postcondition. -/
theorem Triple.consequence {strong : World → List (Event S) → Prop}
    {program : Program S ε α} {post weak : Except ε α → World → List (Event S) → Prop}
    (triple : discipline.Triple machine pid owner pre program post)
    (before : ∀ world log, discipline.invariant world → strong world log → pre world log)
    (after : ∀ result world log, discipline.invariant world → post result world log →
      weak result world log) :
    discipline.Triple machine pid owner strong program weak :=
  fun world log inv met =>
    Safe.mono after inv (triple world log inv (before world log inv met))

/-! ## Soundness -/

variable (machine discipline)

/-- Everything the machine does keeps the discipline: starting, ending and the
surroundings by themselves, and every admitted call by a proof about its
program, which also gives the postcondition of the call. -/
structure Sound (admitted : Call → Prop)
    (post : Call → Except ε ρ → List (Event S) → Prop) : Prop where
  enter : ∀ pid world, discipline.invariant world →
    discipline.invariant (machine.enter pid world) ∧
      discipline.guarantee pid world (machine.enter pid world)
  leave : ∀ pid world, discipline.invariant world →
    discipline.invariant (machine.leave pid world) ∧
      discipline.guarantee pid world (machine.leave pid world)
  ambient : ∀ before after, discipline.invariant before → machine.ambient before after →
    discipline.invariant after
  perform : ∀ pid call, admitted call → ∀ world, discipline.invariant world →
    discipline.Safe machine pid call (fun result _ log => post call result log)
      (machine.perform call) (machine.enter pid world) []

/-- The discipline of a configuration: the invariant holds, every running
process is safe for the postcondition of its call, and every finished call met
its own. -/
structure Disciplined (post : Call → Except ε ρ → List (Event S) → Prop)
    (config : Config S World Call ε ρ) : Prop where
  invariant : discipline.invariant config.world
  safe : ∀ pid process, config.running pid = some process →
    discipline.Safe machine pid process.call (fun result _ log => post process.call result log)
      process.rest config.world process.log
  finished : ∀ outcome ∈ config.finished, post outcome.call outcome.result outcome.log

/-- What one step of the machine may do to the world. -/
def Evolves (before after : World) : Prop :=
  discipline.invariant before ∧ discipline.invariant after ∧
    ((∃ pid, discipline.guarantee pid before after) ∨ machine.ambient before after)

variable {machine discipline}

/-- The processes that do not move stay safe when one that does keeps its
guarantee. -/
theorem Disciplined.others_safe {post : Call → Except ε ρ → List (Event S) → Prop}
    {config : Config S World Call ε ρ} (disciplined : discipline.Disciplined machine post config)
    {pid : Pid} {world : World} (kept : discipline.invariant world)
    (guaranteed : discipline.guarantee pid config.world world) {other : Pid}
    (different : other ≠ pid) {process : Process S Call ε ρ}
    (running : config.running other = some process) :
    discipline.Safe machine other process.call (fun result _ log => post process.call result log)
      process.rest world process.log :=
  (disciplined.safe other process running).rely
    (.single ⟨disciplined.invariant, kept, .inl ⟨pid, different.symm, guaranteed⟩⟩)

/-- **One step keeps the discipline**, and changes the world only as the
guarantee or the surroundings allow. -/
theorem Disciplined.step {admitted : Call → Prop}
    {post : Call → Except ε ρ → List (Event S) → Prop}
    (sound : discipline.Sound machine admitted post)
    {before after : Config S World Call ε ρ} {action : Action Call}
    (disciplined : discipline.Disciplined machine post before)
    (allowed : action.Starts admitted) (step : Step machine before action after) :
    discipline.Disciplined machine post after ∧
      discipline.Evolves machine before.world after.world := by
  cases step with
  | @start pid call idle =>
      obtain ⟨kept, guaranteed⟩ := sound.enter pid before.world disciplined.invariant
      refine ⟨⟨kept, ?_, disciplined.finished⟩,
        disciplined.invariant, kept, .inl ⟨pid, guaranteed⟩⟩
      intro other process running
      by_cases same : other = pid
      · subst same
        simp only [Function.update_self, Option.some.injEq] at running
        subst running
        exact sound.perform other call allowed before.world disciplined.invariant
      · simp only [Function.update_of_ne same] at running
        exact disciplined.others_safe kept guaranteed same running
  | @issue pid call stmt next log answer world running executed =>
      obtain ⟨kept, guaranteed, rest⟩ :=
        disciplined.safe pid _ running before.world .refl answer world executed
      refine ⟨⟨kept, ?_, disciplined.finished⟩,
        disciplined.invariant, kept, .inl ⟨pid, guaranteed⟩⟩
      intro other process runningNow
      by_cases same : other = pid
      · subst same
        simp only [Function.update_self, Option.some.injEq] at runningNow
        subst runningNow
        exact rest
      · simp only [Function.update_of_ne same] at runningNow
        exact disciplined.others_safe kept guaranteed same runningNow
  | @finish pid process result running ended =>
      obtain ⟨kept, guaranteed⟩ := sound.leave pid before.world disciplined.invariant
      refine ⟨⟨kept, ?_, ?_⟩, disciplined.invariant, kept, .inl ⟨pid, guaranteed⟩⟩
      · intro other process runningNow
        by_cases same : other = pid
        · subst same
          simp at runningNow
        · simp only [Function.update_of_ne same] at runningNow
          exact disciplined.others_safe kept guaranteed same runningNow
      · intro outcome member
        rcases List.mem_append.mp member with old | new
        · exact disciplined.finished outcome old
        · rw [List.mem_singleton] at new
          subst new
          have safe := disciplined.safe pid process running
          obtain ⟨call, rest, log⟩ := process
          cases rest with
          | ret value =>
              cases ended
              exact safe before.world .refl
          | raise error =>
              cases ended
              exact safe before.world .refl
          | call stmt next => cases ended
  | @stop pid process running =>
      obtain ⟨kept, guaranteed⟩ := sound.leave pid before.world disciplined.invariant
      refine ⟨⟨kept, ?_, disciplined.finished⟩,
        disciplined.invariant, kept, .inl ⟨pid, guaranteed⟩⟩
      intro other process runningNow
      by_cases same : other = pid
      · subst same
        simp at runningNow
      · simp only [Function.update_of_ne same] at runningNow
        exact disciplined.others_safe kept guaranteed same runningNow
  | @ambient world changed =>
      have kept := sound.ambient before.world world disciplined.invariant changed
      refine ⟨⟨kept, ?_, disciplined.finished⟩, disciplined.invariant, kept, .inr changed⟩
      intro other process running
      exact (disciplined.safe other process running).rely
        (.single ⟨disciplined.invariant, kept, .inr changed⟩)

theorem Disciplined.initial {post : Call → Except ε ρ → List (Event S) → Prop} {world : World}
    (holds : discipline.invariant world) :
    discipline.Disciplined machine post (Config.initial world) where
  invariant := holds
  safe := fun _ _ running => by cases running
  finished := fun _ member => by cases member

/-- **Soundness.** Every run from a disciplined configuration ends in one, and
the world evolves along it only as the guarantee and the surroundings allow. -/
theorem Disciplined.runs {admitted : Call → Prop}
    {post : Call → Except ε ρ → List (Event S) → Prop}
    (sound : discipline.Sound machine admitted post)
    {start config : Config S World Call ε ρ}
    (disciplined : discipline.Disciplined machine post start)
    (runs : Runs machine (fun _ action => action.Starts admitted) start config) :
    discipline.Disciplined machine post config ∧
      Relation.ReflTransGen (discipline.Evolves machine) start.world config.world := by
  induction runs with
  | refl => exact ⟨disciplined, .refl⟩
  | tail _ last ih =>
      obtain ⟨action, allowed, taken⟩ := last
      obtain ⟨next, evolves⟩ := ih.1.step sound allowed taken
      exact ⟨next, ih.2.tail evolves⟩

end Discipline

end AppointmentVoice.Concurrency
