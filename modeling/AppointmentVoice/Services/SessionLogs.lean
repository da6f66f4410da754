import AppointmentVoice.Database.Effects
import AppointmentVoice.Services.History

/-!
# What a session has written is in its log

The uncommitted writes of a running call can be read off the statements that it has issued
and their answers: the inserts and updates since its last commit or rollback.

**The log.** `Recorded.step`: every step keeps what a session has pending and what its log says
the same.
-/

set_option autoImplicit false

namespace AppointmentVoice

open Concurrency World

/-- The uncommitted writes after one more statement. -/
def recordEvent (writes : List Write) : Event Sql → List Write
  | ⟨.insert draft, .ok id⟩ => writes ++ [draft id]
  | ⟨.update write, _⟩ => writes ++ [write]
  | ⟨.commit, _⟩ => []
  | ⟨.rollback, _⟩ => []
  | _ => writes

/-- The uncommitted writes that a log shows. -/
def uncommitted (log : Log) : List Write := log.foldl recordEvent []

theorem uncommitted_snoc (log : Log) (event : Event Sql) :
    uncommitted (log ++ [event]) = recordEvent (uncommitted log) event := by
  rw [uncommitted, List.foldl_append]
  rfl

theorem recordEvent_quiet {event : Event Sql} (nothing : writesNothing event = true)
    (writes : List Write) : recordEvent writes event = writes := by
  obtain ⟨stmt, answer⟩ := event
  cases stmt with
  | insert draft =>
      cases (answer : Except Constraint Nat) with
      | ok id => cases nothing
      | error constraint => rfl
  | update write => cases nothing
  | commit => cases nothing
  | rollback => cases nothing
  | _ => rfl

/-- A statement changes the writes of its session as its log says. -/
theorem execStmt_writesOf {Call : Type} {pid : Pid} {call : Call} {stmt : Stmt}
    {world after : World Call} {answer : stmt.Answer}
    (executed : execStmt pid call stmt world = some (answer, after)) :
    after.writesOf pid = recordEvent (world.writesOf pid) ⟨stmt, answer⟩ := by
  cases execStmt_effect executed with
  | quiet nothing db pending journal =>
      rw [recordEvent_quiet nothing, writesOf, pending]
      rfl
  | inserted db pending journal =>
      rw [writesOf, pending]
      simp [recordEvent, writesOf]
  | updated db pending journal =>
      rw [writesOf, pending]
      simp [recordEvent, writesOf]
  | committed same =>
      rw [same]
      exact writesOf_release_self ..
  | rolledBack same =>
      rw [same]
      exact writesOf_release_self ..

/-- A statement takes no time. -/
theorem execStmt_clock {Call : Type} {pid : Pid} {call : Call} {stmt : Stmt}
    {world after : World Call} {answer : stmt.Answer}
    (executed : execStmt pid call stmt world = some (answer, after)) :
      after.clock = world.clock := by
  have acquired : ∀ (world : World Call) row, (world.acquire pid row).clock = world.clock := by
    intro world row
    rw [acquire]
    split <;> rfl
  cases stmt with
  | selectBookingForUpdate id tenantId =>
      simp only [execStmt] at executed
      split at executed
      · cases executed
        rfl
      · split at executed
        · cases executed
        · cases executed
          exact acquired _ _
  | selectWaitlistForUpdateSkipLocked filter =>
      simp only [execStmt] at executed
      split at executed
      · cases executed
        rfl
      · cases executed
        exact acquired _ _
  | selectStaleOffersForUpdateSkipLocked threshold =>
      cases executed
      rw [acquireAll]
      generalize List.map _ _ = rows
      induction rows generalizing world with
      | nil => rfl
      | cons row rows ih => exact ih.trans (acquired _ _)
  | insert draft =>
      simp only [execStmt] at executed
      split at executed
      · cases executed
      · split at executed <;> cases executed <;> rfl
  | update write =>
      simp only [execStmt] at executed
      split at executed
      · cases executed
        rfl
      · split at executed
        · cases executed
        · cases executed
          exact acquired _ _
  | push job =>
      simp only [execStmt] at executed
      split at executed <;> cases executed <;> rfl
  | _ =>
      cases executed
      rfl

/-! ## Machines of sessions -/

/-- Calls run in sessions of the database, which end with them. -/
structure SessionMachine {Call Label ρ : Type} (machine : Machine Sql (World Call) Label AppError ρ)
    (entered : Label → Call) : Prop where
  exec : ∀ pid call, machine.exec pid call = execStmt pid (entered call)
  enter : ∀ pid world, machine.enter pid world = world.release pid
  leave : ∀ pid world, machine.leave pid world = world.release pid
  ambient : ∀ {before after : World Call}, machine.ambient before after →
    after.pending = before.pending

theorem bookingMachine_sessions (cfg : Settings) : SessionMachine (bookingMachine cfg) id where
  exec _ _ := rfl
  enter _ _ := rfl
  leave _ _ := rfl
  ambient := by
    rintro before after ⟨db, clock, outside, -, -, -, rfl⟩
    rfl

section Steps

variable {Call Label ρ : Type} {machine : Machine Sql (World Call) Label AppError ρ}
variable {entered : Label → Call} {before after : Config Sql (World Call) Label AppError ρ}
variable {action : Action Label}

/-- The writes of every running call are those that its log shows. -/
def Recorded (config : Config Sql (World Call) Label AppError ρ) : Prop :=
  ∀ pid process, config.running pid = some process →
    config.world.writesOf pid = uncommitted process.log

theorem Recorded.initial (world : World Call) :
    Recorded (Config.initial world : Config Sql (World Call) Label AppError ρ) :=
  fun _ _ running => by cases running

/-- The name that a step gives a process or takes it from. -/
theorem Recorded.update (recorded : Recorded before) {pid : Pid} {world : World Call}
    {replaced : Option (Process Sql Label AppError ρ)}
    {finished : List (Outcome Sql Label AppError ρ)}
    (mine : ∀ process, replaced = some process → world.writesOf pid = uncommitted process.log)
    (others : ∀ other, other ≠ pid → world.writesOf other = before.world.writesOf other) :
    Recorded ⟨world, Function.update before.running pid replaced, finished⟩ := by
  intro other process running
  by_cases same : other = pid
  · subst same
    dsimp only at running
    rw [Function.update_self] at running
    exact mine process running
  · dsimp only at running
    rw [Function.update_of_ne same] at running
    exact (others other same).trans (recorded other process running)

theorem Recorded.step (recorded : Recorded before) (sessions : SessionMachine machine entered)
    (taken : Step machine before action after) : Recorded after := by
  cases taken with
  | @start pid call idle =>
      rw [sessions.enter]
      refine recorded.update (fun process same => ?_) fun other different =>
        writesOf_release_of_ne before.world different
      cases same
      exact writesOf_release_self ..
  | @issue pid call stmt next log answer world running executed =>
      rw [sessions.exec] at executed
      refine recorded.update (fun process same => ?_) fun other different =>
        (execStmt_ownOnly executed).writes other different
      cases same
      rw [execStmt_writesOf executed, recorded pid _ running, uncommitted_snoc]
  | @finish pid process result running ended =>
      rw [sessions.leave]
      exact recorded.update (by rintro _ ⟨⟩) fun other different =>
        writesOf_release_of_ne before.world different
  | @stop pid process running =>
      rw [sessions.leave]
      exact recorded.update (by rintro _ ⟨⟩) fun other different =>
        writesOf_release_of_ne before.world different
  | ambient changed =>
      intro pid process running
      rw [World.writesOf, sessions.ambient changed]
      exact recorded pid process running

end Steps

/-! ## Monitors that keep the log -/

/-- A monitor that allows everything. -/
theorem along_free {α σ : Type} {monitor : Monitor Sql σ} {post : Except AppError α → σ → Prop}
    (allowed : ∀ state stmt, monitor.must state stmt) (ends : ∀ result state, post result state)
    (program : DbM α) (state : σ) : monitor.Along post program state := by
  induction program generalizing state with
  | ret value => exact .ret (ends _ _)
  | raise error => exact .raise (ends _ _)
  | call stmt next ih => exact .call (allowed _ _) fun answer _ => ih answer _

/-- What a monitor has come to that keeps the log. -/
theorem state_log {Label ρ : Type} {watch : Watch Sql Label AppError ρ Log}
    (learns : ∀ call log event, (watch.monitor call).learn log event = log ++ [event])
    (initial : ∀ call, watch.initial call = []) (call : Label) (log : Log) :
    watch.state call log = log := by
  have after : ∀ state : Log, (watch.monitor call).after state log = state ++ log := by
    induction log with
    | nil => exact fun state => (List.append_nil state).symm
    | cons event log ih =>
        intro state
        rw [Monitor.after, List.foldl_cons, learns]
        exact (ih _).trans (List.append_assoc state [event] log)
  rw [Watch.state, initial, after, List.nil_append]

end AppointmentVoice
