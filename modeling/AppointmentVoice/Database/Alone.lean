import AppointmentVoice.Database.Isolation

/-!
# A session that runs alone

The statements of a session when no other session is open: nothing waits, no
lock matters, and every statement has a plain effect on the committed rows, the
session's own writes, the sequence and Redis.  A service function that runs alone
is a function on this state, and `Alone.runs` says that it does there what the
machine does when it schedules nothing else.
-/

set_option autoImplicit false

namespace AppointmentVoice

open Concurrency World

/-! ## States and statements -/

/-- The committed rows and the uncommitted writes of the one session, the
sequence, the clock, Redis, and what lies outside. -/
structure Solo where
  db : Db
  writes : List Write
  nextId : Nat
  clock : Instant
  jobs : List QueuedJob
  pushes : Nat
  redisTakes : Nat → Bool
  outside : Outside

namespace Solo

/-- What a statement sees. -/
def view (solo : Solo) : Db := solo.db.applyAll solo.writes

/-- The session is closed: its uncommitted writes are gone. -/
def close (solo : Solo) : Solo := { solo with writes := [] }

/-- The effect of a statement. -/
def exec : (stmt : Stmt) → Solo → stmt.Answer × Solo
  | .select query, solo => (query.eval solo.view, solo)
  | .selectBookingForUpdate id tenantId, solo =>
      (solo.view.bookings.find? fun row => row.id == id && row.tenantId == tenantId, solo)
  | .selectWaitlistForUpdateSkipLocked filter, solo =>
      ((oldest (solo.view.waitlistEntries.filter filter.accepts)).toList, solo)
  | .selectStaleOffersForUpdateSkipLocked threshold, solo =>
      (solo.view.waitlistEntries.filter (staleOffer threshold), solo)
  | .insert draft, solo =>
      let write := draft solo.nextId
      let advanced := { solo with nextId := solo.nextId + 1 }
      match solo.view.violated write with
      | some constraint => (.error constraint, advanced)
      | none => (.ok solo.nextId, { advanced with writes := solo.writes ++ [write] })
  | .update write, solo => ((), { solo with writes := solo.writes ++ [write] })
  | .commit, solo => ((), { solo with db := solo.view, writes := [] })
  | .rollback, solo => ((), { solo with writes := [] })
  | .now, solo => (solo.clock, solo)
  | .push job, solo =>
      let counted := { solo with pushes := solo.pushes + 1 }
      if solo.redisTakes solo.pushes then
        (true, { counted with
          jobs := solo.jobs ++ [job]
          outside := solo.outside.enqueue job })
      else (false, counted)
  | .ask request, solo =>
      ((solo.outside.ask request).1, { solo with outside := (solo.outside.ask request).2 })

end Solo

/-! ## The machine with one session -/

section Machine

variable {Call : Type}

/-- The world holds the state of one session and nothing of any other. -/
structure Alone (pid : Pid) (world : World Call) (solo : Solo) : Prop where
  db : world.db = solo.db
  pending : world.pending = solo.writes.map fun write => (pid, write)
  locks : ∀ lock ∈ world.locks, lock.2 = pid
  nextId : world.nextId = solo.nextId
  clock : world.clock = solo.clock
  jobs : world.jobs = solo.jobs
  pushes : world.pushes = solo.pushes
  redisTakes : world.redisTakes = solo.redisTakes
  outside : world.outside = solo.outside

namespace Alone

variable {pid : Pid} {world : World Call} {solo : Solo}

theorem start (pid : Pid) (db : Db) (nextId : Nat) (clock : Instant) (redisTakes : Nat → Bool) :
    Alone pid (World.start db nextId clock redisTakes : World Call)
      ⟨db, [], nextId, clock, [], 0, redisTakes, .start⟩ :=
  ⟨rfl, rfl, (fun _ member => by cases member), rfl, rfl, rfl, rfl, rfl, rfl⟩

theorem writesOf (alone : Alone pid world solo) : world.writesOf pid = solo.writes := by
  rw [World.writesOf, alone.pending, List.filter_eq_self.mpr, List.map_map]
  · exact List.map_id _
  · intro entry member
    obtain ⟨write, -, rfl⟩ := List.mem_map.mp member
    exact beq_self_eq_true pid

theorem view (alone : Alone pid world solo) : world.view pid = solo.view := by
  rw [World.view, alone.writesOf, alone.db]
  rfl

theorem unlocked (alone : Alone pid world solo) (row : RowId) :
    world.lockedByOther pid row = false := by
  rw [← Bool.not_eq_true, lockedByOther_iff]
  rintro ⟨other, different, member⟩
  exact different (alone.locks _ member)

theorem mustWait (alone : Alone pid world solo) (write : Write) :
    world.mustWait pid write = false := by
  rw [World.mustWait, alone.pending, List.any_eq_false]
  intro entry member
  obtain ⟨other, -, rfl⟩ := List.mem_map.mp member
  simp

theorem acquire (alone : Alone pid world solo) (row : RowId) :
    Alone pid (world.acquire pid row) solo := by
  unfold World.acquire
  split
  · exact alone
  · refine ⟨alone.db, alone.pending, fun lock member => ?_, alone.nextId, alone.clock, alone.jobs,
      alone.pushes, alone.redisTakes, alone.outside⟩
    rcases List.mem_append.mp member with old | new
    · exact alone.locks lock old
    · rw [List.mem_singleton] at new
      rw [new]

theorem acquireAll (alone : Alone pid world solo) (rows : List RowId) :
    Alone pid (world.acquireAll pid rows) solo := by
  induction rows generalizing world with
  | nil => exact alone
  | cons row rows ih => exact ih (alone.acquire row)

theorem append (alone : Alone pid world solo) (write : Write) :
    Alone pid (world.append pid write) { solo with writes := solo.writes ++ [write] } := by
  refine ⟨alone.db, ?_, alone.locks, alone.nextId, alone.clock, alone.jobs, alone.pushes,
    alone.redisTakes, alone.outside⟩
  simp [World.append, alone.pending]

theorem release (alone : Alone pid world solo) :
    Alone pid (world.release pid) { solo with writes := [] } := by
  refine ⟨alone.db, ?_, fun lock member => ?_, alone.nextId, alone.clock, alone.jobs, alone.pushes,
    alone.redisTakes, alone.outside⟩
  · rw [World.release, alone.pending, List.filter_eq_nil_iff.mpr]
    · rfl
    · intro entry member
      obtain ⟨write, -, rfl⟩ := List.mem_map.mp member
      simp
  · exact alone.locks lock (List.mem_filter.mp member).1

/-- **A statement alone never waits and has its plain effect.** -/
theorem exec (alone : Alone pid world solo) (call : Call) (stmt : Stmt) :
    ∃ after, execStmt pid call stmt world = some ((solo.exec stmt).1, after) ∧
      Alone pid after (solo.exec stmt).2 := by
  cases stmt with
  | select query =>
      refine ⟨world, ?_, alone⟩
      rw [execStmt, alone.view]
      rfl
  | selectBookingForUpdate id tenantId =>
      simp only [execStmt, Solo.exec, alone.view]
      split
      · next missing => exact ⟨world, by rw [missing], alone⟩
      · next row found =>
          rw [alone.unlocked, found]
          exact ⟨_, rfl, alone.acquire _⟩
  | selectWaitlistForUpdateSkipLocked filter =>
      simp only [execStmt, Solo.exec, alone.view, alone.unlocked, Bool.not_false, Bool.and_true]
      split
      · next missing => exact ⟨world, by rw [missing]; rfl, alone⟩
      · next entry found => exact ⟨_, by rw [found]; rfl, alone.acquire _⟩
  | selectStaleOffersForUpdateSkipLocked threshold =>
      simp only [execStmt, Solo.exec, alone.view, alone.unlocked, Bool.not_false, Bool.and_true]
      exact ⟨_, rfl, alone.acquireAll _⟩
  | insert draft =>
      have advanced : Alone pid { world with nextId := world.nextId + 1 }
          { solo with nextId := solo.nextId + 1 } :=
        ⟨alone.db, alone.pending, alone.locks, congrArg (· + 1) alone.nextId, alone.clock,
          alone.jobs, alone.pushes, alone.redisTakes, alone.outside⟩
      simp only [execStmt, Solo.exec, alone.mustWait, alone.view, alone.nextId, Bool.false_eq_true,
        ↓reduceIte]
      rw [alone.nextId] at advanced
      cases solo.view.violated (draft solo.nextId) with
      | some constraint => exact ⟨_, rfl, advanced⟩
      | none => exact ⟨_, rfl, advanced.append _⟩
  | update write =>
      simp only [execStmt, Solo.exec, alone.unlocked]
      split
      · exact ⟨_, rfl, alone.append write⟩
      · exact ⟨_, rfl, (alone.acquire _).append write⟩
  | commit =>
      have released := alone.release
      refine ⟨_, rfl, alone.view, released.pending, released.locks, released.nextId,
        released.clock, released.jobs, released.pushes, released.redisTakes, released.outside⟩
  | rollback => exact ⟨_, rfl, alone.release⟩
  | now =>
      refine ⟨world, ?_, alone⟩
      rw [execStmt, alone.clock]
      rfl
  | push job =>
      simp only [execStmt, Solo.exec, alone.pushes, alone.redisTakes]
      split
      · exact ⟨_, rfl, alone.db, alone.pending, alone.locks, alone.nextId, alone.clock,
          by rw [alone.jobs], rfl, rfl, by rw [alone.outside]⟩
      · exact ⟨_, rfl, alone.db, alone.pending, alone.locks, alone.nextId, alone.clock,
          alone.jobs, rfl, rfl, alone.outside⟩
  | ask request =>
      simp only [execStmt, Solo.exec, alone.outside]
      exact ⟨_, rfl, alone.db, alone.pending, alone.locks, alone.nextId, alone.clock, alone.jobs,
        alone.pushes, alone.redisTakes, rfl⟩

/-- **A call that is scheduled alone comes to its end**, with the result and the
state of the sequential run. -/
theorem runs {ε ρ : Type} {machine : Machine Sql (World Call) Call ε ρ}
    (executes : machine.exec = execStmt) {config : Config Sql (World Call) Call ε ρ} {call : Call}
    {program : Program Sql ε ρ} {log : List (Event Sql)}
    (running : config.running pid = some ⟨call, program, log⟩)
    (alone : Alone pid config.world solo) :
    ∃ statements after process,
      config.runActions machine (List.replicate statements (.issue pid)) = some after ∧
        after.running pid = some process ∧ process.call = call ∧
        process.rest.result? = some (program.run Solo.exec solo).1 ∧
        after.finished = config.finished ∧
        Alone pid after.world (program.run Solo.exec solo).2 := by
  induction program generalizing config solo log with
  | ret value => exact ⟨0, config, _, rfl, running, rfl, rfl, rfl, alone⟩
  | raise error => exact ⟨0, config, _, rfl, running, rfl, rfl, rfl, alone⟩
  | call stmt next ih =>
      obtain ⟨world, executed, still⟩ := alone.exec call stmt
      obtain ⟨statements, after, process, ran, there, same, ended, finished, last⟩ :=
        ih (solo.exec stmt).1
          (show (Config.mk world (Function.update config.running pid
            (some ⟨call, next (solo.exec stmt).1, log ++ [⟨stmt, (solo.exec stmt).1⟩]⟩))
            config.finished).running pid = some ⟨call, next (solo.exec stmt).1, _⟩ from
              Function.update_self ..) still
      refine ⟨statements + 1, after, process, ?_, there, same, ended, finished, last⟩
      rw [List.replicate_succ, Config.runActions, Config.act, running]
      simp only [executes, executed]
      exact ran

end Alone

end Machine

end AppointmentVoice
