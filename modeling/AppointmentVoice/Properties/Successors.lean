import AppointmentVoice.Properties.Rescheduling
import AppointmentVoice.Services.Succession

/-!
# One confirmed booking has at most one live successor

Any number of calls cancel or reschedule one confirmed booking at the same time.
The status that a rescheduling reads at first is not locked; what decides is the
row under the lock inside the cancellation.  Exactly one call gets past it: it
alone commits, every other one ends with a conflict and commits nothing, and only
the winner goes on to make a new booking.  At no time are there two active bookings
among the booking and the ones made by rescheduling it.

A call that is refused before it looks at the booking, or that fails to find a row
that it needs for its messages, takes no part in this.

**The result.** Every step keeps the calls on the booking apart (`Succession.step`), and so
every run does (`one_live_successor`); `blank_override_raises_no_conflict` is a call that takes
no part.
-/

set_option autoImplicit false

namespace AppointmentVoice

open Concurrency World

/-! ## What is counted -/

/-- The transaction changed the booking. -/
def Committed.changes (target : Booking) (entry : Committed Call) : Bool :=
  entry.writes.any (·.changes target.id)

/-- The transactions that changed the booking. -/
def changesOf (target : Booking) (journal : List (Committed Call)) : List (Committed Call) :=
  journal.filter (·.changes target)

/-- The bookings made in a transaction of a call on the booking. -/
def Committed.successors (target : Booking) (entry : Committed Call) : List Nat :=
  if entry.call.on target then entry.writes.filterMap Table.bookings.inserted else []

/-- The bookings made by rescheduling the booking. -/
def successorsOf (target : Booking) (journal : List (Committed Call)) : List Nat :=
  journal.flatMap (·.successors target)

/-- The call has committed a transaction. -/
def Commits (log : List (Event Sql)) : Prop := (⟨.commit, ()⟩ : Event Sql) ∈ log

/-- A call on the booking runs to its end. -/
def RunsToEnd (target : Booking) (config : BookingConfig) : Action Call → Prop
  | .stop pid => ∀ process, config.running pid = some process → process.call.on target = false
  | _ => True

/-- The call takes part: it is not an override without a reason, and finds the rows
that it looks up. -/
def TakesPart (cfg : Settings) (target : Booking)
    (outcome : Outcome Sql Call AppError Reply) : Prop :=
  outcome.call.on target = true ∧ outcome.call.blankOverride = false ∧
    ∀ event ∈ outcome.log, unfound cfg target event = false

/-- The call is the one that has cancelled the booking. -/
def Wins (target : Booking) (call : Call) (log : List (Event Sql)) : Prop :=
  call.on target = true ∧ Commits log

/-! ## Stages and logs -/

section Logs

variable {cfg : Settings} {target : Booking} {call : Call}

/-- The stage that a call has come to. -/
abbrev stageOf (cfg : Settings) (target : Booking) (call : Call) (log : List (Event Sql)) : Stage :=
  ((trackWatch cfg target).state call log).stage

theorem stageOf_snoc (mine : call.on target = true) (log : List (Event Sql)) (event : Event Sql) :
    stageOf cfg target call (log ++ [event]) = (stageOf cfg target call log).next target event := by
  rw [stageOf, Watch.state_snoc]
  change ((tracker cfg target call).learn _ event).stage = _
  rw [tracker_learn_on mine]

theorem Stage.next_won_iff {stage : Stage} {stmt : Stmt} (goesOn : stmt ≠ .commit)
    (answer : stmt.Answer) :
    (stage.next target ⟨stmt, answer⟩).won = true ↔ stage.won = true := by
  refine ⟨fun won => ?_, fun won => Stage.next_won won _⟩
  by_contra lost
  have sees : ∀ {free : Stage} {row : Option Booking}, free.won = false →
      (stage.sees target free row).won ≠ true := by
    intro free row open' won
    cases row with
    | none => exact lost won
    | some row =>
        rw [Stage.sees] at won
        split at won
        · split at won
          · rw [open'] at won
            cases won
          · cases won
        · exact lost won
  cases stmt with
  | select query =>
      cases query with
      | booking id tenantId => exact sees rfl won
      | _ => exact lost won
  | selectBookingForUpdate id tenantId => exact sees rfl won
  | insert draft =>
      cases answer with
      | error constraint => exact lost won
      | ok id =>
          change (if _ then _ else _ : Stage).won = true at won
          split at won
          · next both =>
              rw [both.1] at lost
              exact lost rfl
          · exact lost won
  | update write =>
      cases write with
      | updateBooking id change =>
          change (if _ then _ else _ : Stage).won = true at won
          split at won
          · cases won
          · exact lost won
      | _ => exact lost won
  | commit => exact goesOn rfl
  | rollback =>
      change (if _ then _ else _ : Stage).won = true at won
      split at won
      · next inserted =>
          rw [inserted] at lost
          exact lost rfl
      · exact lost won
  | _ => exact lost won

/-- Nothing is left uncommitted at the end of a transaction. -/
theorem Stage.next_end {stage : Stage} {stmt : Stmt} (ends : stmt.ends = true)
    (answer : stmt.Answer) : stage.next target ⟨stmt, answer⟩ ≠ .inserted := by
  cases stmt with
  | commit => cases stage <;> exact nofun
  | rollback =>
      change (if stage = .inserted then _ else _ : Stage) ≠ _
      split
      · exact nofun
      · next other => exact other
  | _ => cases ends

/-- Only a commit makes a new booking. -/
theorem Stage.next_made_iff {stage : Stage} {stmt : Stmt} (goesOn : stmt ≠ .commit)
    (answer : stmt.Answer) : stage.next target ⟨stmt, answer⟩ = .made ↔ stage = .made := by
  have sees : ∀ {free : Stage} (row : Option Booking), free ≠ .made →
      (stage.sees target free row = .made ↔ stage = .made) := by
    intro free row other
    cases row with
    | none => rfl
    | some row =>
        rw [Stage.sees]
        split
        · next first =>
            rw [first.1]
            split
            · exact ⟨fun same => absurd same other, by rintro ⟨⟩⟩
            · exact ⟨(by rintro ⟨⟩), by rintro ⟨⟩⟩
        · rfl
  have either : ∀ {condition : Prop} [Decidable condition] {later : Stage}, later ≠ .made →
      (condition → stage ≠ .made) →
        ((if condition then later else stage) = .made ↔ stage = .made) := by
    intro condition _ later other not
    split
    · next holds => exact ⟨fun same => absurd same other, fun same => absurd same (not holds)⟩
    · rfl
  cases stmt with
  | select query =>
      cases query with
      | booking id tenantId => exact sees answer (by rintro ⟨⟩)
      | _ => rfl
  | selectBookingForUpdate id tenantId => exact sees answer (by rintro ⟨⟩)
  | insert draft =>
      cases answer with
      | error constraint => rfl
      | ok id =>
          refine either (by rintro ⟨⟩) fun both => ?_
          rw [both.1]
          rintro ⟨⟩
  | update write =>
      cases write with
      | updateBooking id change =>
          refine either (by rintro ⟨⟩) fun locked => ?_
          rw [locked]
          rintro ⟨⟩
      | _ => rfl
  | commit => exact absurd rfl goesOn
  | rollback =>
      refine either (by rintro ⟨⟩) fun inserted => ?_
      rw [inserted]
      rintro ⟨⟩
  | _ => rfl

theorem commits_snoc_iff {log : List (Event Sql)} {stmt : Stmt} {answer : stmt.Answer}
    (goesOn : stmt ≠ .commit) : Commits (log ++ [⟨stmt, answer⟩]) ↔ Commits log := by
  rw [Commits, List.mem_append, List.mem_singleton]
  refine ⟨?_, .inl⟩
  rintro (earlier | last)
  · exact earlier
  · cases last
    exact absurd rfl goesOn

/-- The cancellation is committed as soon as anything is. -/
theorem commits_iff_won (mine : call.on target = true) (log : List (Event Sql)) :
    Commits log ↔ (stageOf cfg target call log).won = true := by
  induction log using List.reverseRecOn with
  | nil => exact ⟨nofun, nofun⟩
  | append_singleton log event ih =>
      rw [stageOf_snoc mine]
      obtain ⟨stmt, answer⟩ := event
      by_cases commit : stmt = .commit
      · subst commit
        refine ⟨fun _ => ?_, fun _ => List.mem_append_right _ (List.mem_singleton_self _)⟩
        cases stageOf cfg target call log <;> rfl
      · rw [Stage.next_won_iff commit, commits_snoc_iff commit]
        exact ih

end Logs

/-! ## The invariant -/

/-- Every change of the booking that a session has not committed is a cancellation,
and comes from a call on the booking that has locked it. -/
structure PendingChanges (cfg : Settings) (target : Booking) (config : BookingConfig) : Prop where
  owner : ∀ pid write, write ∈ config.world.writesOf pid → write.changes target.id = true →
    (∃ reason, write = .updateBooking target.id (.cancel reason)) ∧
      ∃ process, config.running pid = some process ∧
        process.call.on target = true ∧
        stageOf cfg target process.call process.log = .cancelling
  there : ∀ pid process, config.running pid = some process → process.call.on target = true →
    stageOf cfg target process.call process.log = .cancelling →
      ∃ write ∈ config.world.writesOf pid, write.changes target.id = true

/-- How the calls on the booking stand to each other and to the committed rows. -/
structure Succession (cfg : Settings) (target : Booking) (config : BookingConfig) : Prop where
  orderly : Orderly cfg (fun _ => True) config
  watched : config.Watched (trackWatch cfg target)
  row : ∃ row ∈ config.world.db.bookings, row.SameSlot target ∧
    ((row.status = .confirmed ∧ (changesOf target config.world.journal).length = 0) ∨
      (row.status = .cancelled ∧ (changesOf target config.world.journal).length = 1))
  authors : ∀ entry ∈ changesOf target config.world.journal, entry.call.on target = true
  pending : PendingChanges cfg target config
  locked : ∀ pid process, config.running pid = some process → process.call.on target = true →
    stageOf cfg target process.call process.log = .locked ∨
      stageOf cfg target process.call process.log = .cancelling →
    (.booking target.id, pid) ∈ config.world.locks ∧
      (changesOf target config.world.journal).length = 0
  lost : ∀ who, config.Marked (fun call log => call.on target = true ∧
    stageOf cfg target call log = .lost) who → (changesOf target config.world.journal).length = 1
  nobody : (changesOf target config.world.journal).length = 0 →
    ∀ who, ¬config.Marked (Wins target) who
  winner : (changesOf target config.world.journal).length = 1 →
    ∃! who, config.Marked (Wins target) who
  drafts : ∀ pid process, config.running pid = some process → process.call.on target = true →
    ((config.world.writesOf pid).filterMap Table.bookings.inserted).length =
      if stageOf cfg target process.call process.log = .inserted then 1 else 0
  made : ((successorsOf target config.world.journal).length = 0 ∧
      ∀ who, ¬config.Marked (fun call log => call.on target = true ∧
        stageOf cfg target call log = .made) who) ∨
    ((successorsOf target config.world.journal).length = 1 ∧
      ∃ who, config.Marked (fun call log => call.on target = true ∧
        stageOf cfg target call log = .made) who)

/-! ## Rows -/

section Rows

variable {target : Booking}

/-- What writes of which all changes of a booking are cancellations make of it. -/
theorem Db.applyAll_cancels {db : Db} {writes : List Write} {row : Booking}
    (member : row ∈ db.bookings)
    (only : ∀ write ∈ writes, write.changes row.id = true →
      ∃ reason, write = .updateBooking row.id (.cancel reason)) :
    ∃ version ∈ (db.applyAll writes).bookings, version.SameSlot row ∧
      version.status = if writes.any (·.changes row.id) then .cancelled else row.status := by
  induction writes generalizing db row with
  | nil => exact ⟨row, member, .refl row, rfl⟩
  | cons write writes ih =>
      have others : ∀ other ∈ writes, other.changes row.id = true →
          ∃ reason, other = .updateBooking row.id (.cancel reason) :=
        fun other there => only other (List.mem_cons_of_mem _ there)
      rw [applyAll_cons, List.any_cons]
      cases changes : write.changes row.id with
      | true =>
          obtain ⟨reason, rfl⟩ := only write List.mem_cons_self changes
          have cancelled : (BookingChange.cancel reason).apply row ∈
              (db.apply (.updateBooking row.id (.cancel reason))).bookings :=
            List.mem_map.mpr ⟨row, member, if_pos rfl⟩
          obtain ⟨version, there, same, status⟩ := ih cancelled others
          refine ⟨version, there, same.trans (BookingChange.apply_sameSlot _ row), ?_⟩
          rw [status, Bool.true_or, if_pos rfl]
          change (if _ then _ else BookingStatus.cancelled) = _
          rw [ite_self]
      | false =>
          have kept : row ∈ (db.apply write).bookings := by
            refine @Db.mem_bookings_applyAll db [write] row (fun change there => ?_) member
            rw [List.mem_singleton] at there
            subst there
            rw [Write.changes, beq_self_eq_true] at changes
            cases changes
          obtain ⟨version, there, same, status⟩ := ih kept others
          refine ⟨version, there, same, ?_⟩
          rw [status, Bool.false_or]

/-- A session that has not changed a booking sees it as it is committed. -/
theorem view_unchanged {world : World Call} (consistent : world.Consistent) {pid : Pid}
    {row version : Booking} (member : row ∈ world.db.bookings)
    (untouched : ∀ write ∈ world.writesOf pid, write.changes row.id = false)
    (seen : version ∈ (world.view pid).bookings) (same : version.id = row.id) : version = row := by
  obtain ⟨origin, source, sameSlot, changed, -⟩ := Db.mem_applyAll_bookings seen
  have standing : world.Standing origin := source.imp_right fun inserted => ⟨pid, inserted⟩
  have isRow : origin = row :=
    consistent.standing_committed standing member (sameSlot.id.symm.trans same)
  rcases changed with ⟨change, older, there, -⟩ | equal
  · have changes := untouched _ there
    rw [same, Write.changes, beq_self_eq_true] at changes
    cases changes
  · exact equal.trans isRow

/-- A question for one booking, asked by a session that has not changed the
target. -/
theorem shown_of_view {world : World Call} (consistent : world.Consistent) {pid : Pid}
    {row : Booking} (member : row ∈ world.db.bookings) (same : row.SameSlot target)
    (settled : row.status ≠ .pendingPayment)
    (untouched : ∀ write ∈ world.writesOf pid, write.changes target.id = false)
    (id tenantId : Nat) :
    Shown target id tenantId ((world.view pid).bookings.find? fun row =>
      row.id == id && row.tenantId == tenantId) := by
  have sameTenant : row.tenantId = target.tenantId := by rw [← same]
  have sameBusiness : row.businessId = target.businessId := by rw [← same]
  have sameStart : row.startsAt = target.startsAt := by rw [← same]
  have untouchedRow : ∀ write ∈ world.writesOf pid, write.changes row.id = false := by
    rw [same.id]
    exact untouched
  refine ⟨fun theId theTenant missing => ?_, fun found seen => ?_, fun found seen theId => ?_⟩
  · have kept : row ∈ (world.view pid).bookings := by
      refine Db.mem_bookings_applyAll (fun change there => ?_) member
      have changes := untouchedRow _ there
      rw [Write.changes, beq_self_eq_true] at changes
      cases changes
    have other := List.find?_eq_none.mp missing row kept
    rw [theId, theTenant, same.id, sameTenant, beq_self_eq_true, beq_self_eq_true] at other
    exact other rfl
  · have fits := List.find?_some seen
    rw [Bool.and_eq_true, beq_iff_eq, beq_iff_eq] at fits
    exact fits
  · have isRow := view_unchanged consistent member untouchedRow (List.mem_of_find?_eq_some seen)
      (theId.trans same.id.symm)
    rw [isRow]
    exact ⟨sameBusiness, sameTenant, sameStart, settled⟩

end Rows

/-! ## One statement -/

/-- The answer shows one booking. -/
inductive Sees (row : Booking) : Event Sql → Prop where
  | select (id tenantId : Nat) : Sees row ⟨.select (.booking id tenantId), some row⟩
  | lock (id tenantId : Nat) : Sees row ⟨.selectBookingForUpdate id tenantId, some row⟩

/-- What becomes of the stage with a statement that writes nothing. -/
inductive Stage.Turns (target : Booking) (stage : Stage) : Event Sql → Stage → Prop where
  | stays {event : Event Sql} : Turns target stage event stage
  | locks {id tenantId : Nat} {row : Booking} (begun : stage = .begun)
      (same : row.id = target.id) (confirmed : row.status = .confirmed) :
      Turns target stage ⟨.selectBookingForUpdate id tenantId, some row⟩ .locked
  | loses {event : Event Sql} {row : Booking} (begun : stage = .begun) (seen : Sees row event)
      (same : row.id = target.id) (unconfirmed : row.status ≠ .confirmed) :
      Turns target stage event .lost

theorem Stage.turns {target : Booking} {stage : Stage} {event : Event Sql}
    (nothing : writesNothing event = true) :
      stage.Turns target event (stage.next target event) := by
  obtain ⟨stmt, answer⟩ := event
  cases stmt with
  | select query =>
      cases query with
      | booking id tenantId =>
          cases answer with
          | none => exact .stays
          | some row =>
              change stage.Turns target _ (stage.sees target .begun (some row))
              rw [Stage.sees]
              split
              · next first =>
                  split
                  · rw [first.1]
                    exact .stays
                  · next unconfirmed =>
                      exact .loses first.1 (.select id tenantId) first.2 unconfirmed
              · exact .stays
      | _ => exact .stays
  | selectBookingForUpdate id tenantId =>
      cases answer with
      | none => exact .stays
      | some row =>
          change stage.Turns target _ (stage.sees target .locked (some row))
          rw [Stage.sees]
          split
          · next first =>
              split
              · next confirmed => exact .locks first.1 first.2 confirmed
              · next unconfirmed =>
                  exact .loses first.1 (.lock id tenantId) first.2 unconfirmed
          · exact .stays
  | insert draft =>
      cases answer with
      | ok id => cases nothing
      | error constraint => exact .stays
  | update write => cases nothing
  | commit => cases nothing
  | rollback => cases nothing
  | _ => exact .stays

section Steps

variable {cfg : Settings} {target : Booking} {before : BookingConfig} {pid : Pid} {call : Call}
  {stmt : Stmt} {next : stmt.Answer → DbM Reply} {log : List (Event Sql)} {answer : stmt.Answer}
  {world : World Call}

/-- The committed row of the booking. -/
theorem Succession.unchanged_at (invariant : Succession cfg target before)
    {process : Process Sql Call AppError Reply} (running : before.running pid = some process)
    (open' : process.call.on target = true →
      stageOf cfg target process.call process.log ≠ .cancelling) :
    ∀ write ∈ before.world.writesOf pid, write.changes target.id = false := by
  intro write member
  by_contra changes
  rw [Bool.not_eq_false] at changes
  obtain ⟨-, found, there, mine, stage⟩ := invariant.pending.owner pid write member changes
  rw [running] at there
  cases there
  exact open' mine stage

/-- The answers that the world gives are the ones that the tracker expects. -/
theorem Succession.possible (invariant : Succession cfg target before)
    (running : before.running pid = some ⟨call, .call (S := Sql) stmt next, log⟩)
    (executed : execStmt pid call stmt before.world = some (answer, world)) :
    Possible target (stageOf cfg target call log) ⟨stmt, answer⟩ := by
  obtain ⟨row, member, same, status⟩ := invariant.row
  have settled : row.status ≠ .pendingPayment := by
    rcases status with ⟨confirmed, -⟩ | ⟨cancelled, -⟩
    · rw [confirmed]
      exact nofun
    · rw [cancelled]
      exact nofun
  have shown : stageOf cfg target call log = .begun → ∀ id tenantId, Shown target id tenantId
      ((before.world.view pid).bookings.find? fun row =>
        row.id == id && row.tenantId == tenantId) := by
    intro begun id tenantId
    refine shown_of_view invariant.orderly.invariant.1 member same settled ?_ id tenantId
    refine invariant.unchanged_at running fun _ cancelling => ?_
    rw [begun] at cancelling
    cases cancelling
  cases stmt with
  | select query =>
      cases query with
      | booking id tenantId =>
          cases executed
          exact fun begun => shown begun id tenantId
      | _ => exact trivial
  | selectBookingForUpdate id tenantId =>
      intro begun
      rw [(execStmt_lock executed).1]
      exact shown begun id tenantId
  | insert draft =>
      rintro constraint rfl
      exact ⟨_, execStmt_refused executed⟩
  | selectWaitlistForUpdateSkipLocked filter => exact execStmt_waitlist executed
  | _ => exact trivial

/-- A statement of one call after which the booking is committed as before. -/
structure Steady (cfg : Settings) (target : Booking) (before after : World Call) (pid : Pid)
    (call : Call) (log newLog : List (Event Sql)) : Prop where
  own : OwnOnly pid before after
  row : ∀ row ∈ before.db.bookings, row.id = target.id → row ∈ after.db.bookings
  changes : changesOf target after.journal = changesOf target before.journal
  owner : ∀ write ∈ after.writesOf pid, write.changes target.id = true →
    (∃ reason, write = .updateBooking target.id (.cancel reason)) ∧ call.on target = true ∧
      stageOf cfg target call newLog = .cancelling
  there : call.on target = true → stageOf cfg target call newLog = .cancelling →
    ∃ write ∈ after.writesOf pid, write.changes target.id = true
  locked : call.on target = true →
    stageOf cfg target call newLog = .locked ∨ stageOf cfg target call newLog = .cancelling →
    (.booking target.id, pid) ∈ after.locks ∧ (changesOf target before.journal).length = 0
  lost : call.on target = true → stageOf cfg target call newLog = .lost →
    (changesOf target before.journal).length = 1
  wins : call.on target = true → (Commits newLog ↔ Commits log)
  drafts : call.on target = true →
    ((after.writesOf pid).filterMap Table.bookings.inserted).length =
      if stageOf cfg target call newLog = .inserted then 1 else 0

/-- There is a new booking exactly if a call has made one, with one call moved on. -/
def Tallied (cfg : Settings) (target : Booking) (before : BookingConfig) (pid : Pid) (call : Call)
    (newLog : List (Event Sql)) (journal : List (Committed Call)) : Prop :=
  ((successorsOf target journal).length = 0 ∧
      (call.on target = true → stageOf cfg target call newLog ≠ .made) ∧
      ∀ who, who ≠ .inl pid → ¬before.Marked (fun call log => call.on target = true ∧
        stageOf cfg target call log = .made) who) ∨
    ((successorsOf target journal).length = 1 ∧
      ((call.on target = true ∧ stageOf cfg target call newLog = .made) ∨
        ∃ who, who ≠ .inl pid ∧ before.Marked (fun call log => call.on target = true ∧
          stageOf cfg target call log = .made) who))

theorem Succession.of_steady (invariant : Succession cfg target before)
    {process : Process Sql Call AppError Reply} (running : before.running pid = some process)
    {rest : DbM Reply} {newLog : List (Event Sql)}
    (steady : Steady cfg target before.world world pid process.call process.log newLog)
    (orderly : Orderly cfg (fun _ => True)
      ⟨world, Function.update before.running pid (some ⟨process.call, rest, newLog⟩),
        before.finished⟩)
    (watched : Config.Watched (trackWatch cfg target)
      (⟨world, Function.update before.running pid (some ⟨process.call, rest, newLog⟩),
        before.finished⟩ : BookingConfig))
    (made : Tallied cfg target before pid process.call newLog world.journal) :
    Succession cfg target
      ⟨world, Function.update before.running pid (some ⟨process.call, rest, newLog⟩),
        before.finished⟩ := by
  have marked : ∀ {mark : Call → List (Event Sql) → Prop} {who : Pid ⊕ Nat}, who ≠ .inl pid →
      (Config.Marked (⟨world, Function.update before.running pid
        (some ⟨process.call, rest, newLog⟩), before.finished⟩ : BookingConfig) mark who ↔
          before.Marked mark who) := fun other => Config.marked_of_ne other
  have mine : ∀ {mark : Call → List (Event Sql) → Prop},
      (Config.Marked (⟨world, Function.update before.running pid
        (some ⟨process.call, rest, newLog⟩), before.finished⟩ : BookingConfig) mark (.inl pid) ↔
          mark process.call newLog) := by
    intro mark
    rw [Config.marked_running]
    dsimp only
    rw [Function.update_self]
    constructor
    · rintro ⟨_, ⟨⟩, holds⟩
      exact holds
    · exact fun holds => ⟨_, rfl, holds⟩
  have wins : ∀ who, Config.Marked (⟨world, Function.update before.running pid
        (some ⟨process.call, rest, newLog⟩), before.finished⟩ : BookingConfig) (Wins target) who ↔
          before.Marked (Wins target) who := by
    intro who
    by_cases same : who = .inl pid
    · subst same
      rw [mine, Config.marked_running]
      constructor
      · rintro ⟨on, commits⟩
        exact ⟨process, running, on, (steady.wins on).mp commits⟩
      · rintro ⟨found, there, on, commits⟩
        rw [running] at there
        cases there
        exact ⟨on, (steady.wins on).mpr commits⟩
    · exact marked same
  have here : ∀ {found : Process Sql Call AppError Reply}, Function.update before.running pid
      (some ⟨process.call, rest, newLog⟩) pid = some found →
        (⟨process.call, rest, newLog⟩ : Process Sql Call AppError Reply) = found := by
    intro found there
    rw [Function.update_self] at there
    exact Option.some.inj there
  -- The other processes are where they were, with the locks and the writes they had.
  have others : ∀ {other : Pid} {found : Process Sql Call AppError Reply}, other ≠ pid →
      Function.update before.running pid (some ⟨process.call, rest, newLog⟩) other = some found →
        before.running other = some found := by
    intro other found different there
    rw [Function.update_of_ne different] at there
    exact there
  refine ⟨orderly, watched, ?_, ?_, ⟨?_, ?_⟩, ?_, ?_, ?_, ?_, ?_, ?_⟩
  · obtain ⟨row, member, same, status⟩ := invariant.row
    refine ⟨row, steady.row row member same.id, same, ?_⟩
    rw [steady.changes]
    exact status
  · rw [steady.changes]
    exact invariant.authors
  · intro other write member changes
    by_cases same : other = pid
    · subst same
      obtain ⟨cancels, on, stage⟩ := steady.owner write member changes
      exact ⟨cancels, _, Function.update_self .., on, stage⟩
    · rw [steady.own.writes other same] at member
      obtain ⟨cancels, found, there, on, stage⟩ :=
        invariant.pending.owner other write member changes
      refine ⟨cancels, found, ?_, on, stage⟩
      dsimp only
      rw [Function.update_of_ne same]
      exact there
  · intro other found there on stage
    by_cases same : other = pid
    · subst same
      obtain rfl := here there
      exact steady.there on stage
    · rw [steady.own.writes other same]
      exact invariant.pending.there other found (others same there) on stage
  · intro other found there on stage
    rw [steady.changes]
    by_cases same : other = pid
    · subst same
      obtain rfl := here there
      exact steady.locked on stage
    · obtain ⟨held, none⟩ := invariant.locked other found (others same there) on stage
      exact ⟨(steady.own.locks _ other same).mpr held, none⟩
  · intro who lost
    rw [steady.changes]
    by_cases same : who = .inl pid
    · subst same
      obtain ⟨on, stage⟩ := mine.mp lost
      exact steady.lost on stage
    · exact invariant.lost who ((marked same).mp lost)
  · intro none who won
    rw [steady.changes] at none
    exact invariant.nobody none who ((wins who).mp won)
  · intro one
    rw [steady.changes] at one
    simp only [wins]
    exact invariant.winner one
  · intro other found there on
    by_cases same : other = pid
    · subst same
      obtain rfl := here there
      exact steady.drafts on
    · rw [steady.own.writes other same]
      exact invariant.drafts other found (others same there) on
  · rcases made with ⟨none, not, noOther⟩ | ⟨one, ⟨on, stage⟩ | ⟨who, different, is⟩⟩
    · refine .inl ⟨none, fun who is => ?_⟩
      by_cases same : who = .inl pid
      · subst same
        obtain ⟨on, stage⟩ := mine.mp is
        exact not on stage
      · exact noOther who same ((marked same).mp is)
    · exact .inr ⟨one, .inl pid, mine.mpr ⟨on, stage⟩⟩
    · exact .inr ⟨one, who, (marked different).mpr is⟩

/-! ## What a statement does to the booking -/

theorem changesOf_snoc (journal : List (Committed Call)) (entry : Committed Call) :
    changesOf target (journal ++ [entry]) =
      changesOf target journal ++ if entry.changes target then [entry] else [] := by
  rw [changesOf, List.filter_append, List.filter_singleton, Bool.cond_eq_ite]
  rfl

theorem successorsOf_snoc (journal : List (Committed Call)) (entry : Committed Call) :
    successorsOf target (journal ++ [entry]) =
      successorsOf target journal ++ entry.successors target := by
  rw [successorsOf, List.flatMap_append, List.flatMap_singleton]
  rfl

/-- A session that has not changed the booking, and does not change it now, leaves
it as it is committed. -/
theorem spared_step (executed : execStmt pid call stmt before.world = some (answer, world))
    (untouched : ∀ write ∈ before.world.writesOf pid, write.changes target.id = false)
    (spares : stmt.Spares target) :
    (∀ write ∈ world.writesOf pid, write.changes target.id = false) ∧
      (∀ row ∈ before.world.db.bookings, row.id = target.id → row ∈ world.db.bookings) ∧
      changesOf target world.journal = changesOf target before.world.journal := by
  have added : ∀ write, write.changes target.id = false →
      world.pending = before.world.pending ++ [(pid, write)] →
        ∀ other ∈ world.writesOf pid, other.changes target.id = false := by
    intro write new pending other member
    rw [← mem_pending_iff, pending, List.mem_append, List.mem_singleton, Prod.mk.injEq] at member
    rcases member with old | ⟨-, rfl⟩
    · exact untouched other (mem_pending_iff.mp old)
    · exact new
  have none : ∀ {other : World Call}, other.writesOf pid = [] →
      ∀ write ∈ other.writesOf pid, write.changes target.id = false := by
    intro other empty write member
    rw [empty] at member
    cases member
  obtain ⟨event, shown, effect⟩ : ∃ event : Event Sql, ⟨stmt, answer⟩ = event ∧
      Effect pid call before.world world event := ⟨_, rfl, execStmt_effect executed⟩
  cases effect with
  | quiet nothing db pending journal =>
      refine ⟨?_, fun row member _ => db ▸ member, by rw [journal]⟩
      rw [writesOf, pending]
      exact untouched
  | inserted db pending journal =>
      cases shown
      exact ⟨added _ (spares _) pending, fun row member _ => db ▸ member, by rw [journal]⟩
  | updated db pending journal =>
      cases shown
      exact ⟨added _ spares pending, fun row member _ => db ▸ member, by rw [journal]⟩
  | committed committed =>
      subst committed
      refine ⟨none (writesOf_release_self before.world pid), fun row member same => ?_, ?_⟩
      · refine Db.mem_bookings_applyAll (fun change there => ?_) member
        have changes := untouched _ there
        rw [same, Write.changes, beq_self_eq_true] at changes
        cases changes
      · change changesOf target (before.world.journal ++ [_]) = _
        rw [changesOf_snoc, if_neg, List.append_nil]
        intro changes
        obtain ⟨write, member, changed⟩ := List.any_eq_true.mp changes
        rw [untouched write member] at changed
        cases changed
  | rolledBack rolledBack =>
      subst rolledBack
      exact ⟨none (writesOf_release_self before.world pid), fun row member _ => member, rfl⟩

/-- A call that is not on the booking. -/
theorem steady_other (invariant : Succession cfg target before)
    (running : before.running pid = some ⟨call, .call (S := Sql) stmt next, log⟩)
    (executed : execStmt pid call stmt before.world = some (answer, world))
    (other : call.on target = false) (spares : stmt.Spares target) :
    Steady cfg target before.world world pid call log (log ++ [⟨stmt, answer⟩]) := by
  have off : call.on target ≠ true := by
    rw [other]
    exact nofun
  have untouched := invariant.unchanged_at running fun mine => absurd mine off
  obtain ⟨still, row, changes⟩ := spared_step executed untouched spares
  refine ⟨execStmt_ownOnly executed, row, changes, fun write member changed => ?_,
    fun mine => absurd mine off, fun mine => absurd mine off, fun mine => absurd mine off,
    fun mine => absurd mine off, fun mine => absurd mine off⟩
  rw [still write member] at changed
  cases changed

/-- The successors that a commit adds. -/
theorem successorsOf_step (executed : execStmt pid call stmt before.world = some (answer, world)) :
    (successorsOf target world.journal = successorsOf target before.world.journal ∧
      stmt ≠ .commit) ∨
    (stmt = .commit ∧ successorsOf target world.journal =
      successorsOf target before.world.journal ++
        Committed.successors target ⟨call, before.world.writesOf pid⟩) := by
  obtain ⟨event, shown, effect⟩ : ∃ event : Event Sql, ⟨stmt, answer⟩ = event ∧
      Effect pid call before.world world event := ⟨_, rfl, execStmt_effect executed⟩
  cases effect with
  | quiet nothing db pending journal =>
      refine .inl ⟨by rw [journal], ?_⟩
      rintro rfl
      cases shown
      cases nothing
  | inserted db pending journal =>
      cases shown
      exact .inl ⟨by rw [journal], nofun⟩
  | updated db pending journal =>
      cases shown
      exact .inl ⟨by rw [journal], nofun⟩
  | committed committed =>
      cases shown
      subst committed
      exact .inr ⟨rfl, successorsOf_snoc ..⟩
  | rolledBack rolledBack =>
      cases shown
      subst rolledBack
      exact .inl ⟨rfl, nofun⟩

/-! ## A statement of a call on the booking -/

section Own

variable (mine : call.on target = true)
include mine

omit mine in
/-- The row that is shown is the committed one. -/
theorem Succession.seen_row (invariant : Succession cfg target before)
    (running : before.running pid = some ⟨call, .call (S := Sql) stmt next, log⟩)
    (executed : execStmt pid call stmt before.world = some (answer, world))
    (begun : stageOf cfg target call log = .begun) {row : Booking}
    (seen : Sees row ⟨stmt, answer⟩) (same : row.id = target.id) :
    (row.status = .confirmed ∧ (changesOf target before.world.journal).length = 0) ∨
      (row.status = .cancelled ∧ (changesOf target before.world.journal).length = 1) := by
  obtain ⟨committed, member, sameSlot, status⟩ := invariant.row
  have untouched := invariant.unchanged_at running fun _ => by
    rw [begun]
    exact nofun
  have there : row ∈ (before.world.view pid).bookings := by
    cases seen with
    | select id tenantId =>
        exact List.mem_of_find?_eq_some (congrArg Prod.fst (Option.some.inj executed))
    | lock id tenantId => exact List.mem_of_find?_eq_some (execStmt_lock executed).1.symm
  have isRow : row = committed := by
    refine view_unchanged invariant.orderly.invariant.1 member ?_ there
      (same.trans sameSlot.id.symm)
    rw [sameSlot.id]
    exact untouched
  rw [isRow]
  exact status

/-- A statement after which the call is at the same stage, with the same changes of
the booking and the same new bookings. -/
theorem steady_same (invariant : Succession cfg target before)
    (running : before.running pid = some ⟨call, .call (S := Sql) stmt next, log⟩)
    (executed : execStmt pid call stmt before.world = some (answer, world))
    (goesOn : stmt.ends = false)
    (same : stageOf cfg target call (log ++ [⟨stmt, answer⟩]) = stageOf cfg target call log)
    (db : world.db = before.world.db) (journal : world.journal = before.world.journal)
    (changes : ∀ write : Write, write.changes target.id = true →
      (write ∈ world.writesOf pid ↔ write ∈ before.world.writesOf pid))
    (drafts : (world.writesOf pid).filterMap Table.bookings.inserted =
      (before.world.writesOf pid).filterMap Table.bookings.inserted) :
    Steady cfg target before.world world pid call log (log ++ [⟨stmt, answer⟩]) := by
  have notCommit : stmt ≠ .commit := by
    rintro rfl
    cases goesOn
  refine ⟨execStmt_ownOnly executed, fun row member _ => db ▸ member, by rw [journal], ?_, ?_, ?_,
    ?_, fun _ => commits_snoc_iff notCommit, ?_⟩
  · intro write member changed
    obtain ⟨cancels, found, there, -, stage⟩ :=
      invariant.pending.owner pid write ((changes write changed).mp member) changed
    rw [running] at there
    cases there
    exact ⟨cancels, mine, same.trans stage⟩
  · intro _ stage
    rw [same] at stage
    obtain ⟨write, member, changed⟩ := invariant.pending.there pid _ running mine stage
    exact ⟨write, (changes write changed).mpr member, changed⟩
  · intro _ stage
    rw [same] at stage
    obtain ⟨held, none⟩ := invariant.locked pid _ running mine stage
    exact ⟨execStmt_keeps_locks executed goesOn held, none⟩
  · intro _ stage
    rw [same] at stage
    exact invariant.lost (.inl pid) (Config.marked_running.mpr ⟨_, running, mine, stage⟩)
  · intro _
    rw [drafts, same]
    exact invariant.drafts pid _ running mine

/-- A statement that writes nothing. -/
theorem steady_quiet (invariant : Succession cfg target before)
    (running : before.running pid = some ⟨call, .call (S := Sql) stmt next, log⟩)
    (executed : execStmt pid call stmt before.world = some (answer, world))
    (nothing : writesNothing ⟨stmt, answer⟩ = true) (db : world.db = before.world.db)
    (pending : world.pending = before.world.pending)
    (journal : world.journal = before.world.journal) :
    Steady cfg target before.world world pid call log (log ++ [⟨stmt, answer⟩]) := by
  have goesOn : stmt.ends = false := by
    cases stmt with
    | commit => cases nothing
    | rollback => cases nothing
    | _ => rfl
  have notCommit : stmt ≠ .commit := by
    rintro rfl
    cases goesOn
  have writes : world.writesOf pid = before.world.writesOf pid := by
    rw [writesOf, writesOf, pending]
  have new := @stageOf_snoc cfg target call mine log ⟨stmt, answer⟩
  generalize old : stageOf cfg target call log = earlier at new
  have turns : earlier.Turns target ⟨stmt, answer⟩ (earlier.next target ⟨stmt, answer⟩) :=
    Stage.turns nothing
  generalize earlier.next target ⟨stmt, answer⟩ = later at new turns
  -- A call that has only begun has changed nothing yet.
  have begins : earlier = .begun → later = .locked ∨ later = .lost →
      (later = .locked → (.booking target.id, pid) ∈ world.locks ∧
        (changesOf target before.world.journal).length = 0) →
      (later = .lost → (changesOf target before.world.journal).length = 1) →
      Steady cfg target before.world world pid call log (log ++ [⟨stmt, answer⟩]) := by
    rintro rfl either locked lost
    have untouched := invariant.unchanged_at running fun _ => by
      rw [old]
      rintro ⟨⟩
    refine ⟨execStmt_ownOnly executed, fun row member _ => db ▸ member, by rw [journal], ?_, ?_, ?_,
      ?_, fun _ => commits_snoc_iff notCommit, ?_⟩
    · intro write member changed
      rw [writes] at member
      rw [untouched write member] at changed
      cases changed
    · intro _ stage
      rw [new] at stage
      rcases either with rfl | rfl <;> cases stage
    · intro _ stage
      rw [new] at stage
      rcases either with rfl | rfl
      · exact locked rfl
      · rcases stage with stage | stage <;> cases stage
    · intro _ stage
      rw [new] at stage
      exact lost stage
    · intro _
      rw [writes, new, invariant.drafts pid _ running mine, old]
      rcases either with rfl | rfl <;> rfl
  cases turns with
  | stays =>
      exact steady_same mine invariant running executed goesOn (new.trans old.symm) db journal
        (fun write _ => by rw [writes]) (by rw [writes])
  | @locks id tenantId row begun same confirmed =>
      refine begins begun (.inl rfl) (fun _ => ?_) (by rintro ⟨⟩)
      refine ⟨same ▸ (execStmt_lock executed).2 row rfl, ?_⟩
      rcases invariant.seen_row running executed (old.trans begun) (.lock id tenantId) same with
        ⟨-, none⟩ | ⟨cancelled, -⟩
      · exact none
      · rw [confirmed] at cancelled
        cases cancelled
  | @loses _ row begun seen same unconfirmed =>
      refine begins begun (.inr rfl) (by rintro ⟨⟩) fun _ => ?_
      rcases invariant.seen_row running executed (old.trans begun) seen same with
        ⟨confirmed, -⟩ | ⟨-, one⟩
      · exact absurd confirmed unconfirmed
      · exact one

/-- A new row that is not a booking, or the new booking. -/
theorem steady_insert {draft : Nat → Write} {next : Except Constraint Nat → DbM Reply}
    (invariant : Succession cfg target before)
    (running : before.running pid = some ⟨call, .call (S := Sql) (.insert draft) next, log⟩)
    (executed : execStmt pid call (.insert draft) before.world =
      some ((.ok before.world.nextId : Except Constraint Nat), world))
    (allowed : (stageOf cfg target call log).allows target (.insert draft))
    (db : world.db = before.world.db)
    (pending : world.pending = before.world.pending ++ [(pid, draft before.world.nextId)])
    (journal : world.journal = before.world.journal) :
    Steady cfg target before.world world pid call log
      (log ++ [⟨.insert draft, (.ok before.world.nextId : Except Constraint Nat)⟩]) := by
  have writes : world.writesOf pid =
      before.world.writesOf pid ++ [draft before.world.nextId] := by
    rw [writesOf, pending]
    simp [writesOf]
  have new := @stageOf_snoc cfg target call mine log
    ⟨.insert draft, (.ok before.world.nextId : Except Constraint Nat)⟩
  rcases allowed with other | ⟨moved, books⟩
  · have stays : (stageOf cfg target call log).next target
        ⟨.insert draft, (.ok before.world.nextId : Except Constraint Nat)⟩ =
          stageOf cfg target call log := by
      refine if_neg fun both => ?_
      rw [Write.addsBooking_of_ofBooking (other _)] at both
      cases both.2
    refine steady_same mine invariant running executed rfl (new.trans stays) db journal
      (fun write changed => ?_) ?_
    · rw [writes, List.mem_append, List.mem_singleton]
      refine ⟨?_, .inl⟩
      rintro (old | rfl)
      · exact old
      · rw [Write.changes_of_ofBooking (other _)] at changed
        cases changed
    · rw [writes, List.filterMap_append]
      have nothing : Table.bookings.inserted (draft before.world.nextId) = none := by
        have notBooking := other before.world.nextId
        generalize draft before.world.nextId = write at notBooking
        cases write with
        | insertBooking row => cases notBooking
        | _ => rfl
      rw [List.filterMap_cons, nothing, List.filterMap_nil, List.append_nil]
  · obtain ⟨row, added⟩ := books before.world.nextId
    have inserted : stageOf cfg target call
        (log ++ [⟨.insert draft, (.ok before.world.nextId : Except Constraint Nat)⟩]) =
          .inserted := by
      rw [new]
      refine if_pos ⟨moved, ?_⟩
      rw [added]
      rfl
    have untouched := invariant.unchanged_at running fun _ => by
      rw [moved]
      rintro ⟨⟩
    refine ⟨execStmt_ownOnly executed, fun row member _ => db ▸ member, by rw [journal], ?_, ?_, ?_,
      ?_, fun _ => commits_snoc_iff (by rintro ⟨⟩), ?_⟩
    · intro write member changed
      rw [writes, List.mem_append, List.mem_singleton] at member
      rcases member with old | rfl
      · rw [untouched write old] at changed
        cases changed
      · rw [added] at changed
        cases changed
    · intro _ stage
      rw [inserted] at stage
      cases stage
    · intro _ stage
      rw [inserted] at stage
      rcases stage with stage | stage <;> cases stage
    · intro _ stage
      rw [inserted] at stage
      cases stage
    · intro _
      have none := invariant.drafts pid _ running mine
      rw [moved] at none
      rw [inserted, writes, List.filterMap_append, List.length_append, none, added]
      rfl

/-- The cancellation of the locked row, or a change of another table. -/
theorem steady_update {write : Write} {next : Unit → DbM Reply}
    (invariant : Succession cfg target before)
    (running : before.running pid = some ⟨call, .call (S := Sql) (.update write) next, log⟩)
    (executed : execStmt pid call (.update write) before.world = some ((), world))
    (allowed : (stageOf cfg target call log).allows target (.update write))
    (db : world.db = before.world.db)
    (pending : world.pending = before.world.pending ++ [(pid, write)])
    (journal : world.journal = before.world.journal) :
    Steady cfg target before.world world pid call log (log ++ [⟨.update write, ()⟩]) := by
  have writes : world.writesOf pid = before.world.writesOf pid ++ [write] := by
    rw [writesOf, pending]
    simp [writesOf]
  have new := @stageOf_snoc cfg target call mine log ⟨.update write, ()⟩
  have drafts : Table.bookings.inserted write = none →
      (world.writesOf pid).filterMap Table.bookings.inserted =
        (before.world.writesOf pid).filterMap Table.bookings.inserted := by
    intro nothing
    rw [writes, List.filterMap_append, List.filterMap_cons, nothing, List.filterMap_nil,
      List.append_nil]
  rcases allowed with other | ⟨locked, reason, rfl⟩
  · have stays : (stageOf cfg target call log).next target ⟨.update write, ()⟩ =
        stageOf cfg target call log := by
      cases write with
      | updateBooking id change => cases other
      | _ => rfl
    refine steady_same mine invariant running executed rfl (new.trans stays) db journal
      (fun added changed => ?_) (drafts ?_)
    · rw [writes, List.mem_append, List.mem_singleton]
      refine ⟨?_, .inl⟩
      rintro (old | rfl)
      · exact old
      · rw [Write.changes_of_ofBooking other] at changed
        cases changed
    · cases write with
      | insertBooking row => cases other
      | _ => rfl
  · have cancelling : stageOf cfg target call
        (log ++ [⟨.update (.updateBooking target.id (.cancel reason)), ()⟩]) = .cancelling := by
      rw [new]
      exact if_pos locked
    have untouched := invariant.unchanged_at running fun _ => by
      rw [locked]
      rintro ⟨⟩
    refine ⟨execStmt_ownOnly executed, fun row member _ => db ▸ member, by rw [journal], ?_, ?_, ?_,
      ?_, fun _ => commits_snoc_iff (by rintro ⟨⟩), ?_⟩
    · intro added member changed
      rw [writes, List.mem_append, List.mem_singleton] at member
      rcases member with old | rfl
      · rw [untouched added old] at changed
        cases changed
      · exact ⟨⟨reason, rfl⟩, mine, cancelling⟩
    · intro _ _
      refine ⟨.updateBooking target.id (.cancel reason), ?_, beq_self_eq_true target.id⟩
      rw [writes]
      exact List.mem_append_right _ (List.mem_singleton_self _)
    · intro _ _
      obtain ⟨held, none⟩ := invariant.locked pid _ running mine (.inl locked)
      exact ⟨execStmt_keeps_locks executed rfl held, none⟩
    · intro _ stage
      rw [cancelling] at stage
      cases stage
    · intro _
      have none := invariant.drafts pid _ running mine
      rw [locked] at none
      rw [drafts rfl, none, cancelling]
      rfl

/-- The end of a transaction after the cancellation has been committed. -/
theorem steady_end {next : stmt.Answer → DbM Reply} (invariant : Succession cfg target before)
    (running : before.running pid = some ⟨call, .call (S := Sql) stmt next, log⟩)
    (executed : execStmt pid call stmt before.world = some (answer, world))
    (ends : stmt.ends = true) (won : (stageOf cfg target call log).won = true) :
    Steady cfg target before.world world pid call log (log ++ [⟨stmt, answer⟩]) := by
  have untouched := invariant.unchanged_at running fun _ stage => by
    rw [stage] at won
    cases won
  have spares : stmt.Spares target := by
    cases stmt with
    | commit => exact trivial
    | rollback => exact trivial
    | _ => cases ends
  obtain ⟨still, row, changes⟩ := spared_step executed untouched spares
  have stage : (stageOf cfg target call (log ++ [⟨stmt, answer⟩])).won = true ∧
      stageOf cfg target call (log ++ [⟨stmt, answer⟩]) ≠ .inserted := by
    rw [stageOf_snoc mine]
    exact ⟨Stage.next_won won _, Stage.next_end ends answer⟩
  have empty : world.writesOf pid = [] := by
    cases stmt with
    | commit =>
        cases executed
        exact writesOf_release_self before.world pid
    | rollback =>
        cases executed
        exact writesOf_release_self before.world pid
    | _ => cases ends
  refine ⟨execStmt_ownOnly executed, row, changes, ?_, ?_, ?_, ?_, ?_, ?_⟩
  · intro write member changed
    rw [still write member] at changed
    cases changed
  · intro _ cancelling
    rw [cancelling] at stage
    cases stage.1
  · rintro _ (locked | cancelling)
    · rw [locked] at stage
      cases stage.1
    · rw [cancelling] at stage
      cases stage.1
  · intro _ lost
    rw [lost] at stage
    cases stage.1
  · intro _
    rw [@commits_iff_won cfg target call mine, @commits_iff_won cfg target call mine]
    exact ⟨fun _ => won, fun _ => stage.1⟩
  · intro _
    rw [empty, if_neg stage.2]
    rfl

/-- The commit of the cancellation: no other call has come that far. -/
theorem Succession.win {next : Unit → DbM Reply} (invariant : Succession cfg target before)
    (running : before.running pid = some ⟨call, .call (S := Sql) .commit next, log⟩)
    (cancelling : stageOf cfg target call log = .cancelling)
    (orderly : Orderly cfg (fun _ => True)
      ⟨before.world.committed pid call, Function.update before.running pid
        (some ⟨call, next (), log ++ [⟨.commit, ()⟩]⟩), before.finished⟩)
    (watched : Config.Watched (trackWatch cfg target)
      (⟨before.world.committed pid call, Function.update before.running pid
        (some ⟨call, next (), log ++ [⟨.commit, ()⟩]⟩), before.finished⟩ : BookingConfig)) :
    Succession cfg target
      ⟨before.world.committed pid call, Function.update before.running pid
        (some ⟨call, next (), log ++ [⟨.commit, ()⟩]⟩), before.finished⟩ := by
  have consistent := invariant.orderly.invariant.1
  obtain ⟨held, none⟩ := invariant.locked pid _ running mine (.inr cancelling)
  have noWinner := invariant.nobody none
  have moved : stageOf cfg target call (log ++ [⟨.commit, ()⟩]) = .moved := by
    rw [stageOf_snoc mine, cancelling]
    rfl
  -- Whoever has locked the booking is the call itself.
  have alone : ∀ other found, before.running other = some found → found.call.on target = true →
      stageOf cfg target found.call found.log = .locked ∨
        stageOf cfg target found.call found.log = .cancelling → other = pid :=
    fun other found there on stage =>
      consistent.exclusive (invariant.locked other found there on stage).1 held
  have here : ∀ {found : Process Sql Call AppError Reply}, Function.update before.running pid
      (some ⟨call, next (), log ++ [⟨.commit, ()⟩]⟩) pid = some found →
        (⟨call, next (), log ++ [⟨.commit, ()⟩]⟩ : Process Sql Call AppError Reply) = found := by
    intro found there
    rw [Function.update_self] at there
    exact Option.some.inj there
  have others : ∀ {other : Pid} {found : Process Sql Call AppError Reply}, other ≠ pid →
      Function.update before.running pid (some ⟨call, next (), log ++ [⟨.commit, ()⟩]⟩) other =
        some found → before.running other = some found := by
    intro other found different there
    rw [Function.update_of_ne different] at there
    exact there
  have marked : ∀ {mark : Call → List (Event Sql) → Prop} {who : Pid ⊕ Nat}, who ≠ .inl pid →
      (Config.Marked (⟨before.world.committed pid call, Function.update before.running pid
        (some ⟨call, next (), log ++ [⟨.commit, ()⟩]⟩), before.finished⟩ : BookingConfig) mark who ↔
          before.Marked mark who) := fun other => Config.marked_of_ne other
  obtain ⟨write, pendingWrite, changes⟩ := invariant.pending.there pid _ running mine cancelling
  have counted : (changesOf target (before.world.committed pid call).journal).length = 1 := by
    change (changesOf target (before.world.journal ++ [_])).length = 1
    rw [changesOf_snoc, List.length_append, none, if_pos]
    · rfl
    · exact List.any_eq_true.mpr ⟨write, pendingWrite, changes⟩
  have noDraft : ((before.world.writesOf pid).filterMap Table.bookings.inserted).length = 0 := by
    rw [invariant.drafts pid _ running mine, cancelling]
    rfl
  refine ⟨orderly, watched, ?_, ?_, ⟨?_, ?_⟩, ?_, fun _ _ => counted, ?_, fun _ => ?_, ?_, .inl ?_⟩
  · obtain ⟨row, member, same, -⟩ := invariant.row
    obtain ⟨version, there, sameRow, status⟩ := @Db.applyAll_cancels before.world.db
      (before.world.writesOf pid) row member (fun write member changes => by
        rw [same.id] at changes ⊢
        exact (invariant.pending.owner pid write member changes).1)
    refine ⟨version, there, sameRow.trans same, .inr ⟨?_, counted⟩⟩
    rw [status, if_pos]
    rw [same.id]
    exact List.any_eq_true.mpr ⟨write, pendingWrite, changes⟩
  · intro entry member
    change entry ∈ changesOf target (before.world.journal ++ [_]) at member
    rw [changesOf_snoc, List.length_eq_zero_iff.mp none, List.nil_append] at member
    split at member
    · rw [List.mem_singleton] at member
      rw [member]
      exact mine
    · cases member
  · intro other write member changes
    obtain ⟨old, different⟩ := mem_writesOf_committed.mp member
    obtain ⟨-, found, there, on, stage⟩ := invariant.pending.owner other write old changes
    exact absurd (alone other found there on (.inr stage)) different
  · intro other found there on stage
    by_cases same : other = pid
    · subst same
      obtain rfl := here there
      rw [moved] at stage
      cases stage
    · exact absurd (alone other found (others same there) on (.inr stage)) same
  · intro other found there on stage
    by_cases same : other = pid
    · subst same
      obtain rfl := here there
      rw [moved] at stage
      rcases stage with stage | stage <;> cases stage
    · exact absurd (alone other found (others same there) on stage) same
  · intro nothing
    rw [counted] at nothing
    cases nothing
  · refine ⟨.inl pid, Config.marked_running.mpr ⟨_, Function.update_self .., mine, ?_⟩, ?_⟩
    · exact List.mem_append_right _ (List.mem_singleton_self _)
    · intro who won
      by_contra different
      exact noWinner who ((marked different).mp won)
  · intro other found there on
    by_cases same : other = pid
    · subst same
      obtain rfl := here there
      have empty : (before.world.committed other call).writesOf other = [] :=
        writesOf_release_self before.world other
      rw [empty, moved]
      rfl
    · have unchanged : (before.world.committed pid call).writesOf other =
          before.world.writesOf other := writesOf_release_of_ne before.world same
      rw [unchanged]
      exact invariant.drafts other found (others same there) on
  · have noneMade : ∀ who, ¬before.Marked (fun call log => call.on target = true ∧
        stageOf cfg target call log = .made) who := by
      rintro who ⟨maker, made, recorded, on, stage⟩
      refine noWinner who ⟨maker, made, recorded, on, ?_⟩
      rw [@commits_iff_won cfg target maker on, stage]
      rfl
    refine ⟨?_, fun who is => ?_⟩
    · change (successorsOf target (before.world.journal ++ [_])).length = 0
      rw [successorsOf_snoc, List.length_append, Committed.successors, if_pos mine, noDraft]
      rcases invariant.made with ⟨nothing, -⟩ | ⟨-, who, is⟩
      · rw [nothing]
      · exact absurd is (noneMade who)
    · by_cases same : who = .inl pid
      · subst same
        obtain ⟨found, there, -, stage⟩ := Config.marked_running.mp is
        obtain rfl := here there
        rw [moved] at stage
        cases stage
      · exact noneMade who ((marked same).mp is)

end Own

/-! ## Steps without a statement -/

/-- Starting, finishing and stopping a call. -/
theorem Succession.released {action : Action Call} (invariant : Succession cfg target before)
    {replaced : Option (Process Sql Call AppError Reply)}
    {finished : List (Outcome Sql Call AppError Reply)}
    (taken : Step (bookingMachine cfg) before action ⟨before.world.release pid,
      Function.update before.running pid replaced, finished⟩)
    (quiet : ∀ other, action ≠ .issue other)
    (ends : ∀ other process, action = .stop other → before.running other = some process →
      process.call.on target = false)
    (fresh : ∀ process, replaced = some process → process.log = [])
    (orderly : Orderly cfg (fun _ => True) ⟨before.world.release pid,
      Function.update before.running pid replaced, finished⟩)
    (watched : Config.Watched (trackWatch cfg target) (⟨before.world.release pid,
      Function.update before.running pid replaced, finished⟩ : BookingConfig)) :
    Succession cfg target ⟨before.world.release pid,
      Function.update before.running pid replaced, finished⟩ := by
  have renamed : ∀ mark : Call → List (Event Sql) → Prop, (∀ call, ¬mark call []) →
      (∀ call log, mark call log → call.on target = true) →
      ∃ rename : Equiv.Perm (Pid ⊕ Nat), ∀ who,
        Config.Marked (⟨before.world.release pid, Function.update before.running pid replaced,
          finished⟩ : BookingConfig) mark (rename who) ↔ before.Marked mark who := by
    intro mark none on
    refine Config.Marked.renamed taken none (fun other _ _ _ _ _ _ issue => ?_) ?_
    · exact absurd issue (quiet other)
    · intro other process stopped running marked
      have off := ends other process stopped running
      rw [on _ _ marked] at off
      cases off
  obtain ⟨renameLost, lost⟩ := renamed (fun call log => call.on target = true ∧
    stageOf cfg target call log = .lost) (fun call is => nomatch is.2) (fun _ _ is => is.1)
  obtain ⟨renameMade, made⟩ := renamed (fun call log => call.on target = true ∧
    stageOf cfg target call log = .made) (fun call is => nomatch is.2) (fun _ _ is => is.1)
  obtain ⟨renameWins, wins⟩ := renamed (Wins target) (fun call is => nomatch is.2)
    (fun _ _ is => is.1)
  -- The process that takes the place has not sent anything yet.
  have here : ∀ {found : Process Sql Call AppError Reply},
      Function.update before.running pid replaced pid = some found → found.log = [] := by
    intro found there
    rw [Function.update_self] at there
    exact fresh found there
  have begun : ∀ {found : Process Sql Call AppError Reply}, found.log = [] →
      stageOf cfg target found.call found.log = .begun := by
    intro found empty
    rw [empty]
    rfl
  have others : ∀ {other : Pid} {found : Process Sql Call AppError Reply}, other ≠ pid →
      Function.update before.running pid replaced other = some found →
        before.running other = some found := by
    intro other found different there
    rw [Function.update_of_ne different] at there
    exact there
  refine ⟨orderly, watched, invariant.row, invariant.authors, ⟨?_, ?_⟩, ?_, ?_, ?_, ?_, ?_, ?_⟩
  · intro other write member changes
    obtain ⟨old, different⟩ := mem_writesOf_release.mp member
    obtain ⟨cancels, found, there, on, stage⟩ := invariant.pending.owner other write old changes
    refine ⟨cancels, found, ?_, on, stage⟩
    dsimp only
    rw [Function.update_of_ne different]
    exact there
  · intro other found there on stage
    by_cases same : other = pid
    · subst same
      rw [begun (here there)] at stage
      cases stage
    · obtain ⟨write, member, changes⟩ :=
        invariant.pending.there other found (others same there) on stage
      exact ⟨write, mem_writesOf_release.mpr ⟨member, same⟩, changes⟩
  · intro other found there on stage
    by_cases same : other = pid
    · subst same
      rw [begun (here there)] at stage
      rcases stage with stage | stage <;> cases stage
    · obtain ⟨held, none⟩ := invariant.locked other found (others same there) on stage
      exact ⟨mem_locks_release.mpr ⟨held, same⟩, none⟩
  · intro who is
    rw [← renameLost.apply_symm_apply who] at is
    exact invariant.lost _ ((lost _).mp is)
  · intro none who is
    rw [← renameWins.apply_symm_apply who] at is
    exact invariant.nobody none _ ((wins _).mp is)
  · intro one
    obtain ⟨who, is, unique⟩ := invariant.winner one
    refine ⟨renameWins who, (wins who).mpr is, fun other isOther => ?_⟩
    rw [← renameWins.apply_symm_apply other] at isOther ⊢
    rw [unique _ ((wins _).mp isOther)]
  · intro other found there on
    by_cases same : other = pid
    · subst same
      rw [writesOf_release_self, begun (here there)]
      rfl
    · rw [writesOf_release_of_ne before.world same]
      exact invariant.drafts other found (others same there) on
  · rcases invariant.made with ⟨none, nobody⟩ | ⟨one, who, is⟩
    · refine .inl ⟨none, fun who is => ?_⟩
      rw [← renameMade.apply_symm_apply who] at is
      exact nobody _ ((made _).mp is)
    · exact .inr ⟨one, renameMade who, (made who).mpr is⟩

/-! ## Every step -/

/-- How the new bookings and the calls that made them hang together after a
statement of a call that has not committed the cancellation just now. -/
theorem Succession.made_step (invariant : Succession cfg target before)
    (running : before.running pid = some ⟨call, .call (S := Sql) stmt next, log⟩)
    (executed : execStmt pid call stmt before.world = some (answer, world))
    (won : call.on target = true → stmt = .commit → (stageOf cfg target call log).won = true) :
    Tallied cfg target before pid call (log ++ [⟨stmt, answer⟩]) world.journal := by
  have keeps : successorsOf target world.journal = successorsOf target before.world.journal →
      (call.on target = true → (stageOf cfg target call (log ++ [⟨stmt, answer⟩]) = .made ↔
        stageOf cfg target call log = .made)) →
      Tallied cfg target before pid call (log ++ [⟨stmt, answer⟩]) world.journal := by
    intro successors stage
    rw [Tallied, successors]
    rcases invariant.made with ⟨none, nobody⟩ | ⟨one, who, is⟩
    · refine .inl ⟨none, fun mine made => ?_, fun who _ => nobody who⟩
      exact nobody (.inl pid) (Config.marked_running.mpr ⟨_, running, mine, (stage mine).mp made⟩)
    · refine .inr ⟨one, ?_⟩
      by_cases same : who = .inl pid
      · subst same
        obtain ⟨found, there, mine, made⟩ := Config.marked_running.mp is
        rw [running] at there
        cases there
        exact .inl ⟨mine, (stage mine).mpr made⟩
      · exact .inr ⟨who, same, is⟩
  rcases @successorsOf_step target before pid call stmt answer world
    executed with ⟨same, goesOn⟩ | ⟨rfl, added⟩
  · refine keeps same fun mine => ?_
    rw [stageOf_snoc mine]
    exact Stage.next_made_iff goesOn answer
  cases mine : call.on target with
  | false =>
      have off : call.on target ≠ true := by
        rw [mine]
        exact nofun
      refine keeps ?_ fun on => absurd on off
      rw [added, Committed.successors, if_neg off, List.append_nil]
  | true =>
      have wonBefore := won mine rfl
      have drafts := invariant.drafts pid _ running mine
      rw [Committed.successors, if_pos mine] at added
      have new := @stageOf_snoc cfg target call mine log ⟨.commit, answer⟩
      -- A transaction without a new booking leaves the count alone.
      have nothing : ((before.world.writesOf pid).filterMap Table.bookings.inserted).length = 0 →
          successorsOf target world.journal = successorsOf target before.world.journal := by
        intro none
        rw [added, List.length_eq_zero_iff.mp none, List.append_nil]
      cases stage : stageOf cfg target call log with
      | moved =>
          rw [stage] at drafts new
          refine keeps (nothing drafts) fun _ => ?_
          rw [new, stage]
          exact ⟨nofun, nofun⟩
      | made =>
          rw [stage] at drafts new
          refine keeps (nothing drafts) fun _ => ?_
          rw [new, stage]
          exact ⟨fun _ => rfl, fun _ => rfl⟩
      | inserted =>
          rw [stage] at drafts new
          refine .inr ⟨?_, .inl ⟨mine, new⟩⟩
          rw [added, List.length_append, drafts]
          rcases invariant.made with ⟨none, -⟩ | ⟨-, who, is⟩
          · rw [none]
            rfl
          · -- Who has made a booking has cancelled this one, and only one call has.
            obtain ⟨maker, made, recorded, on, stage'⟩ := is
            have first : before.Marked (Wins target) who := by
              refine ⟨maker, made, recorded, on, ?_⟩
              rw [@commits_iff_won cfg target maker on, stage']
              rfl
            have second : before.Marked (Wins target) (.inl pid) := by
              refine Config.marked_running.mpr ⟨_, running, mine, ?_⟩
              rw [@commits_iff_won cfg target call mine]
              exact wonBefore
            have one : (changesOf target before.world.journal).length = 1 := by
              obtain ⟨row, -, -, ⟨-, nothing⟩ | ⟨-, one⟩⟩ := invariant.row
              · exact absurd second (invariant.nobody nothing _)
              · exact one
            have same := (invariant.winner one).unique first second
            rw [same] at recorded
            change (before.running pid).map _ = _ at recorded
            rw [running] at recorded
            cases recorded
            rw [stage] at stage'
            cases stage'
      | begun => rw [stage] at wonBefore; cases wonBefore
      | lost => rw [stage] at wonBefore; cases wonBefore
      | locked => rw [stage] at wonBefore; cases wonBefore
      | cancelling => rw [stage] at wonBefore; cases wonBefore

/-- **Every step keeps the calls on the booking apart.** -/
theorem Succession.step {after : BookingConfig} {action : Action Call}
    (invariant : Succession cfg target before) (allowed : RunsToEnd target before action)
    (taken : Step (bookingMachine cfg) before action after) : Succession cfg target after := by
  have orderly : Orderly cfg (fun _ => True) after :=
    BookingRun.orderly lawful_true invariant.orderly (.single ⟨action, trivial, taken⟩)
  have watched : after.Watched (trackWatch cfg target) := by
    refine invariant.watched.step taken (track_perform cfg target)
      fun pid call stmt next log answer world issued running executed => ?_
    exact invariant.possible running executed
  have made := taken
  cases taken with
  | @start pid call idle =>
      refine invariant.released made (fun _ same => nomatch same)
        (fun _ _ same => nomatch same) ?_ orderly watched
      rintro _ ⟨⟩
      rfl
  | @issue pid call stmt next log answer world running executed =>
      have must : (tracker cfg target call).must ((trackWatch cfg target).state call log) stmt := by
        have along := invariant.watched.running pid _ running
        cases along with
        | call must _ => exact must
      obtain ⟨event, shown, effect⟩ : ∃ event : Event Sql, ⟨stmt, answer⟩ = event ∧
          Effect pid call before.world world event := ⟨_, rfl, execStmt_effect executed⟩
      cases mine : call.on target with
      | false =>
          rw [tracker_must_off mine] at must
          refine invariant.of_steady running (steady_other invariant running executed mine must)
            orderly watched (invariant.made_step running executed fun on => ?_)
          rw [mine] at on
          cases on
      | true =>
          rw [tracker_must_on mine] at must
          have made := fun won => invariant.made_step running executed fun _ => won
          cases effect with
          | quiet nothing db pending journal =>
              subst shown
              refine invariant.of_steady running (steady_quiet mine invariant running executed
                nothing db pending journal) orderly watched (made ?_)
              rintro rfl
              cases nothing
          | inserted db pending journal =>
              cases shown
              exact invariant.of_steady running (steady_insert mine invariant running executed
                must db pending journal) orderly watched (made nofun)
          | updated db pending journal =>
              cases shown
              exact invariant.of_steady running (steady_update mine invariant running executed
                must db pending journal) orderly watched (made nofun)
          | committed committed =>
              cases shown
              rcases must with cancelling | won
              · subst committed
                exact invariant.win mine running cancelling orderly watched
              · exact invariant.of_steady running (steady_end mine invariant running executed
                  rfl won) orderly watched (made fun _ => won)
          | rolledBack rolledBack =>
              cases shown
              exact invariant.of_steady running (steady_end mine invariant running executed
                rfl must) orderly watched (made nofun)
  | @finish pid process result running ended =>
      exact invariant.released made (fun _ same => nomatch same)
        (fun _ _ same => nomatch same) (fun _ same => nomatch same) orderly watched
  | @stop pid process running =>
      refine invariant.released made (fun _ same => nomatch same) ?_
        (fun _ same => nomatch same) orderly watched
      rintro _ found ⟨⟩ there
      exact allowed found there
  | @ambient world changed =>
      obtain ⟨db, clock, outside, -, same, -, rfl⟩ := changed
      refine ⟨orderly, watched, ?_, invariant.authors,
        ⟨invariant.pending.owner, invariant.pending.there⟩, invariant.locked, invariant.lost,
          invariant.nobody, invariant.winner, invariant.drafts,
        invariant.made⟩
      obtain ⟨row, member, rest⟩ := invariant.row
      refine ⟨row, ?_, rest⟩
      change row ∈ db.bookings
      rw [same.bookings]
      exact member

end Steps

/-! ## Whole runs -/

section Runs

variable {cfg : Settings} {target : Booking}

theorem Succession.start {db : Db} {nextId : Nat} (wellFormed : db.WellFormed nextId)
    (there : target ∈ db.bookings) (confirmed : target.status = .confirmed) (clock : Instant)
    (redisTakes : Nat → Bool) :
    Succession cfg target (bookingStart db nextId clock redisTakes) where
  orderly := orderly_start cfg _ wellFormed trivial clock redisTakes
  watched := .initial ..
  row := ⟨target, there, .refl target, .inl ⟨confirmed, rfl⟩⟩
  authors := fun _ member => nomatch member
  pending := ⟨(fun _ _ member => nomatch member), (fun _ _ running => nomatch running)⟩
  locked := fun _ _ running => nomatch running
  lost := by
    rintro who ⟨call, log, recorded, -⟩
    cases who <;> cases recorded
  nobody := by
    rintro - who ⟨call, log, recorded, -⟩
    cases who <;> cases recorded
  winner := nofun
  drafts := fun _ _ running => nomatch running
  made := by
    refine .inl ⟨rfl, ?_⟩
    rintro who ⟨call, log, recorded, -⟩
    cases who <;> cases recorded

/-- A call on the booking that is excused has not found something it looked for. -/
theorem excused_iff {call : Call} (mine : call.on target = true) (log : List (Event Sql)) :
    ((trackWatch cfg target).state call log).excused =
      log.any (unfound cfg target) := by
  induction log using List.reverseRecOn with
  | nil => rfl
  | append_singleton log event ih =>
      rw [Watch.state_snoc, List.any_append]
      change ((tracker cfg target call).learn _ event).excused = _
      rw [tracker_learn_on mine]
      change (((trackWatch cfg target).state call log).excused || _) = _
      rw [ih, List.any_cons, List.any_nil, Bool.or_false]

/-- A call on the booking that has not committed anything has raised, and if it took
part, it has lost. -/
theorem Succession.refused {config : BookingConfig} (invariant : Succession cfg target config)
    {outcome : Outcome Sql Call AppError Reply} (member : outcome ∈ config.finished)
    (mine : outcome.call.on target = true) (nothing : ¬Commits outcome.log) :
    ∃ error, outcome.result = .error error ∧ (TakesPart cfg target outcome →
      (∃ message, error = .conflict message) ∧
        stageOf cfg target outcome.call outcome.log = .lost) := by
  have left := invariant.watched.finished outcome member
  have notWon : ¬(stageOf cfg target outcome.call outcome.log).won = true :=
    fun won => nothing ((commits_iff_won mine outcome.log).mpr won)
  obtain ⟨call, result, log⟩ := outcome
  cases result with
  | ok reply => exact absurd (left mine) notWon
  | error error =>
      refine ⟨error, rfl, ?_⟩
      rintro ⟨-, reasoned, found⟩
      rcases left mine with won | excused | blank | ⟨lost, conflict⟩
      · exact absurd won notWon
      · rw [excused_iff mine, List.any_eq_true] at excused
        obtain ⟨event, there, missing⟩ := excused
        rw [found event there] at missing
        cases missing
      · rw [blank] at reasoned
        cases reasoned
      · exact ⟨conflict, lost⟩

end Runs

/-! ## Runs of two calls on one booking -/

end AppointmentVoice
