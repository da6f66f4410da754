import AppointmentVoice.Concurrency.ReadCommitted
import AppointmentVoice.Database.Tables

/-!
# Schedule rows

The availability exceptions and the recurring blocks of the salons, as their services read
and write them under `READ COMMITTED`.  A row carries what its schema has checked: special
hours and blocks end after they start.  Nothing in the tables keeps two rows apart but
their numbers.
-/

set_option autoImplicit false

namespace AppointmentVoice.Schedule

open Concurrency

/-! ## Rows -/

/-- Special hours have a start and a later end. -/
def EndsAfterStart (isClosed : Bool) (startTime endTime : Option TimeOfDay) : Prop :=
  isClosed = false → ∃ start stop, startTime = some start ∧ endTime = some stop ∧ start < stop

/-- `AvailabilityExceptionCreate`, as `validate_special_hours` leaves it. -/
structure AvailabilityExceptionCreate where
  date : Date
  isClosed : Bool := true
  startTime : Option TimeOfDay := none
  endTime : Option TimeOfDay := none
  reason : Option String := none
  staffId : Option Nat := none
  endsAfterStart : EndsAfterStart isClosed startTime endTime

/-- A row of `availability_exceptions`: a closure of the date, or special hours; without a
member of staff it is the salon's. -/
structure AvailabilityException where
  id : Nat
  tenantId : Nat
  businessId : Nat
  staffId : Option Nat
  date : Date
  isClosed : Bool
  startTime : Option TimeOfDay
  endTime : Option TimeOfDay
  reason : Option String
  endsAfterStart : EndsAfterStart isClosed startTime endTime

/-- `RecurringStaffBlockCreate`, as `end_after_start` leaves it. -/
structure RecurringStaffBlockCreate where
  dayOfWeek : Int
  startTime : TimeOfDay
  endTime : TimeOfDay
  reason : Option String := none
  staffId : Option Nat := none
  endAfterStart : startTime < endTime

/-- A row of `recurring_staff_blocks`: a time that is taken every week. -/
structure RecurringStaffBlock where
  id : Nat
  tenantId : Nat
  businessId : Nat
  staffId : Option Nat
  dayOfWeek : Int
  startTime : TimeOfDay
  endTime : TimeOfDay
  reason : Option String
  endAfterStart : startTime < endTime

/-- The salons and their staff, which these services only read, and the two tables. -/
structure ScheduleDb where
  businesses : List Business
  staff : List Staff
  exceptions : List AvailabilityException
  blocks : List RecurringStaffBlock

/-- The changes of the two tables that a transaction holds until its commit. -/
inductive ScheduleWrite where
  | insertException (row : AvailabilityException)
  | insertBlock (row : RecurringStaffBlock)
  | deleteException (id : Nat)
  | deleteBlock (id : Nat)

/-- The tables after one change. -/
def ScheduleDb.apply (db : ScheduleDb) : ScheduleWrite → ScheduleDb
  | .insertException row => { db with exceptions := db.exceptions ++ [row] }
  | .insertBlock row => { db with blocks := db.blocks ++ [row] }
  | .deleteException id => { db with exceptions := db.exceptions.filter (·.id != id) }
  | .deleteBlock id => { db with blocks := db.blocks.filter (·.id != id) }

/-- Two deletions of one row. -/
def ScheduleWrite.waitsFor : ScheduleWrite → ScheduleWrite → Bool
  | .deleteException id, .deleteException other => id == other
  | .deleteBlock id, .deleteBlock other => id == other
  | _, _ => false

instance : Storage ScheduleDb ScheduleWrite where
  apply := ScheduleDb.apply
  waitsFor := ScheduleWrite.waitsFor

/-! ## Statements -/

/-- The SELECTs of the schedule service. -/
inductive ScheduleQuery where
  | business (id tenantId : Nat)
  | staff (id tenantId : Nat)
  | exceptionsOf (businessId tenantId : Nat) (staffId : Option Nat) (date : Date)
  | blocksOf (businessId tenantId : Nat) (staffId : Option Nat) (dayOfWeek : Int)
  | exception (id tenantId : Nat)
  | block (id tenantId : Nat)
  | exceptionByPrimaryKey (id : Nat)
  | blockByPrimaryKey (id : Nat)
  deriving DecidableEq, Repr

namespace ScheduleQuery

/-- What a SELECT comes back with: the first row, or all of them. -/
abbrev Row : ScheduleQuery → Type
  | .business _ _ => Option Business
  | .staff _ _ => Option Staff
  | .exceptionsOf _ _ _ _ => List AvailabilityException
  | .blocksOf _ _ _ _ => List RecurringStaffBlock
  | .exception _ _ => Option AvailabilityException
  | .block _ _ => Option RecurringStaffBlock
  | .exceptionByPrimaryKey _ => Option AvailabilityException
  | .blockByPrimaryKey _ => Option RecurringStaffBlock

/-- The rows that a SELECT finds, with the filters of its query. -/
def eval : (query : ScheduleQuery) → ScheduleDb → query.Row
  | .business id tenantId, db =>
      db.businesses.find? fun row => row.id == id && row.tenantId == tenantId
  | .staff id tenantId, db => db.staff.find? fun row => row.id == id && row.tenantId == tenantId
  | .exceptionsOf businessId tenantId staffId date, db =>
      db.exceptions.filter fun row =>
        row.businessId == businessId && row.tenantId == tenantId && row.staffId == staffId &&
          row.date == date
  | .blocksOf businessId tenantId staffId dayOfWeek, db =>
      db.blocks.filter fun row =>
        row.businessId == businessId && row.tenantId == tenantId && row.staffId == staffId &&
          row.dayOfWeek == dayOfWeek
  | .exception id tenantId, db =>
      db.exceptions.find? fun row => row.id == id && row.tenantId == tenantId
  | .block id tenantId, db => db.blocks.find? fun row => row.id == id && row.tenantId == tenantId
  | .exceptionByPrimaryKey id, db => db.exceptions.find? (·.id == id)
  | .blockByPrimaryKey id, db => db.blocks.find? (·.id == id)

end ScheduleQuery

/-- The statements that a session sends; a draft is given the key of its row. -/
inductive ScheduleStmt where
  | select (query : ScheduleQuery)
  | insert (draft : Nat → ScheduleWrite)
  | delete (write : ScheduleWrite)
  | commit

/-- `insert` answers the number of the row. -/
def ScheduleStmt.Answer : ScheduleStmt → Type
  | .select query => query.Row
  | .insert _ => Nat
  | .delete _ => Unit
  | .commit => Unit

/-- The statements and their answers. -/
abbrev ScheduleSql : Signature := ⟨ScheduleStmt, ScheduleStmt.Answer⟩

/-! ## The world -/

/-- What the sessions share: the tables with what each has pending, and the sequence of the
keys. -/
structure ScheduleWorld where
  sessions : Sessions ScheduleDb ScheduleWrite
  nextId : Nat

namespace ScheduleWorld

/-- The committed tables. -/
abbrev db (world : ScheduleWorld) : ScheduleDb := world.sessions.db

/-- The world before any request. -/
def start (db : ScheduleDb) (nextId : Nat) : ScheduleWorld := ⟨⟨db, []⟩, nextId⟩

/-- A session ends, and what it has not committed is gone. -/
def release (world : ScheduleWorld) (pid : Pid) : ScheduleWorld :=
  { world with sessions := world.sessions.release pid }

/-- The statement has to wait for another session. -/
def blocks (world : ScheduleWorld) (pid : Pid) : ScheduleStmt → Bool
  | .insert draft => world.sessions.mustWait pid (draft world.nextId)
  | .delete write => world.sessions.mustWait pid write
  | _ => false

end ScheduleWorld

/-- The effect of a statement that does not have to wait. -/
def effectOf (pid : Pid) : (stmt : ScheduleStmt) → ScheduleWorld → stmt.Answer × ScheduleWorld
  | .select query, world => (query.eval (world.sessions.view pid), world)
  | .insert draft, world =>
      (world.nextId, ⟨world.sessions.add pid (draft world.nextId), world.nextId + 1⟩)
  | .delete write, world => ((), { world with sessions := world.sessions.add pid write })
  | .commit, world => ((), { world with sessions := world.sessions.committed pid })

/-- The effect of a statement of a session; `none` while it has to wait. -/
def execSchedule (pid : Pid) (stmt : ScheduleStmt) (world : ScheduleWorld) :
    Option (stmt.Answer × ScheduleWorld) :=
  if world.blocks pid stmt then none else some (effectOf pid stmt world)

/-- What is executed has its effect. -/
theorem execSchedule_some {pid : Pid} {stmt : ScheduleStmt} {world : ScheduleWorld}
    {result : stmt.Answer × ScheduleWorld}
    (executed : execSchedule pid stmt world = some result) : effectOf pid stmt world = result := by
  unfold execSchedule at executed
  split at executed
  · cases executed
  · exact Option.some.inj executed

end AppointmentVoice.Schedule
