import AppointmentVoice.Concurrency.Interleaving
import AppointmentVoice.Schedule.Store

/-!
# Creating and deleting schedule rows

The services for availability exceptions and for recurring blocks, as programs over the
statements of a session.  A creation reads the rows of exactly its scope, looks for one
that is in its way, and then inserts its own.
-/

set_option autoImplicit false

namespace AppointmentVoice.Schedule

open Concurrency

/-- The errors of the schedule service: those of the domain, a comparison with `None`, and a row
that is gone when it is read again. -/
inductive ScheduleError where
  | conflict (message : String)
  | notFound (message : String)
  | typeError
  | database
  deriving DecidableEq, Repr

/-- The programs of the schedule service. -/
abbrev ScheduleM := Program ScheduleSql ScheduleError

/-! ## Statements as programs -/

/-- Send a SELECT. -/
def select (query : ScheduleQuery) : ScheduleM query.Row :=
  Program.issue (S := ScheduleSql) (.select query)

/-- Send an INSERT; the answer is the key of the row. -/
def insert (draft : Nat → ScheduleWrite) : ScheduleM Nat :=
  Program.issue (S := ScheduleSql) (.insert draft)

/-- Send a DELETE by primary key. -/
def delete (write : ScheduleWrite) : ScheduleM Unit :=
  Program.issue (S := ScheduleSql) (.delete write)

/-- `db.commit()`. -/
def commit : ScheduleM Unit := Program.issue (S := ScheduleSql) .commit

/-- Raise unless there is a value. -/
def orRaise {α : Type} (error : ScheduleError) : Option α → ScheduleM α
  | some value => pure value
  | none => throw error

/-! ## Salons and their staff -/

/-- `require_business`: the business, if it is one of the tenant. -/
def requireBusiness (businessId tenantId : Nat) : ScheduleM Business := do
  orRaise (.notFound "Business not found") (← select (.business businessId tenantId))

/-- `require_staff`: the member of staff, if it is one of the tenant. -/
def requireStaff (staffId tenantId : Nat) : ScheduleM Staff := do
  orRaise (.notFound "Staff member not found") (← select (.staff staffId tenantId))

/-- `require_staff_in_business`: a member of another business is not found. -/
def requireStaffInBusiness (staffId businessId tenantId : Nat) : ScheduleM Staff := do
  let member ← requireStaff staffId tenantId
  if member.businessId ≠ businessId then throw (.notFound "Staff member not found")
  return member

/-- `if staff_id is not None: require_staff_in_business(...)`. -/
def requireScope (staffId : Option Nat) (businessId tenantId : Nat) : ScheduleM Unit :=
  match staffId with
  | some staffId => do
      let _ ← requireStaffInBusiness staffId businessId tenantId
  | none => pure ()

/-! ## Availability exceptions -/

/-- What a closure beside another exception is refused with. -/
def closureConflict : ScheduleError := .conflict
  "A full-day closure cannot be combined with another availability exception for the same business/staff/date"

/-- What special hours that overlap others are refused with. -/
def exceptionOverlap : ScheduleError := .conflict
  "This availability exception's time window overlaps with an existing one for the same business/staff/date"

/-- `first < second`, which raises where one of them is `None`. -/
def earlier : Option TimeOfDay → Option TimeOfDay → ScheduleM Bool
  | some first, some second => pure (first < second)
  | _, _ => throw .typeError

/-- The loop over the existing exceptions. -/
def ensureNoOverlap (startTime endTime : Option TimeOfDay) :
    List AvailabilityException → ScheduleM Unit
  | [] => pure ()
  | e :: existing => do
      if ← earlier e.startTime endTime then
        if ← earlier startTime e.endTime then throw exceptionOverlap
      ensureNoOverlap startTime endTime existing

/-- `_ensure_no_conflicting_exception`. -/
def ensureNoConflictingException (businessId tenantId : Nat) (body : AvailabilityExceptionCreate) :
    ScheduleM Unit := do
  let existing ← select (.exceptionsOf businessId tenantId body.staffId body.date)
  if existing.isEmpty then return ()
  if body.isClosed || existing.any (·.isClosed) then throw closureConflict
  ensureNoOverlap body.startTime body.endTime existing

/-- The row of a request. -/
def AvailabilityExceptionCreate.row (body : AvailabilityExceptionCreate)
    (tenantId businessId id : Nat) :
    AvailabilityException where
  id := id
  tenantId := tenantId
  businessId := businessId
  staffId := body.staffId
  date := body.date
  isClosed := body.isClosed
  startTime := body.startTime
  endTime := body.endTime
  reason := body.reason
  endsAfterStart := body.endsAfterStart

/-- `create_availability_exception`: the scope is read and checked, and then the row is inserted
and committed. -/
def createAvailabilityException (tenantId businessId : Nat) (body : AvailabilityExceptionCreate) :
    ScheduleM AvailabilityException := do
  let _ ← requireBusiness businessId tenantId
  requireScope body.staffId businessId tenantId
  ensureNoConflictingException businessId tenantId body
  let id ← insert fun id => .insertException (body.row tenantId businessId id)
  commit
  orRaise .database (← select (.exceptionByPrimaryKey id))

/-- `require_availability_exception`: the exception, if it is one of the tenant. -/
def requireAvailabilityException (exceptionId tenantId : Nat) : ScheduleM AvailabilityException :=
  do
  orRaise (.notFound "Availability exception not found")
    (← select (.exception exceptionId tenantId))

/-- `require_availability_exception_in_business`: an exception of another business is not found.
-/
def requireAvailabilityExceptionInBusiness (exceptionId businessId tenantId : Nat) :
    ScheduleM AvailabilityException := do
  let exc ← requireAvailabilityException exceptionId tenantId
  if exc.businessId ≠ businessId then throw (.notFound "Availability exception not found")
  return exc

/-- `delete_availability_exception`. -/
def deleteAvailabilityException (exceptionId tenantId businessId : Nat) : ScheduleM Unit := do
  let exc ← requireAvailabilityExceptionInBusiness exceptionId businessId tenantId
  delete (.deleteException exc.id)
  commit

/-! ## Recurring blocks -/

/-- What a block that overlaps another one is refused with. -/
def blockOverlap : ScheduleError := .conflict
  "This recurring block's time window overlaps with an existing one for the same business/staff/day of week"

/-- `_ensure_no_conflicting_block`. -/
def ensureNoConflictingBlock (businessId tenantId : Nat) (body : RecurringStaffBlockCreate) :
    ScheduleM Unit := do
  let existing ← select (.blocksOf businessId tenantId body.staffId body.dayOfWeek)
  if existing.any fun block => block.startTime < body.endTime && body.startTime < block.endTime then
    throw blockOverlap

/-- The row of a request. -/
def RecurringStaffBlockCreate.row (body : RecurringStaffBlockCreate)
    (tenantId businessId id : Nat) :
    RecurringStaffBlock where
  id := id
  tenantId := tenantId
  businessId := businessId
  staffId := body.staffId
  dayOfWeek := body.dayOfWeek
  startTime := body.startTime
  endTime := body.endTime
  reason := body.reason
  endAfterStart := body.endAfterStart

/-- `create_recurring_staff_block`: the scope is read and checked, and then the row is inserted
and committed. -/
def createRecurringStaffBlock (tenantId businessId : Nat) (body : RecurringStaffBlockCreate) :
    ScheduleM RecurringStaffBlock := do
  let _ ← requireBusiness businessId tenantId
  requireScope body.staffId businessId tenantId
  ensureNoConflictingBlock businessId tenantId body
  let id ← insert fun id => .insertBlock (body.row tenantId businessId id)
  commit
  orRaise .database (← select (.blockByPrimaryKey id))

/-- `require_recurring_staff_block`: the block, if it is one of the tenant. -/
def requireRecurringStaffBlock (blockId tenantId : Nat) : ScheduleM RecurringStaffBlock := do
  orRaise (.notFound "Recurring staff block not found") (← select (.block blockId tenantId))

/-- `require_recurring_staff_block_in_business`: a block of another business is not found. -/
def requireRecurringStaffBlockInBusiness (blockId businessId tenantId : Nat) :
    ScheduleM RecurringStaffBlock := do
  let block ← requireRecurringStaffBlock blockId tenantId
  if block.businessId ≠ businessId then throw (.notFound "Recurring staff block not found")
  return block

/-- `delete_recurring_staff_block`. -/
def deleteRecurringStaffBlock (blockId tenantId businessId : Nat) : ScheduleM Unit := do
  let block ← requireRecurringStaffBlockInBusiness blockId businessId tenantId
  delete (.deleteBlock block.id)
  commit

/-! ## The machine -/

/-- The calls that are interleaved. -/
inductive ScheduleCall where
  | createAvailabilityException (tenantId businessId : Nat) (body : AvailabilityExceptionCreate)
  | deleteAvailabilityException (exceptionId tenantId businessId : Nat)
  | createRecurringStaffBlock (tenantId businessId : Nat) (body : RecurringStaffBlockCreate)
  | deleteRecurringStaffBlock (blockId tenantId businessId : Nat)

/-- The program of a call. -/
def performSchedule : ScheduleCall → ScheduleM Unit
  | .createAvailabilityException tenantId businessId body => do
      let _ ← createAvailabilityException tenantId businessId body
  | .deleteAvailabilityException exceptionId tenantId businessId =>
      deleteAvailabilityException exceptionId tenantId businessId
  | .createRecurringStaffBlock tenantId businessId body => do
      let _ ← createRecurringStaffBlock tenantId businessId body
  | .deleteRecurringStaffBlock blockId tenantId businessId =>
      deleteRecurringStaffBlock blockId tenantId businessId

/-- Any number of requests, each in a session of its own. -/
def scheduleMachine : Machine ScheduleSql ScheduleWorld ScheduleCall ScheduleError Unit where
  perform := performSchedule
  exec pid _ stmt world := execSchedule pid stmt world
  enter pid world := world.release pid
  leave pid world := world.release pid
  ambient _ _ := False

/-- The salon with the calls that are under way. -/
abbrev ScheduleConfig := Config ScheduleSql ScheduleWorld ScheduleCall ScheduleError Unit

end AppointmentVoice.Schedule
