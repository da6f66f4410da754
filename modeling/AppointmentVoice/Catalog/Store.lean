import AppointmentVoice.Concurrency.ReadCommitted
import AppointmentVoice.Database.Session

/-!
# Services and the rows that refer to them

The services of the salons, and the four tables with a foreign key to them, as sessions
read and write them under `READ COMMITTED`.  No key cascades.  An `INSERT` waits for an
uncommitted deletion of the service that its row refers to and is refused once the service
is gone; a `DELETE` waits for the uncommitted rows of others that refer to the service and
is refused while there is one left.
-/

set_option autoImplicit false

namespace AppointmentVoice.Catalog

open Concurrency

/-! ## Rows -/

/-- A row of `booking_line_items`; booking and position are unique together. -/
structure BookingLineItem where
  id : Nat
  tenantId : Nat
  businessId : Nat
  bookingId : Nat
  serviceId : Nat
  position : Nat
  durationMinutes : Nat
  deriving DecidableEq, Repr

/-- The columns that an `UPDATE` sets. -/
structure ServiceColumns where
  name : Option String := none
  durationMinutes : Option ℕ+ := none
  currency : Option String := none
  isActive : Option Bool := none
  depositRequired : Option Bool := none
  depositMinorUnits : Option Nat := none
  deriving DecidableEq

namespace ServiceColumns

/-- The duration after an update. -/
def newDuration (columns : ServiceColumns) (svc : Service) : ℕ+ :=
  columns.durationMinutes.getD ⟨svc.durationMinutes, svc.durationPositive⟩

/-- The row with the columns set. -/
def set (columns : ServiceColumns) (svc : Service) : Service where
  id := svc.id
  tenantId := svc.tenantId
  businessId := svc.businessId
  name := columns.name.getD svc.name
  durationMinutes := columns.newDuration svc
  durationPositive := (columns.newDuration svc).pos
  isActive := columns.isActive.getD svc.isActive
  currency := columns.currency.or svc.currency
  depositRequired := columns.depositRequired.getD svc.depositRequired
  depositMinorUnits := columns.depositMinorUnits.or svc.depositMinorUnits

/-- The columns whose value is another one than that of the row. -/
def changed (columns : ServiceColumns) (svc : Service) : ServiceColumns where
  name := columns.name.filter (· != svc.name)
  durationMinutes := columns.durationMinutes.filter (·.val != svc.durationMinutes)
  currency := columns.currency.filter (some · != svc.currency)
  isActive := columns.isActive.filter (· != svc.isActive)
  depositRequired := columns.depositRequired.filter (· != svc.depositRequired)
  depositMinorUnits := columns.depositMinorUnits.filter (some · != svc.depositMinorUnits)

@[simp] theorem set_id (columns : ServiceColumns) (svc : Service) :
    (columns.set svc).id = svc.id := rfl

end ServiceColumns

/-- The tables of the catalogue, with those that refer to a service. -/
structure CatalogDb where
  businesses : List Business
  customers : List Customer
  staff : List Staff
  services : List Service
  bookings : List Booking
  bookingLineItems : List BookingLineItem
  waitlistEntries : List WaitlistEntry
  voiceSessions : List VoiceSession

namespace CatalogDb

/-- Whether there is a service with the key. -/
def hasService (db : CatalogDb) (serviceId : Nat) : Bool := db.services.any (·.id == serviceId)

/-- Some row of the four tables refers to the service. -/
def refers (db : CatalogDb) (serviceId : Nat) : Bool :=
  db.bookings.any (·.serviceId == serviceId) ||
    db.bookingLineItems.any (·.serviceId == serviceId) ||
    db.waitlistEntries.any (·.serviceId == serviceId) ||
    db.voiceSessions.any (·.selectedServiceId == some serviceId)

end CatalogDb

/-! ## Writes -/

/-- A row of a table with a foreign key to the services. -/
inductive CatalogRow where
  | booking (row : Booking)
  | lineItem (row : BookingLineItem)
  | waitlistEntry (row : WaitlistEntry)

/-- The service that a row refers to. -/
def CatalogRow.serviceId : CatalogRow → Nat
  | .booking row => row.serviceId
  | .lineItem row => row.serviceId
  | .waitlistEntry row => row.serviceId

/-- The changes that a transaction holds until its commit. -/
inductive CatalogWrite where
  | insert (row : CatalogRow)
  | updateService (id : Nat) (columns : ServiceColumns)
  | deleteService (id : Nat)

namespace CatalogWrite

/-- The service that an inserted row refers to. -/
def refersTo : CatalogWrite → Option Nat
  | .insert row => some row.serviceId
  | _ => none

/-- The service whose row is locked for an `UPDATE` or a `DELETE`. -/
def locks : CatalogWrite → Option Nat
  | .updateService id _ => some id
  | .deleteService id => some id
  | .insert _ => none

end CatalogWrite

/-- `uq_booking_line_items_booking_position`. -/
def BookingLineItem.collides (row other : BookingLineItem) : Bool :=
  row.bookingId == other.bookingId && row.position == other.position

/-- A constraint keeps the two rows apart. -/
def CatalogRow.clashes : CatalogRow → CatalogRow → Bool
  | .booking row, .booking other => excludes row other
  | .lineItem row, .lineItem other => row.collides other
  | _, _ => false

/-- The tables with one more row. -/
def CatalogDb.insert (db : CatalogDb) : CatalogRow → CatalogDb
  | .booking row => { db with bookings := db.bookings ++ [row] }
  | .lineItem row => { db with bookingLineItems := db.bookingLineItems ++ [row] }
  | .waitlistEntry row => { db with waitlistEntries := db.waitlistEntries ++ [row] }

/-- The tables after one change. -/
def CatalogDb.apply (db : CatalogDb) : CatalogWrite → CatalogDb
  | .insert row => db.insert row
  | .updateService id columns =>
      { db with services := db.services.map fun svc =>
        if svc.id == id then columns.set svc else svc }
  | .deleteService id => { db with services := db.services.filter (·.id != id) }

/-- A row waits for one that a constraint keeps it apart from, and for the deletion of the
service that it refers to; a deletion waits for whatever refers to the service or has its
row locked. -/
def CatalogWrite.waitsFor : CatalogWrite → CatalogWrite → Bool
  | .insert row, .insert other => row.clashes other
  | .insert row, .deleteService id => row.serviceId == id
  | .insert _, .updateService _ _ => false
  | .updateService id _, other => other.locks == some id
  | .deleteService id, other => other.refersTo == some id || other.locks == some id

instance : Storage CatalogDb CatalogWrite where
  apply := CatalogDb.apply
  waitsFor := CatalogWrite.waitsFor

/-! ## Statements -/

/-- The constraints that the database can refuse a row with. -/
inductive CatalogConstraint where
  | noOverlappingStaffBookings
  | uqBookingLineItemsBookingPosition
  | foreignKey
  deriving DecidableEq, Repr

/-- The constraint that keeps the row from standing beside the rows that a session sees. -/
def CatalogDb.clash (db : CatalogDb) : CatalogRow → Option CatalogConstraint
  | .booking row =>
      if db.bookings.any (excludes row) then some .noOverlappingStaffBookings else none
  | .lineItem row =>
      if db.bookingLineItems.any row.collides then some .uqBookingLineItemsBookingPosition else none
  | .waitlistEntry _ => none

/-- The constraint that refuses the row: the indexes are looked at first, and the foreign key
when the row is there. -/
def CatalogDb.refuses (db : CatalogDb) (row : CatalogRow) : Option CatalogConstraint :=
  (db.clash row).or (if db.hasService row.serviceId then none else some .foreignKey)

/-- The SELECTs of the catalogue services. -/
inductive CatalogQuery where
  | business (id tenantId : Nat)
  | customer (id tenantId : Nat)
  | staff (id tenantId : Nat)
  | service (id tenantId : Nat)
  | booking (id tenantId : Nat)
  | uncancelledBooking (serviceId businessId tenantId : Nat)
  | doubleBooking (staffId businessId : Nat) (startsAt endsAt : Instant)
  | lineItemCount (bookingId : Nat)
  | lineItems (bookingId tenantId : Nat)
  | serviceByPrimaryKey (id : Nat)
  | bookingByPrimaryKey (id : Nat)
  | lineItemByPrimaryKey (id : Nat)
  | waitlistEntryByPrimaryKey (id : Nat)
  deriving DecidableEq, Repr

namespace CatalogQuery

/-- What a SELECT comes back with. -/
abbrev Row : CatalogQuery → Type
  | .business _ _ => Option Business
  | .customer _ _ => Option Customer
  | .staff _ _ => Option Staff
  | .service _ _ => Option Service
  | .booking _ _ => Option Booking
  | .uncancelledBooking _ _ _ => Option Booking
  | .doubleBooking _ _ _ _ => Option Booking
  | .lineItemCount _ => Nat
  | .lineItems _ _ => List BookingLineItem
  | .serviceByPrimaryKey _ => Option Service
  | .bookingByPrimaryKey _ => Option Booking
  | .lineItemByPrimaryKey _ => Option BookingLineItem
  | .waitlistEntryByPrimaryKey _ => Option WaitlistEntry

/-- The items of a booking, in the order of the table. -/
def itemsOf (db : CatalogDb) (bookingId : Nat) : List BookingLineItem :=
  db.bookingLineItems.filter (·.bookingId == bookingId)

/-- The rows that a SELECT finds, with the filters of its query. -/
def eval : (query : CatalogQuery) → CatalogDb → query.Row
  | .business id tenantId, db =>
      db.businesses.find? fun row => row.id == id && row.tenantId == tenantId
  | .customer id tenantId, db =>
      db.customers.find? fun row => row.id == id && row.tenantId == tenantId
  | .staff id tenantId, db => db.staff.find? fun row => row.id == id && row.tenantId == tenantId
  | .service id tenantId, db =>
      db.services.find? fun row => row.id == id && row.tenantId == tenantId
  | .booking id tenantId, db =>
      db.bookings.find? fun row => row.id == id && row.tenantId == tenantId
  | .uncancelledBooking serviceId businessId tenantId, db =>
      db.bookings.find? fun row =>
        row.serviceId == serviceId && row.businessId == businessId && row.tenantId == tenantId &&
          row.status != .cancelled
  | .doubleBooking staffId businessId startsAt endsAt, db =>
      db.bookings.find? fun row =>
        row.staffId == some staffId && row.businessId == businessId && row.status.active &&
          row.startsAt < endsAt && startsAt < row.endsAt
  | .lineItemCount bookingId, db => (itemsOf db bookingId).length
  | .lineItems bookingId tenantId, db =>
      ((itemsOf db bookingId).filter (·.tenantId == tenantId)).insertionSort
        fun row other => row.position ≤ other.position
  | .serviceByPrimaryKey id, db => db.services.find? (·.id == id)
  | .bookingByPrimaryKey id, db => db.bookings.find? (·.id == id)
  | .lineItemByPrimaryKey id, db => db.bookingLineItems.find? (·.id == id)
  | .waitlistEntryByPrimaryKey id, db => db.waitlistEntries.find? (·.id == id)

end CatalogQuery

/-- The statements that a session sends; a draft is given the key of its row and the time of its
INSERT. -/
inductive CatalogStmt where
  | select (query : CatalogQuery)
  | insert (draft : Nat → Instant → CatalogRow)
  | update (serviceId : Nat) (columns : ServiceColumns)
  | delete (serviceId : Nat)
  | commit

/-- `insert` answers the number of the row, `update` whether there was a row, and `delete`
the constraint that has refused it. -/
def CatalogStmt.Answer : CatalogStmt → Type
  | .select query => query.Row
  | .insert _ => Except CatalogConstraint Nat
  | .update _ _ => Bool
  | .delete _ => Option CatalogConstraint
  | .commit => Unit

/-- The statements and their answers. -/
abbrev CatalogSql : Signature := ⟨CatalogStmt, CatalogStmt.Answer⟩

/-! ## The world -/

/-- What the sessions share: the tables with what each has pending, the sequence of the keys,
and the clock. -/
structure CatalogWorld where
  sessions : Sessions CatalogDb CatalogWrite
  nextId : Nat
  clock : Instant

namespace CatalogWorld

/-- The committed tables. -/
abbrev db (world : CatalogWorld) : CatalogDb := world.sessions.db

/-- The world before any request. -/
def start (db : CatalogDb) (nextId : Nat) (clock : Instant) : CatalogWorld :=
  ⟨⟨db, []⟩, nextId, clock⟩

/-- A session ends, and what it has not committed is gone. -/
def release (world : CatalogWorld) (pid : Pid) : CatalogWorld :=
  { world with sessions := world.sessions.release pid }

/-- The tables as a session sees them, with its own changes. -/
def view (world : CatalogWorld) (pid : Pid) : CatalogDb := world.sessions.view pid

/-- The statement has to wait for another session. -/
def blocks (world : CatalogWorld) (pid : Pid) : CatalogStmt → Bool
  | .insert draft => world.sessions.mustWait pid (.insert (draft world.nextId world.clock))
  | .update serviceId columns => world.sessions.mustWait pid (.updateService serviceId columns)
  | .delete serviceId => world.sessions.mustWait pid (.deleteService serviceId)
  | _ => false

end CatalogWorld

/-- The effect of a statement that does not have to wait.  A row that is refused has used
up its number; an `UPDATE` or a `DELETE` of a row that is gone does nothing. -/
def effectOf (pid : Pid) : (stmt : CatalogStmt) → CatalogWorld → stmt.Answer × CatalogWorld
  | .select query, world => (query.eval (world.view pid), world)
  | .insert draft, world =>
      match (world.view pid).refuses (draft world.nextId world.clock) with
      | some constraint => (.error constraint, { world with nextId := world.nextId + 1 })
      | none => (.ok world.nextId, { world with
          sessions := world.sessions.add pid (.insert (draft world.nextId world.clock))
          nextId := world.nextId + 1 })
  | .update serviceId columns, world =>
      if (world.view pid).hasService serviceId then
        (true, { world with sessions := world.sessions.add pid (.updateService serviceId columns) })
      else (false, world)
  | .delete serviceId, world =>
      if (world.view pid).hasService serviceId then
        if (world.view pid).refers serviceId then (some .foreignKey, world)
        else (none, { world with sessions := world.sessions.add pid (.deleteService serviceId) })
      else (none, world)
  | .commit, world => ((), { world with sessions := world.sessions.committed pid })

/-- The effect of a statement of a session; `none` while it has to wait. -/
def execCatalog (pid : Pid) (stmt : CatalogStmt) (world : CatalogWorld) :
    Option (stmt.Answer × CatalogWorld) :=
  if world.blocks pid stmt then none else some (effectOf pid stmt world)

/-- Everything that a statement of a session can do once it is executed. -/
inductive CatalogEffect (pid : Pid) (world : CatalogWorld) :
    Event CatalogSql → CatalogWorld → Prop where
  | select (query : CatalogQuery) :
      CatalogEffect pid world ⟨.select query, query.eval (world.view pid)⟩ world
  | refused {draft : Nat → Instant → CatalogRow} {constraint : CatalogConstraint}
      (refuses : (world.view pid).refuses (draft world.nextId world.clock) = some constraint) :
      CatalogEffect pid world ⟨.insert draft, (.error constraint : Except CatalogConstraint Nat)⟩
        { world with nextId := world.nextId + 1 }
  | inserted {draft : Nat → Instant → CatalogRow}
      (accepted : (world.view pid).refuses (draft world.nextId world.clock) = none)
      (free : world.sessions.mustWait pid (.insert (draft world.nextId world.clock)) = false) :
      CatalogEffect pid world ⟨.insert draft, (.ok world.nextId : Except CatalogConstraint Nat)⟩
        { world with
          sessions := world.sessions.add pid (.insert (draft world.nextId world.clock))
          nextId := world.nextId + 1 }
  | updated {serviceId : Nat} {columns : ServiceColumns}
      (has : (world.view pid).hasService serviceId = true) :
      CatalogEffect pid world ⟨.update serviceId columns, true⟩
        { world with sessions := world.sessions.add pid (.updateService serviceId columns) }
  | missed {serviceId : Nat} {columns : ServiceColumns}
      (gone : (world.view pid).hasService serviceId = false) :
      CatalogEffect pid world ⟨.update serviceId columns, false⟩ world
  | deleted {serviceId : Nat} (has : (world.view pid).hasService serviceId = true)
      (unreferenced : (world.view pid).refers serviceId = false)
      (free : world.sessions.mustWait pid (.deleteService serviceId) = false) :
      CatalogEffect pid world ⟨.delete serviceId, (none : Option CatalogConstraint)⟩
        { world with sessions := world.sessions.add pid (.deleteService serviceId) }
  | held {serviceId : Nat} (referenced : (world.view pid).refers serviceId = true) :
      CatalogEffect pid world ⟨.delete serviceId, some .foreignKey⟩ world
  | absent {serviceId : Nat} (gone : (world.view pid).hasService serviceId = false) :
      CatalogEffect pid world ⟨.delete serviceId, (none : Option CatalogConstraint)⟩ world
  | commit :
      CatalogEffect pid world ⟨.commit, ()⟩
        { world with sessions := world.sessions.committed pid }

/-- What is executed did not have to wait, and has one of the effects. -/
theorem execCatalog_effect {pid : Pid} {stmt : CatalogStmt} {world after : CatalogWorld}
    {answer : stmt.Answer} (executed : execCatalog pid stmt world = some (answer, after)) :
    CatalogEffect pid world ⟨stmt, answer⟩ after := by
  unfold execCatalog at executed
  split at executed
  · cases executed
  next blocked =>
  have free : world.blocks pid stmt = false := Bool.eq_false_iff.mpr blocked
  have effect : effectOf pid stmt world = (answer, after) := Option.some.inj executed
  cases stmt with
  | select query =>
      cases effect
      exact .select query
  | insert draft =>
      rw [effectOf] at effect
      split at effect
      · next refuses =>
          cases effect
          exact .refused refuses
      · next accepted =>
          cases effect
          exact .inserted accepted free
  | update serviceId columns =>
      rw [effectOf] at effect
      split at effect
      · next has =>
          cases effect
          exact .updated has
      · next gone =>
          cases effect
          exact .missed (Bool.eq_false_iff.mpr gone)
  | delete serviceId =>
      rw [effectOf] at effect
      split at effect
      · next has =>
          split at effect
          · next referenced =>
              cases effect
              exact .held referenced
          · next unreferenced =>
              cases effect
              exact .deleted has (Bool.eq_false_iff.mpr unreferenced) free
      · next gone =>
          cases effect
          exact .absent (Bool.eq_false_iff.mpr gone)
  | commit =>
      cases effect
      exact .commit

end AppointmentVoice.Catalog
