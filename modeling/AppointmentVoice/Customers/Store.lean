import AppointmentVoice.Concurrency.ReadCommitted
import AppointmentVoice.Database.Tables

/-!
# Customer rows

The customers of the salons with their CRM profiles, as the customer service reads and
writes them under `READ COMMITTED`.  The index over the salon and the normalized phone is
unique: a row waits while another session has one with the same key in hand, and is refused
when such a row is there.
-/

set_option autoImplicit false

namespace AppointmentVoice.Customers

open Concurrency

/-! ## Rows -/

/-- The columns of a CRM profile that are read and scrubbed here. -/
structure Client where
  id : Nat
  tenantId : Nat
  businessId : Nat
  customerId : Option Nat
  name : String
  email : Option String
  phone : Option String
  notes : Option String
  deriving DecidableEq, Repr

/-- A row of `audit_logs`, as far as the erasure of a customer fills it. -/
structure AuditLog where
  tenantId : Nat
  adminId : Option Nat
  action : String
  source : Option String
  deriving DecidableEq, Repr

/-- The salons, which this service only reads, and the tables that it writes. -/
structure CustomerDb where
  businesses : List Business
  customers : List Customer
  clients : List Client
  audits : List AuditLog

/-- The columns of an update that are sent, those whose value has changed. -/
structure CustomerChange where
  name : Option (Option String) := none
  phone : Option String := none
  phoneNormalized : Option String := none
  deriving DecidableEq, Repr

/-- The row with the changed columns set. -/
def CustomerChange.apply (change : CustomerChange) (row : Customer) : Customer :=
  { row with
    name := change.name.getD row.name
    phone := change.phone.getD row.phone
    phoneNormalized := change.phoneNormalized.getD row.phoneNormalized }

/-- The columns of a client that an update changes. -/
structure ClientChange where
  name : Option String := none
  email : Option (Option String) := none
  phone : Option (Option String) := none
  notes : Option (Option String) := none
  deriving DecidableEq, Repr

/-- The row with the changed columns set. -/
def ClientChange.apply (change : ClientChange) (row : Client) : Client :=
  { row with
    name := change.name.getD row.name
    email := change.email.getD row.email
    phone := change.phone.getD row.phone
    notes := change.notes.getD row.notes }

/-- The changes that a transaction holds until its commit. -/
inductive CustomerWrite where
  | insertCustomer (row : Customer)
  | updateCustomer (id : Nat) (change : CustomerChange)
  | updateClient (id : Nat) (change : ClientChange)
  | insertAudit (row : AuditLog)
  deriving DecidableEq, Repr

namespace CustomerDb

/-- What a write does to the customers. -/
def writeCustomers (customers : List Customer) : CustomerWrite → List Customer
  | .insertCustomer row => customers ++ [row]
  | .updateCustomer id change =>
      customers.map fun row => if row.id = id then change.apply row else row
  | _ => customers

/-- The tables after one change. -/
def apply (db : CustomerDb) (write : CustomerWrite) : CustomerDb :=
  { db with
    customers := writeCustomers db.customers write
    clients := match write with
      | .updateClient id change =>
          db.clients.map fun row => if row.id = id then change.apply row else row
      | _ => db.clients
    audits := match write with
      | .insertAudit row => db.audits ++ [row]
      | _ => db.audits }

end CustomerDb

/-- Two updates of one row. -/
def CustomerWrite.waitsFor : CustomerWrite → CustomerWrite → Bool
  | .updateCustomer id _, .updateCustomer other _ => id == other
  | .updateClient id _, .updateClient other _ => id == other
  | _, _ => false

instance : Storage CustomerDb CustomerWrite where
  apply := CustomerDb.apply
  waitsFor := CustomerWrite.waitsFor

/-! ## The index -/

/-- What is unique among the customers: the business and the normalized phone number. -/
abbrev PhoneKey := Nat × String

/-- The columns of `uq_customers_business_phone`. -/
def keyOf (row : Customer) : PhoneKey := (row.businessId, row.phoneNormalized)

namespace CustomerDb

/-- The keys of the rows that a write inserts or updates, before it and after it. -/
def touches (db : CustomerDb) : CustomerWrite → List PhoneKey
  | .insertCustomer row => [keyOf row]
  | .updateCustomer id change =>
      (db.customers.filter (·.id == id)).flatMap fun row => [keyOf row, keyOf (change.apply row)]
  | _ => []

/-- The keys that a write enters into the index. -/
def enters (db : CustomerDb) : CustomerWrite → List PhoneKey
  | .insertCustomer row => [keyOf row]
  | .updateCustomer id change =>
      if change.phoneNormalized.isSome then
        (db.customers.filter (·.id == id)).map fun row => keyOf (change.apply row)
      else []
  | _ => []

/-- A row other than the ones that are written has a key that is entered. -/
def duplicates (db : CustomerDb) (write : CustomerWrite) : Bool :=
  db.customers.any fun row =>
    (db.enters write).contains (keyOf row) &&
      match write with
      | .updateCustomer id _ => row.id != id
      | _ => true

end CustomerDb

/-! ## Statements -/

/-- The SELECTs of the customer service. -/
inductive CustomerQuery where
  | business (id tenantId : Nat)
  | customerByPhone (businessId tenantId : Nat) (phoneNormalized : String)
  | customer (id tenantId : Nat)
  | customerByPrimaryKey (id : Nat)
  | clientOf (tenantId businessId customerId : Nat)
  deriving DecidableEq, Repr

namespace CustomerQuery

/-- What a SELECT comes back with. -/
abbrev Row : CustomerQuery → Type
  | .business _ _ => Option Business
  | .customerByPhone _ _ _ => Option Customer
  | .customer _ _ => Option Customer
  | .customerByPrimaryKey _ => Option Customer
  | .clientOf _ _ _ => Option Client

/-- The row that a SELECT finds, with the filters of its query. -/
def eval : (query : CustomerQuery) → CustomerDb → query.Row
  | .business id tenantId, db =>
      db.businesses.find? fun row => row.id == id && row.tenantId == tenantId
  | .customerByPhone businessId tenantId phoneNormalized, db =>
      db.customers.find? fun row =>
        row.businessId == businessId && row.tenantId == tenantId &&
          row.phoneNormalized == phoneNormalized
  | .customer id tenantId, db => db.customers.find? fun row => row.id == id &&
      row.tenantId == tenantId
  | .customerByPrimaryKey id, db => db.customers.find? (·.id == id)
  | .clientOf tenantId businessId customerId, db =>
      db.clients.find? fun row =>
        row.tenantId == tenantId && row.businessId == businessId &&
          row.customerId == some customerId

end CustomerQuery

/-- The outcome of an insert: its number, the error of the index, or that of the columns. -/
inductive Insertion where
  | inserted (id : Nat)
  | duplicate
  | tooLong
  deriving DecidableEq, Repr

/-- The statements that a session sends; a draft is given the key of its row. -/
inductive CustomerStmt where
  | select (query : CustomerQuery)
  | insertCustomer (draft : Nat → Customer)
  | update (write : CustomerWrite)
  | insertAudit (row : AuditLog)
  | commit
  | rollback

/-- `update` answers whether the index has let it through. -/
def CustomerStmt.Answer : CustomerStmt → Type
  | .select query => query.Row
  | .insertCustomer _ => Insertion
  | .update _ => Bool
  | .insertAudit _ => Unit
  | .commit => Unit
  | .rollback => Unit

/-- The statements and their answers. -/
abbrev CustomerSql : Signature := ⟨CustomerStmt, CustomerStmt.Answer⟩

/-! ## The world -/

/-- `String(32)`, twice, and `String(255)`. -/
def fitsColumns (row : Customer) : Bool :=
  row.phone.length ≤ 32 && row.phoneNormalized.length ≤ 32 &&
    match row.name with
    | some name => name.length ≤ 255
    | none => true

/-- What the sessions share: the tables with what each has pending, and the sequence of the
keys. -/
structure CustomerWorld where
  sessions : Sessions CustomerDb CustomerWrite
  nextId : Nat

namespace CustomerWorld

/-- The committed tables. -/
abbrev db (world : CustomerWorld) : CustomerDb := world.sessions.db

/-- The world before any request. -/
def start (db : CustomerDb) (nextId : Nat) : CustomerWorld := ⟨⟨db, []⟩, nextId⟩

/-- A session ends, and what it has not committed is gone. -/
def release (world : CustomerWorld) (pid : Pid) : CustomerWorld :=
  { world with sessions := world.sessions.release pid }

/-- Another session has a row in hand that the write waits for, or one with a key that the
write enters. -/
def mustWait (world : CustomerWorld) (pid : Pid) (write : CustomerWrite) : Bool :=
  world.sessions.mustWait pid write ||
    world.sessions.pending.any fun entry => entry.1 != pid &&
      ((world.sessions.view pid).enters write).any fun key =>
        (world.db.touches entry.2).contains key

/-- The statement has to wait for another session; a row that does not fit its columns comes
to no index. -/
def blocks (world : CustomerWorld) (pid : Pid) : CustomerStmt → Bool
  | .insertCustomer draft => fitsColumns (draft world.nextId) &&
      world.mustWait pid (.insertCustomer (draft world.nextId))
  | .update write => world.mustWait pid write
  | _ => false

/-- A change joins what the session has pending. -/
def add (world : CustomerWorld) (pid : Pid) (write : CustomerWrite) : CustomerWorld :=
  { world with sessions := world.sessions.add pid write }

end CustomerWorld

/-- An insert of a customer that does not have to wait; the sequence goes on in any case. -/
def insertOf (pid : Pid) (row : Customer) (world : CustomerWorld) : Insertion × CustomerWorld :=
  if !fitsColumns row then (.tooLong, { world with nextId := world.nextId + 1 })
  else if (world.sessions.view pid).duplicates (.insertCustomer row) then
    (.duplicate, { world with nextId := world.nextId + 1 })
  else (.inserted row.id, { world.add pid (.insertCustomer row) with nextId := world.nextId + 1 })

/-- The effect of a statement that does not have to wait. -/
def effectOf (pid : Pid) : (stmt : CustomerStmt) → CustomerWorld → stmt.Answer × CustomerWorld
  | .select query, world => (query.eval (world.sessions.view pid), world)
  | .insertCustomer draft, world => insertOf pid (draft world.nextId) world
  | .update write, world =>
      if (world.sessions.view pid).duplicates write then (false, world)
        else (true, world.add pid write)
  | .insertAudit row, world => ((), world.add pid (.insertAudit row))
  | .commit, world => ((), { world with sessions := world.sessions.committed pid })
  | .rollback, world => ((), world.release pid)

/-- The effect of a statement of a session; `none` while it has to wait. -/
def execCustomer (pid : Pid) (stmt : CustomerStmt) (world : CustomerWorld) :
    Option (stmt.Answer × CustomerWorld) :=
  if world.blocks pid stmt then none else some (effectOf pid stmt world)

/-- What is executed has not had to wait, and has its effect. -/
theorem execCustomer_some {pid : Pid} {stmt : CustomerStmt} {world : CustomerWorld}
    {result : stmt.Answer × CustomerWorld} (executed : execCustomer pid stmt world = some result) :
    world.blocks pid stmt = false ∧ effectOf pid stmt world = result := by
  unfold execCustomer at executed
  split at executed
  · cases executed
  · next free => exact ⟨Bool.eq_false_iff.mpr free, Option.some.inj executed⟩

end AppointmentVoice.Customers
