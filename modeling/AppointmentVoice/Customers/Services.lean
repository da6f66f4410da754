import AppointmentVoice.Concurrency.Interleaving
import AppointmentVoice.Customers.Store

/-!
# Customers by phone

A customer is found by his normalized phone, and made when there is none.  An erasure
scrubs the row and gives it a phone that no caller can have.
-/

set_option autoImplicit false

namespace AppointmentVoice.Customers

open Concurrency

/-! ## Phones -/

/-- The zeros of the decimal digits of Unicode, each with nine digits behind it. -/
def decimalZeros : List Nat :=
  [0x30, 0x660, 0x6f0, 0x7c0, 0x966, 0x9e6, 0xa66, 0xae6, 0xb66, 0xbe6, 0xc66, 0xce6, 0xd66, 0xde6,
    0xe50, 0xed0, 0xf20, 0x1040, 0x1090, 0x17e0, 0x1810, 0x1946, 0x19d0, 0x1a80, 0x1a90, 0x1b50,
    0x1bb0, 0x1c40, 0x1c50, 0xa620, 0xa8d0, 0xa900, 0xa9d0, 0xa9f0, 0xaa50, 0xabf0, 0xff10, 0x104a0,
    0x10d30, 0x11066, 0x110f0, 0x11136, 0x111d0, 0x112f0, 0x11450, 0x114d0, 0x11650, 0x116c0,
    0x11730, 0x118e0, 0x11950, 0x11c50, 0x11d50, 0x11da0, 0x11f50, 0x16a60, 0x16ac0, 0x16b50,
    0x1d7ce, 0x1d7d8, 0x1d7e2, 0x1d7ec, 0x1d7f6, 0x1e140, 0x1e2f0, 0x1e4f0, 0x1e950, 0x1fbf0]

/-- `\d` of a pattern for text. -/
def isDecimal (char : Char) : Bool :=
  decimalZeros.any fun first => first ≤ char.toNat && char.toNat < first + 10

/-- `normalize_phone`: digits and plus signs. -/
def normalizePhone (phone : String) : String :=
  String.ofList (phone.toList.filter fun char => isDecimal char || char == '+')

/-- The phone of an erased customer. -/
def deletedPhone (id : Nat) : String := "deleted-" ++ toString id

/-! ## Statements -/

/-- `integrity` and `data` are the `IntegrityError` and the `DataError` of a flush. -/
inductive CustomerError where
  | notFound (detail : String)
  | conflict (detail : String)
  | integrity
  | data
  | database
  deriving DecidableEq, Repr

/-- The programs of the customer service. -/
abbrev CustomerM := Program CustomerSql CustomerError

/-- Send a statement. -/
def issueCustomer (stmt : CustomerStmt) : CustomerM stmt.Answer :=
  Program.issue (S := CustomerSql) stmt

/-- Send a SELECT. -/
def select (query : CustomerQuery) : CustomerM query.Row := issueCustomer (.select query)

/-- Send the INSERT of a customer; it waits for, or is refused by, another row with the same
phone number. -/
def insertCustomer (draft : Nat → Customer) : CustomerM Insertion :=
  issueCustomer (.insertCustomer draft)

/-- Send an UPDATE by primary key; `false` if the row is gone or the number is taken. -/
def update (write : CustomerWrite) : CustomerM Bool := issueCustomer (.update write)

/-- Send the INSERT of an audit row. -/
def insertAudit (row : AuditLog) : CustomerM Unit := issueCustomer (.insertAudit row)

/-- `db.commit()`. -/
def commit : CustomerM Unit := issueCustomer .commit

/-- `db.rollback()`. -/
def rollback : CustomerM Unit := issueCustomer .rollback

/-- Raise unless there is a value. -/
def orRaise {α : Type} (error : CustomerError) : Option α → CustomerM α
  | some value => pure value
  | none => throw error

/-- `require_business`: the business, if it is one of the tenant. -/
def requireBusiness (businessId tenantId : Nat) : CustomerM Business := do
  orRaise (.notFound "Business not found") (← select (.business businessId tenantId))

/-- `db.refresh(customer)`. -/
def refreshCustomer (id : Nat) : CustomerM Customer := do
  orRaise .database (← select (.customerByPrimaryKey id))

/-! ## Finding and making customers -/

/-- `get_customer_by_phone`: the customer of the business under the normalized number. -/
def getCustomerByPhone (businessId tenantId : Nat) (phone : String) : CustomerM (Option Customer) :=
  select (.customerByPhone businessId tenantId (normalizePhone phone))

/-- The flush of a new customer. -/
def raiseUnlessInserted : Insertion → CustomerM Nat
  | .inserted id => pure id
  | .duplicate => throw .integrity
  | .tooLong => throw .data

/-- `db.commit()` with a new customer. -/
def commitCustomer (draft : Nat → Customer) : CustomerM (Option Nat) := do
  let id ← raiseUnlessInserted (← insertCustomer draft)
  commit
  return some id

/-- `except IntegrityError`. -/
def rollbackIntegrity : CustomerError → CustomerM (Option Nat)
  | .integrity => do
      rollback
      return none
  | error => throw error

/-- What comes after the commit, or after the rollback. -/
def refreshOrReread (businessId tenantId : Nat) (phone : String) : Option Nat → CustomerM Customer
  | some id => refreshCustomer id
  | none => do
      let existing ← getCustomerByPhone businessId tenantId phone
      orRaise (.conflict "Customer with this phone already exists") existing

/-- The row that is made for a phone. -/
def newCustomer (tenantId businessId : Nat) (phone : String) (name : Option String) (id : Nat) :
    Customer where
  id := id
  tenantId := tenantId
  businessId := businessId
  phone := phone
  phoneNormalized := normalizePhone phone
  name := name

/-- What comes after the first look. -/
def existingOrNew (tenantId businessId : Nat) (phone : String) (name : Option String) :
    Option Customer → CustomerM Customer
  | some existing => pure existing
  | none => do
      let created ← tryCatch (commitCustomer (newCustomer tenantId businessId phone name))
        rollbackIntegrity
      refreshOrReread businessId tenantId phone created

/-- `get_or_create_customer`. -/
def getOrCreateCustomer (tenantId businessId : Nat) (phone : String) (name : Option String) :
    CustomerM Customer := do
  let _ ← requireBusiness businessId tenantId
  let existing ← getCustomerByPhone businessId tenantId phone
  existingOrNew tenantId businessId phone name existing

/-! ## Erasing a customer -/

/-- `require_customer`: the customer, if it is one of the tenant. -/
def requireCustomer (customerId tenantId : Nat) : CustomerM Customer := do
  orRaise (.notFound "Customer not found") (← select (.customer customerId tenantId))

/-- `require_customer_in_business`: a customer of another business is not found. -/
def requireCustomerInBusiness (customerId businessId tenantId : Nat) : CustomerM Customer := do
  let customer ← requireCustomer customerId tenantId
  if customer.businessId ≠ businessId then throw (.notFound "Customer not found")
  return customer

/-- The column is sent if its value changes. -/
def changedTo {α : Type} [DecidableEq α] (new old : α) : Option α :=
  if new = old then none else some new

/-- What the erasure changes in the row of a customer. -/
def scrubCustomer (customer : Customer) : CustomerChange where
  name := changedTo none customer.name
  phone := changedTo "deleted" customer.phone
  phoneNormalized := changedTo (deletedPhone customer.id) customer.phoneNormalized

/-- What the erasure changes in the row of the linked client. -/
def scrubClient (client : Client) : ClientChange where
  name := changedTo "Deleted client" client.name
  email := changedTo none client.email
  phone := changedTo none client.phone
  notes := changedTo none client.notes

/-- Raise when the index does not let an update through. -/
def raiseUnlessUpdated : Bool → CustomerM Unit
  | true => pure ()
  | false => throw .integrity

/-- The flush of a customer, with no statement when no column has changed. -/
def flushCustomer (id : Nat) (change : CustomerChange) : CustomerM Unit :=
  if change = {} then pure ()
  else do
    let updated ← update (.updateCustomer id change)
    raiseUnlessUpdated updated

/-- The flush of a scrubbed client; nothing is sent when nothing has changed. -/
def flushClient (client : Client) : CustomerM Unit :=
  if scrubClient client = {} then pure ()
  else do
    let updated ← update (.updateClient client.id (scrubClient client))
    raiseUnlessUpdated updated

/-- The flush of the profile, if there is one. -/
def flushLinked : Option Client → CustomerM Unit
  | some client => flushClient client
  | none => pure ()

/-- `gdpr_delete_customer`: the personal data are scrubbed in place, in one commit. -/
def gdprDeleteCustomer (customerId businessId tenantId : Nat) (actorId : Option Nat) :
    CustomerM Customer := do
  let customer ← requireCustomerInBusiness customerId businessId tenantId
  let client ← select (.clientOf tenantId businessId customer.id)
  -- `create_audit_log` flushes all three rows.
  flushCustomer customer.id (scrubCustomer customer)
  flushLinked client
  insertAudit ⟨tenantId, actorId, "customer.anonymized",
    some ("customer_id=" ++ toString customer.id)⟩
  commit
  refreshCustomer customer.id

/-! ## The machine -/

/-- The calls that are interleaved. -/
inductive CustomerCall where
  | getOrCreateCustomer (tenantId businessId : Nat) (phone : String) (name : Option String)
  | getCustomerByPhone (businessId tenantId : Nat) (phone : String)
  | gdprDeleteCustomer (customerId businessId tenantId : Nat) (actorId : Option Nat)
  deriving DecidableEq, Repr

/-- `Customer | None`. -/
abbrev CustomerReply := Option Customer

/-- The program of a call. -/
def performCustomer : CustomerCall → CustomerM CustomerReply
  | .getOrCreateCustomer tenantId businessId phone name =>
      some <$> getOrCreateCustomer tenantId businessId phone name
  | .getCustomerByPhone businessId tenantId phone => getCustomerByPhone businessId tenantId phone
  | .gdprDeleteCustomer customerId businessId tenantId actorId =>
      some <$> gdprDeleteCustomer customerId businessId tenantId actorId

/-- Calls of the customer service interleaved over one database. -/
def customerMachine :
    Machine CustomerSql CustomerWorld CustomerCall CustomerError CustomerReply where
  perform := performCustomer
  exec pid _ stmt world := execCustomer pid stmt world
  enter pid world := world.release pid
  leave pid world := world.release pid
  ambient before after := after = before

/-- The customers with the calls that are under way. -/
abbrev CustomerConfig := Config CustomerSql CustomerWorld CustomerCall CustomerError CustomerReply

/-- What happens next: a call begins, sends its next statement, or is stopped. -/
abbrev CustomerAction := Action CustomerCall

end AppointmentVoice.Customers
