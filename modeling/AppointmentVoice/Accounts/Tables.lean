import AppointmentVoice.Concurrency.ReadCommitted
import AppointmentVoice.Database.Tables

/-!
# Users, tenants and salons

The rows behind logging in and administration, what a role allows, and how the writes
of the account services change the tables.

A role is one of the three that are known, or a text that is not; what it allows is
`getPermissionsForRole`. A write is refused when it breaks a unique key (`AccountDb.refuses`).
-/

set_option autoImplicit false

namespace AppointmentVoice.Accounts

open Concurrency

/-! ## Permissions -/

/-- The permissions that a role can have. -/
inductive Permission where
  | usersList
  | usersRead
  | usersReadSelf
  | usersUpdate
  | usersUpdateSelf
  | usersDelete
  | usersActivate
  | usersDeactivate
  | adminAccess
  | auditLogsList
  | filesUpload
  | filesDownload
  | filesDownloadSelf
  | filesDelete
  | filesDeleteSelf
  | tenantsList
  | tenantsProvision
  | tenantsManage
  deriving DecidableEq, Repr

/-- The value starts with `tenants.`. -/
def Permission.ofTenants : Permission → Bool
  | .tenantsList => true
  | .tenantsProvision => true
  | .tenantsManage => true
  | _ => false

/-- The column is a plain string, so it can hold a role that nothing knows. -/
inductive Role where
  | user
  | admin
  | platformAdmin
  | unknown (raw : String)
  deriving DecidableEq, Repr

/-- `USER_PERMISSIONS`. -/
def userPermissions (permission : Permission) : Bool :=
  permission = .usersReadSelf || permission = .usersUpdateSelf || permission = .filesUpload ||
    permission = .filesDownloadSelf || permission = .filesDeleteSelf

/-- `TENANT_ADMIN_PERMISSIONS`. -/
def tenantAdminPermissions (permission : Permission) : Bool := !permission.ofTenants

/-- `get_permissions_for_role`. -/
def getPermissionsForRole : Role → Permission → Bool
  | .user => userPermissions
  | .admin => tenantAdminPermissions
  | .platformAdmin => fun _ => true
  | .unknown _ => fun _ => false

/-! ## Rows -/

/-- A row of `tenants`; the slug is unique. -/
structure Tenant where
  id : Nat
  slug : String
  name : String
  isActive : Bool
  deriving DecidableEq, Repr

/-- A row of `users`; tenant and address are unique together. -/
structure User where
  id : Nat
  tenantId : Nat
  email : String
  hashedPassword : String
  isActive : Bool := true
  role : Role := .user
  tokenVersion : Nat := 0
  isDemoUser : Bool := false
  deriving DecidableEq, Repr

/-- A row of `password_reset_tokens`; the hash of the token is unique. -/
structure PasswordResetToken where
  id : Nat
  userId : Nat
  tokenHash : String
  expiresAt : Nat
  usedAt : Option Nat := none
  deriving DecidableEq, Repr

/-- A salon, with the columns that the forms of the admins set. -/
structure Salon where
  id : Nat
  tenantId : Nat
  name : String
  timezone : String
  language : String := "en"
  phone : Option String := none
  ownerNotificationPhone : Option String := none
  transferPhoneNumber : Option String := none
  isActive : Bool := true
  transferEnabled : Bool := false
  transferDestinationPolicy : String := "business_phone"
  bookingMode : String := "internal_booking"
  externalBookingUrl : Option String := none
  externalBookingLabel : Option String := none
  externalBookingProvider : Option String := none
  subscriptionPlan : String := "full_booking"
  deriving DecidableEq, Repr

/-- The audited actions of the account services. -/
inductive AccountAction where
  | userUpdated
  | userDeactivated
  | userActivated
  | userDeleted
  | passwordResetConfirmed
  | tenantCreated
  deriving DecidableEq, Repr

/-- A row of `audit_logs`. -/
structure AccountAudit where
  id : Nat
  tenantId : Nat
  adminId : Option Nat
  action : AccountAction
  targetUserId : Option Nat := none
  source : Option String := none
  deriving DecidableEq, Repr

/-- `memberships` holds the keys of the users that the memberships refer to. -/
structure AccountDb where
  tenants : List Tenant
  users : List User
  passwordResetTokens : List PasswordResetToken
  salons : List Salon
  staff : List Staff
  services : List Service
  workingHours : List WorkingHours
  audits : List AccountAudit
  memberships : List Nat
  deriving DecidableEq, Repr

/-- A database without rows. -/
def AccountDb.empty : AccountDb := ⟨[], [], [], [], [], [], [], [], []⟩

/-! ## Writes -/

/-- The columns that a flush of a user sets; the others keep their values. -/
structure UserChange where
  email : Option String := none
  isActive : Option Bool := none
  role : Option Role := none
  hashedPassword : Option String := none
  tokenVersion : Option Nat := none
  deriving DecidableEq, Repr

/-- The row with the changed columns set. -/
def UserChange.apply (change : UserChange) (row : User) : User :=
  { row with
    email := change.email.getD row.email
    isActive := change.isActive.getD row.isActive
    role := change.role.getD row.role
    hashedPassword := change.hashedPassword.getD row.hashedPassword
    tokenVersion := change.tokenVersion.getD row.tokenVersion }

/-- The columns that a flush of a salon sets. -/
structure SalonChange where
  name : Option String := none
  timezone : Option String := none
  language : Option String := none
  phone : Option (Option String) := none
  ownerNotificationPhone : Option String := none
  transferPhoneNumber : Option String := none
  isActive : Option Bool := none
  transferEnabled : Option Bool := none
  transferDestinationPolicy : Option String := none
  bookingMode : Option String := none
  externalBookingUrl : Option (Option String) := none
  externalBookingLabel : Option (Option String) := none
  externalBookingProvider : Option (Option String) := none
  subscriptionPlan : Option String := none
  deriving DecidableEq, Repr

/-- The row with the changed columns set. -/
def SalonChange.apply (change : SalonChange) (row : Salon) : Salon :=
  { row with
    name := change.name.getD row.name
    timezone := change.timezone.getD row.timezone
    language := change.language.getD row.language
    phone := change.phone.getD row.phone
    ownerNotificationPhone :=
      change.ownerNotificationPhone.orElse fun _ => row.ownerNotificationPhone
    transferPhoneNumber := change.transferPhoneNumber.orElse fun _ => row.transferPhoneNumber
    isActive := change.isActive.getD row.isActive
    transferEnabled := change.transferEnabled.getD row.transferEnabled
    transferDestinationPolicy :=
      change.transferDestinationPolicy.getD row.transferDestinationPolicy
    bookingMode := change.bookingMode.getD row.bookingMode
    externalBookingUrl := change.externalBookingUrl.getD row.externalBookingUrl
    externalBookingLabel := change.externalBookingLabel.getD row.externalBookingLabel
    externalBookingProvider := change.externalBookingProvider.getD row.externalBookingProvider
    subscriptionPlan := change.subscriptionPlan.getD row.subscriptionPlan }

/-- The keys of the reset tokens that an `UPDATE` marks are found when it is executed. -/
inductive AccountWrite where
  | insertTenant (row : Tenant)
  | insertUser (row : User)
  | updateUser (id : Nat) (change : UserChange)
  | deleteUser (id : Nat)
  | markResetTokens (ids : List Nat) (usedAt : Nat)
  | insertSalon (row : Salon)
  | updateSalon (id : Nat) (change : SalonChange)
  | insertStaff (row : Staff)
  | insertService (row : Service)
  | insertWorkingHours (row : WorkingHours)
  | insertAudit (row : AccountAudit)
  deriving DecidableEq, Repr

namespace AccountDb

/-- The tables after one change; the reset tokens of a user go with it. -/
def apply (db : AccountDb) : AccountWrite → AccountDb
  | .insertTenant row => { db with tenants := db.tenants ++ [row] }
  | .insertUser row => { db with users := db.users ++ [row] }
  | .updateUser id change =>
      { db with users := db.users.map fun row => if row.id = id then change.apply row else row }
  | .deleteUser id =>
      { db with
        users := db.users.filter fun row => row.id ≠ id
        passwordResetTokens := db.passwordResetTokens.filter fun row => row.userId ≠ id }
  | .markResetTokens ids usedAt =>
      { db with
        passwordResetTokens := db.passwordResetTokens.map fun row =>
          if row.id ∈ ids then { row with usedAt := some usedAt } else row }
  | .insertSalon row => { db with salons := db.salons ++ [row] }
  | .updateSalon id change =>
      { db with salons := db.salons.map fun row => if row.id = id then change.apply row else row }
  | .insertStaff row => { db with staff := db.staff ++ [row] }
  | .insertService row => { db with services := db.services ++ [row] }
  | .insertWorkingHours row => { db with workingHours := db.workingHours ++ [row] }
  | .insertAudit row => { db with audits := db.audits ++ [row] }

/-- The write breaks a unique index or a foreign key, or its row is gone. -/
def refuses (db : AccountDb) : AccountWrite → Bool
  | .insertTenant row => db.tenants.any (·.slug == row.slug)
  | .insertUser row => db.users.any fun other =>
      other.tenantId == row.tenantId && other.email == row.email
  | .updateUser id change =>
      match db.users.find? (·.id == id) with
      | none => true
      | some row => db.users.any fun other =>
          other.id != id && other.tenantId == row.tenantId &&
            other.email == (change.apply row).email
  | .deleteUser id =>
      db.users.all (·.id != id) || db.audits.any (·.adminId == some id) || id ∈ db.memberships
  | .insertAudit row =>
      match row.adminId with
      | some adminId => db.users.all (·.id != adminId)
      | none => false
  | _ => false

end AccountDb

/-- Two writes that are for one row, or that a unique index keeps apart. -/
def AccountWrite.waitsFor : AccountWrite → AccountWrite → Bool
  | .insertTenant row, .insertTenant other => row.slug == other.slug
  | .insertUser row, .insertUser other =>
      row.tenantId == other.tenantId && row.email == other.email
  | .updateUser id _, .updateUser other _ => id == other
  | .updateUser id _, .deleteUser other => id == other
  | .deleteUser id, .updateUser other _ => id == other
  | .deleteUser id, .deleteUser other => id == other
  | .markResetTokens ids _, .markResetTokens others _ => ids.any (· ∈ others)
  | .updateSalon id _, .updateSalon other _ => id == other
  | _, _ => false

instance : Storage AccountDb AccountWrite where
  apply := AccountDb.apply
  waitsFor := AccountWrite.waitsFor

end AppointmentVoice.Accounts
