import AppointmentVoice.Accounts.Services

/-!
# Users and their administration

The routes that change users, with the checks of who may do it, the reset of passwords,
and the calls that the machine interleaves.

Every route loads the acting user anew (`getCurrentUser`) and asks for one permission.
`patch_user` asks for the right to update the user, and takes over whatever columns its body
sets, the role included (`patchUserAs`).
-/

set_option autoImplicit false

namespace AppointmentVoice.Accounts

open Concurrency

/-! ## Permissions -/

/-- `user_has_permission`. -/
def userHasPermission (user : User) (permission : Permission) : Bool :=
  getPermissionsForRole user.role permission

/-- `can_update_user`: users of the own tenant, all of them or oneself. -/
def canUpdateUser (currentUser targetUser : User) : Bool :=
  currentUser.tenantId == targetUser.tenantId &&
    (userHasPermission currentUser .usersUpdate ||
      (currentUser.id == targetUser.id && userHasPermission currentUser .usersUpdateSelf))

/-- What a missing permission is refused with. -/
def insufficient : AccountError := .forbidden "Insufficient permissions"

/-- `require_permission` of one permission. -/
def requirePermission (currentUser : User) (permission : Permission) : AccountM Unit :=
  if userHasPermission currentUser permission then pure () else throw insufficient

/-- `require_non_demo_user`. -/
def requireNonDemoUser (currentUser : User) : AccountM Unit :=
  if currentUser.isDemoUser then
    throw (.forbidden "This action is not available in the public demo.")
  else pure ()

/-! ## Users -/

/-- The roles that `UserAdminUpdate` lets through. -/
inductive UserRole where
  | user
  | admin
  | platformAdmin
  deriving DecidableEq, Repr

/-- The role that a body gives. -/
def UserRole.role : UserRole → Role
  | .user => .user
  | .admin => .admin
  | .platformAdmin => .platformAdmin

/-- The body of an update: a field that is missing, null, or has a value. -/
structure UserAdminUpdate where
  email : Option (Option String) := none
  isActive : Option (Option Bool) := none
  role : Option (Option UserRole) := none
  deriving DecidableEq, Repr

namespace UserAdminUpdate

/-- `UserSelfUpdate(**user_update.model_dump(exclude_unset=True))`. -/
def selfUpdate (body : UserAdminUpdate) : UserAdminUpdate := { email := body.email }

/-- A field of the body is null; no column of a user takes a null. -/
def hasNull (body : UserAdminUpdate) : Bool :=
  body.email == some none || body.isActive == some none || body.role == some none

end UserAdminUpdate

/-- The new value of a column, if it differs from the one that was read. -/
def changed {α : Type} [DecidableEq α] (old : α) : Option α → Option α
  | some value => if value = old then none else some value
  | none => none

/-- The columns that `update_user` flushes; a change of the role invalidates the tokens. -/
def UserAdminUpdate.changes (body : UserAdminUpdate) (user : User) : UserChange :=
  let role := changed user.role (body.role.join.map (·.role))
  { email := changed user.email body.email.join
    isActive := changed user.isActive body.isActive.join
    role
    tokenVersion := if role.isSome then some (user.tokenVersion + 1) else none }

/-- The flush of a user, with no statement when no column has changed. -/
def flushUser (id : Nat) (change : UserChange) : AccountM Unit :=
  if change = {} then pure () else flush (.updateUser id change)

/-- `update_user`: a null in a required column is an error of the database. -/
def updateUser (user : User) (body : UserAdminUpdate) : AccountM Unit :=
  if body.hasNull then throw .database else flushUser user.id (body.changes user)

/-- `db.refresh(user)`. -/
def refreshUser (id : Nat) : AccountM User := do
  orRaise .database (← select (.userByPrimaryKey id))

/-- `commit_user_mutation_with_audit`. -/
def commitUserMutationWithAudit (tenantId adminId : Nat) (action : AccountAction)
    (targetUserId : Nat) : AccountM Unit := do
  createAuditLog tenantId (some adminId) action (some targetUserId) none
  commit

/-- A session has one object for each row: a row that it has read before is given back
as it was read then. -/
def sameObject (known found : User) : User := if found.id = known.id then known else found

/-- `get_user_by_id` after the acting user has been read. -/
def getUserById (currentUser : User) (userId tenantId : Nat) : AccountM User := do
  let user ← orRaise (.notFound "User not found") (← select (.user userId tenantId))
  return sameObject currentUser user

/-- `patch_user` once the acting user is known. -/
def patchUserAs (currentUser : User) (userId : Nat) (userUpdate : UserAdminUpdate) :
    AccountM User := do
  requireNonDemoUser currentUser
  let user ← getUserById currentUser userId currentUser.tenantId
  if !canUpdateUser currentUser user then throw insufficient
  if userHasPermission currentUser .usersUpdate then
    updateUser user userUpdate
    commitUserMutationWithAudit currentUser.tenantId currentUser.id .userUpdated userId
    refreshUser user.id
  else do
    updateUser user userUpdate.selfUpdate
    commit
    refreshUser user.id

/-- `patch_user`. -/
def patchUser (token : TokenClaims) (slug : Option String) (userId : Nat)
    (userUpdate : UserAdminUpdate) : AccountM User := do
  let currentUser ← getCurrentUser token slug
  patchUserAs currentUser userId userUpdate

/-- `deactivate_user` without its commit. -/
def deactivateUser (user : User) : AccountM Unit :=
  flushUser user.id
    { isActive := changed user.isActive (some false), tokenVersion := some (user.tokenVersion + 1) }

/-- `activate_user` without its commit. -/
def activateUser (user : User) : AccountM Unit :=
  flushUser user.id { isActive := changed user.isActive (some true) }

/-- The two endpoints that switch a user on and off, once the acting user is known. -/
def switchUserAs (permission : Permission) (switch : User → AccountM Unit) (action : AccountAction)
    (currentUser : User) (userId : Nat) : AccountM User := do
  requireNonDemoUser currentUser
  requirePermission currentUser permission
  let user ← getUserById currentUser userId currentUser.tenantId
  switch user
  commitUserMutationWithAudit currentUser.tenantId currentUser.id action userId
  refreshUser user.id

/-- `deactivate_user_endpoint` once the acting user is known. -/
def deactivateUserAs : User → Nat → AccountM User :=
  switchUserAs .usersDeactivate deactivateUser .userDeactivated

/-- `activate_user_endpoint` once the acting user is known. -/
def activateUserAs : User → Nat → AccountM User :=
  switchUserAs .usersActivate activateUser .userActivated

/-- `deactivate_user_endpoint`. -/
def deactivateUserEndpoint (token : TokenClaims) (slug : Option String) (userId : Nat) :
    AccountM User := do
  let currentUser ← getCurrentUser token slug
  deactivateUserAs currentUser userId

/-- `activate_user_endpoint`. -/
def activateUserEndpoint (token : TokenClaims) (slug : Option String) (userId : Nat) :
    AccountM User := do
  let currentUser ← getCurrentUser token slug
  activateUserAs currentUser userId

/-- `remove_user` once the acting user is known. -/
def removeUserAs (currentUser : User) (userId : Nat) : AccountM Unit := do
  requireNonDemoUser currentUser
  requirePermission currentUser .usersDelete
  let user ← getUserById currentUser userId currentUser.tenantId
  flush (.deleteUser user.id)
  commitUserMutationWithAudit currentUser.tenantId currentUser.id .userDeleted userId

/-- `remove_user`. -/
def removeUser (token : TokenClaims) (slug : Option String) (userId : Nat) : AccountM Unit := do
  let currentUser ← getCurrentUser token slug
  removeUserAs currentUser userId

/-! ## Passwords -/

/-- The body of a confirmation. -/
structure PasswordResetConfirm where
  token : String
  newPassword : String
  deriving DecidableEq, Repr

/-- What every confirmation is refused with. -/
def invalidResetToken : AccountError := .badRequest "Invalid or expired password reset token"

/-- The part of `confirm_password_reset` that changes the password, in two commits. -/
def resetPassword (cfg : AccountSettings) (user : User) (newPassword : String) (usedAt : Nat) :
    AccountM Unit := do
  flush (.updateUser user.id
    { hashedPassword := some (cfg.hashPassword newPassword)
      tokenVersion := some (user.tokenVersion + 1) })
  commit
  let user ← refreshUser user.id
  useResetTokens user.id usedAt
  commit
  let user ← refreshUser user.id
  createAuditLog user.tenantId none .passwordResetConfirmed (some user.id) none
  commit

/-- `confirm_password_reset`: token and user are checked before the password is changed. -/
def confirmPasswordReset (cfg : AccountSettings) (resetConfirm : PasswordResetConfirm) :
    AccountM String := do
  let resetToken ← orRaise invalidResetToken
    (← select (.resetToken (cfg.hashPasswordResetToken resetConfirm.token)))
  let usedAt ← now
  if resetToken.usedAt.isSome then throw invalidResetToken
  if resetToken.expiresAt < usedAt then throw invalidResetToken
  let user ← orRaise invalidResetToken (← select (.userByPrimaryKey resetToken.userId))
  if !user.isActive || user.isDemoUser then throw invalidResetToken
  resetPassword cfg user resetConfirm.newPassword usedAt
  return "Password has been reset."

/-! ## The machine -/

/-- The calls that are interleaved. -/
inductive AccountCall where
  | loginUser (loginData : UserLogin) (tenantId : Nat)
  | createDemoSession
  | rotateRefreshToken (refreshToken : TokenClaims)
  | logoutUser (refreshToken : TokenClaims)
  | patchUser (token : TokenClaims) (slug : Option String) (userId : Nat)
      (userUpdate : UserAdminUpdate)
  | deactivateUser (token : TokenClaims) (slug : Option String) (userId : Nat)
  | activateUser (token : TokenClaims) (slug : Option String) (userId : Nat)
  | confirmPasswordReset (resetConfirm : PasswordResetConfirm)
  deriving DecidableEq, Repr

/-- What the calls return. -/
inductive AccountReply where
  | tokens (access refresh : TokenClaims)
  | loggedOut
  | user (row : User)
  | message (text : String)
  deriving DecidableEq, Repr

/-- The program of a call. -/
def performAccount (cfg : AccountSettings) : AccountCall → AccountM AccountReply
  | .loginUser loginData tenantId =>
      (fun pair => .tokens pair.1 pair.2) <$> loginUser cfg loginData tenantId
  | .createDemoSession => (fun pair => .tokens pair.1 pair.2) <$> createDemoSession cfg
  | .rotateRefreshToken refreshToken =>
      (fun pair => .tokens pair.1 pair.2) <$> rotateRefreshToken cfg refreshToken
  | .logoutUser refreshToken => (fun _ => .loggedOut) <$> logoutUser refreshToken
  | .patchUser token slug userId userUpdate =>
      .user <$> patchUser token slug userId userUpdate
  | .deactivateUser token slug userId => .user <$> deactivateUserEndpoint token slug userId
  | .activateUser token slug userId => .user <$> activateUserEndpoint token slug userId
  | .confirmPasswordReset resetConfirm => .message <$> confirmPasswordReset cfg resetConfirm

/-- The call is a login. -/
def AccountCall.isLogin : AccountCall → Bool
  | .loginUser _ _ => true
  | _ => false

/-- The mark of the access tokens that a call hands out. -/
def AccountCall.demoFlag (user : User) : AccountCall → Bool
  | .loginUser _ _ => false
  | .createDemoSession => true
  | _ => user.isDemoUser

/-- The call switches a user off. -/
def AccountCall.isDeactivation : AccountCall → Bool
  | .deactivateUser _ _ _ => true
  | _ => false

/-- The token whose version a call compares with that of its user. -/
def AccountCall.checks : AccountCall → Option TokenClaims
  | .rotateRefreshToken refreshToken => some refreshToken
  | .patchUser token _ _ _ => some token
  | .deactivateUser token _ _ => some token
  | .activateUser token _ _ => some token
  | _ => none

/-- The refresh token that a call spends. -/
def AccountCall.refreshToken : AccountCall → Option TokenClaims
  | .rotateRefreshToken refreshToken => some refreshToken
  | .logoutUser refreshToken => some refreshToken
  | _ => none

/-- Account calls interleaved over one database, while the clock goes on. -/
def accountMachine (cfg : AccountSettings) :
    Machine AccountSql (AccountWorld AccountCall) AccountCall AccountError AccountReply where
  perform := performAccount cfg
  exec := execAccount
  enter pid world := world.release pid
  leave pid world := world.release pid
  ambient before after := ∃ clock, before.clock ≤ clock ∧ after = { before with clock }

/-- The accounts with the calls that are under way. -/
abbrev AccountConfig := Config AccountSql (AccountWorld AccountCall) AccountCall AccountError
  AccountReply

/-- A call that has ended, with its result and its log. -/
abbrev AccountOutcome := Outcome AccountSql AccountCall AccountError AccountReply

/-- The configuration before any call. -/
abbrev accountStart (db : AccountDb) (nextId clock : Nat) : AccountConfig :=
  Config.initial (AccountWorld.start db nextId clock)

/-- A run of the machine. -/
abbrev AccountRun (cfg : AccountSettings) : AccountConfig → AccountConfig → Prop :=
  Runs (accountMachine cfg) fun _ _ => True

/-- A list of actions that can be carried out is a run. -/
theorem AccountRun.of_actions {cfg : AccountSettings} {start : AccountConfig}
    {actions : List (Action AccountCall)}
    (possible : (start.runActions (accountMachine cfg) actions).isSome = true) :
    AccountRun cfg start ((start.runActions (accountMachine cfg) actions).get possible) :=
  Runs.of_runActions actions (Option.some_get possible).symm

/-- Settings without hash functions. -/
def plainSettings : AccountSettings where
  accessTokenExpireMinutes := 30
  refreshTokenExpireDays := 7
  publicDemoEnabled := true
  publicDemoUserEmail := "demo@example.com"
  publicDemoBusinessId := 1
  registrationEnabled := true
  hashPassword := id
  verifyPassword plain hashed := plain == hashed
  hashPasswordResetToken := id

end AppointmentVoice.Accounts
