import AppointmentVoice.Accounts.Session
import AppointmentVoice.Services.Common

/-!
# The account services

Logging in, tokens, users and the reset of passwords, function by function, as programs
over the statements of a session.

A token is signed with a fresh `jti` and the version of its user (`createTokens`); a rotation
spends its token by setting the key of it (`rotateRefreshToken`), a logout sets the key as well
(`logoutUser`), and every use of a token looks for the key or the version first.

`hashPassword` gives the hash of a password that passlib accepts; one with a NUL, or of more
than 4096 characters, makes it raise, and the call then ends at that point.
-/

set_option autoImplicit false

namespace AppointmentVoice.Accounts

open Concurrency

/-! ## Settings and errors -/

/-- The settings of the account services, and the hash functions; `hashPassword` is that of a
password which it accepts. -/
structure AccountSettings where
  accessTokenExpireMinutes : Nat
  refreshTokenExpireDays : Nat
  publicDemoEnabled : Bool
  publicDemoUserEmail : String
  publicDemoBusinessId : Nat
  registrationEnabled : Bool
  hashPassword : String → String
  verifyPassword : String → String → Bool
  hashPasswordResetToken : String → String

/-- The errors that leave the account services: those of the domain, and those of the database.
-/
inductive AccountError where
  | badRequest (detail : String)
  | unauthorized (detail : String)
  | forbidden (detail : String)
  | notFound (detail : String)
  | unprocessable (detail : String)
  | database
  deriving DecidableEq, Repr

/-- The programs of the account services. -/
abbrev AccountM := Program AccountSql AccountError

/-! ## Statements as programs -/

/-- Send a SELECT. -/
def select (query : AccountQuery) : AccountM query.Row :=
  Program.issue (S := AccountSql) (.select query)

/-- Send an INSERT; it is refused when a unique key is taken. -/
def insert (draft : Nat → AccountWrite) : AccountM (Option Nat) :=
  Program.issue (S := AccountSql) (.insert draft)

/-- Send an UPDATE or DELETE by primary key; `false` if it is refused or the row is gone. -/
def update (write : AccountWrite) : AccountM Bool :=
  Program.issue (S := AccountSql) (.update write)

/-- Mark the unused reset tokens of a user as used. -/
def useResetTokens (userId usedAt : Nat) : AccountM Unit :=
  Program.issue (S := AccountSql) (.useResetTokens userId usedAt)

/-- `db.commit()`. -/
def commit : AccountM Unit := Program.issue (S := AccountSql) .commit

/-- Read the clock. -/
def now : AccountM Nat := Program.issue (S := AccountSql) .now

/-- Whether the denylist has the token. -/
def keyExists (jti : Nat) : AccountM Bool := Program.issue (S := AccountSql) (.keyExists jti)

/-- `SET key EX ttl` in the denylist. -/
def set (jti ttl : Nat) : AccountM Unit := Program.issue (S := AccountSql) (.set jti ttl)

/-- `SET key NX EX ttl` in the denylist; `false` if the token is there. -/
def setNx (jti ttl : Nat) : AccountM Bool := Program.issue (S := AccountSql) (.setNx jti ttl)

/-- Sign a token with a fresh `jti`. -/
def sign (holder : User) (draft : Nat → TokenClaims) : AccountM TokenClaims :=
  Program.issue (S := AccountSql) (.sign holder draft)

/-- Raise unless there is a value. -/
def orRaise {α : Type} (error : AccountError) : Option α → AccountM α
  | some value => pure value
  | none => throw error

/-- A flush of new columns; an error of the database leaves the function. -/
def flush (write : AccountWrite) : AccountM Unit := do
  let done ← update write
  if done then return () else throw .database

/-- A flush of a new row. -/
def add (draft : Nat → AccountWrite) : AccountM Nat := do
  orRaise .database (← insert draft)

/-- `create_audit_log`: the row is flushed, and committed by the caller. -/
def createAuditLog (tenantId : Nat) (adminId : Option Nat) (action : AccountAction)
    (targetUserId : Option Nat) (source : Option String) : AccountM Unit := do
  let _ ← add fun id => .insertAudit { id, tenantId, adminId, action, targetUserId, source }
  return ()

/-! ## Tokens -/

section Tokens

variable (cfg : AccountSettings)

/-- `create_access_token`. -/
def createAccessToken (user : User) (isPublicDemo : Bool) : AccountM TokenClaims := do
  let issuedAt ← now
  sign user fun jti => {
    kind := .access
    sub := user.id
    tenantId := user.tenantId
    tokenVersion := user.tokenVersion
    exp := toSeconds (issuedAt + cfg.accessTokenExpireMinutes * 60 * second)
    jti
    isPublicDemo }

/-- `create_refresh_token`. -/
def createRefreshToken (user : User) : AccountM TokenClaims := do
  let issuedAt ← now
  sign user fun jti => {
    kind := .refresh
    sub := user.id
    tenantId := user.tenantId
    tokenVersion := user.tokenVersion
    exp := toSeconds (issuedAt + cfg.refreshTokenExpireDays * 86400 * second)
    jti }

/-- The access token and the refresh token of a user. -/
def createTokens (user : User) (isPublicDemo : Bool) : AccountM (TokenClaims × TokenClaims) := do
  let accessToken ← createAccessToken cfg user isPublicDemo
  let refreshToken ← createRefreshToken cfg user
  return (accessToken, refreshToken)

/-- `decode_token`: `none` once the token has expired. -/
def decodeToken (token : TokenClaims) : AccountM (Option TokenClaims) := do
  let decodedAt ← now
  return if toSeconds decodedAt ≤ token.exp then some token else none

/-- `is_refresh_token_revoked`. -/
def isRefreshTokenRevoked (jti : Nat) : AccountM Bool := keyExists jti

/-- `revoke_refresh_token`. -/
def revokeRefreshToken (jti expiresAt : Nat) (requireNew : Bool) : AccountM Bool := do
  let revokedAt ← now
  let ttlSeconds : Int := (expiresAt : Int) - toSeconds revokedAt
  if ttlSeconds ≤ 0 then return !requireNew
  else if requireNew then setNx jti ttlSeconds.toNat
  else do
    set jti ttlSeconds.toNat
    return true

/-- `_decode_refresh_token`. -/
def decodeRefreshToken (refreshToken : TokenClaims) : AccountM TokenClaims := do
  let payload ← orRaise (.unauthorized "Invalid refresh token") (← decodeToken refreshToken)
  if payload.kind ≠ .refresh then throw (.unauthorized "Invalid token type")
  if payload.exp = 0 then throw (.unauthorized "Invalid refresh token")
  if ← isRefreshTokenRevoked payload.jti then
    throw (.unauthorized "Refresh token has been revoked")
  return payload

/-- `assert_active_tenant_membership`. -/
def assertActiveTenantMembership (user : User) : AccountM Unit := do
  let tenant ← select (.tenant user.tenantId)
  match tenant with
  | some tenant => if tenant.isActive then return () else throw (.forbidden "Tenant access denied")
  | none => throw (.forbidden "Tenant access denied")

/-- `_get_active_user_from_refresh_payload`. -/
def getActiveUserFromRefreshPayload (payload : TokenClaims) : AccountM User := do
  let found ← select (.user payload.sub payload.tenantId)
  match found with
  | none => throw (.unauthorized "User not found or inactive")
  | some user =>
      if user.isActive then do
        assertActiveTenantMembership user
        if payload.tokenVersion ≠ user.tokenVersion then
          throw (.unauthorized "Refresh token has been revoked")
        return user
      else throw (.unauthorized "User not found or inactive")

/-- `rotate_refresh_token`: only the call that puts the old token on the denylist gets new ones.
-/
def rotateRefreshToken (refreshToken : TokenClaims) : AccountM (TokenClaims × TokenClaims) := do
  let payload ← decodeRefreshToken refreshToken
  let user ← getActiveUserFromRefreshPayload payload
  if ← revokeRefreshToken payload.jti payload.exp true then
    createTokens cfg user user.isDemoUser
  else throw (.unauthorized "Refresh token has been revoked")

/-- `logout_user`. -/
def logoutUser (refreshToken : TokenClaims) : AccountM Unit := do
  let payload ← decodeRefreshToken refreshToken
  let _ ← revokeRefreshToken payload.jti payload.exp false
  return ()

/-- The part of `get_current_user` after the header has been split. -/
def getCurrentUser (token : TokenClaims) (requestedSlug : Option String) : AccountM User := do
  let denied : AccountError := .unauthorized "Could not validate credentials"
  let payload ← orRaise denied (← decodeToken token)
  if payload.kind ≠ .access then throw denied
  let user ← orRaise denied (← select (.user payload.sub payload.tenantId))
  if !user.isActive then throw denied
  if user.tokenVersion ≠ payload.tokenVersion then throw denied
  assertActiveTenantMembership user
  match requestedSlug with
  | none => return user
  | some slug => do
      let tenant ← orRaise (.notFound "Tenant not found") (← select (.tenantBySlug slug))
      if !tenant.isActive then throw (.notFound "Tenant not found")
      if user.tenantId ≠ tenant.id then throw (.forbidden "Tenant access denied")
      return user

end Tokens

/-! ## Logging in -/

section Login

variable (cfg : AccountSettings)

/-- The body of a login. -/
structure UserLogin where
  email : String
  password : String
  deriving DecidableEq, Repr

/-- `authenticate_user`. -/
def authenticateUser (loginData : UserLogin) (tenantId : Nat) : AccountM User := do
  let invalid : AccountError := .unauthorized "Invalid email or password"
  let user ← orRaise invalid (← select (.userByEmail loginData.email tenantId))
  if !cfg.verifyPassword loginData.password user.hashedPassword then throw invalid
  if !user.isActive then throw (.unauthorized "Inactive user")
  return user

/-- `login_user`: its tokens are not those of a public demo, whoever logs in. -/
def loginUser (loginData : UserLogin) (tenantId : Nat) : AccountM (TokenClaims × TokenClaims) := do
  let user ← authenticateUser cfg loginData tenantId
  createTokens cfg user false

/-- `str.strip()`. -/
def strip (text : String) : String :=
  String.ofList ((text.toList.dropWhile isSpace).reverse.dropWhile isSpace).reverse

/-- `create_demo_session`: tokens for the configured demo user. -/
def createDemoSession : AccountM (TokenClaims × TokenClaims) := do
  if !cfg.publicDemoEnabled then throw (.notFound "Public demo is not enabled")
  let email := strip cfg.publicDemoUserEmail
  if email.isEmpty then
    throw (.notFound "Demo is not configured: PUBLIC_DEMO_USER_EMAIL is not set")
  if cfg.publicDemoBusinessId = 0 then
    throw (.notFound "Demo is not configured: PUBLIC_DEMO_BUSINESS_ID is not set")
  let user ← orRaise (.notFound "Demo user not found or not configured")
    (← select (.demoUser email))
  let _ ← orRaise (.notFound "Demo business not found or not accessible to demo user")
    (← select (.salon cfg.publicDemoBusinessId user.tenantId))
  createTokens cfg user true

end Login

end AppointmentVoice.Accounts
