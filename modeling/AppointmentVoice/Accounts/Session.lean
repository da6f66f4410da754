import AppointmentVoice.Accounts.Tables

/-!
# Sessions of the account services

The statements of the services for users, tenants and salons, under `READ COMMITTED`,
with the keys that they set in Redis and the tokens that they sign.  A token is the
claims that it was signed with: the key of the signature is known to the application
only.  The clock counts microseconds; a Redis key lives for exactly its time to live.

The tokens that have been handed out and the transactions that have been committed are
recorded in the order in which it happened; no statement reads the record.
-/

set_option autoImplicit false

namespace AppointmentVoice.Accounts

open Concurrency

/-! ## Tokens -/

/-- The `type` of a token. -/
inductive TokenKind where
  | access
  | refresh
  deriving DecidableEq, Repr

/-- The claims of a token; `exp` is in seconds since the epoch. -/
structure TokenClaims where
  kind : TokenKind
  sub : Nat
  tenantId : Nat
  tokenVersion : Nat
  exp : Nat
  jti : Nat
  isPublicDemo : Bool := false
  deriving DecidableEq, Repr

/-- Microseconds in a second. -/
def second : Nat := 1000000

/-- `int(now.timestamp())`. -/
def toSeconds (now : Nat) : Nat := now / second

/-! ## Statements -/

/-- The SELECTs of the account services. -/
inductive AccountQuery where
  | tenant (id : Nat)
  | tenantBySlug (slug : String)
  | user (id tenantId : Nat)
  | userByPrimaryKey (id : Nat)
  | userByEmail (email : String) (tenantId : Nat)
  | demoUser (email : String)
  | resetToken (tokenHash : String)
  | salon (id tenantId : Nat)
  | salonByPrimaryKey (id : Nat)
  | salons (tenantId : Nat)
  | selfSignupAudit (tenantId : Nat)
  | staffOf (businessId : Nat)
  | servicesOf (businessId : Nat)
  | workingHoursOf (businessId : Nat)
  deriving DecidableEq, Repr

namespace AccountQuery

/-- `selfSignupAudit` and the three after it answer whether there is a row. -/
abbrev Row : AccountQuery → Type
  | .tenant _ => Option Tenant
  | .tenantBySlug _ => Option Tenant
  | .user _ _ => Option User
  | .userByPrimaryKey _ => Option User
  | .userByEmail _ _ => Option User
  | .demoUser _ => Option User
  | .resetToken _ => Option PasswordResetToken
  | .salon _ _ => Option Salon
  | .salonByPrimaryKey _ => Option Salon
  | .salons _ => List Salon
  | .selfSignupAudit _ => Bool
  | .staffOf _ => Bool
  | .servicesOf _ => Bool
  | .workingHoursOf _ => Bool

/-- The row that a SELECT finds, with the filters of its query. -/
def eval : (query : AccountQuery) → AccountDb → query.Row
  | .tenant id, db => db.tenants.find? (·.id == id)
  | .tenantBySlug slug, db => db.tenants.find? (·.slug == slug)
  | .user id tenantId, db => db.users.find? fun row => row.id == id && row.tenantId == tenantId
  | .userByPrimaryKey id, db => db.users.find? (·.id == id)
  | .userByEmail email tenantId, db =>
      db.users.find? fun row => row.email == email && row.tenantId == tenantId
  | .demoUser email, db =>
      db.users.find? fun row => row.email == email && row.isDemoUser && row.isActive
  | .resetToken tokenHash, db => db.passwordResetTokens.find? (·.tokenHash == tokenHash)
  | .salon id tenantId, db => db.salons.find? fun row => row.id == id && row.tenantId == tenantId
  | .salonByPrimaryKey id, db => db.salons.find? (·.id == id)
  | .salons tenantId, db => db.salons.filter (·.tenantId == tenantId)
  | .selfSignupAudit tenantId, db => db.audits.any fun row =>
      row.tenantId == tenantId && row.action == .tenantCreated && row.source == some "self_signup"
  | .staffOf businessId, db => db.staff.any (·.businessId == businessId)
  | .servicesOf businessId, db => db.services.any (·.businessId == businessId)
  | .workingHoursOf businessId, db => db.workingHours.any (·.businessId == businessId)

end AccountQuery

/-- Reading and writing rows, reading the clock, the keys of revoked refresh tokens in
Redis, and signing a token for a user as it has been read. -/
inductive AccountStmt where
  | select (query : AccountQuery)
  | insert (draft : Nat → AccountWrite)
  | update (write : AccountWrite)
  | useResetTokens (userId usedAt : Nat)
  | commit
  | rollback
  | now
  | keyExists (jti : Nat)
  | set (jti ttl : Nat)
  | setNx (jti ttl : Nat)
  | sign (holder : User) (draft : Nat → TokenClaims)

/-- `insert` and `update` are refused by a constraint; `setNx` answers whether the key
was set. -/
def AccountStmt.Answer : AccountStmt → Type
  | .select query => query.Row
  | .insert _ => Option Nat
  | .update _ => Bool
  | .useResetTokens _ _ => Unit
  | .commit => Unit
  | .rollback => Unit
  | .now => Nat
  | .keyExists _ => Bool
  | .set _ _ => Unit
  | .setNx _ _ => Bool
  | .sign _ _ => TokenClaims

/-- The statements, denylist commands, clock readings and signatures, with their answers. -/
abbrev AccountSql : Signature := ⟨AccountStmt, AccountStmt.Answer⟩

/-! ## The world -/

/-- What happens to users: a transaction is committed, or a token is handed out for a
user as it was read. -/
inductive AccountEvent (Call : Type) where
  | committed (call : Call) (writes : List AccountWrite)
  | signed (call : Call) (holder : User) (claims : TokenClaims)
  deriving DecidableEq

/-- What the sessions share: the tables with what each has pending, the sequences, the clock,
until when tokens are denied, and the record of what has been committed and signed. -/
structure AccountWorld (Call : Type) where
  sessions : Sessions AccountDb AccountWrite
  nextId : Nat
  nextJti : Nat
  clock : Nat
  revoked : Nat → Option Nat
  history : List (AccountEvent Call)

namespace AccountWorld

variable {Call : Type}

/-- The committed tables. -/
abbrev db (world : AccountWorld Call) : AccountDb := world.sessions.db

/-- The world before any call. -/
def start (db : AccountDb) (nextId clock : Nat) : AccountWorld Call :=
  ⟨⟨db, []⟩, nextId, 0, clock, fun _ => none, []⟩

/-- The key of a revoked token is there. -/
def isRevoked (world : AccountWorld Call) (jti : Nat) : Bool :=
  match world.revoked jti with
  | some expiry => world.clock < expiry
  | none => false

/-- Set the key of a token. -/
def revoke (world : AccountWorld Call) (jti ttl : Nat) : AccountWorld Call :=
  { world with revoked := Function.update world.revoked jti (some (world.clock + ttl * second)) }

/-- A session ends, and what it has not committed is gone. -/
def release (world : AccountWorld Call) (pid : Pid) : AccountWorld Call :=
  { world with sessions := world.sessions.release pid }

/-- The unused reset tokens of a user, as a session sees them. -/
def unusedTokens (world : AccountWorld Call) (pid : Pid) (userId : Nat) : List Nat :=
  ((world.sessions.view pid).passwordResetTokens.filter fun row =>
    row.userId == userId && row.usedAt == none).map (·.id)

/-- The write that a statement makes. -/
def writeOf (world : AccountWorld Call) (pid : Pid) : AccountStmt → Option AccountWrite
  | .insert draft => some (draft world.nextId)
  | .update write => some write
  | .useResetTokens userId usedAt =>
      some (.markResetTokens (world.unusedTokens pid userId) usedAt)
  | _ => none

/-- The statement has to wait for another session. -/
def blocks (world : AccountWorld Call) (pid : Pid) (stmt : AccountStmt) : Bool :=
  match world.writeOf pid stmt with
  | some write => world.sessions.mustWait pid write
  | none => false

end AccountWorld

variable {Call : Type}

/-- The effect of a statement that does not have to wait. -/
def effectOf (pid : Pid) (call : Call) :
    (stmt : AccountStmt) → AccountWorld Call → stmt.Answer × AccountWorld Call
  | .select query, world => (query.eval (world.sessions.view pid), world)
  | .insert draft, world =>
      let write := draft world.nextId
      let advanced := { world with nextId := world.nextId + 1 }
      if (world.sessions.view pid).refuses write then (none, advanced)
      else (some world.nextId, { advanced with sessions := world.sessions.add pid write })
  | .update write, world =>
      if (world.sessions.view pid).refuses write then (false, world)
      else (true, { world with sessions := world.sessions.add pid write })
  | .useResetTokens userId usedAt, world =>
      ((), { world with
        sessions := world.sessions.add pid
          (.markResetTokens (world.unusedTokens pid userId) usedAt) })
  | .commit, world =>
      ((), { world with
        sessions := world.sessions.committed pid
        history := world.history ++ [.committed call (world.sessions.writesOf pid)] })
  | .rollback, world => ((), world.release pid)
  | .now, world => (world.clock, world)
  | .keyExists jti, world => (world.isRevoked jti, world)
  | .set jti ttl, world => ((), world.revoke jti ttl)
  | .setNx jti ttl, world =>
      if world.isRevoked jti then (false, world) else (true, world.revoke jti ttl)
  | .sign holder draft, world =>
      let claims := draft world.nextJti
      (claims, { world with
        nextJti := world.nextJti + 1
        history := world.history ++ [.signed call holder claims] })

/-- The effect of a statement of a session; `none` while it has to wait. -/
def execAccount (pid : Pid) (call : Call) (stmt : AccountStmt) (world : AccountWorld Call) :
    Option (stmt.Answer × AccountWorld Call) :=
  if world.blocks pid stmt then none else some (effectOf pid call stmt world)

/-- What is executed had not to wait, and has its effect. -/
theorem execAccount_some {pid : Pid} {call : Call} {stmt : AccountStmt} {world : AccountWorld Call}
    {result : stmt.Answer × AccountWorld Call}
    (executed : execAccount pid call stmt world = some result) :
    world.blocks pid stmt = false ∧ effectOf pid call stmt world = result := by
  unfold execAccount at executed
  split at executed
  · cases executed
  · next free => exact ⟨Bool.not_eq_true _ ▸ free, Option.some.inj executed⟩

end AppointmentVoice.Accounts
