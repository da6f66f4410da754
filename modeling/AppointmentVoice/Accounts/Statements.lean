import AppointmentVoice.Accounts.Requests
import AppointmentVoice.Concurrency.Paths

/-!
# The statements that the account programs issue

For a kind of statement that reading, committing and the audit rows belong to, what else
a function issues: so a property of all statements of a request is shown by naming the
few that write.

**Every call.** `perform` says so of each call of the machine; a program that only reads leaves
the world as it is (`runAlone_reads`).
-/

set_option autoImplicit false

namespace AppointmentVoice.Accounts

open Concurrency Program

/-- A kind of statement that reading belongs to. -/
structure Reading (kind : AccountStmt → Prop) : Prop where
  select : ∀ query, kind (.select query)
  now : kind .now
  keyExists : ∀ jti, kind (.keyExists jti)

/-- A kind of statement that reading, committing and audit rows belong to. -/
structure Ordinary (kind : AccountStmt → Prop) : Prop extends Reading kind where
  commit : kind .commit
  audit : ∀ row : Nat → AccountAudit, kind (.insert fun id => .insertAudit (row id))

namespace Issues

variable {kind : AccountStmt → Prop} {α β : Type}

theorem orRaise {error : AccountError} (value : Option α) :
    (Accounts.orRaise error value).Only kind := by
  cases value with
  | none => exact .raise error
  | some value => exact .ret value

/-- `raise` under a condition. -/
theorem guard {condition : Prop} [Decidable condition] {error : AccountError} {program : AccountM α}
    (rest : ¬condition → program.Only kind) :
    (if condition then (do let _ ← (throw error : AccountM PUnit); program) else program :
      AccountM α).Only kind := by
  split
  · exact .raise error
  · next goesOn => exact rest goesOn

theorem flush {write : AccountWrite} (fits : kind (.update write)) :
    (Accounts.flush write).Only kind := by
  refine .call fits fun done => ?_
  cases (done : Bool) with
  | true => exact .ret ()
  | false => exact .raise _

theorem add {draft : Nat → AccountWrite} (fits : kind (.insert draft)) :
    (Accounts.add draft).Only kind :=
  .call fits fun answer => orRaise answer

theorem requirePermission (currentUser : User) (permission : Permission) :
    (Accounts.requirePermission currentUser permission).Only kind := by
  unfold Accounts.requirePermission
  split
  · exact .ret ()
  · exact .raise _

theorem requireNonDemoUser (currentUser : User) :
    (Accounts.requireNonDemoUser currentUser).Only kind := by
  unfold Accounts.requireNonDemoUser
  split
  · exact .raise _
  · exact .ret ()

theorem flushUser {id : Nat} {change : UserChange} (fits : kind (.update (.updateUser id change))) :
    (Accounts.flushUser id change).Only kind := by
  unfold Accounts.flushUser
  split
  · exact .ret ()
  · exact Issues.flush fits

theorem updateUser {user : User} {body : UserAdminUpdate}
    (updates : ∀ id change, change.hashedPassword = none → kind (.update (.updateUser id change))) :
    (Accounts.updateUser user body).Only kind := by
  unfold Accounts.updateUser
  split
  · exact .raise _
  · exact Issues.flushUser (updates _ _ rfl)

end Issues

namespace Reading

variable {kind : AccountStmt → Prop} {α : Type} (reading : Reading kind)
include reading

/-- Reading a row, and going on. -/
theorem read {query : AccountQuery} {next : query.Row → AccountM α}
    (rest : ∀ answer, (next answer).Only kind) : (Accounts.select query >>= next).Only kind :=
  .bind (.issue (reading.select query)) rest

theorem refreshUser (id : Nat) : (Accounts.refreshUser id).Only kind :=
  reading.read fun answer => Issues.orRaise answer

theorem decodeToken (token : TokenClaims) : (Accounts.decodeToken token).Only kind :=
  .call reading.now fun _ => .ret _

theorem assertActiveTenantMembership (user : User) :
    (Accounts.assertActiveTenantMembership user).Only kind := by
  refine reading.read fun answer => ?_
  cases answer with
  | none => exact .raise _
  | some tenant =>
      simp only
      split
      · exact .ret ()
      · exact .raise _

theorem getCurrentUser (token : TokenClaims) (slug : Option String) :
    (Accounts.getCurrentUser token slug).Only kind := by
  refine .bind (reading.decodeToken token) fun payload =>
    .bind (Issues.orRaise payload) fun payload => ?_
  refine Issues.guard fun _ => reading.read fun found => .bind (Issues.orRaise found) fun user => ?_
  refine Issues.guard fun _ => Issues.guard fun _ =>
    .bind (reading.assertActiveTenantMembership user) fun _ => ?_
  cases slug with
  | none => exact .ret user
  | some slug =>
      refine reading.read fun found => .bind (Issues.orRaise found) fun tenant => ?_
      exact Issues.guard fun _ => Issues.guard fun _ => .ret user

theorem getUserById (currentUser : User) (userId tenantId : Nat) :
    (Accounts.getUserById currentUser userId tenantId).Only kind :=
  reading.read fun found => .bind (Issues.orRaise found) fun _ => .ret _

theorem decodeRefreshToken (refreshToken : TokenClaims) :
    (Accounts.decodeRefreshToken refreshToken).Only kind := by
  refine .bind (reading.decodeToken refreshToken) fun payload =>
    .bind (Issues.orRaise payload) fun payload => ?_
  refine Issues.guard fun _ => Issues.guard fun _ =>
    .bind (.issue (reading.keyExists _)) fun revoked => ?_
  exact Issues.guard fun _ => .ret payload

theorem revokeRefreshToken (sets : ∀ jti ttl, kind (.set jti ttl))
    (setsNew : ∀ jti ttl, kind (.setNx jti ttl)) (jti expiresAt : Nat) (requireNew : Bool) :
    (Accounts.revokeRefreshToken jti expiresAt requireNew).Only kind := by
  refine .bind (.issue reading.now) fun revokedAt => ?_
  simp only
  split
  · exact .ret _
  · split
    · exact .issue (setsNew ..)
    · exact .bind (.issue (sets ..)) fun _ => .ret _

theorem getActiveUserFromRefreshPayload (payload : TokenClaims) :
    (Accounts.getActiveUserFromRefreshPayload payload).Only kind := by
  refine reading.read fun found => ?_
  cases found with
  | none => exact .raise _
  | some user =>
      simp only
      split
      · exact .bind (reading.assertActiveTenantMembership user) fun _ =>
          Issues.guard fun _ => .ret user
      · exact .raise _

theorem authenticateUser (cfg : AccountSettings) (loginData : UserLogin) (tenantId : Nat) :
    (Accounts.authenticateUser cfg loginData tenantId).Only kind := by
  refine reading.read fun found => .bind (Issues.orRaise found) fun user => ?_
  exact Issues.guard fun _ => Issues.guard fun _ => .ret user

end Reading

namespace Ordinary

variable {kind : AccountStmt → Prop} (ordinary : Ordinary kind)
include ordinary

theorem createAuditLog (tenantId : Nat) (adminId : Option Nat) (action : AccountAction)
    (targetUserId : Option Nat) (source : Option String) :
    (Accounts.createAuditLog tenantId adminId action targetUserId source).Only kind :=
  .bind (Issues.add (ordinary.audit _)) fun _ => .ret ()

theorem commitUserMutationWithAudit (tenantId adminId : Nat) (action : AccountAction)
    (targetUserId : Nat) :
    (Accounts.commitUserMutationWithAudit tenantId adminId action targetUserId).Only kind :=
  .bind (ordinary.createAuditLog ..) fun _ => .issue ordinary.commit

theorem patchUserAs (updates : ∀ user body, (Accounts.updateUser user body).Only kind)
    (currentUser : User) (userId : Nat) (userUpdate : UserAdminUpdate) :
    (Accounts.patchUserAs currentUser userId userUpdate).Only kind := by
  refine .bind (Issues.requireNonDemoUser currentUser) fun _ =>
    .bind (ordinary.toReading.getUserById ..) fun user => Issues.guard fun _ => ?_
  split
  · exact .bind (updates ..) fun _ =>
      .bind (ordinary.commitUserMutationWithAudit ..) fun _ => ordinary.toReading.refreshUser _
  · exact .bind (updates ..) fun _ =>
      .bind (.issue ordinary.commit) fun _ => ordinary.toReading.refreshUser _

theorem switchUserAs {permission : Permission} {switch : User → AccountM Unit}
    {action : AccountAction} (switches : ∀ user, (switch user).Only kind) (currentUser : User)
    (userId : Nat) :
      (Accounts.switchUserAs permission switch action currentUser userId).Only kind :=
  .bind (Issues.requireNonDemoUser currentUser) fun _ =>
    .bind (Issues.requirePermission currentUser _) fun _ =>
      .bind (ordinary.toReading.getUserById ..) fun user =>
        .bind (switches user) fun _ =>
          .bind (ordinary.commitUserMutationWithAudit ..) fun _ => ordinary.toReading.refreshUser _

theorem confirmPasswordReset (cfg : AccountSettings)
    (updates : ∀ id hash version, kind (.update (.updateUser id
      { hashedPassword := some hash, tokenVersion := some version })))
    (resets : ∀ userId usedAt, kind (.useResetTokens userId usedAt))
    (resetConfirm : PasswordResetConfirm) :
    (Accounts.confirmPasswordReset cfg resetConfirm).Only kind := by
  have reading := ordinary.toReading
  refine reading.read fun found => .bind (Issues.orRaise found) fun resetToken =>
    .bind (.issue reading.now) fun usedAt => Issues.guard fun _ => Issues.guard fun _ =>
      reading.read fun found => .bind (Issues.orRaise found) fun user => Issues.guard fun _ => ?_
  refine .bind ?_ fun _ => .ret _
  refine .bind (Issues.flush (updates ..)) fun _ => .bind (.issue ordinary.commit) fun _ =>
    .bind (reading.refreshUser _) fun user => .bind (.issue (resets ..)) fun _ =>
      .bind (.issue ordinary.commit) fun _ => .bind (reading.refreshUser _) fun user =>
        .bind (ordinary.createAuditLog ..) fun _ => .issue ordinary.commit

/-- **The statements of every call**, for a kind that its writes, the keys that it sets and
the tokens that it hands out belong to. -/
theorem perform (cfg : AccountSettings) {call : AccountCall}
    (updates : ∀ id change, change.hashedPassword = none → kind (.update (.updateUser id change)))
    (resets : ∀ body, call = .confirmPasswordReset body →
      (Accounts.confirmPasswordReset cfg body).Only kind)
    (keys : call.refreshToken.isSome = true →
      ∀ jti ttl, kind (.set jti ttl) ∧ kind (.setNx jti ttl))
    (tokens : ∀ user, (createTokens cfg user (call.demoFlag user)).Only kind) :
    (performAccount cfg call).Only kind := by
  have reading := ordinary.toReading
  cases call with
  | loginUser loginData tenantId =>
      exact .bind (.bind (reading.authenticateUser cfg loginData tenantId) tokens) fun _ => .ret _
  | createDemoSession =>
      refine .bind (Issues.guard fun _ => ?_) fun _ => .ret _
      simp only
      exact Issues.guard fun _ => Issues.guard fun _ =>
        reading.read fun found => .bind (Issues.orRaise found) fun user =>
          reading.read fun salon => .bind (Issues.orRaise salon) fun _ => tokens user
  | rotateRefreshToken refreshToken =>
      refine .bind (.bind (reading.decodeRefreshToken refreshToken) fun payload =>
        .bind (reading.getActiveUserFromRefreshPayload payload) fun user =>
          .bind (reading.revokeRefreshToken (fun jti ttl => (keys rfl jti ttl).1)
            (fun jti ttl => (keys rfl jti ttl).2) ..) fun won => ?_) fun _ => .ret _
      split
      · exact tokens user
      · exact .raise _
  | logoutUser refreshToken =>
      exact .bind (.bind (reading.decodeRefreshToken refreshToken) fun payload =>
        .bind (reading.revokeRefreshToken (fun jti ttl => (keys rfl jti ttl).1)
          (fun jti ttl => (keys rfl jti ttl).2) ..) fun _ => .ret ()) fun _ => .ret _
  | patchUser token slug userId userUpdate =>
      exact .bind (.bind (reading.getCurrentUser token slug) fun currentUser =>
        ordinary.patchUserAs (fun _ _ => Issues.updateUser updates) ..) fun _ => .ret _
  | deactivateUser token slug userId =>
      exact .bind (.bind (reading.getCurrentUser token slug) fun currentUser =>
        ordinary.switchUserAs (fun _ => Issues.flushUser (updates _ _ rfl)) ..) fun _ => .ret _
  | activateUser token slug userId =>
      exact .bind (.bind (reading.getCurrentUser token slug) fun currentUser =>
        ordinary.switchUserAs (fun _ => Issues.flushUser (updates _ _ rfl)) ..) fun _ => .ret _
  | confirmPasswordReset resetConfirm => exact .bind (resets resetConfirm rfl) fun _ => .ret _

end Ordinary

/-! ## Reading alone -/

/-- The statement only reads. -/
def AccountStmt.reads : AccountStmt → Prop
  | .select _ => True
  | .now => True
  | .keyExists _ => True
  | _ => False

theorem reading_reads : Reading AccountStmt.reads := ⟨fun _ => trivial, trivial, fun _ => trivial⟩

/-- A program that only reads leaves the world as it is. -/
theorem runAlone_reads {α : Type} {program : AccountM α} (only : program.Only AccountStmt.reads)
    (request : UserRequest) (world : RequestWorld) :
      (runAlone request program world).2 = world := by
  induction only with
  | ret value => rfl
  | raise error => rfl
  | @call stmt next fits rest ih =>
      have same : (effectOf 0 request stmt world).2 = world := by
        cases stmt with
        | select query => rfl
        | now => rfl
        | keyExists jti => rfl
        | _ => exact fits.elim
      have goesOn := ih (effectOf 0 request stmt world).1
      rw [runAlone, Program.run_call, same]
      exact goesOn

/-- Running one program after another, alone. -/
theorem runAlone_bind {α β : Type} (request : UserRequest) (program : AccountM α)
    (next : α → AccountM β) (world : RequestWorld) :
    runAlone request (program >>= next) world =
      match runAlone request program world with
      | (.ok value, after) => runAlone request (next value) after
      | (.error error, after) => (.error error, after) := by
  induction program generalizing world with
  | ret value => rfl
  | raise error => rfl
  | call stmt rest ih =>
      exact ih (effectOf 0 request stmt world).1 (effectOf 0 request stmt world).2

end AppointmentVoice.Accounts
