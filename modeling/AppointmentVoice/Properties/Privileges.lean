import AppointmentVoice.Accounts.Statements

/-!
# Who can give which role

Every request to the user and signup routes either leaves the role of a user alone or
gives one whose permissions the acting user has, with one exception: a tenant admin may
set the role of any user of the tenant, also to `platform_admin`.  In a run of requests in
which no tenant admin does so, nobody's permissions grow beyond those of the acting user,
and a new platform admin is made by platform admins only.  Signing up makes an admin of a
tenant that was not there before, and registering makes a plain user.

`Bounded` compares the users of two tables, `Holds.run` carries it through a program, and
`handle_noEscalation` concludes it for one request.

**Main result**: `roles_are_handed_down`, over every run of requests.
`admin_makes_itself_platform_admin` is the request that it excludes.
-/

set_option autoImplicit false

namespace AppointmentVoice.Accounts

open Concurrency Program

/-! ## Roles -/

/-- The first role allows nothing that the second does not. -/
def Role.Within (role other : Role) : Prop :=
  ∀ permission, getPermissionsForRole role permission = true →
    getPermissionsForRole other permission = true

namespace Role.Within

theorem refl (role : Role) : role.Within role := fun _ allowed => allowed

/-- Only a platform admin may do what a platform admin may. -/
theorem platformAdmin {role : Role} (within : Role.platformAdmin.Within role) :
    role = .platformAdmin := by
  have allowed := within .tenantsList rfl
  cases role with
  | user => cases allowed
  | admin => cases allowed
  | platformAdmin => rfl
  | unknown raw => cases allowed

theorem of_platformAdmin (role : Role) : role.Within .platformAdmin := fun _ _ => rfl

theorem user_admin : Role.user.Within .admin := by
  intro permission allowed
  cases permission <;> first | rfl | cases allowed

end Role.Within

/-- Who may update users is an admin of the tenant or of the platform. -/
theorem admin_of_usersUpdate {user : User} (may : userHasPermission user .usersUpdate = true) :
    user.role = .admin ∨ user.role = .platformAdmin := by
  unfold userHasPermission at may
  cases role : user.role with
  | user =>
      rw [role] at may
      cases may
  | admin => exact .inl rfl
  | platformAdmin => exact .inr rfl
  | unknown raw =>
      rw [role] at may
      cases may

/-! ## Writes and the rows they leave -/

/-- The write gives only roles of a kind, and adds only users of a kind; a new row takes
the key that it is given. -/
def AccountWrite.Gives (added : User → Prop) (given : Role → Prop) (id : Nat) :
    AccountWrite → Prop
  | .insertUser row => added row ∧ row.id = id
  | .insertTenant row => row.id = id
  | .updateUser _ change =>
      (∀ role, change.role = some role → given role) ∧ ∀ user, ¬added user
  | _ => True

/-- The statement writes nothing else. -/
def AccountStmt.Gives (added : User → Prop) (given : Role → Prop) : AccountStmt → Prop
  | .insert draft => ∀ id, (draft id).Gives added given id
  | .update write => ∀ id, write.Gives added given id
  | _ => True

theorem AccountWrite.Gives.mono {added more : User → Prop} {given wide : Role → Prop} {id : Nat}
    {write : AccountWrite} (gives : write.Gives added given id)
    (same : ∀ user, added user ↔ more user)
    (wider : ∀ role, given role → wide role) : write.Gives more wide id := by
  cases write with
  | insertUser row => exact ⟨(same row).mp gives.1, gives.2⟩
  | insertTenant row => exact gives
  | updateUser key change =>
      exact ⟨fun role new => wider role (gives.1 role new),
        fun user is => gives.2 user ((same user).mpr is)⟩
  | _ => exact trivial

theorem AccountStmt.Gives.mono {added more : User → Prop} {given wide : Role → Prop}
    {stmt : AccountStmt} (gives : stmt.Gives added given) (same : ∀ user, added user ↔ more user)
    (wider : ∀ role, given role → wide role) : stmt.Gives more wide := by
  cases stmt with
  | insert draft => exact fun id => (gives id).mono same wider
  | update write => exact fun id => (gives id).mono same wider
  | _ => exact trivial

/-- What the users of some tables have to do with those of tables before: each of them was
there, with its role or before it was given it, or has been added. -/
structure Bounded (added : User → Prop) (given : Role → Prop) (before : AccountDb)
    (firstId nextId : Nat) (after : AccountDb) : Prop where
  origin : ∀ user ∈ after.users,
    (∃ old ∈ before.users, old.id = user.id ∧ (old.role = user.role ∨ given user.role)) ∨
      (added user ∧ firstId ≤ user.id)
  later : firstId ≤ nextId
  keys : (after.users.map (·.id)).Nodup
  usersBelow : ∀ user ∈ after.users, user.id < nextId
  tenantsBelow : ∀ tenant ∈ after.tenants, tenant.id < nextId

/-- The primary keys are unique and below the next key. -/
structure AccountDb.WellFormed (db : AccountDb) (nextId : Nat) : Prop where
  keys : (db.users.map (·.id)).Nodup
  usersBelow : ∀ user ∈ db.users, user.id < nextId
  tenantsBelow : ∀ tenant ∈ db.tenants, tenant.id < nextId

namespace Bounded

variable {added : User → Prop} {given : Role → Prop} {before middle : AccountDb}
  {firstId nextId : Nat}

theorem refl (wellFormed : before.WellFormed nextId) :
    Bounded added given before nextId nextId before where
  origin user member := .inl ⟨user, member, rfl, .inl rfl⟩
  later := le_refl nextId
  keys := wellFormed.keys
  usersBelow := wellFormed.usersBelow
  tenantsBelow := wellFormed.tenantsBelow

theorem wellFormed (bounded : Bounded added given before firstId nextId middle) :
    middle.WellFormed nextId := ⟨bounded.keys, bounded.usersBelow, bounded.tenantsBelow⟩

theorem mono (bounded : Bounded added given before firstId nextId middle) :
    Bounded added given before firstId (nextId + 1) middle where
  origin := bounded.origin
  later := Nat.le_succ_of_le bounded.later
  keys := bounded.keys
  usersBelow user member := Nat.lt_succ_of_lt (bounded.usersBelow user member)
  tenantsBelow tenant member := Nat.lt_succ_of_lt (bounded.tenantsBelow tenant member)

/-- Tables with the same users and tenants. -/
theorem congr {after : AccountDb} (bounded : Bounded added given before firstId nextId middle)
    (users : after.users = middle.users) (tenants : after.tenants = middle.tenants) :
    Bounded added given before firstId nextId after where
  origin := by
    rw [users]
    exact bounded.origin
  later := bounded.later
  keys := by
    rw [users]
    exact bounded.keys
  usersBelow := by
    rw [users]
    exact bounded.usersBelow
  tenantsBelow := by
    rw [tenants]
    exact bounded.tenantsBelow

theorem insertUser (bounded : Bounded added given before firstId nextId middle) {row : User}
    (fits : added row) (key : row.id = nextId) :
    Bounded added given before firstId (nextId + 1) (middle.apply (.insertUser row)) where
  origin user member := by
    rcases List.mem_append.mp member with old | new
    · exact bounded.origin user old
    · rw [List.mem_singleton] at new
      rw [new]
      exact .inr ⟨fits, key ▸ bounded.later⟩
  later := bounded.mono.later
  keys := by
    change ((middle.users ++ [row]).map (·.id)).Nodup
    rw [List.map_append, List.nodup_append]
    refine ⟨bounded.keys, List.nodup_singleton _, fun id old other new => ?_⟩
    obtain ⟨user, member, rfl⟩ := List.mem_map.mp old
    rw [List.map_singleton, List.mem_singleton] at new
    rw [new, key]
    exact Nat.ne_of_lt (bounded.usersBelow user member)
  usersBelow user member := by
    rcases List.mem_append.mp member with old | new
    · exact Nat.lt_succ_of_lt (bounded.usersBelow user old)
    · rw [List.mem_singleton] at new
      rw [new, key]
      exact Nat.lt_succ_self nextId
  tenantsBelow := bounded.mono.tenantsBelow

theorem insertTenant (bounded : Bounded added given before firstId nextId middle) {row : Tenant}
    (key : row.id = nextId) :
    Bounded added given before firstId (nextId + 1) (middle.apply (.insertTenant row)) where
  origin := bounded.origin
  later := bounded.mono.later
  keys := bounded.keys
  usersBelow := bounded.mono.usersBelow
  tenantsBelow tenant member := by
    rcases List.mem_append.mp member with old | new
    · exact Nat.lt_succ_of_lt (bounded.tenantsBelow tenant old)
    · rw [List.mem_singleton] at new
      rw [new, key]
      exact Nat.lt_succ_self nextId

theorem updateUser (bounded : Bounded added given before firstId nextId middle) {id : Nat}
    {change : UserChange} (gives : ∀ role, change.role = some role → given role)
    (nobody : ∀ user, ¬added user) :
    Bounded added given before firstId nextId (middle.apply (.updateUser id change)) where
  origin user member := by
    obtain ⟨origin, old, rfl⟩ := List.mem_map.mp member
    rcases bounded.origin origin old with ⟨first, there, same, kept⟩ | ⟨isNew, -⟩
    · split
      · refine .inl ⟨first, there, same, ?_⟩
        cases role : change.role with
        | some role' =>
            have now : (change.apply origin).role = role' := by simp [UserChange.apply, role]
            rw [now]
            exact .inr (gives role' role)
        | none =>
            have now : (change.apply origin).role = origin.role := by simp [UserChange.apply, role]
            rw [now]
            exact kept
      · exact .inl ⟨first, there, same, kept⟩
    · exact absurd isNew (nobody origin)
  later := bounded.later
  keys := by
    have same : (middle.apply (.updateUser id change)).users.map (·.id) =
        middle.users.map (·.id) := by
      change List.map _ (List.map _ middle.users) = _
      rw [List.map_map]
      refine List.map_congr_left fun user _ => ?_
      rw [Function.comp_apply]
      split <;> rfl
    rw [same]
    exact bounded.keys
  usersBelow user member := by
    obtain ⟨origin, old, rfl⟩ := List.mem_map.mp member
    split <;> exact bounded.usersBelow origin old
  tenantsBelow := bounded.tenantsBelow

theorem deleteUser (bounded : Bounded added given before firstId nextId middle) (id : Nat) :
    Bounded added given before firstId nextId (middle.apply (.deleteUser id)) where
  origin user member := bounded.origin user (List.mem_filter.mp member).1
  later := bounded.later
  keys := bounded.keys.sublist (List.filter_sublist.map _)
  usersBelow user member := bounded.usersBelow user (List.mem_filter.mp member).1
  tenantsBelow := bounded.tenantsBelow

/-- One write of the kind, with the next key if it adds a row. -/
theorem insert (bounded : Bounded added given before firstId nextId middle) {write : AccountWrite}
    (gives : write.Gives added given nextId) :
    Bounded added given before firstId (nextId + 1) (middle.apply write) := by
  cases write with
  | insertUser row => exact bounded.insertUser gives.1 gives.2
  | insertTenant row => exact bounded.insertTenant gives
  | updateUser id change => exact (bounded.updateUser gives.1 gives.2).mono
  | deleteUser id => exact (bounded.deleteUser id).mono
  | _ => exact bounded.mono.congr rfl rfl

theorem update (bounded : Bounded added given before firstId nextId middle) {write : AccountWrite}
    (gives : ∀ id, write.Gives added given id) :
    Bounded added given before firstId nextId (middle.apply write) := by
  cases write with
  | insertUser row => exact absurd ((gives (row.id + 1)).2) (Nat.ne_of_lt (Nat.lt_succ_self _))
  | insertTenant row => exact absurd (gives (row.id + 1)) (Nat.ne_of_lt (Nat.lt_succ_self _))
  | updateUser id change => exact bounded.updateUser (gives 0).1 (gives 0).2
  | deleteUser id => exact bounded.deleteUser id
  | _ => exact bounded.congr rfl rfl

end Bounded

/-! ## Running a program alone -/

/-- The committed rows during a request are bounded, and so are those that it sees. -/
structure Holds (added : User → Prop) (given : Role → Prop) (before world : RequestWorld) :
    Prop where
  committed : Bounded added given before.db before.nextId world.nextId world.db
  seen : Bounded added given before.db before.nextId world.nextId (world.sessions.view 0)

namespace Holds

variable {added : User → Prop} {given : Role → Prop} {before world : RequestWorld}

theorem of_idle (idle : world.sessions.writesOf 0 = [])
    (wellFormed : world.db.WellFormed world.nextId) :
    Holds added given world world where
  committed := .refl wellFormed
  seen := by
    rw [Sessions.view_of_nil idle]
    exact .refl wellFormed

/-- A statement of the kind keeps the bound. -/
theorem stmt (holds : Holds added given before world) {request : UserRequest}
    {stmt : AccountStmt} (gives : stmt.Gives added given) :
    Holds added given before (effectOf 0 request stmt world).2 := by
  cases stmt with
  | select query => exact holds
  | insert draft =>
      simp only [effectOf]
      split
      · exact ⟨holds.committed.mono, holds.seen.mono⟩
      · refine ⟨holds.committed.mono, ?_⟩
        change Bounded added given _ _ _ ((world.sessions.add 0 _).view 0)
        rw [Sessions.view_add_self]
        exact holds.seen.insert (gives world.nextId)
  | update write =>
      simp only [effectOf]
      split
      · exact holds
      · refine ⟨holds.committed, ?_⟩
        change Bounded added given _ _ _ ((world.sessions.add 0 _).view 0)
        rw [Sessions.view_add_self]
        exact holds.seen.update gives
  | useResetTokens userId usedAt =>
      refine ⟨holds.committed, ?_⟩
      change Bounded added given _ _ _ ((world.sessions.add 0 _).view 0)
      rw [Sessions.view_add_self]
      exact holds.seen.congr rfl rfl
  | commit =>
      refine ⟨holds.seen, ?_⟩
      change Bounded added given _ _ _ ((world.sessions.committed 0).view 0)
      rw [Sessions.view_committed_self]
      exact holds.seen
  | rollback =>
      refine ⟨holds.committed, ?_⟩
      change Bounded added given _ _ _ ((world.sessions.release 0).view 0)
      rw [Sessions.view_release_self]
      exact holds.committed
  | now => exact holds
  | keyExists jti => exact holds
  | set jti ttl => exact ⟨holds.committed, holds.seen⟩
  | setNx jti ttl =>
      simp only [effectOf]
      split
      · exact holds
      · exact ⟨holds.committed, holds.seen⟩
  | sign holder draft => exact ⟨holds.committed, holds.seen⟩

/-- A program that only reads, and what comes after it. -/
theorem after_reads {α β : Type} {program : AccountM α} {next : α → AccountM β}
    {request : UserRequest} (reads : program.Only AccountStmt.reads)
    (rest : ∀ value, runAlone request program world = (.ok value, world) →
      Holds added given before (runAlone request (next value) world).2)
    (holds : Holds added given before world) :
    Holds added given before (runAlone request (program >>= next) world).2 := by
  have same := runAlone_reads reads request world
  rw [runAlone_bind]
  split
  · next value after ran =>
      obtain rfl : after = world := by rw [← same, ran]
      exact rest value ran
  · next error after ran =>
      obtain rfl : after = world := by rw [← same, ran]
      exact holds

/-- A program that issues nothing else keeps the bound. -/
theorem run {α : Type} {program : AccountM α} (only : program.Only (AccountStmt.Gives added given))
    (holds : Holds added given before world) (request : UserRequest) :
    Holds added given before (runAlone request program world).2 := by
  induction only generalizing world with
  | ret value => exact holds
  | raise error => exact holds
  | call fits rest ih => exact ih _ (holds.stmt fits)

end Holds

theorem ordinary_gives (added : User → Prop) (given : Role → Prop) :
    Ordinary (AccountStmt.Gives added given) where
  select _ := trivial
  now := trivial
  keyExists _ := trivial
  commit := trivial
  audit _ := fun _ => trivial

/-! ## Requests of an acting user -/

/-- The acting user, once the token has been read. -/
def ActingGives (actor : User) : AccountStmt → Prop :=
  AccountStmt.Gives (fun _ => False) fun role => role.Within actor.role

/-- A body that gives a user no role that its sender would not have, unless the user has it
already. -/
def UserAdminUpdate.Restrained (body : UserAdminUpdate) (actor user : User) : Prop :=
  actor.role = .admin → body.role = some (some .platformAdmin) → user.role = .platformAdmin

section Acting

variable {actor : User} {kind : AccountStmt → Prop}

theorem changed_some {α : Type} [DecidableEq α] {old value : α} {new : Option α}
    (same : changed old new = some value) : new = some value ∧ value ≠ old := by
  cases new with
  | none => cases same
  | some other =>
      simp only [changed] at same
      split at same
      · cases same
      · next different =>
          cases same
          exact ⟨rfl, different⟩

theorem acting_updateUser {user : User} {body : UserAdminUpdate}
    (gives : ∀ role : UserRole, body.role = some (some role) → role.role ≠ user.role →
      role.role.Within actor.role) :
    (updateUser user body).Only (ActingGives actor) := by
  unfold updateUser
  split
  · exact .raise _
  · refine Issues.flushUser fun _ => ⟨fun role same => ?_, fun _ => id⟩
    obtain ⟨asked, different⟩ := changed_some same
    cases given : body.role with
    | none =>
        rw [given] at asked
        cases asked
    | some value =>
        rw [given] at asked
        cases value with
        | none => cases asked
        | some role' =>
            obtain rfl : role'.role = role := Option.some.inj asked
            exact gives role' given different

theorem acting_ordinary (actor : User) : Ordinary (ActingGives actor) := ordinary_gives ..

/-- `patch_user` once the user to be updated has been read. -/
def patchFound (actor : User) (userId : Nat) (body : UserAdminUpdate) (user : User) :
    AccountM User := do
  if !canUpdateUser actor user then throw insufficient
  if userHasPermission actor .usersUpdate then
    updateUser user body
    commitUserMutationWithAudit actor.tenantId actor.id .userUpdated userId
    refreshUser user.id
  else do
    updateUser user body.selfUpdate
    commit
    refreshUser user.id

theorem patchUserAs_eq (actor : User) (userId : Nat) (body : UserAdminUpdate) :
    patchUserAs actor userId body = (requireNonDemoUser actor >>= fun _ =>
      getUserById actor userId actor.tenantId >>= patchFound actor userId body) := rfl

/-- **An update gives at most what its sender has**, unless a tenant admin makes a
platform admin. -/
theorem acting_patchFound {userId : Nat} {body : UserAdminUpdate} {user : User}
    (restrained : body.Restrained actor user) :
    (patchFound actor userId body user).Only (ActingGives actor) := by
  have ordinary := acting_ordinary actor
  refine Issues.guard fun _ => ?_
  split
  · next may =>
      refine .bind (acting_updateUser fun role given different => ?_) fun _ =>
        .bind (ordinary.commitUserMutationWithAudit ..) fun _ => ordinary.toReading.refreshUser _
      rcases admin_of_usersUpdate may with admin | platformAdmin
      · rw [admin]
        cases role with
        | user => exact .user_admin
        | admin => exact .refl _
        | platformAdmin => exact absurd (restrained admin given).symm different
      · rw [platformAdmin]
        exact .of_platformAdmin _
  · exact .bind (acting_updateUser nofun) fun _ =>
      .bind (.issue ordinary.commit) fun _ => ordinary.toReading.refreshUser _

theorem acting_switchUser {permission : Permission} {switch : User → AccountM Unit}
    {action : AccountAction} {userId : Nat}
    (switches : ∀ user, (switch user).Only (ActingGives actor)) :
    (switchUserAs permission switch action actor userId).Only (ActingGives actor) := by
  have ordinary := acting_ordinary actor
  exact .bind (Issues.requireNonDemoUser actor) fun _ =>
    .bind (Issues.requirePermission ..) fun _ =>
      .bind (ordinary.toReading.getUserById ..) fun user => .bind (switches user) fun _ =>
        .bind (ordinary.commitUserMutationWithAudit ..) fun _ => ordinary.toReading.refreshUser _

theorem acting_deactivateUser {userId : Nat} :
    (deactivateUserAs actor userId).Only (ActingGives actor) :=
  acting_switchUser fun _ => Issues.flushUser fun _ => ⟨nofun, fun _ => id⟩

theorem acting_activateUser {userId : Nat} :
    (activateUserAs actor userId).Only (ActingGives actor) :=
  acting_switchUser fun _ => Issues.flushUser fun _ => ⟨nofun, fun _ => id⟩

theorem acting_removeUser {userId : Nat} :
    (removeUserAs actor userId).Only (ActingGives actor) := by
  have ordinary := acting_ordinary actor
  exact .bind (Issues.requireNonDemoUser actor) fun _ =>
    .bind (Issues.requirePermission ..) fun _ =>
      .bind (ordinary.toReading.getUserById ..) fun user =>
        .bind (Issues.flush fun _ => trivial) fun _ => ordinary.commitUserMutationWithAudit ..

end Acting

/-! ## Registration and signup -/

section Entering

variable {added : User → Prop} {given : Role → Prop}

theorem gives_createUser {cfg : AccountSettings} {userData : UserCreate} {tenantId : Nat}
    {role : Role} (fits : ∀ user : User, user.tenantId = tenantId → user.role = role → added user) :
    (createUser cfg userData tenantId role).Only (AccountStmt.Gives added given) := by
  have ordinary := ordinary_gives added given
  refine ordinary.toReading.read fun existing => Issues.guard fun _ => ?_
  exact .bind (Issues.add fun id => ⟨fits _ rfl rfl, rfl⟩) fun id =>
    .bind (.issue ordinary.commit) fun _ => ordinary.toReading.refreshUser id

theorem gives_register {cfg : AccountSettings} {slug : Option String} {userData : UserCreate}
    (fits : ∀ user : User, user.role = .user → added user) :
    (register cfg slug userData).Only (AccountStmt.Gives added given) := by
  have ordinary := ordinary_gives added given
  refine .bind (ordinary.toReading.read fun found => .bind (Issues.orRaise found) fun tenant => ?_)
    fun tenant => Issues.guard fun _ => gives_createUser fun user _ role => fits user role
  split
  · exact .ret tenant
  · exact .raise _

theorem gives_createTenant (slug name : String) :
    (createTenant slug name).Only (AccountStmt.Gives added given) := by
  have ordinary := ordinary_gives added given
  refine ordinary.toReading.read fun existing => Issues.guard fun _ => ?_
  exact .bind (Issues.add fun id => rfl) fun id => .bind (.issue ordinary.commit) fun _ =>
    ordinary.toReading.read fun found => Issues.orRaise found

theorem gives_setUpTenant {cfg : AccountSettings} {body : TenantSignupRequest} {tenant : Tenant}
    (fits : ∀ user : User, user.tenantId = tenant.id → user.role = .admin → added user) :
    (setUpTenant cfg body tenant).Only (AccountStmt.Gives added given) := by
  have ordinary := ordinary_gives added given
  exact .bind (.bind (Issues.add fun _ => trivial) fun _ => .issue ordinary.commit) fun _ =>
    .bind (gives_createUser fits) fun user => .bind (ordinary.createAuditLog ..) fun _ =>
      .bind (.issue ordinary.commit) fun _ => .ret user

theorem reads_firstFreeSlug (baseSlug : String) (suffixes : List Nat) :
    (firstFreeSlug baseSlug suffixes).Only AccountStmt.reads := by
  induction suffixes with
  | nil => exact .raise _
  | cons suffix suffixes ih =>
      refine reading_reads.read fun found => ?_
      cases found with
      | none => exact .ret _
      | some tenant => exact ih

theorem reads_uniqueSlug (baseSlug : String) :
    (uniqueSlug baseSlug).Only AccountStmt.reads := by
  refine reading_reads.read fun found => ?_
  cases found with
  | none => exact .ret _
  | some tenant => exact reads_firstFreeSlug ..

theorem reads_resolveSlug (body : TenantSignupRequest) :
    (resolveSlug body).Only AccountStmt.reads := by
  unfold resolveSlug
  split
  · split
    · exact reads_uniqueSlug _
    · exact .ret _
  · exact reads_uniqueSlug _

/-- A flushed row has the next key. -/
theorem runAlone_add (request : UserRequest) {draft : Nat → AccountWrite}
    {world after : RequestWorld} {id : Nat}
    (ran : runAlone request (add draft) world = (.ok id, after)) : id = world.nextId := by
  have shown : ∀ answer : Option Nat, (answer = none ∨ answer = some world.nextId) →
      ∀ middle, runAlone request (orRaise .database answer) middle = (.ok id, after) →
        id = world.nextId := by
    rintro answer (rfl | rfl) middle raised
    · cases raised
    · cases raised
      rfl
  refine shown (effectOf 0 request (.insert draft) world).1 ?_ _ ran
  simp only [effectOf]
  split
  · exact .inl rfl
  · exact .inr rfl

/-- A new tenant has the next key. -/
theorem createTenant_id (request : UserRequest) {slug name : String} {world after : RequestWorld}
    {tenant : Tenant}
    (created : runAlone request (createTenant slug name) world = (.ok tenant, after)) :
    tenant.id = world.nextId := by
  have found : ∀ (id : Nat) (middle : RequestWorld), runAlone request (do
      commit
      orRaise .database (← select (.tenant id)) : AccountM Tenant) middle = (.ok tenant, after) →
      tenant.id = id := by
    intro id middle ran
    change runAlone request (orRaise .database ((middle.sessions.committed 0).view 0
      |>.tenants.find? (·.id == id))) _ = _ at ran
    cases row : ((middle.sessions.committed 0).view 0).tenants.find? (·.id == id) with
    | none =>
        rw [row] at ran
        cases ran
    | some other =>
        rw [row] at ran
        cases ran
        have key := List.find?_some row
        rwa [beq_iff_eq] at key
  have inserts : ∀ middle : RequestWorld, runAlone request (do
      let id ← add fun id => .insertTenant { id, slug, name, isActive := true }
      commit
      orRaise .database (← select (.tenant id)) : AccountM Tenant) middle = (.ok tenant, after) →
      tenant.id = middle.nextId := by
    intro middle ran
    rw [runAlone_bind] at ran
    split at ran
    · next id last added =>
        rw [found id last ran]
        exact runAlone_add request added
    · cases ran
  change runAlone request
    (if (world.sessions.view 0 |>.tenants.find? (·.slug == slug)).isSome = true
    then _ else _) world = _ at created
  split at created
  · cases created
  · exact inserts world created

end Entering

/-! ## One request -/

/-- No user is a platform admin, or has permissions, through the request, but by an acting
user who has them.  Who signs up is an admin of a tenant that was not there, and who
registers is a plain user. -/
structure NoEscalation (request : UserRequest) (before after : RequestWorld) : Prop where
  platformAdmins : ∀ user ∈ after.db.users, user.role = .platformAdmin →
    (∃ old ∈ before.db.users, old.id = user.id ∧ old.role = .platformAdmin) ∨
      ∃ actor, request.actor before = some actor ∧ actor.role = .platformAdmin
  contained : ∀ user ∈ after.db.users, ∀ old ∈ before.db.users, old.id = user.id →
    user.role.Within old.role ∨
      ∃ actor, request.actor before = some actor ∧ user.role.Within actor.role
  newcomers : ∀ user ∈ after.db.users, (∀ old ∈ before.db.users, old.id ≠ user.id) →
    (∃ slug userData, request = .register slug userData ∧ user.role = .user) ∨
      ∃ body, request = .signup body ∧ user.role = .admin ∧
        ∀ tenant ∈ before.db.tenants, tenant.id ≠ user.tenantId

/-- The world between two requests. -/
structure Quiet (world : RequestWorld) : Prop where
  idle : world.sessions.writesOf 0 = []
  wellFormed : world.db.WellFormed world.nextId

section Requests

variable {cfg : AccountSettings} {request : UserRequest} {world : RequestWorld}

/-- The users that a request may add. -/
def Newcomer (request : UserRequest) (before : RequestWorld) (user : User) : Prop :=
  (∃ slug userData, request = .register slug userData ∧ user.role = .user) ∨
    ∃ body, request = .signup body ∧ user.role = .admin ∧
      ∀ tenant ∈ before.db.tenants, tenant.id ≠ user.tenantId

/-- The roles that a request may give. -/
def Granted (request : UserRequest) (before : RequestWorld) (role : Role) : Prop :=
  ∃ actor, request.actor before = some actor ∧ role.Within actor.role

/-- What a request may write. -/
abbrev RequestGives (request : UserRequest) (before : RequestWorld) (world : RequestWorld) :
    Prop :=
  Holds (Newcomer request before) (Granted request before) before world

/-- A request of an acting user, given what the rest of its program writes for that user. -/
theorem acting_after (quiet : Quiet world) {token : TokenClaims} {slug : Option String}
    {rest : User → AccountM Unit} (asks : request.credentials = some (token, slug))
    (gives : ∀ actor, request.actor world = some actor →
      RequestGives request world (runAlone request (rest actor) world).2) :
    RequestGives request world
      (runAlone request (getCurrentUser token slug >>= rest) world).2 := by
  refine Holds.after_reads (reading_reads.getCurrentUser token slug) (fun actor ran => ?_)
    (.of_idle quiet.idle quiet.wellFormed)
  refine gives actor ?_
  simp only [UserRequest.actor, asks, ran]
  rfl

/-- What is issued for an acting user is granted by that user, and adds nobody. -/
theorem acting_run (quiet : Quiet world) {token : TokenClaims} {slug : Option String} {actor : User}
    (asks : request.credentials = some (token, slug)) (acts : request.actor world = some actor)
    {α : Type} {program : AccountM α} (only : program.Only (ActingGives actor)) :
    RequestGives request world (runAlone request program world).2 := by
  have holds : RequestGives request world world := .of_idle quiet.idle quiet.wellFormed
  refine holds.run (only.imp fun stmt gives => ?_) request
  refine gives.mono (fun user => iff_of_false id ?_) fun role within => ⟨actor, acts, within⟩
  rintro (⟨slug, userData, rfl, -⟩ | ⟨body, rfl, -⟩)
  · cases asks
  · cases asks

/-- A request of an acting user, given what its program issues for that user. -/
theorem acting_holds (quiet : Quiet world) {token : TokenClaims} {slug : Option String}
    {rest : User → AccountM Unit} (asks : request.credentials = some (token, slug))
    (only : ∀ actor, (rest actor).Only (ActingGives actor)) :
    RequestGives request world
      (runAlone request (getCurrentUser token slug >>= rest) world).2 :=
  acting_after quiet asks fun actor acts => acting_run quiet asks acts (only actor)

/-- The user that is to be updated has the key, and is of the tenant of the acting user. -/
theorem getUserById_found {actor user : User} {userId tenantId : Nat}
    (ran : runAlone request (getUserById actor userId tenantId) world = (.ok user, world)) :
    ∃ found ∈ (world.sessions.view 0).users, found.id = userId ∧ found.tenantId = tenantId ∧
      user = sameObject actor found := by
  change runAlone request (orRaise _ ((world.sessions.view 0).users.find? fun row =>
    row.id == userId && row.tenantId == tenantId) >>= fun found =>
      pure (sameObject actor found)) world = _ at ran
  cases row : (world.sessions.view 0).users.find? fun row =>
      row.id == userId && row.tenantId == tenantId with
  | none =>
      rw [row] at ran
      cases ran
  | some found =>
      rw [row] at ran
      have key := List.find?_some row
      rw [Bool.and_eq_true, beq_iff_eq, beq_iff_eq] at key
      have same : (Except.ok (sameObject actor found), world) =
          ((Except.ok user, world) : Except AccountError User × RequestWorld) := ran
      rw [Prod.mk.injEq, Except.ok.injEq] at same
      exact ⟨found, List.mem_of_find?_eq_some row, key.1, key.2, same.1.symm⟩

/-- No tenant admin makes a platform admin: a user of the tenant whom its body gives that role
is another than the sender, and has the role already. -/
def Restrained (world : RequestWorld) : UserRequest → Prop
  | .patchUser token slug userId userUpdate =>
      ∀ actor, UserRequest.actor (.patchUser token slug userId userUpdate) world = some actor →
        actor.role = .admin → userUpdate.role = some (some .platformAdmin) →
          ∀ user ∈ world.db.users, user.id = userId → user.tenantId = actor.tenantId →
            user.id ≠ actor.id ∧ user.role = .platformAdmin
  | _ => True

/-- An update that is restrained writes what its sender may grant. -/
theorem holds_patchUser (quiet : Quiet world) {token : TokenClaims} {slug : Option String}
    {userId : Nat} {body : UserAdminUpdate}
    (restrained : Restrained world (.patchUser token slug userId body)) :
    RequestGives (.patchUser token slug userId body) world
      (runAlone (.patchUser token slug userId body)
        (patchUser token slug userId body >>= fun _ => pure ()) world).2 := by
  have holds : RequestGives (.patchUser token slug userId body) world world :=
    .of_idle quiet.idle quiet.wellFormed
  rw [patchUser, bind_assoc]
  refine acting_after quiet rfl fun actor acts => ?_
  rw [patchUserAs_eq, bind_assoc]
  refine Holds.after_reads (Issues.requireNonDemoUser actor) (fun _ _ => ?_) holds
  rw [bind_assoc]
  refine Holds.after_reads (reading_reads.getUserById ..) (fun user ran => ?_) holds
  refine acting_run quiet rfl acts
    (.bind (acting_patchFound fun admin given => ?_) fun _ => .ret ())
  obtain ⟨found, member, key, tenant, rfl⟩ := getUserById_found ran
  rw [Sessions.view_of_nil quiet.idle] at member
  obtain ⟨other, already⟩ := restrained actor acts admin given found member key tenant
  rw [sameObject, if_neg other]
  exact already

/-- Everything that a request writes is for a newcomer, or is granted by the acting user. -/
theorem request_holds (cfg : AccountSettings) (quiet : Quiet world)
    (restrained : Restrained world request) :
    RequestGives request world (runAlone request (performRequest cfg request) world).2 := by
  have holds : RequestGives request world world := .of_idle quiet.idle quiet.wellFormed
  cases request with
  | register slug userData =>
      refine holds.run (.bind (gives_register fun user role => ?_) fun _ => .ret ()) _
      exact .inl ⟨slug, userData, rfl, role⟩
  | signup body =>
      change RequestGives _ world (runAlone _ (signup cfg body >>= fun _ => pure ()) world).2
      unfold signup
      split
      · exact holds
      · rw [bind_assoc, runAlone_bind]
        have same := runAlone_reads (reads_resolveSlug body) (.signup body) world
        split
        · next slug after resolved =>
            obtain rfl : after = world := by rw [← same, resolved]
            rw [bind_assoc, runAlone_bind]
            have created := holds.run (gives_createTenant slug body.salonName)
              (.signup body)
            split
            · next tenant last ran =>
                rw [ran] at created
                have key := createTenant_id _ ran
                refine created.run (.bind (gives_setUpTenant fun user tenantId role => ?_)
                  fun _ => .ret ()) _
                refine .inr ⟨body, rfl, role, fun other there => ?_⟩
                rw [tenantId, key]
                exact Nat.ne_of_lt (quiet.wellFormed.tenantsBelow other there)
            · next error last ran =>
                rw [ran] at created
                exact created
        · next error after resolved =>
            obtain rfl : after = world := by rw [← same, resolved]
            exact holds
  | patchUser token slug userId userUpdate => exact holds_patchUser quiet restrained
  | activateUser token slug userId =>
      change RequestGives _ world (runAlone _
        ((getCurrentUser token slug >>= _) >>= fun _ => pure ()) world).2
      rw [bind_assoc]
      exact acting_holds quiet rfl fun actor => .bind acting_activateUser fun _ => .ret ()
  | deactivateUser token slug userId =>
      change RequestGives _ world (runAlone _
        ((getCurrentUser token slug >>= _) >>= fun _ => pure ()) world).2
      rw [bind_assoc]
      exact acting_holds quiet rfl fun actor => .bind acting_deactivateUser fun _ => .ret ()
  | removeUser token slug userId =>
      exact acting_holds quiet rfl fun actor => acting_removeUser

/-- **One request gives nobody more than its sender has.** -/
theorem handle_noEscalation (cfg : AccountSettings) (quiet : Quiet world)
    (restrained : Restrained world request) :
    NoEscalation request world (handle cfg request world) ∧ Quiet (handle cfg request world) := by
  have bounded := (request_holds cfg quiet restrained).committed
  refine ⟨⟨fun user member role => ?_, fun user member old there same => ?_,
    fun user member new => ?_⟩, Sessions.writesOf_release_self, bounded.wellFormed⟩
  · rcases bounded.origin user member with ⟨old, there, same, kept | granted⟩ | ⟨isNew, -⟩
    · exact .inl ⟨old, there, same, kept.trans role⟩
    · obtain ⟨actor, acts, within⟩ := granted
      exact .inr ⟨actor, acts, (role ▸ within).platformAdmin⟩
    · rcases isNew with ⟨_, _, -, plain⟩ | ⟨_, -, admin, -⟩
      · rw [plain] at role
        cases role
      · rw [admin] at role
        cases role
  · rcases bounded.origin user member with ⟨first, present, sameId, kept | granted⟩ | ⟨-, late⟩
    · obtain rfl : first = old := List.inj_on_of_nodup_map quiet.wellFormed.keys present there
        (sameId.trans same.symm)
      rw [kept]
      exact .inl (.refl _)
    · exact .inr granted
    · rw [← same] at late
      exact absurd (quiet.wellFormed.usersBelow old there) (Nat.not_lt.mpr late)
  · rcases bounded.origin user member with ⟨old, there, same, -⟩ | ⟨isNew, -⟩
    · exact absurd same (new old there)
    · exact isNew

end Requests

/-! ## Requests in a row -/

/-- A request with the worlds before and after it. -/
structure Handling where
  before : RequestWorld
  request : UserRequest
  after : RequestWorld

/-- Requests that are handled one after the other, each at its time. -/
inductive RequestRun (cfg : AccountSettings) (admitted : RequestWorld → UserRequest → Prop)
    (start : RequestWorld) : List Handling → RequestWorld → Prop where
  | start : RequestRun cfg admitted start [] start
  | handle {handled : List Handling} {world : RequestWorld} (clock : Nat) (request : UserRequest)
      (run : RequestRun cfg admitted start handled world) (later : world.clock ≤ clock)
      (allowed : admitted { world with clock } request) :
      RequestRun cfg admitted start
        (handled ++ [⟨{ world with clock }, request, handle cfg request { world with clock }⟩])
        (handle cfg request { world with clock })

/-- A platform admin makes a user a platform admin. -/
def Handling.MadeBy (handling : Handling) (userId : Nat) : Prop :=
  (∃ user ∈ handling.after.db.users, user.id = userId ∧ user.role = .platformAdmin) ∧
    (∀ user ∈ handling.before.db.users, user.id = userId → user.role ≠ .platformAdmin) ∧
    ∃ actor, handling.request.actor handling.before = some actor ∧ actor.role = .platformAdmin

/-- **Roles are handed down only**, when no tenant admin makes a platform admin: no request
gives anybody more than its sender has, and whoever is a platform admin in the end was one
at the start or was made one by a platform admin. -/
theorem roles_are_handed_down (cfg : AccountSettings) {start world : RequestWorld}
    {handled : List Handling} (quiet : Quiet start)
    (run : RequestRun cfg Restrained start handled world) :
    (∀ handling ∈ handled, NoEscalation handling.request handling.before handling.after) ∧
      ∀ user ∈ world.db.users, user.role = .platformAdmin →
        (∃ old ∈ start.db.users, old.id = user.id ∧ old.role = .platformAdmin) ∨
          ∃ handling ∈ handled, handling.MadeBy user.id := by
  have all : Quiet world ∧
      (∀ handling ∈ handled, NoEscalation handling.request handling.before handling.after) ∧
      ∀ user ∈ world.db.users, user.role = .platformAdmin →
        (∃ old ∈ start.db.users, old.id = user.id ∧ old.role = .platformAdmin) ∨
          ∃ handling ∈ handled, handling.MadeBy user.id := by
    induction run with
    | start =>
        exact ⟨quiet, fun _ member => absurd member List.not_mem_nil,
          fun user member role => .inl ⟨user, member, rfl, role⟩⟩
    | @handle handled world clock request run later allowed ih =>
        obtain ⟨calm, contained, admins⟩ := ih
        have ready : Quiet { world with clock } := ⟨calm.idle, calm.wellFormed⟩
        obtain ⟨step, after⟩ := handle_noEscalation cfg ready allowed
        refine ⟨after, fun handling member => ?_, fun user member role => ?_⟩
        · rcases List.mem_append.mp member with old | new
          · exact contained handling old
          · rw [List.mem_singleton] at new
            subst new
            exact step
        · by_cases before : ∃ old ∈ world.db.users, old.id = user.id ∧ old.role = .platformAdmin
          · obtain ⟨old, there, same, was⟩ := before
            rcases admins old there was with first | ⟨handling, known, made⟩
            · exact .inl (same ▸ first)
            · exact .inr ⟨handling, List.mem_append_left _ known, same ▸ made⟩
          · refine .inr ⟨_, List.mem_append_right _ (List.mem_singleton_self _),
              ⟨user, member, rfl, role⟩, fun old there same was =>
                before ⟨old, there, same, was⟩, ?_⟩
            exact (step.platformAdmins user member role).resolve_left before
  exact all.2

/-! ## An admin who promotes users -/

/-- A tenant with an admin and a plain user. -/
def adminAndUser : AccountDb :=
  { AccountDb.empty with
    tenants := [⟨1, "salon", "Salon", true⟩]
    users := [
      { id := 1, tenantId := 1, email := "admin@example.com", hashedPassword := "a",
        role := .admin },
      { id := 2, tenantId := 1, email := "user@example.com", hashedPassword := "u" }] }

def adminToken : TokenClaims :=
  { kind := .access, sub := 1, tenantId := 1, tokenVersion := 0, exp := 1800, jti := 0 }

def adminStart : RequestWorld := .start adminAndUser 3 0

theorem adminStart_quiet : Quiet adminStart where
  idle := rfl
  wellFormed := ⟨by decide, by decide, by decide⟩

/-- The admin gives a role to a user. -/
def promotes (userId : Nat) (role : UserRole) : UserRequest :=
  .patchUser adminToken none userId { role := some (some role) }

theorem admin_makes_an_admin : ∃ world,
    RequestRun plainSettings Restrained adminStart
        [⟨adminStart, promotes 2 .admin, handle plainSettings (promotes 2 .admin) adminStart⟩]
          world ∧
      (world.db.users.map (·.role)) = [.admin, .admin] ∧
      NoEscalation (promotes 2 .admin) adminStart
        (handle plainSettings (promotes 2 .admin) adminStart) := by
  have run : RequestRun plainSettings Restrained adminStart _ _ :=
    .handle 0 (promotes 2 .admin) .start (Nat.le_refl 0) fun _ _ _ given => by cases given
  have contained := (roles_are_handed_down plainSettings adminStart_quiet run).1
  exact ⟨_, run, by decide +kernel, contained _ (List.mem_singleton_self _)⟩

/-- A tenant admin makes itself a platform admin. -/
theorem admin_makes_itself_platform_admin :
    ¬∀ handled world, RequestRun plainSettings (fun _ _ => True) adminStart handled world →
      ∀ handling ∈ handled, NoEscalation handling.request handling.before handling.after := by
  intro contained
  have run : RequestRun plainSettings (fun _ _ => True) adminStart _ _ :=
    .handle 0 (promotes 1 .platformAdmin) .start (Nat.le_refl 0) trivial
  have step := contained _ _ run _ (List.mem_singleton_self _)
  have made : ((handle plainSettings (promotes 1 .platformAdmin) adminStart).db.users.any
      (·.role == .platformAdmin)) = true := by
    decide +kernel
  obtain ⟨user, member, role⟩ := List.any_eq_true.mp made
  have acting : ((promotes 1 .platformAdmin).actor adminStart).map (·.role) = some .admin := by
    decide +kernel
  rcases step.platformAdmins user member (beq_iff_eq.mp role) with
    ⟨old, there, -, was⟩ | ⟨actor, acts, was⟩
  · have none : ∀ old ∈ adminStart.db.users, old.role ≠ .platformAdmin := by decide
    exact none old there was
  · change (promotes 1 .platformAdmin).actor adminStart = some actor at acts
    rw [acts, Option.map_some, was] at acting
    cases acting

end AppointmentVoice.Accounts
