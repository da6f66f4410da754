import AppointmentVoice.Accounts.Slugs
import AppointmentVoice.Concurrency.Interruption

/-!
# Signups

A signup commits four times: the tenant, its salon, its user and the record of it.  What
interrupts it before the first commit is done leaves nothing behind; what interrupts it
between that commit and its end leaves a tenant.  The slug that it generates has the form
of a slug and is nobody else's, and it is as long as the name of the salon makes it.

**The slug.** The search for a slug ends at the first candidate that is free (`pick_ends`,
`resolveSlug_ends`).

**The call.** A signup that reserves no slug leaves nothing behind (`unreserved_raises`), and
one that does returns, if it is not interrupted (`reserved_ends`); so it is all or nothing
exactly under the conditions of `signup_holds_iff`.
-/

set_option autoImplicit false

namespace AppointmentVoice.Accounts

open Concurrency

/-! ## The slug -/

/-- No tenant has the slug. -/
def AccountDb.Free (db : AccountDb) (slug : String) : Prop := ∀ row ∈ db.tenants, row.slug ≠ slug

instance (db : AccountDb) (slug : String) : Decidable (db.Free slug) :=
  inferInstanceAs (Decidable (∀ row ∈ db.tenants, row.slug ≠ slug))

/-- The slug is the first of some candidates that is free, the one after so many. -/
structure FirstFree (db : AccountDb) (candidates : List String) (taken : Nat) (slug : String) :
    Prop where
  found : candidates[taken]? = some slug
  free : db.Free slug
  before : ∀ other ∈ candidates.take taken, ¬db.Free other

/-- Look for the first candidate that is free. -/
def pick : List String → AccountM String
  | [] => throw (.badRequest "Could not generate a unique slug, please provide one explicitly")
  | candidate :: candidates => do
      match ← select (.tenantBySlug candidate) with
      | none => return candidate
      | some _ => pick candidates

theorem firstFreeSlug_eq (baseSlug : String) (suffixes : List Nat) :
    firstFreeSlug baseSlug suffixes = pick (suffixes.map (suffixed baseSlug)) := by
  induction suffixes with
  | nil => rfl
  | cons suffix suffixes ih =>
      rw [firstFreeSlug, List.map_cons, pick, ih]
      rfl

theorem uniqueSlug_eq (baseSlug : String) :
    uniqueSlug baseSlug = pick (slugCandidates baseSlug) := by
  unfold uniqueSlug slugCandidates
  exact congrArg (fun others => select (.tenantBySlug baseSlug) >>= fun row =>
    match row with
    | none => return baseSlug
    | some _ => others) (firstFreeSlug_eq baseSlug (List.range' 2 998))

section Runs

variable {request : UserRequest} {world : RequestWorld} {slug : String}

/-- A select of a session that has written nothing. -/
theorem exec_select (request : UserRequest) (idle : world.sessions.pending = [])
    (query : AccountQuery) :
    effectOf 0 request (.select query) world = (query.eval world.db, world) := by
  have committed : world.sessions.view 0 = world.db := by
    rw [Sessions.view, Sessions.writesOf, idle]
    rfl
  change (query.eval (world.sessions.view 0), world) = _
  rw [committed]

theorem find_free (free : world.db.Free slug) :
    AccountQuery.eval (.tenantBySlug slug) world.db = none := by
  refine List.find?_eq_none.mpr fun row member same => ?_
  exact free row member (beq_iff_eq.mp same)

theorem find_taken (taken : ¬world.db.Free slug) :
    ∃ tenant, AccountQuery.eval (.tenantBySlug slug) world.db = some tenant := by
  cases found : AccountQuery.eval (.tenantBySlug slug) world.db with
  | some tenant => exact ⟨tenant, rfl⟩
  | none =>
      refine absurd (fun row member same => ?_) taken
      exact List.find?_eq_none.mp found row member (beq_iff_eq.mpr same)

/-- **The search ends** at the first candidate that is free, after one statement for each
candidate so far, or raises, and leaves the world as it is. -/
theorem pick_ends (request : UserRequest) (idle : world.sessions.pending = [])
    (candidates : List String) :
    (∃ taken slug, FirstFree world.db candidates taken slug ∧
      (pick candidates).Ends (effectOf 0 request) world (taken + 1) (.ok slug) world) ∨
    (∀ slug ∈ candidates, ¬world.db.Free slug) ∧ ∃ count error,
      (pick candidates).Ends (effectOf 0 request) world count (.error error) world := by
  induction candidates with
  | nil => exact .inr ⟨fun _ member => (List.not_mem_nil member).elim, 0, _, .raise⟩
  | cons candidate candidates ih =>
      have looks := exec_select request idle (.tenantBySlug candidate)
      by_cases free : world.db.Free candidate
      · rw [find_free free] at looks
        exact .inl ⟨0, candidate, ⟨rfl, free, fun _ member => (List.not_mem_nil member).elim⟩,
          .issue looks .ret⟩
      · obtain ⟨tenant, found⟩ := find_taken free
        rw [found] at looks
        rcases ih with ⟨taken, slug, first, ends⟩ | ⟨none, count, error, ends⟩
        · refine .inl ⟨taken + 1, slug, ⟨first.found, first.free, fun other member => ?_⟩,
            .issue looks ends⟩
          rcases List.mem_cons.mp member with rfl | before
          · exact free
          · exact first.before other before
        · refine .inr ⟨fun other member => ?_, count + 1, error, .issue looks ends⟩
          rcases List.mem_cons.mp member with rfl | later
          · exact free
          · exact none other later

end Runs

/-! ## What the call reserves -/

/-- The signup generates its slug: `slug` is omitted. -/
def TenantSignupRequest.generates (body : TenantSignupRequest) : Bool :=
  match body.slug with
  | some slug => slug.isEmpty
  | none => true

/-- The signup gets so far as to insert its tenant, with this slug and after so many
lookups. -/
def Reserves (body : TenantSignupRequest) (db : AccountDb) (lookups : Nat) (slug : String) : Prop :=
  if body.generates then
    ∃ taken, lookups = taken + 1 ∧ FirstFree db (slugCandidates (slugify body.salonName)) taken slug
  else lookups = 0 ∧ body.slug = some slug ∧ db.Free slug

theorem Reserves.free {body : TenantSignupRequest} {db : AccountDb} {lookups : Nat} {slug : String}
    (reserves : Reserves body db lookups slug) : db.Free slug := by
  unfold Reserves at reserves
  split at reserves
  · obtain ⟨_, _, first⟩ := reserves
    exact first.free
  · exact reserves.2.2

/-- What is reserved is determined by the request and the tenants that there are. -/
theorem Reserves.unique {body : TenantSignupRequest} {db : AccountDb} {lookups others : Nat}
    {slug other : String} (reserves : Reserves body db lookups slug)
    (reservesToo : Reserves body db others other) : lookups = others ∧ slug = other := by
  unfold Reserves at reserves reservesToo
  split at reserves
  · next generates =>
      rw [if_pos generates] at reservesToo
      obtain ⟨taken, rfl, first⟩ := reserves
      obtain ⟨takenToo, rfl, firstToo⟩ := reservesToo
      have same : taken = takenToo := by
        rcases Nat.lt_trichotomy taken takenToo with before | same | after
        · refine absurd first.free (firstToo.before slug ?_)
          exact List.mem_of_getElem? (by rw [List.getElem?_take_of_lt before]; exact first.found)
        · exact same
        · refine absurd firstToo.free (first.before other ?_)
          exact List.mem_of_getElem? (by rw [List.getElem?_take_of_lt after]; exact firstToo.found)
      subst same
      exact ⟨rfl, Option.some.inj (first.found.symm.trans firstToo.found)⟩
  · next given =>
      rw [if_neg given] at reservesToo
      exact ⟨reserves.1.trans reservesToo.1.symm,
        Option.some.inj (reserves.2.1.symm.trans reservesToo.2.1)⟩

/-! ## One statement after the other -/

section Statements

variable {request : UserRequest} {world : RequestWorld}

/-- The world after a row has been added to the transaction. -/
def flushed (world : RequestWorld) (draft : Nat → AccountWrite) : RequestWorld :=
  { world with
    sessions := ⟨world.db, [(0, draft world.nextId)]⟩
    nextId := world.nextId + 1 }

/-- The world after a row has been added and committed. -/
def saved (request : UserRequest) (world : RequestWorld) (draft : Nat → AccountWrite) :
    RequestWorld :=
  { world with
    sessions := ⟨world.db.apply (draft world.nextId), []⟩
    nextId := world.nextId + 1
    history := world.history ++ [.committed request [draft world.nextId]] }

theorem exec_insert (idle : world.sessions.pending = []) {draft : Nat → AccountWrite}
    (accepted : world.db.refuses (draft world.nextId) = false) :
    effectOf 0 request (.insert draft) world = (some world.nextId, flushed world draft) := by
  obtain ⟨⟨db, pending⟩, nextId, nextJti, clock, revoked, history⟩ := world
  obtain rfl : pending = [] := idle
  change (if db.refuses (draft nextId) then _ else _) = _
  have accepted : db.refuses (draft nextId) = false := accepted
  rw [accepted]
  rfl

theorem exec_commit (draft : Nat → AccountWrite) :
    effectOf 0 request .commit (flushed world draft) = ((), saved request world draft) := rfl

/-- A row is added and committed, in two statements. -/
theorem ends_save {β : Type} (idle : world.sessions.pending = []) (draft : Nat → AccountWrite)
    (accepted : world.db.refuses (draft world.nextId) = false)
    (next : Nat → AccountM β) {count : Nat}
    {result : Except AccountError β} {after : RequestWorld}
    (rest : (next world.nextId).Ends (effectOf 0 request) (saved request world draft) count result
      after) :
    (do
      let id ← add draft
      commit
      next id : AccountM β).Ends (effectOf 0 request) world (count + 2) result after := by
  refine .issue (exec_insert idle accepted) ?_
  exact .issue (exec_commit draft) rest

/-- A row is looked for. -/
theorem ends_select {β : Type} (idle : world.sessions.pending = []) (query : AccountQuery)
    {row : query.Row} (found : query.eval world.db = row)
    {next : query.Row → AccountM β} {count : Nat}
    {result : Except AccountError β} {after : RequestWorld}
    (rest : (next row).Ends (effectOf 0 request) world count result after) :
    (select query >>= next).Ends (effectOf 0 request) world (count + 1) result after :=
  .issue (found ▸ exec_select _ idle query) rest

/-- Looking for a row is not the last thing that happens. -/
theorem interrupt_select {β : Type} (idle : world.sessions.pending = []) (query : AccountQuery)
    {next : query.Row → AccountM β} {left : Nat} :
    (select query >>= next).interrupt (effectOf 0 request) .database (left + 1) world =
      (next (query.eval world.db)).interrupt (effectOf 0 request) .database left world :=
  Program.interrupt_issue (exec_select _ idle query)

theorem interrupt_insert {β : Type} (idle : world.sessions.pending = [])
    (draft : Nat → AccountWrite)
    (accepted : world.db.refuses (draft world.nextId) = false) {next : Option Nat → AccountM β}
    {left : Nat} :
    (insert draft >>= next).interrupt (effectOf 0 request) .database (left + 1) world =
      (next (some world.nextId)).interrupt (effectOf 0 request) .database left
        (flushed world draft) :=
  Program.interrupt_issue (exec_insert idle accepted)

/-- A row is added, and after that committed. -/
theorem interrupt_add {β : Type} (idle : world.sessions.pending = []) (draft : Nat → AccountWrite)
    (accepted : world.db.refuses (draft world.nextId) = false) {next : Nat → AccountM β}
    {left : Nat} :
    (add draft >>= next).interrupt (effectOf 0 request) .database (left + 1) world =
      (next world.nextId).interrupt (effectOf 0 request) .database left (flushed world draft) := by
  rw [add, bind_assoc, interrupt_insert idle draft accepted]
  rfl

theorem interrupt_commit {β : Type} (draft : Nat → AccountWrite) {next : Unit → AccountM β}
    {left : Nat} :
    (commit >>= next).interrupt (effectOf 0 request) .database (left + 1) (flushed world draft) =
      (next ()).interrupt (effectOf 0 request) .database left (saved request world draft) :=
  Program.interrupt_issue (exec_commit draft)

end Statements

/-! ## The call from the tenant on -/

/-- The primary keys come from a sequence that is ahead of them, and users belong to
tenants that are there. -/
structure AccountDb.Keyed (db : AccountDb) (nextId : Nat) : Prop where
  tenants : ∀ row ∈ db.tenants, row.id < nextId
  users : ∀ row ∈ db.users, row.id < nextId ∧ row.tenantId < nextId

theorem find_append_of_none {α : Type} {rows : List α} {row : α} {test : α → Bool}
    (others : ∀ other ∈ rows, ¬test other = true) (fits : test row = true) :
    (rows ++ [row]).find? test = some row := by
  rw [List.find?_append, List.find?_eq_none.mpr others, Option.none_or, List.find?_singleton,
    if_pos fits]

section Steps

variable {request : UserRequest} {world : RequestWorld}

/-- The row of a tenant. -/
def newTenant (slug name : String) (id : Nat) : Tenant := { id, slug, name, isActive := true }

def newUser (cfg : AccountSettings) (userData : UserCreate) (tenantId : Nat)
    (role : Role) (id : Nat) :
    User where
  id := id
  tenantId := tenantId
  email := userData.email
  hashedPassword := cfg.hashPassword userData.password
  role := role

theorem newTenant_accepted {slug name : String} (free : world.db.Free slug) :
    world.db.refuses (.insertTenant (newTenant slug name world.nextId)) = false :=
  List.any_eq_false.mpr fun row member same => free row member (beq_iff_eq.mp same)

/-- **A tenant with a free slug** is inserted and committed, and read again. -/
theorem createTenant_ends (request : UserRequest) (idle : world.sessions.pending = [])
    (name : String)
    (keyed : world.db.Keyed world.nextId) {slug : String} (free : world.db.Free slug) :
    (createTenant slug name).Ends (effectOf 0 request) world 4
      (.ok (newTenant slug name world.nextId))
      (saved request world fun id => .insertTenant (newTenant slug name id)) := by
  refine ends_select idle (.tenantBySlug slug) (find_free free) ?_
  refine ends_save idle (fun id => .insertTenant (newTenant slug name id))
    (newTenant_accepted free) _ ?_
  have found : AccountQuery.eval (.tenant world.nextId)
      (saved request world fun id => .insertTenant (newTenant slug name id)).db =
        some (newTenant slug name world.nextId) := by
    refine find_append_of_none (fun row member same => ?_) (beq_self_eq_true world.nextId)
    exact absurd (beq_iff_eq.mp same) (Nat.ne_of_lt (keyed.tenants row member))
  exact ends_select rfl (.tenant world.nextId) found .ret

/-- A tenant whose slug is taken is refused, and nothing has happened. -/
theorem createTenant_refused (request : UserRequest) (idle : world.sessions.pending = [])
    (name : String)
    {slug : String}
    (taken : ¬world.db.Free slug) :
    ∃ error, (createTenant slug name).Ends (effectOf 0 request) world 1 (.error error) world := by
  obtain ⟨tenant, found⟩ := find_taken taken
  exact ⟨_, ends_select idle (.tenantBySlug slug) found .raise⟩

/-- **A user with a new address** is inserted and committed, and read again. -/
theorem createUser_ends (idle : world.sessions.pending = []) (cfg : AccountSettings)
    (userData : UserCreate) (role : Role) {tenantId : Nat}
    (keyed : ∀ row ∈ world.db.users, row.id < world.nextId)
    (unknown : ∀ row ∈ world.db.users, row.tenantId ≠ tenantId) :
    (createUser cfg userData tenantId role).Ends (effectOf 0 request) world 4
      (.ok (newUser cfg userData tenantId role world.nextId))
      (saved request world fun id => .insertUser (newUser cfg userData tenantId role id)) := by
  have none : AccountQuery.eval (.userByEmail userData.email tenantId) world.db = none := by
    refine List.find?_eq_none.mpr fun row member same => ?_
    rw [Bool.and_eq_true, beq_iff_eq, beq_iff_eq] at same
    exact unknown row member same.2
  refine ends_select idle (.userByEmail userData.email tenantId) none ?_
  have accepted : world.db.refuses
      (.insertUser (newUser cfg userData tenantId role world.nextId)) = false := by
    refine List.any_eq_false.mpr fun row member same => ?_
    rw [Bool.and_eq_true, beq_iff_eq] at same
    exact unknown row member same.1
  refine ends_save idle (fun id => .insertUser (newUser cfg userData tenantId role id)) accepted
    _ ?_
  have found : AccountQuery.eval (.userByPrimaryKey world.nextId)
      (saved request world fun id => .insertUser (newUser cfg userData tenantId role id)).db =
        some (newUser cfg userData tenantId role world.nextId) := by
    refine find_append_of_none (fun row member same => ?_) (beq_self_eq_true world.nextId)
    exact absurd (beq_iff_eq.mp same) (Nat.ne_of_lt (keyed row member))
  exact ends_select rfl (.userByPrimaryKey world.nextId) found .ret

/-- **The tenant is set up** with its salon, its user and the record, and the tenants stay
what they are. -/
theorem setUpTenant_ends (request : UserRequest) (idle : world.sessions.pending = [])
    (cfg : AccountSettings)
    (body : TenantSignupRequest) (tenant : Tenant)
    (keyed : ∀ row ∈ world.db.users, row.id < world.nextId)
    (unknown : ∀ row ∈ world.db.users, row.tenantId ≠ tenant.id) :
    ∃ user after, (setUpTenant cfg body tenant).Ends (effectOf 0 request) world 8 (.ok user) after ∧
      user.tenantId = tenant.id ∧ after.db.tenants = world.db.tenants := by
  let salon : Nat → AccountWrite := fun id => .insertSalon
    { id, tenantId := tenant.id, name := body.salonName, timezone := "Europe/Warsaw" }
  let audit : Nat → AccountWrite := fun id => .insertAudit
    { id, tenantId := tenant.id, adminId := none, action := .tenantCreated,
      source := some "self_signup" }
  have opened : (createFirstSalon tenant.id body.salonName "Europe/Warsaw").Ends
    (effectOf 0 request)
      world 2 (.ok ()) (saved request world salon) :=
    ends_save idle salon rfl (fun _ => pure ()) .ret
  have idleToo : (saved request world salon).sessions.pending = [] := rfl
  have keyedToo : ∀ row ∈ (saved request world salon).db.users,
      row.id < (saved request world salon).nextId :=
    fun row member => Nat.lt_succ_of_lt (keyed row member)
  have recorded : ∀ (user : User) (world : RequestWorld), world.sessions.pending = [] →
      (do
        createAuditLog tenant.id none .tenantCreated none (some "self_signup")
        commit
        return user : AccountM User).Ends (effectOf 0 request) world 2 (.ok user)
          (saved request world audit) := by
    intro user world idle
    unfold createAuditLog
    rw [bind_assoc]
    exact ends_save idle audit rfl (fun _ => pure user) .ret
  have ends : (setUpTenant cfg body tenant).Ends (effectOf 0 request) world (2 + (4 + 2))
    (.ok (newUser cfg
      ⟨body.adminEmail, body.adminPassword⟩ tenant.id .admin (world.nextId + 1))) _ :=
    opened.bind ((createUser_ends idleToo cfg ⟨body.adminEmail, body.adminPassword⟩ .admin
      keyedToo unknown).bind (recorded _ _ rfl))
  exact ⟨_, _, ends, rfl, rfl⟩

/-! ## The call as a whole -/

/-- **What is reserved ends the lookups.** -/
theorem resolveSlug_ends (request : UserRequest) (idle : world.sessions.pending = [])
    (body : TenantSignupRequest) :
    (∃ lookups slug, Reserves body world.db lookups slug ∧
      (resolveSlug body).Ends (effectOf 0 request) world lookups (.ok slug) world) ∨
    (∀ lookups slug, ¬Reserves body world.db lookups slug) ∧ ∃ count result,
      (resolveSlug body).Ends (effectOf 0 request) world count result world ∧
        ∀ slug, result = .ok slug → ¬world.db.Free slug := by
  by_cases generates : body.generates = true
  · have searches : resolveSlug body = pick (slugCandidates (slugify body.salonName)) := by
      rw [← uniqueSlug_eq]
      unfold TenantSignupRequest.generates at generates
      unfold resolveSlug
      split
      · next slug given =>
          rw [given] at generates
          exact if_pos generates
      · rfl
    rw [searches]
    rcases pick_ends request idle (slugCandidates (slugify body.salonName)) with
      ⟨taken, slug, first, ends⟩ | ⟨none, count, error, ends⟩
    · refine .inl ⟨taken + 1, slug, ?_, ends⟩
      rw [Reserves, if_pos generates]
      exact ⟨taken, rfl, first⟩
    · refine .inr ⟨fun lookups slug reserves => ?_, count, _, ends, nofun⟩
      rw [Reserves, if_pos generates] at reserves
      obtain ⟨taken, _, first⟩ := reserves
      exact none slug (List.mem_of_getElem? first.found) first.free
  · obtain ⟨slug, given, filled⟩ : ∃ slug, body.slug = some slug ∧ ¬slug.isEmpty = true := by
      unfold TenantSignupRequest.generates at generates
      split at generates
      · next slug given => exact ⟨slug, given, generates⟩
      · exact absurd rfl generates
    have takes : resolveSlug body = pure slug := by
      unfold resolveSlug
      rw [given]
      exact if_neg filled
    rw [takes]
    by_cases free : world.db.Free slug
    · refine .inl ⟨0, slug, ?_, .ret⟩
      rw [Reserves, if_neg generates]
      exact ⟨rfl, given, free⟩
    · refine .inr ⟨fun lookups other reserves => free ?_, 0, _, .ret, ?_⟩
      · rw [Reserves, if_neg generates, given, Option.some.injEq] at reserves
        exact reserves.2.1 ▸ reserves.2.2
      · rintro other same
        cases same
        exact free

/-- Lookups change nothing, wherever they are interrupted. -/
theorem pick_interrupt (idle : world.sessions.pending = []) (candidates : List String)
    (stop : Nat) :
    ((pick candidates).interrupt (effectOf 0 request) .database stop world).2 = world := by
  induction candidates generalizing stop with
  | nil => rfl
  | cons candidate candidates ih =>
      cases stop with
      | zero => rfl
      | succ left =>
          rw [pick, interrupt_select idle]
          split
          · cases left <;> rfl
          · exact ih left

theorem resolveSlug_interrupt (idle : world.sessions.pending = []) (body : TenantSignupRequest)
    (stop : Nat) :
    ((resolveSlug body).interrupt (effectOf 0 request) .database stop world).2 = world := by
  unfold resolveSlug
  split
  · split
    · rw [uniqueSlug_eq]
      exact pick_interrupt idle _ stop
    · cases stop <;> rfl
  · rw [uniqueSlug_eq]
    exact pick_interrupt idle _ stop

/-- No statement removes a tenant. -/
theorem effectOf_tenants {row : Tenant} (stmt : AccountStmt) (world : RequestWorld)
    (member : row ∈ world.db.tenants) : row ∈ (effectOf 0 request stmt world).2.db.tenants := by
  have applied : ∀ (db : AccountDb) (writes : List AccountWrite), row ∈ db.tenants →
      row ∈ (Sessions.applyAll db writes).tenants := by
    intro db writes member
    induction writes generalizing db with
    | nil => exact member
    | cons write writes ih =>
        refine ih (db.apply write) ?_
        cases write with
        | insertTenant other => exact List.mem_append_left _ member
        | _ => exact member
  cases stmt with
  | commit => exact applied _ _ member
  | insert draft =>
      unfold effectOf
      dsimp only
      split <;> exact member
  | update write =>
      unfold effectOf
      dsimp only
      split <;> exact member
  | setNx jti ttl =>
      unfold effectOf
      dsimp only
      split <;> exact member
  | _ => exact member

end Steps

section Whole

variable {cfg : AccountSettings} {body : TenantSignupRequest} {request : UserRequest}
  {world : RequestWorld} {stop : Nat}

theorem signup_eq (enabled : cfg.registrationEnabled = true) :
    signup cfg body = resolveSlug body >>= fun slug =>
      createTenant slug body.salonName >>= setUpTenant cfg body := by
  unfold signup
  rw [enabled]
  rfl

theorem signup_closed (closed : ¬cfg.registrationEnabled = true) :
    signup cfg body = throw (.forbidden "Registration is disabled") := by
  unfold signup
  rw [Bool.not_eq_true] at closed
  rw [closed]
  rfl

/-- A call that is interrupted while it looks for its slug leaves nothing behind. -/
theorem interrupted_looking {β : Type} (idle : world.sessions.pending = [])
    {next : String → AccountM β}
    (inside : stop < (resolveSlug body).steps (effectOf 0 request) world) :
    ∃ error, (resolveSlug body >>= next).interrupt (effectOf 0 request) .database stop world =
      (.error error, world) := by
  obtain ⟨error, interrupted⟩ : ∃ error,
      (resolveSlug body >>= next).interrupt (effectOf 0 request) .database stop world =
        (.error error,
          ((resolveSlug body).interrupt (effectOf 0 request) .database stop world).2) :=
    Program.interrupt_bind_of_lt inside
  rw [resolveSlug_interrupt idle] at interrupted
  exact ⟨error, interrupted⟩

/-- **A signup that reserves no slug** raises and leaves nothing behind. -/
theorem unreserved_raises (request : UserRequest) (idle : world.sessions.pending = [])
    (stop : Option Nat)
    (refused : cfg.registrationEnabled = true →
      ∀ lookups slug, ¬Reserves body world.db lookups slug) :
    ∃ error, (signup cfg body).attempt (effectOf 0 request) .database stop world =
      (.error error, world) := by
  by_cases enabled : cfg.registrationEnabled = true
  · rw [signup_eq enabled]
    rcases resolveSlug_ends request idle body with
      ⟨lookups, slug, reserves, -⟩ | ⟨-, count, result, ends, taken⟩
    · exact absurd reserves (refused enabled lookups slug)
    cases stop with
    | none =>
        cases result with
        | error error => exact ⟨error, ends.bind_error.run⟩
        | ok slug =>
            obtain ⟨error, refuses⟩ :=
              createTenant_refused request idle body.salonName (taken slug rfl)
            exact ⟨error, (ends.bind refuses.bind_error).run⟩
    | some stop =>
        change ∃ error, (resolveSlug body >>= _).interrupt _ _ stop world = _
        by_cases inside : stop < (resolveSlug body).steps (effectOf 0 request) world
        · exact interrupted_looking idle inside
        rw [Nat.not_lt] at inside
        cases result with
        | error error => exact ⟨error, Program.interrupt_bind_of_error ends.run inside⟩
        | ok slug =>
            obtain ⟨error, refuses⟩ := createTenant_refused request idle body.salonName
              (taken slug rfl)
            rw [Program.interrupt_bind_of_ok ends.run inside]
            cases stop - (resolveSlug body).steps (effectOf 0 request) world with
            | zero => exact ⟨.database, rfl⟩
            | succ left =>
                refine ⟨error, Program.interrupt_bind_of_error refuses.run ?_⟩
                rw [refuses.steps]
                exact Nat.succ_le_succ (Nat.zero_le left)
  · rw [signup_closed enabled]
    cases stop with
    | none => exact ⟨_, rfl⟩
    | some count => exact ⟨_, rfl⟩

/-- The lookups that a signup needs, if it reserves its slug. -/
theorem Reserves.ends (request : UserRequest) (idle : world.sessions.pending = []) {lookups : Nat}
    {slug : String}
    (reserves : Reserves body world.db lookups slug) :
    (resolveSlug body).Ends (effectOf 0 request) world lookups (.ok slug) world := by
  rcases resolveSlug_ends request idle body with
    ⟨lookupsToo, slugToo, reservesToo, ends⟩ | ⟨none, -⟩
  · obtain ⟨rfl, rfl⟩ := reserves.unique reservesToo
    exact ends
  · exact absurd reserves (none lookups slug)

/-- **A signup that reserves its slug** and is not interrupted returns. -/
theorem reserved_ends (request : UserRequest) (idle : world.sessions.pending = [])
    (keyed : world.db.Keyed world.nextId)
    (enabled : cfg.registrationEnabled = true) {lookups : Nat} {slug : String}
    (reserves : Reserves body world.db lookups slug) :
    ∃ user after, (signup cfg body).Ends (effectOf 0 request) world (lookups + 12)
      (.ok user) after ∧
      user.tenantId = world.nextId ∧
        after.db.tenants = world.db.tenants ++ [newTenant slug body.salonName world.nextId] := by
  rw [signup_eq enabled]
  have created := createTenant_ends request idle body.salonName keyed reserves.free
  have idleToo : (saved request world fun id =>
      .insertTenant (newTenant slug body.salonName id)).sessions.pending = [] := rfl
  have users : ∀ row ∈ world.db.users, row.id < world.nextId + 1 :=
    fun row member => Nat.lt_succ_of_lt (keyed.users row member).1
  have unknown : ∀ row ∈ world.db.users, row.tenantId ≠ world.nextId :=
    fun row member => Nat.ne_of_lt (keyed.users row member).2
  obtain ⟨user, after, ends, named, tenants⟩ := setUpTenant_ends request idleToo cfg body
    (newTenant slug body.salonName world.nextId) users unknown
  exact ⟨user, after, (reserves.ends request idle).bind (created.bind ends), named, tenants⟩

/-- The check of the slug, the insertion of the tenant and its commit. -/
theorem createTenant_interrupt {β : Type} (request : UserRequest)
    (idle : world.sessions.pending = []) (name : String) {slug : String}
    (free : world.db.Free slug) (next : Tenant → AccountM β) :
    ∃ rest : Nat → AccountM β, ∀ left,
      (createTenant slug name >>= next).interrupt (effectOf 0 request) .database (left + 1) world =
        (do
          let id ← add fun id => .insertTenant (newTenant slug name id)
          commit
          rest id).interrupt (effectOf 0 request) .database left world := by
  refine ⟨fun id => do next (← orRaise .database (← select (.tenant id))), fun left => ?_⟩
  rw [createTenant, bind_assoc, interrupt_select idle, find_free free]
  congr 1
  change (add (fun id => .insertTenant (newTenant slug name id)) >>= fun id => commit >>= fun _ =>
    select (.tenant id) >>= fun found => orRaise .database found) >>= next = _
  rw [bind_assoc]
  rfl

/-- The lookups, the check and the insertion of the tenant commit nothing. -/
theorem interrupted_early (idle : world.sessions.pending = [])
    (enabled : cfg.registrationEnabled = true) {lookups : Nat} {slug : String}
    (reserves : Reserves body world.db lookups slug) (early : stop < lookups + 3) :
    ((signup cfg body).interrupt (effectOf 0 request) .database stop world).2.db = world.db := by
  rw [signup_eq enabled]
  have looks := reserves.ends request idle
  by_cases inside : stop < lookups
  · obtain ⟨error, interrupted⟩ := interrupted_looking idle (looks.steps.symm ▸ inside)
    rw [interrupted]
  · rw [Program.interrupt_bind_of_ok looks.run (looks.steps.symm ▸ Nat.le_of_not_lt inside),
      looks.steps]
    obtain ⟨left, few, rfl⟩ : ∃ left < 3, stop = lookups + left :=
      ⟨stop - lookups, by omega, by omega⟩
    rw [Nat.add_sub_cancel_left]
    cases left with
    | zero => rfl
    | succ left =>
        obtain ⟨rest, goesOn⟩ := createTenant_interrupt request idle body.salonName
          reserves.free (setUpTenant cfg body)
        rw [goesOn]
        cases left with
        | zero => rfl
        | succ left =>
            obtain rfl : left = 0 := by omega
            rw [interrupt_add idle _ (newTenant_accepted reserves.free)]
            rfl

/-- What is interrupted after its first commit leaves its tenant behind. -/
theorem interrupted_late (idle : world.sessions.pending = [])
    (enabled : cfg.registrationEnabled = true) {lookups : Nat} {slug : String}
    (reserves : Reserves body world.db lookups slug) (late : lookups + 3 ≤ stop) :
    newTenant slug body.salonName world.nextId ∈
      ((signup cfg body).interrupt (effectOf 0 request) .database stop world).2.db.tenants := by
  rw [signup_eq enabled]
  have looks := reserves.ends request idle
  obtain ⟨left, rfl⟩ : ∃ left, stop = lookups + (left + 3) := ⟨stop - lookups - 3, by omega⟩
  rw [Program.interrupt_bind_of_ok looks.run (by rw [looks.steps]; omega), looks.steps,
    Nat.add_sub_cancel_left]
  obtain ⟨rest, goesOn⟩ := createTenant_interrupt request idle body.salonName
    reserves.free (setUpTenant cfg body)
  rw [goesOn, interrupt_add idle _ (newTenant_accepted reserves.free), interrupt_commit]
  exact Program.interrupt_keeps (fun stmt world member => effectOf_tenants stmt world member)
    (List.mem_append_right _ (List.mem_singleton_self _))

end Whole

/-! ## The theorem -/

/-- The signup of a request on a database, interrupted after so many statements or not. -/
def signupAttempt (cfg : AccountSettings) (body : TenantSignupRequest) (db : AccountDb)
    (nextId clock : Nat) (stop : Option Nat) : Except AccountError User × RequestWorld :=
  (signup cfg body).attempt (effectOf 0 (.signup body)) .database stop
    (AccountWorld.start db nextId clock)

/-- The slug of a tenant is one that the system accepts elsewhere. -/
structure Usable (db : AccountDb) (tenant : Tenant) : Prop where
  pattern : tenantSlugPattern tenant.slug = true
  length : 2 ≤ tenant.slug.length ∧ tenant.slug.length ≤ 63
  unique : ∀ row ∈ db.tenants, row.slug = tenant.slug → row = tenant
  login : setLoginTenantSlug tenant.slug = true

/-- A signup that raises leaves no row behind, and one that generates its slug and returns
leaves a tenant with a usable one. -/
structure SignupHolds (body : TenantSignupRequest) (db : AccountDb)
    (outcome : Except AccountError User × RequestWorld) : Prop where
  allOrNothing : ∀ error, outcome.1 = .error error → outcome.2.db = db
  usable : body.slug = none → ∀ user, outcome.1 = .ok user →
    ∃ tenant ∈ outcome.2.db.tenants, tenant.id = user.tenantId ∧ Usable outcome.2.db tenant

/-- The call is not interrupted between the end of its first commit and its own end, and if
it comes to its end, a generated slug has a length that fits. -/
structure SafeSignup (body : TenantSignupRequest) (stop : Option Nat) (lookups : Nat)
    (slug : String) :
    Prop where
  uninterrupted : ∀ count, stop = some count → count < lookups + 3 ∨ lookups + 12 < count
  fitting : body.slug = none → (∀ count, stop = some count → lookups + 12 < count) →
    2 ≤ slug.length ∧ slug.length ≤ 63

/-- **The tenant of a generated slug is usable** just when the length of the slug fits. -/
theorem usable_iff {body : TenantSignupRequest} {db after : AccountDb} {nextId lookups : Nat}
    {slug : String} (keyed : db.Keyed nextId) (omitted : body.slug = none)
    (reserves : Reserves body db lookups slug)
    (tenants : after.tenants = db.tenants ++ [newTenant slug body.salonName nextId]) :
    (∃ tenant ∈ after.tenants, tenant.id = nextId ∧ Usable after tenant) ↔
      2 ≤ slug.length ∧ slug.length ≤ 63 := by
  have mine : ∀ tenant ∈ after.tenants, tenant.id = nextId →
      tenant = newTenant slug body.salonName nextId := by
    intro tenant member named
    rw [tenants, List.mem_append, List.mem_singleton] at member
    rcases member with old | new
    · exact absurd named (Nat.ne_of_lt (keyed.tenants tenant old))
    · exact new
  constructor
  · rintro ⟨tenant, member, named, usable⟩
    obtain rfl := mine tenant member named
    exact usable.length
  · intro length
    have generates : body.generates = true := by
      rw [TenantSignupRequest.generates, omitted]
    have first := reserves
    rw [Reserves, if_pos generates] at first
    obtain ⟨taken, -, first⟩ := first
    have pattern := candidates_pattern body.salonName slug (List.mem_of_getElem? first.found)
    refine ⟨newTenant slug body.salonName nextId, ?_, rfl, pattern,
      length, fun row member same => ?_, ?_⟩
    · rw [tenants]
      exact List.mem_append_right _ (List.mem_singleton_self _)
    · rw [tenants, List.mem_append, List.mem_singleton] at member
      rcases member with old | new
      · exact absurd same (first.free row old)
      · exact new
    · change setLoginTenantSlug slug = true
      rw [setLoginTenantSlug, pattern, decide_eq_false (Nat.not_lt.mpr length.2)]
      rfl

/-- **A signup is all or nothing and its slug is usable** just when it reserves no slug, or
is not interrupted after its first commit and generates a slug whose length fits. -/
theorem signup_holds_iff (cfg : AccountSettings) (body : TenantSignupRequest) (db : AccountDb)
    (nextId clock : Nat) (stop : Option Nat) (keyed : db.Keyed nextId) :
    SignupHolds body db (signupAttempt cfg body db nextId clock stop) ↔
      ∀ lookups slug, cfg.registrationEnabled = true → Reserves body db lookups slug →
        SafeSignup body stop lookups slug := by
  have idle : (AccountWorld.start db nextId clock : RequestWorld).sessions.pending = [] := rfl
  by_cases reserved : ∃ lookups slug, cfg.registrationEnabled = true ∧ Reserves body db lookups slug
  · obtain ⟨lookups, slug, enabled, reserves⟩ := reserved
    have only : (∀ others other, cfg.registrationEnabled = true → Reserves body db others other →
        SafeSignup body stop others other) ↔ SafeSignup body stop lookups slug := by
      refine ⟨fun safe => safe lookups slug enabled reserves,
        fun safe others other _ reservesToo => ?_⟩
      obtain ⟨rfl, rfl⟩ := reserves.unique reservesToo
      exact safe
    rw [only]
    obtain ⟨user, after, ends, named, tenants⟩ :=
      reserved_ends (.signup body) idle keyed enabled reserves
    have named : user.tenantId = nextId := named
    have usable := fun omitted => usable_iff keyed omitted reserves tenants
    -- A call that comes to its end returns the user of its tenant.
    have completed : (∀ count, stop = some count → lookups + 12 < count) →
        (SignupHolds body db (signupAttempt cfg body db nextId clock stop) ↔
          SafeSignup body stop lookups slug) := by
      intro whole
      have returns : signupAttempt cfg body db nextId clock stop = (.ok user, after) := by
        cases stop with
        | none => exact ends.run
        | some count =>
            refine (Program.interrupt_of_steps_lt ?_).trans ends.run
            rw [ends.steps]
            exact whole count rfl
      rw [returns]
      constructor
      · rintro ⟨-, leaves⟩
        refine ⟨fun count same => .inr (whole count same), fun omitted _ => ?_⟩
        exact (usable omitted).mp (named ▸ leaves omitted user rfl)
      · rintro ⟨-, fitting⟩
        refine ⟨fun _ raised => (nomatch raised), fun omitted found same => ?_⟩
        obtain rfl := Except.ok.inj same
        exact named ▸ (usable omitted).mpr (fitting omitted whole)
    cases stop with
    | none => exact completed nofun
    | some count =>
        rcases Nat.lt_or_ge (lookups + 12) count with later | inside
        · refine completed fun other same => ?_
          cases same
          exact later
        obtain ⟨error, raised⟩ : ∃ error,
            (signupAttempt cfg body db nextId clock (some count)).1 = .error error :=
          Program.interrupt_raises (ends.steps.symm ▸ inside)
        constructor
        · rintro ⟨nothing, -⟩
          refine ⟨fun other same => ?_, fun _ whole => absurd (whole count rfl)
            (Nat.not_lt.mpr inside)⟩
          cases same
          rcases Nat.lt_or_ge count (lookups + 3) with early | late
          · exact .inl early
          have left : newTenant slug body.salonName nextId ∈
              (signupAttempt cfg body db nextId clock (some count)).2.db.tenants :=
            interrupted_late idle enabled reserves late
          rw [nothing error raised] at left
          exact absurd rfl (reserves.free _ left)
        · rintro ⟨uninterrupted, -⟩
          refine ⟨fun _ _ => ?_, fun _ user returned => nomatch raised.symm.trans returned⟩
          rcases uninterrupted count rfl with early | later
          · exact interrupted_early idle enabled reserves early
          · exact absurd later (Nat.not_lt.mpr inside)
  · have refused : cfg.registrationEnabled = true → ∀ lookups slug,
      ¬Reserves body db lookups slug :=
      fun enabled lookups slug reserves => reserved ⟨lookups, slug, enabled, reserves⟩
    obtain ⟨error, raises⟩ := unreserved_raises (.signup body) idle stop refused
    refine iff_of_true ?_ fun lookups slug enabled reserves =>
      absurd reserves (refused enabled lookups slug)
    unfold signupAttempt
    rw [raises]
    exact ⟨fun _ _ => rfl, fun _ _ returned => nomatch returned⟩

/-- The owner of a salon with this name. -/
def ownerOf (salonName : String) : TenantSignupRequest where
  salonName := salonName
  slug := none
  adminEmail := "owner@example.com"
  adminPassword := "strong-password"

theorem glamourStudio_reserves :
    Reserves (ownerOf "Glamour Studio") AccountDb.empty 1 "glamour-studio" := by
  rw [Reserves, if_pos (by decide)]
  exact ⟨0, rfl, by decide +kernel, fun _ member => (List.not_mem_nil member).elim,
    fun _ member => (List.not_mem_nil member).elim⟩

theorem glamourStudio_signs_up :
    AccountDb.empty.Keyed 1 ∧ SignupHolds (ownerOf "Glamour Studio") AccountDb.empty
      (signupAttempt plainSettings (ownerOf "Glamour Studio") AccountDb.empty 1 0 none) := by
  have keyed : AccountDb.empty.Keyed 1 :=
    ⟨fun _ member => (List.not_mem_nil member).elim, fun _ member => (List.not_mem_nil member).elim⟩
  refine ⟨keyed, (signup_holds_iff plainSettings _ _ 1 0 none keyed).mpr ?_⟩
  intro lookups slug _ reserves
  obtain ⟨rfl, rfl⟩ := glamourStudio_reserves.unique reserves
  exact ⟨nofun, fun _ _ => by decide⟩

/-- A signup that is interrupted after its first commit leaves a tenant behind, and a salon
with a name of one letter gets a slug of one letter. -/
theorem signup_leaves_a_tenant_or_a_short_slug :
    ¬SignupHolds (ownerOf "Glamour Studio") AccountDb.empty
        (signupAttempt plainSettings (ownerOf "Glamour Studio") AccountDb.empty 1 0 (some 4)) ∧
      ¬SignupHolds (ownerOf "A") AccountDb.empty
        (signupAttempt plainSettings (ownerOf "A") AccountDb.empty 1 0 none) := by
  constructor
  · rintro ⟨nothing, -⟩
    have raised : (signupAttempt plainSettings (ownerOf "Glamour Studio") AccountDb.empty 1 0
        (some 4)).1 = .error .database := by
      decide +kernel
    have left : (signupAttempt plainSettings (ownerOf "Glamour Studio") AccountDb.empty 1 0
        (some 4)).2.db.tenants = [newTenant "glamour-studio" "Glamour Studio" 1] := by
      decide +kernel
    rw [nothing _ raised] at left
    cases left
  · rintro ⟨-, leaves⟩
    have returned : (signupAttempt plainSettings (ownerOf "A") AccountDb.empty 1 0 none).1 =
        .ok (newUser plainSettings ⟨"owner@example.com", "strong-password"⟩ 1 .admin 3) := by
      decide +kernel
    have tenants : (signupAttempt plainSettings (ownerOf "A") AccountDb.empty 1 0
      none).2.db.tenants =
        [newTenant "a" "A" 1] := by
      decide +kernel
    obtain ⟨tenant, member, -, usable⟩ := leaves rfl _ returned
    rw [tenants, List.mem_singleton] at member
    subst member
    exact absurd usable.length.1 (by decide)

end AppointmentVoice.Accounts
