import AppointmentVoice.Accounts.ListRequests
import AppointmentVoice.Concurrency.Paths

/-!
# Cached lists of users

A request reads the version of the cache before it reads the users, and the version is a
part of the key of its page, so a slow request writes its page where nobody looks any more
who comes after the invalidation.  What it may show too old is the acting user alone: his
row was loaded before the version was read, and the session gives the same object back.

As long as the acting user that a query finds shows as he did with one of the mutations that
the version counts or after it, a page that is listed after an invalidation has its mutation.

**What is fresh.** A page is fresh for its key if it reflects every mutation that the version
counts (`Fresh`); every statement and every step keep the cache fresh in which the acting user
is up to date (`Coherent.issue`, `Coherent.step`).

**The result.** `listed_after_invalidation`; a slow request caches what is too old of the
acting user (`stale_admin_is_cached`).
-/

set_option autoImplicit false

namespace AppointmentVoice.Accounts.Listing

open Concurrency Program

/-! ## Pages that have a mutation -/

/-- The row is one of a state with the commit. -/
def CommittedFrom (tables : List (List User)) (commit : Nat) (row : User) : Prop :=
  ∃ number table, commit ≤ number ∧ tables[number]? = some table ∧ row ∈ table

/-- The page has a mutation: its users are selected from a state with its commit, and each
is shown as in such a state. -/
def Reflects (comparisons : Comparisons) (codec : CursorCodec) (tables : List (List User))
    (commit tenantId : Nat) (filters : UserFilters) (args : PageArgs)
    (page : UserListPage) : Prop :=
  ∃ query, pageQuery codec tenantId filters args = .ok query ∧
    ∃ number table, commit ≤ number ∧ tables[number]? = some table ∧
      ∃ shown : List User, page = pageOf codec filters args shown ∧
        shown.map (·.id) = (query.eval comparisons table).map (·.id) ∧
          ∀ user ∈ shown, CommittedFrom tables commit user

/-- The page has the mutations that the version of its key counts. -/
def Fresh (comparisons : Comparisons) (codec : CursorCodec) (world : ListWorld)
    (key : UsersCacheKey)
    (page : UserListPage) : Prop :=
  ∀ version commit, (key.tenantId, version, commit) ∈ world.invalidations → version ≤ key.version →
    Reflects comparisons codec world.tables commit key.tenantId key.params.filters
      key.params.args page

section Reflects

variable {comparisons : Comparisons} {codec : CursorCodec} {tables : List (List User)}
  {commit tenantId : Nat} {filters : UserFilters} {args : PageArgs} {page : UserListPage}

theorem CommittedFrom.append {row : User} (committed : CommittedFrom tables commit row)
    (more : List (List User)) : CommittedFrom (tables ++ more) commit row := by
  obtain ⟨number, table, from', there, member⟩ := committed
  obtain ⟨inside, -⟩ := List.getElem?_eq_some_iff.mp there
  exact ⟨number, table, from', (List.getElem?_append_left inside).trans there, member⟩

/-- Later commits leave it as it is. -/
theorem Reflects.append (reflects : Reflects comparisons codec tables commit tenantId
    filters args page)
    (more : List (List User)) :
    Reflects comparisons codec (tables ++ more) commit tenantId filters args page := by
  obtain ⟨query, asked, number, table, from', there, shown, isPage, ids, rows⟩ := reflects
  obtain ⟨inside, -⟩ := List.getElem?_eq_some_iff.mp there
  exact ⟨query, asked, number, table, from', (List.getElem?_append_left inside).trans there, shown,
    isPage, ids, fun user member => (rows user member).append more⟩

theorem reflects_normal :
    Reflects comparisons codec tables commit tenantId filters args.normal page ↔
    Reflects comparisons codec tables commit tenantId filters args page := by
  unfold Reflects
  rw [pageQuery_normal]
  simp only [pageOf_normal]

/-- Whoever is shown was so in a state with the commit. -/
theorem Reflects.shown (reflects : Reflects comparisons codec tables commit tenantId
    filters args page) :
    ∀ item ∈ page.items, ∃ row, CommittedFrom tables commit row ∧ serializeUser row = item := by
  obtain ⟨-, -, -, -, -, -, shown, rfl, -, rows⟩ := reflects
  intro item member
  obtain ⟨user, listed, rfl⟩ := List.mem_map.mp member
  exact ⟨user, rows user listed, rfl⟩

/-- What is shown is all that a page depends on. -/
theorem pageOf_congr {users others : List User}
    (same : users.map serializeUser = others.map serializeUser) :
    pageOf codec filters args users = pageOf codec filters args others := by
  have payload : ∀ user other, serializeUser user = serializeUser other →
      cursorPayload filters user = cursorPayload filters other := by
    intro user other agree
    obtain ⟨id, email, isActive, role, -⟩ := UserRead.mk.injEq .. ▸ agree
    have value : user.sortValue filters.sortBy = other.sortValue filters.sortBy := by
      cases filters.sortBy with
      | id => exact congrArg (SortValue.number ∘ Int.ofNat) id
      | email => exact congrArg SortValue.text email
      | role => exact congrArg SortValue.text role
      | isActive => exact congrArg SortValue.flag isActive
    rw [cursorPayload, cursorPayload, value, id]
  have cursor : users.getLast?.map (fun user => encodeCursor codec (cursorPayload filters user)) =
      others.getLast?.map fun user => encodeCursor codec (cursorPayload filters user) := by
    have lasts : users.getLast?.map serializeUser = others.getLast?.map serializeUser := by
      rw [← List.getLast?_map, ← List.getLast?_map, same]
    cases first : users.getLast? with
    | none =>
        rw [first, Option.map_none, eq_comm, Option.map_eq_none_iff] at lasts
        rw [lasts]
    | some user =>
        rw [first, Option.map_some, eq_comm, Option.map_eq_some_iff] at lasts
        obtain ⟨other, second, agree⟩ := lasts
        rw [second, Option.map_some, Option.map_some, payload user other agree.symm]
  have length : users.length = others.length := by
    rw [← List.length_map (f := serializeUser), same, List.length_map]
  rw [pageOf, pageOf, same, buildNextCursor, buildNextCursor, cursor, length]

end Reflects

/-! ## How the world goes on -/

/-- Tables and versions grow, and a new invalidation has a version that no key has yet. -/
structure Advances (before after : ListWorld) : Prop where
  tables : ∃ more, after.tables = before.tables ++ more
  versions : ∀ tenantId, before.versions tenantId ≤ after.versions tenantId
  recorded : ∀ entry ∈ before.invalidations, entry ∈ after.invalidations
  later : ∀ tenantId version commit, (tenantId, version, commit) ∈ after.invalidations →
    (tenantId, version, commit) ∈ before.invalidations ∨ before.versions tenantId < version

section Advances

variable {comparisons : Comparisons} {codec : CursorCodec} {before after world : ListWorld}

theorem Advances.of_same (tables : after.tables = before.tables)
    (versions : after.versions = before.versions)
    (recorded : after.invalidations = before.invalidations) : Advances before after where
  tables := ⟨[], tables.trans (List.append_nil _).symm⟩
  versions _ := versions ▸ Nat.le_refl _
  recorded _ member := recorded ▸ member
  later _ _ _ member := .inl (recorded ▸ member)

theorem Advances.commits (advances : Advances before after) :
    before.past.length ≤ after.past.length := by
  obtain ⟨more, tables⟩ := advances.tables
  have lengths := congrArg List.length tables
  rw [ListWorld.tables, ListWorld.tables, List.length_append, List.length_append,
    List.length_append, List.length_singleton, List.length_singleton] at lengths
  omega

theorem advances_execList (comparisons : Comparisons) (stmt : ListStmt) (world : ListWorld) :
    Advances world (execList comparisons stmt world).2 := by
  cases stmt with
  | commit change =>
      exact ⟨⟨[change world.users], rfl⟩, fun _ => Nat.le_refl _, fun _ member => member,
        fun _ _ _ member => .inl member⟩
  | incrementCacheVersion tenantId commit =>
      refine ⟨⟨[], (List.append_nil _).symm⟩, fun other => ?_, fun _ member =>
        List.mem_append_left _ member,
        fun other version number member => ?_⟩
      · change _ ≤ Function.update world.versions tenantId (world.versions tenantId + 1) other
        by_cases same : other = tenantId
        · subst same
          rw [Function.update_self]
          exact Nat.le_succ _
        · rw [Function.update_of_ne same]
      · refine (List.mem_append.mp member).imp id fun new => ?_
        cases List.mem_singleton.mp new
        exact Nat.lt_succ_self _
  | _ => exact .of_same rfl rfl rfl

theorem Passes.advances (passes : Passes before after) : Advances before after := by
  cases passes with
  | clock => exact .of_same rfl rfl rfl
  | expiry => exact .of_same rfl rfl rfl

/-- **A page stays as fresh as it was** for a key that is there already. -/
theorem Fresh.advances {key : UsersCacheKey} {page : UserListPage}
    (advances : Advances before after)
    (there : key.version ≤ before.versions key.tenantId)
    (fresh : Fresh comparisons codec before key page) :
    Fresh comparisons codec after key page := by
  intro version commit recorded counted
  obtain ⟨more, tables⟩ := advances.tables
  rw [tables]
  rcases advances.later _ _ _ recorded with old | new
  · exact (fresh version commit old counted).append more
  · exact absurd (counted.trans there) (Nat.not_le.mpr new)

end Advances

/-! ## What a request has read -/

/-- The acting user as loaded, the key that has been built, the page that has been read or
queried, and the commit of a mutation. -/
structure Reading where
  known : Option User := none
  key : Option UsersCacheKey := none
  page : Option UserListPage := none
  commit : Option Nat := none

/-- The key of a request under a version. -/
def ListParams.key (params : ListParams) (tenantId version : Nat) : UsersCacheKey :=
  ⟨tenantId, version,
    ⟨params.size, params.filters, params.cursor, if params.args.useOffset then params.args.skip
      else none⟩⟩

section Monitors

variable (codec : CursorCodec) (call : ListCall)

/-- The key of the request, and the page that it makes of the users. -/
def ListCall.key (version : Nat) : Option UsersCacheKey :=
  match call with
  | .listUsers token _ params => some (params.key token.tenantId version)
  | .mutateUsers _ _ => none

def ListCall.page (users : List User) : Option UserListPage :=
  match call with
  | .listUsers _ _ params => some (pageOf codec params.filters params.args users)
  | .mutateUsers _ _ => none

def ListCall.learn (reading : Reading) : Event ListSql → Reading
  | ⟨.loadUser _ _, known⟩ => { known }
  | ⟨.getCacheVersion _, version⟩ => { reading with key := call.key version }
  | ⟨.getJsonCache _, cachedUsers⟩ => { reading with page := cachedUsers }
  | ⟨.users _, users⟩ => { reading with page := call.page codec (objectsOf reading.known users) }
  | ⟨.commit _, commit⟩ => { reading with commit := some commit }
  | _ => reading

/-- The query is the one of a request. -/
def ListCall.Queries (query : UserQuery) : Prop :=
  ∃ token slug params, call = .listUsers token slug params ∧
    pageQuery codec token.tenantId params.filters params.args = .ok query

/-- The statements of a request: it reads the version before the cache and the users, and
writes the page that it has made under its key. -/
def ListCall.must (reading : Reading) : ListStmt → Prop
  | .getCacheVersion tenantId => reading.page = none ∧ ∀ version,
      ∃ key, call.key version = some key ∧ key.tenantId = tenantId ∧ key.version = version
  | .getJsonCache key => reading.key = some key
  | .users query => reading.page = none ∧ reading.known.isSome ∧ call.Queries codec query ∧
      ∃ version, reading.key = call.key version
  | .setJsonCache key page => reading.key = some key ∧ reading.page = some page
  | .incrementCacheVersion _ commit => reading.commit = some commit
  | _ => True

/-- The answers that are possible: a user that is loaded is one of the tenant. -/
def ListCall.may : Event ListSql → Prop
  | ⟨.loadUser _ tenantId, some user⟩ => user.tenantId = tenantId
  | _ => True

def listMonitor : Monitor ListSql Reading where
  may _ := ListCall.may
  must := call.must codec
  learn := call.learn codec

/-- A page is returned under the key of the request. -/
def listWatch : Watch ListSql ListCall ListError ListReply Reading where
  monitor := listMonitor codec
  initial _ := {}
  post call result reading := ∀ page, result = .ok (.page page) →
    reading.page = some page ∧ ∃ version, reading.key = call.key version

end Monitors

/-- What the process with this name has read. -/
def ListConfig.readings (codec : CursorCodec) (config : ListConfig) : Pid → Reading :=
  config.stages (listWatch codec) {}

/-! ## The programs -/

section Programs

variable {codec : CursorCodec} {call : ListCall} {α β : Type} {reading : Reading}

theorem along_orRaise {error : ListError} {value : Option α} {next : α → ListM β}
    {post : Except ListError β → Reading → Prop} (raises : post (.error error) reading)
    (rest : ∀ found, value = some found →
      (listMonitor codec call).Along post (next found) reading) :
    (listMonitor codec call).Along post (orRaise error value >>= next) reading := by
  cases value with
  | none => exact .raise raises
  | some found => exact rest found rfl

/-- `raise` under a condition, and what comes after it. -/
theorem along_unless {condition : Prop} [Decidable condition] {error : ListError}
    {program : ListM β} {post : Except ListError β → Reading → Prop}
    (raises : post (.error error) reading)
    (rest : ¬condition → (listMonitor codec call).Along post program reading) :
    (listMonitor codec call).Along post
      (if condition then (do let _ ← (throw error : ListM PUnit); program)
        else program) reading := by
  split
  · exact .raise raises
  · next goesOn => exact rest goesOn

theorem along_map {program : ListM α} {wrap : α → β} {post : Except ListError β → Reading → Prop}
    (along : (listMonitor codec call).Along (fun result => post (result.map wrap))
      program reading) :
    (listMonitor codec call).Along post (wrap <$> program) reading := by
  rw [← bind_pure_comp]
  refine .bind (along.mono fun result _ met => ?_)
  cases result with
  | ok value => exact .ret met
  | error error => exact met

/-- **The acting user** is loaded before anything else, from his own tenant. -/
theorem along_getCurrentUser (token : TokenClaims) (slug : Option String) :
    (listMonitor codec call).Along
      (fun result reading => ∀ user, result = .ok user →
        user.tenantId = token.tenantId ∧ reading = { known := some user })
      (getCurrentUser token slug) {} := by
  have raises : ∀ (error : ListError) (reading : Reading) (user : User),
      Except.error error = .ok user →
        user.tenantId = token.tenantId ∧ reading = { known := some user } :=
    fun _ _ _ same => nomatch same
  unfold getCurrentUser decodeToken
  dsimp only
  rw [bind_assoc]
  refine .issue trivial fun decodedAt _ => ?_
  refine along_orRaise (raises _ _) fun payload decoded => ?_
  have same : payload = token := by
    split at decoded
    · exact (Option.some.inj decoded).symm
    · cases decoded
  subst same
  refine along_unless (raises _ _) fun _ => ?_
  refine .issue trivial fun answer possible => ?_
  refine along_orRaise (raises _ _) fun user found => ?_
  obtain rfl : answer = some user := found
  refine along_unless (raises _ _) fun _ => along_unless (raises _ _) fun _ => ?_
  unfold assertActiveTenantMembership
  rw [bind_assoc]
  refine .issue trivial fun tenant _ => ?_
  rw [bind_assoc]
  refine along_orRaise (raises _ _) fun tenant _ => ?_
  refine .guard (raises _ _) fun _ => ?_
  cases slug with
  | none =>
      refine .ret fun found same => ?_
      cases same
      exact ⟨possible, rfl⟩
  | some requestedSlug =>
      refine .issue trivial fun tenant _ => ?_
      refine along_orRaise (raises _ _) fun tenant _ => ?_
      refine along_unless (raises _ _) fun _ => along_unless (raises _ _) fun _ => ?_
      refine .ret fun found same => ?_
      cases same
      exact ⟨possible, rfl⟩

/-- The query of a request, and its page. -/
theorem along_queryUsers {token : TokenClaims} {slug : Option String}
    {params : ListParams} {user : User}
    (version : Nat) :
    (listMonitor codec (.listUsers token slug params)).Along
      (fun result reading => ∀ page, result = .ok page →
        reading = ⟨some user, params.key token.tenantId version, some page, none⟩)
      (queryUsers codec (some user) token.tenantId params.filters params.args)
      ⟨some user, params.key token.tenantId version, none, none⟩ := by
  unfold queryUsers
  cases asked : pageQuery codec token.tenantId params.filters params.args with
  | error error => exact .raise nofun
  | ok query =>
      refine .issue ⟨rfl, rfl, ⟨token, slug, params, rfl, asked⟩, version, rfl⟩ fun users _ => ?_
      refine .ret fun page same => ?_
      cases same
      rfl

/-- **The list** reads the version, the cache and the users in this order. -/
theorem along_getUsers {token : TokenClaims} {slug : Option String} {params : ListParams}
    {user : User} :
    (listMonitor codec (.listUsers token slug params)).Along
      (fun result reading => ∀ page, result = .ok page → reading.page = some page ∧
        ∃ version, reading.key = some (params.key token.tenantId version))
      (getUsers codec true (some user) token.tenantId params.filters params.args)
      { known := some user } := by
  unfold getUsers buildUsersListCacheKey
  rw [bind_assoc]
  refine .issue ⟨rfl, fun version => ⟨_, rfl, rfl, rfl⟩⟩ fun version _ => ?_
  refine .issue rfl fun cachedUsers _ => ?_
  obtain ⟨cachedUsers, rfl⟩ : ∃ page : Option UserListPage, page = cachedUsers := ⟨cachedUsers, rfl⟩
  cases cachedUsers with
  | some cachedUsers =>
      refine .ret fun page same => ?_
      cases same
      exact ⟨rfl, version, rfl⟩
  | none =>
      refine .bind ((along_queryUsers version).mono fun result reading met => ?_)
      cases result with
      | error error => exact nofun
      | ok page =>
          obtain rfl := met page rfl
          refine .issue ⟨rfl, rfl⟩ fun _ _ => ?_
          refine .ret fun found same => ?_
          cases same
          exact ⟨rfl, version, rfl⟩

theorem performList_along (call : ListCall) :
    (listMonitor codec call).Along ((listWatch codec).post call) (performList codec call) {} := by
  cases call with
  | mutateUsers tenantId change =>
      refine .issue trivial fun commit _ => .issue rfl fun _ _ => ?_
      exact .ret nofun
  | listUsers token slug params =>
      refine along_map (.bind ((along_getCurrentUser token slug).mono fun result reading met => ?_))
      cases result with
      | error error => exact nofun
      | ok user =>
          obtain ⟨tenant, rfl⟩ := met user rfl
          unfold Monitor.afterBind listUsersAs
          dsimp only
          refine along_unless nofun fun _ => along_unless nofun fun _ => ?_
          rw [tenant]
          refine .tryCatch (along_getUsers.mono fun result reading met => ?_)
          cases result with
          | ok page =>
              intro found same
              cases same
              exact met page rfl
          | error error =>
              cases error with
              | _ => exact .raise nofun

end Programs

/-! ## What holds of the cache -/

section Coherence

variable (comparisons : Comparisons) (codec : CursorCodec)

/-- What a request has read is no newer than the world, and its page is fresh. -/
structure Reading.Sound (world : ListWorld) (reading : Reading) : Prop where
  key : ∀ key, reading.key = some key → key.version ≤ world.versions key.tenantId
  page : ∀ page, reading.page = some page →
    ∃ key, reading.key = some key ∧ Fresh comparisons codec world key page
  commit : ∀ commit, reading.commit = some commit → commit ≤ world.past.length

/-- The record is no newer than the world, and the cached pages are fresh. -/
structure Coherent (world : ListWorld) (readings : Pid → Reading) : Prop where
  recorded : ∀ tenantId version commit, (tenantId, version, commit) ∈ world.invalidations →
    version ≤ world.versions tenantId ∧ commit ≤ world.past.length
  cached : ∀ key page, world.cache key = some page →
    key.version ≤ world.versions key.tenantId ∧ Fresh comparisons codec world key page
  sound : ∀ pid, (readings pid).Sound comparisons codec world

/-- **The acting user is up to date** when a query finds him: for each mutation that the
version counts, he shows as in a state with its commit. -/
def ReadsUpToDate (config : ListConfig) : ListAction → Prop
  | .issue pid => ∀ call query next log,
      config.running pid = some ⟨call, .call (.users query) next, log⟩ →
      ∀ known key, (config.readings codec pid).known = some known →
        (config.readings codec pid).key = some key →
        ∀ version commit, (key.tenantId, version, commit) ∈ config.world.invalidations →
          version ≤ key.version →
          ∀ row ∈ query.eval comparisons config.world.users, row.id = known.id →
            ∃ shown, CommittedFrom config.world.tables commit shown ∧
              serializeUser shown = serializeUser known
  | _ => True

end Coherence

section Coherence

variable {comparisons : Comparisons} {codec : CursorCodec} {world after : ListWorld} {pid : Pid}
  {readings : Pid → Reading} {reading : Reading} {call : ListCall}

theorem Reading.Sound.rest : Reading.Sound comparisons codec world {} :=
  ⟨nofun, nofun, nofun⟩

theorem Reading.Sound.advances (sound : reading.Sound comparisons codec world)
    (advances : Advances world after) : reading.Sound comparisons codec after where
  key key named := (sound.key key named).trans (advances.versions key.tenantId)
  page page read := by
    obtain ⟨key, named, fresh⟩ := sound.page page read
    exact ⟨key, named, fresh.advances advances (sound.key key named)⟩
  commit commit made := (sound.commit commit made).trans advances.commits

theorem Coherent.initial (tenants : List Tenant) (users : List User) (clock : Nat) :
    Coherent comparisons codec (.start tenants users clock) fun _ => {} where
  recorded _ _ _ member := nomatch member
  cached _ _ found := nomatch found
  sound _ := .rest

/-- The table is the last of the committed states. -/
theorem tables_last (world : ListWorld) : world.tables[world.past.length]? = some world.users :=
  List.getElem?_concat_length

/-- **A page that is made of the table** has every mutation for which the acting user is up
to date. -/
theorem reflects_query {known : User} {commit tenantId : Nat} {filters : UserFilters}
    {args : PageArgs}
    {query : UserQuery} (asked : pageQuery codec tenantId filters args = .ok query)
    (recorded : commit ≤ world.past.length)
    (upToDate : ∀ row ∈ query.eval comparisons world.users, row.id = known.id →
      ∃ shown, CommittedFrom world.tables commit shown ∧
        serializeUser shown = serializeUser known) :
    Reflects comparisons codec world.tables commit tenantId filters args
      (pageOf codec filters args
        (objectsOf (some known) (query.eval comparisons world.users))) := by
  have current : ∀ row ∈ query.eval comparisons world.users, CommittedFrom world.tables
    commit row := by
    intro row member
    have listed := List.mem_of_mem_drop (List.mem_of_mem_take member)
    exact ⟨_, _, recorded, tables_last world,
      List.mem_of_mem_filter (List.mem_of_mem_filter (List.mem_mergeSort.mp listed))⟩
  refine ⟨query, asked, _, _, recorded, tables_last world, ?_⟩
  by_cases found : ∃ row ∈ query.eval comparisons world.users, row.id = known.id
  · obtain ⟨row, member, same⟩ := found
    obtain ⟨shown, committed, agree⟩ := upToDate row member same
    have id : shown.id = known.id := congrArg UserRead.id agree
    refine ⟨objectsOf (some shown) (query.eval comparisons world.users), pageOf_congr ?_, ?_, ?_⟩
    · rw [objectsOf, objectsOf, List.map_map, List.map_map]
      refine List.map_congr_left fun row _ => ?_
      rw [Function.comp_apply, Function.comp_apply, sameObject, sameObject, id]
      split
      · exact agree.symm
      · rfl
    · rw [objectsOf, List.map_map]
      refine List.map_congr_left fun row _ => ?_
      rw [Function.comp_apply, sameObject]
      split
      · next same => exact same.symm
      · rfl
    · intro user listed
      obtain ⟨row, member, rfl⟩ := List.mem_map.mp listed
      rw [sameObject]
      split
      · exact committed
      · exact current row member
  · have others : objectsOf (some known) (query.eval comparisons world.users) =
        query.eval comparisons world.users := by
      refine (List.map_congr_left fun row member => ?_).trans (List.map_id _)
      exact if_neg fun same => found ⟨row, member, same⟩
    exact ⟨_, rfl, by rw [others], fun user listed => current user (others ▸ listed)⟩

/-- What a statement teaches is sound: the version that has been read is the current one, a
cached page is fresh, and so is a page that is made of the table. -/
theorem Coherent.learns (coherent : Coherent comparisons codec world readings) (stmt : ListStmt)
    (allowed : call.must codec (readings pid) stmt)
    (upToDate : ∀ query, stmt = .users query → ∀ known key, (readings pid).known = some known →
      (readings pid).key = some key → ∀ version commit,
        (key.tenantId, version, commit) ∈ world.invalidations → version ≤ key.version →
          ∀ row ∈ query.eval comparisons world.users, row.id = known.id →
            ∃ shown, CommittedFrom world.tables commit shown ∧
              serializeUser shown = serializeUser known) :
    (call.learn codec (readings pid) ⟨stmt, (execList comparisons stmt world).1⟩).Sound comparisons
      codec (execList comparisons stmt world).2 := by
  have sound := coherent.sound pid
  have kept := sound.advances (advances_execList comparisons stmt world)
  cases stmt with
  | loadUser id tenantId => exact ⟨nofun, nofun, nofun⟩
  | getCacheVersion tenantId =>
      obtain ⟨unread, keys⟩ := allowed
      obtain ⟨key, named, tenant, version⟩ := keys (world.versions tenantId)
      refine ⟨fun found same => ?_, fun page read => ?_, sound.commit⟩
      · obtain rfl := Option.some.inj (named.symm.trans same)
        exact Nat.le_of_eq (by rw [version, tenant]; rfl)
      · exact nomatch unread.symm.trans read
  | getJsonCache key =>
      refine ⟨sound.key, fun page read => ⟨key, allowed, ?_⟩, sound.commit⟩
      exact (coherent.cached key page read).2
  | users query =>
      obtain ⟨-, loaded, ⟨token, slug, params, rfl, asked⟩, version, named⟩ := allowed
      obtain ⟨known, loaded⟩ := Option.isSome_iff_exists.mp loaded
      refine ⟨sound.key, fun page read => ⟨_, named, fun counted commit recorded within => ?_⟩,
        sound.commit⟩
      change some (pageOf codec params.filters params.args (objectsOf (readings pid).known
        (query.eval comparisons world.users))) = some page at read
      rw [loaded] at read
      cases read
      change Reflects comparisons codec world.tables commit token.tenantId params.filters
        params.args.normal _
      rw [reflects_normal]
      exact reflects_query asked (coherent.recorded _ _ _ recorded).2
        (upToDate query rfl known _ loaded named counted commit recorded within)
  | commit change =>
      refine ⟨kept.key, kept.page, fun commit made => ?_⟩
      cases made
      have length : (world.past ++ [world.users]).length = world.past.length + 1 :=
        List.length_append
      exact Nat.le_of_eq length.symm
  | _ => exact kept

/-- **Every statement keeps the cache fresh.** -/
theorem Coherent.issue (coherent : Coherent comparisons codec world readings) (stmt : ListStmt)
    (allowed : call.must codec (readings pid) stmt)
    (upToDate : ∀ query, stmt = .users query → ∀ known key, (readings pid).known = some known →
      (readings pid).key = some key → ∀ version commit,
        (key.tenantId, version, commit) ∈ world.invalidations → version ≤ key.version →
          ∀ row ∈ query.eval comparisons world.users, row.id = known.id →
            ∃ shown, CommittedFrom world.tables commit shown ∧
              serializeUser shown = serializeUser known) :
    Coherent comparisons codec (execList comparisons stmt world).2 (Function.update readings pid
      (call.learn codec (readings pid) ⟨stmt, (execList comparisons stmt world).1⟩)) := by
  have advances := advances_execList comparisons stmt world
  have cached : ∀ key page, world.cache key = some page →
      key.version ≤ (execList comparisons stmt world).2.versions key.tenantId ∧
        Fresh comparisons codec (execList comparisons stmt world).2 key page := by
    intro key page found
    obtain ⟨there, fresh⟩ := coherent.cached key page found
    exact ⟨there.trans (advances.versions _), fresh.advances advances there⟩
  refine ⟨fun tenantId version commit recorded => ?_, fun key page found => ?_, fun other => ?_⟩
  · rcases advances.later _ _ _ recorded with old | new
    · obtain ⟨counted, made⟩ := coherent.recorded _ _ _ old
      exact ⟨counted.trans (advances.versions _), made.trans advances.commits⟩
    · cases stmt with
      | incrementCacheVersion owner number =>
          rcases List.mem_append.mp recorded with old | added
          · exact absurd new (Nat.not_lt.mpr (coherent.recorded _ _ _ old).1)
          · cases List.mem_singleton.mp added
            have version : Function.update world.versions tenantId (world.versions tenantId + 1)
                tenantId = world.versions tenantId + 1 := Function.update_self ..
            exact ⟨Nat.le_of_eq version.symm, (coherent.sound pid).commit _ allowed⟩
      | _ => exact absurd new (Nat.not_lt.mpr (coherent.recorded _ _ _ recorded).1)
  · cases stmt with
    | setJsonCache named made =>
        obtain ⟨names, has⟩ := allowed
        change Function.update world.cache named (some made) key = some page at found
        by_cases same : key = named
        · subst same
          rw [Function.update_self] at found
          cases found
          obtain ⟨other, namesToo, fresh⟩ := (coherent.sound pid).page page has
          obtain rfl := Option.some.inj (names.symm.trans namesToo)
          have there := (coherent.sound pid).key _ names
          exact ⟨there, fresh.advances advances there⟩
        · rw [Function.update_of_ne same] at found
          exact cached key page found
    | _ => exact cached key page found
  · by_cases same : other = pid
    · subst same
      rw [Function.update_self]
      exact coherent.learns stmt allowed upToDate
    · rw [Function.update_of_ne same]
      exact (coherent.sound other).advances advances

/-- The others go on, and a request begins or ends. -/
theorem Coherent.goesOn (coherent : Coherent comparisons codec world readings)
    (advances : Advances world after)
    (cache : ∀ key page, after.cache key = some page → world.cache key = some page)
    (recorded : after.invalidations = world.invalidations) {later : Pid → Reading}
    (rests : ∀ pid, later pid = readings pid ∨ later pid = {}) :
    Coherent comparisons codec after later where
  recorded tenantId version commit entry := by
    obtain ⟨counted, made⟩ := coherent.recorded _ _ _ (recorded ▸ entry)
    exact ⟨counted.trans (advances.versions _), made.trans advances.commits⟩
  cached key page found := by
    obtain ⟨there, fresh⟩ := coherent.cached key page (cache key page found)
    exact ⟨there.trans (advances.versions _), fresh.advances advances there⟩
  sound pid := by
    rcases rests pid with same | idle
    · rw [same]
      exact (coherent.sound pid).advances advances
    · rw [idle]
      exact .rest

theorem update_rests (pid other : Pid) :
    Function.update readings pid {} other = readings other ∨
      Function.update readings pid {} other = {} := by
  by_cases same : other = pid
  · subst same
    exact .inr (Function.update_self ..)
  · exact .inl (Function.update_of_ne same ..)

theorem Passes.cache (passes : Passes world after) :
    (∀ key page, after.cache key = some page → world.cache key = some page) ∧
      after.invalidations = world.invalidations := by
  cases passes with
  | clock => exact ⟨fun _ _ found => found, rfl⟩
  | expiry key =>
      refine ⟨fun other page found => ?_, rfl⟩
      dsimp only at found
      by_cases same : other = key
      · subst same
        rw [Function.update_self] at found
        cases found
      · rwa [Function.update_of_ne same] at found

/-- **Every step keeps the cache fresh** in which the acting user is up to date. -/
theorem Coherent.step {config later : ListConfig} {action : ListAction}
    (coherent : Coherent comparisons codec config.world (config.readings codec))
    (watched : config.Watched (listWatch codec))
    (upToDate : ReadsUpToDate comparisons codec config action)
    (taken : Step (listMachine comparisons codec) config action later) :
    Coherent comparisons codec later.world (later.readings codec) := by
  cases watched.staged taken {} with
  | @start pid call idle world stages =>
      have readings : later.readings codec = _ := stages
      rw [readings, world]
      exact coherent.goesOn (.of_same rfl rfl rfl) (fun _ _ found => found) rfl (update_rests pid)
  | @issue pid call stmt next log answer running allowed executed stages =>
      have readings : later.readings codec = _ := stages
      obtain ⟨rfl, world⟩ : (execList comparisons stmt config.world).1 = answer ∧
          (execList comparisons stmt config.world).2 = later.world :=
            Prod.mk.inj (Option.some.inj executed)
      rw [readings, ← world]
      refine coherent.issue stmt allowed ?_
      rintro query rfl
      exact upToDate call query next log running
  | @finish pid call result met world stages =>
      have readings : later.readings codec = _ := stages
      rw [readings, world]
      exact coherent.goesOn (.of_same rfl rfl rfl) (fun _ _ found => found) rfl (update_rests pid)
  | @stop pid world stages =>
      have readings : later.readings codec = _ := stages
      rw [readings, world]
      exact coherent.goesOn (.of_same rfl rfl rfl) (fun _ _ found => found) rfl (update_rests pid)
  | ambient changed stages =>
      have readings : later.readings codec = _ := stages
      have passes : Passes config.world later.world := changed
      rw [readings]
      exact coherent.goesOn passes.advances passes.cache.1 passes.cache.2 fun _ => .inl rfl

/-- What holds of every configuration of a run. -/
structure Kept (comparisons : Comparisons) (codec : CursorCodec) (config : ListConfig) : Prop where
  watched : config.Watched (listWatch codec)
  coherent : Coherent comparisons codec config.world (config.readings codec)

theorem loadUser_possible (stmt : ListStmt) :
    ListCall.may ⟨stmt, (execList comparisons stmt world).1⟩ := by
  cases stmt with
  | loadUser id tenantId =>
      change ListCall.may ⟨.loadUser id tenantId,
        world.users.find? fun row => row.id == id && row.tenantId == tenantId⟩
      cases found : world.users.find? fun row => row.id == id && row.tenantId == tenantId with
      | none => exact trivial
      | some user =>
          have meets := List.find?_some found
          rw [Bool.and_eq_true, beq_iff_eq, beq_iff_eq] at meets
          exact meets.2
  | _ => exact trivial

theorem Kept.step {config later : ListConfig} {action : ListAction}
    (kept : Kept comparisons codec config)
    (upToDate : ReadsUpToDate comparisons codec config action)
    (taken : Step (listMachine comparisons codec) config action later) :
      Kept comparisons codec later where
  watched := by
    refine kept.watched.step taken performList_along ?_
    rintro pid call stmt next log answer world - - executed
    obtain ⟨rfl, -⟩ : (execList comparisons stmt config.world).1 = answer ∧
        (execList comparisons stmt config.world).2 = world := Prod.mk.inj (Option.some.inj executed)
    exact loadUser_possible stmt
  coherent := kept.coherent.step kept.watched upToDate taken

theorem Kept.runs {config later : ListConfig} (kept : Kept comparisons codec config)
    (runs : Runs (listMachine comparisons codec) (ReadsUpToDate comparisons codec) config later) :
    Kept comparisons codec later :=
  Runs.invariant runs kept fun _ _ _ kept upToDate taken => kept.step upToDate taken

theorem Kept.initial (tenants : List Tenant) (users : List User) (clock : Nat) :
    Kept comparisons codec (Config.initial (.start tenants users clock)) where
  watched := .initial _ _
  coherent := .initial tenants users clock

/-! ## What comes after an invalidation -/

/-- The invalidation is recorded, and the version that the process has read counts it. -/
structure Aware (codec : CursorCodec) (pid : Pid) (tenantId version commit : Nat)
    (config : ListConfig) :
    Prop where
  recorded : (tenantId, version, commit) ∈ config.world.invalidations
  counts : ∀ key, (config.readings codec pid).key = some key → key.tenantId = tenantId →
    version ≤ key.version

/-- A key is built from the version that has just been read. -/
theorem key_learn (call : ListCall) (reading : Reading) (stmt : ListStmt) {key : UsersCacheKey}
    (named : (call.learn codec reading ⟨stmt, (execList comparisons stmt world).1⟩).key = some
      key) :
    reading.key = some key ∨
      ∃ tenantId, stmt = .getCacheVersion tenantId ∧
        call.key (world.versions tenantId) = some key := by
  cases stmt with
  | loadUser id tenantId => cases named
  | getCacheVersion tenantId => exact .inr ⟨tenantId, rfl, named⟩
  | _ => exact .inl named

theorem Aware.step {tenantId version commit : Nat} {config later : ListConfig} {action : ListAction}
    (aware : Aware codec pid tenantId version commit config) (kept : Kept comparisons codec config)
    (taken : Step (listMachine comparisons codec) config action later) :
    Aware codec pid tenantId version commit later := by
  -- A request that begins or ends has no key.
  have rests : ∀ other, Function.update (config.readings codec) other {} pid =
      config.readings codec pid ∨ Function.update (config.readings codec) other {} pid = {} :=
    fun other => update_rests other pid
  have quiet : ∀ other, later.world.invalidations = config.world.invalidations →
      later.readings codec = Function.update (config.readings codec) other {} →
        Aware codec pid tenantId version commit later := by
    intro other same readings
    refine ⟨same ▸ aware.recorded, fun key named owner => ?_⟩
    rw [readings] at named
    rcases rests other with kept | idle
    · rw [kept] at named
      exact aware.counts key named owner
    · rw [idle] at named
      cases named
  cases kept.watched.staged taken {} with
  | @start other call idle world stages => exact quiet other (by rw [world]; rfl) stages
  | @finish other call result met world stages => exact quiet other (by rw [world]; rfl) stages
  | @stop other world stages => exact quiet other (by rw [world]; rfl) stages
  | ambient changed stages =>
      have readings : later.readings codec = _ := stages
      have passes : Passes config.world later.world := changed
      exact ⟨passes.cache.2 ▸ aware.recorded, readings ▸ aware.counts⟩
  | @issue other call stmt next log answer running allowed executed stages =>
      have readings : later.readings codec = _ := stages
      obtain ⟨rfl, world⟩ : (execList comparisons stmt config.world).1 = answer ∧
          (execList comparisons stmt config.world).2 = later.world :=
            Prod.mk.inj (Option.some.inj executed)
      refine ⟨world ▸ (advances_execList comparisons stmt config.world).recorded _ aware.recorded,
        fun key named owner => ?_⟩
      rw [readings] at named
      by_cases same : pid = other
      · subst same
        rw [Function.update_self] at named
        rcases key_learn call _ stmt named with old | ⟨tenant, rfl, built⟩
        · exact aware.counts key old owner
        · obtain ⟨-, keys⟩ := allowed
          obtain ⟨found, is, tenant', version'⟩ := keys (config.world.versions tenant)
          obtain rfl := Option.some.inj (is.symm.trans built)
          rw [version', ← tenant', owner]
          exact (kept.coherent.recorded _ _ _ aware.recorded).1
      · rw [Function.update_of_ne same] at named
        exact aware.counts key named owner

theorem Aware.runs {tenantId version commit : Nat} {config later : ListConfig}
    (aware : Aware codec pid tenantId version commit config) (kept : Kept comparisons codec config)
    (runs : Runs (listMachine comparisons codec) (ReadsUpToDate comparisons codec) config later) :
    Aware codec pid tenantId version commit later := by
  induction runs with
  | refl => exact aware
  | tail earlier last ih =>
      obtain ⟨action, -, taken⟩ := last
      exact ih.step (kept.runs earlier) taken

/-- **No stale list.** In every run in which the acting user is up to date whenever a query
finds him, a page that a request returns that was started after an invalidation has the
mutation of the invalidation. -/
theorem listed_after_invalidation (comparisons : Comparisons) (codec : CursorCodec)
    (tenants : List Tenant) (users : List User) (clock : Nat)
    {before after : ListConfig} {pid : Pid}
    {token : TokenClaims} {slug : Option String} {params : ListParams} {page : UserListPage}
    {log : List (Event ListSql)} {version commit : Nat}
    (runs : Runs (listMachine comparisons codec) (ReadsUpToDate comparisons codec)
      (Config.initial (.start tenants users clock)) before)
    (idle : before.running pid = none)
    (invalidated : (token.tenantId, version, commit) ∈ before.world.invalidations)
    (later : Runs (listMachine comparisons codec) (ReadsUpToDate comparisons codec) before after)
    (returns : after.running pid = some ⟨.listUsers token slug params, .ret (.page page), log⟩) :
    Reflects comparisons codec after.world.tables commit token.tenantId params.filters params.args
      page := by
  have first : Aware codec pid token.tenantId version commit before := by
    refine ⟨invalidated, fun key named _ => ?_⟩
    have rest : before.readings codec pid = {} := Config.stages_idle idle
    rw [rest] at named
    cases named
  have keptBefore := (Kept.initial tenants users clock).runs runs
  have kept := keptBefore.runs later
  have aware := first.runs keptBefore later
  have along := kept.watched.running pid _ returns
  have reading : after.readings codec pid = (listWatch codec).state _ log :=
    Config.stages_running returns
  cases along with
  | ret met =>
      obtain ⟨has, counted, named⟩ := met page rfl
      rw [← reading] at has named
      obtain ⟨key, names, fresh⟩ := (kept.coherent.sound pid).page page has
      obtain rfl := Option.some.inj (named.symm.trans names)
      have reflects := fresh version commit aware.recorded (aware.counts _ named rfl)
      exact reflects_normal.mp reflects

end Coherence

/-! ## A salon whose admin changes -/

/-- Two salons, the first with an admin. -/
def twoSalons : ListWorld :=
  .start [⟨1, "salon", "Salon", true⟩, ⟨2, "barber", "Barber", true⟩]
    [⟨1, 1, "olga@salon.pl", "", true, .admin, 0, false⟩,
      ⟨4, 2, "ewa@barber.pl", "", true, .user, 0, false⟩] 0

/-- The admin's token. -/
def adminToken : TokenClaims := ⟨.access, 1, 1, 0, 1800, 1, false⟩

/-- A mutation that gives the admin another address. -/
def renameAdmin (users : List User) : List User :=
  users.map fun user => if user.id = 1 then { user with email := "olga@nowy.pl" } else user

/-- A request without filters, for so many of its statements. -/
def listing (pid : Pid) (statements : Nat) : List ListAction :=
  .start pid (.listUsers adminToken none {}) :: List.replicate statements (.issue pid)

/-- The mutation with its invalidation. -/
def mutation (pid : Pid) : List ListAction :=
  [.start pid (.mutateUsers 1 renameAdmin), .issue pid, .issue pid, .finish pid]

/-- The page that a process is about to return. -/
def ListConfig.returned (config : ListConfig) (pid : Pid) :
    Option (TokenClaims × Option String × ListParams × UserListPage) :=
  match config.running pid with
  | some ⟨.listUsers token slug params, .ret (.page page), _⟩ => some (token, slug, params, page)
  | _ => none

theorem ListConfig.running_of_returned {config : ListConfig} {pid : Pid} {token : TokenClaims}
    {slug : Option String} {params : ListParams} {page : UserListPage}
    (returned : config.returned pid = some (token, slug, params, page)) :
    ∃ log, config.running pid = some ⟨.listUsers token slug params, .ret (.page page), log⟩ := by
  unfold ListConfig.returned at returned
  split at returned
  · next log running =>
      cases returned
      exact ⟨_, running⟩
  · cases returned

/-- The acting user is in the table when a query runs, and so are the mutations. -/
def knowsTable (codec : CursorCodec) (config : ListConfig) : ListAction → Bool
  | .issue pid =>
      (match (config.readings codec pid).known with
        | some known => known ∈ config.world.users
        | none => true) &&
      config.world.invalidations.all fun entry => entry.2.2 ≤ config.world.past.length
  | _ => true

theorem readsUpToDate_of_knowsTable (config : ListConfig) (action : ListAction)
    (knows : knowsTable jsonCursors config action = true) :
    ReadsUpToDate codePoints jsonCursors config action := by
  cases action with
  | issue pid =>
      intro call query next log _ known key loaded _ version commit recorded _ row _ _
      rw [knowsTable, loaded, Bool.and_eq_true, decide_eq_true_eq, List.all_eq_true] at knows
      have made := knows.2 _ recorded
      rw [decide_eq_true_eq] at made
      exact ⟨known, ⟨_, _, made, tables_last config.world, knows.1⟩, rfl⟩
  | _ => exact trivial

theorem mutation_possible : ((Config.initial twoSalons).runActions
    (listMachine codePoints jsonCursors) (mutation 1)).isSome = true := by
  decide +kernel

/-- The salon after the mutation. -/
def mutated : ListConfig :=
  ((Config.initial twoSalons).runActions (listMachine codePoints jsonCursors) (mutation 1)).get
    mutation_possible

theorem listing_possible : (mutated.runActions (listMachine codePoints jsonCursors)
    (listing 0 7)).isSome = true := by
  decide +kernel

/-- The salon when a list that was asked for after the mutation is about to be returned. -/
def listed : ListConfig :=
  (mutated.runActions (listMachine codePoints jsonCursors) (listing 0 7)).get listing_possible

theorem listing_has_rename : ∃ page : UserListPage,
    Runs (listMachine codePoints jsonCursors) (ReadsUpToDate codePoints jsonCursors)
      mutated listed ∧
      page.items.map (·.email) = ["olga@nowy.pl"] ∧
        Reflects codePoints jsonCursors listed.world.tables 1 1 {} { limit := 10 } page := by
  have first : Runs (listMachine codePoints jsonCursors) (ReadsUpToDate codePoints jsonCursors)
      (Config.initial twoSalons) mutated :=
    Runs.of_guarded readsUpToDate_of_knowsTable (mutation 1) (by decide +kernel)
      (Option.some_get mutation_possible).symm
  have later : Runs (listMachine codePoints jsonCursors) (ReadsUpToDate codePoints jsonCursors)
      mutated listed :=
    Runs.of_guarded readsUpToDate_of_knowsTable (listing 0 7) (by decide +kernel)
      (Option.some_get listing_possible).symm
  have returned : ListConfig.returned listed 0 = some (adminToken, none, {},
      ⟨[⟨1, "olga@nowy.pl", true, "admin", false⟩], none⟩) := by
    decide +kernel
  have idle : mutated.running 0 = none := rfl
  have invalidated : (adminToken.tenantId, 1, 1) ∈ mutated.world.invalidations := by decide +kernel
  obtain ⟨log, returns⟩ := ListConfig.running_of_returned returned
  exact ⟨_, later, rfl,
    listed_after_invalidation codePoints jsonCursors _ _ _ first idle invalidated later returns⟩

/-- The admin asks for the list and is loaded; the mutation commits and invalidates; only then
does the request read the version and the users, and write its page to the cache. -/
def slowReader : List ListAction :=
  listing 0 3 ++ mutation 1 ++ List.replicate 4 (.issue 0)

theorem slowReader_possible : ((Config.initial twoSalons).runActions
    (listMachine codePoints jsonCursors) slowReader).isSome = true := by
  decide +kernel

/-- The salon after the slow request. -/
def overwritten : ListConfig :=
  ((Config.initial twoSalons).runActions (listMachine codePoints jsonCursors) slowReader).get
    slowReader_possible

theorem staleListing_possible : (overwritten.runActions (listMachine codePoints jsonCursors)
    (listing 2 5)).isSome = true := by
  decide +kernel

/-- The salon when a request that was started after all this is about to return. -/
def misled : ListConfig :=
  (overwritten.runActions (listMachine codePoints jsonCursors) (listing 2 5)).get
    staleListing_possible

/-- The slow request has cached the admin's old address under the new version, and a request
that starts after the invalidation returns it. -/
theorem stale_admin_is_cached : ∃ (page : UserListPage) (log : List (Event ListSql)),
    Runs (listMachine codePoints jsonCursors) (fun _ _ => True)
      (Config.initial twoSalons) overwritten ∧
      overwritten.running 2 = none ∧ (1, 1, 1) ∈ overwritten.world.invalidations ∧
        Runs (listMachine codePoints jsonCursors) (fun _ _ => True) overwritten misled ∧
          misled.running 2 = some ⟨.listUsers adminToken none {}, .ret (.page page), log⟩ ∧
            ¬Reflects codePoints jsonCursors misled.world.tables 1 1 {} { limit := 10 } page := by
  have returned : ListConfig.returned misled 2 = some (adminToken, none, {},
      ⟨[⟨1, "olga@salon.pl", true, "admin", false⟩], none⟩) := by
    decide +kernel
  obtain ⟨log, returns⟩ := ListConfig.running_of_returned returned
  refine ⟨_, log, .of_runActions slowReader (Option.some_get slowReader_possible).symm, rfl,
    by decide +kernel, .of_runActions (listing 2 5)
      (Option.some_get staleListing_possible).symm, returns,
    fun reflects => ?_⟩
  -- The old address is in no state from the mutation on.
  obtain ⟨row, ⟨number, table, from', there, member⟩, shown⟩ :=
    reflects.shown _ (List.mem_singleton.mpr rfl)
  have tables : misled.world.tables = [twoSalons.users, renameAdmin twoSalons.users] := by
    decide +kernel
  rw [tables] at there
  obtain rfl : number = 1 := by
    obtain ⟨inside, -⟩ := List.getElem?_eq_some_iff.mp there
    exact Nat.le_antisymm (Nat.le_of_lt_succ inside) from'
  obtain rfl : renameAdmin twoSalons.users = table := Option.some.inj there
  have renamed : ∀ user ∈ renameAdmin twoSalons.users, user.email ≠ "olga@salon.pl" := by
    decide +kernel
  exact renamed row member (congrArg UserRead.email shown)

end AppointmentVoice.Accounts.Listing
