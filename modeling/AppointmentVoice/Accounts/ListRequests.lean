import AppointmentVoice.Accounts.UserList
import AppointmentVoice.Concurrency.Interleaving

/-!
# Requests for the list of users

`list_users` with the dependency that loads the acting user, and the commit of a mutation
with the invalidation after it, interleaved over one database and one cache.  The cache of
the list is enabled.

What a mutation has flushed becomes visible with its commit, so a mutation is what its
commit does to the table.
-/

set_option autoImplicit false

namespace AppointmentVoice.Accounts.Listing

open Concurrency

/-! ## The acting user -/

/-- Raise unless there is a value. -/
def orRaise {α : Type} (error : ListError) : Option α → ListM α
  | some value => pure value
  | none => throw error

/-- `decode_token`: `none` once the token has expired. -/
def decodeToken (token : TokenClaims) : ListM (Option TokenClaims) := do
  let decodedAt ← issueList .now
  return if toSeconds decodedAt ≤ token.exp then some token else none

/-- What a user is refused with whose tenant is not the requested one. -/
def tenantDenied : ListError := .forbidden "Tenant access denied"

/-- `assert_active_tenant_membership`. -/
def assertActiveTenantMembership (user : User) : ListM Unit := do
  let tenant ← orRaise tenantDenied (← issueList (.tenant user.tenantId))
  if !tenant.isActive then throw tenantDenied

/-- The part of `get_current_user` that looks at the header with the slug. -/
def matchRequestedSlug (user : User) : Option String → ListM User
  | none => pure user
  | some requestedSlug => do
      let tenant ← orRaise (.notFound "Tenant not found")
        (← issueList (.tenantBySlug requestedSlug))
      if !tenant.isActive then throw (.notFound "Tenant not found")
      if user.tenantId ≠ tenant.id then throw tenantDenied
      return user

/-- `get_current_user`: the user of the token, loaded anew, if token, version and tenant are in
force. -/
def getCurrentUser (token : TokenClaims) (requestedSlug : Option String) : ListM User := do
  let denied : ListError := .unauthorized "Could not validate credentials"
  let payload ← orRaise denied (← decodeToken token)
  if payload.kind ≠ .access then throw denied
  let user ← orRaise denied (← issueList (.loadUser payload.sub payload.tenantId))
  if !user.isActive then throw denied
  if user.tokenVersion ≠ payload.tokenVersion then throw denied
  assertActiveTenantMembership user
  matchRequestedSlug user requestedSlug

/-! ## The route -/

/-- The parameters of the route, within their bounds. -/
structure ListParams where
  page : Nat := 1
  size : Nat := 10
  cursor : Option String := none
  sortBy : UserSortBy := .id
  sortOrder : SortOrder := .asc
  role : Option UserRole := none
  isActive : Option Bool := none
  search : Option String := none
  searchMode : UserSearchMode := .startsWith
  pageFrom : 1 ≤ page := by decide
  sizeFrom : 1 ≤ size := by decide
  sizeTo : size ≤ 100 := by decide
  deriving DecidableEq

namespace ListParams

/-- The filters that the parameters ask for. -/
def filters (params : ListParams) : UserFilters where
  sortBy := params.sortBy
  sortOrder := params.sortOrder
  role := params.role.map (·.role.value)
  isActive := params.isActive
  search := params.search
  searchMode := params.searchMode

/-- Limit and place of the page; a page number counts only without a cursor. -/
def args (params : ListParams) : PageArgs where
  limit := params.size
  cursor := params.cursor
  skip := if params.page > 1 && params.cursor.isNone then some ((params.page - 1) * params.size)
    else none

end ListParams

/-- `except ValueError`. -/
def unprocessableValue : ListError → ListM UserListPage
  | .value message => throw (.unprocessable message)
  | error => throw error

/-- `list_users` once the acting user is known. -/
def listUsersAs (codec : CursorCodec) (params : ListParams) (currentUser : User) :
    ListM UserListPage := do
  if !userHasPermission currentUser .usersList then throw (.forbidden "Insufficient permissions")
  if params.cursor.isSome && params.page ≠ 1 then
    throw (.unprocessable "cursor cannot be combined with page > 1")
  tryCatch (getUsers codec true (some currentUser) currentUser.tenantId params.filters params.args)
    unprocessableValue

/-- `list_users`. -/
def listUsers (codec : CursorCodec) (token : TokenClaims) (slug : Option String)
    (params : ListParams) : ListM UserListPage := do
  let currentUser ← getCurrentUser token slug
  listUsersAs codec params currentUser

/-- The commit of a mutation, and `invalidate_users_list_cache`. -/
def commitUserMutation (tenantId : Nat) (change : List User → List User) : ListM Unit := do
  let commit ← issueList (.commit change)
  issueList (.incrementCacheVersion tenantId commit)

/-! ## The machine -/

/-- The requests: a list of users, and a change of the users that drops their cached lists. -/
inductive ListCall where
  | listUsers (token : TokenClaims) (slug : Option String) (params : ListParams)
  | mutateUsers (tenantId : Nat) (change : List User → List User)

/-- What they return. -/
inductive ListReply where
  | page (page : UserListPage)
  | mutated
  deriving DecidableEq, Repr

/-- The program of a request. -/
def performList (codec : CursorCodec) : ListCall → Program ListSql ListError ListReply
  | .listUsers token slug params => .page <$> listUsers codec token slug params
  | .mutateUsers tenantId change => (fun _ => .mutated) <$> commitUserMutation tenantId change

/-- Time goes on, or a page expires. -/
inductive Passes (before : ListWorld) : ListWorld → Prop where
  | clock (clock : Nat) (later : before.clock ≤ clock) : Passes before { before with clock }
  | expiry (key : UsersCacheKey) :
      Passes before { before with cache := Function.update before.cache key none }

/-- Requests and mutations interleaved over one database and one cache. -/
def listMachine (comparisons : Comparisons) (codec : CursorCodec) :
    Machine ListSql ListWorld ListCall ListError ListReply where
  perform := performList codec
  exec _ _ stmt world := some (execList comparisons stmt world)
  enter _ world := world
  leave _ world := world
  ambient := Passes

/-- The users and their cache with the requests that are under way. -/
abbrev ListConfig := Config ListSql ListWorld ListCall ListError ListReply

/-- What happens next: a request begins, sends its next statement, or is stopped. -/
abbrev ListAction := Action ListCall

end AppointmentVoice.Accounts.Listing
