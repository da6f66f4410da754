import AppointmentVoice.Accounts.Users
import AppointmentVoice.Formats.Json
import AppointmentVoice.Paging.Keyset

/-!
# The list of users

`list_users` with its filters, its sort orders, its cursors and its cache.  What the
database compares and matches, and what a cursor looks like as a text, are parameters; the
keys of the cache carry the parameters of the request, which the code hashes.

A session has one object for each row: the acting user, whom it has loaded before, is given
back as it was read then.
-/

set_option autoImplicit false

namespace AppointmentVoice.Accounts

open Concurrency Formats.Json Paging

/-! ## Parameters -/

/-- The columns by which the users can be listed. -/
inductive UserSortBy where
  | id
  | email
  | role
  | isActive
  deriving DecidableEq, Repr

/-- The text of a column. -/
def UserSortBy.value : UserSortBy → String
  | .id => "id"
  | .email => "email"
  | .role => "role"
  | .isActive => "is_active"

/-- Upwards or downwards. -/
inductive SortOrder where
  | asc
  | desc
  deriving DecidableEq, Repr

/-- The text of an order. -/
def SortOrder.value : SortOrder → String
  | .asc => "asc"
  | .desc => "desc"

/-- Where the searched text stands in the address. -/
inductive UserSearchMode where
  | startsWith
  | contains
  deriving DecidableEq, Repr

/-- The text of a mode. -/
def UserSearchMode.value : UserSearchMode → String
  | .startsWith => "prefix"
  | .contains => "contains"

/-- The text of a role. -/
def Role.value : Role → String
  | .user => "user"
  | .admin => "admin"
  | .platformAdmin => "platform_admin"
  | .unknown raw => raw

/-- What a request may filter and sort by. -/
structure UserFilters where
  sortBy : UserSortBy := .id
  sortOrder : SortOrder := .asc
  role : Option String := none
  isActive : Option Bool := none
  search : Option String := none
  searchMode : UserSearchMode := .startsWith
  deriving DecidableEq, Repr

/-! ## The database -/

/-- How the database compares texts, `collate first second` being `first < second`, and how
it matches a pattern, with a backslash as the escape. -/
structure Comparisons where
  collate : String → String → Bool
  ilike : String → String → Bool

/-- Texts are ordered: two that come in neither order are equal. -/
structure Comparisons.Ordered (comparisons : Comparisons) : Prop where
  asymm : ∀ first second, comparisons.collate first second = true →
    comparisons.collate second first = false
  trans : ∀ first second third, comparisons.collate first second = true →
    comparisons.collate second third = true → comparisons.collate first third = true
  total : ∀ first second, comparisons.collate first second = false →
    comparisons.collate second first = false → first = second

/-- The value of a column that users are sorted by. -/
inductive SortValue where
  | number (value : Int)
  | text (value : String)
  | flag (value : Bool)
  deriving DecidableEq, Repr

/-- `getattr(user, sort_by)`. -/
def User.sortValue (user : User) : UserSortBy → SortValue
  | .id => .number user.id
  | .email => .text user.email
  | .role => .text user.role.value
  | .isActive => .flag user.isActive

/-- `first < second`.  The values of one column are of one kind; how the kinds are ordered
does not matter. -/
def SortValue.lt (comparisons : Comparisons) : SortValue → SortValue → Bool
  | .number first, .number second => first < second
  | .number _, _ => true
  | _, .number _ => false
  | .text first, .text second => comparisons.collate first second
  | .text _, .flag _ => true
  | .flag _, .text _ => false
  | .flag first, .flag second => !first && second

/-- What a cursor stands for: the values of the row that it ends behind. -/
structure Keyset where
  sortValue : SortValue
  id : Int
  deriving DecidableEq, Repr

/-- The sort value of a user with its key, by which the pages are told apart. -/
def User.keyset (user : User) (sortBy : UserSortBy) : Keyset := ⟨user.sortValue sortBy, user.id⟩

/-- The keyset filter: the row comes behind the one of the cursor. -/
def Keyset.precedes (comparisons : Comparisons) (sortOrder : SortOrder)
    (cursor row : Keyset) : Bool :=
  match sortOrder with
  | .asc => cursor.sortValue.lt comparisons row.sortValue ||
      (row.sortValue == cursor.sortValue && decide (cursor.id < row.id))
  | .desc => row.sortValue.lt comparisons cursor.sortValue ||
      (row.sortValue == cursor.sortValue && decide (row.id < cursor.id))

/-- `ORDER BY` the column and the primary key, both in the order of the request. -/
def listedBefore (comparisons : Comparisons) (sortBy : UserSortBy) (sortOrder : SortOrder)
    (row other : User) : Bool :=
  (row.keyset sortBy).precedes comparisons sortOrder (other.keyset sortBy)

/-- The query as it is sent. -/
structure UserQuery where
  tenantId : Nat
  sortBy : UserSortBy
  sortOrder : SortOrder
  role : Option String
  isActive : Bool
  pattern : Option String
  after : Option Keyset
  offset : Nat
  limit : Nat
  deriving DecidableEq, Repr

namespace UserQuery

/-- The row meets the filters of the request. -/
def matching (comparisons : Comparisons) (query : UserQuery) (row : User) : Bool :=
  row.tenantId == query.tenantId &&
    (match query.role with
      | some role => row.role.value == role
      | none => true) &&
    row.isActive == query.isActive &&
    (match query.pattern with
      | some pattern => comparisons.ilike row.email pattern
      | none => true)

/-- The row comes behind the cursor. -/
def behind (comparisons : Comparisons) (query : UserQuery) (row : User) : Bool :=
  match query.after with
  | some cursor => cursor.precedes comparisons query.sortOrder (row.keyset query.sortBy)
  | none => true

/-- The rows of a page: those that match and come behind the cursor, in order, from the offset
on. -/
def eval (comparisons : Comparisons) (query : UserQuery) (users : List User) : List User :=
  ((sorted (listedBefore comparisons query.sortBy query.sortOrder)
    ((users.filter (query.matching comparisons)).filter (query.behind comparisons))).drop
      query.offset).take query.limit

end UserQuery

/-! ## The cache -/

/-- What is shown of a user. -/
structure UserRead where
  id : Nat
  email : String
  isActive : Bool
  role : String
  isDemoUser : Bool
  deriving DecidableEq, Repr

/-- `_serialize_user`. -/
def serializeUser (user : User) : UserRead where
  id := user.id
  email := user.email
  isActive := user.isActive
  role := user.role.value
  isDemoUser := user.isDemoUser

/-- A page of users with the cursor of the next one. -/
abbrev UserListPage := Page UserRead String

/-- `cache_params`. -/
structure CacheParams where
  limit : Nat
  filters : UserFilters
  cursor : Option String
  skip : Option Nat
  deriving DecidableEq, Repr

/-- The key of a page: the tenant, the version of its cache and the parameters. -/
structure UsersCacheKey where
  tenantId : Nat
  version : Nat
  params : CacheParams
  deriving DecidableEq, Repr

/-! ## Statements -/

/-- `commit` and `incrementCacheVersion` are the statements of the mutations: the commits are
numbered, and a mutation invalidates the cache for its own one. -/
inductive ListStmt where
  | now
  | tenant (id : Nat)
  | tenantBySlug (slug : String)
  | loadUser (id tenantId : Nat)
  | getCacheVersion (tenantId : Nat)
  | getJsonCache (key : UsersCacheKey)
  | users (query : UserQuery)
  | setJsonCache (key : UsersCacheKey) (page : UserListPage)
  | commit (change : List User → List User)
  | incrementCacheVersion (tenantId commit : Nat)

/-- What a statement comes back with. -/
def ListStmt.Answer : ListStmt → Type
  | .now => Nat
  | .tenant _ => Option Tenant
  | .tenantBySlug _ => Option Tenant
  | .loadUser _ _ => Option User
  | .getCacheVersion _ => Nat
  | .getJsonCache _ => Option UserListPage
  | .users _ => List User
  | .setJsonCache _ _ => Unit
  | .commit _ => Nat
  | .incrementCacheVersion _ _ => Unit

/-- The statements and cache commands with their answers. -/
abbrev ListSql : Signature := ⟨ListStmt, ListStmt.Answer⟩

/-- `argument` is the `ArgumentError` of SQLAlchemy, and `value` a `ValueError`. -/
inductive ListError where
  | unauthorized (detail : String)
  | forbidden (detail : String)
  | notFound (detail : String)
  | unprocessable (detail : String)
  | value (message : String)
  | argument
  | database
  deriving DecidableEq, Repr

/-- The programs of the user list. -/
abbrev ListM := Program ListSql ListError

/-- Send a statement. -/
def issueList (stmt : ListStmt) : ListM stmt.Answer := Program.issue (S := ListSql) stmt

/-! ## Cursors -/

/-- The text of a JSON value in a cursor. -/
structure CursorCodec where
  encode : Value → String
  decode : String → Option Value

/-- A sort value in a cursor. -/
def SortValue.json : SortValue → Value
  | .number value => .int value
  | .text value => .string value
  | .flag value => .bool value

/-- A text or `None` as JSON. -/
def optionalText : Option String → Value
  | some text => .string text
  | none => .null

/-- A flag or `None` as JSON. -/
def optionalFlag : Option Bool → Value
  | some flag => .bool flag
  | none => .null

/-- The dictionary of `_build_next_cursor`, with its keys in order. -/
def cursorPayload (filters : UserFilters) (lastUser : User) : List (String × Value) :=
  [("id", .int lastUser.id), ("is_active", optionalFlag filters.isActive),
    ("role", optionalText filters.role), ("search", optionalText filters.search),
    ("search_mode", .string filters.searchMode.value), ("sort_by", .string filters.sortBy.value),
    ("sort_order", .string filters.sortOrder.value),
    ("sort_value", (lastUser.sortValue filters.sortBy).json)]

section Cursors

variable (codec : CursorCodec)

/-- `encode_cursor`. -/
def encodeCursor (payload : List (String × Value)) : String := codec.encode (.object payload)

/-- `decode_cursor`: anything but an object is a `ValueError`. -/
def decodeCursor (cursor : String) : Except ListError (List (String × Value)) :=
  match codec.decode cursor with
  | some (.object payload) => .ok payload
  | _ => .error (.value "invalid cursor")

/-- `_build_next_cursor`. -/
def buildNextCursor (users : List User) (limit : Nat) (filters : UserFilters) : Option String :=
  if users.length < limit then none
  else users.getLast?.map fun lastUser => encodeCursor codec (cursorPayload filters lastUser)

end Cursors

/-- `payload.get(key)`. -/
def payloadGet (payload : List (String × Value)) (key : String) : Value :=
  ((payload.find? (·.1 == key)).map (·.2)).getD .null

/-- `value == text`, for a text or `None`. -/
def equalsText : Value → Option String → Bool
  | .string value, some text => value == text
  | .null, none => true
  | _, _ => false

/-- `value == flag`, for a truth value or `None`; the numbers 0 and 1 are equal to them. -/
def equalsFlag : Value → Option Bool → Bool
  | .bool value, some flag => value == flag
  | .int value, some flag => value == if flag then 1 else 0
  | .null, none => true
  | _, _ => false

/-- `isinstance(value, int)`; the truth values are integers. -/
def isInt : Value → Bool
  | .int _ => true
  | .bool _ => true
  | _ => false

/-- The value is `null`. -/
def isNull : Value → Bool
  | .null => true
  | _ => false

/-- `_validate_cursor_filters`. -/
def validateCursorFilters (payload : List (String × Value)) (filters : UserFilters) :
    Except ListError (Value × Value) := do
  if !equalsText (payloadGet payload "sort_by") (some filters.sortBy.value) then
    throw (.value "cursor sort_by mismatch")
  if !equalsText (payloadGet payload "sort_order") (some filters.sortOrder.value) then
    throw (.value "cursor sort_order mismatch")
  if !equalsText (payloadGet payload "role") filters.role then
    throw (.value "cursor role mismatch")
  if !equalsFlag (payloadGet payload "is_active") filters.isActive then
    throw (.value "cursor is_active mismatch")
  if !equalsText (payloadGet payload "search") filters.search then
    throw (.value "cursor search mismatch")
  if !equalsText (payloadGet payload "search_mode") (some filters.searchMode.value) then
    throw (.value "cursor search_mode mismatch")
  let cursorId := payloadGet payload "id"
  let cursorSortValue := payloadGet payload "sort_value"
  if !isInt cursorId || isNull cursorSortValue then throw (.value "invalid cursor payload")
  return (cursorId, cursorSortValue)

/-- A comparison of the column with a value: none can be built with a truth value, and the
database has none between values of different types. -/
def comparedWith (sortBy : UserSortBy) : Value → Except ListError SortValue
  | .null => .error .argument
  | .bool _ => .error .argument
  | .int value => if sortBy = .id then .ok (.number value) else .error .database
  | .string value => if sortBy = .email ∨ sortBy = .role then .ok (.text value)
      else .error .database
  | _ => .error .database

/-- `_apply_keyset_filter`. -/
def applyKeysetFilter (sortBy : UserSortBy) (cursorId cursorSortValue : Value) :
    Except ListError Keyset := do
  let sortValue ← comparedWith sortBy cursorSortValue
  match cursorId with
  | .int id => return ⟨sortValue, id⟩
  | _ => throw .argument

/-! ## The function -/

/-- `_escape_like_pattern`. -/
def escapeLikePattern (value : String) : String :=
  String.ofList (value.toList.flatMap fun char =>
    if char = '\\' ∨ char = '%' ∨ char = '_' then ['\\', char] else [char])

/-- The pattern of `_apply_email_search_filter`. -/
def emailPattern (search : String) : UserSearchMode → String
  | .contains => "%" ++ escapeLikePattern search ++ "%"
  | .startsWith => escapeLikePattern search ++ "%"

/-- The query that the filters make, without a cursor and from the start. -/
def UserFilters.query (filters : UserFilters) (tenantId limit : Nat) : UserQuery where
  tenantId := tenantId
  sortBy := filters.sortBy
  sortOrder := filters.sortOrder
  role := filters.role
  isActive := filters.isActive.getD true
  pattern := filters.search.map fun search => emailPattern search filters.searchMode
  after := none
  offset := 0
  limit := limit

/-- The arguments of `get_users` that are not filters. -/
structure PageArgs where
  limit : Nat
  cursor : Option String := none
  skip : Option Nat := none
  deriving DecidableEq, Repr

/-- `skip is not None and skip > 0`. -/
def PageArgs.useOffset (args : PageArgs) : Bool :=
  match args.skip with
  | some skip => 0 < skip
  | none => false

/-- Raise what a pure part of the code raises. -/
def raising {α : Type} : Except ListError α → ListM α
  | .ok value => pure value
  | .error error => throw error

/-- The objects of the rows, in a session that has loaded the acting user. -/
def objectsOf (known : Option User) (rows : List User) : List User :=
  match known with
  | some user => rows.map (sameObject user)
  | none => rows

/-- `if cursor is not None: ...`. -/
def cursorKeyset (codec : CursorCodec) (filters : UserFilters) :
    Option String → Except ListError (Option Keyset)
  | none => .ok none
  | some cursor => do
      let cursorPayload ← decodeCursor codec cursor
      let (cursorId, cursorSortValue) ← validateCursorFilters cursorPayload filters
      return some (← applyKeysetFilter filters.sortBy cursorId cursorSortValue)

/-- The query of a request: a page from an offset on, or behind a cursor. -/
def pageQuery (codec : CursorCodec) (tenantId : Nat) (filters : UserFilters) (args : PageArgs) :
    Except ListError UserQuery := do
  let query := filters.query tenantId args.limit
  if args.useOffset then return { query with offset := args.skip.getD 0 }
  return { query with after := ← cursorKeyset codec filters args.cursor }

/-- The result that is made of the users; a page from an offset on has no cursor. -/
def pageOf (codec : CursorCodec) (filters : UserFilters) (args : PageArgs) (users : List User) :
    UserListPage where
  items := users.map serializeUser
  nextCursor := if args.useOffset then none else buildNextCursor codec users args.limit filters

/-- The arguments as the key of the cache has them: an offset of zero is none. -/
def PageArgs.normal (args : PageArgs) : PageArgs :=
  ⟨args.limit, args.cursor, if args.useOffset then args.skip else none⟩

theorem PageArgs.useOffset_normal (args : PageArgs) : args.normal.useOffset = args.useOffset := by
  by_cases offset : args.useOffset = true
  · rw [normal, if_pos offset]
  · rw [normal, if_neg offset]
    exact (Bool.eq_false_iff.mpr offset).symm

theorem pageQuery_normal (codec : CursorCodec) (tenantId : Nat) (filters : UserFilters)
    (args : PageArgs) :
    pageQuery codec tenantId filters args.normal = pageQuery codec tenantId filters args := by
  by_cases offset : args.useOffset = true
  · rw [PageArgs.normal, if_pos offset]
  · rw [pageQuery, pageQuery, PageArgs.useOffset_normal, Bool.eq_false_iff.mpr offset]
    rfl

theorem pageOf_normal (codec : CursorCodec) (filters : UserFilters) (args : PageArgs)
    (users : List User) :
    pageOf codec filters args.normal users = pageOf codec filters args users := by
  rw [pageOf, pageOf, PageArgs.useOffset_normal, PageArgs.normal]

/-- The arguments of the requests with these parameters. -/
def CacheParams.args (params : CacheParams) : PageArgs := ⟨params.limit, params.cursor, params.skip⟩

/-- The part of `get_users` between its two looks at the cache. -/
def queryUsers (codec : CursorCodec) (known : Option User) (tenantId : Nat) (filters : UserFilters)
    (args : PageArgs) : ListM UserListPage := do
  let query ← raising (pageQuery codec tenantId filters args)
  let users ← issueList (.users query)
  return pageOf codec filters args (objectsOf known users)

/-- `build_users_list_cache_key`. -/
def buildUsersListCacheKey (tenantId : Nat) (filters : UserFilters) (args : PageArgs) :
    ListM UsersCacheKey := do
  let version ← issueList (.getCacheVersion tenantId)
  return ⟨tenantId, version,
    ⟨args.limit, filters, args.cursor, if args.useOffset then args.skip else none⟩⟩

/-- What comes after the look at the cache. -/
def missedCache (codec : CursorCodec) (known : Option User) (tenantId : Nat) (filters : UserFilters)
    (args : PageArgs) (cacheKey : UsersCacheKey) : Option UserListPage → ListM UserListPage
  | some cachedUsers => pure cachedUsers
  | none => do
      let result ← queryUsers codec known tenantId filters args
      issueList (.setJsonCache cacheKey result)
      return result

/-- `get_users`: the cached page, or the queried one, which is then cached. -/
def getUsers (codec : CursorCodec) (usersCacheEnabled : Bool) (known : Option User) (tenantId : Nat)
    (filters : UserFilters) (args : PageArgs) : ListM UserListPage := do
  let cacheKey ← buildUsersListCacheKey tenantId filters args
  if usersCacheEnabled then
    let cachedUsers ← issueList (.getJsonCache cacheKey)
    missedCache codec known tenantId filters args cacheKey cachedUsers
  else queryUsers codec known tenantId filters args

/-! ## The world -/

/-- The users that are committed, what they were before each commit, and the cache.  The
record of the invalidations, with the tenant, the new version and the commit, is read by
no statement. -/
structure ListWorld where
  tenants : List Tenant
  users : List User
  past : List (List User)
  clock : Nat
  versions : Nat → Nat
  cache : UsersCacheKey → Option UserListPage
  invalidations : List (Nat × Nat × Nat)

namespace ListWorld

/-- The world before any request. -/
def start (tenants : List Tenant) (users : List User) (clock : Nat) : ListWorld :=
  ⟨tenants, users, [], clock, fun _ => 0, fun _ => none, []⟩

/-- What has been committed with each commit, the first state before all of them. -/
def tables (world : ListWorld) : List (List User) := world.past ++ [world.users]

/-- The version of the cache of a tenant grows. -/
def invalidate (world : ListWorld) (tenantId commit : Nat) : ListWorld :=
  { world with
    versions := Function.update world.versions tenantId (world.versions tenantId + 1)
    invalidations := world.invalidations ++ [(tenantId, world.versions tenantId + 1, commit)] }

end ListWorld

/-- The effect of a statement. -/
def execList (comparisons : Comparisons) :
    (stmt : ListStmt) → ListWorld → stmt.Answer × ListWorld
  | .now, world => (world.clock, world)
  | .tenant id, world => (world.tenants.find? (·.id == id), world)
  | .tenantBySlug slug, world => (world.tenants.find? (·.slug == slug), world)
  | .loadUser id tenantId, world =>
      (world.users.find? fun row => row.id == id && row.tenantId == tenantId, world)
  | .getCacheVersion tenantId, world => (world.versions tenantId, world)
  | .getJsonCache key, world => (world.cache key, world)
  | .users query, world => (query.eval comparisons world.users, world)
  | .setJsonCache key page, world =>
      ((), { world with cache := Function.update world.cache key (some page) })
  | .commit change, world =>
      (world.past.length + 1,
        { world with users := change world.users, past := world.past ++ [world.users] })
  | .incrementCacheVersion tenantId commit, world => ((), world.invalidate tenantId commit)

/-! ## A salon with a few users -/

/-- A matcher of `LIKE` patterns: `%` for any text, `_` for any character, and the backslash
as the escape. -/
def likeChars : List Char → List Char → Bool
  | [], text => text.isEmpty
  | '%' :: pattern, text => text.tails.any (likeChars pattern)
  | '_' :: pattern, _ :: text => likeChars pattern text
  | '\\' :: char :: pattern, first :: text => char == first && likeChars pattern text
  | char :: pattern, first :: text => char == first && likeChars pattern text
  | _ :: _, [] => false

/-- Texts are compared by their code points, and matched without regard to case. -/
def codePoints : Comparisons where
  collate first second := first < second
  ilike text pattern := likeChars (pattern.toLower).toList (text.toLower).toList

/-- Cursors as JSON texts. -/
def jsonCursors : CursorCodec := ⟨dumps, loads⟩

end AppointmentVoice.Accounts
