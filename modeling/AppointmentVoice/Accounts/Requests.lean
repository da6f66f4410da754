import AppointmentVoice.Accounts.Users

/-!
# Requests to the user and signup routes

Registration and the self-service signup, and every request to the routes that change
users, run one after the other.  A request that raises leaves nothing uncommitted behind.

`register` makes a plain user; `signup` makes a tenant with its salon, its admin and its
record, in four commits (`createTenant`, `setUpTenant`).
-/

set_option autoImplicit false

namespace AppointmentVoice.Accounts

open Concurrency

/-! ## Registration -/

/-- The body of a registration. -/
structure UserCreate where
  email : String
  password : String
  deriving DecidableEq, Repr

/-- `create_user`: the address must be new in the tenant. -/
def createUser (cfg : AccountSettings) (userData : UserCreate) (tenantId : Nat) (role : Role) :
    AccountM User := do
  let existingUser ← select (.userByEmail userData.email tenantId)
  if existingUser.isSome then throw (.badRequest "User with this email already exists")
  let id ← add fun id => .insertUser {
    id, tenantId, role
    email := userData.email
    hashedPassword := cfg.hashPassword userData.password }
  commit
  refreshUser id

/-- `DEFAULT_TENANT_SLUG`. -/
def defaultTenantSlug : String := "default"

/-- `get_request_tenant`. -/
def getRequestTenant (slug : Option String) : AccountM Tenant := do
  let tenant ← orRaise (.notFound "Tenant not found")
    (← select (.tenantBySlug (slug.getD defaultTenantSlug)))
  if tenant.isActive then return tenant else throw (.notFound "Tenant not found")

/-- `register`: a plain user in the tenant of the request. -/
def register (cfg : AccountSettings) (slug : Option String) (userData : UserCreate) :
    AccountM User := do
  let tenant ← getRequestTenant slug
  if !cfg.registrationEnabled then throw (.forbidden "Registration is disabled")
  createUser cfg userData tenant.id .user

/-! ## Signup -/

/-- `str.lower()` of a character, as far as it gives ASCII letters and digits. -/
def asciiLower (char : Char) : List Char :=
  if char.toNat = 0x212A then ['k']
  else if char.toNat = 0x130 then ['i', '-']
  else [char.toLower]

/-- The characters of a slug besides the hyphen. -/
def slugChar (char : Char) : Bool :=
  ('a' ≤ char && char ≤ 'z') || ('0' ≤ char && char ≤ '9')

/-- The runs of other characters become one hyphen each. -/
def hyphenate : List Char → List Char
  | [] => []
  | char :: rest =>
      if slugChar char then char :: hyphenate rest
      else match hyphenate rest with
        | '-' :: others => '-' :: others
        | others => '-' :: others

/-- `_slugify`. -/
def slugify (name : String) : String :=
  let chars := hyphenate (name.toList.flatMap asciiLower)
  let slug := ((chars.dropWhile (· == '-')).reverse.dropWhile (· == '-')).reverse
  if slug.isEmpty then "salon" else String.ofList slug

/-- The loop of `_unique_slug`. -/
def firstFreeSlug (baseSlug : String) : List Nat → AccountM String
  | [] => throw (.badRequest "Could not generate a unique slug, please provide one explicitly")
  | suffix :: suffixes => do
      let candidate := baseSlug ++ "-" ++ toString suffix
      match ← select (.tenantBySlug candidate) with
      | none => return candidate
      | some _ => firstFreeSlug baseSlug suffixes

/-- `_unique_slug`. -/
def uniqueSlug (baseSlug : String) : AccountM String := do
  match ← select (.tenantBySlug baseSlug) with
  | none => return baseSlug
  | some _ => firstFreeSlug baseSlug (List.range' 2 998)

/-- `create_tenant`: the slug must be free. -/
def createTenant (slug name : String) : AccountM Tenant := do
  let existingTenant ← select (.tenantBySlug slug)
  if existingTenant.isSome then throw (.badRequest "Tenant with this slug already exists")
  let id ← add fun id => .insertTenant { id, slug, name, isActive := true }
  commit
  orRaise .database (← select (.tenant id))

/-- `create_business` with a name and a time zone. -/
def createFirstSalon (tenantId : Nat) (name timezone : String) : AccountM Unit := do
  let _ ← add fun id => .insertSalon { id, tenantId, name, timezone }
  commit

/-- The body of a signup. -/
structure TenantSignupRequest where
  salonName : String
  slug : Option String
  adminEmail : String
  adminPassword : String
  deriving DecidableEq, Repr

/-- `slug or _unique_slug(db, _slugify(salon_name))`. -/
def resolveSlug (body : TenantSignupRequest) : AccountM String :=
  match body.slug with
  | some slug => if slug.isEmpty then uniqueSlug (slugify body.salonName) else pure slug
  | none => uniqueSlug (slugify body.salonName)

/-- `signup_tenant` once the tenant is there. -/
def setUpTenant (cfg : AccountSettings) (body : TenantSignupRequest) (tenant : Tenant) :
    AccountM User := do
  createFirstSalon tenant.id body.salonName "Europe/Warsaw"
  let user ← createUser cfg ⟨body.adminEmail, body.adminPassword⟩ tenant.id .admin
  createAuditLog tenant.id none .tenantCreated none (some "self_signup")
  commit
  return user

/-- `signup`: the slug, the tenant, and what belongs to it, in four commits. -/
def signup (cfg : AccountSettings) (body : TenantSignupRequest) : AccountM User := do
  if !cfg.registrationEnabled then throw (.forbidden "Registration is disabled")
  let slug ← resolveSlug body
  let tenant ← createTenant slug body.salonName
  setUpTenant cfg body tenant

/-! ## Requests in a row -/

/-- The requests to the routes that change users. -/
inductive UserRequest where
  | register (slug : Option String) (userData : UserCreate)
  | signup (body : TenantSignupRequest)
  | patchUser (token : TokenClaims) (slug : Option String) (userId : Nat)
      (userUpdate : UserAdminUpdate)
  | activateUser (token : TokenClaims) (slug : Option String) (userId : Nat)
  | deactivateUser (token : TokenClaims) (slug : Option String) (userId : Nat)
  | removeUser (token : TokenClaims) (slug : Option String) (userId : Nat)
  deriving DecidableEq, Repr

/-- What the requests share. -/
abbrev RequestWorld := AccountWorld UserRequest

/-- The program of a request. -/
def performRequest (cfg : AccountSettings) : UserRequest → AccountM Unit
  | .register slug userData => (fun _ => ()) <$> register cfg slug userData
  | .signup body => (fun _ => ()) <$> signup cfg body
  | .patchUser token slug userId userUpdate =>
      (fun _ => ()) <$> patchUser token slug userId userUpdate
  | .activateUser token slug userId => (fun _ => ()) <$> activateUserEndpoint token slug userId
  | .deactivateUser token slug userId =>
      (fun _ => ()) <$> deactivateUserEndpoint token slug userId
  | .removeUser token slug userId => removeUser token slug userId

/-- Run a program alone in the session of a request. -/
def runAlone {α : Type} (request : UserRequest) (program : AccountM α) (world : RequestWorld) :
    Except AccountError α × RequestWorld :=
  program.run (effectOf 0 request) world

/-- The world after a request. -/
def handle (cfg : AccountSettings) (request : UserRequest) (world : RequestWorld) :
    RequestWorld :=
  (runAlone request (performRequest cfg request) world).2.release 0

/-- The token of a request, if its route asks for one. -/
def UserRequest.credentials : UserRequest → Option (TokenClaims × Option String)
  | .register _ _ => none
  | .signup _ => none
  | .patchUser token slug _ _ => some (token, slug)
  | .activateUser token slug _ => some (token, slug)
  | .deactivateUser token slug _ => some (token, slug)
  | .removeUser token slug _ => some (token, slug)

/-- The acting user: the one that `get_current_user` returns. -/
def UserRequest.actor (request : UserRequest) (world : RequestWorld) : Option User :=
  match request.credentials with
  | none => none
  | some (token, slug) => (runAlone request (getCurrentUser token slug) world).1.toOption

end AppointmentVoice.Accounts
