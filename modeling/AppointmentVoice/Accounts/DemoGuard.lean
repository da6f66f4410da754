import AppointmentVoice.Accounts.Users

/-!
# The guard of demo sessions

The middleware that answers for a demo session before the application is called, and the
way in which the application finds the user of a request.  Both read the same header, each
in its own way: `isPublicDemoToken` takes what follows `Bearer ` as it stands, and
`currentUserOf` what `HTTPBearer` hands on.

Two parts of this lie outside the repository, and are parameters.  `verify` is the check of
a signature: it gives the claims that a token was signed with, and does not look at the
time.  `httpBearer` gives the credentials of a request.  `ReadsTokens` collects what is
relied on in both.
-/

set_option autoImplicit false

namespace AppointmentVoice.Accounts

open Concurrency

/-! ## Requests -/

/-- The scope of a request; the server hands the names of the headers over in lower
case. -/
structure Scope where
  type : String
  method : String
  path : String
  headers : List (String × String)
  lowerNames : ∀ header ∈ headers, header.1.toLower = header.1

/-- A response of the middleware. -/
structure Response where
  status : Nat
  headers : List (String × String)
  body : String
  deriving DecidableEq, Repr

/-- `request.headers.get(name)`. -/
def Scope.header (scope : Scope) (name : String) : Option String :=
  (scope.headers.find? (·.1 == name)).map (·.2)

/-- `value.startswith(lead)` with what follows. -/
def afterLead (lead value : String) : Option String :=
  if lead.toList.isPrefixOf value.toList then
    some (String.ofList (value.toList.drop lead.toList.length))
  else none

/-! ## The middleware -/

/-- `_MUTATION_METHODS`. -/
def mutationMethods : List String := ["POST", "PUT", "PATCH", "DELETE"]

/-- `_DEMO_ALLOWLIST`. -/
def demoAllowlist : List String :=
  ["/api/v1/auth/demo", "/api/v1/auth/logout", "/api/v1/auth/refresh"]

/-- `_DEMO_403_BODY`. -/
def demo403Body : String :=
  "\x7b\"detail\": \"This action is disabled in public demo mode.\"\x7d"

/-- The answer of the middleware. -/
def demo403 : Response where
  status := 403
  headers := [("content-type", "application/json"),
    ("content-length", toString demo403Body.utf8ByteSize)]
  body := demo403Body

section Guard

variable (verify : String → Option TokenClaims) (httpBearer : Scope → Option String)

/-- `decode_token` of the text of a token. -/
def decodeText (now : Nat) (text : String) : Option TokenClaims :=
  (verify text).filter fun claims => toSeconds now ≤ claims.exp

/-- `_is_public_demo_token`. -/
def isPublicDemoToken (now : Nat) (scope : Scope) : Bool :=
  match scope.headers.find? fun header => header.1.toLower == "authorization" with
  | none => false
  | some (_, authValue) =>
      match afterLead "Bearer " authValue with
      | none => false
      | some token =>
          match decodeText verify now token with
          | some payload => payload.isPublicDemo
          | none => false

/-- What the middleware does with a request. -/
inductive Guarded where
  | answered (response : Response)
  | called
  deriving DecidableEq, Repr

/-- `DemoReadOnlyMiddleware`. -/
def demoReadOnlyMiddleware (now : Nat) (scope : Scope) : Guarded :=
  if scope.type ≠ "http" then .called
  else if scope.method ∉ mutationMethods then .called
  else if scope.path ∈ demoAllowlist then .called
  else if isPublicDemoToken verify now scope then .answered demo403
  else .called

/-! ## The application -/

/-- `value.partition(" ")` without the separator. -/
def partitionSpace (value : String) : String × String :=
  (String.ofList (value.toList.takeWhile (· != ' ')),
    String.ofList ((value.toList.dropWhile (· != ' ')).drop 1))

/-- `HTTPBearer` splits the header at its first space, asks for a scheme that reads `bearer`
in upper or lower case, and hands on the rest, with or without the blanks around it.  A text
that has a valid signature has it without the blanks around it too, and the same claims. -/
structure ReadsTokens : Prop where
  splits : ∀ scope credentials, httpBearer scope = some credentials →
    ∃ authorization, scope.header "authorization" = some authorization ∧
      (partitionSpace authorization).1.toLower = "bearer" ∧
      (credentials = (partitionSpace authorization).2 ∨
        credentials = strip (partitionSpace authorization).2)
  blanks : ∀ text claims, verify text = some claims → verify (strip text) = some claims

/-- `get_current_user` of a request. -/
def currentUserOf (scope : Scope) : AccountM User := do
  let credentials ← orRaise (.unauthorized "Not authenticated") (httpBearer scope)
  let token ← orRaise (.unauthorized "Could not validate credentials") (verify credentials)
  getCurrentUser token (scope.header "x-tenant-slug")

end Guard

end AppointmentVoice.Accounts
