import AppointmentVoice.Accounts.Users
import AppointmentVoice.Concurrency.Interleaving

/-!
# Refreshing a browser session

One process of the frontend, the backend behind it and the cookie jar of one browser.  A
refresh request carries the session cookie that the browser had when it was sent; the
process shares calls to the backend that are in flight, and answers with a cookie that the
browser takes over when the response reaches it, in whatever order the responses arrive.

The backend runs `rotate_refresh_token`, one call at a time.  Two ledgers are kept beside
the program: the rotations that the backend has accepted, and the responses that the
browser has received.  The clock is that of the backend, and a cookie in the jar is not
followed until it expires.
-/

set_option autoImplicit false

namespace AppointmentVoice.Frontend

open Concurrency
open Accounts (TokenClaims AccountSettings AccountWorld AccountCall rotateRefreshToken)

/-! ## Sessions and responses -/

/-- `Token`, as the backend returns it. -/
structure Token where
  accessToken : TokenClaims
  refreshToken : TokenClaims
  deriving DecidableEq, Repr

/-- What the session cookie holds. -/
structure SessionPayload where
  accessToken : TokenClaims
  refreshToken : TokenClaims
  accessTokenExpiresAt : Nat
  deriving DecidableEq, Repr

/-- The `Set-Cookie` of a response. -/
inductive SetCookie where
  | session (payload : SessionPayload) (maxAge : Nat)
  | cleared
  deriving DecidableEq, Repr

/-- A response to the browser: the cookie that it sets, and where it sends the browser. -/
structure Response where
  setCookie : Option SetCookie
  location : String
  deriving DecidableEq, Repr

/-- What the browser keeps of a cookie: nothing when it is cleared, or has no time to
live. -/
def SetCookie.received (jar : Option SessionPayload) : Option SetCookie → Option SessionPayload
  | none => jar
  | some .cleared => none
  | some (.session payload maxAge) => if maxAge = 0 then none else some payload

/-! ## Statements -/

/-- Why a call to the backend fails: it answers with an error, or the network does. -/
inductive CallFailure where
  | apiError (error : Accounts.AccountError)
  | network
  deriving DecidableEq, Repr

/-- The cookie store of a request, the calls in flight, the clock, and the answer to the
browser. -/
inductive WebStmt where
  | getCookie
  | joinOrRun (key : TokenClaims)
  | await (promise : Nat)
  | dateNow
  | setCookie (payload : SessionPayload) (maxAge : Nat)
  | deleteCookie
  | respond (location : String)

/-- What a statement comes back with. -/
def WebStmt.Answer : WebStmt → Type
  | .getCookie => Option SessionPayload
  | .joinOrRun _ => Nat
  | .await _ => Except CallFailure Token
  | .dateNow => Nat
  | .setCookie _ _ => Unit
  | .deleteCookie => Unit
  | .respond _ => Unit

/-- The statements of an action with their answers. -/
abbrev Web : Signature := ⟨WebStmt, WebStmt.Answer⟩

/-- What leaves a function: a redirect, a failed call, or another error. -/
inductive WebError where
  | redirect (location : String)
  | failed (failure : CallFailure)
  | error (message : String)
  deriving DecidableEq, Repr

/-- The programs of the server actions. -/
abbrev WebM := Program Web WebError

/-- `getSession`: what the cookie of the request holds. -/
def getSession : WebM (Option SessionPayload) := Program.issue (S := Web) .getCookie

/-- Join the call that is in flight for a token, or begin one. -/
def joinOrRun (key : TokenClaims) : WebM Nat := Program.issue (S := Web) (.joinOrRun key)

/-- Wait for the end of a call. -/
def await (promise : Nat) : WebM (Except CallFailure Token) :=
  Program.issue (S := Web) (.await promise)

/-- `Math.floor(Date.now() / 1000)`. -/
def dateNow : WebM Nat := Program.issue (S := Web) .dateNow

/-- Set the cookie of the response. -/
def setCookie (payload : SessionPayload) (maxAge : Nat) : WebM Unit :=
  Program.issue (S := Web) (.setCookie payload maxAge)

/-- `clearSession`: the response deletes the cookie. -/
def clearSession : WebM Unit := Program.issue (S := Web) .deleteCookie

/-- Send the response. -/
def respond (location : String) : WebM Unit := Program.issue (S := Web) (.respond location)

/-! ## The refresh action -/

/-- The `exp` of a token of the backend, which is always a number. -/
def readJwtExpiry (token : TokenClaims) : Option Nat := some token.exp

/-- `FALLBACK_COOKIE_MAX_AGE_SECONDS`. -/
def fallbackCookieMaxAgeSeconds : Nat := 60 * 60 * 24 * 7

/-- The `maxAge` of the cookie of a session; an expiry of zero is falsy. -/
def sessionMaxAge (refreshToken : TokenClaims) : WebM Nat := do
  match readJwtExpiry refreshToken with
  | some refreshExpiry =>
      if refreshExpiry = 0 then return fallbackCookieMaxAgeSeconds
      return refreshExpiry - (← dateNow)
  | none => return fallbackCookieMaxAgeSeconds

/-- `setSession`: the cookie lives as long as the refresh token. -/
def setSession (payload : SessionPayload) : WebM Unit := do
  let maxAge ← sessionMaxAge payload.refreshToken
  setCookie payload maxAge

/-- The call in flight for the key, or a new one. -/
def singleFlightRefresh (key : TokenClaims) : WebM Token := do
  match ← await (← joinOrRun key) with
  | .ok token => return token
  | .error failure => throw (.failed failure)

/-- `SAFE_REFRESH_REDIRECT_TARGETS`. -/
def safeRefreshRedirectTargets : List String :=
  ["/dashboard", "/dashboard/bookings", "/dashboard/staff"]

/-- `DEFAULT_REFRESH_REDIRECT_TARGET`. -/
def defaultRefreshRedirectTarget : String := "/dashboard"

/-- `isSafeInternalPath`. -/
def isSafeInternalPath (path : String) : Bool := safeRefreshRedirectTargets.contains path

/-- `redirect`, which throws. -/
def redirect (location : String) : WebM Unit := throw (.redirect location)

/-- The part of the action that its `try` guards. -/
def refreshAndStore (startingRefreshToken : TokenClaims) : WebM Unit := do
  let token ← singleFlightRefresh startingRefreshToken
  match readJwtExpiry token.accessToken with
  | none => throw (.error "Backend issued an access token without a readable exp claim.")
  | some accessTokenExpiresAt =>
      setSession ⟨token.accessToken, token.refreshToken, accessTokenExpiresAt⟩

/-- `refreshSessionAction`: a refresh that fails clears the session. -/
def refreshSessionAction (requestedNext : String) : WebM Unit := do
  let next := if isSafeInternalPath requestedNext then requestedNext
    else defaultRefreshRedirectTarget
  match ← getSession with
  | none => do
      clearSession
      redirect "/login"
  | some session => do
      tryCatch (refreshAndStore session.refreshToken) fun _ => do
        clearSession
        redirect "/login"
      redirect next

/-- The framework answers a redirect. -/
def answerError : WebError → WebM Unit
  | .redirect location => respond location
  | error => throw error

/-- The response has the cookies that the action has set. -/
def serveRefresh (requestedNext : String) : WebM Unit :=
  tryCatch (refreshSessionAction requestedNext) answerError

/-! ## The world -/

/-- How far a call to the backend has come. -/
inductive CallState where
  | sent
  | replied (result : Except CallFailure Token)
  | settled (result : Except CallFailure Token)
  deriving DecidableEq

/-- A promise of `singleFlightRefresh`. -/
structure Promise where
  key : TokenClaims
  state : CallState
  deriving DecidableEq

/-- A request, with the session cookie that it was sent with. -/
structure RefreshRequest where
  cookie : Option SessionPayload
  requestedNext : String
  deriving DecidableEq, Repr

/-- What browser, frontend and backend share: the cookie jar, the calls in flight with their
promises, the responses under way, the backend, and the record of what has been accepted and
delivered. -/
structure Site where
  jar : Option SessionPayload
  inFlight : TokenClaims → Option Nat
  promises : List Promise
  cookies : Pid → Option SetCookie
  responses : List Response
  backend : AccountWorld AccountCall
  accepted : List Token
  delivered : List Response

namespace Site

/-- A browser with a session, before any request. -/
def start (session : SessionPayload) (backend : AccountWorld AccountCall) : Site where
  jar := some session
  inFlight := fun _ => none
  promises := []
  cookies := fun _ => none
  responses := []
  backend := backend
  accepted := []
  delivered := []

/-- A promise has moved on. -/
def setPromise (site : Site) (id : Nat) (promise : Promise) : Site :=
  { site with promises := site.promises.set id promise }

/-- What the backend makes of a refresh token. -/
def rotates (site : Site) (cfg : AccountSettings) (key : TokenClaims) :
    Except CallFailure Token × AccountWorld AccountCall :=
  let ran := (rotateRefreshToken cfg key).run
    (Accounts.effectOf 0 (.rotateRefreshToken key)) site.backend
  match ran.1 with
  | .ok (accessToken, refreshToken) => (.ok ⟨accessToken, refreshToken⟩, ran.2.release 0)
  | .error error => (.error (.apiError error), ran.2.release 0)

/-- A call to the backend is handled. -/
def handle (site : Site) (cfg : AccountSettings) (id : Nat) (key : TokenClaims) : Site :=
  let (result, backend) := site.rotates cfg key
  { site.setPromise id ⟨key, .replied result⟩ with
    backend
    accepted := site.accepted ++ result.toOption.toList }

/-- A call settles: its key is forgotten, and whoever waits for it may go on. -/
def settle (site : Site) (id : Nat) (key : TokenClaims)
    (result : Except CallFailure Token) : Site :=
  { site.setPromise id ⟨key, .settled result⟩ with
    inFlight := Function.update site.inFlight key none }

/-- A response reaches the browser. -/
def deliver (site : Site) (index : Nat) (response : Response) : Site :=
  { site with
    jar := SetCookie.received site.jar response.setCookie
    responses := site.responses.eraseIdx index
    delivered := site.delivered ++ [response] }

end Site

/-- The effect of a statement of a request; `none` while what it waits for has not
settled. -/
def execWeb (pid : Pid) (request : RefreshRequest) :
    (stmt : WebStmt) → Site → Option (stmt.Answer × Site)
  | .getCookie, site => some (request.cookie, site)
  | .joinOrRun key, site =>
      match site.inFlight key with
      | some promise => some (promise, site)
      | none =>
          let promise := site.promises.length
          some (promise, { site with
            promises := site.promises ++ [⟨key, .sent⟩]
            inFlight := Function.update site.inFlight key (some promise) })
  | .await promise, site =>
      match site.promises[promise]? with
      | some ⟨_, .settled result⟩ => some (result, site)
      | _ => none
  | .dateNow, site => some (Accounts.toSeconds site.backend.clock, site)
  | .setCookie payload maxAge, site =>
      some ((), { site with
        cookies := Function.update site.cookies pid (some (.session payload maxAge)) })
  | .deleteCookie, site =>
      some ((), { site with cookies := Function.update site.cookies pid (some .cleared) })
  | .respond location, site =>
      some ((), { site with responses := site.responses ++ [⟨site.cookies pid, location⟩] })

/-- What happens outside the process: the backend handles a call, the answer to a call
arrives, a call fails on the network before or after it has been handled, a response
reaches the browser, or time passes. -/
inductive Move where
  | handles (id : Nat)
  | arrives (id : Nat)
  | fails (id : Nat)
  | delivers (index : Nat)
  | waits (microseconds : Nat)
  deriving DecidableEq, Repr

/-- The site after a move, if the move is possible. -/
def Site.move (cfg : AccountSettings) (site : Site) : Move → Option Site
  | .handles id =>
      match site.promises[id]? with
      | some ⟨key, .sent⟩ => some (site.handle cfg id key)
      | _ => none
  | .arrives id =>
      match site.promises[id]? with
      | some ⟨key, .replied result⟩ => some (site.settle id key result)
      | _ => none
  | .fails id =>
      match site.promises[id]? with
      | some ⟨_, .settled _⟩ => none
      | some ⟨key, _⟩ => some (site.settle id key (.error .network))
      | none => none
  | .delivers index => (site.responses[index]?).map (site.deliver index)
  | .waits microseconds => some { site with
      backend := { site.backend with clock := site.backend.clock + microseconds } }

/-- Any number of refresh requests in one process. -/
def refreshMachine (cfg : AccountSettings) : Machine Web Site RefreshRequest WebError Unit where
  perform request := serveRefresh request.requestedNext
  exec := execWeb
  enter pid site := { site with cookies := Function.update site.cookies pid none }
  leave pid site := { site with cookies := Function.update site.cookies pid none }
  ambient before after := ∃ move, before.move cfg move = some after

/-- The site with the requests that are under way. -/
abbrev RefreshConfig := Config Web Site RefreshRequest WebError Unit

end AppointmentVoice.Frontend
