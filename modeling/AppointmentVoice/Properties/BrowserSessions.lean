import AppointmentVoice.Concurrency.Paths
import AppointmentVoice.Frontend.Refresh

/-!
# Concurrent refreshes and the session cookie

Requests that carry one session cookie share one call to the backend as long as it is in
flight, and then they all answer with the same session, or all clear it.  The call is
forgotten when it settles: a request that asks after that sends the spent token again, is
refused, and clears the session that the first one has brought.  So the browser stays
logged in whenever every request asks before the call has settled, and the session is not
written with a refresh token that has expired by then.

**The invariant.** `OneFlight` says what the process, the jar and the responses hold while the
first call for the token is in flight and after it; every request keeps to its monitor
(`serveRefresh_along`), and statements and deliveries keep the invariant (`OneFlight.issue`,
`OneFlight.delivers`).

**The result.** `browser_stays_logged_in`; a request that comes late logs the browser out
(`late_request_logs_out`).
-/

set_option autoImplicit false

namespace AppointmentVoice.Frontend

open Concurrency Program
open Accounts (TokenClaims AccountSettings AccountWorld AccountCall)

/-- The session that a pair of tokens makes. -/
def Token.session (token : Token) : SessionPayload :=
  ⟨token.accessToken, token.refreshToken, token.accessToken.exp⟩

/-! ## What a request has found out -/

/-- The promise that a request waits for, and what it has come to. -/
structure Refreshing where
  promise : Option Nat := none
  result : Option (Except CallFailure Token) := none

namespace Refreshing

/-- The answers that are possible: a request reads its own cookie. -/
def may (request : RefreshRequest) : Event Web → Prop
  | ⟨.getCookie, cookie⟩ => cookie = request.cookie
  | _ => True

/-- A request asks with its own token, and its answer follows from the call. -/
def must (request : RefreshRequest) (state : Refreshing) : WebStmt → Prop
  | .joinOrRun key => request.cookie.map (·.refreshToken) = some key
  | .await promise => state.promise = some promise
  | .setCookie payload _ => ∃ token, state.result = some (.ok token) ∧ payload = token.session
  | .deleteCookie => request.cookie = none ∨ ∃ failure, state.result = some (.error failure)
  | _ => True

def learn (state : Refreshing) : Event Web → Refreshing
  | ⟨.joinOrRun _, promise⟩ => { state with promise := some promise }
  | ⟨.await _, result⟩ => { state with result := some result }
  | _ => state

end Refreshing

def refreshMonitor (request : RefreshRequest) : Monitor Web Refreshing where
  may _ := Refreshing.may request
  must := Refreshing.must request
  learn := Refreshing.learn

def refreshWatch : Watch Web RefreshRequest WebError Unit Refreshing where
  monitor := refreshMonitor
  initial _ := {}
  post _ _ _ := True

/-! ## The program of a request -/

section Programs

variable {request : RefreshRequest} {session : SessionPayload}

/-- A session is written for the tokens that have come. -/
theorem along_setSession {token : Token} {state : Refreshing}
    (came : state.result = some (.ok token)) {post : Except WebError Unit → Refreshing → Prop}
    (rest : ∀ done, post (.ok done) state) :
    (refreshMonitor request).Along post (setSession token.session) state := by
  have writes : ∀ maxAge,
      (refreshMonitor request).Along post (setCookie token.session maxAge) state := fun maxAge =>
    .call ⟨token, came, rfl⟩ fun _ _ => .ret (rest ())
  unfold setSession sessionMaxAge readJwtExpiry
  dsimp only
  split
  · exact writes _
  · exact .call trivial fun _ _ => writes _

/-- What is left of an action when its `try` raises: the call has failed. -/
theorem along_refreshAndStore (owned : request.cookie = some session) :
    (refreshMonitor request).Along
      (fun result state => ∀ error, result = .error error →
        ∃ failure, state.result = some (.error failure))
      (refreshAndStore session.refreshToken) {} := by
  have asked : request.cookie.map (·.refreshToken) = some session.refreshToken := by
    rw [owned, Option.map_some]
  refine .bind (.issue asked fun promise _ => ?_)
  refine .issue rfl fun answer _ => ?_
  cases (answer : Except CallFailure Token) with
  | error failure => exact .raise fun _ _ => ⟨failure, rfl⟩
  | ok token => exact .ret (along_setSession rfl fun _ => nofun)

theorem along_answerError (error : WebError) (state : Refreshing) :
    (refreshMonitor request).Along (fun _ _ => True) (answerError error) state := by
  cases error with
  | redirect location => exact .call trivial fun _ _ => .ret trivial
  | failed failure => exact .raise trivial
  | error message => exact .raise trivial

/-- **Every request keeps to its monitor.** -/
theorem serveRefresh_along (request : RefreshRequest) :
    (refreshMonitor request).Along (fun _ _ => True) (serveRefresh request.requestedNext) {} := by
  refine .tryCatch (.issue trivial fun answer same => ?_)
  obtain rfl : answer = request.cookie := same
  cases owned : request.cookie with
  | none => exact .issue (.inl owned) fun _ _ => .raise (along_answerError _ _)
  | some session =>
      refine .bind (.tryCatch ((along_refreshAndStore owned).mono fun result state ends => ?_))
      cases result with
      | ok done => exact .raise (along_answerError _ _)
      | error error =>
          exact .issue (.inr (ends error rfl)) fun _ _ => .raise (along_answerError _ _)

end Programs

/-! ## One call for all -/

/-- The only call to the backend has settled. -/
def Site.Settled (site : Site) (result : Except CallFailure Token) : Prop :=
  ∃ key, site.promises[0]? = some ⟨key, .settled result⟩

/-- The cookie follows from the call. -/
def SetCookie.Fits (site : Site) : SetCookie → Prop
  | .session payload maxAge => maxAge ≠ 0 ∧ ∃ token, site.Settled (.ok token) ∧
      payload = token.session
  | .cleared => ∃ failure, site.Settled (.error failure)

/-- **The invariant**: there is at most one call, for the token of the session, and who
asks before it has settled finds it; all cookies follow from it, and the jar holds the
session once a response has brought it. -/
structure OneFlight (session : SessionPayload) (site : Site)
    (stages : Pid → Refreshing) : Prop where
  single : site.promises.length ≤ 1
  keys : ∀ promise ∈ site.promises, promise.key = session.refreshToken
  inFlight : ∀ promise, site.promises[0]? = some promise →
    (∀ result, promise.state ≠ .settled result) → site.inFlight session.refreshToken = some 0
  found : ∀ id, site.inFlight session.refreshToken = some id → id < site.promises.length
  waits : ∀ pid id, (stages pid).promise = some id → id < site.promises.length
  knows : ∀ pid result, (stages pid).result = some result → site.Settled result
  cookies : ∀ pid cookie, site.cookies pid = some cookie → cookie.Fits site
  responses : ∀ response ∈ site.responses ++ site.delivered, ∀ cookie,
    response.setCookie = some cookie → cookie.Fits site
  jar : ∀ response ∈ site.delivered, ∀ payload maxAge,
    response.setCookie = some (.session payload maxAge) → site.jar = some payload

theorem Site.Settled.unique {site : Site} {first second : Except CallFailure Token}
    (settled : site.Settled first) (settledToo : site.Settled second) : first = second := by
  obtain ⟨key, there⟩ := settled
  obtain ⟨keyToo, thereToo⟩ := settledToo
  cases Option.some.inj (there.symm.trans thereToo)
  rfl

theorem SetCookie.Fits.settled {site : Site} {cookie : SetCookie} (fits : cookie.Fits site) :
    ∃ result, site.Settled result := by
  cases cookie with
  | session payload maxAge =>
      obtain ⟨-, token, done, -⟩ := fits
      exact ⟨_, done⟩
  | cleared =>
      obtain ⟨failure, done⟩ := fits
      exact ⟨_, done⟩

theorem SetCookie.Fits.mono {site after : Site} {cookie : SetCookie} (fits : cookie.Fits site)
    (settled : ∀ result, site.Settled result → after.Settled result) : cookie.Fits after := by
  cases cookie with
  | session payload maxAge =>
      obtain ⟨positive, token, done, same⟩ := fits
      exact ⟨positive, token, settled _ done, same⟩
  | cleared =>
      obtain ⟨failure, done⟩ := fits
      exact ⟨failure, settled _ done⟩

section Steps

variable {session : SessionPayload} {site after : Site} {stages : Pid → Refreshing} {pid : Pid}

/-- A request that begins or ends has set no cookie and knows nothing. -/
theorem OneFlight.rest (one : OneFlight session site stages) (pid : Pid) :
    OneFlight session { site with cookies := Function.update site.cookies pid none }
      (Function.update stages pid {}) where
  single := one.single
  keys := one.keys
  inFlight := one.inFlight
  found := one.found
  waits other id waiting := by
    by_cases same : other = pid
    · rw [same, Function.update_self] at waiting
      cases waiting
    · rw [Function.update_of_ne same] at waiting
      exact one.waits other id waiting
  knows other result known := by
    by_cases same : other = pid
    · rw [same, Function.update_self] at known
      cases known
    · rw [Function.update_of_ne same] at known
      exact one.knows other result known
  cookies other cookie set := by
    dsimp only at set
    by_cases same : other = pid
    · rw [same, Function.update_self] at set
      cases set
    · rw [Function.update_of_ne same] at set
      exact one.cookies other cookie set
  responses := one.responses
  jar := one.jar

/-- A request sets a cookie that follows from the call. -/
theorem OneFlight.sets (one : OneFlight session site stages) {cookie : SetCookie}
    (fits : cookie.Fits site) :
    OneFlight session { site with cookies := Function.update site.cookies pid (some cookie) }
      (Function.update stages pid (stages pid)) := by
  rw [Function.update_eq_self]
  refine ⟨one.single, one.keys, one.inFlight, one.found, one.waits, one.knows,
    fun other chosen set => ?_, one.responses, one.jar⟩
  dsimp only at set
  by_cases same : other = pid
  · rw [same, Function.update_self] at set
    cases set
    exact fits
  · rw [Function.update_of_ne same] at set
    exact one.cookies other chosen set

/-- A call goes on: nobody has heard of its result before it settles. -/
theorem OneFlight.calls (one : OneFlight session site stages) {id : Nat} {promise later : Promise}
    (there : site.promises[id]? = some promise)
    (unsettled : ∀ result, promise.state ≠ .settled result)
    (promises : after.promises = site.promises.set id later) (key : later.key = promise.key)
    (keeps : (∀ result, later.state ≠ .settled result) →
      after.inFlight session.refreshToken = site.inFlight session.refreshToken)
    (drops : ∀ id, after.inFlight session.refreshToken = some id →
      site.inFlight session.refreshToken = some id)
    (others : after.cookies = site.cookies ∧ after.responses = site.responses ∧
      after.delivered = site.delivered ∧ after.jar = site.jar) :
    OneFlight session after stages := by
  obtain ⟨cookies, responses, delivered, jar⟩ := others
  have bound : id < site.promises.length := (List.getElem?_eq_some_iff.mp there).1
  obtain rfl : id = 0 := by
    have single := one.single
    omega
  have open_ : ∀ result, ¬site.Settled result := by
    rintro result ⟨key, settled⟩
    cases Option.some.inj (there.symm.trans settled)
    exact unsettled result rfl
  have same : after.promises[0]? = some later := by
    rw [promises, List.getElem?_set_self bound]
  have length : after.promises.length = site.promises.length := by rw [promises, List.length_set]
  refine ⟨length ▸ one.single, fun found member => ?_, fun found head goesOn =>
    ?_, fun id found => ?_,
    fun other id waiting => length ▸ one.waits other id waiting,
    fun other result known => absurd (one.knows other result known) (open_ result),
    fun other cookie set => ?_, fun response member cookie set => ?_,
    fun response member payload maxAge set => ?_⟩
  · rw [promises] at member
    rcases List.mem_or_eq_of_mem_set member with old | rfl
    · exact one.keys found old
    · rw [key]
      exact one.keys promise (List.mem_of_getElem? there)
  · obtain rfl := Option.some.inj (same.symm.trans head)
    rw [keeps goesOn]
    exact one.inFlight promise there unsettled
  · exact length ▸ one.found id (drops id found)
  · obtain ⟨result, settled⟩ := (one.cookies other cookie (cookies ▸ set)).settled
    exact absurd settled (open_ result)
  · rw [responses, delivered] at member
    obtain ⟨result, settled⟩ := (one.responses response member cookie set).settled
    exact absurd settled (open_ result)
  · rw [delivered] at member
    obtain ⟨result, settled⟩ :=
      (one.responses response (List.mem_append_right _ member) _ set).settled
    exact absurd settled (open_ result)

/-- A request asks while no call has settled: it joins the call, or makes the first one. -/
theorem OneFlight.asks (one : OneFlight session site stages)
    (open_ : ∀ promise ∈ site.promises, promise.key = session.refreshToken →
      ∀ result, promise.state ≠ .settled result)
    {request : RefreshRequest} {promise : Nat}
    (executed : execWeb pid request (.joinOrRun session.refreshToken) site = some
      (promise, after)) :
    OneFlight session after
      (Function.update stages pid { stages pid with promise := some promise }) := by
  have knows : ∀ other result, (Function.update stages pid
      { stages pid with promise := some promise } other).result = some result →
        (stages other).result = some result := by
    intro other result known
    by_cases same : other = pid
    · rw [same, Function.update_self] at known
      exact same ▸ known
    · rwa [Function.update_of_ne same] at known
  have waits : ∀ bound, promise < bound → site.promises.length ≤ bound → ∀ other id,
      (Function.update stages pid { stages pid with promise := some promise } other).promise =
        some id → id < bound := by
    intro bound here longer other id waiting
    by_cases same : other = pid
    · rw [same, Function.update_self] at waiting
      exact Option.some.inj waiting ▸ here
    · rw [Function.update_of_ne same] at waiting
      exact Nat.lt_of_lt_of_le (one.waits other id waiting) longer
  simp only [execWeb] at executed
  split at executed
  · next found there =>
      obtain ⟨rfl, rfl⟩ := Prod.mk.inj (Option.some.inj executed)
      exact ⟨one.single, one.keys, one.inFlight, one.found,
        waits _ (one.found _ there) (Nat.le_refl _),
        fun other result known => one.knows other result (knows other result known), one.cookies,
        one.responses, one.jar⟩
  · next missing =>
      obtain ⟨rfl, rfl⟩ := Prod.mk.inj (Option.some.inj executed)
      have empty : site.promises = [] := by
        cases promises : site.promises with
        | nil => rfl
        | cons first rest =>
            have member : first ∈ site.promises := promises ▸ List.mem_cons_self
            have head : site.promises[0]? = some first := by rw [promises]; rfl
            have goesOn := open_ first member (one.keys first member)
            cases (one.inFlight first head goesOn).symm.trans missing
      have never : ∀ result, ¬site.Settled result := by
        rintro result ⟨key, settled⟩
        rw [empty] at settled
        cases settled
      refine ⟨?_, fun made member => ?_, fun made head goesOn => ?_, fun id found => ?_,
        waits _ ?_ ?_, fun other result known => ?_, fun other cookie set => ?_,
        fun response member cookie set => ?_, one.jar⟩
      · dsimp only
        rw [empty]
        exact Nat.le_refl _
      · dsimp only at member
        rw [empty] at member
        cases List.mem_singleton.mp member
        rfl
      · dsimp only
        rw [Function.update_self, empty]
        rfl
      · dsimp only at found ⊢
        rw [Function.update_self] at found
        cases found
        rw [List.length_append]
        exact Nat.lt_succ_self _
      · dsimp only
        rw [List.length_append]
        exact Nat.lt_succ_self _
      · dsimp only
        rw [List.length_append]
        exact Nat.le_succ _
      · exact absurd (one.knows other result (knows other result known)) (never result)
      · obtain ⟨result, settled⟩ := (one.cookies other cookie set).settled
        exact absurd settled (never result)
      · obtain ⟨result, settled⟩ := (one.responses response member cookie set).settled
        exact absurd settled (never result)

/-- A request learns what its call has come to. -/
theorem OneFlight.hears (one : OneFlight session site stages) {promise : Nat} {key : TokenClaims}
    {result : Except CallFailure Token} (waiting : (stages pid).promise = some promise)
    (there : site.promises[promise]? = some ⟨key, .settled result⟩) :
    OneFlight session site
      (Function.update stages pid { stages pid with result := some result }) := by
  have bound := one.waits pid promise waiting
  have single := one.single
  obtain rfl : promise = 0 := by omega
  refine ⟨one.single, one.keys, one.inFlight, one.found, fun other id asked => ?_,
    fun other heard known => ?_, one.cookies, one.responses, one.jar⟩
  · by_cases same : other = pid
    · rw [same, Function.update_self] at asked
      exact one.waits pid id asked
    · rw [Function.update_of_ne same] at asked
      exact one.waits other id asked
  · by_cases same : other = pid
    · rw [same, Function.update_self] at known
      cases known
      exact ⟨key, there⟩
    · rw [Function.update_of_ne same] at known
      exact one.knows other heard known

/-- **A response reaches the browser**: what it brings is what all of them bring. -/
theorem OneFlight.delivers (one : OneFlight session site stages) {index : Nat} {response : Response}
    (there : site.responses[index]? = some response) :
    OneFlight session (site.deliver index response) stages := by
  have member : response ∈ site.responses := List.mem_of_getElem? there
  refine ⟨one.single, one.keys, one.inFlight, one.found, one.waits, one.knows, one.cookies,
    fun other among cookie set => ?_, fun other among payload maxAge set => ?_⟩
  · refine one.responses other ?_ cookie set
    rcases List.mem_append.mp among with sent | came
    · exact List.mem_append_left _ (List.mem_of_mem_eraseIdx sent)
    · rcases List.mem_append.mp came with old | new
      · exact List.mem_append_right _ old
      · rw [List.mem_singleton.mp new]
        exact List.mem_append_left _ member
  · have fits : ∀ response ∈ site.responses ++ site.delivered, ∀ cookie,
        response.setCookie = some cookie → cookie.Fits site := one.responses
    have among' : other = response ∨ other ∈ site.delivered := by
      rcases List.mem_append.mp among with old | new
      · exact .inr old
      · exact .inl (List.mem_singleton.mp new)
    have otherThere : other ∈ site.responses ++ site.delivered := by
      rcases among' with rfl | old
      · exact List.mem_append_left _ member
      · exact List.mem_append_right _ old
    obtain ⟨-, token, settled, rfl⟩ := fits other otherThere _ set
    change SetCookie.received site.jar response.setCookie = _
    cases brought : response.setCookie with
    | none =>
        rcases among' with rfl | old
        · cases brought.symm.trans set
        · exact one.jar other old _ maxAge set
    | some cookie =>
        have fitsToo := fits response (List.mem_append_left _ member) cookie brought
        cases cookie with
        | cleared =>
            obtain ⟨failure, failed⟩ := fitsToo
            cases settled.unique failed
        | session payload age =>
            obtain ⟨positive, tokenToo, settledToo, rfl⟩ := fitsToo
            cases settled.unique settledToo
            rw [SetCookie.received, if_neg positive]

/-- What happens outside keeps the invariant. -/
theorem OneFlight.moves (one : OneFlight session site stages) {cfg : AccountSettings} {move : Move}
    (moved : site.move cfg move = some after) : OneFlight session after stages := by
  cases move with
  | handles id =>
      simp only [Site.move] at moved
      split at moved
      · next key there =>
          cases moved
          exact one.calls there nofun rfl rfl (fun _ => rfl) (fun _ found => found)
            ⟨rfl, rfl, rfl, rfl⟩
      · cases moved
  | arrives id =>
      simp only [Site.move] at moved
      split at moved
      · next key result there =>
          cases moved
          refine one.calls there nofun rfl rfl (fun goesOn => (goesOn result rfl).elim)
            (fun found among => ?_) ⟨rfl, rfl, rfl, rfl⟩
          have named : key = session.refreshToken := one.keys _ (List.mem_of_getElem? there)
          rw [named, Site.settle] at among
          dsimp only at among
          rw [Function.update_self] at among
          cases among
      · cases moved
  | fails id =>
      simp only [Site.move] at moved
      split at moved
      · cases moved
      · next key state unsettled there =>
          cases moved
          have goesOn : ∀ result, state ≠ .settled result := by
            rintro result rfl
            exact unsettled result rfl
          refine one.calls there goesOn rfl rfl (fun goesOn => (goesOn _ rfl).elim)
            (fun found among => ?_) ⟨rfl, rfl, rfl, rfl⟩
          have named : key = session.refreshToken := one.keys _ (List.mem_of_getElem? there)
          rw [named, Site.settle] at among
          dsimp only at among
          rw [Function.update_self] at among
          cases among
      · cases moved
  | delivers index =>
      obtain ⟨response, there, rfl⟩ := Option.map_eq_some_iff.mp moved
      exact one.delivers there
  | waits microseconds =>
      cases moved
      exact ⟨one.single, one.keys, one.inFlight, one.found, one.waits, one.knows, one.cookies,
        one.responses, one.jar⟩

end Steps

/-! ## When a browser stays logged in -/

/-- Every request has been answered, and every response has been delivered. -/
def RefreshConfig.Quiet (config : RefreshConfig) : Prop :=
  (∀ pid, config.running pid = none) ∧ config.world.responses = []

/-- When all is delivered, and the browser has received the session of the last rotation
that the backend has accepted, the jar holds that session. -/
def StaysLoggedIn (config : RefreshConfig) : Prop :=
  config.Quiet → ∀ token maxAge location, config.world.accepted.getLast? = some token →
    ⟨some (.session token.session maxAge), location⟩ ∈ config.world.delivered →
      config.world.jar = some token.session

/-- All requests were sent with the same session cookie. -/
def SameCookie (session : SessionPayload) : Action RefreshRequest → Prop
  | .start _ request => request.cookie = some session
  | _ => True

/-- A request asks for its token before a call for the token has settled, and no session is
written that has no time to live. -/
def AsksInTime (config : RefreshConfig) : Action RefreshRequest → Prop
  | .issue pid => ∀ request rest log, config.running pid = some ⟨request, rest, log⟩ →
      (∀ key next, rest = .call (.joinOrRun key) next →
        ∀ promise ∈ config.world.promises, promise.key = key →
          ∀ result, promise.state ≠ .settled result) ∧
      ∀ payload maxAge next, rest = .call (.setCookie payload maxAge) next → maxAge ≠ 0
  | _ => True

/-- All requests that there are have the cookie. -/
def RefreshConfig.Carry (config : RefreshConfig) (session : SessionPayload) : Prop :=
  ∀ pid process, config.running pid = some process → process.call.cookie = some session

section Runs

variable {session : SessionPayload} {cfg : AccountSettings} {config later : RefreshConfig}
  {action : Action RefreshRequest}

theorem RefreshConfig.Carry.step (carry : config.Carry session) (same : SameCookie session action)
    (taken : Step (refreshMachine cfg) config action later) : later.Carry session := by
  have others : ∀ {pid : Pid} {replaced : Option (Process Web RefreshRequest WebError Unit)},
      (∀ process, replaced = some process → process.call.cookie = some session) →
      ∀ other process, Function.update config.running pid replaced other = some process →
        process.call.cookie = some session := by
    intro pid replaced fine other process running
    by_cases mine : other = pid
    · rw [mine, Function.update_self] at running
      exact fine process running
    · rw [Function.update_of_ne mine] at running
      exact carry other process running
  cases taken with
  | start request idle =>
      refine others fun process made => ?_
      cases made
      exact same
  | issue running executed =>
      refine others fun process made => ?_
      cases made
      have here := carry _ _ running
      exact here
  | finish running ended => exact others (fun _ none => nomatch none)
  | stop running => exact others (fun _ none => nomatch none)
  | ambient changed => exact carry

/-- **One statement of a request** keeps the invariant. -/
theorem OneFlight.issue {site after : Site} {stages : Pid → Refreshing} {pid : Pid}
    (one : OneFlight session site stages) {request : RefreshRequest} {stmt : WebStmt}
    {answer : stmt.Answer} (carries : request.cookie = some session)
    (allowed : Refreshing.must request (stages pid) stmt)
    (open_ : ∀ key, stmt = .joinOrRun key → ∀ promise ∈ site.promises, promise.key = key →
      ∀ result, promise.state ≠ .settled result)
    (lives : ∀ payload maxAge, stmt = .setCookie payload maxAge → maxAge ≠ 0)
    (executed : execWeb pid request stmt site = some (answer, after)) :
    OneFlight session after (Function.update stages pid ((stages pid).learn ⟨stmt, answer⟩)) := by
  have quiet : OneFlight session site (Function.update stages pid (stages pid)) := by
    rw [Function.update_eq_self]
    exact one
  cases stmt with
  | getCookie =>
      cases executed
      exact quiet
  | joinOrRun key =>
      have named : key = session.refreshToken := by
        rw [Refreshing.must, carries, Option.map_some] at allowed
        exact (Option.some.inj allowed).symm
      subst named
      exact one.asks (open_ _ rfl) executed
  | await promise =>
      simp only [execWeb] at executed
      split at executed
      · next there =>
          cases executed
          exact one.hears allowed there
      · cases executed
  | dateNow =>
      cases executed
      exact quiet
  | setCookie payload maxAge =>
      obtain ⟨token, came, rfl⟩ := allowed
      cases executed
      exact one.sets ⟨lives _ maxAge rfl, token, one.knows pid _ came, rfl⟩
  | deleteCookie =>
      cases executed
      rcases allowed with none | ⟨failure, came⟩
      · cases carries.symm.trans none
      · exact one.sets ⟨failure, one.knows pid _ came⟩
  | respond location =>
      cases executed
      refine ⟨quiet.single, quiet.keys, quiet.inFlight, quiet.found, quiet.waits, quiet.knows,
        quiet.cookies, fun response member cookie set => ?_, quiet.jar⟩
      rcases List.mem_append.mp member with sent | came
      · rcases List.mem_append.mp sent with old | new
        · exact one.responses response (List.mem_append_left _ old) cookie set
        · cases List.mem_singleton.mp new
          exact one.cookies pid cookie set
      · exact one.responses response (List.mem_append_right _ came) cookie set

theorem OneFlight.step (one : OneFlight session config.world (config.stages refreshWatch {}))
    (watched : config.Watched refreshWatch) (carry : config.Carry session)
    (inTime : AsksInTime config action) (taken : Step (refreshMachine cfg) config action later) :
    OneFlight session later.world (later.stages refreshWatch {}) := by
  cases watched.staged taken {} with
  | start idle world stages =>
      rw [world, stages]
      exact one.rest _
  | @issue pid request stmt next log answer running allowed executed stages =>
      rw [stages]
      obtain ⟨open_, lives⟩ := inTime request _ log running
      refine one.issue (carry pid _ running) allowed (fun key same => ?_)
        (fun payload maxAge same => ?_) executed
      · subst same
        exact open_ key next rfl
      · subst same
        exact lives payload maxAge next rfl
  | finish met world stages =>
      rw [world, stages]
      exact one.rest _
  | stop world stages =>
      rw [world, stages]
      exact one.rest _
  | ambient changed stages =>
      rw [stages]
      obtain ⟨move, moved⟩ := changed
      exact one.moves moved

/-- **Concurrent refreshes keep the browser logged in**, if every request asks before the
call for the token has settled, and no session is written that has no time to live. -/
theorem browser_stays_logged_in (cfg : AccountSettings) (session : SessionPayload)
    (backend : AccountWorld AccountCall) {config : RefreshConfig}
    (runs : Runs (refreshMachine cfg)
      (fun config action => SameCookie session action ∧ AsksInTime config action)
      (Config.initial (Site.start session backend)) config) : StaysLoggedIn config := by
  have holds : config.Watched refreshWatch ∧ config.Carry session ∧
      OneFlight session config.world (config.stages refreshWatch {}) := by
    induction runs with
    | refl =>
        refine ⟨.initial _ _, nofun, ?_⟩
        exact ⟨Nat.zero_le _, nofun, nofun, nofun, nofun, nofun, nofun, nofun, nofun⟩
    | tail _ last ih =>
        obtain ⟨action, ⟨same, inTime⟩, taken⟩ := last
        obtain ⟨watched, carry, one⟩ := ih
        refine ⟨watched.step taken serveRefresh_along ?_, carry.step same taken,
          one.step watched carry inTime taken⟩
        intro pid request stmt next log answer site named running executed
        cases stmt with
        | getCookie =>
            cases executed
            rfl
        | _ => trivial
  exact fun _ token maxAge location _ received =>
    holds.2.2.jar _ received token.session maxAge rfl

end Runs

/-! ## Two requests with one cookie -/

/-- Carry out steps of requests and moves outside, in this order, as long as a guard
passes. -/
def drive (cfg : AccountSettings) (guard : RefreshConfig → Action RefreshRequest → Bool) :
    List (Action RefreshRequest ⊕ Move) → RefreshConfig → Option RefreshConfig
  | [], config => some config
  | .inl action :: rest, config =>
      if guard config action then
        match config.act (refreshMachine cfg) action with
        | some later => drive cfg guard rest later
        | none => none
      else none
  | .inr move :: rest, config =>
      match config.world.move cfg move with
      | some site => drive cfg guard rest ⟨site, config.running, config.finished⟩
      | none => none

/-- What can be carried out is a run. -/
theorem runs_of_drive {cfg : AccountSettings} {guard : RefreshConfig → Action RefreshRequest → Bool}
    {admitted : RefreshConfig → Action RefreshRequest → Prop}
    (sound : ∀ config action, guard config action = true → admitted config action)
    (outside : ∀ config, admitted config .ambient)
    (steps : List (Action RefreshRequest ⊕ Move)) {start config : RefreshConfig}
    (ran : drive cfg guard steps start = some config) :
    Runs (refreshMachine cfg) admitted start config := by
  induction steps generalizing start with
  | nil =>
      cases ran
      exact .refl
  | cons step rest ih =>
      cases step with
      | inl action =>
          simp only [drive] at ran
          split at ran
          · next passes =>
              split at ran
              · next acted => exact .head ⟨action, sound _ _ passes, .of_act acted⟩ (ih ran)
              · cases ran
          · cases ran
      | inr move =>
          simp only [drive] at ran
          split at ran
          · next moved => exact .head ⟨.ambient, outside _, .ambient ⟨move, moved⟩⟩ (ih ran)
          · cases ran

/-- A request that is not started by a step does not run after it. -/
theorem idle_of_step {cfg : AccountSettings} {config later : RefreshConfig}
    {action : Action RefreshRequest} {pid : Pid} (idle : config.running pid = none)
    (apart : ∀ request, action ≠ .start pid request)
    (taken : Step (refreshMachine cfg) config action later) : later.running pid = none := by
  have others : ∀ {other : Pid} {replaced : Option (Process Web RefreshRequest WebError Unit)},
      pid ≠ other → Function.update config.running other replaced pid = none := by
    intro other replaced different
    rw [Function.update_of_ne different]
    exact idle
  cases taken with
  | start request free => exact others fun same => apart request (same ▸ rfl)
  | issue running executed => exact others fun same => nomatch (same ▸ idle).symm.trans running
  | finish running ended => exact others fun same => nomatch (same ▸ idle).symm.trans running
  | stop running => exact others fun same => nomatch (same ▸ idle).symm.trans running
  | ambient changed => exact idle

/-- The request that a step starts. -/
def startsRequest : Action RefreshRequest ⊕ Move → Option Pid
  | .inl (.start pid _) => some pid
  | _ => none

/-- Only requests that have been started run. -/
theorem drive_idle {cfg : AccountSettings} {guard : RefreshConfig → Action RefreshRequest → Bool}
    {pid : Pid} (steps : List (Action RefreshRequest ⊕ Move)) {start config : RefreshConfig}
    (idle : start.running pid = none) (apart : some pid ∉ steps.map startsRequest)
    (ran : drive cfg guard steps start = some config) : config.running pid = none := by
  induction steps generalizing start with
  | nil =>
      cases ran
      exact idle
  | cons step rest ih =>
      rw [List.map_cons, List.mem_cons, not_or] at apart
      cases step with
      | inl action =>
          simp only [drive] at ran
          split at ran
          · split at ran
            · next acted =>
                refine ih (idle_of_step idle ?_ (.of_act acted)) apart.2 ran
                rintro request rfl
                exact apart.1 rfl
            · cases ran
          · cases ran
      | inr move =>
          simp only [drive] at ran
          split at ran
          · refine ih ?_ apart.2 ran
            exact idle
          · cases ran

/-- A user of a salon, at the backend. -/
def salonBackend : AccountWorld AccountCall :=
  AccountWorld.start { Accounts.AccountDb.empty with
    tenants := [⟨1, "salon", "Salon", true⟩]
    users := [{ id := 1, tenantId := 1, email := "user@example.com", hashedPassword := "p" }] } 2
    (10 * Accounts.second)

/-- The session from a login of the user. -/
def loginSession : SessionPayload where
  accessToken :=
    { kind := .access, sub := 1, tenantId := 1, tokenVersion := 0, exp := 5, jti := 100 }
  refreshToken :=
    { kind := .refresh, sub := 1, tenantId := 1, tokenVersion := 0, exp := 604800, jti := 101 }
  accessTokenExpiresAt := 5

def refreshRequest : RefreshRequest := ⟨some loginSession, "/dashboard"⟩

/-- What the one accepted rotation brings. -/
def rotatedToken : Token where
  accessToken :=
    { kind := .access, sub := 1, tenantId := 1, tokenVersion := 0, exp := 1810, jti := 0 }
  refreshToken :=
    { kind := .refresh, sub := 1, tenantId := 1, tokenVersion := 0, exp := 604810, jti := 1 }

def issues (pid : Pid) (statements : Nat) : List (Action RefreshRequest ⊕ Move) :=
  List.replicate statements (.inl (.issue pid))

/-- The second request asks while the call of the first one is in flight, and its response
is delivered first. -/
def sharesTheCall : List (Action RefreshRequest ⊕ Move) :=
  .inl (.start 0 refreshRequest) :: .inl (.start 1 refreshRequest) :: issues 0 2 ++
    .inr (.handles 0) :: issues 1 2 ++ .inr (.arrives 0) :: issues 0 4 ++ issues 1 4 ++
      [.inl (.finish 0), .inl (.finish 1), .inr (.delivers 1), .inr (.delivers 0)]

/-- The second request arrives when the call of the first one has settled. -/
def arrivesLate : List (Action RefreshRequest ⊕ Move) :=
  .inl (.start 0 refreshRequest) :: issues 0 2 ++ .inr (.handles 0) :: .inr (.arrives 0) ::
    issues 0 4 ++ .inl (.finish 0) :: .inr (.delivers 0) ::
      .inl (.start 1 refreshRequest) :: issues 1 2 ++ .inr (.handles 1) :: .inr (.arrives 1) ::
        issues 1 3 ++ [.inl (.finish 1), .inr (.delivers 0)]

/-- The action starts a request with the cookie of the login. -/
def carriesLogin : Action RefreshRequest → Bool
  | .start _ request => request.cookie == some loginSession
  | _ => true

def CallState.isSettled : CallState → Bool
  | .settled _ => true
  | _ => false

/-- No call has settled when a request asks, and cookies have time to live. -/
def looksInTime (config : RefreshConfig) : Action RefreshRequest → Bool
  | .issue pid =>
      match config.running pid with
      | some ⟨_, .call (.joinOrRun _) _, _⟩ => !config.world.promises.any (·.state.isSettled)
      | some ⟨_, .call (.setCookie _ maxAge) _, _⟩ => maxAge != 0
      | _ => true
  | _ => true

theorem carriesLogin_sound (action : Action RefreshRequest) (carries : carriesLogin action = true) :
    SameCookie loginSession action := by
  cases action with
  | start pid request => exact beq_iff_eq.mp carries
  | _ => trivial

theorem looksInTime_sound (config : RefreshConfig) (action : Action RefreshRequest)
    (looks : looksInTime config action = true) : AsksInTime config action := by
  cases action with
  | issue pid =>
      intro request rest log running
      rw [looksInTime, running] at looks
      constructor
      · rintro key next rfl promise member - result settled
        rw [Bool.not_eq_true', List.any_eq_false] at looks
        refine looks promise member ?_
        rw [settled]
        rfl
      · rintro payload maxAge next rfl
        exact bne_iff_ne.mp looks
  | _ => trivial

theorem sharesTheCall_possible :
    (drive Accounts.plainSettings
      (fun config action => carriesLogin action && looksInTime config action)
      sharesTheCall (Config.initial (Site.start loginSession salonBackend))).isSome = true := by
  decide +kernel

theorem shared_call_keeps_the_session : ∃ config : RefreshConfig,
    Runs (refreshMachine Accounts.plainSettings)
        (fun config action => SameCookie loginSession action ∧ AsksInTime config action)
        (Config.initial (Site.start loginSession salonBackend)) config ∧
      config.world.delivered.map (·.location) = ["/dashboard", "/dashboard"] ∧
      config.world.jar = some rotatedToken.session ∧ StaysLoggedIn config := by
  have sound : ∀ (config : RefreshConfig) action,
      (carriesLogin action && looksInTime config action) = true →
        SameCookie loginSession action ∧ AsksInTime config action := by
    intro config action looks
    rw [Bool.and_eq_true] at looks
    exact ⟨carriesLogin_sound action looks.1, looksInTime_sound config action looks.2⟩
  have runs := runs_of_drive sound (fun _ => ⟨trivial, trivial⟩) sharesTheCall
    (Option.some_get sharesTheCall_possible).symm
  exact ⟨_, runs, by decide +kernel, by decide +kernel,
    browser_stays_logged_in Accounts.plainSettings loginSession salonBackend runs⟩

theorem arrivesLate_possible :
    (drive Accounts.plainSettings (fun _ => carriesLogin) arrivesLate
      (Config.initial (Site.start loginSession salonBackend))).isSome = true := by
  decide +kernel

/-- The browser has received the new session, and the late request clears it. -/
theorem late_request_logs_out : ∃ config : RefreshConfig,
    Runs (refreshMachine Accounts.plainSettings) (fun _ => SameCookie loginSession)
        (Config.initial (Site.start loginSession salonBackend)) config ∧
      config.world.accepted = [rotatedToken] ∧ config.world.jar = none ∧ ¬StaysLoggedIn config := by
  have ran := (Option.some_get arrivesLate_possible).symm
  have runs : Runs (refreshMachine Accounts.plainSettings) (fun _ => SameCookie loginSession) _ _ :=
    runs_of_drive (fun _ => carriesLogin_sound) (fun _ => trivial) arrivesLate ran
  have accepted : ((drive Accounts.plainSettings (fun _ => carriesLogin) arrivesLate
      (Config.initial (Site.start loginSession salonBackend))).get
        arrivesLate_possible).world.accepted =
        [rotatedToken] := by
    decide +kernel
  have jar : ((drive Accounts.plainSettings (fun _ => carriesLogin) arrivesLate
      (Config.initial (Site.start loginSession salonBackend))).get arrivesLate_possible).world.jar =
        none := by
    decide +kernel
  refine ⟨_, runs, accepted, jar, fun stays => ?_⟩
  have quiet : RefreshConfig.Quiet
    ((drive Accounts.plainSettings (fun _ => carriesLogin) arrivesLate
      (Config.initial (Site.start loginSession salonBackend))).get arrivesLate_possible) := by
    refine ⟨fun pid => ?_, by decide +kernel⟩
    match pid with
    | 0 => decide +kernel
    | 1 => decide +kernel
    | pid + 2 =>
        refine drive_idle arrivesLate rfl (fun among => ?_) ran
        have started : arrivesLate.map startsRequest ⊆ [none, some 0, some 1] := by decide
        have listed := started among
        simp at listed
  have last := congrArg List.getLast? accepted
  have kept := stays quiet rotatedToken 604800 "/dashboard" last (by decide +kernel)
  cases jar.symm.trans kept

end AppointmentVoice.Frontend
