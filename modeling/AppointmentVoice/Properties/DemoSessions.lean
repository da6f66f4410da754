import AppointmentVoice.Accounts.DemoGuard
import AppointmentVoice.Accounts.Statements

/-!
# Demo sessions that cannot write

The middleware blocks the writing requests of a demo user exactly when the token has not
been issued by a login and the header reads `Bearer`, one space, and the token.  A login
marks no token, and the application takes every spelling of the scheme, and further blanks.

`perform_marks` says which calls mark the tokens that they sign, over the programs, and
`marks_reached` carries it through every run.  `isPublicDemoToken_of_carries` compares the
two readers of the header.

**Main result**: `demo_sessions_are_read_only` gives the exact condition for every token
that a run has issued and every request that carries it.  `lower_case_bearer_passes` is a
request of a demo session that reaches the application.
-/

set_option autoImplicit false

namespace AppointmentVoice.Accounts

open Concurrency Program

/-! ## Which tokens are marked -/

/-- An access token for a demo user is marked, unless it is given by a login. -/
def Marked (call : AccountCall) (holder : User) (claims : TokenClaims) : Prop :=
  claims.kind = .access → holder.isDemoUser = true → claims.isPublicDemo = !call.isLogin

/-- The tokens that a statement signs are marked so. -/
def AccountStmt.Marks (call : AccountCall) : AccountStmt → Prop
  | .sign holder draft => ∀ jti, Marked call holder (draft jti)
  | _ => True

theorem reading_marks (call : AccountCall) : Reading (AccountStmt.Marks call) :=
  ⟨fun _ => trivial, trivial, fun _ => trivial⟩

theorem ordinary_marks (call : AccountCall) : Ordinary (AccountStmt.Marks call) where
  toReading := reading_marks call
  commit := trivial
  audit _ := trivial

section Programs

variable {cfg : AccountSettings} {call : AccountCall}

theorem createTokens_marks {user : User} {isPublicDemo : Bool}
    (marked : user.isDemoUser = true → isPublicDemo = !call.isLogin) :
    (createTokens cfg user isPublicDemo).Only (AccountStmt.Marks call) := by
  have reading := reading_marks call
  refine .bind (.bind (.issue reading.now) fun issuedAt => .issue fun jti _ =>
    marked) fun access => ?_
  refine .bind (.bind (.issue reading.now) fun issuedAt => .issue fun jti =>
    nofun) fun refresh => ?_
  exact .ret _

/-- **Every call marks the tokens of demo users**, except a login. -/
theorem perform_marks (cfg : AccountSettings) (call : AccountCall) :
    (performAccount cfg call).Only (AccountStmt.Marks call) := by
  have ordinary := ordinary_marks call
  refine ordinary.perform cfg (fun _ _ _ => trivial)
    (fun body _ => ordinary.confirmPasswordReset cfg
    (fun _ _ _ => trivial) (fun _ _ => trivial) body) (fun _ _ _ =>
      ⟨trivial, trivial⟩) fun user => ?_
  refine createTokens_marks fun demo => ?_
  cases call with
  | loginUser loginData tenantId => rfl
  | createDemoSession => rfl
  | _ => exact demo

end Programs

/-! ## Tokens that have been issued -/

/-- The tokens that a call has signed are marked so, and the calls go on marking them. -/
structure Marks (config : AccountConfig) : Prop where
  confined : config.Confined AccountStmt.Marks
  issued : ∀ call holder claims,
    AccountEvent.signed call holder claims ∈ config.world.history → Marked call holder claims

/-- A statement adds to the history only tokens that are marked so. -/
theorem effectOf_marks (pid : Pid) {call : AccountCall} {stmt : AccountStmt}
    {world : AccountWorld AccountCall} (marks : stmt.Marks call)
    (before : ∀ call holder claims,
      AccountEvent.signed call holder claims ∈ world.history → Marked call holder claims) :
    ∀ other holder claims,
      AccountEvent.signed other holder claims ∈ (effectOf pid call stmt world).2.history →
        Marked other holder claims := by
  intro other holder claims member
  cases stmt with
  | insert draft =>
      simp only [effectOf] at member
      split at member <;> exact before other holder claims member
  | update write =>
      simp only [effectOf] at member
      split at member <;> exact before other holder claims member
  | setNx jti ttl =>
      simp only [effectOf] at member
      split at member <;> exact before other holder claims member
  | commit =>
      rcases List.mem_append.mp member with old | new
      · exact before other holder claims old
      · cases List.mem_singleton.mp new
  | sign user draft =>
      rcases List.mem_append.mp member with old | new
      · exact before other holder claims old
      · cases List.mem_singleton.mp new
        exact marks world.nextJti
  | _ => exact before other holder claims member

theorem marks_reached {cfg : AccountSettings}
    {admitted : AccountConfig → Action AccountCall → Prop} {db : AccountDb} {nextId clock : Nat}
    {config : AccountConfig}
    (runs : Runs (accountMachine cfg) admitted (accountStart db nextId clock) config) :
    Marks config := by
  refine runs.invariant ⟨.initial _, fun _ _ _ member => by cases member⟩ ?_
  intro before action after holds _ taken
  refine ⟨holds.confined.step taken (perform_marks cfg), ?_⟩
  cases taken with
  | start call idle => exact holds.issued
  | @issue pid call stmt next log answer world running executed =>
      obtain ⟨-, effect⟩ := execAccount_some executed
      have issued := effectOf_marks pid (holds.confined.issued running) holds.issued
      rw [effect] at issued
      exact issued
  | finish running ended => exact holds.issued
  | stop running => exact holds.issued
  | ambient changed =>
      obtain ⟨later, -, rfl⟩ := changed
      exact holds.issued

/-! ## One header, read twice -/

/-- The header reads `Bearer`, a space, and a text that is the token with these claims. -/
def Scope.SpellsBearer (scope : Scope) (verify : String → Option TokenClaims)
    (claims : TokenClaims) : Prop :=
  ∃ text, scope.header "authorization" = some ("Bearer " ++ text) ∧ verify text = some claims

section Headers

variable {scope : Scope}

/-- The two readers find the same header. -/
theorem find_authorization :
    scope.headers.find? (fun header => header.1.toLower == "authorization") =
      scope.headers.find? (·.1 == "authorization") := by
  have same : ∀ header ∈ scope.headers,
      (header.1.toLower == "authorization") = (header.1 == "authorization") := by
    intro header member
    rw [scope.lowerNames header member]
  exact List.find?_congr same

theorem afterLead_append (lead text : String) : afterLead lead (lead ++ text) = some text := by
  have starts : lead.toList.isPrefixOf (lead ++ text).toList = true := by
    rw [List.isPrefixOf_iff_prefix, String.toList_append]
    exact List.prefix_append _ _
  rw [afterLead, if_pos starts, String.toList_append, List.drop_left, String.ofList_toList]

/-- What follows the lead is all of the value but the lead. -/
theorem afterLead_some {lead value text : String} (taken : afterLead lead value = some text) :
    value = lead ++ text := by
  unfold afterLead at taken
  split at taken
  · next starts =>
      obtain ⟨rest, whole⟩ := List.isPrefixOf_iff_prefix.mp starts
      rw [← whole, List.drop_left, Option.some.injEq] at taken
      rw [← String.toList_inj, String.toList_append, ← taken, String.toList_ofList, whole]
  · cases taken

/-- Of a header that starts with `Bearer `, the text up to the first space is `Bearer`. -/
theorem partition_of_bearer (text : String) : (partitionSpace ("Bearer " ++ text)).2 = text := by
  rw [partitionSpace, String.toList_append]
  exact String.ofList_toList

end Headers

/-! ## The guard and the user of a request -/

section Guarded

variable {verify : String → Option TokenClaims} {httpBearer : Scope → Option String}
  {scope : Scope} {claims : TokenClaims}

/-- The application takes a token with these claims from the header. -/
def Scope.Carries (scope : Scope) (verify : String → Option TokenClaims)
    (httpBearer : Scope → Option String) (claims : TokenClaims) : Prop :=
  ∃ credentials, httpBearer scope = some credentials ∧ verify credentials = some claims

/-- A text after `Bearer ` that has claims at all has those of the token that the application
takes. -/
theorem ReadsTokens.same_claims (reads : ReadsTokens verify httpBearer) {text : String}
    (header : scope.header "authorization" = some ("Bearer " ++ text)) {other : TokenClaims}
    (signed : verify text = some other) (carries : scope.Carries verify httpBearer claims) :
    other = claims := by
  obtain ⟨credentials, taken, signedToo⟩ := carries
  obtain ⟨authorization, found, -, rest⟩ := reads.splits scope credentials taken
  rw [header] at found
  cases found
  rw [partition_of_bearer] at rest
  rcases rest with rfl | rfl
  · exact Option.some.inj (signed.symm.trans signedToo)
  · exact Option.some.inj ((reads.blanks text other signed).symm.trans signedToo)

/-- **The middleware knows a valid token of a demo session** when it is marked and the
header is spelled as the middleware expects it. -/
theorem isPublicDemoToken_of_carries {now : Nat} (reads : ReadsTokens verify httpBearer)
    (carries : scope.Carries verify httpBearer claims) (valid : toSeconds now ≤ claims.exp) :
    isPublicDemoToken verify now scope = true ↔
      scope.SpellsBearer verify claims ∧ claims.isPublicDemo = true := by
  have seen : (scope.headers.find? fun header => header.1.toLower == "authorization").map (·.2) =
      scope.header "authorization" := by
    rw [Scope.header, find_authorization]
  constructor
  · intro knows
    unfold isPublicDemoToken at knows
    split at knows
    · cases knows
    · next name value first =>
        rw [first] at seen
        split at knows
        · cases knows
        · next text follows =>
            have header : scope.header "authorization" = some ("Bearer " ++ text) :=
              seen.symm.trans (congrArg some (afterLead_some follows))
            split at knows
            · next payload decoded =>
                have signed : verify text = some payload := (Option.filter_eq_some_iff.mp decoded).1
                obtain rfl := reads.same_claims header signed carries
                exact ⟨⟨text, header, signed⟩, knows⟩
            · cases knows
  · rintro ⟨⟨text, header, signed⟩, marked⟩
    rw [header, Option.map_eq_some_iff] at seen
    obtain ⟨⟨name, value⟩, first, rfl⟩ := seen
    have decoded : decodeText verify now text = some claims := by
      rw [decodeText, signed, Option.filter_some, if_pos (decide_eq_true valid)]
    simp only [isPublicDemoToken, first, afterLead_append, decoded, marked]

/-- A user is found for a token before it has expired only. -/
theorem unexpired_of_getCurrentUser {token : TokenClaims} {slug : Option String} {pid : Pid}
    {owner : AccountCall} {world after : AccountWorld AccountCall} {user : User}
    (returns : (getCurrentUser token slug).run (effectOf pid owner) world = (.ok user, after)) :
    toSeconds world.clock ≤ token.exp := by
  by_contra late
  have expired : ((decodeToken token).run (effectOf pid owner) world) = (.ok none, world) := by
    change (Except.ok (if toSeconds world.clock ≤ token.exp then some token else none), world) = _
    rw [if_neg late]
  rw [getCurrentUser, Program.run_bind, expired] at returns
  cases returns

theorem unexpired_of_returns {pid : Pid} {owner : AccountCall}
    {world after : AccountWorld AccountCall}
    {user : User} (carries : scope.Carries verify httpBearer claims)
    (returns : (currentUserOf verify httpBearer scope).run (effectOf pid owner) world =
      (.ok user, after)) :
    toSeconds world.clock ≤ claims.exp := by
  obtain ⟨credentials, taken, signed⟩ := carries
  rw [currentUserOf, taken] at returns
  change (orRaise _ (verify credentials) >>= _).run _ _ = _ at returns
  rw [signed] at returns
  exact unexpired_of_getCurrentUser returns

end Guarded

/-- **The writing requests of a demo user are answered by the middleware** exactly when the
token has not been issued by a login and the header reads `Bearer`, a space, and the token. -/
theorem demo_sessions_are_read_only (cfg : AccountSettings) {verify : String → Option TokenClaims}
    {httpBearer : Scope → Option String} (reads : ReadsTokens verify httpBearer)
    {db : AccountDb} {nextId clock : Nat} {config : AccountConfig}
    (runs : AccountRun cfg (accountStart db nextId clock) config)
    {call : AccountCall} {holder : User} {claims : TokenClaims}
    (issued : AccountEvent.signed call holder claims ∈ config.world.history)
    (access : claims.kind = .access) (demo : holder.isDemoUser = true) {scope : Scope}
    (http : scope.type = "http") (writes : scope.method ∈ mutationMethods)
    (outside : scope.path ∉ demoAllowlist) (carries : scope.Carries verify httpBearer claims)
    {pid : Pid} {owner : AccountCall} {world after : AccountWorld AccountCall}
    {now : Nat} {user : User}
    (earlier : now ≤ world.clock)
    (returns : (currentUserOf verify httpBearer scope).run (effectOf pid owner) world =
      (.ok user, after)) :
    demoReadOnlyMiddleware verify now scope = .answered demo403 ↔
      call.isLogin = false ∧ scope.SpellsBearer verify claims := by
  have marked : claims.isPublicDemo = !call.isLogin :=
    (marks_reached runs).issued call holder claims issued access demo
  have valid : toSeconds now ≤ claims.exp :=
    (Nat.div_le_div_right earlier).trans (unexpired_of_returns carries returns)
  have known := isPublicDemoToken_of_carries reads carries valid
  have answers : demoReadOnlyMiddleware verify now scope = .answered demo403 ↔
      isPublicDemoToken verify now scope = true := by
    rw [demoReadOnlyMiddleware, if_neg (not_not.mpr http), if_neg (not_not.mpr writes),
      if_neg outside]
    split
    · next knows => exact ⟨fun _ => knows, fun _ => rfl⟩
    · next unknown => exact ⟨nofun, fun knows => absurd knows unknown⟩
  rw [answers, known, marked, and_comm, Bool.not_eq_true']

/-! ## Requests that pass and requests that do not -/

/-- The demo user and its salon. -/
def demoDb : AccountDb :=
  { AccountDb.empty with
    tenants := [⟨1, "demo", "Demo", true⟩]
    users := [demoUser]
    salons := [{ id := 1, tenantId := 1, name := "Demo", timezone := "UTC" }] }
where
  demoUser : User :=
    { id := 1, tenantId := 1, email := "demo@example.com", hashedPassword := "p",
      isDemoUser := true }

/-- A demo session is created and the demo user logs in. -/
def demoAndLogin : List (Action AccountCall) :=
  .start 0 .createDemoSession :: List.replicate 6 (.issue 0) ++
    .start 1 (.loginUser ⟨"demo@example.com", "p"⟩ 1) :: List.replicate 5 (.issue 1)

/-- The access token with some number that has been signed for the demo user. -/
def demoClaims (jti : Nat) (isPublicDemo : Bool) : TokenClaims :=
  { kind := .access, sub := 1, tenantId := 1, tokenVersion := 0, exp := 1800, jti, isPublicDemo }

/-- The signatures of the two access tokens. -/
def demoVerify (text : String) : Option TokenClaims :=
  if text = "demo" then some (demoClaims 0 true)
  else if text = "login" then some (demoClaims 2 false)
  else none

/-- `HTTPBearer` as the application runs it: the credentials come without the blanks around
them. -/
def stripsCredentials (scope : Scope) : Option String :=
  match scope.header "authorization" with
  | none => none
  | some authorization =>
      let (scheme, credentials) := partitionSpace authorization
      if scheme.isEmpty || (strip credentials).isEmpty then none
      else if scheme.toLower ≠ "bearer" then none
      else some (strip credentials)

theorem demo_readsTokens : ReadsTokens demoVerify stripsCredentials where
  splits scope credentials taken := by
    unfold stripsCredentials at taken
    split at taken
    · cases taken
    · next authorization found =>
        simp only at taken
        split at taken
        · cases taken
        · split at taken
          · cases taken
          · next scheme =>
              exact ⟨authorization, found, not_not.mp scheme, .inr (Option.some.inj taken).symm⟩
  blanks text claims signed := by
    unfold demoVerify at signed
    split at signed
    · next same =>
        subst same
        cases signed
        decide +kernel
    · split at signed
      · next same =>
          subst same
          cases signed
          decide +kernel
      · cases signed

/-- A request to refund a payment. -/
def refundRequest (authorization : String) : Scope where
  type := "http"
  method := "POST"
  path := "/api/v1/businesses/1/bookings/1/refund"
  headers := [("authorization", authorization)]
  lowerNames := by
    intro header member
    cases List.mem_singleton.mp member
    change "authorization".toLower = "authorization"
    decide +kernel

theorem demoAndLogin_possible :
    ((accountStart demoDb 2 0).runActions (accountMachine plainSettings) demoAndLogin).isSome =
      true := by
  decide +kernel

/-- A token that has been issued for the demo user, and a request under a header with which
the application finds that user. -/
structure ActsAsDemo (config : AccountConfig) (call : AccountCall) (claims : TokenClaims)
    (scope : Scope) : Prop where
  issued : AccountEvent.signed call demoDb.demoUser claims ∈ config.world.history
  access : claims.kind = .access
  http : scope.type = "http"
  writes : scope.method ∈ mutationMethods
  outside : scope.path ∉ demoAllowlist
  carries : scope.Carries demoVerify stripsCredentials claims
  returns : ∃ after, (currentUserOf demoVerify stripsCredentials scope).run (effectOf 2 call)
    config.world =
    (.ok demoDb.demoUser, after)

/-- The configuration after the two calls. -/
def demoConfig : AccountConfig :=
  ((accountStart demoDb 2 0).runActions (accountMachine plainSettings) demoAndLogin).get
    demoAndLogin_possible

theorem demoConfig_reached : AccountRun plainSettings (accountStart demoDb 2 0) demoConfig :=
  AccountRun.of_actions demoAndLogin_possible

/-- A run alone that returns a value, read off the value. -/
theorem returns_of_toOption {program : AccountM User} {call : AccountCall}
    {world : AccountWorld AccountCall} {user : User}
    (value : (program.run (effectOf 2 call) world).1.toOption = some user) :
    ∃ after, program.run (effectOf 2 call) world = (.ok user, after) := by
  cases ran : program.run (effectOf 2 call) world with
  | mk result after =>
      rw [ran] at value
      cases result with
      | ok found => exact ⟨after, by rw [Option.some.inj value]⟩
      | error error => cases value

theorem demoConfig_signed : demoConfig.world.history.take 1 =
    [.signed .createDemoSession demoDb.demoUser (demoClaims 0 true)] := by
  decide +kernel

theorem demoConfig_actsAsDemo {authorization : String}
    (taken : stripsCredentials (refundRequest authorization) = some "demo")
    (value : ((currentUserOf demoVerify stripsCredentials (refundRequest authorization)).run
      (effectOf 2 .createDemoSession) demoConfig.world).1.toOption = some demoDb.demoUser) :
    ActsAsDemo demoConfig .createDemoSession (demoClaims 0 true) (refundRequest authorization) where
  issued := List.mem_of_mem_take (demoConfig_signed ▸ List.mem_singleton_self _)
  access := rfl
  http := rfl
  writes := List.mem_cons_self
  outside := by
    change "/api/v1/businesses/1/bookings/1/refund" ∉ demoAllowlist
    decide
  carries := ⟨"demo", taken, by decide +kernel⟩
  returns := returns_of_toOption value

theorem demo_refund_is_blocked :
    ActsAsDemo demoConfig .createDemoSession (demoClaims 0 true) (refundRequest "Bearer demo") ∧
      demoReadOnlyMiddleware demoVerify 0 (refundRequest "Bearer demo") = .answered demo403 := by
  have acts := demoConfig_actsAsDemo
    (by decide +kernel : stripsCredentials (refundRequest "Bearer demo") = _) (by decide +kernel)
  obtain ⟨after, returns⟩ := acts.returns
  have answered := demo_sessions_are_read_only plainSettings demo_readsTokens demoConfig_reached
    acts.issued acts.access rfl acts.http acts.writes acts.outside acts.carries
      (Nat.zero_le _) returns
  exact ⟨acts, answered.mpr ⟨rfl, "demo", by decide +kernel, by decide +kernel⟩⟩

/-- Under `bearer` the token of a demo session passes the middleware. -/
theorem lower_case_bearer_passes :
    ¬∀ config call claims scope, AccountRun plainSettings (accountStart demoDb 2 0) config →
      ActsAsDemo config call claims scope →
        demoReadOnlyMiddleware demoVerify 0 scope = .answered demo403 := by
  intro blocked
  have acts := demoConfig_actsAsDemo
    (by decide +kernel : stripsCredentials (refundRequest "bearer demo") = _) (by decide +kernel)
  have answered := blocked _ _ _ _ demoConfig_reached acts
  have passes : demoReadOnlyMiddleware demoVerify 0 (refundRequest "bearer demo") = .called := by
    decide +kernel
  rw [passes] at answered
  cases answered

end AppointmentVoice.Accounts
