import AppointmentVoice.Accounts.History
import AppointmentVoice.Accounts.Statements

/-!
# Refresh tokens are spent once

A rotation spends its token by setting the key of the token, for as many seconds as are
left before the token expires.  The key that is set lives until the token has expired, so
of all rotations only the first one that sets the key goes on, as long as none is
held up between reading the clock and setting the key until the key of another has gone
with the token.  No rotation that is started after a logout goes on at all.

**Keys.** Statements and steps keep the keys of the denylist (`effect`, `Guarding.step`), and a
rotation of a token that is shut stays doomed (`Doomed.own`).

**The result.** `refresh_token_is_spent_once`; `delayed_rotation_spends_again` is a rotation
that is held up for too long.
-/

set_option autoImplicit false

namespace AppointmentVoice.Accounts

open Concurrency Program

/-! ## What a call knows -/

/-- What has been answered to a call: the time that it has read last, that the key of its
token was not there (and the time read since), and that it has set the key. -/
structure Spending where
  read : Option Nat := none
  unmarked : Bool := false
  won : Bool := false

namespace Spending

/-- The statements that a call may send: only a call that spends a token sets a key, and it
is the key of that token, for the seconds that were left at a time read after the key was
not found; a rotation sets only a new key. -/
def must (call : AccountCall) (state : Spending) : AccountStmt → Prop
  | .set jti ttl => Sets call state jti ttl ∧ ∀ token, call ≠ .rotateRefreshToken token
  | .setNx jti ttl => Sets call state jti ttl
  | .sign _ draft => ∀ jti, (draft jti).jti = jti
  | _ => True
where
  Sets (call : AccountCall) (state : Spending) (jti ttl : Nat) : Prop :=
    ∃ token readAt, call.refreshToken = some token ∧ state.unmarked = true ∧
      state.read = some readAt ∧ jti = token.jti ∧ toSeconds readAt < token.exp ∧
      ttl = token.exp - toSeconds readAt

def learn (call : AccountCall) (state : Spending) : Event AccountSql → Spending
  | ⟨.now, time⟩ => { state with read := some time }
  | ⟨.keyExists jti, false⟩ =>
      if call.refreshToken.map (·.jti) = some jti then { state with read := none, unmarked := true }
      else state
  | ⟨.set _ _, _⟩ => { state with won := true }
  | ⟨.setNx _ _, true⟩ => { state with won := true }
  | _ => state

/-- What is known stays known. -/
structure Grows (state later : Spending) : Prop where
  unmarked : state.unmarked = true → later.unmarked = true
  won : state.won = true → later.won = true

theorem Grows.refl (state : Spending) : state.Grows state := ⟨id, id⟩

theorem Grows.trans {state later last : Spending} (first : state.Grows later)
    (second : later.Grows last) : state.Grows last :=
  ⟨second.unmarked ∘ first.unmarked, second.won ∘ first.won⟩

theorem grows_learn (call : AccountCall) (state : Spending) (event : Event AccountSql) :
    state.Grows (learn call state event) := by
  unfold learn
  split
  · exact ⟨id, id⟩
  · split
    · exact ⟨fun _ => rfl, id⟩
    · exact .refl state
  · exact ⟨id, fun _ => rfl⟩
  · exact ⟨id, fun _ => rfl⟩
  · exact .refl state

/-- Looking for a key wins nothing. -/
theorem won_keyExists (call : AccountCall) (state : Spending) (jti : Nat) (answer : Bool) :
    (learn call state ⟨.keyExists jti, answer⟩).won = state.won := by
  cases answer with
  | true => rfl
  | false =>
      simp only [learn]
      split <;> rfl

end Spending

/-- The monitor of a call. -/
def spendingMonitor (call : AccountCall) : Monitor AccountSql Spending where
  may _ _ := True
  must := Spending.must call
  learn := Spending.learn call

/-- A rotation returns tokens only after it has set the key, and a logout returns only after
it has done so or the token has expired. -/
def spendingWatch : Watch AccountSql AccountCall AccountError AccountReply Spending where
  monitor := spendingMonitor
  initial _ := {}
  post call result state :=
    match call, result with
    | .rotateRefreshToken _, .ok _ => state.won = true
    | .logoutUser token, .ok _ =>
        state.won = true ∨ ∃ time, state.read = some time ∧ token.exp ≤ toSeconds time
    | _, _ => True

/-- The statement sets no key, and a token that it signs has the number that it is given. -/
def AccountStmt.Keyless : AccountStmt → Prop
  | .set _ _ => False
  | .setNx _ _ => False
  | .sign _ draft => ∀ jti, (draft jti).jti = jti
  | _ => True

theorem ordinary_keyless : Ordinary AccountStmt.Keyless where
  select _ := trivial
  now := trivial
  keyExists _ := trivial
  commit := trivial
  audit _ := trivial

section Programs

variable {cfg : AccountSettings} {call : AccountCall} {α β : Type} {state : Spending}
  {post : Except AccountError β → Spending → Prop}

theorem createTokens_keyless (user : User) (isPublicDemo : Bool) :
    (createTokens cfg user isPublicDemo).Only AccountStmt.Keyless :=
  .bind (.call trivial fun _ => .issue fun _ => rfl) fun _ =>
    .bind (.call trivial fun _ => .issue fun _ => rfl) fun _ => .ret _

/-- A program that sets no key keeps what is known. -/
theorem along_keyless {program : AccountM α} (only : program.Only AccountStmt.Keyless) :
    (spendingMonitor call).Along (fun _ later => state.Grows later) program state := by
  refine Monitor.Along.of_only (.refl state) (fun later stmt reached keyless => ⟨?_, fun answer =>
    reached.trans (Spending.grows_learn call later _)⟩) only
  cases stmt with
  | set jti ttl => exact keyless.elim
  | setNx jti ttl => exact keyless.elim
  | sign holder draft => exact keyless
  | _ => exact trivial

/-- A program that sets no key, and what comes after it. -/
theorem along_after {program : AccountM α} {next : α → AccountM β}
    (only : program.Only AccountStmt.Keyless) (raises : ∀ error later, post (.error error) later)
    (rest : ∀ value later, state.Grows later →
      (spendingMonitor call).Along post (next value) later) :
    (spendingMonitor call).Along post (program >>= next) state := by
  refine Monitor.Along.bind ((along_keyless only).mono fun result later grows => ?_)
  cases result with
  | ok value => exact rest value later grows
  | error error => exact raises error later

/-- The key of a token is set for the seconds that are left. -/
theorem along_revokeRefreshToken {token : TokenClaims} (spends : call.refreshToken = some token)
    (unmarked : state.unmarked = true) {requireNew : Bool} {next : Bool → AccountM β}
    (new : requireNew = false → ∀ token, call ≠ .rotateRefreshToken token)
    (rest : ∀ answer later, (requireNew = true → answer = true → later.won = true) →
      (requireNew = false →
        later.won = true ∨ ∃ time, later.read = some time ∧ token.exp ≤ toSeconds time) →
      (spendingMonitor call).Along post (next answer) later) :
    (spendingMonitor call).Along post
      (revokeRefreshToken token.jti token.exp requireNew >>= next) state := by
  refine .call trivial fun time _ => ?_
  change (spendingMonitor call).Along post
    ((if (token.exp : Int) - toSeconds time ≤ 0 then .ret !requireNew
      else if requireNew then setNx token.jti ((token.exp : Int) - toSeconds time).toNat
      else .call (.set token.jti ((token.exp : Int) - toSeconds time).toNat) fun _ => .ret true) >>=
        next)
      (Spending.learn call state ⟨.now, time⟩)
  by_cases past : (token.exp : Int) - toSeconds time ≤ 0
  · rw [if_pos past, ret_bind]
    have late : token.exp ≤ toSeconds time := by omega
    refine rest _ _ (fun new => ?_) fun _ => .inr ⟨time, rfl, late⟩
    rw [new]
    rintro ⟨⟩
  · have left : ((token.exp : Int) - toSeconds time).toNat = token.exp - toSeconds time := by omega
    have before : toSeconds time < token.exp := by omega
    have sets : Spending.must.Sets call (Spending.learn call state ⟨.now, time⟩) token.jti
        (token.exp - toSeconds time) := ⟨token, time, spends, unmarked, rfl, rfl, before, rfl⟩
    rw [if_neg past, left]
    cases requireNew with
    | false => exact .call ⟨sets, new rfl⟩ fun answer _ => rest _ _ (by rintro ⟨⟩) fun _ => .inl rfl
    | true =>
        refine .call sets fun answer _ => rest _ _ (fun _ set => ?_) (by rintro ⟨⟩)
        subst set
        rfl

theorem along_timedDecode {token : TokenClaims} {next : Option TokenClaims → AccountM β}
    (rest : ∀ time : Nat, (spendingMonitor call).Along post
      (next (if toSeconds time ≤ token.exp then some token else none))
        (Spending.learn call state ⟨.now, time⟩)) :
    (spendingMonitor call).Along post (decodeToken token >>= next) state :=
  .call trivial fun time _ => rest time

/-- A token is decoded when its key is not there. -/
theorem along_timedRefreshDecode {token : TokenClaims} (spends : call.refreshToken = some token)
    {next : TokenClaims → AccountM β} (raises : ∀ error later, post (.error error) later)
    (rest : ∀ later, later.unmarked = true → (spendingMonitor call).Along post (next token) later) :
    (spendingMonitor call).Along post (decodeRefreshToken token >>= next) state := by
  unfold decodeRefreshToken
  rw [bind_assoc]
  refine along_timedDecode fun time => ?_
  by_cases valid : toSeconds time ≤ token.exp
  · rw [if_pos valid]
    refine .guard (raises _ _) fun _ => .guard (raises _ _) fun _ => ?_
    rw [bind_assoc]
    refine .issue trivial fun answer _ => ?_
    cases (answer : Bool) with
    | true => exact .raise (raises _ _)
    | false =>
        refine rest _ ?_
        have own : call.refreshToken.map (·.jti) = some token.jti := by rw [spends, Option.map_some]
        change (if _ then _ else _ : Spending).unmarked = true
        rw [if_pos own]
  · rw [if_neg valid]
    exact .raise (raises _ _)

/-- **Every call keeps to its monitor.** -/
theorem perform_along (cfg : AccountSettings) (call : AccountCall) :
    (spendingMonitor call).Along (spendingWatch.post call) (performAccount cfg call) {} := by
  cases call with
  | rotateRefreshToken token =>
      have raises : ∀ error later,
          spendingWatch.post (.rotateRefreshToken token) (.error error) later := fun _ _ => trivial
      change (spendingMonitor _).Along _ ((decodeRefreshToken token >>= fun payload =>
        getActiveUserFromRefreshPayload payload >>= fun user =>
          revokeRefreshToken payload.jti payload.exp true >>= fun won => _) >>= _) _
      rw [bind_assoc]
      refine along_timedRefreshDecode rfl raises fun later unmarked => ?_
      rw [bind_assoc]
      refine along_after (ordinary_keyless.toReading.getActiveUserFromRefreshPayload token) raises
        fun user later' grows => ?_
      rw [bind_assoc]
      refine along_revokeRefreshToken rfl (grows.unmarked unmarked)
        nofun fun answer last won _ => ?_
      cases answer with
      | false => exact .raise trivial
      | true =>
          exact along_after (createTokens_keyless user _) raises fun pair state grows =>
            .ret (grows.won (won rfl rfl))
  | logoutUser token =>
      change (spendingMonitor _).Along _ ((decodeRefreshToken token >>= fun payload =>
        revokeRefreshToken payload.jti payload.exp false >>= fun _ => _) >>= _) _
      rw [bind_assoc]
      refine along_timedRefreshDecode rfl (fun _ _ => trivial) fun later unmarked => ?_
      rw [bind_assoc]
      exact along_revokeRefreshToken rfl unmarked (fun _ _ => nofun) fun answer last _ past =>
        .ret (past rfl)
  | _ =>
      exact (along_keyless (ordinary_keyless.perform cfg (fun _ _ _ => trivial) (fun body _ =>
        ordinary_keyless.confirmPasswordReset cfg (fun _ _ _ => trivial) (fun _ _ => trivial) body)
          (fun spends => by cases spends) fun user => createTokens_keyless user _)).mono
            fun _ _ _ => trivial

end Programs

/-! ## Keys outlive their tokens -/

/-- A call presents a token that has been handed out, reads times that are past, and has set
the key that it says. -/
structure Knows (world : AccountWorld AccountCall) (call : AccountCall)
    (log : List (Event AccountSql)) : Prop where
  presented : ∀ token, call.presents = some token → world.Signed token
  past : ∀ time, (spendingWatch.state call log).read = some time → time ≤ world.clock
  set : (spendingWatch.state call log).won = true →
    ∀ token, call.refreshToken = some token → world.revoked token.jti ≠ none

theorem Knows.mono {before after : AccountWorld AccountCall} {call : AccountCall}
    {log : List (Event AccountSql)} (knows : Knows before call log) (grows : before.Extends after) :
    Knows after call log where
  presented token presents := grows.signed (knows.presented token presents)
  past time read := (knows.past time read).trans grows.clock
  set won token spends := grows.revoked _ (knows.set won token spends)

/-- The tokens have numbers of their own, and the key of a token lives until the token has
expired. -/
structure Keys (world : AccountWorld AccountCall) : Prop where
  numbered : ∀ token, world.Signed token → token.jti < world.nextJti
  unique : ∀ token other, world.Signed token → world.Signed other → token.jti = other.jti →
    token = other
  outlive : ∀ jti expiry, world.revoked jti = some expiry →
    ∃ token, world.Signed token ∧ token.jti = jti ∧ token.exp * second ≤ expiry

namespace Keys

variable {world : AccountWorld AccountCall}

/-- A world with the same tokens and keys. -/
theorem congr {after : AccountWorld AccountCall} (keys : Keys world)
    (signed : ∀ token, after.Signed token ↔ world.Signed token)
    (nextJti : after.nextJti = world.nextJti)
    (revoked : after.revoked = world.revoked) : Keys after where
  numbered token member := nextJti ▸ keys.numbered token ((signed token).mp member)
  unique token other first second := keys.unique token other ((signed token).mp first)
    ((signed other).mp second)
  outlive jti expiry set := by
    rw [revoked] at set
    obtain ⟨token, member, same, late⟩ := keys.outlive jti expiry set
    exact ⟨token, (signed token).mpr member, same, late⟩

/-- The key of a token is set for the seconds that were left at a past time. -/
theorem revoke (keys : Keys world) {token : TokenClaims} {readAt : Nat}
    (signed : world.Signed token)
    (past : readAt ≤ world.clock) (before : toSeconds readAt < token.exp) :
    Keys (world.revoke token.jti (token.exp - toSeconds readAt)) where
  numbered := keys.numbered
  unique := keys.unique
  outlive jti expiry set := by
    change Function.update world.revoked token.jti _ jti = some expiry at set
    by_cases same : jti = token.jti
    · subst same
      rw [Function.update_self] at set
      refine ⟨token, signed, rfl, ?_⟩
      have whole : toSeconds readAt * second ≤ world.clock := (Nat.div_mul_le_self ..).trans past
      calc token.exp * second
          = toSeconds readAt * second + (token.exp - toSeconds readAt) * second := by
            rw [← Nat.add_mul, Nat.add_sub_cancel' before.le]
        _ ≤ world.clock + (token.exp - toSeconds readAt) * second := Nat.add_le_add_right whole _
        _ = expiry := Option.some.inj set
    · rw [Function.update_of_ne same] at set
      exact keys.outlive jti expiry set

/-- A token that is handed out takes a number that no token and no key has had. -/
theorem sign (keys : Keys world) {call : AccountCall} {holder : User} {claims : TokenClaims}
    (number : claims.jti = world.nextJti) :
    Keys { world with
      nextJti := world.nextJti + 1
      history := world.history ++ [.signed call holder claims] } := by
  have either : ∀ token, AccountWorld.Signed { world with
      nextJti := world.nextJti + 1
      history := world.history ++ [.signed call holder claims] } token →
      world.Signed token ∨ token = claims := by
    rintro token ⟨issuer, owner, member⟩
    rcases List.mem_append.mp member with old | new
    · exact .inl ⟨issuer, owner, old⟩
    · cases List.mem_singleton.mp new
      exact .inr rfl
  refine ⟨fun token signed => ?_, fun token other first second same => ?_,
    fun jti expiry set => ?_⟩
  · rcases either token signed with old | rfl
    · exact Nat.lt_succ_of_lt (keys.numbered token old)
    · exact number ▸ Nat.lt_succ_self _
  · rcases either token first with old | rfl
    · rcases either other second with older | rfl
      · exact keys.unique token other old older same
      · exact absurd (same.trans number) (Nat.ne_of_lt (keys.numbered token old))
    · rcases either other second with older | rfl
      · exact absurd (same.symm.trans number) (Nat.ne_of_lt (keys.numbered other older))
      · rfl
  · obtain ⟨token, ⟨issuer, owner, member⟩, same, late⟩ := keys.outlive jti expiry set
    exact ⟨token, ⟨issuer, owner, List.mem_append_left _ member⟩, same, late⟩

/-- The key of a token that has been handed out lives until the token has expired. -/
theorem late (keys : Keys world) {token : TokenClaims} (signed : world.Signed token) {expiry : Nat}
    (set : world.revoked token.jti = some expiry) : token.exp * second ≤ expiry := by
  obtain ⟨other, member, same, late⟩ := keys.outlive _ expiry set
  rw [keys.unique token other signed member same.symm]
  exact late

/-- **A statement that is allowed keeps the keys.** -/
theorem effect (keys : Keys world) (pid : Pid) {call : AccountCall} {log : List (Event AccountSql)}
    {stmt : AccountStmt} (knows : Knows world call log)
    (allowed : Spending.must call (spendingWatch.state call log) stmt) :
    Keys (effectOf pid call stmt world).2 := by
  have same : ∀ {sessions : Sessions AccountDb AccountWrite} {nextId : Nat},
      Keys { world with sessions, nextId } := keys.congr (fun _ => Iff.rfl) rfl rfl
  have revokes : ∀ jti ttl, Spending.must.Sets call (spendingWatch.state call log) jti ttl →
      Keys (world.revoke jti ttl) := by
    rintro jti ttl ⟨token, readAt, spends, -, read, rfl, before, rfl⟩
    exact keys.revoke (knows.presented token (presents_of_refreshToken spends))
      (knows.past readAt read) before
  cases stmt with
  | insert draft =>
      simp only [effectOf]
      split <;> exact same
  | update write =>
      simp only [effectOf]
      split <;> exact same
  | commit =>
      refine keys.congr (fun token => ⟨?_, ?_⟩) rfl rfl
      · rintro ⟨issuer, owner, member⟩
        rcases List.mem_append.mp member with old | new
        · exact ⟨issuer, owner, old⟩
        · cases List.mem_singleton.mp new
      · rintro ⟨issuer, owner, member⟩
        exact ⟨issuer, owner, List.mem_append_left _ member⟩
  | set jti ttl => exact revokes jti ttl allowed.1
  | setNx jti ttl =>
      simp only [effectOf]
      split
      · exact keys
      · exact revokes jti ttl allowed
  | sign holder draft => exact keys.sign (allowed world.nextJti)
  | _ => exact same

end Keys

/-! ## Every step keeps the keys -/

/-- What holds of every configuration in which tokens are not forged. -/
structure Guarding (config : AccountConfig) : Prop where
  watched : config.Watched spendingWatch
  knows : config.Every Knows
  keys : Keys config.world

section Steps

variable {cfg : AccountSettings} {before after : AccountConfig} {action : Action AccountCall}

theorem guarding_start (db : AccountDb) (nextId clock : Nat) :
    Guarding (accountStart db nextId clock) where
  watched := .initial _ _
  knows := .initial _
  keys :=
    { numbered := fun _ signed => by
        obtain ⟨_, _, member⟩ := signed
        cases member
      unique := fun _ _ signed => by
        obtain ⟨_, _, member⟩ := signed
        cases member
      outlive := fun _ _ set => by cases set }

/-- The last time that a call has read is past. -/
theorem Knows.past_learn {pid : Pid} {call : AccountCall} {log : List (Event AccountSql)}
    {stmt : AccountStmt} {world : AccountWorld AccountCall}
    (knows : Knows world call log) {time : Nat}
    (read : (spendingWatch.state call (log ++ [⟨stmt, (effectOf pid call stmt world).1⟩])).read =
      some time) : time ≤ world.clock := by
  rw [Watch.state_snoc] at read
  change (Spending.learn call _ _).read = some time at read
  unfold Spending.learn at read
  split at read
  · next heard =>
      cases heard
      exact (Option.some.inj read) ▸ le_refl _
  · split at read
    · cases read
    · exact knows.past time read
  · exact knows.past time read
  · exact knows.past time read
  · exact knows.past time read

/-- A call that has set a key knows that it has been set. -/
theorem Knows.set_learn {pid : Pid} {call : AccountCall} {log : List (Event AccountSql)}
    {stmt : AccountStmt} {world : AccountWorld AccountCall} (knows : Knows world call log)
    (allowed : Spending.must call (spendingWatch.state call log) stmt)
    (won : (spendingWatch.state call (log ++ [⟨stmt, (effectOf pid call stmt world).1⟩])).won =
      true)
    {token : TokenClaims} (spends : call.refreshToken = some token) :
    (effectOf pid call stmt world).2.revoked token.jti ≠ none := by
  have before : (spendingWatch.state call log).won = true →
      (effectOf pid call stmt world).2.revoked token.jti ≠ none := fun set =>
    (effectOf_extends pid call stmt world).revoked _ (knows.set set token spends)
  have sets : ∀ jti ttl, Spending.must.Sets call (spendingWatch.state call log) jti ttl →
      (world.revoke jti ttl).revoked token.jti ≠ none := by
    rintro jti ttl ⟨own, readAt, spent, -, -, rfl, -, -⟩
    obtain rfl : own = token := Option.some.inj (spent.symm.trans spends)
    change Function.update world.revoked own.jti _ own.jti ≠ none
    rw [Function.update_self]
    exact nofun
  rw [Watch.state_snoc] at won
  change (Spending.learn call _ _).won = true at won
  cases stmt with
  | set jti ttl => exact sets jti ttl allowed.1
  | setNx jti ttl =>
      simp only [effectOf] at won before ⊢
      split at won
      · next taken =>
          rw [if_pos taken] at before ⊢
          exact before won
      · next free =>
          rw [if_neg free]
          exact sets jti ttl allowed
  | keyExists jti => exact before ((Spending.won_keyExists ..).symm.trans won)
  | _ => exact before won

/-- What a statement teaches its call. -/
theorem Knows.learn {call : AccountCall} {log : List (Event AccountSql)} {stmt : AccountStmt}
    {world : AccountWorld AccountCall} (knows : Knows world call log) (pid : Pid)
    (allowed : Spending.must call (spendingWatch.state call log) stmt) :
    Knows (effectOf pid call stmt world).2 call (log ++
      [⟨stmt, (effectOf pid call stmt world).1⟩]) where
  presented := (knows.mono (effectOf_extends pid call stmt world)).presented
  past _ read := (knows.past_learn read).trans (effectOf_extends pid call stmt world).clock
  set won _ spends := knows.set_learn allowed won spends

/-- The statement that a process issues is allowed by its monitor. -/
theorem Guarding.allowed {config : AccountConfig} (guarding : Guarding config) {pid : Pid}
    {call : AccountCall} {stmt : AccountStmt} {next : stmt.Answer → AccountM AccountReply}
    {log : List (Event AccountSql)}
    (running : config.running pid = some ⟨call, .call stmt next, log⟩) :
    Spending.must call (spendingWatch.state call log) stmt := by
  have along := guarding.watched.running pid _ running
  cases along with
  | call allowed rest => exact allowed

/-- **Every step keeps the keys**, when no token is forged. -/
theorem Guarding.step (guarding : Guarding before) (honest : Unforged before action)
    (taken : Step (accountMachine cfg) before action after) : Guarding after where
  watched := guarding.watched.step taken (perform_along cfg) fun _ _ _ _ _ _ _ _ _ _ => trivial
  knows := by
    refine guarding.knows.step taken (fun call log knows => knows.mono (step_extends taken)) ?_ ?_
    · rintro pid call rfl
      exact ⟨fun token presents =>
        (step_extends taken).signed (honest token presents), nofun, nofun⟩
    · intro pid call stmt next log answer issued running executed knows
      obtain ⟨-, effect⟩ := execAccount_some executed
      have learned := knows.learn pid (guarding.allowed running)
      rw [effect] at learned
      exact learned
  keys := by
    have same : ∀ {sessions : Sessions AccountDb AccountWrite} {clock : Nat},
        Keys { before.world with sessions, clock } := guarding.keys.congr (fun _ => Iff.rfl) rfl rfl
    cases taken with
    | start call idle => exact same
    | @issue pid call stmt next log answer world running executed =>
        obtain ⟨-, effect⟩ := execAccount_some executed
        have kept := guarding.keys.effect pid (guarding.knows.running pid _ running)
          (guarding.allowed running)
        rw [effect] at kept
        exact kept
    | finish running ended => exact same
    | stop running => exact same
    | ambient changed =>
        obtain ⟨clock, -, rfl⟩ := changed
        exact same

end Steps

/-! ## One rotation goes on -/

/-- No key is set in or after the second in which its token expires, when an earlier key of
the token has gone by then. -/
def InTime (config : AccountConfig) : Action AccountCall → Prop
  | .issue pid => ∀ token ttl next log,
      config.running pid =
        some ⟨.rotateRefreshToken token, .call (.setNx token.jti ttl) next, log⟩ →
      token.exp * second ≤ config.world.clock →
        ∀ expiry, config.world.revoked token.jti = some expiry → config.world.clock < expiry
  | _ => True

/-- A rotation of the token has set its key. -/
def Wins (token : TokenClaims) (call : AccountCall) (log : List (Event AccountSql)) : Prop :=
  call = .rotateRefreshToken token ∧ (spendingWatch.state call log).won = true

section Once

variable {cfg : AccountSettings} {before after : AccountConfig} {action : Action AccountCall}
  {token : TokenClaims}

/-- When a rotation has set the key, there is one. -/
theorem Guarding.set_of_wins {config : AccountConfig} (guarding : Guarding config) {who : Pid ⊕ Nat}
    (wins : config.Marked (Wins token) who) : config.world.revoked token.jti ≠ none := by
  cases who with
  | inl pid =>
      obtain ⟨process, running, same, won⟩ := Config.marked_running.mp wins
      exact (guarding.knows.running pid process running).set won token (by rw [same]; rfl)
  | inr index =>
      obtain ⟨outcome, there, same, won⟩ := Config.marked_finished.mp wins
      exact (guarding.knows.finished outcome (List.mem_of_getElem? there)).set won token
        (by rw [same]; rfl)

/-- A rotation that sets the key in time finds that it has never been set. -/
theorem unset_of_earns {who : Pid ⊕ Nat} (guarding : Guarding before)
    (timely : InTime before action)
    (earns : Config.Earns (accountMachine cfg) (Wins token) before after who action) :
    before.world.revoked token.jti = none := by
  cases earns with
  | @issue pid call stmt next log answer running executed wins new =>
      obtain ⟨rfl, won⟩ := wins
      have lost : (spendingWatch.state (.rotateRefreshToken token) log).won ≠ true :=
        fun before => new ⟨rfl, before⟩
      have allowed := guarding.allowed running
      obtain ⟨-, effect⟩ := execAccount_some executed
      rw [Watch.state_snoc] at won
      change (Spending.learn _ _ _).won = true at won
      cases stmt with
      | set jti ttl => exact absurd rfl (allowed.2 token)
      | setNx jti ttl =>
          obtain ⟨own, readAt, spends, -, -, rfl, -, -⟩ := allowed
          obtain rfl : own = token := (Option.some.inj spends).symm
          simp only [effectOf] at effect
          split at effect
          · obtain rfl : false = answer := congrArg Prod.fst effect
            exact absurd won lost
          · next free =>
              by_contra set
              obtain ⟨expiry, there⟩ := Option.ne_none_iff_exists'.mp set
              have alive : before.world.clock < expiry := by
                by_cases late : own.exp * second ≤ before.world.clock
                · exact timely own ttl next log running late expiry there
                · have signed : before.world.Signed own :=
                    (guarding.knows.running pid _ running).presented own rfl
                  exact (Nat.lt_of_not_le late).trans_le (guarding.keys.late signed there)
              refine free ?_
              rw [AccountWorld.isRevoked, there]
              exact decide_eq_true alive
      | keyExists jti => exact absurd ((Spending.won_keyExists ..).symm.trans won) lost
      | _ => exact absurd won lost

/-- The configurations in which at most one rotation of the token has set the key. -/
structure OneWinner (token : TokenClaims) (config : AccountConfig) : Prop where
  guarding : Guarding config
  sole : config.Sole (Wins token)

theorem OneWinner.step (one : OneWinner token before)
    (allowed : Unforged before action ∧ InTime before action)
    (taken : Step (accountMachine cfg) before action after) : OneWinner token after where
  guarding := one.guarding.step allowed.1 taken
  sole := one.sole.step taken (fun _ wins => nomatch wins.2) fun _ earns _ wins =>
    one.guarding.set_of_wins wins (unset_of_earns one.guarding allowed.2 earns)

end Once

/-! ## No rotation after a logout -/

/-- The key of a token has been set, or the token has expired. -/
def Shut (token : TokenClaims) (world : AccountWorld AccountCall) : Prop :=
  world.revoked token.jti ≠ none ∨ token.exp * second ≤ world.clock

/-- A rotation that has not found the key knows that the token has expired, and has not set
the key. -/
structure Doomed (token : TokenClaims) (config : AccountConfig)
    (process : Process AccountSql AccountCall AccountError AccountReply) : Prop where
  guarding : Guarding config
  shut : Shut token config.world
  call : process.call = .rotateRefreshToken token
  late : (spendingWatch.state process.call process.log).unmarked = true →
    token.exp * second ≤ config.world.clock
  read : (spendingWatch.state process.call process.log).unmarked = true →
    ∀ time, (spendingWatch.state process.call process.log).read = some time →
      token.exp * second ≤ time
  lost : (spendingWatch.state process.call process.log).won ≠ true

section LoggedOut

variable {cfg : AccountSettings} {before after : AccountConfig} {token : TokenClaims}

theorem Shut.mono {world later : AccountWorld AccountCall} (shut : Shut token world)
    (grows : world.Extends later) : Shut token later :=
  shut.imp (grows.revoked _) fun past => past.trans grows.clock

/-- Whoever does not find the key of a shut token comes after it has expired. -/
theorem Shut.expired {world : AccountWorld AccountCall} (shut : Shut token world)
    (keys : Keys world)
    (signed : world.Signed token) (free : world.isRevoked token.jti = false) :
    token.exp * second ≤ world.clock := by
  rcases shut with set | past
  · obtain ⟨expiry, there⟩ := Option.ne_none_iff_exists'.mp set
    rw [AccountWorld.isRevoked, there] at free
    exact (keys.late signed there).trans (Nat.le_of_not_lt (of_decide_eq_false free))
  · exact past

/-- A rotation of a shut token sets no key. -/
theorem Doomed.sets {config : AccountConfig}
    {process : Process AccountSql AccountCall AccountError AccountReply}
    (doomed : Doomed token config process) {jti ttl : Nat} :
    ¬Spending.must.Sets process.call (spendingWatch.state process.call process.log) jti ttl := by
  rintro ⟨own, readAt, spends, unmarked, read, -, early, -⟩
  rw [doomed.call] at spends
  obtain rfl : token = own := Option.some.inj spends
  have late := doomed.read unmarked readAt read
  exact absurd ((Nat.le_div_iff_mul_le (by decide : 0 < second)).mpr late) (Nat.not_le_of_lt early)

/-- **A rotation of a shut token stays doomed** with every statement of its own. -/
theorem Doomed.own {pid : Pid} {call : AccountCall} {stmt : AccountStmt}
    {next : stmt.Answer → AccountM AccountReply} {log : List (Event AccountSql)}
    {answer : stmt.Answer}
    (doomed : Doomed token before ⟨call, .call stmt next, log⟩)
    (honest : Unforged before (.issue pid))
    (taken : Step (accountMachine cfg) before (.issue pid) after)
    (running : before.running pid = some ⟨call, .call stmt next, log⟩)
    (executed : execAccount pid call stmt before.world = some (answer, after.world)) :
    Doomed token after ⟨call, next answer, log ++ [⟨stmt, answer⟩]⟩ := by
  have grows := step_extends taken
  have allowed := doomed.guarding.allowed running
  obtain ⟨-, effect⟩ := execAccount_some executed
  have stays : spendingWatch.state call (log ++ [⟨stmt, answer⟩]) = spendingWatch.state call log →
      Doomed token after ⟨call, next answer, log ++ [⟨stmt, answer⟩]⟩ := by
    intro same
    refine ⟨doomed.guarding.step honest taken, doomed.shut.mono grows, doomed.call, ?_, ?_, ?_⟩
    · rw [same]
      exact fun unmarked => (doomed.late unmarked).trans grows.clock
    · rw [same]
      exact doomed.read
    · rw [same]
      exact doomed.lost
  cases stmt with
  | now =>
      have heard : answer = before.world.clock := (congrArg Prod.fst effect).symm
      refine ⟨doomed.guarding.step honest taken, doomed.shut.mono grows, doomed.call,
        fun unmarked => ?_, fun unmarked time read => ?_, ?_⟩
      · rw [Watch.state_snoc] at unmarked
        exact (doomed.late unmarked).trans grows.clock
      · rw [Watch.state_snoc] at unmarked read
        obtain rfl : answer = time := Option.some.inj read
        rw [heard]
        exact doomed.late unmarked
      · rw [Watch.state_snoc]
        exact doomed.lost
  | keyExists jti =>
      have heard : answer = before.world.isRevoked jti := (congrArg Prod.fst effect).symm
      by_cases found : (answer : Bool) = false ∧ call.refreshToken.map (·.jti) = some jti
      · obtain ⟨free, own⟩ := found
        have spends : call.refreshToken = some token := by
          rw [show call = .rotateRefreshToken token from doomed.call]
          rfl
        rw [spends, Option.map_some, Option.some_inj] at own
        have signed : before.world.Signed token :=
          (doomed.guarding.knows.running pid _ running).presented token
            (presents_of_refreshToken spends)
        have expired : token.exp * second ≤ before.world.clock :=
          doomed.shut.expired doomed.guarding.keys signed (by rw [own, ← heard]; exact free)
        have learned : spendingWatch.state call (log ++ [⟨.keyExists jti, answer⟩]) =
            { spendingWatch.state call log with read := none, unmarked := true } := by
          rw [Watch.state_snoc]
          change Spending.learn call _ ⟨.keyExists jti, answer⟩ = _
          cases free
          simp only [Spending.learn, spends, Option.map_some, own, if_true]
        refine ⟨doomed.guarding.step honest taken, doomed.shut.mono grows, doomed.call,
          fun _ => expired.trans grows.clock, fun _ time read => ?_, ?_⟩
        · rw [learned] at read
          cases read
        · rw [learned]
          exact doomed.lost
      · refine stays ?_
        rw [Watch.state_snoc]
        change Spending.learn call _ ⟨.keyExists jti, answer⟩ = _
        cases (answer : Bool) with
        | true => rfl
        | false => exact if_neg fun own => found ⟨rfl, own⟩
  | set jti ttl => exact absurd allowed.1 doomed.sets
  | setNx jti ttl => exact absurd allowed doomed.sets
  | _ =>
      refine stays ?_
      rw [Watch.state_snoc]
      rfl

end LoggedOut

/-- What it means that a token is spent once: at most one rotation returns tokens, and none
does that is started after a logout has returned. -/
structure SpentOnce (cfg : AccountSettings) (token : TokenClaims)
    (config : AccountConfig) : Prop where
  once : ∀ (first second : Nat) (reply reply' : AccountReply) (log log' : List (Event AccountSql)),
    config.finished[first]? = some ⟨.rotateRefreshToken token, .ok reply, log⟩ →
    config.finished[second]? = some ⟨.rotateRefreshToken token, .ok reply', log'⟩ → first = second
  loggedOut : ∀ (reply : AccountReply) (log : List (Event AccountSql)),
    (⟨.logoutUser token, .ok reply, log⟩ : AccountOutcome) ∈ config.finished →
    ∀ pid started later,
      Step (accountMachine cfg) config (.start pid (.rotateRefreshToken token)) started →
      Unforged config (.start pid (.rotateRefreshToken token)) →
      Runs (accountMachine cfg) (fun config action => Unforged config action ∧ ¬action.ends pid)
        started later →
      ∃ process, later.running pid = some process ∧
        ∀ reply, process.rest.result? ≠ some (.ok reply)

/-- After a logout no rotation returns tokens. -/
theorem Guarding.loggedOut {cfg : AccountSettings} {token : TokenClaims} {config : AccountConfig}
    (guarding : Guarding config) {reply : AccountReply} {log : List (Event AccountSql)}
    (left : (⟨.logoutUser token, .ok reply, log⟩ : AccountOutcome) ∈ config.finished) {pid : Pid}
    {started later : AccountConfig}
    (honest : Unforged config (.start pid (.rotateRefreshToken token)))
    (starts : Step (accountMachine cfg) config (.start pid (.rotateRefreshToken token)) started)
    (runs : Runs (accountMachine cfg) (fun config action => Unforged config action ∧
      ¬action.ends pid)
      started later) :
    ∃ process, later.running pid = some process ∧ ∀ reply, process.rest.result? ≠ some
      (.ok reply) := by
  have knows := guarding.knows.finished _ left
  have shut : Shut token config.world := by
    rcases guarding.watched.finished _ left with won | ⟨time, read, past⟩
    · exact .inl (knows.set won token rfl)
    · refine .inr (le_trans ?_ (knows.past time read))
      exact (Nat.le_div_iff_mul_le (by decide : 0 < second)).mp past
  have ready := guarding.step honest starts
  have begun : ∃ process, started.running pid = some process ∧ Doomed token started process := by
    refine ⟨⟨.rotateRefreshToken token, performAccount cfg (.rotateRefreshToken token), []⟩, ?_,
      ready, shut.mono (step_extends starts), rfl, nofun, nofun, nofun⟩
    cases starts with
    | start call idle => exact Function.update_self ..
  obtain ⟨first, running, doomed⟩ := begun
  obtain ⟨process, there, doomed⟩ := runs.while_running running doomed
    (fun before action after process allowed taken _ _ doomed =>
      ⟨doomed.guarding.step allowed taken, doomed.shut.mono (step_extends taken), doomed.call,
        fun unmarked => (doomed.late unmarked).trans (step_extends taken).clock, doomed.read,
        doomed.lost⟩)
    (fun before after call stmt next log answer allowed taken running executed doomed =>
      doomed.own allowed taken running executed)
  refine ⟨process, there, fun reply ended => doomed.lost ?_⟩
  have along := doomed.guarding.watched.running pid process there
  obtain ⟨call, rest, log⟩ := process
  obtain rfl : call = .rotateRefreshToken token := doomed.call
  cases along with
  | ret met =>
      cases ended
      exact met
  | raise met => cases ended
  | call allowed goesOn => cases ended

/-- **A refresh token is spent once**, when no key is set after an earlier key of the same
token has gone. -/
theorem refresh_token_is_spent_once (cfg : AccountSettings) {db : AccountDb} {nextId clock : Nat}
    {config : AccountConfig}
    (runs : Runs (accountMachine cfg)
      (fun config action => Unforged config action ∧ InTime config action)
      (accountStart db nextId clock) config) (token : TokenClaims) : SpentOnce cfg
        token config := by
  have one : OneWinner token config :=
    runs.invariant ⟨guarding_start db nextId clock, Config.sole_initial _ _⟩
      fun _ _ _ one allowed taken => one.step allowed taken
  refine ⟨fun first second reply reply' log log' won wonToo => ?_,
    fun reply log left pid started later starts honest runs =>
      one.guarding.loggedOut left honest starts runs⟩
  have wins : ∀ {index : Nat} {reply : AccountReply} {log : List (Event AccountSql)},
      config.finished[index]? = some ⟨.rotateRefreshToken token, .ok reply, log⟩ →
        config.Marked (Wins token) (.inr index) := fun there =>
    Config.marked_finished.mpr ⟨_, there, rfl,
      one.guarding.watched.finished _ (List.mem_of_getElem? there)⟩
  exact Sum.inr.inj (one.sole _ _ (wins won) (wins wonToo))

/-! ## Two rotations of one token -/

/-- A user of a salon. -/
def oneUser : AccountDb :=
  { AccountDb.empty with
    tenants := [⟨1, "salon", "Salon", true⟩]
    users := [{ id := 1, tenantId := 1, email := "user@example.com", hashedPassword := "p" }] }

/-- The refresh token of the first login. -/
def firstRefreshToken : TokenClaims :=
  { kind := .refresh, sub := 1, tenantId := 1, tokenVersion := 0, exp := 604800, jti := 1 }

/-- The user logs in. -/
def logsIn : List (Action AccountCall) :=
  wholeAccountCall 0 (.loginUser ⟨"user@example.com", "p"⟩ 1) 5

/-- Time has not come to the end of the token. -/
def looksInTime (config : AccountConfig) : Action AccountCall → Bool
  | .issue pid =>
      match config.running pid with
      | some ⟨.rotateRefreshToken token, _, _⟩ => config.world.clock < token.exp * second
      | _ => true
  | _ => true

theorem looksInTime_sound (config : AccountConfig) (action : Action AccountCall)
    (looks : looksInTime config action = true) : InTime config action := by
  cases action with
  | issue pid =>
      intro token ttl next log running late
      rw [looksInTime, running] at looks
      exact absurd (of_decide_eq_true looks) (Nat.not_lt_of_le late)
  | _ => exact trivial

/-- Two rotations in a row, with the first login. -/
def rotatesTwice : List (Nat × List (Action AccountCall)) :=
  [(0, logsIn), (1, wholeAccountCall 1 (.rotateRefreshToken firstRefreshToken) 10),
    (2, wholeAccountCall 2 (.rotateRefreshToken firstRefreshToken) 2)]

theorem rotatesTwice_possible :
    (runSchedule plainSettings (fun config action => looksUnforged config action &&
      looksInTime config action) rotatesTwice (accountStart oneUser 2 0)).isSome = true := by
  decide +kernel

theorem second_rotation_is_refused : ∃ config,
    Runs (accountMachine plainSettings)
        (fun config action => Unforged config action ∧ InTime config action)
        (accountStart oneUser 2 0) config ∧
      config.finished.map (fun outcome => outcome.result.toOption.isSome) = [true, true, false] ∧
      SpentOnce plainSettings firstRefreshToken config := by
  have sound : ∀ config action, (looksUnforged config action && looksInTime config action) = true →
      Unforged config action ∧ InTime config action := by
    intro config action looks
    rw [Bool.and_eq_true] at looks
    exact ⟨looksUnforged_sound _ _ looks.1, looksInTime_sound _ _ looks.2⟩
  have runs := runs_of_schedule sound (fun _ => ⟨trivial, trivial⟩) rotatesTwice
    (Option.some_get rotatesTwice_possible).symm
  exact ⟨_, runs, by decide +kernel, refresh_token_is_spent_once plainSettings runs
    firstRefreshToken⟩

/-- Two rotations read the clock in the last second of the token; one of them sets the key
at once, the other one when the key has gone. -/
def rotatesTooLate : List (Nat × List (Action AccountCall)) :=
  [(0, logsIn),
    (604799500000,
      .start 1 (.rotateRefreshToken firstRefreshToken) :: List.replicate 5 (.issue 1) ++
        .start 2 (.rotateRefreshToken firstRefreshToken) :: List.replicate 5 (.issue 2) ++
          List.replicate 5 (.issue 1) ++ [.finish 1]),
    (604801000000, List.replicate 5 (.issue 2) ++ [.finish 2])]

theorem rotatesTooLate_possible :
    (runSchedule plainSettings looksUnforged rotatesTooLate (accountStart oneUser 2 0)).isSome =
      true := by
  decide +kernel

/-- An outcome that is found by its call and by whether it has a result. -/
theorem outcome_of_map {config : AccountConfig} (index : Nat) (call : AccountCall)
    (found : (config.finished[index]?).map
      (fun outcome => (outcome.call, outcome.result.toOption.isSome)) = some (call, true)) :
    ∃ reply log, config.finished[index]? = some ⟨call, .ok reply, log⟩ := by
  obtain ⟨⟨_, result, log⟩, there, same⟩ := Option.map_eq_some_iff.mp found
  cases result with
  | ok reply =>
      obtain rfl := congrArg Prod.fst same
      exact ⟨reply, log, there⟩
  | error error => cases congrArg Prod.snd same

/-- Both rotations return tokens. -/
theorem delayed_rotation_spends_again :
    ¬∀ config, Runs (accountMachine plainSettings) Unforged (accountStart oneUser 2 0) config →
      SpentOnce plainSettings firstRefreshToken config := by
  intro once
  have runs := runs_of_schedule looksUnforged_sound (fun _ => trivial) rotatesTooLate
    (Option.some_get rotatesTooLate_possible).symm
  obtain ⟨_, _, won⟩ :=
    outcome_of_map 1 (.rotateRefreshToken firstRefreshToken) (by decide +kernel :
      ((Option.get _ rotatesTooLate_possible).finished[1]?).map _ = _)
  obtain ⟨_, _, wonToo⟩ :=
    outcome_of_map 2 (.rotateRefreshToken firstRefreshToken) (by decide +kernel :
      ((Option.get _ rotatesTooLate_possible).finished[2]?).map _ = _)
  exact absurd ((once _ runs).once 1 2 _ _ _ _ won wonToo) (by decide)

end AppointmentVoice.Accounts
