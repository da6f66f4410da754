import AppointmentVoice.Accounts.History
import AppointmentVoice.Accounts.Statements

/-!
# Tokens that are revoked

A change of the role, a deactivation and a reset of the password each write a new version
of the user's tokens, the successor of the one that the call has read.  As long as nothing
has been committed in between, the version grows with every such commit, every
token that was handed out before has an older one, and no call takes it any more.

**Versions.** Every call keeps to its monitor (`perform_sees`), no step makes a version smaller
(`older`), and every step keeps the versions (`step`), when new ones are fresh.

**The result.** `revocation_reaches_earlier_tokens`; an increment that is lost keeps a token
(`lost_increment_keeps_a_token`).
-/

set_option autoImplicit false

namespace AppointmentVoice.Accounts

open Concurrency Program

/-! ## What a call has seen -/

/-- The users that a call has read for its session, as long as it has not written. -/
structure Seeing where
  wrote : Bool := false
  seen : List User := []

/-- The write is one of those that the calls make: it adds and removes no user, and renews
the version of the tokens with the role or the password, and when a user is switched
off. -/
def AccountWrite.Fits (call : AccountCall) : AccountWrite → Prop
  | .insertUser _ => False
  | .deleteUser _ => False
  | .updateUser _ change =>
      change.role.isSome ∨ change.hashedPassword.isSome ∨ call.isDeactivation = true →
        change.tokenVersion.isSome = true
  | _ => True

namespace Seeing

def see (state : Seeing) (user : User) : Seeing :=
  if state.wrote then state else { state with seen := user :: state.seen }

def lookUp (state : Seeing) : Option User → Seeing
  | some user => state.see user
  | none => state

/-- The statements that a call may send: it signs tokens only for a user that it has
seen, with the version that it has seen. -/
def must (call : AccountCall) (state : Seeing) : AccountStmt → Prop
  | .insert draft => ∀ id, (draft id).Fits call
  | .update write => write.Fits call
  | .sign holder draft => state.wrote = false ∧ holder ∈ state.seen ∧
      ∀ jti, (draft jti).sub = holder.id ∧ (draft jti).tokenVersion = holder.tokenVersion
  | _ => True

/-- The answers that are possible: a user that is looked up by its key has the key. -/
def may : Event AccountSql → Prop
  | ⟨.select (.user id _), some row⟩ => row.id = id
  | _ => True

def learn (state : Seeing) : Event AccountSql → Seeing
  | ⟨.select (.user _ _), found⟩ => state.lookUp found
  | ⟨.select (.userByEmail _ _), found⟩ => state.lookUp found
  | ⟨.select (.demoUser _), found⟩ => state.lookUp found
  | ⟨.insert _, _⟩ => { state with wrote := true }
  | ⟨.update _, _⟩ => { state with wrote := true }
  | ⟨.useResetTokens _ _, _⟩ => { state with wrote := true }
  | _ => state

/-- Who has been seen stays seen. -/
def Grows (state later : Seeing) : Prop := ∀ user ∈ state.seen, user ∈ later.seen

theorem Grows.trans {state later last : Seeing} (first : state.Grows later)
    (second : later.Grows last) : state.Grows last :=
  fun user member => second user (first user member)

theorem grows_see (state : Seeing) (user : User) : state.Grows (state.see user) := by
  intro other member
  unfold see
  split
  · exact member
  · exact List.mem_cons_of_mem _ member

theorem mem_see {state : Seeing} (clean : state.wrote = false) (user : User) :
    user ∈ (state.see user).seen := by
  rw [see, clean]
  exact List.mem_cons_self

theorem wrote_see (state : Seeing) (user : User) : (state.see user).wrote = state.wrote := by
  unfold see
  split <;> rfl

theorem grows_lookUp (state : Seeing) (found : Option User) : state.Grows (state.lookUp found) := by
  cases found with
  | none => exact fun _ => id
  | some user => exact grows_see state user

theorem wrote_lookUp (state : Seeing) (found : Option User) :
    (state.lookUp found).wrote = state.wrote := by
  cases found with
  | none => rfl
  | some user => exact wrote_see state user

theorem grows_learn (state : Seeing) (event : Event AccountSql) :
    state.Grows (state.learn event) := by
  unfold learn
  split
  · exact grows_lookUp _ _
  · exact grows_lookUp _ _
  · exact grows_lookUp _ _
  all_goals exact fun _ => id

/-- Nothing has been written, and who has been seen stays seen. -/
structure Stays (state later : Seeing) : Prop where
  wrote : later.wrote = state.wrote
  grows : state.Grows later

theorem Stays.refl (state : Seeing) : state.Stays state := ⟨rfl, fun _ => id⟩

end Seeing

/-- The monitor of a call. -/
def seeingMonitor (call : AccountCall) : Monitor AccountSql Seeing where
  may _ := Seeing.may
  must := Seeing.must call
  learn := Seeing.learn

/-- A call that checks the version of a token returns only after it has seen a user with
that version. -/
def seeingWatch : Watch AccountSql AccountCall AccountError AccountReply Seeing where
  monitor := seeingMonitor
  initial _ := {}
  post call result state :=
    ∀ token reply, call.checks = some token → result = .ok reply →
      ∃ user ∈ state.seen, user.id = token.sub ∧ user.tokenVersion = token.tokenVersion

/-! ## The programs of the calls -/

/-- The statement hands out no token and writes only what the calls write. -/
def AccountStmt.Fits (call : AccountCall) : AccountStmt → Prop
  | .insert draft => ∀ id, (draft id).Fits call
  | .update write => write.Fits call
  | .sign _ _ => False
  | _ => True

theorem ordinary_fits (call : AccountCall) : Ordinary (AccountStmt.Fits call) where
  select _ := trivial
  now := trivial
  keyExists _ := trivial
  commit := trivial
  audit _ := fun _ => trivial

section Programs

variable {cfg : AccountSettings} {call : AccountCall} {α β : Type} {state : Seeing}
  {post : Except AccountError β → Seeing → Prop}

/-- A change of the role renews the version. -/
theorem updateUser_fits (user : User) (body : UserAdminUpdate) (off : call.isDeactivation = false) :
    (updateUser user body).Only (AccountStmt.Fits call) := by
  unfold updateUser
  split
  · exact .raise _
  · refine Issues.flushUser fun revokes => ?_
    have role : (body.changes user).role.isSome = true := by
      rcases revokes with role | hash | deactivates
      · exact role
      · cases hash
      · rw [off] at deactivates
        cases deactivates
    change (if (body.changes user).role.isSome then some (user.tokenVersion + 1)
      else none).isSome = true
    rw [if_pos role]
    rfl

theorem activateUser_fits (user : User) (off : call.isDeactivation = false) :
    (activateUser user).Only (AccountStmt.Fits call) := by
  refine Issues.flushUser fun revokes => ?_
  rcases revokes with role | hash | deactivates
  · cases role
  · cases hash
  · rw [off] at deactivates
    cases deactivates

theorem deactivateUser_fits (user : User) : (deactivateUser user).Only (AccountStmt.Fits call) :=
  Issues.flushUser fun _ => rfl

/-- A program that hands out no token forgets nobody. -/
theorem along_fits {program : AccountM α} (only : program.Only (AccountStmt.Fits call)) :
    (seeingMonitor call).Along (fun _ later => state.Grows later) program state := by
  refine Monitor.Along.of_only (fun _ => id) (fun later stmt reached fits => ⟨?_, fun answer =>
    reached.trans (Seeing.grows_learn later _)⟩) only
  cases stmt with
  | insert draft => exact fits
  | update write => exact fits
  | sign holder draft => exact fits.elim
  | _ => exact trivial

/-- The statement writes no row and hands out no token. -/
def AccountStmt.Looks : AccountStmt → Prop
  | .insert _ => False
  | .update _ => False
  | .useResetTokens _ _ => False
  | .sign _ _ => False
  | _ => True

theorem reading_looks : Reading AccountStmt.Looks := ⟨fun _ => trivial, trivial, fun _ => trivial⟩

theorem wrote_of_looks {stmt : AccountStmt} (looks : stmt.Looks) (answer : stmt.Answer) :
    (state.learn ⟨stmt, answer⟩).wrote = state.wrote := by
  cases stmt with
  | select query =>
      unfold Seeing.learn
      split
      · exact Seeing.wrote_lookUp ..
      · exact Seeing.wrote_lookUp ..
      · exact Seeing.wrote_lookUp ..
      · next same => cases same
      · next same => cases same
      · next same => cases same
      · rfl
  | insert draft => exact looks.elim
  | update write => exact looks.elim
  | useResetTokens userId usedAt => exact looks.elim
  | sign holder draft => exact looks.elim
  | _ => rfl

/-- Looking does not write. -/
theorem along_looks {program : AccountM α} (only : program.Only AccountStmt.Looks) :
    (seeingMonitor call).Along (fun _ later => state.Stays later) program state := by
  refine Monitor.Along.of_only (.refl state) (fun later stmt reached looks => ⟨?_, fun answer =>
    ⟨(wrote_of_looks looks answer).trans reached.wrote,
      reached.grows.trans (Seeing.grows_learn later _)⟩⟩) only
  cases stmt with
  | insert draft => exact looks.elim
  | update write => exact looks.elim
  | sign holder draft => exact looks.elim
  | _ => exact trivial

/-- Looking, and what comes after it. -/
theorem along_after_looks {program : AccountM α} {next : α → AccountM β}
    (only : program.Only AccountStmt.Looks) (raises : ∀ error later, post (.error error) later)
    (rest : ∀ value later, state.Stays later → (seeingMonitor call).Along post (next value) later) :
    (seeingMonitor call).Along post (program >>= next) state := by
  refine Monitor.Along.bind ((along_looks only).mono fun result later stays => ?_)
  cases result with
  | ok value => exact rest value later stays
  | error error => exact raises error later

/-- A user is looked up by its key, and seen. -/
theorem along_selectUser {id tenantId : Nat} {next : Option User → AccountM β}
    (clean : state.wrote = false)
    (rest : ∀ found later, later.wrote = false → (∀ user, found = some user →
      user.id = id ∧ user ∈ later.seen) → (seeingMonitor call).Along post (next found) later) :
    (seeingMonitor call).Along post (select (.user id tenantId) >>= next) state := by
  refine .issue trivial fun answer possible => ?_
  cases (answer : Option User) with
  | none => exact rest none state clean nofun
  | some row =>
      refine rest (some row) (state.see row) ((Seeing.wrote_see ..).trans clean) fun user same => ?_
      cases same
      exact ⟨possible, Seeing.mem_see clean row⟩

/-- A user with this version has been seen. -/
def Accepted (token : TokenClaims) (state : Seeing) : Prop :=
  ∃ user ∈ state.seen, user.id = token.sub ∧ user.tokenVersion = token.tokenVersion

theorem Accepted.mono {token : TokenClaims} {later : Seeing} (accepted : Accepted token state)
    (grows : state.Grows later) : Accepted token later := by
  obtain ⟨user, member, same⟩ := accepted
  exact ⟨user, grows user member, same⟩

theorem along_decodeToken {token : TokenClaims} {next : Option TokenClaims → AccountM β}
    (rest : ∀ decoded later, (∀ payload, decoded = some payload → payload = token) →
      state.Stays later → (seeingMonitor call).Along post (next decoded) later) :
    (seeingMonitor call).Along post (decodeToken token >>= next) state := by
  refine .call trivial fun time _ => rest _ state (fun payload decoded => ?_) (.refl state)
  split at decoded
  · exact (Option.some.inj decoded).symm
  · cases decoded

/-- **The acting user has the version of the token.** -/
theorem along_getCurrentUser {token : TokenClaims} {slug : Option String} {next : User → AccountM β}
    (clean : state.wrote = false) (raises : ∀ error later, post (.error error) later)
    (rest : ∀ user later, Accepted token later →
      (seeingMonitor call).Along post (next user) later) :
    (seeingMonitor call).Along post (getCurrentUser token slug >>= next) state := by
  have reading := reading_looks
  unfold getCurrentUser
  rw [bind_assoc]
  refine along_decodeToken fun decoded later own stays => ?_
  cases decoded with
  | none => exact .raise (raises _ _)
  | some payload =>
      obtain rfl := own payload rfl
      refine .guard (raises _ _) fun _ => ?_
      rw [bind_assoc]
      refine along_selectUser (stays.wrote.trans clean) fun found later' clean' seen => ?_
      cases found with
      | none => exact .raise (raises _ _)
      | some user =>
          obtain ⟨same, member⟩ := seen user rfl
          refine .guard (raises _ _) fun _ => .guard (raises _ _) fun version => ?_
          have accepted : Accepted payload later' := ⟨user, member, same, not_not.mp version⟩
          rw [bind_assoc]
          refine along_after_looks (reading.assertActiveTenantMembership user) raises
            fun _ last stays => ?_
          cases slug with
          | none => exact rest user last (accepted.mono stays.grows)
          | some slug =>
              refine along_after_looks ?_ raises fun user last' stays' =>
                rest user last' ((accepted.mono stays.grows).mono stays'.grows)
              refine reading.read fun found => .bind (Issues.orRaise found) fun tenant => ?_
              exact Issues.guard fun _ => Issues.guard fun _ => .ret user

/-- The user of a refresh token has the version of the token. -/
theorem along_getActiveUser {token : TokenClaims} {next : User → AccountM β}
    (clean : state.wrote = false) (raises : ∀ error later, post (.error error) later)
    (rest : ∀ user later, later.wrote = false → user ∈ later.seen → Accepted token later →
      (seeingMonitor call).Along post (next user) later) :
    (seeingMonitor call).Along post (getActiveUserFromRefreshPayload token >>= next) state := by
  have reading := reading_looks
  unfold getActiveUserFromRefreshPayload
  rw [bind_assoc]
  refine along_selectUser clean fun found later clean' seen => ?_
  cases found with
  | none => exact .raise (raises _ _)
  | some user =>
      obtain ⟨same, member⟩ := seen user rfl
      simp only
      split
      · rw [bind_assoc]
        refine along_after_looks (reading.assertActiveTenantMembership user) raises
          fun _ last stays => ?_
        refine .guard (raises _ _) fun version => ?_
        exact rest user last (stays.wrote.trans clean') (stays.grows user member)
          ⟨user, stays.grows user member, same, (not_not.mp version).symm⟩
      · exact .raise (raises _ _)

theorem along_decodeRefreshToken {token : TokenClaims} {next : TokenClaims → AccountM β}
    (raises : ∀ error later, post (.error error) later)
    (rest : ∀ later, state.Stays later → (seeingMonitor call).Along post (next token) later) :
    (seeingMonitor call).Along post (decodeRefreshToken token >>= next) state := by
  unfold decodeRefreshToken
  rw [bind_assoc]
  refine along_decodeToken fun decoded later own stays => ?_
  cases decoded with
  | none => exact .raise (raises _ _)
  | some payload =>
      obtain rfl := own payload rfl
      refine .guard (raises _ _) fun _ => .guard (raises _ _) fun _ => ?_
      rw [bind_assoc]
      refine .issue trivial fun answer _ => ?_
      cases (answer : Bool) with
      | true => exact .raise (raises _ _)
      | false => exact rest later stays

/-- Tokens are handed out for a user that has been seen. -/
theorem along_createTokens {user : User} {isPublicDemo : Bool}
    {next : TokenClaims × TokenClaims → AccountM β} (clean : state.wrote = false)
    (known : user ∈ state.seen)
    (rest : ∀ pair, (seeingMonitor call).Along post (next pair) state) :
    (seeingMonitor call).Along post (createTokens cfg user isPublicDemo >>= next) state :=
  .call trivial fun _ _ => .call ⟨clean, known, fun _ => ⟨rfl, rfl⟩⟩ fun access _ =>
    .call trivial fun _ _ => .call ⟨clean, known, fun _ => ⟨rfl, rfl⟩⟩ fun refresh _ =>
      rest (access, refresh)

/-- What a call does once its token has been accepted. -/
theorem along_accepted {token : TokenClaims} {acts : AccountM α} {result : α → AccountReply}
    (checks : call.checks = some token) (accepted : Accepted token state)
    (fits : acts.Only (AccountStmt.Fits call)) :
    (seeingMonitor call).Along (seeingWatch.post call) (acts >>= fun value => .ret (result value))
      state := by
  refine Monitor.Along.bind ((along_fits fits).mono fun answer later grows => ?_)
  have checked : ∀ other, call.checks = some other → Accepted other later := by
    intro other same
    obtain rfl : token = other := Option.some.inj (checks.symm.trans same)
    exact accepted.mono grows
  cases answer with
  | ok value => exact .ret fun other _ same _ => checked other same
  | error error => exact fun other _ same _ => checked other same

/-- **Every call keeps to its monitor.** -/
theorem perform_sees (cfg : AccountSettings) (call : AccountCall) :
    (seeingMonitor call).Along (seeingWatch.post call) (performAccount cfg call) {} := by
  have raises : ∀ (error : AccountError) (later : Seeing),
      seeingWatch.post call (.error error) later := fun _ _ _ _ _ same => nomatch same
  have unchecked : call.checks = none → ∀ (result : Except AccountError AccountReply)
      (later : Seeing), seeingWatch.post call result later := by
    intro none result later token reply checks
    rw [none] at checks
    cases checks
  have reading := reading_looks
  have ordinary := ordinary_fits call
  cases call with
  | loginUser loginData tenantId =>
      change (seeingMonitor _).Along _ ((authenticateUser cfg loginData tenantId >>= fun user =>
        createTokens cfg user false) >>= _) _
      unfold authenticateUser
      rw [bind_assoc, bind_assoc]
      refine .issue trivial fun answer _ => ?_
      cases (answer : Option User) with
      | none => exact .raise (raises _ _)
      | some user =>
          refine .guard (raises _ _) fun _ => .guard (raises _ _) fun _ => ?_
          exact along_createTokens rfl (Seeing.mem_see rfl user) fun pair =>
            .ret (unchecked rfl _ _)
  | createDemoSession =>
      change (seeingMonitor _).Along _ (createDemoSession cfg >>= _) _
      unfold createDemoSession
      refine .guard (raises _ _) fun _ => ?_
      simp only
      refine .guard (raises _ _) fun _ => .guard (raises _ _) fun _ => ?_
      rw [bind_assoc]
      refine .issue trivial fun answer _ => ?_
      cases (answer : Option User) with
      | none => exact .raise (raises _ _)
      | some user =>
          refine .issue trivial fun answer _ => ?_
          cases (answer : Option Salon) with
          | none => exact .raise (raises _ _)
          | some salon =>
              exact along_createTokens rfl (Seeing.mem_see rfl user) fun pair =>
                .ret (unchecked rfl _ _)
  | rotateRefreshToken token =>
      change (seeingMonitor _).Along _ ((decodeRefreshToken token >>= fun payload =>
        getActiveUserFromRefreshPayload payload >>= fun user =>
          revokeRefreshToken payload.jti payload.exp true >>= fun won => _) >>= _) _
      rw [bind_assoc]
      refine along_decodeRefreshToken raises fun later stays => ?_
      rw [bind_assoc]
      refine along_getActiveUser stays.wrote raises fun user later clean member accepted => ?_
      rw [bind_assoc]
      refine along_after_looks (reading.revokeRefreshToken (fun _ _ => trivial)
        (fun _ _ => trivial) ..)
        raises fun won last stays => ?_
      cases won with
      | false => exact .raise (raises _ _)
      | true =>
          refine along_createTokens (stays.wrote.trans clean) (stays.grows user member) fun pair =>
            .ret fun other reply same _ => ?_
          obtain rfl : token = other := Option.some.inj same
          exact accepted.mono stays.grows
  | logoutUser token =>
      refine (along_looks ?_).mono fun result later _ => unchecked rfl result later
      exact .bind (.bind (reading.decodeRefreshToken token) fun payload =>
        .bind (reading.revokeRefreshToken (fun _ _ => trivial) (fun _ _ => trivial) ..) fun _ =>
          .ret ()) fun _ => .ret _
  | patchUser token slug userId userUpdate =>
      change (seeingMonitor _).Along _ ((getCurrentUser token slug >>= fun currentUser =>
        patchUserAs currentUser userId userUpdate) >>= _) _
      rw [bind_assoc]
      exact along_getCurrentUser rfl raises fun user later accepted => along_accepted rfl accepted
        (ordinary.patchUserAs (fun user body => updateUser_fits user body rfl) ..)
  | deactivateUser token slug userId =>
      change (seeingMonitor _).Along _ ((getCurrentUser token slug >>= fun currentUser =>
        deactivateUserAs currentUser userId) >>= _) _
      rw [bind_assoc]
      exact along_getCurrentUser rfl raises fun user later accepted => along_accepted rfl accepted
        (ordinary.switchUserAs deactivateUser_fits ..)
  | activateUser token slug userId =>
      change (seeingMonitor _).Along _ ((getCurrentUser token slug >>= fun currentUser =>
        activateUserAs currentUser userId) >>= _) _
      rw [bind_assoc]
      exact along_getCurrentUser rfl raises fun user later accepted => along_accepted rfl accepted
        (ordinary.switchUserAs (fun user => activateUser_fits user rfl) ..)
  | confirmPasswordReset resetConfirm =>
      refine (along_fits ?_).mono fun result later _ => unchecked rfl result later
      exact .bind (ordinary.confirmPasswordReset cfg (fun _ _ _ _ => rfl) (fun _ _ => trivial)
        resetConfirm) fun _ => .ret _

end Programs

/-! ## Versions only grow -/

/-- Every row of the user has at least this version. -/
def AccountDb.Reached (db : AccountDb) (id version : Nat) : Prop :=
  ∀ row ∈ db.users, row.id = id → version ≤ row.tokenVersion

/-- The write gives the tokens of a user a new version. -/
def AccountWrite.Bumps (id version : Nat) : AccountWrite → Prop
  | .updateUser key change => key = id ∧ change.tokenVersion = some version
  | _ => False

/-- A row after some writes comes from a row before them, with the version that a write has
given it or with the old one. -/
structure RowFrom (db : AccountDb) (writes : List AccountWrite) (row old : User) : Prop where
  member : old ∈ db.users
  same : old.id = row.id
  version : (∃ write ∈ writes, write.Bumps row.id row.tokenVersion) ∨
    (row.tokenVersion = old.tokenVersion ∧
      ∀ write ∈ writes, ∀ version, ¬write.Bumps row.id version)

theorem row_apply {call : AccountCall} {db : AccountDb} {write : AccountWrite}
    (fits : write.Fits call) {row : User} (member : row ∈ (db.apply write).users) :
    ∃ old ∈ db.users, old.id = row.id ∧ (write.Bumps row.id row.tokenVersion ∨
      (row.tokenVersion = old.tokenVersion ∧ ∀ version, ¬write.Bumps row.id version)) := by
  cases write with
  | insertUser inserted => exact fits.elim
  | deleteUser id => exact fits.elim
  | updateUser id change =>
      obtain ⟨old, there, rfl⟩ := List.mem_map.mp member
      by_cases mine : old.id = id
      · rw [if_pos mine]
        refine ⟨old, there, rfl, ?_⟩
        cases version : change.tokenVersion with
        | some value =>
            refine .inl ⟨mine.symm, ?_⟩
            rw [version, UserChange.apply, version]
            rfl
        | none =>
            refine .inr ⟨?_, fun value bumps => ?_⟩
            · rw [UserChange.apply, version]
              rfl
            · rw [bumps.2] at version
              cases version
      · rw [if_neg mine]
        exact ⟨old, there, rfl, .inr ⟨rfl, fun value bumps => mine bumps.1.symm⟩⟩
  | _ => exact ⟨row, member, rfl, .inr ⟨rfl, fun _ bumps => bumps.elim⟩⟩

/-- **Where the rows come from** after the writes of a call. -/
theorem row_applyAll {call : AccountCall} {writes : List AccountWrite} {db : AccountDb}
    (fit : ∀ write ∈ writes, write.Fits call) {row : User}
    (member : row ∈ (Sessions.applyAll db writes).users) : ∃ old, RowFrom db writes row old := by
  induction writes generalizing db with
  | nil => exact ⟨row, member, rfl, .inr ⟨rfl, fun _ none => absurd none List.not_mem_nil⟩⟩
  | cons write writes ih =>
      obtain ⟨middle, there, sameId, later⟩ :=
        ih (fun other after => fit other (List.mem_cons_of_mem _ after)) member
      obtain ⟨old, first, same, here⟩ := row_apply (fit write List.mem_cons_self) there
      refine ⟨old, first, same.trans sameId, ?_⟩
      rw [sameId] at here
      rcases later with ⟨other, after, bumps⟩ | ⟨kept, none⟩
      · exact .inl ⟨other, List.mem_cons_of_mem _ after, bumps⟩
      rcases here with bumps | ⟨keptToo, noneHere⟩
      · exact .inl ⟨write, List.mem_cons_self, kept ▸ bumps⟩
      · refine .inr ⟨kept.trans keptToo, fun other among => ?_⟩
        rcases List.mem_cons.mp among with rfl | after
        · exact noneHere
        · exact none other after

/-- The calls commit a new version only for a row whose version they have read: it is the
successor of the committed one. -/
def Fresh (config : AccountConfig) : Action AccountCall → Prop
  | .issue pid => ∀ call next log, config.running pid = some ⟨call, .call .commit next, log⟩ →
      ∀ write ∈ config.world.sessions.writesOf pid, ∀ id version, write.Bumps id version →
        ∀ row ∈ config.world.db.users, row.id = id → row.tokenVersion + 1 = version
  | _ => True

/-- The rows of the second tables have at least the versions of the first. -/
def AccountDb.Older (before after : AccountDb) : Prop :=
  ∀ id version, before.Reached id version → after.Reached id version

section Commits

variable {call : AccountCall} {writes : List AccountWrite} {db : AccountDb}

/-- Writes of new versions that follow the old ones make no row older. -/
theorem older_applyAll (fit : ∀ write ∈ writes, write.Fits call)
    (fresh : ∀ write ∈ writes, ∀ id version, write.Bumps id version →
      ∀ row ∈ db.users, row.id = id → row.tokenVersion + 1 = version) :
    db.Older (Sessions.applyAll db writes) := by
  intro id version reached row member same
  obtain ⟨old, origin⟩ := row_applyAll fit member
  have least := reached old origin.member (origin.same.trans same)
  rcases origin.version with ⟨write, among, bumps⟩ | ⟨kept, -⟩
  · have next := fresh write among _ _ bumps old origin.member origin.same
    exact least.trans (next ▸ Nat.le_succ _)
  · exact kept ▸ least

/-- A new version is above every version of the row before. -/
theorem reached_succ_applyAll (fit : ∀ write ∈ writes, write.Fits call)
    (fresh : ∀ write ∈ writes, ∀ id version, write.Bumps id version →
      ∀ row ∈ db.users, row.id = id → row.tokenVersion + 1 = version) {id version new : Nat}
    (reached : db.Reached id version) {write : AccountWrite} (among : write ∈ writes)
    (bumps : write.Bumps id new) : (Sessions.applyAll db writes).Reached id (version + 1) := by
  intro row member same
  obtain ⟨old, origin⟩ := row_applyAll fit member
  have least := reached old origin.member (origin.same.trans same)
  rcases origin.version with ⟨other, amongToo, bumpsToo⟩ | ⟨-, none⟩
  · have next := fresh other amongToo _ _ bumpsToo old origin.member origin.same
    exact next ▸ Nat.succ_le_succ least
  · exact absurd (same ▸ bumps) (none write among new)

/-- The calls leave the keys of the users as they are. -/
theorem keys_applyAll (fit : ∀ write ∈ writes, write.Fits call) :
    (Sessions.applyAll db writes).users.map (·.id) = db.users.map (·.id) := by
  induction writes generalizing db with
  | nil => rfl
  | cons write writes ih =>
      rw [Sessions.applyAll_cons, ih fun other after => fit other (List.mem_cons_of_mem _ after)]
      have fits := fit write List.mem_cons_self
      cases write with
      | insertUser row => exact fits.elim
      | deleteUser id => exact fits.elim
      | updateUser id change =>
          change List.map _ (List.map _ db.users) = _
          rw [List.map_map]
          refine List.map_congr_left fun user _ => ?_
          rw [Function.comp_apply]
          split <;> rfl
      | _ => rfl

end Commits

/-! ## What statements do -/

section Statements

variable {pid : Pid} {call : AccountCall} {stmt : AccountStmt} {world : AccountWorld AccountCall}
  {state : Seeing}

/-- A look-up shows at most a row of the tables. -/
theorem mem_lookUp {rows : List User} {test : User → Bool} {user : User}
    (seen : user ∈ (state.lookUp (rows.find? test)).seen) :
    user ∈ state.seen ∨ (state.wrote = false ∧ user ∈ rows) := by
  cases found : rows.find? test with
  | none =>
      rw [found] at seen
      exact .inl seen
  | some row =>
      rw [found] at seen
      simp only [Seeing.lookUp, Seeing.see] at seen
      split at seen
      · exact .inl seen
      · next clean =>
          rcases List.mem_cons.mp seen with rfl | old
          · exact .inr ⟨Bool.eq_false_iff.mpr clean, List.mem_of_find?_eq_some found⟩
          · exact .inl old

/-- Whoever is seen is a row that the session sees, and it has not written. -/
theorem seen_learn {user : User}
    (seen : user ∈ (state.learn ⟨stmt, (effectOf pid call stmt world).1⟩).seen) :
    user ∈ state.seen ∨ (state.wrote = false ∧ user ∈ (world.sessions.view pid).users) := by
  cases stmt with
  | select query =>
      cases query with
      | user id tenantId => exact mem_lookUp seen
      | userByEmail email tenantId => exact mem_lookUp seen
      | demoUser email => exact mem_lookUp seen
      | _ => exact .inl seen
  | _ => exact .inl seen

/-- What has been written stays written. -/
theorem wrote_learn (event : Event AccountSql) (wrote : state.wrote = true) :
    (state.learn event).wrote = true := by
  unfold Seeing.learn
  split
  · exact (Seeing.wrote_lookUp ..).trans wrote
  · exact (Seeing.wrote_lookUp ..).trans wrote
  · exact (Seeing.wrote_lookUp ..).trans wrote
  · rfl
  · rfl
  · rfl
  · exact wrote

/-- The uncommitted writes after a statement are those before it and the one that it
makes. -/
theorem writesOf_effect (allowed : Seeing.must call state stmt) {other : Pid} {write : AccountWrite}
    (member : write ∈ (effectOf pid call stmt world).2.sessions.writesOf other) :
    write ∈ world.sessions.writesOf other ∨
      (other = pid ∧ write.Fits call ∧ ∀ answer, (state.learn ⟨stmt, answer⟩).wrote = true) := by
  have added : ∀ new : AccountWrite, write ∈ (world.sessions.add pid new).writesOf other →
      write ∈ world.sessions.writesOf other ∨ (other = pid ∧ write = new) := by
    intro new member
    by_cases same : other = pid
    · subst same
      rw [Sessions.writesOf_add_self] at member
      rcases List.mem_append.mp member with old | fresh
      · exact .inl old
      · exact .inr ⟨rfl, List.mem_singleton.mp fresh⟩
    · rw [Sessions.writesOf_add_of_ne same] at member
      exact .inl member
  have released : write ∈ (world.sessions.release pid).writesOf other →
      write ∈ world.sessions.writesOf other := by
    intro member
    by_cases same : other = pid
    · subst same
      rw [Sessions.writesOf_release_self] at member
      cases member
    · rwa [Sessions.writesOf_release_of_ne same] at member
  cases stmt with
  | insert draft =>
      simp only [effectOf] at member
      split at member
      · exact .inl member
      · rcases added _ member with old | ⟨same, rfl⟩
        · exact .inl old
        · exact .inr ⟨same, allowed _, fun _ => rfl⟩
  | update new =>
      simp only [effectOf] at member
      split at member
      · exact .inl member
      · rcases added _ member with old | ⟨same, rfl⟩
        · exact .inl old
        · exact .inr ⟨same, allowed, fun _ => rfl⟩
  | useResetTokens userId usedAt =>
      rcases added _ member with old | ⟨same, rfl⟩
      · exact .inl old
      · exact .inr ⟨same, trivial, fun _ => rfl⟩
  | commit => exact .inl (released member)
  | rollback => exact .inl (released member)
  | setNx jti ttl =>
      simp only [effectOf] at member
      split at member <;> exact .inl member
  | _ => exact .inl member

end Statements

/-! ## Tokens that are outdated -/

/-- The transaction changes the role or the password of a user, or is that of a
deactivation. -/
def Revokes (call : AccountCall) (writes : List AccountWrite) (id : Nat) : Prop :=
  ∃ change, .updateUser id change ∈ writes ∧
    (change.role.isSome ∨ change.hashedPassword.isSome ∨ call.isDeactivation = true)

/-- The token has been handed out before a transaction that revokes the tokens of its user. -/
def Outdated (history : List (AccountEvent AccountCall)) (token : TokenClaims) : Prop :=
  ∃ earlier call writes later, history = earlier ++ .committed call writes :: later ∧
    Revokes call writes token.sub ∧ ∃ issuer holder, .signed issuer holder token ∈ earlier

/-- A token becomes outdated by a commit only. -/
theorem outdated_snoc {history : List (AccountEvent AccountCall)} {event : AccountEvent AccountCall}
    {token : TokenClaims} (outdated : Outdated (history ++ [event]) token) :
    Outdated history token ∨ ∃ call writes, event = .committed call writes ∧
      Revokes call writes token.sub ∧ ∃ issuer holder, .signed issuer holder token ∈ history := by
  obtain ⟨earlier, call, writes, later, same, revokes, signed⟩ := outdated
  rcases List.eq_nil_or_concat later with rfl | ⟨front, last, rfl⟩
  · obtain ⟨rfl, single⟩ := List.append_inj' same rfl
    exact .inr ⟨call, writes, List.singleton_inj.mp single, revokes, signed⟩
  · have shorter : history = earlier ++ .committed call writes :: front := by
      rw [List.concat_eq_append, ← List.cons_append, ← List.append_assoc] at same
      exact (List.append_inj' same rfl).1
    exact .inl ⟨earlier, call, writes, front, shorter, revokes, signed⟩

/-- The users that a call has seen have versions that have been reached. -/
def Sees (world : AccountWorld AccountCall) (call : AccountCall) (log : List (Event AccountSql)) :
    Prop :=
  ∀ user ∈ (seeingWatch.state call log).seen, world.db.Reached user.id user.tokenVersion

/-- What holds of every configuration in which new versions are fresh. -/
structure Versions (config : AccountConfig) : Prop where
  watched : config.Watched seeingWatch
  keys : (config.world.db.users.map (·.id)).Nodup
  writes : ∀ pid write, write ∈ config.world.sessions.writesOf pid →
    ∃ process, config.running pid = some process ∧ write.Fits process.call ∧
      (seeingWatch.state process.call process.log).wrote = true
  sees : config.Every Sees
  signed : ∀ token, config.world.Signed token → config.world.db.Reached token.sub token.tokenVersion
  outdated : ∀ token, Outdated config.world.history token →
    config.world.db.Reached token.sub (token.tokenVersion + 1)

namespace Versions

variable {cfg : AccountSettings} {before after config : AccountConfig} {action : Action AccountCall}

theorem start {db : AccountDb} (keys : (db.users.map (·.id)).Nodup) (nextId clock : Nat) :
    Versions (accountStart db nextId clock) where
  watched := .initial _ _
  keys := keys
  writes _ _ member := by cases member
  sees := .initial _
  signed _ signed := by
    obtain ⟨_, _, member⟩ := signed
    cases member
  outdated _ outdated := by
    obtain ⟨earlier, _, _, _, same, -⟩ := outdated
    cases earlier <;> cases same

/-- The statement that a process issues is allowed by its monitor. -/
theorem allowed (versions : Versions config) {pid : Pid} {call : AccountCall} {stmt : AccountStmt}
    {next : stmt.Answer → AccountM AccountReply} {log : List (Event AccountSql)}
    (running : config.running pid = some ⟨call, .call stmt next, log⟩) :
    Seeing.must call (seeingWatch.state call log) stmt := by
  have along := versions.watched.running pid _ running
  cases along with
  | call allowed rest => exact allowed

/-- A session that has not written sees the committed rows. -/
theorem view_of_clean (versions : Versions config) {pid : Pid}
    {process : Process AccountSql AccountCall AccountError AccountReply}
    (running : config.running pid = some process)
    (clean : (seeingWatch.state process.call process.log).wrote = false) :
    config.world.sessions.view pid = config.world.db := by
  refine Sessions.view_of_nil (List.eq_nil_iff_forall_not_mem.mpr fun write member => ?_)
  obtain ⟨other, there, -, wrote⟩ := versions.writes pid write member
  obtain rfl : process = other := Option.some.inj (running.symm.trans there)
  rw [clean] at wrote
  cases wrote

/-- An idle session sees the committed rows. -/
theorem view_of_idle (versions : Versions config) {pid : Pid} (idle : config.running pid = none) :
    config.world.sessions.view pid = config.world.db := by
  refine Sessions.view_of_nil (List.eq_nil_iff_forall_not_mem.mpr fun write member => ?_)
  obtain ⟨other, there, -⟩ := versions.writes pid write member
  rw [idle] at there
  cases there

/-- The writes that a process commits are of its call. -/
theorem fits_of_running (versions : Versions config) {pid : Pid}
    {process : Process AccountSql AccountCall AccountError AccountReply}
    (running : config.running pid = some process) :
    ∀ write ∈ config.world.sessions.writesOf pid, write.Fits process.call := by
  intro write member
  obtain ⟨other, there, fits, -⟩ := versions.writes pid write member
  obtain rfl : process = other := Option.some.inj (running.symm.trans there)
  exact fits

/-- **No step makes a version smaller**, when new versions are fresh. -/
theorem older (versions : Versions before) (fresh : Fresh before action)
    (taken : Step (accountMachine cfg) before action after) :
    before.world.db.Older after.world.db := by
  cases ledger_step taken with
  | quiet same history => exact same ▸ fun _ _ => id
  | commits issued running db history =>
      subst issued
      rw [db]
      exact older_applyAll (versions.fits_of_running running) (fresh _ _ _ running)
  | signs running same history => exact same ▸ fun _ _ => id

theorem keys_step (versions : Versions before)
    (taken : Step (accountMachine cfg) before action after) :
    (after.world.db.users.map (·.id)).Nodup := by
  cases ledger_step taken with
  | quiet same history => exact same ▸ versions.keys
  | commits issued running db history =>
      rw [db, keys_applyAll (versions.fits_of_running running)]
      exact versions.keys
  | signs running same history => exact same ▸ versions.keys

/-- A row has reached its own version. -/
theorem reached_self (versions : Versions config) {user : User}
    (member : user ∈ config.world.db.users) :
    config.world.db.Reached user.id user.tokenVersion := by
  intro row there same
  obtain rfl : row = user := List.inj_on_of_nodup_map versions.keys there member same
  exact le_refl _

/-- The answers that the world gives are possible for the monitors. -/
theorem may_effect {pid : Pid} {call : AccountCall} {stmt : AccountStmt}
    {world : AccountWorld AccountCall} :
    Seeing.may ⟨stmt, (effectOf pid call stmt world).1⟩ := by
  cases stmt with
  | select query =>
      cases query with
      | user id tenantId =>
          change Seeing.may ⟨.select (.user id tenantId), (world.sessions.view pid).users.find? _⟩
          cases found : (world.sessions.view pid).users.find? fun row =>
              row.id == id && row.tenantId == tenantId with
          | none => exact trivial
          | some row =>
              have both := List.find?_some found
              rw [Bool.and_eq_true, beq_iff_eq] at both
              exact both.1
      | _ => exact trivial
  | _ => exact trivial

/-- A user that a call sees has reached its version. -/
theorem sees_step (versions : Versions before) (fresh : Fresh before action)
    (taken : Step (accountMachine cfg) before action after) : after.Every Sees := by
  have older := versions.older fresh taken
  refine versions.sees.step taken (fun call log sees user member => older _ _ (sees user member))
    (fun pid call _ user member => by cases member) ?_
  intro pid call stmt next log answer issued running executed sees user member
  obtain ⟨-, effect⟩ := execAccount_some executed
  obtain rfl : (effectOf pid call stmt before.world).1 = answer := congrArg Prod.fst effect
  rw [Watch.state_snoc] at member
  rcases seen_learn member with old | ⟨clean, there⟩
  · exact older _ _ (sees user old)
  · rw [versions.view_of_clean running clean] at there
    exact older _ _ (versions.reached_self there)

/-- The uncommitted writes of every session are of its call. -/
theorem writes_step (versions : Versions before)
    (taken : Step (accountMachine cfg) before action after) :
    ∀ pid write, write ∈ after.world.sessions.writesOf pid →
      ∃ process, after.running pid = some process ∧ write.Fits process.call ∧
        (seeingWatch.state process.call process.log).wrote = true := by
  -- A session that is released has nothing, and the others keep their processes.
  have released : ∀ {pid : Pid} {replaced : Option (Process AccountSql AccountCall AccountError
      AccountReply)} {other : Pid} {write : AccountWrite},
      write ∈ (before.world.sessions.release pid).writesOf other →
      ∃ process, Function.update before.running pid replaced other = some process ∧
        write.Fits process.call ∧ (seeingWatch.state process.call process.log).wrote = true := by
    intro pid replaced other write member
    by_cases same : other = pid
    · subst same
      rw [Sessions.writesOf_release_self] at member
      cases member
    · rw [Sessions.writesOf_release_of_ne same] at member
      rw [Function.update_of_ne same]
      exact versions.writes other write member
  intro pid write member
  cases taken with
  | start call idle => exact released member
  | @issue actor call stmt next log answer world running executed =>
      obtain ⟨-, effect⟩ := execAccount_some executed
      obtain rfl : (effectOf actor call stmt before.world).1 = answer := congrArg Prod.fst effect
      obtain rfl : (effectOf actor call stmt before.world).2 = world := congrArg Prod.snd effect
      have came := writesOf_effect (versions.allowed running) member
      by_cases same : pid = actor
      · subst same
        dsimp only
        rw [Function.update_self]
        refine ⟨_, rfl, ?_⟩
        rw [Watch.state_snoc]
        rcases came with old | ⟨-, fits, wrote⟩
        · obtain ⟨process, there, fits, wrote⟩ := versions.writes pid write old
          rw [running] at there
          cases there
          exact ⟨fits, wrote_learn _ wrote⟩
        · exact ⟨fits, wrote _⟩
      · dsimp only
        rw [Function.update_of_ne same]
        rcases came with old | ⟨mine, -⟩
        · exact versions.writes pid write old
        · exact absurd mine same
  | finish running ended => exact released member
  | stop running => exact released member
  | ambient changed =>
      obtain ⟨clock, -, rfl⟩ := changed
      exact versions.writes pid write member

/-- A token that is handed out has a version that has been reached. -/
theorem signed_step (versions : Versions before) (fresh : Fresh before action)
    (taken : Step (accountMachine cfg) before action after) (token : TokenClaims)
    (signed : after.world.Signed token) :
    after.world.db.Reached token.sub token.tokenVersion := by
  have older := versions.older fresh taken
  obtain ⟨issuer, holder, member⟩ := signed
  have earlier : AccountEvent.signed issuer holder token ∈ before.world.history →
      after.world.db.Reached token.sub token.tokenVersion := fun old =>
    older _ _ (versions.signed token ⟨issuer, holder, old⟩)
  cases ledger_step taken with
  | quiet db history => exact earlier (history ▸ member)
  | commits issued running db history =>
      rw [history] at member
      rcases List.mem_append.mp member with old | new
      · exact earlier old
      · cases List.mem_singleton.mp new
  | signs running db history =>
      rw [history] at member
      rcases List.mem_append.mp member with old | new
      · exact earlier old
      · cases List.mem_singleton.mp new
        obtain ⟨clean, seen, drafts⟩ := versions.allowed running
        obtain ⟨sub, version⟩ := drafts before.world.nextJti
        rw [sub, version]
        exact older _ _ (versions.sees.running _ _ running _ seen)

/-- **A token that is outdated is older than its user.** -/
theorem outdated_step (versions : Versions before) (fresh : Fresh before action)
    (taken : Step (accountMachine cfg) before action after) (token : TokenClaims)
    (outdated : Outdated after.world.history token) :
    after.world.db.Reached token.sub (token.tokenVersion + 1) := by
  have older := versions.older fresh taken
  cases ledger_step taken with
  | quiet db history => exact older _ _ (versions.outdated token (history ▸ outdated))
  | commits issued running db history =>
      subst issued
      rw [history] at outdated
      rcases outdated_snoc outdated with before | ⟨call, writes, same, ⟨change, among, why⟩, signed⟩
      · exact older _ _ (versions.outdated token before)
      · cases same
        have fit := versions.fits_of_running running
        obtain ⟨version, new⟩ := Option.isSome_iff_exists.mp (fit _ among why)
        rw [db]
        exact reached_succ_applyAll fit (fresh _ _ _ running)
          (versions.signed token signed) among ⟨rfl, new⟩
  | signs running db history =>
      rw [history] at outdated
      rcases outdated_snoc outdated with before | ⟨_, _, same, -⟩
      · exact older _ _ (versions.outdated token before)
      · cases same

/-- **Every step keeps the versions**, when new ones are fresh. -/
theorem step (versions : Versions before) (fresh : Fresh before action)
    (taken : Step (accountMachine cfg) before action after) : Versions after where
  watched := by
    refine versions.watched.step taken (perform_sees cfg) ?_
    intro pid call stmt next log answer world issued running executed
    obtain ⟨-, effect⟩ := execAccount_some executed
    obtain rfl : (effectOf pid call stmt before.world).1 = answer := congrArg Prod.fst effect
    exact may_effect
  keys := versions.keys_step taken
  writes := versions.writes_step taken
  sees := versions.sees_step fresh taken
  signed := versions.signed_step fresh taken
  outdated := versions.outdated_step fresh taken

end Versions

/-! ## Outdated tokens are refused -/

/-- What it means that a token is refused: `get_current_user` raises for it, and no call that
is made with it returns. -/
structure Refused (cfg : AccountSettings) (token : TokenClaims)
    (config : AccountConfig) : Prop where
  currentUser : ∀ pid call slug user, config.running pid = none →
    ((getCurrentUser token slug).run (effectOf pid call) config.world).1 ≠ .ok user
  calls : ∀ pid call started later, call.checks = some token →
    Step (accountMachine cfg) config (.start pid call) started →
    Runs (accountMachine cfg) (fun config action => Fresh config action ∧ ¬action.ends pid)
      started later →
    ∃ process, later.running pid = some process ∧ ∀ reply, process.rest.result? ≠ some (.ok reply)

/-- A call with an outdated token has seen its user with later versions only. -/
structure Unaccepted (token : TokenClaims) (config : AccountConfig)
    (process : Process AccountSql AccountCall AccountError AccountReply) : Prop where
  versions : Versions config
  passed : config.world.db.Reached token.sub (token.tokenVersion + 1)
  checks : process.call.checks = some token
  unseen : ∀ user ∈ (seeingWatch.state process.call process.log).seen, user.id = token.sub →
    token.tokenVersion < user.tokenVersion

section Refusing

variable {cfg : AccountSettings} {before after config : AccountConfig} {token : TokenClaims}

theorem Unaccepted.own {pid : Pid} {call : AccountCall} {stmt : AccountStmt}
    {next : stmt.Answer → AccountM AccountReply} {log : List (Event AccountSql)}
    {answer : stmt.Answer}
    (unaccepted : Unaccepted token before ⟨call, .call stmt next, log⟩)
    (fresh : Fresh before (.issue pid))
    (taken : Step (accountMachine cfg) before (.issue pid) after)
    (running : before.running pid = some ⟨call, .call stmt next, log⟩)
    (executed : execAccount pid call stmt before.world = some (answer, after.world)) :
    Unaccepted token after ⟨call, next answer, log ++ [⟨stmt, answer⟩]⟩ where
  versions := unaccepted.versions.step fresh taken
  passed := unaccepted.versions.older fresh taken _ _ unaccepted.passed
  checks := unaccepted.checks
  unseen user member same := by
    obtain ⟨-, effect⟩ := execAccount_some executed
    obtain rfl : (effectOf pid call stmt before.world).1 = answer := congrArg Prod.fst effect
    rw [Watch.state_snoc] at member
    rcases seen_learn member with old | ⟨clean, there⟩
    · exact unaccepted.unseen user old same
    · rw [unaccepted.versions.view_of_clean running clean] at there
      exact unaccepted.passed user there same

/-- No call with an outdated token returns. -/
theorem refused_call (versions : Versions config)
    (passed : config.world.db.Reached token.sub (token.tokenVersion + 1)) {pid : Pid}
    {call : AccountCall} {started later : AccountConfig} (checks : call.checks = some token)
    (starts : Step (accountMachine cfg) config (.start pid call) started)
    (runs : Runs (accountMachine cfg) (fun config action => Fresh config action ∧ ¬action.ends pid)
      started later) :
    ∃ process, later.running pid = some process ∧ ∀ reply, process.rest.result? ≠ some
      (.ok reply) := by
  have free : Fresh config (.start pid call) := trivial
  have begun : ∃ process, started.running pid = some process ∧
    Unaccepted token started process := by
    refine ⟨⟨call, performAccount cfg call, []⟩, ?_, versions.step free starts,
      versions.older free starts _ _ passed, checks, fun user member => by cases member⟩
    cases starts with
    | start call idle => exact Function.update_self ..
  obtain ⟨first, running, unaccepted⟩ := begun
  obtain ⟨process, there, unaccepted⟩ := runs.while_running running unaccepted
    (fun before action after process fresh taken _ _ unaccepted =>
      ⟨unaccepted.versions.step fresh taken, unaccepted.versions.older fresh taken _ _
        unaccepted.passed,
        unaccepted.checks, unaccepted.unseen⟩)
    (fun before after call stmt next log answer fresh taken running executed unaccepted =>
      unaccepted.own fresh taken running executed)
  refine ⟨process, there, fun reply ended => ?_⟩
  have along := unaccepted.versions.watched.running pid process there
  obtain ⟨call, rest, log⟩ := process
  cases along with
  | ret met =>
      obtain ⟨user, member, same, version⟩ := met token _ unaccepted.checks rfl
      exact Nat.lt_irrefl _ (version ▸ unaccepted.unseen user member same)
  | raise met => cases ended
  | call allowed goesOn => cases ended

/-- `get_current_user` raises when every row of the user has a later version. -/
theorem refused_getCurrentUser {pid : Pid} {call : AccountCall} {world : AccountWorld AccountCall}
    (later : ∀ row ∈ (world.sessions.view pid).users, row.id = token.sub →
      token.tokenVersion < row.tokenVersion) (slug : Option String) (user : User) :
    ((getCurrentUser token slug).run (effectOf pid call) world).1 ≠ .ok user := by
  have decoded : (decodeToken token).run (effectOf pid call) world =
      (.ok (if toSeconds world.clock ≤ token.exp then some token else none), world) := rfl
  unfold getCurrentUser
  rw [Program.run_bind, decoded]
  by_cases valid : toSeconds world.clock ≤ token.exp
  · rw [if_pos valid]
    change ((if token.kind ≠ .access then _ else _ : AccountM User).run
      (effectOf pid call) world).1 ≠ _
    split
    · exact nofun
    · rw [Program.run_bind]
      have looked : (select (.user token.sub token.tenantId)).run (effectOf pid call) world =
          (.ok ((world.sessions.view pid).users.find? fun row =>
            row.id == token.sub && row.tenantId == token.tenantId), world) := rfl
      rw [looked]
      cases found : (world.sessions.view pid).users.find? fun row =>
          row.id == token.sub && row.tenantId == token.tenantId with
      | none => exact nofun
      | some row =>
          have both := List.find?_some found
          rw [Bool.and_eq_true, beq_iff_eq] at both
          have newer := later row (List.mem_of_find?_eq_some found) both.1
          change ((if (!row.isActive) = true then _ else _ : AccountM User).run (effectOf pid call)
            world).1 ≠ _
          split
          · exact nofun
          · rw [if_pos (Nat.ne_of_gt newer)]
            exact nofun
  · rw [if_neg valid]
    exact nofun

end Refusing

/-- **A revocation reaches every token that was handed out before it**, when every new
version that is committed follows the committed one. -/
theorem revocation_reaches_earlier_tokens (cfg : AccountSettings) {db : AccountDb}
    (keys : (db.users.map (·.id)).Nodup) {nextId clock : Nat} {config : AccountConfig}
    (runs : Runs (accountMachine cfg) Fresh (accountStart db nextId clock) config) :
    ∀ token, Outdated config.world.history token → Refused cfg token config := by
  intro token outdated
  have versions : Versions config :=
    runs.invariant (.start keys nextId clock) fun _ _ _ versions fresh taken =>
      versions.step fresh taken
  have passed := versions.outdated token outdated
  refine ⟨fun pid call slug user idle => ?_, fun pid call started later checks starts runs =>
    refused_call versions passed checks starts runs⟩
  refine refused_getCurrentUser (fun row member same => ?_) slug user
  rw [versions.view_of_idle idle] at member
  exact passed row member same

/-! ## An increment that is lost -/

/-- The user whose tokens are revoked. -/
def revokedUser (role : Role) (tokenVersion : Nat) : User :=
  { id := 2, tenantId := 1, email := "user@example.com", hashedPassword := "p", role, tokenVersion }

/-- An admin, and a user for whom there is a reset token. -/
def resetDb : AccountDb :=
  { AccountDb.empty with
    tenants := [⟨1, "salon", "Salon", true⟩]
    users := [
      { id := 1, tenantId := 1, email := "admin@example.com", hashedPassword := "a",
        role := .admin },
      revokedUser .user 0]
    passwordResetTokens :=
      [{ id := 1, userId := 2, tokenHash := "reset", expiresAt := 3600000000 }] }

theorem resetDb_keys : (resetDb.users.map (·.id)).Nodup := by decide

/-- The admin makes the user an admin, with the access token of the first login. -/
def changesRole : AccountCall :=
  .patchUser
    { kind := .access, sub := 1, tenantId := 1, tokenVersion := 0, exp := 1800, jti := 0 } none 2
    { role := some (some .admin) }

/-- The writes that are committed are fresh. -/
def looksFresh (config : AccountConfig) : Action AccountCall → Bool
  | .issue pid =>
      match config.running pid with
      | some ⟨_, .call .commit _, _⟩ =>
          (config.world.sessions.writesOf pid).all fun
            | .updateUser id change => change.tokenVersion.all fun version =>
                config.world.db.users.all fun row => row.id != id || row.tokenVersion + 1 == version
            | _ => true
      | _ => true
  | _ => true

theorem looksFresh_sound (config : AccountConfig) (action : Action AccountCall)
    (looks : looksFresh config action = true) : Fresh config action := by
  cases action with
  | issue pid =>
      intro call next log running write member id version bumps row there same
      rw [looksFresh, running] at looks
      have one := List.all_eq_true.mp looks write member
      cases write with
      | updateUser key change =>
          obtain ⟨rfl, new⟩ := bumps
          simp only [new, Option.all_some, List.all_eq_true, Bool.or_eq_true, bne_iff_ne, ne_eq,
            beq_iff_eq] at one
          exact (one row there).resolve_left fun other => other same
      | _ => exact bumps.elim
  | _ => exact trivial

/-- A token is outdated when a revoking transaction is recorded after it. -/
theorem outdated_of_getElem {history : List (AccountEvent AccountCall)} {token : TokenClaims}
    {early late : Nat} {issuer call : AccountCall} {holder : User} {writes : List AccountWrite}
    (signed : history[early]? = some (.signed issuer holder token))
    (committed : history[late]? = some (.committed call writes)) (before : early < late)
    (revokes : Revokes call writes token.sub) : Outdated history token := by
  obtain ⟨inside, same⟩ := List.getElem?_eq_some_iff.mp committed
  refine ⟨history.take late, call, writes, history.drop (late + 1), ?_, revokes, issuer, holder, ?_⟩
  · rw [← same, ← List.drop_eq_getElem_cons inside, List.take_append_drop]
  · refine List.mem_iff_getElem?.mpr ⟨early, ?_⟩
    rw [List.getElem?_take_of_lt before]
    exact signed

/-- The user logs in before its role is changed. -/
def logsInEarly : List (Nat × List (Action AccountCall)) :=
  [(0, wholeAccountCall 0 (.loginUser ⟨"admin@example.com", "a"⟩ 1) 5 ++
    wholeAccountCall 1 (.loginUser ⟨"user@example.com", "p"⟩ 1) 5 ++
      wholeAccountCall 2 changesRole 8)]

/-- The access token of the second login. -/
def userToken (tokenVersion : Nat) : TokenClaims :=
  { kind := .access, sub := 2, tenantId := 1, tokenVersion, exp := 1800, jti := 2 }

theorem logsInEarly_possible :
    (runSchedule plainSettings looksFresh logsInEarly (accountStart resetDb 3 0)).isSome =
      true := by
  decide +kernel

theorem role_change_revokes : ∃ config,
    Runs (accountMachine plainSettings) Fresh (accountStart resetDb 3 0) config ∧
      config.world.db.users.map (·.tokenVersion) = [0, 1] ∧
      Refused plainSettings (userToken 0) config := by
  have runs := runs_of_schedule looksFresh_sound (fun _ => trivial) logsInEarly
    (Option.some_get logsInEarly_possible).symm
  have signed : ((Option.get _ logsInEarly_possible).world.history[2]?) =
      some (.signed (.loginUser ⟨"user@example.com", "p"⟩ 1) (revokedUser .user 0)
        (userToken 0)) := by
    decide +kernel
  have committed : ((Option.get _ logsInEarly_possible).world.history[4]?) =
      some (.committed changesRole [.updateUser 2 { role := some .admin, tokenVersion := some 1 },
        .insertAudit ⟨3, 1, some 1, .userUpdated, some 2, none⟩]) := by
    decide +kernel
  refine ⟨_, runs, by decide +kernel, revocation_reaches_earlier_tokens plainSettings
    resetDb_keys runs
    (userToken 0)
    (outdated_of_getElem signed committed (by decide) ⟨_, List.mem_cons_self, .inl rfl⟩)⟩

/-- A password is reset by a call that has read the user before the role was changed; the user
logs in in between. -/
def logsInBetween : List (Nat × List (Action AccountCall)) :=
  [(0, wholeAccountCall 0 (.loginUser ⟨"admin@example.com", "a"⟩ 1) 5 ++
    .start 3 (.confirmPasswordReset ⟨"reset", "q"⟩) :: List.replicate 3 (.issue 3) ++
      wholeAccountCall 2 changesRole 8 ++
        wholeAccountCall 1 (.loginUser ⟨"user@example.com", "p"⟩ 1) 5 ++
        List.replicate 8 (.issue 3) ++ [.finish 3])]

theorem logsInBetween_possible :
    (runSchedule plainSettings looksUnforged logsInBetween (accountStart resetDb 3 0)).isSome =
      true := by
  decide +kernel

/-- The token of the login is older than the reset, and has the version that it wrote. -/
theorem lost_increment_keeps_a_token :
    ¬∀ config, Runs (accountMachine plainSettings) Unforged (accountStart resetDb 3 0) config →
      ∀ token, Outdated config.world.history token → Refused plainSettings token config := by
  intro reaches
  have runs := runs_of_schedule looksUnforged_sound (fun _ => trivial) logsInBetween
    (Option.some_get logsInBetween_possible).symm
  have signed : ((Option.get _ logsInBetween_possible).world.history[3]?) =
      some (.signed (.loginUser ⟨"user@example.com", "p"⟩ 1) (revokedUser .admin 1)
        (userToken 1)) := by
    decide +kernel
  have committed : ((Option.get _ logsInBetween_possible).world.history[5]?) =
      some (.committed (.confirmPasswordReset ⟨"reset", "q"⟩)
        [.updateUser 2 { hashedPassword := some "q", tokenVersion := some 1 }]) := by
    decide +kernel
  have refused := reaches _ runs (userToken 1)
    (outdated_of_getElem signed committed (by decide) ⟨_, List.mem_cons_self, .inr (.inl rfl)⟩)
  have taken : (((getCurrentUser (userToken 1) none).run (effectOf 4 .createDemoSession)
      (Option.get _ logsInBetween_possible).world).1.toOption.map (·.id)) = some 2 := by
    decide +kernel
  cases result : ((getCurrentUser (userToken 1) none).run (effectOf 4 .createDemoSession)
      (Option.get _ logsInBetween_possible).world).1 with
  | ok user => exact refused.currentUser 4 .createDemoSession none user (by decide +kernel) result
  | error error =>
      rw [result] at taken
      cases taken

end AppointmentVoice.Accounts
