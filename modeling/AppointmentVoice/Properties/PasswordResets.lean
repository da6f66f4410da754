import AppointmentVoice.Accounts.History
import AppointmentVoice.Accounts.Statements

/-!
# Reset tokens are used once

A confirmation reads its token, commits the new password, and then marks all tokens of the
user as used, in a commit of its own.  In between it holds the user: as long as nobody
reads a token of a user that is held, and nobody lets go of a user between the two commits,
one confirmation changes the password and no token of the user is good for another.

**Turns.** What a confirmation does is followed stage by stage (`perform_resets`); every
statement, commit and step keeps the turns (`issue`, `commit`, `turns_step`).

**The result.** `tokens_are_used_once`; two confirmations at once, or one that is cut off
between its commits, use a token twice (`token_is_used_twice`).
-/

set_option autoImplicit false

namespace AppointmentVoice.Accounts

open Concurrency Program

/-! ## Where a confirmation is -/

/-- Where a call is: it is no confirmation or has been refused, it has not read its token,
it has found its token unused, it has flushed and then committed the password of the user,
it has marked the tokens, and it has committed that. -/
inductive ResetStage where
  | apart
  | begun
  | holding (resetToken : PasswordResetToken)
  | flushed (userId : Nat)
  | changed (userId : Nat)
  | marking (userId : Nat)
  | settled (userId : Nat)

/-- The write leaves passwords and reset tokens alone. -/
def AccountWrite.Plain : AccountWrite → Prop
  | .updateUser _ change => change.hashedPassword = none
  | .deleteUser _ => False
  | .markResetTokens _ _ => False
  | _ => True

namespace ResetStage

/-- From its token to the commit that marks the tokens, a confirmation holds the user. -/
def Holds (userId : Nat) : ResetStage → Prop
  | .holding resetToken => resetToken.userId = userId
  | .flushed id => id = userId
  | .changed id => id = userId
  | .marking id => id = userId
  | _ => False

/-- The password is committed, and the tokens are not yet marked. -/
def Owes (userId : Nat) : ResetStage → Prop
  | .changed id => id = userId
  | .marking id => id = userId
  | _ => False

/-- The password is committed. -/
def HasChanged (userId : Nat) : ResetStage → Prop
  | .changed id => id = userId
  | .marking id => id = userId
  | .settled id => id = userId
  | _ => False

/-- The writes that are made in a stage. -/
def MayWrite (write : AccountWrite) : ResetStage → Prop
  | .holding resetToken => ∃ change, write = .updateUser resetToken.userId change ∧
      change.hashedPassword.isSome = true
  | _ => write.Plain

/-- A confirmation commits after it has flushed the password, and after it has marked the
tokens. -/
def MayCommit : ResetStage → Prop
  | .holding _ => False
  | .changed _ => False
  | _ => True

/-- The statements that are sent in a stage; `own` is the hash of the token of the call. -/
def must (own : String) (stage : ResetStage) : AccountStmt → Prop
  | .select query => stage = .begun → ∀ tokenHash, query = .resetToken tokenHash → tokenHash = own
  | .insert draft => ∀ id, (draft id).Plain
  | .update write => stage.MayWrite write
  | .useResetTokens userId _ => stage = .changed userId
  | .commit => stage.MayCommit
  | .rollback => False
  | _ => True

/-- The answers that are possible, when `owner` gives the user of a token. -/
def may (owner : String → Option Nat) : Event AccountSql → Prop
  | ⟨.select (.resetToken tokenHash), some row⟩ => owner tokenHash = some row.userId
  | ⟨.select (.userByPrimaryKey id), some row⟩ => row.id = id
  | _ => True

/-- The token is held, unless there is a reason against it. -/
def holdUnless (resetToken : PasswordResetToken) (refused : Bool) : ResetStage :=
  if refused then .apart else .holding resetToken

def learn (stage : ResetStage) (event : Event AccountSql) : ResetStage :=
  match stage with
  | .begun =>
      match event with
      | ⟨.select (.resetToken _), some row⟩ => holdUnless row row.usedAt.isSome
      | _ => .begun
  | .holding resetToken =>
      match event with
      | ⟨.now, usedAt⟩ => holdUnless resetToken (Nat.blt resetToken.expiresAt usedAt)
      | ⟨.select (.userByPrimaryKey _), none⟩ => .apart
      | ⟨.select (.userByPrimaryKey _), some user⟩ =>
          holdUnless resetToken (!user.isActive || user.isDemoUser)
      | ⟨.update _, true⟩ => .flushed resetToken.userId
      | ⟨.update _, false⟩ => .apart
      | _ => .holding resetToken
  | .flushed userId =>
      match event with
      | ⟨.commit, _⟩ => .changed userId
      | _ => .flushed userId
  | .changed userId =>
      match event with
      | ⟨.useResetTokens _ _, _⟩ => .marking userId
      | _ => .changed userId
  | .marking userId =>
      match event with
      | ⟨.commit, _⟩ => .settled userId
      | _ => .marking userId
  | .settled userId => .settled userId
  | .apart => .apart

end ResetStage

/-- The hash of the token with which a confirmation is made. -/
def AccountCall.resetHash (cfg : AccountSettings) : AccountCall → String
  | .confirmPasswordReset resetConfirm => cfg.hashPasswordResetToken resetConfirm.token
  | _ => ""

/-- The user of a reset token. -/
def AccountDb.tokenOwner (db : AccountDb) (tokenHash : String) : Option Nat :=
  (db.passwordResetTokens.find? (·.tokenHash == tokenHash)).map (·.userId)

section Watching

variable (cfg : AccountSettings) (db : AccountDb)

def resetMonitor (call : AccountCall) : Monitor AccountSql ResetStage where
  may _ := ResetStage.may db.tokenOwner
  must := ResetStage.must (call.resetHash cfg)
  learn := ResetStage.learn

/-- A confirmation returns only after it has marked the tokens of the user of its token. -/
def resetWatch : Watch AccountSql AccountCall AccountError AccountReply ResetStage where
  monitor := resetMonitor cfg db
  initial
    | .confirmPasswordReset _ => .begun
    | _ => .apart
  post call result stage :=
    ∀ resetConfirm reply, call = .confirmPasswordReset resetConfirm → result = .ok reply →
      ∃ userId, stage = .settled userId ∧ db.tokenOwner (call.resetHash cfg) = some userId

end Watching

/-! ## The programs of the calls -/

/-- The statement leaves passwords and reset tokens alone. -/
def AccountStmt.LeavesResets : AccountStmt → Prop
  | .insert draft => ∀ id, (draft id).Plain
  | .update write => write.Plain
  | .useResetTokens _ _ => False
  | .rollback => False
  | _ => True

theorem ordinary_leavesResets : Ordinary AccountStmt.LeavesResets where
  select _ := trivial
  now := trivial
  keyExists _ := trivial
  commit := trivial
  audit _ := fun _ => trivial

section Programs

variable {cfg : AccountSettings} {db : AccountDb} {call : AccountCall} {α : Type}

/-- A program that leaves resets alone stays apart. -/
theorem along_apart {program : AccountM α} (only : program.Only AccountStmt.LeavesResets) :
    (resetMonitor cfg db call).Along (fun _ later => .apart = later) program .apart := by
  refine Monitor.Along.of_only rfl (fun later stmt same leaves => ?_) only
  subst same
  refine ⟨?_, fun answer => rfl⟩
  cases stmt with
  | select query => exact nofun
  | insert draft => exact leaves
  | update write => exact leaves
  | useResetTokens userId usedAt => exact leaves.elim
  | rollback => exact leaves.elim
  | _ => exact trivial

/-- The calls that are no confirmations leave resets alone. -/
theorem others_leaveResets (other : ∀ body, call ≠ .confirmPasswordReset body) :
    (performAccount cfg call).Only AccountStmt.LeavesResets :=
  ordinary_leavesResets.perform cfg (fun _ _ none => none)
    (fun body same => absurd same (other body))
    (fun _ _ _ => ⟨trivial, trivial⟩) fun _ =>
      .bind (.call trivial fun _ => .issue trivial) fun _ =>
        .bind (.call trivial fun _ => .issue trivial) fun _ => .ret _

/-- What is left of a confirmation once its password is committed. -/
theorem along_changed {userId usedAt : Nat} {post : Except AccountError Unit → ResetStage → Prop}
    (raises : ∀ error later, post (.error error) later)
    (settles : post (.ok ()) (.settled userId)) :
    (resetMonitor cfg db call).Along post (do
      let user ← refreshUser userId
      useResetTokens user.id usedAt
      commit
      let user ← refreshUser user.id
      createAuditLog user.tenantId none .passwordResetConfirmed (some user.id) none
      commit) (.changed userId) := by
  refine .issue nofun fun answer possible => ?_
  cases (answer : Option User) with
  | none => exact .raise (raises _ _)
  | some user =>
      obtain rfl : user.id = userId := possible
      refine .issue rfl fun _ _ => .issue trivial fun _ _ => .issue nofun fun answer _ => ?_
      cases (answer : Option User) with
      | none => exact .raise (raises _ _)
      | some user =>
          refine .issue (fun _ => trivial) fun answer _ => ?_
          cases (answer : Option Nat) with
          | none => exact .raise (raises _ _)
          | some id => exact .call trivial fun _ _ => .ret settles

/-- A confirmation that holds its token. -/
theorem along_resetPassword {resetToken : PasswordResetToken} {user : User} {newPassword : String}
    {usedAt : Nat} {post : Except AccountError Unit → ResetStage → Prop}
    (same : user.id = resetToken.userId) (raises : ∀ error later, post (.error error) later)
    (settles : post (.ok ()) (.settled resetToken.userId)) :
    (resetMonitor cfg db call).Along post (resetPassword cfg user newPassword usedAt)
      (.holding resetToken) := by
  have allowed : ResetStage.MayWrite (.updateUser user.id
      { hashedPassword := some (cfg.hashPassword newPassword)
        tokenVersion := some (user.tokenVersion + 1) }) (.holding resetToken) :=
    ⟨_, by rw [same], rfl⟩
  refine .call allowed fun answer _ => ?_
  cases (answer : Bool) with
  | false => exact .raise (raises _ _)
  | true =>
      refine .call trivial fun _ _ => ?_
      rw [same]
      exact along_changed raises settles

/-- What a confirmation does after it has read its token. -/
theorem along_held {resetToken : PasswordResetToken} {newPassword : String}
    {next : String → AccountM AccountReply}
    {post : Except AccountError AccountReply → ResetStage → Prop}
    (raises : ∀ error later, post (.error error) later)
    (rest : (resetMonitor cfg db call).Along post (next "Password has been reset.")
      (.settled resetToken.userId)) :
    (resetMonitor cfg db call).Along post ((do
      let usedAt ← now
      if resetToken.usedAt.isSome then throw invalidResetToken
      if resetToken.expiresAt < usedAt then throw invalidResetToken
      let user ← orRaise invalidResetToken (← select (.userByPrimaryKey resetToken.userId))
      if !user.isActive || user.isDemoUser then throw invalidResetToken
      resetPassword cfg user newPassword usedAt
      return "Password has been reset.") >>= next) (.holding resetToken) := by
  rw [bind_assoc]
  refine .issue trivial fun answer _ => ?_
  obtain ⟨usedAt, rfl⟩ : ∃ usedAt : Nat, usedAt = answer := ⟨answer, rfl⟩
  refine .guard (raises _ _) fun _ => .guard (raises _ _) fun late => ?_
  have held : ResetStage.holdUnless resetToken (Nat.blt resetToken.expiresAt usedAt) =
      .holding resetToken := by
    rw [ResetStage.holdUnless, if_neg fun before => late (Nat.blt_eq.mp before)]
  change (resetMonitor cfg db call).Along post _
    (ResetStage.holdUnless resetToken (Nat.blt _ usedAt))
  rw [held, bind_assoc]
  refine .issue nofun fun answer possible => ?_
  cases (answer : Option User) with
  | none => exact .raise (raises _ _)
  | some user =>
      refine .guard (raises _ _) fun fit => ?_
      change (resetMonitor cfg db call).Along post _
        (ResetStage.holdUnless resetToken (!user.isActive || user.isDemoUser))
      rw [ResetStage.holdUnless, if_neg fit, bind_assoc]
      refine .bind (along_resetPassword possible (fun error later => raises error later) ?_)
      exact rest

/-- **Every call keeps to its monitor.** -/
theorem perform_resets (cfg : AccountSettings) (db : AccountDb) (call : AccountCall) :
    (resetMonitor cfg db call).Along ((resetWatch cfg db).post call) (performAccount cfg call)
      ((resetWatch cfg db).initial call) := by
  by_cases confirms : ∃ body, call = .confirmPasswordReset body
  · obtain ⟨resetConfirm, rfl⟩ := confirms
    have raises : ∀ (error : AccountError) (later : ResetStage),
        (resetWatch cfg db).post (.confirmPasswordReset resetConfirm) (.error error) later :=
      fun _ _ _ _ _ same => nomatch same
    change (resetMonitor _ _ _).Along _ (confirmPasswordReset cfg resetConfirm >>= _) _
    unfold confirmPasswordReset
    rw [bind_assoc]
    refine .issue (fun _ tokenHash same => ?_) fun answer possible => ?_
    · exact (AccountQuery.resetToken.inj same).symm
    cases (answer : Option PasswordResetToken) with
    | none => exact .raise (raises _ _)
    | some resetToken =>
        by_cases used : resetToken.usedAt.isSome = true
        · rw [bind_assoc]
          exact .issue trivial fun usedAt _ => .guard (raises _ _) fun unused => absurd used unused
        · change (resetMonitor cfg db _).Along _ _
            (ResetStage.holdUnless resetToken resetToken.usedAt.isSome)
          rw [ResetStage.holdUnless, if_neg used]
          exact along_held raises (.ret fun _ _ _ _ => ⟨_, rfl, possible⟩)
  · have other : ∀ body, call ≠ .confirmPasswordReset body := fun body same => confirms ⟨body, same⟩
    have initial : (resetWatch cfg db).initial call = .apart := by
      cases call with
      | confirmPasswordReset body => exact absurd rfl (other body)
      | _ => rfl
    rw [initial]
    exact (along_apart (others_leaveResets other)).mono fun result later _ body reply same =>
      absurd same (other body)

end Programs

/-! ## Passwords and tokens in the tables -/

/-- The writes change the password of the user. -/
def changesPassword (writes : List AccountWrite) (userId : Nat) : Bool :=
  writes.any fun
    | .updateUser id change => id == userId && change.hashedPassword.isSome
    | _ => false

/-- How often a password of the user has been committed. -/
def passwordChanges (history : List (AccountEvent AccountCall)) (userId : Nat) : Nat :=
  history.countP fun
    | .committed _ writes => changesPassword writes userId
    | .signed _ _ _ => false

/-- Every token of the user has been used. -/
def AccountDb.AllUsed (db : AccountDb) (userId : Nat) : Prop :=
  ∀ row ∈ db.passwordResetTokens, row.userId = userId → row.usedAt.isSome = true

/-- The reset tokens but for their use. -/
def AccountDb.bareTokens (db : AccountDb) : List PasswordResetToken :=
  db.passwordResetTokens.map fun row => { row with usedAt := none }

theorem changesPassword_iff {writes : List AccountWrite} {userId : Nat} :
    changesPassword writes userId = true ↔
      ∃ change, .updateUser userId change ∈ writes ∧ change.hashedPassword.isSome = true := by
  rw [changesPassword, List.any_eq_true]
  constructor
  · rintro ⟨write, member, changes⟩
    cases write with
    | updateUser id change =>
        rw [Bool.and_eq_true, beq_iff_eq] at changes
        obtain ⟨rfl, hash⟩ := changes
        exact ⟨change, member, hash⟩
    | _ => cases changes
  · rintro ⟨change, member, hash⟩
    refine ⟨_, member, ?_⟩
    change (userId == userId && change.hashedPassword.isSome) = true
    rw [hash, beq_self_eq_true]
    rfl

section Tokens

variable {db : AccountDb} {writes : List AccountWrite}

/-- The owner of a token is found among the tokens but for their use. -/
theorem tokenOwner_eq (db : AccountDb) (tokenHash : String) :
    db.tokenOwner tokenHash = (db.bareTokens.find? (·.tokenHash == tokenHash)).map (·.userId) := by
  rw [AccountDb.tokenOwner, AccountDb.bareTokens, List.find?_map, Option.map_map]
  rfl

/-- Marking leaves the tokens as they are but for their use. -/
theorem bareTokens_applyAll (kept : ∀ write ∈ writes, ∀ id, write ≠ .deleteUser id) :
    (Sessions.applyAll db writes).bareTokens = db.bareTokens := by
  induction writes generalizing db with
  | nil => rfl
  | cons write writes ih =>
      rw [Sessions.applyAll_cons, ih fun other later => kept other (List.mem_cons_of_mem _ later)]
      cases write with
      | deleteUser id => exact absurd rfl (kept _ List.mem_cons_self id)
      | markResetTokens ids usedAt =>
          change List.map _ (List.map _ db.passwordResetTokens) = _
          rw [List.map_map]
          refine List.map_congr_left fun row _ => ?_
          rw [Function.comp_apply]
          split <;> rfl
      | _ => rfl

/-- Plain writes leave the tokens as they are. -/
theorem tokens_applyAll (plain : ∀ write ∈ writes, write.Plain ∨
    ∃ id change, write = .updateUser id change) :
    (Sessions.applyAll db writes).passwordResetTokens = db.passwordResetTokens := by
  induction writes generalizing db with
  | nil => rfl
  | cons write writes ih =>
      rw [Sessions.applyAll_cons, ih fun other later => plain other (List.mem_cons_of_mem _ later)]
      have here := plain write List.mem_cons_self
      cases write with
      | deleteUser id =>
          rcases here with is | ⟨_, _, is⟩
          · exact is.elim
          · cases is
      | markResetTokens ids usedAt =>
          rcases here with is | ⟨_, _, is⟩
          · exact is.elim
          · cases is
      | _ => rfl

/-- A token after some writes is one before them, used if it was or if it has been marked. -/
theorem token_applyAll (kept : ∀ write ∈ writes, ∀ id, write ≠ .deleteUser id)
    {row : PasswordResetToken} (member : row ∈ (Sessions.applyAll db writes).passwordResetTokens) :
    ∃ old ∈ db.passwordResetTokens, old.id = row.id ∧ old.userId = row.userId ∧
      (old.usedAt.isSome = true → row.usedAt.isSome = true) ∧
      ∀ ids usedAt, .markResetTokens ids usedAt ∈ writes → old.id ∈ ids →
        row.usedAt.isSome = true := by
  induction writes generalizing db with
  | nil => exact ⟨row, member, rfl, rfl, id, fun _ _ none => absurd none List.not_mem_nil⟩
  | cons write writes ih =>
      obtain ⟨middle, there, sameId, sameUser, stays, later⟩ :=
        ih (fun other after => kept other (List.mem_cons_of_mem _ after)) member
      have unchanged : middle ∈ db.passwordResetTokens →
          (∀ ids usedAt, write ≠ .markResetTokens ids usedAt) → ∃ old ∈ db.passwordResetTokens,
            old.id = row.id ∧ old.userId = row.userId ∧
            (old.usedAt.isSome = true → row.usedAt.isSome = true) ∧
            ∀ ids usedAt, .markResetTokens ids usedAt ∈ write :: writes → old.id ∈ ids →
              row.usedAt.isSome = true := by
        intro first other
        refine ⟨middle, first, sameId, sameUser, stays, fun ids usedAt among marked => ?_⟩
        rcases List.mem_cons.mp among with same | after
        · exact absurd same.symm (other ids usedAt)
        · exact later ids usedAt after marked
      cases write with
      | deleteUser id => exact absurd rfl (kept _ List.mem_cons_self id)
      | markResetTokens ids usedAt =>
          obtain ⟨old, first, rfl⟩ := List.mem_map.mp there
          by_cases marked : old.id ∈ ids
          · rw [if_pos marked] at sameId sameUser stays later
            exact ⟨old, first, sameId, sameUser, fun _ => stays rfl, fun _ _ _ _ => stays rfl⟩
          · rw [if_neg marked] at sameId sameUser stays later
            refine ⟨old, first, sameId, sameUser, stays, fun others at' among inside => ?_⟩
            rcases List.mem_cons.mp among with same | after
            · cases same
              exact absurd inside marked
            · exact later others at' after inside
      | _ => exact unchanged there nofun

end Tokens

/-! ## Taking turns -/

/-- The write is one that is pending in the stage: a new password while it is flushed, and
marks that leave out no unused token while the tokens are being marked. -/
def ResetStage.Backs (tokens : List PasswordResetToken) (stage : ResetStage) : AccountWrite → Prop
  | .updateUser id change => change.hashedPassword.isSome = true → stage = .flushed id
  | .deleteUser _ => False
  | .markResetTokens ids _ => ∃ userId, stage = .marking userId ∧
      ∀ row ∈ tokens, row.userId = userId → row.usedAt = none → row.id ∈ ids
  | _ => True

/-- The confirmations take turns: one at a time holds a user, nobody holds a user whose
password has been changed unless to mark its tokens, and the password changes once. -/
structure Turns (origin : AccountDb) (world : AccountWorld AccountCall)
    (stages : Pid → ResetStage) :
    Prop where
  tokens : world.db.bareTokens = origin.bareTokens
  backs : ∀ pid write, write ∈ world.sessions.writesOf pid →
    (stages pid).Backs world.db.passwordResetTokens write
  flushed : ∀ pid userId, stages pid = .flushed userId →
    changesPassword (world.sessions.writesOf pid) userId = true
  marked : ∀ pid userId, stages pid = .marking userId →
    ∃ ids usedAt, .markResetTokens ids usedAt ∈ world.sessions.writesOf pid
  exclusive : ∀ pid other userId, (stages pid).Holds userId → (stages other).Holds userId →
    pid = other
  fresh : ∀ pid userId, (stages pid).Holds userId → ¬(stages pid).Owes userId →
    passwordChanges world.history userId = 0
  covered : ∀ userId, passwordChanges world.history userId ≠ 0 →
    (∃ pid, (stages pid).Owes userId) ∨ world.db.AllUsed userId
  once : ∀ userId, passwordChanges world.history userId ≤ 1

namespace ResetStage

variable {tokens : List PasswordResetToken} {stage : ResetStage} {write : AccountWrite}

theorem Owes.holds {userId : Nat} (owes : stage.Owes userId) : stage.Holds userId := by
  cases stage with
  | changed id => exact owes
  | marking id => exact owes
  | _ => exact owes.elim

/-- Plain writes are pending in any stage. -/
theorem Backs.of_plain (plain : write.Plain) (stage : ResetStage) : stage.Backs tokens write := by
  cases write with
  | updateUser id change =>
      intro hash
      rw [show change.hashedPassword = none from plain] at hash
      cases hash
  | deleteUser id => exact plain.elim
  | markResetTokens ids usedAt => exact plain.elim
  | _ => exact trivial

/-- Before the password is flushed, and after the tokens are marked, plain writes are
pending. -/
theorem Backs.plain (backs : stage.Backs tokens write) (flushed : ∀ id, stage ≠ .flushed id)
    (marking : ∀ id, stage ≠ .marking id) : write.Plain := by
  cases write with
  | updateUser id change =>
      change change.hashedPassword = none
      cases hash : change.hashedPassword with
      | none => rfl
      | some value => exact absurd (backs (by rw [hash]; rfl)) (flushed id)
  | deleteUser id => exact backs.elim
  | markResetTokens ids usedAt =>
      obtain ⟨userId, same, -⟩ := backs
      exact absurd same (marking userId)
  | _ => exact trivial

theorem Backs.ne_deleteUser (backs : stage.Backs tokens write) (id : Nat) :
    write ≠ .deleteUser id := by
  rintro rfl
  exact backs

/-- With fewer unused tokens the same writes are pending. -/
theorem Backs.mono {fewer : List PasswordResetToken} (backs : stage.Backs tokens write)
    (from_ : ∀ row ∈ fewer, ∃ old ∈ tokens, old.id = row.id ∧ old.userId = row.userId ∧
      (old.usedAt.isSome = true → row.usedAt.isSome = true)) : stage.Backs fewer write := by
  cases write with
  | markResetTokens ids usedAt =>
      obtain ⟨userId, same, covers⟩ := backs
      refine ⟨userId, same, fun row member mine unused => ?_⟩
      obtain ⟨old, there, sameId, sameUser, stays⟩ := from_ row member
      rw [← sameId]
      refine covers old there (sameUser.trans mine) ?_
      cases used : old.usedAt with
      | none => rfl
      | some at' =>
          have too := stays (by rw [used]; rfl)
          rw [unused] at too
          cases too
  | _ => exact backs

end ResetStage

namespace Turns

variable {origin : AccountDb} {world after : AccountWorld AccountCall} {stages : Pid → ResetStage}
  {pid : Pid} {stage : ResetStage}

theorem start (db : AccountDb) (nextId clock : Nat) :
    Turns db (AccountWorld.start db nextId clock) fun _ => .apart where
  tokens := rfl
  backs _ _ member := by cases member
  flushed _ _ same := by cases same
  marked _ _ same := by cases same
  exclusive _ _ _ holds := holds.elim
  fresh _ _ holds := holds.elim
  covered _ changed := absurd rfl changed
  once _ := Nat.zero_le 1

/-- What the others are, when one moves. -/
theorem owes_of_ne (turns : Turns origin world stages) {userId : Nat}
    (moves : ∀ userId, (stages pid).Owes userId → stage.Owes userId)
    (changed : passwordChanges world.history userId ≠ 0) :
    (∃ other, (Function.update stages pid stage other).Owes userId) ∨ world.db.AllUsed userId := by
  refine (turns.covered userId changed).imp (fun ⟨other, owes⟩ => ?_) id
  refine ⟨other, ?_⟩
  by_cases same : other = pid
  · subst same
    rw [Function.update_self]
    exact moves userId owes
  · rw [Function.update_of_ne same]
    exact owes

/-- One process at a time holds a user, when the one that moves takes no user that is
held. -/
theorem exclusive_update (turns : Turns origin world stages)
    (holds : ∀ userId, stage.Holds userId → (stages pid).Holds userId ∨
      ∀ other, other ≠ pid → ¬(stages other).Holds userId) (first second : Pid) (userId : Nat)
    (one : (Function.update stages pid stage first).Holds userId)
    (two : (Function.update stages pid stage second).Holds userId) : first = second := by
  have alone : ∀ other, other ≠ pid → stage.Holds userId → ¬(stages other).Holds userId := by
    intro other different here there
    rcases holds userId here with held | nobody
    · exact different (turns.exclusive other pid userId there held)
    · exact nobody other different there
  by_cases mine : first = pid
  · subst mine
    rw [Function.update_self] at one
    by_cases own : second = first
    · exact own.symm
    · rw [Function.update_of_ne own] at two
      exact absurd two (alone second own one)
  · rw [Function.update_of_ne mine] at one
    by_cases own : second = pid
    · subst own
      rw [Function.update_self] at two
      exact absurd one (alone first mine two)
    · rw [Function.update_of_ne own] at two
      exact turns.exclusive first second userId one two

/-- **A move without a commit.** The committed rows and the passwords that have been
committed stay, and so do the pending writes of the others. -/
theorem move (turns : Turns origin world stages) (db : after.db = world.db)
    (history : ∀ userId, passwordChanges after.history userId = passwordChanges
      world.history userId)
    (others : ∀ other, other ≠ pid →
      after.sessions.writesOf other = world.sessions.writesOf other)
    (backs : ∀ write ∈ after.sessions.writesOf pid, stage.Backs world.db.passwordResetTokens write)
    (flushed : ∀ userId, stage = .flushed userId →
      changesPassword (after.sessions.writesOf pid) userId = true)
    (marked : ∀ userId, stage = .marking userId →
      ∃ ids usedAt, .markResetTokens ids usedAt ∈ after.sessions.writesOf pid)
    (holds : ∀ userId, stage.Holds userId → (stages pid).Holds userId ∨
      (∀ other, other ≠ pid → ¬(stages other).Holds userId) ∧
        passwordChanges world.history userId = 0)
    (owes : ∀ userId, (stages pid).Owes userId ↔ stage.Owes userId) :
    Turns origin after (Function.update stages pid stage) where
  tokens := by rw [db, turns.tokens]
  backs other write member := by
    rw [db]
    by_cases same : other = pid
    · subst same
      rw [Function.update_self]
      exact backs write member
    · rw [others other same] at member
      rw [Function.update_of_ne same]
      exact turns.backs other write member
  flushed other userId is := by
    by_cases same : other = pid
    · subst same
      rw [Function.update_self] at is
      exact flushed userId is
    · rw [Function.update_of_ne same] at is
      rw [others other same]
      exact turns.flushed other userId is
  marked other userId is := by
    by_cases same : other = pid
    · subst same
      rw [Function.update_self] at is
      exact marked userId is
    · rw [Function.update_of_ne same] at is
      rw [others other same]
      exact turns.marked other userId is
  exclusive := turns.exclusive_update fun userId here =>
    (holds userId here).imp_right fun ⟨nobody, _⟩ => nobody
  fresh other userId here clear := by
    rw [history]
    by_cases same : other = pid
    · subst same
      rw [Function.update_self] at here clear
      rcases holds userId here with held | ⟨-, none⟩
      · exact turns.fresh other userId held fun is => clear ((owes userId).mp is)
      · exact none
    · rw [Function.update_of_ne same] at here clear
      exact turns.fresh other userId here clear
  covered userId changed := by
    rw [history] at changed
    rw [db]
    exact turns.owes_of_ne (fun userId => (owes userId).mp) changed
  once userId := by
    rw [history]
    exact turns.once userId

/-- A process that owes nothing begins or ends. -/
theorem drop (turns : Turns origin world stages) (clear : ∀ userId, ¬(stages pid).Owes userId)
    (idle : stage = .apart ∨ stage = .begun) :
    Turns origin (world.release pid) (Function.update stages pid stage) := by
  have none : (world.release pid).sessions.writesOf pid = [] := Sessions.writesOf_release_self
  have free : ∀ userId, ¬stage.Holds userId := by
    rcases idle with rfl | rfl <;> exact fun _ => id
  refine turns.move rfl (fun _ => rfl) (fun other different =>
    Sessions.writesOf_release_of_ne different) (fun write member => ?_) (fun userId is => ?_)
    (fun userId is => ?_) (fun userId here => absurd here (free userId)) fun userId =>
      ⟨fun owes => absurd owes (clear userId), fun owes => absurd owes.holds (free userId)⟩
  · rw [none] at member
    cases member
  · rcases idle with rfl | rfl <;> cases is
  · rcases idle with rfl | rfl <;> cases is

section Moves

variable (turns : Turns origin world stages) (db : after.db = world.db)
  (history : ∀ userId, passwordChanges after.history userId = passwordChanges world.history userId)
include turns db history

/-- The stage stays, and at most plain writes are added. -/
theorem stay
    (others : ∀ other, other ≠ pid → after.sessions.writesOf other = world.sessions.writesOf other)
    (grows : ∀ write ∈ world.sessions.writesOf pid, write ∈ after.sessions.writesOf pid)
    (added : ∀ write ∈ after.sessions.writesOf pid,
      write ∈ world.sessions.writesOf pid ∨ write.Plain) :
    Turns origin after (Function.update stages pid (stages pid)) := by
  refine turns.move db history others (fun write member => ?_) (fun userId is => ?_)
    (fun userId is => ?_) (fun userId here => .inl here) fun _ => Iff.rfl
  · rcases added write member with old | plain
    · exact turns.backs pid write old
    · exact .of_plain plain _
  · obtain ⟨change, member, hash⟩ := changesPassword_iff.mp (turns.flushed pid userId is)
    exact changesPassword_iff.mpr ⟨change, grows _ member, hash⟩
  · obtain ⟨ids, usedAt, member⟩ := turns.marked pid userId is
    exact ⟨ids, usedAt, grows _ member⟩

/-- Before the password is flushed, the stage changes without a write. -/
theorem look (same : after.sessions = world.sessions)
    (early : stages pid = .begun ∨ ∃ resetToken, stages pid = .holding resetToken)
    (then_ : stage = .apart ∨ ∃ resetToken, stage = .holding resetToken)
    (holds : ∀ userId, stage.Holds userId → (stages pid).Holds userId ∨
      (∀ other, other ≠ pid → ¬(stages other).Holds userId) ∧
        passwordChanges world.history userId = 0) :
    Turns origin after (Function.update stages pid stage) := by
  have unflushed : ∀ id, stages pid ≠ .flushed id := by
    rcases early with is | ⟨_, is⟩ <;> rw [is] <;> exact fun _ => nofun
  have unmarked : ∀ id, stages pid ≠ .marking id := by
    rcases early with is | ⟨_, is⟩ <;> rw [is] <;> exact fun _ => nofun
  refine turns.move db history (fun other _ => by rw [same]) (fun write member => ?_)
    (fun userId is => ?_) (fun userId is => ?_) holds fun userId => ?_
  · rw [same] at member
    exact .of_plain ((turns.backs pid write member).plain unflushed unmarked) _
  · rcases then_ with rfl | ⟨_, rfl⟩ <;> cases is
  · rcases then_ with rfl | ⟨_, rfl⟩ <;> cases is
  · rcases early with is | ⟨_, is⟩ <;> rcases then_ with rfl | ⟨_, rfl⟩ <;> rw [is]
      <;> exact Iff.rfl

end Moves

/-- The password is flushed. -/
theorem flush (turns : Turns origin world stages) {resetToken : PasswordResetToken}
    (holding : stages pid = .holding resetToken) {change : UserChange}
    (hash : change.hashedPassword.isSome = true) :
    Turns origin { world with
        sessions := world.sessions.add pid (.updateUser resetToken.userId change) }
      (Function.update stages pid (.flushed resetToken.userId)) := by
  have unflushed : ∀ id, stages pid ≠ .flushed id := by
    rw [holding]
    exact fun _ => nofun
  have unmarked : ∀ id, stages pid ≠ .marking id := by
    rw [holding]
    exact fun _ => nofun
  refine turns.move rfl (fun _ => rfl)
    (fun other different => Sessions.writesOf_add_of_ne different _) (fun write member => ?_)
    (fun userId is => ?_) (fun _ => nofun) (fun userId here => .inl ?_) fun userId => ?_
  · rw [Sessions.writesOf_add_self] at member
    rcases List.mem_append.mp member with old | new
    · exact .of_plain ((turns.backs pid write old).plain unflushed unmarked) _
    · cases List.mem_singleton.mp new
      exact fun _ => rfl
  · cases is
    rw [Sessions.writesOf_add_self]
    exact changesPassword_iff.mpr
      ⟨change, List.mem_append_right _ (List.mem_singleton_self _), hash⟩
  · rw [holding]
    exact here
  · rw [holding]
    exact Iff.rfl

/-- The view of a session that has only plain writes has the committed tokens. -/
theorem view_tokens (turns : Turns origin world stages) (unflushed : ∀ id, stages pid ≠ .flushed id)
    (unmarked : ∀ id, stages pid ≠ .marking id) :
    (world.sessions.view pid).passwordResetTokens = world.db.passwordResetTokens :=
  tokens_applyAll fun write member => .inl ((turns.backs pid write member).plain unflushed unmarked)

/-- The tokens are marked. -/
theorem mark (turns : Turns origin world stages) {userId usedAt : Nat}
    (changed : stages pid = .changed userId) :
    Turns origin { world with
        sessions := world.sessions.add pid
          (.markResetTokens (world.unusedTokens pid userId) usedAt) }
      (Function.update stages pid (.marking userId)) := by
  have unflushed : ∀ id, stages pid ≠ .flushed id := by
    rw [changed]
    exact fun _ => nofun
  have unmarked : ∀ id, stages pid ≠ .marking id := by
    rw [changed]
    exact fun _ => nofun
  refine turns.move rfl (fun _ => rfl)
    (fun other different => Sessions.writesOf_add_of_ne different _) (fun write member => ?_)
    (fun _ => nofun) (fun id is => ?_) (fun id here => .inl ?_) fun id => ?_
  · rw [Sessions.writesOf_add_self] at member
    rcases List.mem_append.mp member with old | new
    · exact .of_plain ((turns.backs pid write old).plain unflushed unmarked) _
    · cases List.mem_singleton.mp new
      refine ⟨userId, rfl, fun row there mine unused => ?_⟩
      refine List.mem_map.mpr ⟨row, List.mem_filter.mpr ⟨?_, ?_⟩, rfl⟩
      · rw [turns.view_tokens unflushed unmarked]
        exact there
      · rw [mine, unused, beq_self_eq_true, beq_self_eq_true]
        rfl
  · cases is
    rw [Sessions.writesOf_add_self]
    exact ⟨_, usedAt, List.mem_append_right _ (List.mem_singleton_self _)⟩
  · rw [changed]
    exact here
  · rw [changed]
    exact Iff.rfl

/-- A token that is read unused while nobody else holds its user. -/
theorem fresh_of_unused (turns : Turns origin world stages) (begun : stages pid = .begun)
    {row : PasswordResetToken} (member : row ∈ (world.sessions.view pid).passwordResetTokens)
    (unused : row.usedAt = none)
    (free : ∀ other, other ≠ pid → ¬(stages other).Holds row.userId) :
    passwordChanges world.history row.userId = 0 := by
  by_contra changed
  rcases turns.covered _ changed with ⟨other, owes⟩ | used
  · by_cases same : other = pid
    · rw [same, begun] at owes
      exact owes
    · exact free other same owes.holds
  · have plain : (world.sessions.view pid).passwordResetTokens = world.db.passwordResetTokens :=
      turns.view_tokens (by rw [begun]; exact fun _ => nofun) (by rw [begun]; exact fun _ => nofun)
    have is := used row (plain ▸ member) rfl
    rw [unused] at is
    cases is

/-- A look-up before the password is flushed. -/
theorem select (turns : Turns origin world stages) (query : AccountQuery)
    (free : ∀ tokenHash row, query = .resetToken tokenHash →
      (AccountQuery.resetToken tokenHash).eval (world.sessions.view pid) = some row →
        row.usedAt = none → ∀ other, other ≠ pid → ¬(stages other).Holds row.userId) :
    Turns origin world (Function.update stages pid
      ((stages pid).learn ⟨.select query, query.eval (world.sessions.view pid)⟩)) := by
  have stays : Turns origin world (Function.update stages pid (stages pid)) :=
    turns.stay rfl (fun _ => rfl) (fun _ _ => rfl) (fun _ => id) fun _ => .inl
  cases here : stages pid with
  | begun =>
      have still : Turns origin world (Function.update stages pid .begun) := here ▸ stays
      cases query with
      | resetToken tokenHash =>
          cases found : (AccountQuery.resetToken tokenHash).eval (world.sessions.view pid) with
          | none => exact still
          | some row =>
              have member : row ∈ (world.sessions.view pid).passwordResetTokens :=
                List.mem_of_find?_eq_some found
              change Turns origin world
                (Function.update stages pid (.holdUnless row row.usedAt.isSome))
              cases used : row.usedAt with
              | some usedAt =>
                  exact turns.look rfl (fun _ => rfl) rfl (.inl here) (.inl rfl) fun _ => False.elim
              | none =>
                  have nobody := free tokenHash row rfl found used
                  refine turns.look rfl (fun _ => rfl) rfl (.inl here) (.inr ⟨row, rfl⟩)
                    fun userId holds => .inr ?_
                  cases holds
                  exact ⟨nobody, turns.fresh_of_unused here member used nobody⟩
      | _ => exact still
  | holding resetToken =>
      have leaves : Turns origin world (Function.update stages pid .apart) :=
        turns.look rfl (fun _ => rfl) rfl (.inr ⟨_, here⟩) (.inl rfl) fun _ => False.elim
      have still : Turns origin world (Function.update stages pid (.holding resetToken)) :=
        here ▸ stays
      cases query with
      | userByPrimaryKey id =>
          cases found : (AccountQuery.userByPrimaryKey id).eval (world.sessions.view pid) with
          | none => exact leaves
          | some user =>
              change Turns origin world (Function.update stages pid
                (.holdUnless resetToken (!user.isActive || user.isDemoUser)))
              unfold ResetStage.holdUnless
              split
              · exact leaves
              · exact still
      | _ => exact still
  | _ =>
      rw [here] at stays
      exact stays

/-- **A statement that commits nothing** keeps the turns. -/
theorem issue (turns : Turns origin world stages) (pid : Pid) (call : AccountCall) {own : String}
    {stmt : AccountStmt} (allowed : (stages pid).must own stmt) (silent : stmt ≠ .commit)
    (free : ∀ tokenHash row, stmt = .select (.resetToken tokenHash) →
      (AccountQuery.resetToken tokenHash).eval (world.sessions.view pid) = some row →
        row.usedAt = none → ∀ other, other ≠ pid → ¬(stages other).Holds row.userId) :
    Turns origin (effectOf pid call stmt world).2 (Function.update stages pid
      ((stages pid).learn ⟨stmt, (effectOf pid call stmt world).1⟩)) := by
  -- The stages in which a statement teaches nothing.
  have still : ∀ {after : AccountWorld AccountCall} {learned : ResetStage}, learned = stages pid →
      after.db = world.db → (∀ userId,
        passwordChanges after.history userId = passwordChanges world.history userId) →
      after.sessions = world.sessions →
        Turns origin after (Function.update stages pid learned) := by
    intro after learned same db history sessions
    rw [same]
    exact turns.stay db history (fun _ _ => by rw [sessions])
      (fun _ member => by rw [sessions]; exact member)
      fun _ member => .inl (sessions ▸ member)
  have adds : ∀ {learned : ResetStage} {nextId : Nat} {write : AccountWrite}, learned = stages pid →
      write.Plain → Turns origin { world with nextId, sessions := world.sessions.add pid write }
        (Function.update stages pid learned) := by
    intro learned nextId write same plain
    rw [same]
    refine turns.stay rfl (fun _ => rfl) (fun other different =>
      Sessions.writesOf_add_of_ne different _)
      (fun old member => ?_) fun old member => ?_
    · change old ∈ (world.sessions.add pid write).writesOf pid
      rw [Sessions.writesOf_add_self]
      exact List.mem_append_left _ member
    · change old ∈ (world.sessions.add pid write).writesOf pid at member
      rw [Sessions.writesOf_add_self] at member
      refine (List.mem_append.mp member).imp_right fun new => ?_
      rw [List.mem_singleton.mp new]
      exact plain
  cases stmt with
  | select query =>
      exact turns.select query fun tokenHash row same => free tokenHash row (same ▸ rfl)
  | insert draft =>
      have taught : ∀ answer, (stages pid).learn ⟨.insert draft, answer⟩ = stages pid := by
        intro answer
        cases stages pid <;> rfl
      simp only [effectOf]
      split
      · exact still (taught _) rfl (fun _ => rfl) rfl
      · exact adds (taught _) (allowed _)
  | update write =>
      cases here : stages pid with
      | holding resetToken =>
          rw [here] at allowed
          obtain ⟨change, rfl, hash⟩ := allowed
          simp only [effectOf]
          split
          · exact turns.look rfl (fun _ => rfl) rfl (.inr ⟨_, here⟩) (.inl rfl) fun _ => False.elim
          · exact turns.flush here hash
      | _ =>
          rw [here] at allowed
          simp only [effectOf]
          split
          · exact still here.symm rfl (fun _ => rfl) rfl
          · exact adds here.symm allowed
  | useResetTokens userId usedAt =>
      have here : stages pid = .changed userId := allowed
      rw [here]
      exact turns.mark here
  | commit => exact absurd rfl silent
  | rollback => exact allowed.elim
  | now =>
      cases here : stages pid with
      | holding resetToken =>
          change Turns origin world (Function.update stages pid
            (.holdUnless resetToken (Nat.blt resetToken.expiresAt world.clock)))
          unfold ResetStage.holdUnless
          split
          · exact turns.look rfl (fun _ => rfl) rfl (.inr ⟨_, here⟩) (.inl rfl) fun _ => False.elim
          · exact still here.symm rfl (fun _ => rfl) rfl
      | _ => exact still here.symm rfl (fun _ => rfl) rfl
  | sign holder draft =>
      refine still (by cases stages pid <;> rfl) rfl (fun userId => ?_) rfl
      change List.countP _ (world.history ++ [_]) = _
      rw [List.countP_append]
      rfl
  | setNx jti ttl =>
      have taught : ∀ answer, (stages pid).learn ⟨.setNx jti ttl, answer⟩ = stages pid := by
        intro answer
        cases stages pid <;> rfl
      simp only [effectOf]
      split <;> exact still (taught _) rfl (fun _ => rfl) rfl
  | _ => exact still (by cases stages pid <;> rfl) rfl (fun _ => rfl) rfl

/-- The password changes that are recorded after a commit. -/
theorem passwordChanges_committed (world : AccountWorld AccountCall) (pid : Pid)
    (call : AccountCall)
    (userId : Nat) :
    passwordChanges (effectOf pid call .commit world).2.history userId =
      passwordChanges world.history userId +
        if changesPassword (world.sessions.writesOf pid) userId then 1 else 0 := by
  change List.countP _ (world.history ++ [_]) = _
  rw [List.countP_append, List.countP_singleton]
  rfl

/-- Only a process that has flushed the password of a user commits one. -/
theorem flushed_of_changes (turns : Turns origin world stages) {userId : Nat}
    (changes : changesPassword (world.sessions.writesOf pid) userId = true) :
    stages pid = .flushed userId := by
  obtain ⟨change, member, hash⟩ := changesPassword_iff.mp changes
  exact turns.backs pid _ member hash

/-- **A commit** keeps the turns, when it leaves its process owing the marks for a new
password, and owing nothing only for tokens that are marked. -/
theorem committed (turns : Turns origin world stages) (call : AccountCall)
    (holds : ∀ userId, stage.Holds userId → (stages pid).Holds userId)
    (owing : ∀ userId, stage.Holds userId → stage.Owes userId)
    (unmarking : ∀ userId, stage ≠ .marking userId)
    (changed : ∀ userId, changesPassword (world.sessions.writesOf pid) userId = true →
      stage.Owes userId)
    (marked : ∀ userId, (stages pid).Owes userId →
      stage.Owes userId ∨ (effectOf pid call .commit world).2.db.AllUsed userId) :
    Turns origin (effectOf pid call .commit world).2 (Function.update stages pid stage) := by
  have kept : ∀ write ∈ world.sessions.writesOf pid, ∀ id, write ≠ .deleteUser id :=
    fun write member => (turns.backs pid write member).ne_deleteUser
  have fewer : ∀ row ∈ (effectOf pid call .commit world).2.db.passwordResetTokens,
      ∃ old ∈ world.db.passwordResetTokens, old.id = row.id ∧ old.userId = row.userId ∧
        (old.usedAt.isSome = true → row.usedAt.isSome = true) := by
    intro row member
    obtain ⟨old, there, sameId, sameUser, stays, -⟩ := token_applyAll kept member
    exact ⟨old, there, sameId, sameUser, stays⟩
  have flushes : ∀ userId, changesPassword (world.sessions.writesOf pid) userId = true →
      (stages pid).Holds userId ∧ ¬(stages pid).Owes userId := by
    intro userId changes
    rw [turns.flushed_of_changes changes]
    exact ⟨rfl, id⟩
  refine ⟨?_, fun other write member => ?_, fun other userId is => ?_, fun other userId is => ?_,
    turns.exclusive_update fun userId here => .inl (holds userId here),
    fun other userId here clear => ?_, fun userId counted => ?_, fun userId => ?_⟩
  · exact (bareTokens_applyAll kept).trans turns.tokens
  · by_cases same : other = pid
    · subst same
      change write ∈ (world.sessions.committed other).writesOf other at member
      rw [Sessions.writesOf_committed_self] at member
      cases member
    · change write ∈ (world.sessions.committed pid).writesOf other at member
      rw [Sessions.writesOf_committed_of_ne same] at member
      rw [Function.update_of_ne same]
      exact (turns.backs other write member).mono fewer
  · by_cases same : other = pid
    · subst same
      rw [Function.update_self] at is
      have owes := owing userId (is ▸ rfl)
      rw [is] at owes
      exact owes.elim
    · rw [Function.update_of_ne same] at is
      change changesPassword ((world.sessions.committed pid).writesOf other) userId = true
      rw [Sessions.writesOf_committed_of_ne same]
      exact turns.flushed other userId is
  · by_cases same : other = pid
    · subst same
      rw [Function.update_self] at is
      exact absurd is (unmarking userId)
    · rw [Function.update_of_ne same] at is
      change ∃ ids usedAt, _ ∈ (world.sessions.committed pid).writesOf other
      rw [Sessions.writesOf_committed_of_ne same]
      exact turns.marked other userId is
  · by_cases same : other = pid
    · subst same
      rw [Function.update_self] at here clear
      exact absurd (owing userId here) clear
    · rw [Function.update_of_ne same] at here clear
      rw [passwordChanges_committed, turns.fresh other userId here clear, if_neg]
      exact fun changes => same (turns.exclusive other pid userId here (flushes userId changes).1)
  · rw [passwordChanges_committed] at counted
    by_cases changes : changesPassword (world.sessions.writesOf pid) userId = true
    · refine .inl ⟨pid, ?_⟩
      rw [Function.update_self]
      exact changed userId changes
    · rw [if_neg changes] at counted
      rcases turns.covered userId counted with ⟨other, owes⟩ | used
      · by_cases same : other = pid
        · subst same
          refine (marked userId owes).imp (fun owes => ⟨other, ?_⟩) id
          rw [Function.update_self]
          exact owes
        · refine .inl ⟨other, ?_⟩
          rw [Function.update_of_ne same]
          exact owes
      · refine .inr fun row member mine => ?_
        obtain ⟨old, there, -, sameUser, stays⟩ := fewer row member
        exact stays (used old there (sameUser.trans mine))
  · rw [passwordChanges_committed]
    by_cases changes : changesPassword (world.sessions.writesOf pid) userId = true
    · rw [turns.fresh pid userId (flushes userId changes).1 (flushes userId changes).2,
        if_pos changes]
    · rw [if_neg changes]
      exact turns.once userId

/-- When the marks are committed, every token of the user is used. -/
theorem allUsed_of_marking (turns : Turns origin world stages) {userId : Nat}
    (marking : stages pid = .marking userId) (call : AccountCall) :
    (effectOf pid call .commit world).2.db.AllUsed userId := by
  intro row member mine
  have kept : ∀ write ∈ world.sessions.writesOf pid, ∀ id, write ≠ .deleteUser id :=
    fun write among => (turns.backs pid write among).ne_deleteUser
  obtain ⟨old, there, -, sameUser, stays, marks⟩ := token_applyAll kept member
  obtain ⟨ids, usedAt, among⟩ := turns.marked pid userId marking
  obtain ⟨user, same, covers⟩ := turns.backs pid _ among
  rw [marking] at same
  cases same
  cases used : old.usedAt with
  | some at' => exact stays (by rw [used]; rfl)
  | none => exact marks ids usedAt among (covers old there (sameUser.trans mine) used)

/-- **Every commit keeps the turns.** -/
theorem commit (turns : Turns origin world stages) (pid : Pid) (allowed : (stages pid).MayCommit)
    (call : AccountCall) :
    Turns origin (effectOf pid call .commit world).2
      (Function.update stages pid ((stages pid).learn ⟨.commit, ()⟩)) := by
  have unchanged : (∀ id, stages pid ≠ .flushed id) → ∀ userId,
      changesPassword (world.sessions.writesOf pid) userId = true →
        ((stages pid).learn ⟨.commit, ()⟩).Owes userId :=
    fun unflushed userId changes => absurd (turns.flushed_of_changes changes) (unflushed userId)
  cases here : stages pid with
  | holding resetToken =>
      rw [here] at allowed
      exact allowed.elim
  | changed userId =>
      rw [here] at allowed
      exact allowed.elim
  | flushed userId =>
      refine turns.committed call (fun id holds => ?_) (fun id holds => holds) (fun _ => nofun)
        (fun id changes => ?_) fun id owes => ?_
      · rw [here]
        exact holds
      · have same := turns.flushed_of_changes changes
        rw [here] at same
        cases same
        rfl
      · rw [here] at owes
        exact owes.elim
  | marking userId =>
      rw [here] at unchanged
      refine turns.committed call (fun _ => False.elim) (fun _ => False.elim) (fun _ => nofun)
        (unchanged fun _ => nofun) fun id owes => .inr ?_
      rw [here] at owes
      cases owes
      exact turns.allUsed_of_marking here call
  | _ =>
      rw [here] at unchanged
      refine turns.committed call (fun _ => False.elim) (fun _ => False.elim) (fun _ => nofun)
        (unchanged fun _ => nofun) fun id owes => ?_
      rw [here] at owes
      exact owes.elim

end Turns

/-! ## In every run -/

section Runs

variable (cfg : AccountSettings) (origin : AccountDb)

/-- Where the processes of a configuration are. -/
def resets (config : AccountConfig) : Pid → ResetStage :=
  config.stages (resetWatch cfg origin) .apart

/-- Resets of one user come one after another: nobody reads an unused token of a user that
another confirmation holds, and nobody ends between the new password and the marks. -/
structure Serial (config : AccountConfig) (action : Action AccountCall) : Prop where
  reads : ∀ pid call tokenHash next log row, action = .issue pid →
    config.running pid = some ⟨call, .call (.select (.resetToken tokenHash)) next, log⟩ →
    (AccountQuery.resetToken tokenHash).eval (config.world.sessions.view pid) = some row →
    row.usedAt = none →
      ∀ other, other ≠ pid → ¬(resets cfg origin config other).Holds row.userId
  ends : ∀ pid, action.ends pid → ∀ userId, ¬(resets cfg origin config pid).Owes userId

/-- A confirmation has changed the password of the user. -/
def ChangesPasswordOf (userId : Nat) (call : AccountCall) (log : List (Event AccountSql)) : Prop :=
  ((resetWatch cfg origin).state call log).HasChanged userId

/-- What holds of the configurations in which resets come one after another. -/
structure Succeeding (config : AccountConfig) : Prop where
  watched : config.Watched (resetWatch cfg origin)
  turns : Turns origin config.world (resets cfg origin config)
  changed : config.Every fun world call log =>
    ∀ userId, ChangesPasswordOf cfg origin userId call log →
      passwordChanges world.history userId ≠ 0
  sole : ∀ userId, config.Sole (ChangesPasswordOf cfg origin userId)

variable {cfg origin}

/-- No call has changed a password at its start. -/
theorem ResetStage.not_hasChanged_initial (call : AccountCall) (userId : Nat) :
    ¬((resetWatch cfg origin).initial call).HasChanged userId := by
  cases call <;> exact id

/-- A confirmation has changed the password after the commit that follows the flush. -/
theorem ResetStage.hasChanged_learn {stage : ResetStage} {stmt : AccountStmt} {answer : stmt.Answer}
    {userId : Nat} (changes : (stage.learn ⟨stmt, answer⟩).HasChanged userId) :
    stage.HasChanged userId ∨ stage = .flushed userId ∧ stmt = .commit := by
  have held : ∀ {resetToken : PasswordResetToken} {refused : Bool},
      ¬(ResetStage.holdUnless resetToken refused).HasChanged userId := by
    intro resetToken refused
    cases refused <;> exact id
  cases stage with
  | begun =>
      cases stmt with
      | select query =>
          cases query with
          | resetToken tokenHash =>
              cases (answer : Option PasswordResetToken) with
              | none => exact changes.elim
              | some row => exact absurd changes held
          | _ => exact changes.elim
      | _ => exact changes.elim
  | holding resetToken =>
      cases stmt with
      | now => exact absurd changes held
      | update write => cases (answer : Bool) <;> exact changes.elim
      | select query =>
          cases query with
          | userByPrimaryKey id =>
              cases (answer : Option User) with
              | none => exact changes.elim
              | some user => exact absurd changes held
          | _ => exact changes.elim
      | _ => exact changes.elim
  | flushed id =>
      cases stmt with
      | commit =>
          obtain rfl : id = userId := changes
          exact .inr ⟨rfl, rfl⟩
      | _ => exact changes.elim
  | changed id => cases stmt <;> exact .inl changes
  | marking id => cases stmt <;> exact .inl changes
  | settled id => exact .inl changes
  | apart => exact changes.elim

/-- The initial stage of a call. -/
theorem resetWatch_initial (call : AccountCall) :
    (resetWatch cfg origin).initial call = .apart ∨
      (resetWatch cfg origin).initial call = .begun := by
  cases call with
  | confirmPasswordReset body => exact .inr rfl
  | _ => exact .inl rfl

namespace Succeeding

variable {before after config : AccountConfig} {action : Action AccountCall}

theorem start (nextId clock : Nat) : Succeeding cfg origin (accountStart origin nextId clock) where
  watched := .initial _ _
  turns := .start origin nextId clock
  changed := .initial _
  sole _ := Config.sole_initial _ _

/-- A token that a process sees belongs to the user it has always belonged to. -/
theorem owner_seen (succeeding : Succeeding cfg origin config) (pid : Pid) (tokenHash : String) :
    (config.world.sessions.view pid).tokenOwner tokenHash = origin.tokenOwner tokenHash := by
  have same : (config.world.sessions.view pid).bareTokens = origin.bareTokens :=
    (bareTokens_applyAll fun write member =>
      (succeeding.turns.backs pid write member).ne_deleteUser).trans succeeding.turns.tokens
  rw [tokenOwner_eq, tokenOwner_eq, same]

/-- The answers are possible for the monitors. -/
theorem possible (succeeding : Succeeding cfg origin config) {pid : Pid} {call : AccountCall}
    {stmt : AccountStmt} {answer : stmt.Answer} {world : AccountWorld AccountCall}
    (executed : execAccount pid call stmt config.world = some (answer, world)) :
    ResetStage.may origin.tokenOwner ⟨stmt, answer⟩ := by
  obtain ⟨-, effect⟩ := execAccount_some executed
  cases stmt with
  | select query =>
      obtain rfl : query.eval (config.world.sessions.view pid) = answer := congrArg Prod.fst effect
      cases query with
      | resetToken tokenHash =>
          cases found : (AccountQuery.resetToken tokenHash).eval
            (config.world.sessions.view pid) with
          | none => exact trivial
          | some row =>
              change origin.tokenOwner tokenHash = some row.userId
              rw [← succeeding.owner_seen pid]
              exact congrArg (Option.map _) found
      | userByPrimaryKey id =>
          cases found : (AccountQuery.userByPrimaryKey id).eval
            (config.world.sessions.view pid) with
          | none => exact trivial
          | some row =>
              exact beq_iff_eq.mp (List.find?_some (p := fun user : User => user.id == id) found)
      | _ => exact trivial
  | _ => exact trivial

/-- **Every step keeps the turns.** -/
theorem turns_step (succeeding : Succeeding cfg origin before)
    (serial : Serial cfg origin before action)
    (taken : Step (accountMachine cfg) before action after) :
    Turns origin after.world (resets cfg origin after) := by
  have turns := succeeding.turns
  cases succeeding.watched.staged taken .apart with
  | @start pid call idle world stages =>
      rw [resets, stages, world]
      refine turns.drop (fun userId => ?_) (resetWatch_initial call)
      rw [resets, idle]
      exact id
  | @issue pid call stmt next log answer running allowed executed stages =>
      obtain ⟨-, effect⟩ := execAccount_some executed
      rw [resets, stages]
      by_cases commits : stmt = .commit
      · subst commits
        have kept := turns.commit pid allowed call
        rw [effect] at kept
        exact kept
      · have kept := turns.issue pid call allowed commits
          fun tokenHash row same found unused other different => by
            subst same
            exact serial.reads pid call tokenHash next log row rfl running found unused
              other different
        rw [effect] at kept
        exact kept
  | @finish pid call result met world stages =>
      rw [resets, stages, world]
      exact turns.drop (serial.ends pid rfl) (.inl rfl)
  | @stop pid world stages =>
      rw [resets, stages, world]
      exact turns.drop (serial.ends pid rfl) (.inl rfl)
  | ambient changed stages =>
      obtain ⟨clock, -, same⟩ := changed
      rw [resets, stages, same]
      exact ⟨turns.tokens, turns.backs, turns.flushed, turns.marked, turns.exclusive, turns.fresh,
        turns.covered, turns.once⟩

/-- A commit after the flush, and nothing else, makes a confirmation one that has changed the
password. -/
theorem changes_snoc {userId : Nat} {pid : Pid}
    {call : AccountCall} {stmt : AccountStmt} {next : stmt.Answer → AccountM AccountReply}
    {log : List (Event AccountSql)} {answer : stmt.Answer}
    (running : before.running pid = some ⟨call, .call stmt next, log⟩)
    (changes : ChangesPasswordOf cfg origin userId call (log ++ [⟨stmt, answer⟩])) :
    ChangesPasswordOf cfg origin userId call log ∨
      stmt = .commit ∧ resets cfg origin before pid = .flushed userId := by
  have here : resets cfg origin before pid = (resetWatch cfg origin).state call log :=
    Config.stages_running running
  rw [ChangesPasswordOf, Watch.state_snoc] at changes
  rcases ResetStage.hasChanged_learn changes with old | ⟨flushed, commits⟩
  · exact .inl old
  · exact .inr ⟨commits, here.trans flushed⟩

/-- The passwords that have been changed stay recorded. -/
theorem changed_step (succeeding : Succeeding cfg origin before)
    (taken : Step (accountMachine cfg) before action after) :
    after.Every fun world call log => ∀ userId, ChangesPasswordOf cfg origin userId call log →
      passwordChanges world.history userId ≠ 0 := by
  have grows : ∀ userId, passwordChanges before.world.history userId ≠ 0 →
      passwordChanges after.world.history userId ≠ 0 := by
    intro userId counted none
    refine counted (Nat.le_zero.mp ?_)
    rw [← none]
    exact (step_extends taken).history.sublist.countP_le
  refine succeeding.changed.step taken (fun call log known userId changes =>
    grows _ (known userId changes))
    (fun pid call _ userId changes =>
      absurd changes (ResetStage.not_hasChanged_initial call userId))
    fun pid call stmt next log answer _ running executed known userId changes => ?_
  rcases changes_snoc running changes with old | ⟨rfl, flushed⟩
  · exact grows _ (known userId old)
  · have commits : execAccount pid call .commit before.world = some (answer, after.world) :=
    executed
    obtain ⟨-, effect⟩ := execAccount_some commits
    have counted := Turns.passwordChanges_committed before.world pid call userId
    rw [effect, if_pos (succeeding.turns.flushed pid userId flushed)] at counted
    rw [counted]
    exact Nat.succ_ne_zero _

/-- **Every step keeps what holds while resets come one after another.** -/
theorem step (succeeding : Succeeding cfg origin before) (serial : Serial cfg origin before action)
    (taken : Step (accountMachine cfg) before action after) : Succeeding cfg origin after where
  watched := succeeding.watched.step taken (perform_resets cfg origin)
    fun _ _ _ _ _ _ _ _ _ executed => succeeding.possible executed
  turns := succeeding.turns_step serial taken
  changed := succeeding.changed_step taken
  sole userId := by
    refine (succeeding.sole userId).step taken
      (fun call => ResetStage.not_hasChanged_initial call userId)
      fun who earns other marked => ?_
    cases earns with
    | @issue pid call stmt next log answer running executed changes new =>
        rcases changes_snoc running changes with old | ⟨rfl, flushed⟩
        · exact new old
        · have none : passwordChanges before.world.history userId = 0 :=
            succeeding.turns.fresh pid userId (by rw [flushed]; rfl) (by rw [flushed]; exact id)
          obtain ⟨caller, others, recorded, changed⟩ := marked
          cases other with
          | inl actor =>
              obtain ⟨process, there, same⟩ := Option.map_eq_some_iff.mp recorded
              cases same
              exact succeeding.changed.running actor process there userId changed none
          | inr index =>
              obtain ⟨outcome, there, same⟩ := Option.map_eq_some_iff.mp recorded
              cases same
              exact succeeding.changed.finished outcome (List.mem_of_getElem? there)
                userId changed none

end Succeeding

end Runs

/-! ## The result -/

/-- What it means that the tokens of a user are good for one reset: of the confirmations with
one token, or with two tokens of one user, one at most returns success, and the password of a
user is changed once at most. -/
structure UsedOnce (cfg : AccountSettings) (db : AccountDb) (config : AccountConfig) : Prop where
  accepted : ∀ (first second : Nat) (body body' : PasswordResetConfirm)
    (reply reply' : AccountReply)
    (log log' : List (Event AccountSql)),
    config.finished[first]? = some ⟨.confirmPasswordReset body, .ok reply, log⟩ →
    config.finished[second]? = some ⟨.confirmPasswordReset body', .ok reply', log'⟩ →
    db.tokenOwner (cfg.hashPasswordResetToken body.token) =
      db.tokenOwner (cfg.hashPasswordResetToken body'.token) → first = second
  changed : ∀ userId, passwordChanges config.world.history userId ≤ 1

/-- **The tokens of a user are good for one reset**, when the resets of a user come one after
another and none ends between its two commits. -/
theorem tokens_are_used_once (cfg : AccountSettings) {db : AccountDb} {nextId clock : Nat}
    {config : AccountConfig}
    (runs : Runs (accountMachine cfg) (Serial cfg db) (accountStart db nextId clock) config) :
    UsedOnce cfg db config := by
  have succeeding : Succeeding cfg db config :=
    runs.invariant (.start nextId clock) fun _ _ _ kept serial taken => kept.step serial taken
  refine ⟨fun first second body body' reply reply' log log' won wonToo owner => ?_,
    succeeding.turns.once⟩
  obtain ⟨userId, settled, mine⟩ :=
    succeeding.watched.finished _ (List.mem_of_getElem? won) body reply rfl rfl
  obtain ⟨userId', settled', mine'⟩ :=
    succeeding.watched.finished _ (List.mem_of_getElem? wonToo) body' reply' rfl rfl
  obtain rfl : userId = userId' := Option.some.inj ((mine.symm.trans owner).trans mine')
  have changes : config.Marked (ChangesPasswordOf cfg db userId) (.inr first) :=
    Config.marked_finished.mpr ⟨_, won, by rw [ChangesPasswordOf, settled]; rfl⟩
  have changesToo : config.Marked (ChangesPasswordOf cfg db userId) (.inr second) :=
    Config.marked_finished.mpr ⟨_, wonToo, by rw [ChangesPasswordOf, settled']; rfl⟩
  exact Sum.inr.inj (succeeding.sole userId _ _ changes changesToo)

/-! ## One token, used twice -/

/-- A user with a reset token. -/
def forgetfulUser : AccountDb :=
  { AccountDb.empty with
    tenants := [⟨1, "salon", "Salon", true⟩]
    users := [{ id := 1, tenantId := 1, email := "user@example.com", hashedPassword := "p" }]
    passwordResetTokens := [{ id := 1, userId := 1, tokenHash := "t", expiresAt := 100 }] }

def resetOnce : AccountCall := .confirmPasswordReset ⟨"t", "q"⟩

/-- A confirmation with the token, and another one after it. -/
def resetsInARow : List (Action AccountCall) :=
  wholeAccountCall 0 resetOnce 11 ++ wholeAccountCall 0 resetOnce 2

/-- No process ends between its two commits. -/
def looksSettled (config : AccountConfig) : Action AccountCall → Bool
  | .finish pid =>
      match resets plainSettings forgetfulUser config pid with
      | .changed _ => false
      | .marking _ => false
      | _ => true
  | _ => true

/-- A process that runs alone comes one after another. -/
theorem serial_of_alone {pid : Pid} (config : AccountConfig) (action : Action AccountCall)
    (alone : ∀ other, other ≠ pid → config.running other = none) (mine : action.by pid = true)
    (looks : looksSettled config action = true) :
      Serial plainSettings forgetfulUser config action where
  reads := by
    rintro actor call tokenHash next log row rfl - - - other different holds
    rw [Action.by, beq_iff_eq] at mine
    rw [resets, Config.stages_idle (alone other (mine ▸ different))] at holds
    exact holds
  ends := by
    intro actor ends userId owes
    cases action with
    | finish other =>
        obtain rfl : other = actor := ends
        rw [looksSettled] at looks
        cases here : resets plainSettings forgetfulUser config other with
        | changed id =>
            rw [here] at looks
            cases looks
        | marking id =>
            rw [here] at looks
            cases looks
        | _ =>
            rw [here] at owes
            exact owes
    | stop other => cases mine
    | _ => exact ends

theorem resetsInARow_possible :
    ((accountStart forgetfulUser 2 0).runActions (accountMachine plainSettings)
      resetsInARow).isSome =
      true := by
  decide +kernel

theorem second_reset_is_refused : ∃ config,
    Runs (accountMachine plainSettings) (Serial plainSettings forgetfulUser)
        (accountStart forgetfulUser 2 0) config ∧
      config.finished.map (fun outcome => outcome.result.toOption.isSome) = [true, false] ∧
      UsedOnce plainSettings forgetfulUser config := by
  have passes : (accountStart forgetfulUser 2 0).passes (accountMachine plainSettings) looksSettled
      resetsInARow = true := by
    decide +kernel
  have mine : resetsInARow.all (·.by 0) = true := by decide
  have runs := Runs.of_single_guarded serial_of_alone resetsInARow mine passes (fun _ _ => rfl)
    (Option.some_get resetsInARow_possible).symm
  exact ⟨_, runs, by decide +kernel, tokens_are_used_once plainSettings runs⟩

/-- Two confirmations read the token before either of them has marked it. -/
def resetsTogether : List (Action AccountCall) :=
  .start 0 resetOnce :: .start 1 resetOnce :: List.replicate 3 (.issue 0) ++
    List.replicate 3 (.issue 1) ++ List.replicate 8 (.issue 0) ++ .finish 0 ::
      List.replicate 8 (.issue 1) ++ [.finish 1]

theorem resetsTogether_possible :
    ((accountStart forgetfulUser 2 0).runActions (accountMachine plainSettings)
      resetsTogether).isSome =
      true := by
  decide +kernel

/-- A confirmation is cut off after its first commit, and another one uses the token again. -/
def resetsAfterCrash : List (Action AccountCall) :=
  .start 0 resetOnce :: List.replicate 5 (.issue 0) ++ .stop 0 :: wholeAccountCall 1 resetOnce 11

theorem resetsAfterCrash_possible :
    ((accountStart forgetfulUser 2 0).runActions (accountMachine plainSettings)
      resetsAfterCrash).isSome =
      true := by
  decide +kernel

/-- The password is changed twice, by two confirmations together and by one after another
that has been cut off; of the two together both return success. -/
theorem token_is_used_twice :
    (∃ config, AccountRun plainSettings (accountStart forgetfulUser 2 0) config ∧
      passwordChanges config.world.history 1 = 2 ∧ ¬UsedOnce plainSettings forgetfulUser config ∧
      config.finished.map (fun outcome => (outcome.call, outcome.result.toOption.isSome)) =
        [(resetOnce, true), (resetOnce, true)]) ∧
    ∃ config, AccountRun plainSettings (accountStart forgetfulUser 2 0) config ∧
      passwordChanges config.world.history 1 = 2 ∧
        ¬UsedOnce plainSettings forgetfulUser config := by
  have twice : ∀ {config : AccountConfig}, passwordChanges config.world.history 1 = 2 →
      ¬UsedOnce plainSettings forgetfulUser config := by
    intro config counted once
    have atMost := once.changed 1
    rw [counted] at atMost
    exact absurd atMost (by decide)
  have together : passwordChanges (((accountStart forgetfulUser 2 0).runActions
      (accountMachine plainSettings) resetsTogether).get resetsTogether_possible).world.history 1 =
        2 := by
    decide +kernel
  have cutOff : passwordChanges (((accountStart forgetfulUser 2 0).runActions
      (accountMachine plainSettings) resetsAfterCrash).get resetsAfterCrash_possible).world.history
        1 =
        2 := by
    decide +kernel
  exact ⟨⟨_, .of_actions resetsTogether_possible, together, twice together, by decide +kernel⟩,
    ⟨_, .of_actions resetsAfterCrash_possible, cutOff, twice cutOff⟩⟩

end AppointmentVoice.Accounts
