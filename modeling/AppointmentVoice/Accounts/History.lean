import AppointmentVoice.Accounts.Users
import AppointmentVoice.Concurrency.Paths

/-!
# What the account machine has done

The clock, the record of what has happened and the keys that have been set only grow.  A
token that somebody presents has been signed before.

**What only grows.** `AccountWorld.Extends`, of one step (`step_extends`) and so of every run.
-/

set_option autoImplicit false

namespace AppointmentVoice.Accounts

open Concurrency

/-! ## Growth -/

/-- The second world comes after the first. -/
structure AccountWorld.Extends {Call : Type} (before after : AccountWorld Call) : Prop where
  clock : before.clock ≤ after.clock
  nextJti : before.nextJti ≤ after.nextJti
  history : before.history <+: after.history
  revoked : ∀ jti, before.revoked jti ≠ none → after.revoked jti ≠ none

/-- A token has been handed out. -/
def AccountWorld.Signed {Call : Type} (world : AccountWorld Call) (claims : TokenClaims) : Prop :=
  ∃ call holder, AccountEvent.signed call holder claims ∈ world.history

section Worlds

variable {Call : Type} {before after : AccountWorld Call}

theorem AccountWorld.Extends.refl (world : AccountWorld Call) : world.Extends world :=
  ⟨le_refl _, le_refl _, List.prefix_refl _, fun _ => id⟩

theorem AccountWorld.Extends.signed (grows : before.Extends after) {claims : TokenClaims}
    (signed : before.Signed claims) : after.Signed claims := by
  obtain ⟨call, holder, member⟩ := signed
  exact ⟨call, holder, grows.history.subset member⟩

theorem extends_release (world : AccountWorld Call) (pid : Pid) :
    world.Extends (world.release pid) :=
  ⟨le_refl _, le_refl _, List.prefix_refl _, fun _ => id⟩

theorem extends_revoke (world : AccountWorld Call) (jti ttl : Nat) :
    world.Extends (world.revoke jti ttl) := by
  refine ⟨le_refl _, le_refl _, List.prefix_refl _, fun other set => ?_⟩
  change Function.update world.revoked jti _ other ≠ none
  by_cases same : other = jti
  · subst same
    rw [Function.update_self]
    exact nofun
  · rw [Function.update_of_ne same]
    exact set

theorem effectOf_extends (pid : Pid) (call : Call) (stmt : AccountStmt)
    (world : AccountWorld Call) :
    world.Extends (effectOf pid call stmt world).2 := by
  have stays : ∀ {sessions : Sessions AccountDb AccountWrite} {nextId : Nat},
      world.Extends { world with sessions, nextId } :=
    ⟨le_refl _, le_refl _, List.prefix_refl _, fun _ => id⟩
  cases stmt with
  | insert draft =>
      simp only [effectOf]
      split <;> exact stays
  | update write =>
      simp only [effectOf]
      split <;> exact stays
  | commit => exact ⟨le_refl _, le_refl _, List.prefix_append .., fun _ => id⟩
  | set jti ttl => exact extends_revoke world jti ttl
  | setNx jti ttl =>
      simp only [effectOf]
      split
      · exact .refl world
      · exact extends_revoke world jti ttl
  | sign holder draft => exact ⟨le_refl _, Nat.le_succ _, List.prefix_append .., fun _ => id⟩
  | _ => exact stays

end Worlds

/-- **Every step only adds** to what has happened. -/
theorem step_extends {cfg : AccountSettings} {before after : AccountConfig}
    {action : Action AccountCall} (taken : Step (accountMachine cfg) before action after) :
    before.world.Extends after.world := by
  cases taken with
  | start call idle => exact extends_release ..
  | @issue pid call stmt next log answer world running executed =>
      obtain ⟨-, effect⟩ := execAccount_some executed
      have grows := effectOf_extends pid call stmt before.world
      rw [effect] at grows
      exact grows
  | finish running ended => exact extends_release ..
  | stop running => exact extends_release ..
  | ambient changed =>
      obtain ⟨clock, later, rfl⟩ := changed
      exact ⟨later, le_refl _, List.prefix_refl _, fun _ => id⟩

/-! ## The ledger -/

/-- Only a commit changes the committed rows. -/
theorem db_effect {Call : Type} {pid : Pid} {call : Call} {stmt : AccountStmt}
    {world : AccountWorld Call} (other : stmt ≠ .commit) :
    (effectOf pid call stmt world).2.db = world.db := by
  cases stmt with
  | insert draft =>
      simp only [effectOf]
      split <;> rfl
  | update write =>
      simp only [effectOf]
      split <;> rfl
  | setNx jti ttl =>
      simp only [effectOf]
      split <;> rfl
  | commit => exact absurd rfl other
  | _ => rfl

/-- What a step does to the committed rows and to the record: nothing, or it commits the
writes of a call, or it hands out a token. -/
inductive Ledger (before after : AccountConfig) (action : Action AccountCall) : Prop where
  | quiet (db : after.world.db = before.world.db)
      (history : after.world.history = before.world.history)
  | commits {pid : Pid} {call : AccountCall} {next : Unit → AccountM AccountReply}
      {log : List (Event AccountSql)} (issued : action = .issue pid)
      (running : before.running pid = some ⟨call, .call .commit next, log⟩)
      (db : after.world.db =
        Sessions.applyAll before.world.db (before.world.sessions.writesOf pid))
      (history : after.world.history =
        before.world.history ++ [.committed call (before.world.sessions.writesOf pid)])
  | signs {pid : Pid} {call : AccountCall} {holder : User} {draft : Nat → TokenClaims}
      {next : TokenClaims → AccountM AccountReply} {log : List (Event AccountSql)}
      (running : before.running pid = some ⟨call, .call (.sign holder draft) next, log⟩)
      (db : after.world.db = before.world.db)
      (history : after.world.history =
        before.world.history ++ [.signed call holder (draft before.world.nextJti)])

theorem ledger_step {cfg : AccountSettings} {before after : AccountConfig}
    {action : Action AccountCall} (taken : Step (accountMachine cfg) before action after) :
    Ledger before after action := by
  cases taken with
  | start call idle => exact .quiet rfl rfl
  | @issue pid call stmt next log answer world running executed =>
      obtain ⟨-, effect⟩ := execAccount_some executed
      obtain rfl : (effectOf pid call stmt before.world).2 = world := congrArg Prod.snd effect
      cases stmt with
      | insert draft =>
          refine .quiet (db_effect nofun) ?_
          simp only [effectOf]
          split <;> rfl
      | update write =>
          refine .quiet (db_effect nofun) ?_
          simp only [effectOf]
          split <;> rfl
      | setNx jti ttl =>
          refine .quiet (db_effect nofun) ?_
          simp only [effectOf]
          split <;> rfl
      | commit => exact .commits rfl running rfl rfl
      | sign holder draft => exact .signs running rfl rfl
      | _ => exact .quiet rfl rfl
  | finish running ended => exact .quiet rfl rfl
  | stop running => exact .quiet rfl rfl
  | ambient changed =>
      obtain ⟨clock, -, rfl⟩ := changed
      exact .quiet rfl rfl

/-! ## Tokens that are presented -/

/-- The token with which a call is made. -/
def AccountCall.presents : AccountCall → Option TokenClaims
  | .rotateRefreshToken refreshToken => some refreshToken
  | .logoutUser refreshToken => some refreshToken
  | .patchUser token _ _ _ => some token
  | .deactivateUser token _ _ => some token
  | .activateUser token _ _ => some token
  | _ => none

/-- The signatures are checked: a token that is presented has been handed out. -/
def Unforged (config : AccountConfig) : Action AccountCall → Prop
  | .start _ call => ∀ token, call.presents = some token → config.world.Signed token
  | _ => True

theorem presents_of_refreshToken {call : AccountCall} {token : TokenClaims}
    (spends : call.refreshToken = some token) : call.presents = some token := by
  cases call with
  | rotateRefreshToken refreshToken => exact spends
  | logoutUser refreshToken => exact spends
  | _ => cases spends

/-! ## Schedules -/

/-- A call from its start to its end. -/
def wholeAccountCall (pid : Pid) (call : AccountCall) (statements : Nat) :
    List (Action AccountCall) :=
  .start pid call :: (List.replicate statements (.issue pid) ++ [.finish pid])

/-- Carry out lists of actions that pass a guard, each list from a time on. -/
def runSchedule (cfg : AccountSettings) (guard : AccountConfig → Action AccountCall → Bool) :
    List (Nat × List (Action AccountCall)) → AccountConfig → Option AccountConfig
  | [], config => some config
  | (clock, actions) :: rest, config =>
      let later : AccountConfig := { config with world := { config.world with clock } }
      if config.world.clock ≤ clock && later.passes (accountMachine cfg) guard actions then
        match later.runActions (accountMachine cfg) actions with
        | some after => runSchedule cfg guard rest after
        | none => none
      else none

/-- A schedule that can be carried out is a run. -/
theorem runs_of_schedule {cfg : AccountSettings}
    {admitted : AccountConfig → Action AccountCall → Prop}
    {guard : AccountConfig → Action AccountCall → Bool}
    (sound : ∀ config action, guard config action = true → admitted config action)
    (waits : ∀ config, admitted config .ambient)
    (schedule : List (Nat × List (Action AccountCall))) {start config : AccountConfig}
    (ran : runSchedule cfg guard schedule start = some config) :
    Runs (accountMachine cfg) admitted start config := by
  induction schedule generalizing start with
  | nil =>
      cases ran
      exact .refl
  | cons entry rest ih =>
      obtain ⟨clock, actions⟩ := entry
      simp only [runSchedule] at ran
      split at ran
      · next fits =>
          rw [Bool.and_eq_true, decide_eq_true_eq] at fits
          split at ran
          · next after acted =>
              exact .head ⟨.ambient, waits start, .ambient ⟨clock, fits.1, rfl⟩⟩
                ((Runs.of_guarded sound actions fits.2 acted).trans (ih ran))
          · cases ran
      · cases ran

/-- The tokens that are presented are among those that have been handed out. -/
def looksUnforged (config : AccountConfig) : Action AccountCall → Bool
  | .start _ call =>
      match call.presents with
      | none => true
      | some token => config.world.history.any fun
          | .signed _ _ claims => claims == token
          | .committed _ _ => false
  | _ => true

theorem looksUnforged_sound (config : AccountConfig) (action : Action AccountCall)
    (looks : looksUnforged config action = true) : Unforged config action := by
  cases action with
  | start pid call =>
      intro token presents
      rw [looksUnforged, presents] at looks
      obtain ⟨event, member, same⟩ := List.any_eq_true.mp looks
      cases event with
      | signed issuer holder claims =>
          obtain rfl : claims = token := beq_iff_eq.mp same
          exact ⟨issuer, holder, member⟩
      | committed issuer writes => cases same
  | _ => exact trivial

end AppointmentVoice.Accounts
