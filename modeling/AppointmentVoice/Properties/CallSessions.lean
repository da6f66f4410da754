import AppointmentVoice.Ivr.Handlers
import AppointmentVoice.Properties.EarliestSlots

/-!
# The sessions of phone calls in every run

Keys, sweeps, new calls and the requests of the other services run beside each other, and
any of them may be stopped.  As long as no two requests are in one call at a time, the
committed sessions are such that every handler finds what it relies on, a commit moves a
session at most one step along the menu, and the session of a call that is over stays as it
is.

The invariant says of every request what it has in hand: laid over the committed sessions,
that is what it sees of them, and no two requests have the same in hand.

**One step.** What a statement makes of the rows in hand is `issued`, and every step keeps the
invariant (`step`).

**Whole runs.** Every committed session is sound (`call_sessions_stay_sound`), and from any
point on it moves along the menu only (`calls_move_along_the_menu`).
-/

set_option autoImplicit false

namespace AppointmentVoice

open Concurrency World

/-! ## Sessions and writes -/

section Writes

variable {db : Db} {write : Write} {writes : List Write} {desk : Desk} {row : VoiceSession}

theorem voiceSessions_apply (write : Write) (db : Db) :
    (db.apply write).voiceSessions = match write.newSession, write.changedSession with
      | some row, _ => db.voiceSessions ++ [row]
      | none, some (id, change) =>
          db.voiceSessions.map fun row => if row.id = id then change.apply row else row
      | none, none => db.voiceSessions := by
  cases write <;> rfl

/-- Applied to any tables that the rows in hand are of, the writes give what is seen. -/
def Mirrors (writes : List Write) (desk : Desk) : Prop :=
  ∀ db : Db, desk.Fits VoiceSession.id db.voiceSessions →
    (db.applyAll writes).voiceSessions = desk.shown VoiceSession.id db.voiceSessions

theorem Mirrors.clean (clean : ∀ copy ∈ desk, copy.committed = some copy.now) : Mirrors [] desk :=
  fun _ fits => (Overlay.shown_of_clean clean fits).symm

theorem Mirrors.read (mirrors : Mirrors writes []) (rows : List VoiceSession) :
    Mirrors writes (Overlay.ofRows rows) := by
  intro db fits
  have none : Overlay.Fits VoiceSession.id [] db.voiceSessions :=
    ⟨fun _ member => (List.not_mem_nil member).elim, fun _ member => (List.not_mem_nil member).elim⟩
  rw [Overlay.shown_of_clean Overlay.clean_ofRows fits, mirrors db none, Overlay.shown_nil]

theorem Mirrors.spares (mirrors : Mirrors writes desk) (spares : write.Spares) :
    Mirrors (writes ++ [write]) desk := by
  intro db fits
  rw [Db.applyAll_append, Db.applyAll_cons, Db.applyAll_nil, voiceSessions_apply, spares.new,
    spares.changed]
  exact mirrors db fits

theorem Mirrors.drafts (mirrors : Mirrors writes desk) (new : write.newSession = some row) :
    Mirrors (writes ++ [write]) (desk.draft row) := by
  intro db fits
  have before : desk.Fits VoiceSession.id db.voiceSessions :=
    ⟨fun copy member => fits.same copy (List.mem_append_left _ member),
      fun copy member => fits.fresh copy (List.mem_append_left _ member)⟩
  have absent := fits.fresh ⟨none, row⟩ (List.mem_append_right _ (List.mem_singleton_self _)) rfl
  rw [Db.applyAll_append, Db.applyAll_cons, Db.applyAll_nil, voiceSessions_apply, new,
    Overlay.shown_draft absent, mirrors db before]

theorem Mirrors.changes (mirrors : Mirrors writes desk) {id : Nat} {change : SessionChange}
    (changed : write.changedSession = some (id, change)) (held : id ∈ desk.keys VoiceSession.id) :
    Mirrors (writes ++ [write]) (desk.change VoiceSession.id id change.apply) := by
  have new : write.newSession = none := by cases write <;> first | rfl | cases changed
  have keeps : ∀ row : VoiceSession, (change.apply row).id = row.id := fun _ => rfl
  intro db fits
  have moved : ∀ copy ∈ desk, ∃ later ∈ desk.change VoiceSession.id id change.apply,
      later.committed = copy.committed ∧ later.now.id = copy.now.id := by
    intro copy member
    refine ⟨_, List.mem_map_of_mem member, ?_⟩
    split <;> exact ⟨rfl, rfl⟩
  have before : desk.Fits VoiceSession.id db.voiceSessions := by
    refine ⟨fun copy member old committed row among same => ?_, fun copy member new row among => ?_⟩
    · obtain ⟨later, there, was, key⟩ := moved copy member
      exact fits.same later there old (was.trans committed) row among (same.trans key.symm)
    · obtain ⟨later, there, was, key⟩ := moved copy member
      rw [← key]
      exact fits.fresh later there (was.trans new) row among
  rw [Db.applyAll_append, Db.applyAll_cons, Db.applyAll_nil, voiceSessions_apply, new, changed,
    Overlay.shown_change keeps held, mirrors db before]

end Writes

/-- The sequence only counts up. -/
theorem execStmt_nextId {Call : Type} {pid : Pid} {call : Call} {stmt : Stmt}
    {before after : World Call}
    {answer : stmt.Answer} (executed : execStmt pid call stmt before = some (answer, after)) :
    before.nextId ≤ after.nextId ∧ ∀ draft, stmt = .insert draft →
      after.nextId = before.nextId + 1 := by
  have quiet : ∀ {later : World Call}, later.nextId = before.nextId →
    (∀ draft, stmt ≠ .insert draft) →
      before.nextId ≤ later.nextId ∧
        ∀ draft, stmt = .insert draft → later.nextId = before.nextId + 1 :=
    fun same other => ⟨same.ge, fun draft inserts => absurd inserts (other draft)⟩
  cases stmt with
  | insert draft =>
      simp only [execStmt] at executed
      split at executed
      · cases executed
      · split at executed
        · cases executed
          exact ⟨Nat.le_succ _, fun _ _ => rfl⟩
        · cases executed
          exact ⟨Nat.le_succ _, fun _ _ => rfl⟩
  | selectBookingForUpdate id tenantId =>
      simp only [execStmt] at executed
      split at executed
      · cases executed
        exact quiet rfl (by simp)
      · split at executed
        · cases executed
        · cases executed
          exact quiet (acquire_nextId ..) (by simp)
  | selectWaitlistForUpdateSkipLocked filter =>
      simp only [execStmt] at executed
      split at executed
      · cases executed
        exact quiet rfl (by simp)
      · cases executed
        exact quiet (acquire_nextId ..) (by simp)
  | selectStaleOffersForUpdateSkipLocked threshold =>
      cases executed
      exact quiet (acquireAll_fields ..).2.2.2 (by simp)
  | update write =>
      simp only [execStmt] at executed
      split at executed
      · cases executed
        exact quiet rfl (by simp)
      · split at executed
        · cases executed
        · cases executed
          exact quiet (acquire_nextId ..) (by simp)
  | push job =>
      simp only [execStmt] at executed
      split at executed
      · cases executed
        exact quiet rfl (by simp)
      · cases executed
        exact quiet rfl (by simp)
  | _ =>
      cases executed
      exact quiet rfl (by simp)

/-! ## What the requests have in hand -/

/-- The committed sessions and those in hand. -/
structure Shelved (maxSlots : Nat) (world : World LineCall) (desks : Pid → Desk) : Prop where
  unique : (world.db.voiceSessions.map (·.id)).Nodup
  early : ∀ row ∈ world.db.voiceSessions, row.id < world.nextId
  sound : ∀ row ∈ world.db.voiceSessions, row.Sound maxSlots
  mirrored : ∀ pid, Mirrors (world.writesOf pid) (desks pid)
  sits : ∀ pid, (desks pid).Sits VoiceSession.id world.db.voiceSessions
  known : ∀ pid, ∀ copy ∈ desks pid, copy.now.id < world.nextId
  apart : ∀ pid other, other ≠ pid → ∀ id ∈ (desks pid).keys VoiceSession.id,
    id ∉ (desks other).keys VoiceSession.id

/-- The sessions that are committed before are so after, changed by at most one commit. -/
def FollowOn (before after : List VoiceSession) : Prop :=
  ∀ row ∈ before, ∃ later ∈ after, row.Follows later

theorem FollowOn.refl (rows : List VoiceSession) : FollowOn rows rows :=
  fun row member => ⟨row, member, .refl row⟩

namespace Shelved

variable {maxSlots : Nat} {before after : World LineCall} {desks : Pid → Desk}
    {pid : Pid} {desk : Desk}
  {call : LineCall} {stmt : Stmt} {answer : stmt.Answer}

/-- What a request sees of the sessions. -/
theorem seen (shelved : Shelved maxSlots before desks) (pid : Pid) :
    (before.view pid).voiceSessions = (desks pid).shown VoiceSession.id before.db.voiceSessions :=
  shelved.mirrored pid before.db ((shelved.sits pid).fits shelved.unique)

/-- The answers of a request are truthful. -/
theorem truthful (shelved : Shelved maxSlots before desks) (pid : Pid) (query : Query) :
    Truthful maxSlots (desks pid) query (query.eval (before.view pid)) (before.view pid) where
  answers := rfl
  unique := by
    rw [shelved.seen]
    exact (shelved.sits pid).nodup_shown shelved.unique
  held copy member := by
    rw [shelved.seen]
    exact Overlay.now_mem_shown (shelved.sits pid) member
  sound none row member := by
    rw [shelved.seen, List.isEmpty_iff.mp none, Overlay.shown_nil] at member
    exact shelved.sound row member

/-- One request has something else in hand; the committed sessions are as they were. -/
theorem update (shelved : Shelved maxSlots before desks)
    (rows : after.db.voiceSessions = before.db.voiceSessions)
    (nextId : before.nextId ≤ after.nextId)
    (others : ∀ other, other ≠ pid → after.writesOf other = before.writesOf other)
    (mirrors : Mirrors (after.writesOf pid) desk)
    (sits : desk.Sits VoiceSession.id before.db.voiceSessions)
    (known : ∀ copy ∈ desk, copy.now.id < after.nextId)
    (apart : ∀ id ∈ desk.keys VoiceSession.id, ∀ other, other ≠ pid →
      id ∉ (desks other).keys VoiceSession.id) :
    Shelved maxSlots after (Function.update desks pid desk) where
  unique := rows ▸ shelved.unique
  early row member := (shelved.early row (rows ▸ member)).trans_le nextId
  sound row member := shelved.sound row (rows ▸ member)
  mirrored other := by
    by_cases same : other = pid
    · subst same
      rw [Function.update_self]
      exact mirrors
    · rw [Function.update_of_ne same, others other same]
      exact shelved.mirrored other
  sits other := by
    rw [rows]
    by_cases same : other = pid
    · subst same
      rw [Function.update_self]
      exact sits
    · rw [Function.update_of_ne same]
      exact shelved.sits other
  known other copy member := by
    by_cases same : other = pid
    · subst same
      rw [Function.update_self] at member
      exact known copy member
    · rw [Function.update_of_ne same] at member
      exact (shelved.known other copy member).trans_le nextId
  apart one other different id member := by
    by_cases same : one = pid
    · subst same
      rw [Function.update_self] at member
      rw [Function.update_of_ne different]
      exact apart id member other different
    · rw [Function.update_of_ne same] at member
      by_cases mine : other = pid
      · subst mine
        rw [Function.update_self]
        exact fun held => apart id held one same member
      · rw [Function.update_of_ne mine]
        exact shelved.apart one other different id member

/-- One request commits what it has in hand. -/
theorem commit (shelved : Shelved maxSlots before desks)
    (fine : ∀ copy ∈ desks pid, Committable maxSlots copy) :
    Shelved maxSlots (before.committed pid call) (Function.update desks pid (desks pid).saved) ∧
      FollowOn before.db.voiceSessions (before.committed pid call).db.voiceSessions := by
  have rows : (before.committed pid call).db.voiceSessions =
      (desks pid).shown VoiceSession.id before.db.voiceSessions := shelved.seen pid
  have sits := shelved.sits pid
  have hands : ∀ row ∈ before.db.voiceSessions, row.id ∈ (desks pid).keys VoiceSession.id →
      ∃ copy ∈ desks pid, copy.committed = some row ∧ copy.now.id = row.id := by
    intro row member held
    obtain ⟨copy, among, same⟩ := List.mem_map.mp held
    cases committed : copy.committed with
    | none =>
        have fresh := sits.fresh copy among committed
        exact absurd (List.mem_map.mpr ⟨row, member, same.symm⟩) fresh
    | some old =>
        have standing := sits.standing copy among old committed
        have key := sits.keyed copy among old committed
        obtain rfl := List.inj_on_of_nodup_map shelved.unique standing member (key.trans same)
        exact ⟨copy, among, committed, same⟩
  refine ⟨⟨?_, ?_, ?_, ?_, ?_, ?_, ?_⟩, fun row member => ?_⟩
  · rw [rows]
    exact sits.nodup_shown shelved.unique
  · intro row member
    rw [rows] at member
    rcases Overlay.mem_shown member with ⟨copy, among, rfl⟩ | ⟨old, -⟩
    · exact shelved.known pid copy among
    · exact shelved.early row old
  · intro row member
    rw [rows] at member
    rcases Overlay.mem_shown member with ⟨copy, among, rfl⟩ | ⟨old, -⟩
    · exact (fine copy among).sound
    · exact shelved.sound row old
  · intro other
    by_cases same : other = pid
    · subst same
      rw [Function.update_self]
      have none : (before.committed other call).writesOf other = [] :=
        writesOf_release_self before other
      rw [none]
      exact .clean Overlay.clean_saved
    · rw [Function.update_of_ne same]
      have kept : (before.committed pid call).writesOf other = before.writesOf other :=
        writesOf_release_of_ne before same
      rw [kept]
      exact shelved.mirrored other
  · intro other
    rw [rows]
    by_cases same : other = pid
    · subst same
      rw [Function.update_self]
      exact sits.saved
    · rw [Function.update_of_ne same]
      exact (shelved.sits other).others (shelved.apart other pid (Ne.symm same))
  · intro other copy member
    by_cases same : other = pid
    · subst same
      rw [Function.update_self] at member
      obtain ⟨old, among, rfl⟩ := List.mem_map.mp member
      exact shelved.known other old among
    · rw [Function.update_of_ne same] at member
      exact shelved.known other copy member
  · have keys : ∀ other, (Function.update desks pid (desks pid).saved other).keys VoiceSession.id =
        (desks other).keys VoiceSession.id := by
      intro other
      by_cases same : other = pid
      · subst same
        rw [Function.update_self, Overlay.keys_saved]
      · rw [Function.update_of_ne same]
    intro one other different id member
    rw [keys] at member ⊢
    exact shelved.apart one other different id member
  · rw [rows]
    by_cases held : row.id ∈ (desks pid).keys VoiceSession.id
    · obtain ⟨copy, among, committed, -⟩ := hands row member held
      exact ⟨copy.now, Overlay.now_mem_shown sits among, (fine copy among).follows row committed⟩
    · exact ⟨row, List.mem_append_left _
        (List.mem_map.mpr ⟨row, member, Overlay.seen_of_not_mem held⟩),
        .refl row⟩

/-- A session ends its transaction without its writes. -/
theorem release (shelved : Shelved maxSlots before desks)
    (clean : ∀ copy ∈ desk, copy.committed = some copy.now)
    (sits : desk.Sits VoiceSession.id before.db.voiceSessions)
    (held : ∀ id ∈ desk.keys VoiceSession.id, id ∈ (desks pid).keys VoiceSession.id) :
    Shelved maxSlots (before.release pid) (Function.update desks pid desk) := by
  refine shelved.update rfl le_rfl (fun other different =>
    writesOf_release_of_ne before different) ?_
    sits (fun copy member => ?_) fun id member other different =>
      shelved.apart pid other different id (held id member)
  · rw [writesOf_release_self]
    exact .clean clean
  · exact shelved.early _ (sits.standing copy member _ (clean copy member))

theorem enter (shelved : Shelved maxSlots before desks) (pid : Pid) :
    Shelved maxSlots (before.release pid) (Function.update desks pid []) :=
  shelved.release (fun _ member => (List.not_mem_nil member).elim)
    ⟨List.nodup_nil, fun _ member => (List.not_mem_nil member).elim,
      fun _ member => (List.not_mem_nil member).elim, fun _ member =>
        (List.not_mem_nil member).elim⟩
    fun _ member => (List.not_mem_nil member).elim

/-- A statement that spares the sessions, and does not end a transaction with rows in hand. -/
theorem spared (shelved : Shelved maxSlots before desks) (spares : stmt.SparesSessions)
    (empty : desks pid = []) (executed : execStmt pid call stmt before = some (answer, after)) :
    Shelved maxSlots after desks ∧ FollowOn before.db.voiceSessions after.db.voiceSessions := by
  have counts := (execStmt_nextId executed).1
  have same : Function.update desks pid [] = desks := by rw [← empty, Function.update_eq_self]
  have stays : ∀ {later : World LineCall}, later.db = before.db → before.nextId ≤ later.nextId →
      (∀ other, other ≠ pid → later.writesOf other = before.writesOf other) →
      Mirrors (later.writesOf pid) [] → Shelved maxSlots later desks ∧
        FollowOn before.db.voiceSessions later.db.voiceSessions := by
    intro later db nextId others mirrors
    rw [← same]
    exact ⟨shelved.update (by rw [db]) nextId others mirrors (empty ▸ shelved.sits pid)
      (fun _ member => (List.not_mem_nil member).elim) fun _ member =>
        (List.not_mem_nil member).elim,
      db ▸ .refl _⟩
  have others := (execStmt_ownOnly executed).writes
  have mirrors := empty ▸ shelved.mirrored pid
  cases execStmt_effect executed with
  | quiet nothing db pending journal =>
      refine stays db counts others ?_
      rw [show after.writesOf pid = before.writesOf pid by rw [writesOf, writesOf, pending]]
      exact mirrors
  | @inserted draft db pending journal =>
      refine stays db counts others ?_
      have grows : after.writesOf pid = before.writesOf pid ++ [draft before.nextId] := by
        simp [writesOf, pending]
      rw [grows]
      exact mirrors.spares (spares _)
  | @updated write db pending journal =>
      refine stays db counts others ?_
      have grows : after.writesOf pid = before.writesOf pid ++
        [write] := by simp [writesOf, pending]
      rw [grows]
      exact mirrors.spares spares
  | committed world =>
      have none : ∀ copy ∈ desks pid, Committable maxSlots copy := by
        rw [empty]
        exact fun _ member => (List.not_mem_nil member).elim
      have committed : Shelved maxSlots (before.committed pid call)
          (Function.update desks pid (desks pid).saved) ∧
            FollowOn before.db.voiceSessions (before.committed pid call).db.voiceSessions :=
        shelved.commit none
      rw [empty, show Overlay.saved ([] : Desk) = [] from rfl, same, ← world] at committed
      exact committed
  | rolledBack world =>
      have entered := shelved.enter pid
      rw [same, ← world] at entered
      exact ⟨entered, world ▸ .refl _⟩

/-- The sessions in an answer are sessions of the tables, each once. -/
theorem sessionsOf_eval (query : Query) (db : Db) :
    (sessionsOf query (query.eval db)).Sublist db.voiceSessions := by
  have one : ∀ test : VoiceSession → Bool,
      (db.voiceSessions.find? test).toList.Sublist db.voiceSessions := by
    intro test
    cases found : db.voiceSessions.find? test with
    | none => exact List.nil_sublist _
    | some row => exact List.singleton_sublist.mpr (List.mem_of_find?_eq_some found)
  cases query with
  | voiceSession id tenantId => exact one _
  | voiceSessionByPrimaryKey id => exact one _
  | voiceSessionByCallSid callSid => exact one _
  | staleVoiceSessions now => exact List.filter_sublist
  | _ => exact List.nil_sublist _

/-- **What a statement of a request makes of the rows in hand.** -/
theorem issued (shelved : Shelved maxSlots before desks)
    (allowed : (lineMonitor maxSlots).must (desks pid) stmt)
    (alone : ∀ query, stmt = .select query →
      ∀ row ∈ sessionsOf query (query.eval (before.view pid)), ∀ other, other ≠ pid →
        row.id ∉ (desks other).keys VoiceSession.id)
    (executed : execStmt pid call stmt before = some (answer, after)) :
    Shelved maxSlots after (Function.update desks pid (deskAfter (desks pid) ⟨stmt, answer⟩)) ∧
      FollowOn before.db.voiceSessions after.db.voiceSessions := by
  have counts := execStmt_nextId executed
  have others := (execStmt_ownOnly executed).writes
  have sits := shelved.sits pid
  have stays : after.db = before.db → Mirrors (after.writesOf pid) (desks pid) →
      Shelved maxSlots after (Function.update desks pid (desks pid)) ∧
        FollowOn before.db.voiceSessions after.db.voiceSessions := by
    intro db mirrors
    exact ⟨shelved.update (by rw [db]) counts.1 others mirrors sits
      (fun copy member => (shelved.known pid copy member).trans_le counts.1)
      fun id member other different => shelved.apart pid other different id member, db ▸ .refl _⟩
  cases execStmt_effect executed with
  | quiet nothing db pending journal =>
      have same : after.writesOf pid = before.writesOf pid := by rw [writesOf, writesOf, pending]
      have mirrors : Mirrors (after.writesOf pid) (desks pid) := same ▸ shelved.mirrored pid
      cases stmt with
      | select query =>
          obtain rfl : answer = query.eval (before.view pid) := by
            cases executed
            rfl
          cases empty : (desks pid).isEmpty with
          | false =>
              rw [show deskAfter (desks pid)
                ⟨.select query, query.eval (before.view pid)⟩ = desks pid by
                simp only [deskAfter, empty, Bool.false_eq_true, if_false]]
              exact stays db mirrors
          | true =>
              rw [show deskAfter (desks pid) ⟨.select query, query.eval (before.view pid)⟩ =
                Overlay.ofRows (sessionsOf query (query.eval (before.view pid))) by
                  simp only [deskAfter, empty, if_true]]
              have none := List.isEmpty_iff.mp empty
              have rows := shelved.seen pid
              rw [none, Overlay.shown_nil] at rows
              have found := sessionsOf_eval query (before.view pid)
              rw [rows] at found
              refine ⟨shelved.update (by rw [db]) counts.1 others ((none ▸ mirrors).read _)
                (.ofRows (shelved.unique.sublist (found.map _)) fun row member =>
                  found.subset member)
                (fun copy member => ?_) fun id member other different => ?_, db ▸ .refl _⟩
              · obtain ⟨row, among, rfl⟩ := List.mem_map.mp member
                exact (shelved.early row (found.subset among)).trans_le counts.1
              · rw [Overlay.keys_ofRows] at member
                obtain ⟨row, among, rfl⟩ := List.mem_map.mp member
                exact alone query rfl row among other different
      | insert draft =>
          cases (answer : Except Constraint Nat) with
          | ok id => cases nothing
          | error constraint => exact stays db mirrors
      | update write => cases nothing
      | commit => cases nothing
      | rollback => cases nothing
      | _ => exact stays db mirrors
  | @inserted draft db pending journal =>
      have grows : after.writesOf pid = before.writesOf pid ++ [draft before.nextId] := by
        simp [writesOf, pending]
      obtain ⟨unchanged, keyed⟩ := allowed before.nextId
      have mirrors := shelved.mirrored pid
      cases new : (draft before.nextId).newSession with
      | none =>
          simp only [deskAfter, new]
          exact stays db (grows ▸ mirrors.spares ⟨new, unchanged⟩)
      | some row =>
          simp only [deskAfter, new]
          have key : row.id = before.nextId := keyed row new
          have next := counts.2 draft rfl
          have unheld : ∀ other, row.id ∉ (desks other).keys VoiceSession.id := by
            intro other held
            obtain ⟨copy, among, same⟩ := List.mem_map.mp held
            exact absurd (shelved.known other copy among) (by rw [same, key]; exact Nat.lt_irrefl _)
          have absent : row.id ∉ before.db.voiceSessions.map (·.id) := by
            intro there
            obtain ⟨stored, among, same⟩ := List.mem_map.mp there
            exact absurd (shelved.early stored among) (by rw [same, key]; exact Nat.lt_irrefl _)
          refine ⟨shelved.update (by rw [db]) counts.1 others (grows ▸ mirrors.drafts new)
            (sits.draft (unheld pid) absent)
            (fun copy member => ?_) fun id member other different => ?_,
            db ▸ .refl _⟩
          · rcases List.mem_append.mp member with old | added
            · exact (shelved.known pid copy old).trans_le counts.1
            · rw [List.mem_singleton.mp added, next]
              exact key ▸ Nat.lt_succ_self _
          · rw [Overlay.keys_draft] at member
            rcases List.mem_append.mp member with old | added
            · exact shelved.apart pid other different id old
            · rw [List.mem_singleton.mp added]
              exact unheld other
  | @updated write db pending journal =>
      have grows : after.writesOf pid = before.writesOf pid ++
        [write] := by simp [writesOf, pending]
      obtain ⟨new, held⟩ := allowed
      have mirrors := shelved.mirrored pid
      cases changed : write.changedSession with
      | none =>
          simp only [deskAfter, changed]
          exact stays db (grows ▸ mirrors.spares ⟨new, changed⟩)
      | some target =>
          obtain ⟨id, change⟩ := target
          simp only [deskAfter, changed]
          have keeps : ∀ row : VoiceSession, (change.apply row).id = row.id := fun _ => rfl
          have mine := held id change changed
          refine ⟨shelved.update (by rw [db]) counts.1 others (grows ▸ mirrors.changes changed mine)
            (sits.change keeps) (fun copy member => ?_) fun other member stranger different => ?_,
            db ▸ .refl _⟩
          · obtain ⟨old, among, -, now⟩ := Overlay.mem_change member
            have key : copy.now.id = old.now.id := by
              rw [now]
              split <;> rfl
            exact key ▸ (shelved.known pid old among).trans_le counts.1
          · rw [Overlay.keys_change keeps] at member
            exact shelved.apart pid stranger different other member
  | committed world => exact world ▸ shelved.commit allowed
  | rolledBack world =>
      refine ⟨world ▸ shelved.release Overlay.clean_dropped sits.dropped fun id member => ?_,
        world ▸ .refl _⟩
      obtain ⟨copy, among, rfl⟩ := List.mem_map.mp member
      obtain ⟨old, there, found⟩ := List.mem_filterMap.mp among
      obtain ⟨row, was, rfl⟩ := Option.map_eq_some_iff.mp found
      exact List.mem_map.mpr ⟨old, there, (sits.keyed old there row was).symm⟩

end Shelved

/-! ## Runs -/

/-- What the requests have in hand. -/
abbrev desksOf (cfg : IvrSettings) (config : LineConfig) : Pid → Desk :=
  config.stages (lineWatch cfg) []

/-- Every request keeps to its monitor, and has in hand what it sees of the sessions. -/
structure Lines (cfg : IvrSettings) (config : LineConfig) : Prop where
  watched : config.Watched (lineWatch cfg)
  shelved : Shelved cfg.ivrMaxSlots config.world (desksOf cfg config)

/-- The rows in hand, as they are and as they were committed, are among some sessions. -/
def Within (ids : List Nat) (desk : Desk) : Prop :=
  ∀ copy ∈ desk, copy.now.id ∈ ids ∧ ∀ old, copy.committed = some old → old.id ∈ ids

/-- The rows in hand have been read or added. -/
theorem Within.after {ids : List Nat} {desk : Desk} (within : Within ids desk) (event : Event Sql) :
    Within (ids ++ sessionIds [event]) (deskAfter desk event) := by
  have wider : ∀ {id}, id ∈ ids → id ∈ ids ++ sessionIds [event] := List.mem_append_left _
  have stays : Within (ids ++ sessionIds [event]) desk := fun copy member =>
    ⟨wider (within copy member).1, fun old was => wider ((within copy member).2 old was)⟩
  obtain ⟨stmt, answer⟩ := event
  cases stmt with
  | select query =>
      rw [deskAfter]
      split
      · intro copy member
        obtain ⟨row, among, rfl⟩ := List.mem_map.mp member
        have listed : row.id ∈ sessionIds [⟨.select query, answer⟩] := by
          rw [sessionIds, List.flatMap_singleton]
          exact List.mem_map_of_mem among
        refine ⟨List.mem_append_right _ listed, fun old was => ?_⟩
        cases was
        exact List.mem_append_right _ listed
      · exact stays
  | insert draft =>
      cases (answer : Except Constraint Nat) with
      | error constraint => exact stays
      | ok key =>
          rw [deskAfter]
          split
          · next row new =>
              intro copy member
              rcases List.mem_append.mp member with before | added
              · exact stays copy before
              · rw [List.mem_singleton.mp added]
                refine ⟨List.mem_append_right _ ?_, fun old was => by cases was⟩
                rw [sessionIds, List.flatMap_singleton]
                simp [new]
          · exact stays
  | update write =>
      rw [deskAfter]
      split
      · intro copy member
        obtain ⟨before, among, was, now⟩ := Overlay.mem_change member
        have key : copy.now.id = before.now.id := by
          rw [now]
          split <;> rfl
        rw [key, was]
        exact stays before among
      · exact stays
  | commit =>
      intro copy member
      obtain ⟨before, among, rfl⟩ := List.mem_map.mp member
      refine ⟨(stays before among).1, fun old was => ?_⟩
      cases was
      exact (stays before among).1
  | rollback =>
      intro copy member
      obtain ⟨before, among, found⟩ := List.mem_filterMap.mp member
      obtain ⟨row, was, rfl⟩ := Option.map_eq_some_iff.mp found
      have there := (stays before among).2 row was
      refine ⟨there, fun old same => ?_⟩
      cases same
      exact there
  | _ => exact stays

/-- What a request has in hand, it has read or added. -/
theorem within_state (cfg : IvrSettings) (call : LineCall) (log : List (Event Sql)) :
    Within (sessionIds log) ((lineWatch cfg).state call log) := by
  induction log using List.reverseRecOn with
  | nil => exact fun _ member => (List.not_mem_nil member).elim
  | append_singleton log event ih =>
      have grows : sessionIds (log ++ [event]) = sessionIds log ++ sessionIds [event] :=
        List.flatMap_append
      rw [grows, Watch.state_snoc]
      cases call with
      | service call =>
          exact fun copy member => ⟨List.mem_append_left _ (ih copy member).1, fun old was =>
            List.mem_append_left _ ((ih copy member).2 old was)⟩
      | _ => exact ih.after event

/-- The other services have no sessions in hand. -/
theorem state_service (cfg : IvrSettings) (call : Call) (log : List (Event Sql)) :
    (lineWatch cfg).state (.service call) log = [] := by
  induction log using List.reverseRecOn with
  | nil => rfl
  | append_singleton log event ih =>
      rw [Watch.state_snoc]
      exact ih

/-- No other request has in hand what one reads while it is alone in the call. -/
theorem OneAtATime.alone {cfg : IvrSettings} {before : LineConfig} {pid : Pid}
    (one : OneAtATime before (.issue pid)) {call : LineCall} {query : Query}
    {next : query.Row → DbM LineReply} {log : List (Event Sql)}
    (running : before.running pid = some ⟨call, .call (.select query) next, log⟩) :
    ∀ row ∈ sessionsOf query (query.eval (before.world.view pid)), ∀ other, other ≠ pid →
      row.id ∉ (desksOf cfg before other).keys VoiceSession.id := by
  intro row among other different held
  obtain ⟨copy, member, same⟩ := List.mem_map.mp held
  cases runs : before.running other with
  | none =>
      rw [desksOf, Config.stages_idle runs] at member
      cases member
  | some process =>
      rw [desksOf, Config.stages_running runs] at member
      refine one pid call query next log rfl running row among other process different runs ?_
      exact same ▸ (within_state cfg process.call process.log copy member).1

namespace Lines

variable {cfg : IvrSettings} {before after config : LineConfig} {action : Action LineCall}

theorem initial {db : Db} {nextId : Nat} {clock : Instant} {redisTakes : Nat → Bool}
    (unique : (db.voiceSessions.map (·.id)).Nodup)
    (early : ∀ row ∈ db.voiceSessions, row.id < nextId)
    (sound : ∀ row ∈ db.voiceSessions, row.Sound cfg.ivrMaxSlots) :
    Lines cfg (.initial (.start db nextId clock redisTakes)) where
  watched := .initial _ _
  shelved :=
    { unique, early, sound
      mirrored := fun _ => .clean fun _ member => (List.not_mem_nil member).elim
      sits := fun _ => ⟨List.nodup_nil, fun _ member => (List.not_mem_nil member).elim,
        fun _ member => (List.not_mem_nil member).elim, fun _ member =>
          (List.not_mem_nil member).elim⟩
      known := fun _ _ member => (List.not_mem_nil member).elim
      apart := fun _ _ _ _ member => (List.not_mem_nil member).elim }

/-- The answer that a request gets is one that its monitor takes to be possible. -/
theorem possible (lines : Lines cfg before) {pid : Pid} {call : LineCall} {stmt : Stmt}
    {next : stmt.Answer → DbM LineReply} {log : List (Event Sql)} {answer : stmt.Answer}
    {world : World LineCall} (running : before.running pid = some ⟨call, .call stmt next, log⟩)
    (executed : execStmt pid call stmt before.world = some (answer, world)) :
    ((lineWatch cfg).monitor call).may ((lineWatch cfg).state call log) ⟨stmt, answer⟩ := by
  have truthful : ∀ query (read : query.Row), stmt = .select query →
      execStmt pid call (.select query) before.world = some (read, world) →
      ∃ db, Truthful cfg.ivrMaxSlots ((lineWatch cfg).state call log) query read db := by
    intro query read _ reads
    cases reads
    have here : desksOf cfg before pid = (lineWatch cfg).state call log :=
      Config.stages_running running
    exact ⟨_, here ▸ lines.shelved.truthful pid query⟩
  cases call with
  | service call => exact trivial
  | _ =>
      cases stmt with
      | select query => exact truthful query answer rfl executed
      | _ => exact trivial

/-- **One step.** -/
theorem step (lines : Lines cfg before) (one : OneAtATime before action)
    (taken : Step (lineMachine cfg) before action after) :
    Lines cfg after ∧ FollowOn before.world.db.voiceSessions after.world.db.voiceSessions := by
  have watched := lines.watched.step taken (performLine_along cfg)
    fun pid call stmt next log answer world _ running executed => lines.possible running executed
  suffices shelved : Shelved cfg.ivrMaxSlots after.world (desksOf cfg after) ∧
      FollowOn before.world.db.voiceSessions after.world.db.voiceSessions from
    ⟨⟨watched, shelved.1⟩, shelved.2⟩
  have staged : Staged (lineMachine cfg) (lineWatch cfg) [] before after action :=
    lines.watched.staged taken []
  cases staged with
  | start idle world stages =>
      rw [desksOf, stages, world]
      exact ⟨lines.shelved.enter _, .refl _⟩
  | @issue pid call stmt next log answer running allowed executed stages =>
      have here : desksOf cfg before pid = (lineWatch cfg).state call log :=
        Config.stages_running running
      rw [desksOf, stages]
      cases call with
      | service call =>
          rw [state_service] at here
          have kept := lines.shelved.spared allowed here executed
          change Shelved _ _ (Function.update (desksOf cfg before) pid (desksOf cfg before pid)) ∧ _
          rw [Function.update_eq_self]
          exact kept
      | _ =>
          refine lines.shelved.issued allowed (fun query same => ?_) executed
          subst same
          exact one.alone running
  | finish met world stages =>
      rw [desksOf, stages, world]
      exact ⟨lines.shelved.enter _, .refl _⟩
  | stop world stages =>
      rw [desksOf, stages, world]
      exact ⟨lines.shelved.enter _, .refl _⟩
  | ambient changed stages =>
      rw [desksOf, stages]
      obtain ⟨db, clock, outside, -, -, same, -, world⟩ := changed
      rw [world]
      refine ⟨?_, same ▸ .refl _⟩
      have shelved := lines.shelved
      exact ⟨same ▸ shelved.unique, fun row member => shelved.early row (same ▸ member),
        fun row member => shelved.sound row (same ▸ member), shelved.mirrored,
        fun pid => same ▸ shelved.sits pid, shelved.known, shelved.apart⟩

end Lines

/-! ## Sound sessions -/

/-- What the sessions have to be at the start of a run. -/
structure Db.CallsReady (maxSlots : Nat) (db : Db) (nextId : Nat) : Prop where
  unique : (db.voiceSessions.map (·.id)).Nodup
  early : ∀ row ∈ db.voiceSessions, row.id < nextId
  sound : ∀ row ∈ db.voiceSessions, row.Sound maxSlots

/-- A database before any request of the line. -/
abbrev lineStart (db : Db) (nextId : Nat) (clock : Instant)
    (redisTakes : Nat → Bool) : LineConfig :=
  .initial (World.start db nextId clock redisTakes)

section Theorems

variable {cfg : IvrSettings} {db : Db} {nextId : Nat} {clock : Instant} {redisTakes : Nat → Bool}
  {config : LineConfig}

theorem Lines.of_runs (ready : db.CallsReady cfg.ivrMaxSlots nextId)
    (runs : Runs (lineMachine cfg) OneAtATime (lineStart db nextId clock redisTakes) config) :
    Lines cfg config :=
  runs.invariant (.initial ready.unique ready.early ready.sound)
    fun _ _ _ lines one taken => (lines.step one taken).1

/-- **Every committed session is sound**, in every run in which no two requests are in one call
at a time: its counts are below their limits while the call goes on, it has the service, the
slots or the booking that its step needs, and it has a booking or a transfer exactly at the
step that says so. -/
theorem call_sessions_stay_sound (ready : db.CallsReady cfg.ivrMaxSlots nextId)
    (runs : Runs (lineMachine cfg) OneAtATime (lineStart db nextId clock redisTakes) config) :
    ∀ row ∈ config.world.db.voiceSessions, row.Sound cfg.ivrMaxSlots :=
  (Lines.of_runs ready runs).shelved.sound

end Theorems

/-! ## A call -/

/-- A request that runs while no other does is alone in its call. -/
theorem oneAtATime_of_alone {pid : Pid} {config : LineConfig} {action : Action LineCall}
    (alone : ∀ other, other ≠ pid → config.running other = none) (mine : action.by pid = true) :
    OneAtATime config action := by
  rintro actor call query next log rfl running row among other process different runs
  obtain rfl : actor = pid := beq_iff_eq.mp mine
  rw [alone other different] at runs
  cases runs

/-- The salon of the first Monday, with no call yet. -/
def quietLine : LineConfig := lineStart sampleMonday 10 0 fun _ => true

theorem sampleMonday_callsReady : sampleMonday.CallsReady phoneSettings.ivrMaxSlots 10 where
  unique := List.nodup_nil
  early _ member := (List.not_mem_nil member).elim
  sound _ member := (List.not_mem_nil member).elim

/-- A call comes in. -/
def callBegins : List (Action LineCall) :=
  .start 0 (.startSession 1 1 "+48100200300") :: List.replicate 7 (.issue 0) ++ [.finish 0]

/-- The caller wants to book. -/
def keyOne : List (Action LineCall) :=
  .start 0 (.twilioVoiceKeypress 10 "1") :: List.replicate 8 (.issue 0) ++ [.finish 0]

/-- The steps of the sessions. -/
def callSteps (config : LineConfig) : List IvrStep := config.world.db.voiceSessions.map (·.step)

theorem session_sound_after_first_key :
    ∃ config, Runs (lineMachine phoneSettings) OneAtATime quietLine config ∧
      callSteps config = [.serviceSelection] ∧
        ∀ row ∈ config.world.db.voiceSessions, row.Sound phoneSettings.ivrMaxSlots := by
  have steps : (quietLine.runActions (lineMachine phoneSettings) (callBegins ++ keyOne)).map
    callSteps =
      some [.serviceSelection] := by decide +kernel
  obtain ⟨config, ran, reached⟩ := Option.map_eq_some_iff.mp steps
  have mine : (callBegins ++ keyOne).all (·.by 0) = true := by decide
  have runs : Runs (lineMachine phoneSettings) OneAtATime quietLine config :=
    .of_single (fun _ _ => oneAtATime_of_alone) _ mine (fun _ _ => rfl) ran
  exact ⟨config, runs, reached, call_sessions_stay_sound sampleMonday_callsReady runs⟩

/-! ## Steps along the menu -/

section Theorems

variable {cfg : IvrSettings} {db : Db} {nextId : Nat} {clock : Instant} {redisTakes : Nat → Bool}
  {before after : LineConfig}

/-- What the commits of a run make of a session: the same call, on a path of the menu from its
step, and as it was once the call is over. -/
structure VoiceSession.Reaches (before after : VoiceSession) : Prop where
  sameCall : before.SameCall after
  path : Relation.ReflTransGen (fun step later => later ∈ IvrStep.next step) before.step after.step
  ended : ¬before.step.Live → after = before

theorem VoiceSession.Reaches.refl (row : VoiceSession) : row.Reaches row :=
  ⟨.refl row, .refl, fun _ => rfl⟩

theorem VoiceSession.Reaches.follows {row middle later : VoiceSession}
    (reaches : row.Reaches middle)
    (follows : middle.Follows later) : row.Reaches later where
  sameCall := reaches.sameCall.trans follows.sameCall
  path := by
    rcases follows.leads with same | leads
    · rw [same]
      exact reaches.path
    · exact reaches.path.tail leads
  ended last := by
    obtain rfl := reaches.ended last
    exact follows.ended last

theorem reaches_of_runs (lines : Lines cfg before)
    (runs : Runs (lineMachine cfg) OneAtATime before after) :
    Lines cfg after ∧ ∀ row ∈ before.world.db.voiceSessions,
      ∃ later ∈ after.world.db.voiceSessions, row.Reaches later := by
  induction runs with
  | refl => exact ⟨lines, fun row member => ⟨row, member, .refl row⟩⟩
  | tail _ last ih =>
      obtain ⟨action, one, taken⟩ := last
      obtain ⟨lines, reached⟩ := ih
      obtain ⟨lines, follows⟩ := lines.step one taken
      refine ⟨lines, fun row member => ?_⟩
      obtain ⟨middle, there, reaches⟩ := reached row member
      obtain ⟨later, here, next⟩ := follows middle there
      exact ⟨later, here, reaches.follows next⟩

/-- **Calls move along the menu.** From any point of a run on, a committed session stays there,
under its key alone, for the same call; its step changes on a path of the menu; and the session
of a call that is over never changes again. -/
theorem calls_move_along_the_menu (ready : db.CallsReady cfg.ivrMaxSlots nextId)
    (first : Runs (lineMachine cfg) OneAtATime (lineStart db nextId clock redisTakes) before)
    (second : Runs (lineMachine cfg) OneAtATime before after) :
    ∀ row ∈ before.world.db.voiceSessions, ∃ later ∈ after.world.db.voiceSessions,
      row.Reaches later ∧ ∀ other ∈ after.world.db.voiceSessions, other.id = row.id →
        other = later := by
  obtain ⟨lines, reached⟩ := reaches_of_runs (Lines.of_runs ready first) second
  intro row member
  obtain ⟨later, there, reaches⟩ := reached row member
  refine ⟨later, there, reaches, fun other among same => ?_⟩
  exact List.inj_on_of_nodup_map lines.shelved.unique among there
    (same.trans reaches.sameCall.id.symm)

end Theorems

theorem session_goes_on_after_first_key :
    ∃ before after, callSteps before = [.incoming] ∧ callSteps after = [.serviceSelection] ∧
      ∀ row ∈ before.world.db.voiceSessions, ∃ later ∈ after.world.db.voiceSessions,
        row.Reaches later ∧ ∀ other ∈ after.world.db.voiceSessions, other.id = row.id →
          other = later := by
  have steps : ((quietLine.runActions (lineMachine phoneSettings) callBegins).bind fun before =>
      (before.runActions (lineMachine phoneSettings) keyOne).map fun after =>
        (callSteps before, callSteps after)) = some
          ([.incoming], [.serviceSelection]) := by decide +kernel
  obtain ⟨before, ran, rest⟩ := Option.bind_eq_some_iff.mp steps
  obtain ⟨after, ranOn, reached⟩ := Option.map_eq_some_iff.mp rest
  have begins : callBegins.all (·.by 0) = true := by decide
  have chooses : keyOne.all (·.by 0) = true := by decide
  have first : Runs (lineMachine phoneSettings) OneAtATime quietLine before :=
    .of_single (fun _ _ => oneAtATime_of_alone) _ begins (fun _ _ => rfl) ran
  have idle : ∀ other, other ≠ 0 → before.running other = none :=
    Runs.idle_of_single _ begins (fun _ _ => rfl) ran
  have second : Runs (lineMachine phoneSettings) OneAtATime before after :=
    .of_single (fun _ _ => oneAtATime_of_alone) _ chooses idle ranOn
  rw [Prod.mk.injEq] at reached
  exact ⟨before, after, reached.1, reached.2,
    calls_move_along_the_menu sampleMonday_callsReady first second⟩

end AppointmentVoice
