import AppointmentVoice.Webhooks.Inbound

/-!
# Idempotency records and their renewal

A response is stored under its scope key.  The lookup takes a record that has expired for
absent, and the unique index on the key does not, so that the key can be stored again only
once the record has been cleaned up.

`storing` runs `store_response` on a clock that moves before each of its statements: the
call reads it once for the expiry of the new record, and once more for the lookup after a
refused `INSERT`.  `Renews` says what renewal means for a call, judged when it starts.

**Main result**: `expired_records_block_renewal` gives the exact condition, for every table,
key, response and course of the clock.  No record under the key may have expired by the
lookup, be it before the call or during it.  `expired_record_is_an_error` is a call that
meets an expired record, `record_expires_on_the_way` one whose record expires too early.
-/

set_option autoImplicit false

namespace AppointmentVoice.Webhooks

open Concurrency Formats.Json

/-! ## One call at a time -/

/-- A world, and how long each of the next statements keeps it waiting. -/
structure Timed where
  world : WebhookWorld
  pauses : Nat → Nat

/-- A statement takes effect once its pause is over. -/
def timedEffect (pid : Pid) (stmt : WebhookStmt) (timed : Timed) : stmt.Answer × Timed :=
  let result := effectOf pid stmt
    { timed.world with clock := timed.world.clock + timed.pauses 0 }
  (result.1, ⟨result.2, fun count => timed.pauses (count + 1)⟩)

/-- `store_response` by itself, on a clock that moves between its statements. -/
def storing (cfg : WebhookSettings) (pid : Pid) (scopeKey : String) (statusCode : Nat)
    (responseBody : Value) (pauses : Nat → Nat) (world : WebhookWorld) :
    Except WebhookError IdempotencyRecord × WebhookWorld :=
  let result := (storeResponse cfg scopeKey statusCode responseBody).run (timedEffect pid)
    ⟨world, pauses⟩
  (result.1, result.2.world)

/-- When a call reads the clock for the expiry of its record. -/
def stampedAt (pauses : Nat → Nat) (world : WebhookWorld) : Nat := world.clock + pauses 0

/-- When a call whose `INSERT` has been refused reads the clock for its lookup: after the
`INSERT`, the rollback and one more pause. -/
def lookedUpAt (pauses : Nat → Nat) (world : WebhookWorld) : Nat :=
  stampedAt pauses world + pauses 1 + pauses 2 + pauses 3

/-- What `get_cached_response` returns at a time. -/
def cachedAt (pid : Pid) (scopeKey : String) (clock : Nat) (world : WebhookWorld) :
    Except WebhookError (Option IdempotencyRecord) :=
  ((getCachedResponse scopeKey).run (effectOf pid) { world with clock }).1

/-- The world after `cleanup_expired_idempotency_records` has run at a time. -/
def cleanedAt (clock : Nat) (world : WebhookWorld) : WebhookWorld :=
  { world with sessions := ⟨world.db.cleanUp clock, world.sessions.pending⟩ }

/-- The record that a call stores. -/
def renewedRecord (cfg : WebhookSettings) (scopeKey : String) (statusCode : Nat)
    (responseBody : Value) (pauses : Nat → Nat) (world : WebhookWorld) : IdempotencyRecord :=
  ⟨world.nextId, scopeKey, statusCode, dumps responseBody,
    stampedAt pauses world + cfg.idempotencyTtlSeconds * second⟩

section

variable {cfg : WebhookSettings} {pid : Pid} {scopeKey : String} {statusCode : Nat}
  {responseBody : Value} {pauses : Nat → Nat} {world : WebhookWorld}

theorem stampedAt_le_lookedUpAt : stampedAt pauses world ≤ lookedUpAt pauses world := by
  unfold lookedUpAt
  omega

/-- The lookup comes after the start of the call. -/
theorem clock_le_lookedUpAt : world.clock ≤ lookedUpAt pauses world :=
  (Nat.le_add_right _ _).trans stampedAt_le_lookedUpAt

theorem cachedAt_eq (quiet : world.sessions.pending = []) (clock : Nat) :
    cachedAt pid scopeKey clock world =
      .ok (world.db.idempotencyRecords.find? fun row =>
        row.scopeKey == scopeKey && clock < row.expiresAt) := by
  obtain ⟨⟨db, pending⟩, nextId, _, locks, counters⟩ := world
  obtain rfl : pending = [] := quiet
  rfl

theorem run_now {α : Type} (next : Nat → WebhookM α) :
    (now >>= next).run (timedEffect pid) ⟨world, pauses⟩ =
      (next (stampedAt pauses world)).run (timedEffect pid)
        ⟨{ world with clock := stampedAt pauses world }, fun count => pauses (count + 1)⟩ := rfl

theorem run_insert {α : Type} {draft : Nat → WebhookWrite} {answer : Option Nat}
    {after : WebhookWorld} {next : Option Nat → WebhookM α}
    (executed : effectOf pid (.insert draft) { world with clock := stampedAt pauses world } =
      (answer, after)) :
    (insert draft >>= next).run (timedEffect pid) ⟨world, pauses⟩ =
      (next answer).run (timedEffect pid) ⟨after, fun count => pauses (count + 1)⟩ :=
  congrArg (fun result => (next result.1).run (timedEffect pid)
    ⟨result.2, fun count => pauses (count + 1)⟩) executed

theorem run_commit {α : Type} (next : WebhookM α) :
    (commit >>= fun _ => next).run (timedEffect pid) ⟨world, pauses⟩ =
      next.run (timedEffect pid) ⟨{ world with
        sessions := world.sessions.committed pid
        clock := stampedAt pauses world }, fun count => pauses (count + 1)⟩ := rfl

theorem run_select {α : Type} (query : WebhookQuery) (next : query.Row → WebhookM α) :
    (select query >>= next).run (timedEffect pid) ⟨world, pauses⟩ =
      (next (query.eval (world.sessions.view pid))).run (timedEffect pid)
        ⟨{ world with clock := stampedAt pauses world }, fun count => pauses (count + 1)⟩ := rfl

theorem run_rollback {α : Type} (next : WebhookM α) :
    (rollback >>= fun _ => next).run (timedEffect pid) ⟨world, pauses⟩ =
      next.run (timedEffect pid)
        ⟨{ world.release pid with clock := stampedAt pauses world },
          fun count => pauses (count + 1)⟩ := rfl

/-- The lookup of a record: a reading of the clock, and a `SELECT` a pause later. -/
theorem run_getCachedResponse {α : Type} (next : Option IdempotencyRecord → WebhookM α) :
    (getCachedResponse scopeKey >>= next).run (timedEffect pid) ⟨world, pauses⟩ =
      (next ((world.sessions.view pid).idempotencyRecords.find? fun row =>
          row.scopeKey == scopeKey && stampedAt pauses world < row.expiresAt)).run
        (timedEffect pid) ⟨{ world with clock := stampedAt pauses world + pauses 1 },
          fun count => pauses (count + 2)⟩ := rfl

theorem run_orRaise {α : Type} (error : WebhookError) (found : Option α) (timed : Timed) :
    (orRaise error found).run (timedEffect pid) timed =
      (found.elim (.error error) .ok, timed) := by
  cases found <;> rfl

theorem committed_single (db : WebhookDb) (pid : Pid) (write : WebhookWrite) :
    (⟨db, [(pid, write)]⟩ : Sessions WebhookDb WebhookWrite).committed pid =
      ⟨db.apply write, []⟩ := by
  simp [Sessions.committed, Sessions.release, Sessions.view, Sessions.writesOf]
  rfl

theorem find_last {rows : List IdempotencyRecord} {row : IdempotencyRecord} {nextId : Nat}
    (numbered : ∀ other ∈ rows, other.id < nextId) (last : row.id = nextId) :
    (rows ++ [row]).find? (·.id == nextId) = some row := by
  have older : rows.find? (·.id == nextId) = none := by
    rw [List.find?_eq_none]
    intro other member
    simpa using (numbered other member).ne
  rw [List.find?_append, older, Option.none_or, List.find?_cons_of_pos (by simpa using last)]

/-- The world once an `INSERT` has been refused and rolled back, and the lookup made. -/
def rolledBack (pauses : Nat → Nat) (world : WebhookWorld) : WebhookWorld :=
  { world with
    nextId := world.nextId + 1
    clock := lookedUpAt pauses world + pauses 4 }

/-- A record under the key is in the way of another: the call answers with its lookup. -/
theorem storing_refused (quiet : world.sessions.pending = [])
    (refused : world.db.idempotencyRecords.any
      (renewedRecord cfg scopeKey statusCode responseBody pauses world).collides = true) :
    storing cfg pid scopeKey statusCode responseBody pauses world =
      ((world.db.idempotencyRecords.find? fun row =>
          row.scopeKey == scopeKey && lookedUpAt pauses world < row.expiresAt).elim
        (.error .database) .ok, rolledBack pauses world) := by
  obtain ⟨⟨db, pending⟩, nextId, clock, locks, counters⟩ := world
  obtain rfl : pending = [] := quiet
  have insertion : effectOf pid (.insert fun id => .insertRecord ⟨id, scopeKey, statusCode,
      dumps responseBody, clock + pauses 0 + cfg.idempotencyTtlSeconds * second⟩)
      ⟨⟨db, []⟩, nextId, clock + pauses 0 + pauses 1, locks, counters⟩ =
      ((none : Option Nat),
        ⟨⟨db, []⟩, nextId + 1, clock + pauses 0 + pauses 1, locks, counters⟩) :=
    if_pos refused
  rw [storing, storeResponse, run_now, run_insert insertion]
  dsimp only
  rw [run_rollback, run_getCachedResponse, run_orRaise]
  rfl

/-- The world once the record has been stored and read back. -/
def renewedWorld (cfg : WebhookSettings) (scopeKey : String) (statusCode : Nat)
    (responseBody : Value) (pauses : Nat → Nat) (world : WebhookWorld) : WebhookWorld :=
  { world with
    nextId := world.nextId + 1
    clock := lookedUpAt pauses world
    sessions := ⟨world.db.apply (.insertRecord
      (renewedRecord cfg scopeKey statusCode responseBody pauses world)), world.sessions.pending⟩ }

theorem storing_accepted (quiet : world.sessions.pending = [])
    (numbered : ∀ row ∈ world.db.idempotencyRecords, row.id < world.nextId)
    (accepted : world.db.idempotencyRecords.any
      (renewedRecord cfg scopeKey statusCode responseBody pauses world).collides = false) :
    storing cfg pid scopeKey statusCode responseBody pauses world =
      (.ok (renewedRecord cfg scopeKey statusCode responseBody pauses world),
        renewedWorld cfg scopeKey statusCode responseBody pauses world) := by
  obtain ⟨⟨db, pending⟩, nextId, clock, locks, counters⟩ := world
  obtain rfl : pending = [] := quiet
  have insertion : effectOf pid (.insert fun id => .insertRecord ⟨id, scopeKey, statusCode,
      dumps responseBody, clock + pauses 0 + cfg.idempotencyTtlSeconds * second⟩)
      ⟨⟨db, []⟩, nextId, clock + pauses 0 + pauses 1, locks, counters⟩ =
      (some nextId, ⟨⟨db, [(pid, .insertRecord ⟨nextId, scopeKey, statusCode,
        dumps responseBody, clock + pauses 0 + cfg.idempotencyTtlSeconds * second⟩)]⟩, nextId + 1,
        clock + pauses 0 + pauses 1, locks, counters⟩) :=
    if_neg (Bool.eq_false_iff.mp accepted)
  rw [storing, storeResponse, run_now, run_insert insertion]
  dsimp only
  rw [run_commit, committed_single, run_select]
  have found : WebhookQuery.eval (.recordByPrimaryKey nextId)
      (Sessions.view (⟨db.apply (.insertRecord ⟨nextId, scopeKey, statusCode, dumps responseBody,
        clock + pauses 0 + cfg.idempotencyTtlSeconds * second⟩), []⟩ :
          Sessions WebhookDb WebhookWrite) pid) =
      some ⟨nextId, scopeKey, statusCode, dumps responseBody,
        clock + pauses 0 + cfg.idempotencyTtlSeconds * second⟩ :=
    find_last numbered rfl
  dsimp only
  rw [found, run_orRaise]
  rfl

/-! ## Renewal -/

/-- No transaction is open, the keys are unique, and the sequence is ahead of the rows. -/
structure Kept (world : WebhookWorld) : Prop where
  quiet : world.sessions.pending = []
  unique : (world.db.idempotencyRecords.map (·.scopeKey)).Nodup
  numbered : ∀ row ∈ world.db.idempotencyRecords, row.id < world.nextId

/-- Without an unexpired record the response is stored, and found until it expires; with one,
that one is returned and the tables stay as they are. -/
structure Renews (cfg : WebhookSettings) (pid : Pid) (scopeKey : String) (statusCode : Nat)
    (responseBody : Value) (pauses : Nat → Nat) (world : WebhookWorld) : Prop where
  absent : (∀ row ∈ world.db.idempotencyRecords, row.scopeKey = scopeKey →
      row.expiresAt ≤ world.clock) →
    ∃ record after,
      storing cfg pid scopeKey statusCode responseBody pauses world = (.ok record, after) ∧
      record.statusCode = statusCode ∧ record.responseBody = dumps responseBody ∧
      record.expiresAt = stampedAt pauses world + cfg.idempotencyTtlSeconds * second ∧
      ∀ reader cleaned later, cleaned ≤ later → later < record.expiresAt →
        cachedAt reader scopeKey later (cleanedAt cleaned after) = .ok (some record)
  present : ∀ row ∈ world.db.idempotencyRecords, row.scopeKey = scopeKey →
    world.clock < row.expiresAt →
    (storing cfg pid scopeKey statusCode responseBody pauses world).1 = .ok row ∧
      (storing cfg pid scopeKey statusCode responseBody pauses world).2.db = world.db

/-- There is one record under a key. -/
theorem Kept.same (kept : Kept world) {row other : IdempotencyRecord}
    (member : row ∈ world.db.idempotencyRecords) (memberToo : other ∈ world.db.idempotencyRecords)
    (keys : row.scopeKey = other.scopeKey) : row = other :=
  List.inj_on_of_nodup_map kept.unique member memberToo keys

theorem any_collides {row : IdempotencyRecord} (member : row ∈ world.db.idempotencyRecords)
    (key : row.scopeKey = scopeKey) :
    world.db.idempotencyRecords.any
      (renewedRecord cfg scopeKey statusCode responseBody pauses world).collides = true :=
  List.any_eq_true.mpr ⟨row, member, beq_iff_eq.mpr key.symm⟩

theorem none_collides (free : ∀ row ∈ world.db.idempotencyRecords, row.scopeKey ≠ scopeKey) :
    world.db.idempotencyRecords.any
      (renewedRecord cfg scopeKey statusCode responseBody pauses world).collides = false :=
  List.any_eq_false.mpr fun row member same => free row member (beq_iff_eq.mp same).symm

/-- A record that has expired by the lookup makes the call raise. -/
theorem Kept.storing_expired (kept : Kept world) {row : IdempotencyRecord}
    (member : row ∈ world.db.idempotencyRecords) (key : row.scopeKey = scopeKey)
    (expired : row.expiresAt ≤ lookedUpAt pauses world) :
    storing cfg pid scopeKey statusCode responseBody pauses world =
      (.error .database, rolledBack pauses world) := by
  have unseen : (world.db.idempotencyRecords.find? fun row =>
      row.scopeKey == scopeKey && lookedUpAt pauses world < row.expiresAt) = none := by
    rw [List.find?_eq_none]
    intro other memberToo found
    rw [Bool.and_eq_true, beq_iff_eq, decide_eq_true_eq] at found
    obtain rfl := kept.same memberToo member (found.1.trans key.symm)
    exact absurd found.2 (not_lt.mpr expired)
  rw [storing_refused kept.quiet (any_collides member key), unseen]
  rfl

/-- A record that is still good at the lookup is returned. -/
theorem Kept.storing_unexpired (kept : Kept world) {row : IdempotencyRecord}
    (member : row ∈ world.db.idempotencyRecords) (key : row.scopeKey = scopeKey)
    (unexpired : lookedUpAt pauses world < row.expiresAt) :
    storing cfg pid scopeKey statusCode responseBody pauses world =
      (.ok row, rolledBack pauses world) := by
  have seen : (world.db.idempotencyRecords.find? fun row =>
      row.scopeKey == scopeKey && lookedUpAt pauses world < row.expiresAt) = some row := by
    cases found : world.db.idempotencyRecords.find? fun row =>
        row.scopeKey == scopeKey && lookedUpAt pauses world < row.expiresAt with
    | none =>
        refine absurd ?_ (List.find?_eq_none.mp found row member)
        rw [Bool.and_eq_true, beq_iff_eq, decide_eq_true_eq]
        exact ⟨key, unexpired⟩
    | some other =>
        have fits := List.find?_some found
        rw [Bool.and_eq_true, beq_iff_eq] at fits
        rw [kept.same (List.mem_of_find?_eq_some found) member (fits.1.trans key.symm)]
  rw [storing_refused kept.quiet (any_collides member key), seen]
  rfl

/-- What has been stored is found until it expires, also after a cleanup. -/
theorem cached_after_storing (quiet : world.sessions.pending = [])
    (free : ∀ row ∈ world.db.idempotencyRecords, row.scopeKey ≠ scopeKey) {cleaned later : Nat}
    (reader : Pid) (before : cleaned ≤ later)
    (alive : later < stampedAt pauses world + cfg.idempotencyTtlSeconds * second) :
    cachedAt reader scopeKey later
        (cleanedAt cleaned (renewedWorld cfg scopeKey statusCode responseBody pauses world)) =
      .ok (some (renewedRecord cfg scopeKey statusCode responseBody pauses world)) := by
  have open_none : (cleanedAt cleaned (renewedWorld cfg scopeKey statusCode responseBody
      pauses world)).sessions.pending = [] := quiet
  rw [cachedAt_eq open_none]
  refine congrArg Except.ok ?_
  change List.find? _ (List.filter _ (world.db.idempotencyRecords ++
    [renewedRecord cfg scopeKey statusCode responseBody pauses world])) = _
  have older : (world.db.idempotencyRecords.filter fun row =>
      decide (cleaned ≤ row.expiresAt)).find? (fun row =>
        row.scopeKey == scopeKey && later < row.expiresAt) = none := by
    rw [List.find?_eq_none]
    intro row member found
    rw [Bool.and_eq_true, beq_iff_eq] at found
    exact free row (List.mem_of_mem_filter member) found.1
  rw [List.filter_append, List.find?_append, older, Option.none_or, List.filter_cons_of_pos,
    List.find?_cons_of_pos]
  · rw [Bool.and_eq_true, beq_iff_eq, decide_eq_true_eq]
    exact ⟨rfl, alive⟩
  · rw [decide_eq_true_eq]
    exact before.trans alive.le

theorem Kept.rolledBack (kept : Kept world) : Kept (rolledBack pauses world) where
  quiet := kept.quiet
  unique := kept.unique
  numbered row member := Nat.lt_succ_of_lt (kept.numbered row member)

theorem Kept.renewed (kept : Kept world)
    (free : ∀ row ∈ world.db.idempotencyRecords, row.scopeKey ≠ scopeKey) :
    Kept (renewedWorld cfg scopeKey statusCode responseBody pauses world) where
  quiet := kept.quiet
  unique := by
    change ((world.db.idempotencyRecords ++
      [renewedRecord cfg scopeKey statusCode responseBody pauses world]).map (·.scopeKey)).Nodup
    rw [List.map_append, List.nodup_append]
    refine ⟨kept.unique, List.nodup_singleton _, ?_⟩
    intro key older other last
    obtain ⟨row, member, rfl⟩ := List.mem_map.mp older
    rw [List.mem_singleton.mp last]
    exact free row member
  numbered row member := by
    rcases List.mem_append.mp member with old | last
    · exact Nat.lt_succ_of_lt (kept.numbered row old)
    · rw [List.mem_singleton.mp last]
      exact Nat.lt_succ_self world.nextId

end

/-- A call renews the record of its key exactly if no record that is stored under it has
expired when the call would look it up, and the keys stay unique whatever happens. -/
theorem expired_records_block_renewal (cfg : WebhookSettings) (pid : Pid) (scopeKey : String)
    (statusCode : Nat) (responseBody : Value) (pauses : Nat → Nat) {world : WebhookWorld}
    (kept : Kept world) :
    (Renews cfg pid scopeKey statusCode responseBody pauses world ↔
        ∀ row ∈ world.db.idempotencyRecords, row.scopeKey = scopeKey →
          lookedUpAt pauses world < row.expiresAt) ∧
      Kept (storing cfg pid scopeKey statusCode responseBody pauses world).2 := by
  by_cases taken : ∃ row ∈ world.db.idempotencyRecords, row.scopeKey = scopeKey
  · obtain ⟨row, member, key⟩ := taken
    have only : ∀ other ∈ world.db.idempotencyRecords, other.scopeKey = scopeKey → other = row :=
      fun other memberToo keyToo => kept.same memberToo member (keyToo.trans key.symm)
    rcases lt_or_ge (lookedUpAt pauses world) row.expiresAt with unexpired | expired
    · have stored : storing cfg pid scopeKey statusCode responseBody pauses world = _ :=
        kept.storing_unexpired member key unexpired
      rw [stored]
      refine ⟨iff_of_true ⟨fun absent => ?_, fun other memberToo keyToo _ => ?_⟩ ?_,
        kept.rolledBack⟩
      · have started := clock_le_lookedUpAt.trans_lt unexpired
        exact absurd (absent row member key) (not_le.mpr started)
      · rw [only other memberToo keyToo, stored]
        exact ⟨rfl, rfl⟩
      · intro other memberToo keyToo
        rw [only other memberToo keyToo]
        exact unexpired
    · have raises : storing cfg pid scopeKey statusCode responseBody pauses world = _ :=
        kept.storing_expired member key expired
      rw [raises]
      refine ⟨iff_of_false (fun renews => ?_) fun alive => ?_, kept.rolledBack⟩
      · -- The record may have expired before the call, or on the way to the lookup.
        rcases lt_or_ge world.clock row.expiresAt with unexpired | before
        · have returned := (renews.present row member key unexpired).1
          rw [raises] at returned
          cases returned
        · obtain ⟨record, after, stored, -⟩ := renews.absent fun other memberToo keyToo => by
            rw [only other memberToo keyToo]
            exact before
          cases raises.symm.trans stored
      · exact absurd (alive row member key) (not_lt.mpr expired)
  · have free : ∀ row ∈ world.db.idempotencyRecords, row.scopeKey ≠ scopeKey :=
      fun row member key => taken ⟨row, member, key⟩
    have stored : storing cfg pid scopeKey statusCode responseBody pauses world = _ :=
      storing_accepted kept.quiet kept.numbered (none_collides free)
    rw [stored]
    refine ⟨iff_of_true ⟨fun _ => ?_, fun row member key _ => absurd key (free row member)⟩ ?_,
      kept.renewed free⟩
    · exact ⟨_, _, stored, rfl, rfl, rfl, fun reader cleaned later before alive =>
        cached_after_storing kept.quiet free reader before alive⟩
    · exact fun row member key => absurd key (free row member)

/-- Records are kept for a day. -/
def dayLongSettings : WebhookSettings where
  webhookMaxBodyBytes := 1048576
  webhookIngressRateLimitLimit := 60
  webhookIngressRateLimitWindowSeconds := 60
  webhookProviderRateLimitLimit := 60
  webhookProviderRateLimitWindowSeconds := 60
  idempotencyTtlSeconds := 86400
  idempotencyProcessingLockTtlSeconds := 60
  sha256 text := text
  hashPayload _ := ""
  lower text := text
  verifySignature _ _ _ _ := none
  modelValidateJson _ := none

/-- One record, which expires at a time. -/
def oneRecord (clock expiresAt : Nat) : WebhookWorld :=
  .start ⟨[], [⟨1, "key", 200, "null", expiresAt⟩]⟩ 2 clock

theorem oneRecord_kept (clock expiresAt : Nat) : Kept (oneRecord clock expiresAt) where
  quiet := rfl
  unique := List.nodup_singleton _
  numbered row member := by
    rw [List.mem_singleton.mp member]
    exact Nat.lt_succ_self 1

/-- A record that is still good when it is looked up, three microseconds into the call, is
returned. -/
theorem good_record_is_returned :
    Renews dayLongSettings 0 "key" 200 .null (fun _ => 1) (oneRecord 4 9) ∧
      Kept (storing dayLongSettings 0 "key" 200 .null (fun _ => 1) (oneRecord 4 9)).2 := by
  have settled := expired_records_block_renewal dayLongSettings 0 "key" 200 .null (fun _ => 1)
    (oneRecord_kept 4 9)
  refine ⟨settled.1.mpr fun row member _ => ?_, settled.2⟩
  rw [List.mem_singleton.mp member]
  decide

/-- A record that has expired makes the next call with its key raise. -/
theorem expired_record_is_an_error :
    storing dayLongSettings 0 "key" 200 .null (fun _ => 1) (oneRecord 9 5) =
        (.error .database, rolledBack (fun _ => 1) (oneRecord 9 5)) ∧
      cachedAt 0 "key" 9 (oneRecord 9 5) = .ok none ∧
      ¬ Renews dayLongSettings 0 "key" 200 .null (fun _ => 1) (oneRecord 9 5) := by
  have raises : storing dayLongSettings 0 "key" 200 .null (fun _ => 1) (oneRecord 9 5) =
      (.error .database, rolledBack (fun _ => 1) (oneRecord 9 5)) :=
    (oneRecord_kept 9 5).storing_expired (List.mem_singleton_self _) rfl (by decide)
  refine ⟨raises, by decide +kernel, fun renews => ?_⟩
  obtain ⟨record, after, stored, -⟩ := renews.absent fun row member _ => by
    rw [List.mem_singleton.mp member]
    decide
  cases raises.symm.trans stored

/-- A record that is good when the call starts, and expires before it is looked up, makes the
call raise as well. -/
theorem record_expires_on_the_way :
    storing dayLongSettings 0 "key" 200 .null (fun _ => 1) (oneRecord 5 7) =
      (.error .database, rolledBack (fun _ => 1) (oneRecord 5 7)) :=
  (oneRecord_kept 5 7).storing_expired (List.mem_singleton_self _) rfl (by decide)

end AppointmentVoice.Webhooks
