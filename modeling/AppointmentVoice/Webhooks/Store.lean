import AppointmentVoice.Concurrency.UniqueIndex

/-!
# Webhook events and idempotency records

The two tables behind the inbound webhook, the statements that its functions send to
them under `READ COMMITTED`, and the keys that they set in Redis.  An event is unique by
its provider and its number, a record by its scope key.  The clock counts microseconds;
a Redis key lives for exactly its time to live.
-/

set_option autoImplicit false

namespace AppointmentVoice.Webhooks

open Concurrency

/-! ## Rows -/

/-- A row of `webhook_events`; provider and event id are unique together. -/
structure WebhookEvent where
  id : Nat
  provider : String
  eventId : String
  payloadHash : String
  deriving DecidableEq, Repr

/-- A row of `idempotency_records`; the scope key is unique. -/
structure IdempotencyRecord where
  id : Nat
  scopeKey : String
  statusCode : Nat
  responseBody : String
  expiresAt : Nat
  deriving DecidableEq, Repr

/-- The two tables of the webhooks. -/
structure WebhookDb where
  webhookEvents : List WebhookEvent
  idempotencyRecords : List IdempotencyRecord
  deriving DecidableEq, Repr

/-- The INSERTs that a transaction holds until its commit. -/
inductive WebhookWrite where
  | insertEvent (row : WebhookEvent)
  | insertRecord (row : IdempotencyRecord)
  deriving DecidableEq, Repr

/-- `uq_webhook_events_provider_event_id`. -/
def WebhookEvent.collides (row other : WebhookEvent) : Bool :=
  row.provider == other.provider && row.eventId == other.eventId

theorem WebhookEvent.collides_comm (row other : WebhookEvent) :
    row.collides other = other.collides row := by
  rw [collides, collides, BEq.comm (a := row.provider), BEq.comm (a := row.eventId)]

/-- The unique index on `scope_key`. -/
def IdempotencyRecord.collides (row other : IdempotencyRecord) : Bool :=
  row.scopeKey == other.scopeKey

theorem IdempotencyRecord.collides_comm (row other : IdempotencyRecord) :
    row.collides other = other.collides row := BEq.comm

namespace WebhookDb

/-- The tables after one INSERT. -/
def apply (db : WebhookDb) : WebhookWrite → WebhookDb
  | .insertEvent row => { db with webhookEvents := db.webhookEvents ++ [row] }
  | .insertRecord row => { db with idempotencyRecords := db.idempotencyRecords ++ [row] }

/-- The write breaks a unique index. -/
def refuses (db : WebhookDb) : WebhookWrite → Bool
  | .insertEvent row => db.webhookEvents.any row.collides
  | .insertRecord row => db.idempotencyRecords.any row.collides

/-- `cleanup_expired_idempotency_records`. -/
def cleanUp (db : WebhookDb) (now : Nat) : WebhookDb :=
  { db with idempotencyRecords := db.idempotencyRecords.filter fun row => now ≤ row.expiresAt }

end WebhookDb

/-- Two writes that a unique index keeps apart. -/
def WebhookWrite.waitsFor : WebhookWrite → WebhookWrite → Bool
  | .insertEvent row, .insertEvent other => row.collides other
  | .insertRecord row, .insertRecord other => row.collides other
  | _, _ => false

instance : Storage WebhookDb WebhookWrite where
  apply := WebhookDb.apply
  waitsFor := WebhookWrite.waitsFor

/-! ## Statements -/

/-- The SELECTs of the webhook and idempotency services. -/
inductive WebhookQuery where
  | cachedRecord (scopeKey : String) (now : Nat)
  | recordByPrimaryKey (id : Nat)
  | eventByPrimaryKey (id : Nat)
  deriving DecidableEq, Repr

namespace WebhookQuery

/-- What a SELECT comes back with. -/
abbrev Row : WebhookQuery → Type
  | .cachedRecord _ _ => Option IdempotencyRecord
  | .recordByPrimaryKey _ => Option IdempotencyRecord
  | .eventByPrimaryKey _ => Option WebhookEvent

/-- The row that a SELECT finds; a record that has expired is not found under its key. -/
def eval : (query : WebhookQuery) → WebhookDb → query.Row
  | .cachedRecord scopeKey now, db =>
      db.idempotencyRecords.find? fun row => row.scopeKey == scopeKey && now < row.expiresAt
  | .recordByPrimaryKey id, db => db.idempotencyRecords.find? (·.id == id)
  | .eventByPrimaryKey id, db => db.webhookEvents.find? (·.id == id)

end WebhookQuery

/-- Reading and inserting rows, reading the clock, and the keys in Redis: locks, and the
counters of the rate limits. -/
inductive WebhookStmt where
  | select (query : WebhookQuery)
  | insert (draft : Nat → WebhookWrite)
  | commit
  | rollback
  | now
  | setNx (key : String) (ttl : Nat)
  | delete (key : String)
  | incr (key : String)
  | expire (key : String) (ttl : Nat)

/-- `insert` is refused by an index; `setNx` answers whether the key was set, `incr` the
new count. -/
def WebhookStmt.Answer : WebhookStmt → Type
  | .select query => query.Row
  | .insert _ => Option Nat
  | .commit => Unit
  | .rollback => Unit
  | .now => Nat
  | .setNx _ _ => Bool
  | .delete _ => Unit
  | .incr _ => Nat
  | .expire _ _ => Unit

/-- The statements, Redis commands and readings of the clock, with their answers. -/
abbrev WebhookSql : Signature := ⟨WebhookStmt, WebhookStmt.Answer⟩

/-! ## The world -/

/-- Microseconds in a second. -/
def second : Nat := 1000000

/-- A counter in Redis; without a time to live it stays. -/
structure Counter where
  count : Nat
  expiry : Option Nat
  deriving DecidableEq, Repr

/-- What the deliveries share: the tables with what each session has pending, the clock, and the
processing locks and rate-limit counters in Redis. -/
structure WebhookWorld where
  sessions : Sessions WebhookDb WebhookWrite
  nextId : Nat
  clock : Nat
  locks : String → Option Nat
  counters : String → Option Counter

namespace WebhookWorld

/-- The committed tables. -/
abbrev db (world : WebhookWorld) : WebhookDb := world.sessions.db

/-- The world before any delivery. -/
def start (db : WebhookDb) (nextId clock : Nat) : WebhookWorld :=
  ⟨⟨db, []⟩, nextId, clock, fun _ => none, fun _ => none⟩

/-- The key of a lock is there. -/
def isLocked (world : WebhookWorld) (key : String) : Bool :=
  match world.locks key with
  | some expiry => world.clock < expiry
  | none => false

/-- The counter under a key, as long as it lives. -/
def counter (world : WebhookWorld) (key : String) : Option Counter :=
  (world.counters key).filter fun counter =>
    match counter.expiry with
    | some expiry => world.clock < expiry
    | none => true

/-- A session ends, and what it has not committed is gone. -/
def release (world : WebhookWorld) (pid : Pid) : WebhookWorld :=
  { world with sessions := world.sessions.release pid }

end WebhookWorld

/-- The statement has to wait for another session. -/
def WebhookWorld.blocks (world : WebhookWorld) (pid : Pid) : WebhookStmt → Bool
  | .insert draft => world.sessions.mustWait pid (draft world.nextId)
  | _ => false

/-- The effect of a statement that does not have to wait. -/
def effectOf (pid : Pid) : (stmt : WebhookStmt) → WebhookWorld → stmt.Answer × WebhookWorld
  | .select query, world => (query.eval (world.sessions.view pid), world)
  | .insert draft, world =>
      let write := draft world.nextId
      let advanced := { world with nextId := world.nextId + 1 }
      if (world.sessions.view pid).refuses write then (none, advanced)
      else (some world.nextId, { advanced with sessions := world.sessions.add pid write })
  | .commit, world => ((), { world with sessions := world.sessions.committed pid })
  | .rollback, world => ((), world.release pid)
  | .now, world => (world.clock, world)
  | .setNx key ttl, world =>
      if world.isLocked key then (false, world)
      else (true, { world with
        locks := Function.update world.locks key (some (world.clock + ttl * second)) })
  | .delete key, world => ((), { world with locks := Function.update world.locks key none })
  | .incr key, world =>
      let counted : Counter :=
        match world.counter key with
        | some counter => { counter with count := counter.count + 1 }
        | none => ⟨1, none⟩
      (counted.count, { world with counters := Function.update world.counters key (some counted) })
  | .expire key ttl, world =>
      let limited := (world.counter key).map fun counter =>
        { counter with expiry := some (world.clock + ttl * second) }
      ((), { world with counters := Function.update world.counters key limited })

/-- The effect of a statement of a session; `none` while it has to wait. -/
def execWebhook (pid : Pid) (stmt : WebhookStmt) (world : WebhookWorld) :
    Option (stmt.Answer × WebhookWorld) :=
  if world.blocks pid stmt then none else some (effectOf pid stmt world)

/-- What is executed had not to wait, and has its effect. -/
theorem execWebhook_some {pid : Pid} {stmt : WebhookStmt} {world : WebhookWorld}
    {result : stmt.Answer × WebhookWorld} (executed : execWebhook pid stmt world = some result) :
    world.blocks pid stmt = false ∧ effectOf pid stmt world = result := by
  unfold execWebhook at executed
  split at executed
  · cases executed
  · next free => exact ⟨Bool.not_eq_true _ ▸ free, Option.some.inj executed⟩

/-! ## The two tables -/

/-- The events, unique by provider and number. -/
def eventIndex : UniqueIndex WebhookDb WebhookWrite WebhookEvent where
  rows := WebhookDb.webhookEvents
  inserted
    | .insertEvent row => some row
    | .insertRecord _ => none
  id := WebhookEvent.id
  collides := WebhookEvent.collides
  comm := WebhookEvent.collides_comm
  rows_apply db write := by cases write <;> simp [Storage.apply, WebhookDb.apply]
  waits write other row otherRow inserts insertsToo collide := by
    cases write <;> cases other <;> cases inserts <;> cases insertsToo
    exact collide

/-- The records, unique by scope key. -/
def recordIndex : UniqueIndex WebhookDb WebhookWrite IdempotencyRecord where
  rows := WebhookDb.idempotencyRecords
  inserted
    | .insertEvent _ => none
    | .insertRecord row => some row
  id := IdempotencyRecord.id
  collides := IdempotencyRecord.collides
  comm := IdempotencyRecord.collides_comm
  rows_apply db write := by cases write <;> simp [Storage.apply, WebhookDb.apply]
  waits write other row otherRow inserts insertsToo collide := by
    cases write <;> cases other <;> cases inserts <;> cases insertsToo
    exact collide

end AppointmentVoice.Webhooks
